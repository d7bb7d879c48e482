import Keyline.Text.Encoding

/-!
# Words of a settings file

Strings, keys, comments and line breaks in the notation of TOML 1.1. A string is written on one line or over several
lines, with escapes or literally. Control characters other than the tab may not stand anywhere, and a carriage return
only in front of a line feed. Every reader returns what it read and the rest of the input.
-/

namespace Keyline.Toml

/-- Blanks within a line. -/
def isSpace (c : Char) : Bool := c = ' ' || c = '\t'

/-- Control characters that may stand neither in a string nor in a comment. -/
def isControl (c : Char) : Bool := (c.toNat < 0x20 && c != '\t') || c.toNat = 0x7F

/-- Skips the blanks within a line. -/
def skipSpaces (cs : Text) : Text := cs.dropWhile isSpace

/-- Skips blanks, line breaks and comments; `inComment` says whether a comment is open. -/
def skipTrivia (inComment : Bool) : Text → Text
  | [] => []
  | '\r' :: '\n' :: r => skipTrivia false r
  | c :: r =>
    if c = '\n' then skipTrivia false r
    else if inComment then if isControl c then c :: r else skipTrivia true r
    else if isSpace c then skipTrivia false r
    else if c = '#' then skipTrivia true r
    else c :: r

/-- Skips blanks, a comment and the line break behind them, if nothing else is left on the line. -/
def endLine? (cs : Text) : Option Text :=
  let r := skipSpaces cs
  let r := if r.head? == some '#' then r.dropWhile (!isControl ·) else r
  match r with
  | [] => some []
  | '\n' :: r => some r
  | '\r' :: '\n' :: r => some r
  | _ => none

/-- The character with a given code point, unless that is a surrogate or too large. -/
def scalar? (n : Nat) : Option Char := if n.isValidChar then some (Char.ofNat n) else none

/-- Reads the code point of an escape with `n` digits. -/
def readScalar (n : Nat) (cs : Text) : Option (Char × Text) := do
  let (code, r) ← readHex n cs
  some (← scalar? code, r)

/-- Reads what follows a backslash. -/
def readEscape : Text → Option (Char × Text)
  | '"' :: r => some ('"', r)
  | '\\' :: r => some ('\\', r)
  | 'b' :: r => some ('\x08', r)
  | 'e' :: r => some ('\x1b', r)
  | 'f' :: r => some ('\x0c', r)
  | 'n' :: r => some ('\n', r)
  | 'r' :: r => some ('\r', r)
  | 't' :: r => some ('\t', r)
  | 'x' :: r => readScalar 2 r
  | 'u' :: r => readScalar 4 r
  | 'U' :: r => readScalar 8 r
  | _ => none

/-- Reads a string on one line from behind its quote; `seen` holds its characters so far, the last one first. -/
def readBasic : Nat → Text → Text → Option (String × Text)
  | 0, _, _ => none
  | _, _, [] => none
  | fuel + 1, seen, c :: r =>
    if c = '"' then some (String.ofList seen.reverse, r)
    else if c = '\\' then do
      let (d, r) ← readEscape r
      readBasic fuel (d :: seen) r
    else if isControl c then none
    else readBasic fuel (c :: seen) r

/-- Reads a literal string on one line from behind its apostrophe. -/
def readLiteral (cs : Text) : Option (String × Text) :=
  let body := cs.takeWhile (· != '\x27')
  match cs.drop body.length with
  | [] => none
  | _ :: r => if body.any isControl then none else some (String.ofList body, r)

/-- Skips the line break right behind the opening of a string over several lines. -/
def skipFirstBreak : Text → Text
  | '\n' :: r => r
  | '\r' :: '\n' :: r => r
  | r => r

/-- Skips blanks and line breaks. -/
def skipBreaks : Text → Text
  | [] => []
  | '\r' :: '\n' :: r => skipBreaks r
  | c :: r => if isSpace c || c = '\n' then skipBreaks r else c :: r

/-- Skips what a backslash at the end of a line removes: the blanks behind it and all blanks and line breaks after. -/
def skipFolded? (cs : Text) : Option Text :=
  let r := skipSpaces cs
  if r.head? == some '\n' || r.take 2 == ['\r', '\n'] then some (skipBreaks r) else none

/-- The number of quotes at the start of a text; three to five of them close a string over several lines. -/
def countQuotes (quote : Char) (cs : Text) : Nat := (cs.takeWhile (· == quote)).length

/-- Reads a string over several lines from behind its opening; escapes count unless `literal` holds, and line breaks
stay as they are written. -/
def readMultiline (literal : Bool) (quote : Char) : Nat → Text → Text → Option (String × Text)
  | 0, _, _ => none
  | _, _, [] => none
  | fuel + 1, seen, c :: r =>
    if c = quote then
      let n := countQuotes quote (c :: r)
      if n < 3 then readMultiline literal quote fuel (c :: seen) r
      else if n ≤ 5 then
        some (String.ofList (List.replicate (n - 3) quote ++ seen).reverse, (c :: r).drop n)
      else none
    else if c = '\n' then readMultiline literal quote fuel ('\n' :: seen) r
    else if c = '\r' then
      match r with
      | '\n' :: r => readMultiline literal quote fuel ('\n' :: '\r' :: seen) r
      | _ => none
    else if c = '\\' && !literal then
      match skipFolded? r with
      | some r => readMultiline literal quote fuel seen r
      | none => do
        let (d, r) ← readEscape r
        readMultiline literal quote fuel (d :: seen) r
    else if isControl c then none
    else readMultiline literal quote fuel (c :: seen) r

/-- Reads a string, if the input starts with one. -/
def readString : Text → Option (String × Text)
  | '"' :: '"' :: '"' :: r => readMultiline false '"' (r.length + 1) [] (skipFirstBreak r)
  | '"' :: r => readBasic (r.length + 1) [] r
  | '\x27' :: '\x27' :: '\x27' :: r => readMultiline true '\x27' (r.length + 1) [] (skipFirstBreak r)
  | '\x27' :: r => readLiteral r
  | _ => none

/-- Characters of a key without quotes. -/
def isBare (c : Char) : Bool := c.isAlphanum || c = '_' || c = '-'

/-- Reads one name of a key. -/
def readName : Text → Option (String × Text)
  | '"' :: r => readBasic (r.length + 1) [] r
  | '\x27' :: r => readLiteral r
  | cs =>
    let name := cs.takeWhile isBare
    if name.isEmpty then none else some (String.ofList name, cs.drop name.length)

/-- A key: one name, or several with dots between them. -/
abbrev Key := List String

/-- Reads a key and the blanks behind it. -/
def readKey : Nat → Text → Option (Key × Text)
  | 0, _ => none
  | fuel + 1, cs => do
    let (name, r) ← readName cs
    match skipSpaces r with
    | '.' :: r => do
      let (names, r) ← readKey fuel (skipSpaces r)
      some (name :: names, r)
    | r => some ([name], r)

end Keyline.Toml
