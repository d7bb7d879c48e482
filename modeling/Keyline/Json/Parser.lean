import Keyline.Json.Basic
import Keyline.Text.Encoding

/-!
# Reading JSON

The reader takes one value with blanks around it. Of two fields with one name the later one counts. Every function
returns what it read and the rest of the input; the fuel of the recursive ones is larger than the input they start
with, and every call consumes a character.
-/

namespace Keyline.Json

/-- Skips the blanks that may stand between tokens. -/
def skipBlanks (cs : Text) : Text := cs.dropWhile fun c => c = ' ' || c = '\n' || c = '\r' || c = '\t'

/-- Reads what follows `\u`: one code unit, or the two of a surrogate pair. -/
def readUnits (cs : Text) : Option (Char × Text) := do
  let (high, rest) ← readHex 4 cs
  if 0xD800 ≤ high ∧ high < 0xDC00 then
    match rest with
    | '\\' :: 'u' :: rest =>
      let (low, rest) ← readHex 4 rest
      if 0xDC00 ≤ low ∧ low < 0xE000 then
        some (Char.ofNat (0x10000 + (high - 0xD800) * 0x400 + (low - 0xDC00)), rest)
      else none
    | _ => none
  else if 0xDC00 ≤ high ∧ high < 0xE000 then none
  else some (Char.ofNat high, rest)

/-- Reads what follows a backslash. -/
def readEscape : Text → Option (Char × Text)
  | '"' :: r => some ('"', r)
  | '\\' :: r => some ('\\', r)
  | '/' :: r => some ('/', r)
  | 'b' :: r => some ('\x08', r)
  | 'f' :: r => some ('\x0c', r)
  | 'n' :: r => some ('\n', r)
  | 'r' :: r => some ('\r', r)
  | 't' :: r => some ('\t', r)
  | 'u' :: r => readUnits r
  | _ => none

/-- Reads a string from behind its first quote; `seen` holds its characters so far, the last one first. -/
def readString : Nat → Text → Text → Option (String × Text)
  | 0, _, _ => none
  | _, _, [] => none
  | fuel + 1, seen, c :: r =>
    if c = '"' then some (String.ofList seen.reverse, r)
    else if c = '\\' then do
      let (d, r) ← readEscape r
      readString fuel (d :: seen) r
    else if c.toNat < 0x20 then none
    else readString fuel (c :: seen) r

/-- Splits off the digits at the start of a text. -/
def readDigits (cs : Text) : Text × Text := (cs.takeWhile Char.isDigit, cs.dropWhile Char.isDigit)

/-- Reads the fraction of a number, if there is one. -/
def readFraction : Text → Option (Text × Text)
  | '.' :: r =>
    let (digits, r) := readDigits r
    if digits.isEmpty then none else some ('.' :: digits, r)
  | r => some ([], r)

/-- Reads the exponent of a number, if there is one. -/
def readExponent : Text → Option (Text × Text)
  | c :: r =>
    if c = 'e' || c = 'E' then
      let (sign, r) := match r with
        | '+' :: r => (['+'], r)
        | '-' :: r => (['-'], r)
        | r => ([], r)
      let (digits, r) := readDigits r
      if digits.isEmpty then none else some (c :: (sign ++ digits), r)
    else some ([], c :: r)
  | [] => some ([], [])

/-- The integer with the given sign and digits. Zero with a sign, and an integer that does not fit 64 bits, are kept as
decimals. -/
def signedInt (negative : Bool) (digits : Text) : Json :=
  let n : Nat := digits.foldl (fun n c => 10 * n + (c.toNat - '0'.toNat)) 0
  let fits := if negative then 0 < n && n ≤ 0x8000000000000000 else n ≤ 0xFFFFFFFFFFFFFFFF
  if fits then int (if negative then -n else n)
  else decimal (String.ofList ((if negative then ['-'] else []) ++ digits ++ ['.', '0']))

/-- Reads a number without its sign. -/
def readUnsigned (negative : Bool) (cs : Text) : Option (Json × Text) :=
  let (digits, r) := readDigits cs
  if digits.isEmpty || (digits.head? == some '0' && 1 < digits.length) then none
  else do
    let (fraction, r) ← readFraction r
    let (exponent, r) ← readExponent r
    if fraction.isEmpty && exponent.isEmpty then
      some (signedInt negative digits, r)
    else
      some (decimal (String.ofList ((if negative then ['-'] else []) ++ digits ++ fraction ++ exponent)), r)

mutual

/-- Reads a value, blanks in front of it included. -/
def readValue : Nat → Text → Option (Json × Text)
  | 0, _ => none
  | fuel + 1, cs =>
    match skipBlanks cs with
    | 'n' :: 'u' :: 'l' :: 'l' :: r => some (null, r)
    | 't' :: 'r' :: 'u' :: 'e' :: r => some (bool true, r)
    | 'f' :: 'a' :: 'l' :: 's' :: 'e' :: r => some (bool false, r)
    | '"' :: r => (readString (r.length + 1) [] r).map fun (s, r) => (str s, r)
    | '-' :: r => readUnsigned true r
    | '[' :: r =>
      match skipBlanks r with
      | ']' :: r => some (arr [], r)
      | r => readItems fuel [] r
    | '\x7b' :: r =>
      match skipBlanks r with
      | '\x7d' :: r => some (obj [], r)
      | r => readFields fuel [] r
    | r => readUnsigned false r

/-- Reads the items of a list up to its bracket; `seen` holds those so far, the last one first. -/
def readItems : Nat → List Json → Text → Option (Json × Text)
  | 0, _, _ => none
  | fuel + 1, seen, cs => do
    let (j, r) ← readValue fuel cs
    match skipBlanks r with
    | ',' :: r => readItems fuel (j :: seen) r
    | ']' :: r => some (arr (j :: seen).reverse, r)
    | _ => none

/-- Reads the fields of an object up to its brace; `seen` holds those so far. -/
def readFields : Nat → List (String × Json) → Text → Option (Json × Text)
  | 0, _, _ => none
  | fuel + 1, seen, cs =>
    match skipBlanks cs with
    | '"' :: r => do
      let (name, r) ← readString (r.length + 1) [] r
      match skipBlanks r with
      | ':' :: r => do
        let (j, r) ← readValue fuel r
        let seen := setField name j seen
        match skipBlanks r with
        | ',' :: r => readFields fuel seen r
        | '\x7d' :: r => some (obj seen, r)
        | _ => none
      | _ => none
    | _ => none

end

/-- The value that a text denotes. -/
def parse? (s : String) : Option Json :=
  let cs := s.toList
  match readValue (2 * cs.length + 2) cs with
  | some (j, r) => if (skipBlanks r).isEmpty then some j else none
  | none => none

end Keyline.Json
