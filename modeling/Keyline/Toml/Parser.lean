import Keyline.Toml.Tree

/-!
# Reading a settings file

The reader takes the part of TOML 1.1 that settings are written in: strings, lists and tables. Numbers, dates and truth
values are no settings, and neither are lists of tables under headers, so that a file with one of them is refused like
a file that is no TOML. A table in braces and a list may go over several lines, with line breaks and comments between
any two of their words, except within a key. Outside of them a key, its sign and the start of its value stand on one
line.

The fuel of the recursive readers is larger than the input they start with, and every call consumes a character.
-/

namespace Keyline.Toml

/-- Reads the sign between a key and its value, with what `skip` takes away on both sides of it. -/
def readEquals (skip : Text → Text) (cs : Text) : Option Text :=
  match skip cs with
  | '=' :: r => some (skip r)
  | _ => none

mutual

/-- Reads a value. -/
def readTree : Nat → Text → Option (Tree × Text)
  | 0, _ => none
  | fuel + 1, cs =>
    match cs with
    | '[' :: r =>
      match skipTrivia false r with
      | ']' :: r => some (.arr [], r)
      | r => readItems fuel [] r
    | '\x7b' :: r =>
      match skipTrivia false r with
      | '\x7d' :: r => some (.table .braces [], r)
      | r => readEntries fuel [] r
    | cs => (readString cs).map fun (s, r) => (.str s, r)

/-- Reads the items of a list up to its bracket; `seen` holds those so far, the last one first. -/
def readItems : Nat → List Tree → Text → Option (Tree × Text)
  | 0, _, _ => none
  | fuel + 1, seen, cs => do
    let (t, r) ← readTree fuel cs
    match skipTrivia false r with
    | ']' :: r => some (.arr (t :: seen).reverse, r)
    | ',' :: r =>
      match skipTrivia false r with
      | ']' :: r => some (.arr (t :: seen).reverse, r)
      | r => readItems fuel (t :: seen) r
    | _ => none

/-- Reads the entries of a table in braces up to its end; `seen` holds those so far. -/
def readEntries : Nat → Entries → Text → Option (Tree × Text)
  | 0, _, _ => none
  | fuel + 1, seen, cs => do
    let (key, r) ← readKey (cs.length + 1) cs
    let r ← readEquals (skipTrivia false) r
    let (t, r) ← readTree fuel r
    let seen ← seen.assign t key
    match skipTrivia false r with
    | '\x7d' :: r => some (.table .braces seen, r)
    | ',' :: r =>
      match skipTrivia false r with
      | '\x7d' :: r => some (.table .braces seen, r)
      | r => readEntries fuel seen r
    | _ => none

end

/-- A file that is being read: the entries so far and the header under which new ones come. -/
structure Reading where
  entries : Entries := []
  header : Key := []

/-- Reads a header from behind its bracket. -/
def readHeader (s : Reading) (cs : Text) : Option (Reading × Text) := do
  let (key, r) ← readKey (cs.length + 1) (skipSpaces cs)
  match r with
  | ']' :: r => some ({ entries := ← s.entries.openTable key, header := key }, r)
  | _ => none

/-- Reads a key and its value. -/
def readAssignment (s : Reading) (cs : Text) : Option (Reading × Text) := do
  let (key, r) ← readKey (cs.length + 1) cs
  let r ← readEquals skipSpaces r
  let (t, r) ← readTree (2 * r.length + 2) r
  some ({ s with entries := ← s.entries.assignUnder key t s.header }, r)

/-- Reads what stands on the lines of a file. -/
def readLines : Nat → Reading → Text → Option Entries
  | 0, _, _ => none
  | fuel + 1, s, cs =>
    match skipTrivia false cs with
    | [] => some s.entries
    | '[' :: r => do
      let (s, r) ← readHeader s r
      readLines fuel s (← endLine? r)
    | r => do
      let (s, r) ← readAssignment s r
      readLines fuel s (← endLine? r)

/-- Skips the mark that some editors put at the start of a file. -/
def skipMark : Text → Text
  | '\uFEFF' :: r => r
  | r => r

/-- The outermost table of a file. -/
def parse? (t : Text) : Option Entries :=
  let t := skipMark t
  readLines (t.length + 1) {} t

end Keyline.Toml
