import Keyline.Toml.Lexeme

/-!
# The tables of a settings file

Tables come about in four ways: under a header, above a header, through a key with dots, and in braces. Where a table
came from decides who may add to it: a table in braces is complete, a header may come once, and a key with dots adds
only to tables that keys with dots have made.
-/

namespace Keyline.Toml

/-- Where a table came from. -/
inductive Origin where
  | header
  | aboveHeader
  | dots
  | braces
deriving DecidableEq, Repr

/-- What a key stands for. -/
inductive Tree where
  | str (s : String)
  | arr (items : List Tree)
  | table (origin : Origin) (entries : List (String × Tree))
deriving Repr

/-- The entries of a table. -/
abbrev Entries := List (String × Tree)

namespace Entries

/-- Puts an entry at the end, or in the place of the entry with its name. -/
def set (name : String) (t : Tree) : Entries → Entries
  | [] => [(name, t)]
  | e :: es => if e.1 = name then (name, t) :: es else e :: set name t es

/-- Gives a key a meaning; it must not have one yet. -/
def assign (t : Tree) : Key → Entries → Option Entries
  | [], _ => none
  | [name], es =>
    match es.lookup name with
    | none => some (set name t es)
    | some _ => none
  | name :: names, es =>
    match es.lookup name with
    | none => (assign t names []).map fun inner => set name (.table .dots inner) es
    | some (.table .dots inner) => (assign t names inner).map fun inner => set name (.table .dots inner) es
    | some _ => none

/-- Opens the table under a header. -/
def openTable : Key → Entries → Option Entries
  | [], _ => none
  | [name], es =>
    match es.lookup name with
    | none => some (set name (.table .header []) es)
    | some (.table .aboveHeader inner) => some (set name (.table .header inner) es)
    | some _ => none
  | name :: names, es =>
    match es.lookup name with
    | none => (openTable names []).map fun inner => set name (.table .aboveHeader inner) es
    | some (.table .braces _) => none
    | some (.table origin inner) => (openTable names inner).map fun inner => set name (.table origin inner) es
    | some _ => none

/-- Gives a key a meaning in the table under a header; no header means the outermost table. -/
def assignUnder (key : Key) (t : Tree) : Key → Entries → Option Entries
  | [], es => assign t key es
  | name :: names, es =>
    match es.lookup name with
    | some (.table origin inner) => (assignUnder key t names inner).map fun inner => set name (.table origin inner) es
    | _ => none

end Entries

end Keyline.Toml
