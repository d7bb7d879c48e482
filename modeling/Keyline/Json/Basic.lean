/-!
# JSON values

A number that is not an integer of 64 bits is kept as it was written; it is never computed with. The fields of an object
keep their order, and a name occurs once.

A record is read from an object with named fields; it may also be written as the list of all its fields in order. An
optional field may be absent or null.
-/

namespace Keyline

/-- A JSON value. -/
inductive Json where
  | null
  | bool (b : Bool)
  | int (n : Int)
  | decimal (literal : String)
  | str (s : String)
  | arr (items : List Json)
  | obj (fields : List (String × Json))
deriving Repr, Inhabited

namespace Json

/-- Puts a field at the end, or in the place of the field with its name. -/
def setField (name : String) (value : Json) : List (String × Json) → List (String × Json)
  | [] => [(name, value)]
  | f :: fs => if f.1 = name then (name, value) :: fs else f :: setField name value fs

/-- The field of an object with a given name. -/
def get? (name : String) : Json → Option Json
  | obj fields => fields.lookup name
  | _ => none

/-- The truth value that a JSON value is. -/
def bool? : Json → Option Bool
  | bool b => some b
  | _ => none

/-- The string that a JSON value is. -/
def str? : Json → Option String
  | str s => some s
  | _ => none

/-- The integer from `lo` to `hi` that a JSON value is. -/
def intBetween? (lo hi : Int) : Json → Option Int
  | int n => if lo ≤ n ∧ n ≤ hi then some n else none
  | _ => none

/-- The signed 32-bit integer that a JSON value is. -/
def int32? (j : Json) : Option Int := j.intBetween? (-0x80000000) 0x7FFFFFFF

/-- The unsigned 32-bit integer that a JSON value is. -/
def uint32? (j : Json) : Option Nat := (j.intBetween? 0 0xFFFFFFFF).map Int.toNat

/-- A number. -/
def nat (n : Nat) : Json := int n

/-- A list of strings. -/
def strs (items : List String) : Json := arr (items.map str)

/-- An object of those fields that have a value. -/
def objOfSome (fields : List (String × Option Json)) : Json :=
  obj (fields.filterMap fun f => f.2.map (f.1, ·))

/-! ## Records -/

variable {α : Type}

/-- A record with the given fields as an object. -/
def record? (names : List String) : Json → Option Json
  | obj fields => some (obj fields)
  | arr items => if items.length = names.length then some (obj (names.zip items)) else none
  | _ => none

/-- A record that is written as an object only. -/
def object? : Json → Option Json
  | obj fields => some (obj fields)
  | _ => none

/-- A field that has to be there. -/
def required (j : Json) (name : String) (decode : Json → Option α) : Option α := (j.get? name).bind decode

/-- A field that may be absent or null. -/
def optional (j : Json) (name : String) (decode : Json → Option α) : Option (Option α) :=
  match j.get? name with
  | none => some none
  | some null => some none
  | some value => (decode value).map some

/-- A list of values of one type. -/
def list? (decode : Json → Option α) : Json → Option (List α)
  | arr items => items.mapM decode
  | _ => none

end Json

end Keyline
