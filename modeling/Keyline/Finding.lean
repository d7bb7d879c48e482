import Keyline.Alphabet

/-!
# Findings

A finding says what is wrong with a line and where. A span covers the columns from `start` up to, and without, `stop`;
a span whose `stop` does not lie after its `start` covers nothing.
-/

namespace Keyline

/-- What can be wrong with a line. -/
inductive Kind where
  | missingEqual
  | missing (side : Side)
  | invalid (side : Side)
deriving DecidableEq, Repr

namespace Kind

/-- All kinds, in the order in which a code is looked up. -/
def all : List Kind :=
  [.missingEqual, .missing .key, .missing .value, .invalid .key, .invalid .value]

/-- The stable name of a kind. -/
def code : Kind → String
  | missingEqual => "missingEqual"
  | missing .key => "missingKey"
  | missing .value => "missingValue"
  | invalid .key => "invalidKey"
  | invalid .value => "invalidValue"

/-- The kind with a given code. -/
def ofCode? (code : String) : Option Kind := all.find? (·.code == code)

/-- The sentence that tells a user what is wrong. -/
def message : Kind → String
  | missingEqual => "Invalid format. Expected 'key=value'. Missing '='."
  | missing .key => "Missing key."
  | missing .value => "Missing value."
  | invalid .key => "Key contains invalid characters."
  | invalid .value => "Value contains invalid characters."

/-- The title under which a repair of this kind is offered; a missing side is not repaired. -/
def repairTitle? : Kind → Option String
  | missingEqual => some "Add '='"
  | missing _ => none
  | invalid .key => some "Clean key (remove invalid characters)"
  | invalid .value => some "Clean value (remove invalid characters)"

/-- Codes tell the kinds apart. -/
theorem ofCode?_code (k : Kind) : ofCode? k.code = some k := by
  rcases k with _ | s | s
  · decide
  · cases s <;> decide
  · cases s <;> decide

end Kind

/-- Columns of one line, from `start` up to `stop`. -/
structure Span where
  line : Nat
  start : Nat
  stop : Nat
deriving DecidableEq, Repr

namespace Span

/-- The span of width zero at a column. -/
def point (line column : Nat) : Span := ⟨line, column, column⟩

/-- Whether a span covers no column. -/
def isEmpty (s : Span) : Bool := s.stop ≤ s.start

/-- The characters of a line that a span covers. -/
def slice (s : Span) (body : Text) : Text := (body.drop s.start).take (s.stop - s.start)

end Span

/-- A fault of a line. -/
structure Finding where
  kind : Kind
  span : Span
deriving DecidableEq, Repr

namespace Finding

/-- The index of the faulty line. -/
def line (f : Finding) : Nat := f.span.line

/-- The sentence that tells a user what is wrong. -/
def message (f : Finding) : String := f.kind.message

end Finding

end Keyline
