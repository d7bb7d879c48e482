import Keyline.Text.Encoding

/-!
# Properties of characters

A property of characters is a list of runs of code points, each with a value that its characters have. A run is written
as a word: `300-314:230` are the code points from U+0300 to U+0314 with the value `230`, `F900:8C48` is a single one,
and a slash in place of the hyphen means every second code point.
-/

namespace Keyline

variable {α : Type}

/-- Code points at equal distances, and the value of their characters. -/
structure Run (α : Type) where
  first : Nat
  last : Nat
  /-- The distance between neighbours. -/
  step : Nat
  value : α
deriving Repr

/-- Whether a character belongs to a run. -/
def Run.covers (r : Run α) (c : Char) : Bool :=
  r.first ≤ c.toNat && c.toNat ≤ r.last && (c.toNat - r.first) % r.step == 0

/-- The run that a word denotes; `read` reads its value. -/
def Run.ofWord? (read : Text → Option α) (word : Text) : Option (Run α) := do
  let bounds := word.takeWhile (· != ':')
  let value ← read (word.drop (bounds.length + 1))
  let first := bounds.takeWhile Char.isAlphanum
  let n ← digitsValue? 16 first
  match bounds.drop first.length with
  | [] => some ⟨n, n, 1, value⟩
  | mark :: last => some ⟨n, ← digitsValue? 16 last, if mark = '/' then 2 else 1, value⟩

/-- The runs that lines of words denote. -/
def runs (read : Text → Option α) (lines : List String) : List (Run α) :=
  lines.flatMap fun line => (line.toList.splitOn ' ').filterMap (Run.ofWord? read)

/-- Whether a character belongs to one of some runs. -/
def covers (rs : List (Run α)) (c : Char) : Bool := rs.any (·.covers c)

/-- The value that runs give to a character. -/
def valueIn? (rs : List (Run α)) (c : Char) : Option α := (rs.find? (·.covers c)).map Run.value

/-! ## Values -/

/-- The value of a run that has none. -/
def unvalued? (t : Text) : Option Unit := if t.isEmpty then some () else none

/-- The text of code points with dots between them. -/
def codePoints? (t : Text) : Option Text := (t.splitOn '.').mapM fun n => (digitsValue? 16 n).map Char.ofNat

end Keyline
