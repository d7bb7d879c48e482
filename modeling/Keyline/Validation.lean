import Keyline.Finding
import Keyline.Line.Split

/-!
# Validation

Each line is judged on its own. A blank line has no fault, and neither has a record: one separator with a non-empty
text of key characters before it and a non-empty text of value characters after it. Blanks belong to both alphabets, so
a side of blanks only is enough for a record. Every other line has its two sides trimmed and judged one after the other.

Main statements: the sides of a line are the parts around its first separator (`sides?_eq_some_iff`), and a line has no
sides exactly when it has no separator (`sides?_eq_none_iff`).
-/

namespace Keyline

/-- The texts before and after the first separator of a line. -/
def sides? (body : Text) : Option (Text × Text) :=
  match body.dropWhile (· != '=') with
  | [] => none
  | _ :: value => some (body.takeWhile (· != '='), value)

/-- A side of a line without its outer blanks, and the column at which it starts. -/
structure Segment where
  text : Text
  start : Nat
deriving DecidableEq, Repr

/-- Trims a side that starts at the column `offset`. -/
def Segment.trimmed (offset : Nat) (side : Text) : Segment :=
  ⟨trim side, offset + (indentation side).length⟩

/-- Whether a side is good enough for a record: not empty, and every character allowed. -/
def Side.fills (s : Side) (text : Text) : Bool := !text.isEmpty && s.alphabet.accepts text

/-- Whether a line is a record. -/
def isRecord (body : Text) : Bool :=
  match sides? body with
  | none => false
  | some (key, value) => Side.key.fills key && Side.value.fills value

/-- The finding that nothing but blanks stands on the side `text` that starts at the column `offset`. -/
def Side.missingFinding (s : Side) (line offset : Nat) (text : Text) : Finding :=
  ⟨.missing s, line, offset, offset + text.length⟩

/-- The finding that characters which do not belong there stand on the side `text`. -/
def Side.invalidFinding (s : Side) (line offset : Nat) (text : Text) : Finding :=
  ⟨.invalid s, line, (Segment.trimmed offset text).start, offset + text.length⟩

/-- The faults of the side `text` that starts at the column `offset` of a line which is no record. -/
def Side.findings (s : Side) (line offset : Nat) (text : Text) : List Finding :=
  let segment := Segment.trimmed offset text
  if segment.text.isEmpty then [s.missingFinding line offset text]
  else if s.alphabet.accepts segment.text then []
  else [s.invalidFinding line offset text]

/-- The finding that a line has no separator. -/
def missingEqualFinding (line : Nat) (body : Text) : Finding := ⟨.missingEqual, line, 0, body.length⟩

/-- The faults of the line with the given index, those of the key before those of the value. -/
def validateLine (line : Nat) (body : Text) : List Finding :=
  if isBlankText body || isRecord body then []
  else
    match sides? body with
    | none => [missingEqualFinding line body]
    | some (key, value) => Side.key.findings line 0 key ++ Side.value.findings line (key.length + 1) value

/-- The faults of a list of lines, the first of which has the index `line`. -/
def validateLines (line : Nat) : List Line → List Finding
  | [] => []
  | l :: ls => validateLine line l.body ++ validateLines (line + 1) ls

/-- The faults of a text, line by line. -/
def validate (content : Text) : List Finding := validateLines 0 (splitLines content)

@[simp] theorem sides?_nil : sides? [] = none := rfl

theorem sides?_cons (c : Char) (t : Text) :
    sides? (c :: t) = if c = '=' then some ([], t) else (sides? t).map fun s => (c :: s.1, s.2) := by
  by_cases hc : c = '='
  · simp [sides?, hc]
  · simp only [sides?, List.dropWhile_cons, List.takeWhile_cons, bne_iff_ne, ne_eq, hc, not_false_eq_true, if_true,
      if_false]
    cases t.dropWhile (· != '=') <;> rfl

theorem sides?_eq_some_iff {body key value : Text} :
    sides? body = some (key, value) ↔ body = key ++ '=' :: value ∧ '=' ∉ key := by
  induction body generalizing key with
  | nil => simp
  | cons c t ih =>
    rw [sides?_cons]
    by_cases hc : c = '='
    · cases key with
      | nil => simp [hc]
      | cons d k => simp [hc]; rintro rfl; simp
    · cases key with
      | nil => simp [hc]
      | cons d k =>
        have h : sides? t = some (k, value) ↔ t = k ++ '=' :: value ∧ '=' ∉ k := ih
        simp only [hc, if_false, Option.map_eq_some_iff, Prod.mk.injEq, List.cons.injEq, Prod.exists, List.cons_append,
          List.mem_cons, not_or]
        constructor
        · rintro ⟨a, b, hs, ⟨rfl, rfl⟩, rfl⟩
          exact ⟨⟨rfl, (h.1 hs).1⟩, fun e => hc e.symm, (h.1 hs).2⟩
        · rintro ⟨⟨rfl, ht⟩, _, hk⟩
          exact ⟨k, value, h.2 ⟨ht, hk⟩, ⟨rfl, rfl⟩, rfl⟩

theorem sides?_eq_none_iff {body : Text} : sides? body = none ↔ '=' ∉ body := by
  induction body with
  | nil => simp
  | cons c t ih =>
    rw [sides?_cons]
    by_cases hc : c = '='
    · simp [hc]
    · simp [hc, ih, Ne.symm hc]

theorem sides?_append_equal {key : Text} (value : Text) (h : '=' ∉ key) :
    sides? (key ++ '=' :: value) = some (key, value) :=
  sides?_eq_some_iff.2 ⟨rfl, h⟩

/-- A line with a separator is not blank. -/
theorem isBlankText_of_sides? {body key value : Text} (h : sides? body = some (key, value)) :
    isBlankText body = false := by
  have hm : '=' ∈ body := by rw [(sides?_eq_some_iff.1 h).1]; simp
  refine Bool.eq_false_iff.2 fun hb => ?_
  exact absurd (List.all_eq_true.1 hb _ hm) (by decide)

/-- A side is judged by all its characters, outer blanks included. -/
theorem Side.findings_eq (s : Side) (line offset : Nat) (text : Text) :
    s.findings line offset text =
      if isBlankText text then [s.missingFinding line offset text]
      else if s.alphabet.accepts text then []
      else [s.invalidFinding line offset text] := by
  have h : (trim text).isEmpty = isBlankText text := by
    rw [Bool.eq_iff_iff, List.isEmpty_iff, trim_eq_nil_iff]
  simp [findings, Segment.trimmed, h, s.alphabet.accepts_trim]

end Keyline
