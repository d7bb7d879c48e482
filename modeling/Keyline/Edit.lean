import Keyline.Validation

/-!
# Edits

An edit replaces the characters of a span by a text. Some findings are repaired by an edit: a side with characters that
do not belong there is cleaned, and a line without separator gets one after its first word. A missing side cannot be
invented, so it has no repair.

Main statements: repairing a side cleans it and leaves the text around it (`Side.repair?_invalidFinding`), and a line
with a word gets the separator behind its first word (`repair?_missingEqualFinding`).
-/

namespace Keyline

/-- The replacement of a span of one line. -/
structure Edit where
  span : Span
  newText : Text
deriving DecidableEq, Repr

/-- Replaces the span. Columns behind the end of the line mean its end, and a span that ends before it starts is
empty. -/
def Edit.apply (e : Edit) (body : Text) : Text :=
  body.take e.span.start ++ e.newText ++ body.drop (max e.span.start e.span.stop)

/-- What a repair puts after the first word of a line without separator. -/
def separator : Text := [' ', '=', ' ']

/-- The word at the start of a text, behind its indentation; a separator ends a word. -/
def firstWord (t : Text) : Text := (trimStart t).takeWhile fun c => !isBlank c && c != '='

/-- What follows the first word of a text. -/
def afterFirstWord (t : Text) : Text := (trimStart t).dropWhile fun c => !isBlank c && c != '='

/-- The column behind the first word of a text, if it has one. -/
def firstWordStop? (t : Text) : Option Nat :=
  if (firstWord t).isEmpty then none else some ((indentation t).length + (firstWord t).length)

namespace Finding

/-- The text that decides a repair: the whole line for a missing separator, else the covered characters. -/
def context (f : Finding) (body : Text) : Text :=
  match f.kind with
  | .missingEqual => body
  | _ => f.span.slice body

/-- The edit that repairs a finding, given the text that decides it. -/
def fix? (f : Finding) (context : Text) : Option Edit :=
  match f.kind with
  | .missingEqual => (firstWordStop? context).map fun column => ⟨.point f.line column, separator⟩
  | .missing _ => none
  | .invalid s => some ⟨f.span, s.alphabet.clean context⟩

/-- The edit that repairs a finding of the line `body`. -/
def repair? (f : Finding) (body : Text) : Option Edit := f.fix? (f.context body)

end Finding

theorem Edit.apply_eq {e : Edit} {body : Text} (h : e.span.start ≤ e.span.stop) :
    e.apply body = body.take e.span.start ++ e.newText ++ body.drop e.span.stop := by
  rw [apply, Nat.max_eq_right h]

/-- A text is its indentation, its first word and what follows. -/
theorem firstWord_parts (t : Text) : indentation t ++ (firstWord t ++ afterFirstWord t) = t := by
  rw [firstWord, afterFirstWord, List.takeWhile_append_dropWhile, indentation_append_trimStart]

/-- A text with something other than blanks and without separator has a first word. -/
theorem firstWord_ne_nil {t : Text} (hb : isBlankText t = false) (he : '=' ∉ t) : firstWord t ≠ [] := by
  cases h : trimStart t with
  | nil => simp [trimStart_eq_nil_iff.1 h] at hb
  | cons c r =>
    have hc : c ≠ '=' := by
      rintro rfl
      exact he (by rw [← indentation_append_trimStart t, h]; simp)
    simp [firstWord, h, head_trimStart h, hc]

/-- Repairing a side cleans it and leaves the text around it. -/
theorem Side.repair?_invalidFinding (s : Side) (line : Nat) (before side after : Text) :
    ∃ e, (s.invalidFinding line before.length side).repair? (before ++ (side ++ after)) = some e ∧
      e.apply (before ++ (side ++ after)) = before ++ (s.alphabet.clean side ++ after) := by
  refine ⟨_, rfl, ?_⟩
  have hl := length_indentation_le side
  have hs : before.length + side.length - (before.length + (indentation side).length) =
      (trimStart side).length := by
    have := congrArg List.length (indentation_append_trimStart side)
    simp only [List.length_append] at this
    omega
  have hd : (before ++ (side ++ after)).drop (before.length + (indentation side).length) = trimStart side ++ after := by
    rw [List.drop_length_add_append, List.drop_append_of_le_length hl, drop_length_indentation]
  have ht : (before ++ (side ++ after)).take (before.length + (indentation side).length) =
      before ++ indentation side := by
    rw [List.take_length_add_append, List.take_append_of_le_length hl, take_length_indentation]
  have ha : (before ++ (side ++ after)).drop (before.length + side.length) = after := by
    rw [List.drop_length_add_append, List.drop_left]
  rw [Edit.apply_eq (by simp [Side.invalidFinding, Segment.trimmed]; exact hl)]
  simp only [Side.invalidFinding, Segment.trimmed, Finding.context, Span.slice, hs, hd, ht, ha, List.take_left,
    List.append_assoc]
  rw [← List.append_assoc (indentation side), s.alphabet.indentation_append_clean]

/-- A line with a word gets the separator behind its first word. -/
theorem repair?_missingEqualFinding (line : Nat) {body : Text} (hw : firstWord body ≠ []) :
    ∃ e, (missingEqualFinding line body).repair? body = some e ∧
      e.apply body = indentation body ++ (firstWord body ++ (separator ++ afterFirstWord body)) := by
  have hf : (firstWord body).isEmpty = false := by simpa using hw
  refine ⟨⟨.point line ((indentation body).length + (firstWord body).length), separator⟩, ?_, ?_⟩
  · simp [missingEqualFinding, Finding.repair?, Finding.fix?, Finding.context, firstWordStop?, hf, Finding.line]
  · rw [Edit.apply_eq (Nat.le_refl _)]
    have ht := congrArg (List.take ((indentation body).length + (firstWord body).length)) (firstWord_parts body)
    have hd := congrArg (List.drop ((indentation body).length + (firstWord body).length)) (firstWord_parts body)
    rw [List.take_length_add_append, List.take_left] at ht
    rw [List.drop_length_add_append, List.drop_left] at hd
    simp only [Span.point, ← ht, ← hd, List.append_assoc]

theorem Side.repair?_missingFinding (s : Side) (line offset : Nat) (text body : Text) :
    (s.missingFinding line offset text).repair? body = none := rfl

end Keyline
