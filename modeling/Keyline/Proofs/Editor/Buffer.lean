import Mathlib.Algebra.GroupWithZero.Nat
import Keyline.Document
import Keyline.Edit
import Keyline.Proofs.Editor.Units
import Keyline.Proofs.Line.Canonical

/-!
# The buffer of an editor

An editor holds a text as UTF-16 units and finds a position in them by counting line breaks, then units
(`unitOffset`). It knows nothing of the split into lines that the rest of the library works with. Replacing a range
(`editAt`) cuts the units at two offsets and puts the units of the new text between.

Both ways of counting agree: a position in a line of the split is found behind the lines before it and the characters
before its column (`unitOffset_column`). So an edit of one line, sent as a range, changes the buffer into the text with
that line edited (`editAt_range`), as long as no number exceeds 32 bits.
-/

namespace Keyline

/-- Whether a unit belongs to a line break. -/
def isBreakUnit (u : UInt16) : Bool := u == 10 || u == 13

/-- Whether a unit ends a line when the units `us` follow: a carriage return in front of a line feed does not. -/
def endsLine (u : UInt16) (us : List UInt16) : Bool := u == 10 || u == 13 && us.head? != some 10

/-- The offset of a position. A character behind the end of its line means that end, before the line break, and a line
behind the last one means the end of the units. -/
def unitOffset : List UInt16 → (line character : Nat) → Nat
  | [], _, _ => 0
  | _ :: _, 0, 0 => 0
  | u :: us, 0, character + 1 => if isBreakUnit u then 0 else unitOffset us 0 character + 1
  | u :: us, line + 1, character =>
    if endsLine u us then unitOffset us line character + 1 else unitOffset us (line + 1) character + 1

/-- The text that an editor has after it has replaced a range. -/
def editAt (content : Text) (r : Range) (newText : Text) : Text :=
  let us := units content
  ofUnits (us.take (unitOffset us r.start.line r.start.character) ++ units newText ++
    us.drop (unitOffset us r.stop.line r.stop.character))

/-! ## Offsets within a line and past it -/

section Offset

variable {us rest : List UInt16}

/-- A line goes up to its break, and characters beyond it do not count. -/
theorem unitOffset_within (h : ∀ u ∈ us, isBreakUnit u = false) (hr : ∀ u ∈ rest.head?, isBreakUnit u = true)
    (character : Nat) : unitOffset (us ++ rest) 0 character = min character us.length := by
  induction us generalizing character with
  | nil =>
    cases rest with
    | nil => simp [unitOffset]
    | cons u rest =>
      have hu : isBreakUnit u = true := hr u rfl
      cases character with
      | zero => rfl
      | succ n => simp [unitOffset, hu]
  | cons u us ih =>
    cases character with
    | zero => simp [unitOffset]
    | succ n =>
      have hu := h u List.mem_cons_self
      rw [List.cons_append, unitOffset, hu, ih (fun v hv => h v (List.mem_cons_of_mem u hv)), List.length_cons]
      simp

theorem endsLine_of_not_isBreakUnit {u : UInt16} (h : isBreakUnit u = false) (us : List UInt16) :
    endsLine u us = false := by
  obtain ⟨hl, hc⟩ := Bool.or_eq_false_iff.mp h
  simp [endsLine, hl, hc]

/-- Units without a break lead no closer to a later line. -/
theorem unitOffset_unbroken (h : ∀ u ∈ us, isBreakUnit u = false) (line character : Nat) :
    unitOffset (us ++ rest) (line + 1) character = us.length + unitOffset rest (line + 1) character := by
  induction us with
  | nil => simp
  | cons u us ih =>
    have hu := endsLine_of_not_isBreakUnit (h u List.mem_cons_self) (us ++ rest)
    rw [List.cons_append, unitOffset, hu, ih (fun v hv => h v (List.mem_cons_of_mem u hv)), List.length_cons]
    simp only [Bool.false_eq_true, if_false]
    omega

/-- Behind a terminator the next line starts. -/
theorem unitOffset_terminator {e : Terminator} (he : e ≠ .none) (ha : e = .cr → rest.head? ≠ some 10)
    (line character : Nat) :
    unitOffset (units e.text ++ rest) (line + 1) character = unitLength e.text + unitOffset rest line character := by
  cases e with
  | none => exact absurd rfl he
  | lf =>
    have hlf : endsLine 10 rest = true := rfl
    show unitOffset (10 :: rest) (line + 1) character = 1 + unitOffset rest line character
    rw [unitOffset, hlf, if_pos rfl, Nat.add_comm]
  | cr =>
    have hcr : endsLine 13 rest = true := by simpa [endsLine] using ha rfl
    show unitOffset (13 :: rest) (line + 1) character = 1 + unitOffset rest line character
    rw [unitOffset, hcr, if_pos rfl, Nat.add_comm]
  | crlf =>
    have hcr : endsLine 13 (10 :: rest) = false := rfl
    have hlf : endsLine 10 rest = true := rfl
    show unitOffset (13 :: 10 :: rest) (line + 1) character = 2 + unitOffset rest line character
    rw [unitOffset, hcr, if_neg Bool.false_ne_true, unitOffset, hlf, if_pos rfl]
    omega

end Offset

/-! ## Offsets in the lines of a text -/

/-- Only the two break characters have break units. -/
theorem not_isBreakUnit_of_mem_units {t : Text} (h : Unbroken t) : ∀ u ∈ units t, isBreakUnit u = false := by
  intro u hu
  obtain ⟨c, hc, huc⟩ := List.mem_flatMap.mp hu
  rw [isBreakUnit, Bool.or_eq_false_iff, beq_eq_false_iff_ne, beq_eq_false_iff_ne]
  constructor
  · rintro rfl
    obtain rfl : c = '\n' := eq_of_mem_charUnits huc rfl (by decide)
    exact h.1 hc
  · rintro rfl
    obtain rfl : c = '\r' := eq_of_mem_charUnits huc rfl (by decide)
    exact h.2 hc

theorem head?_units_cons (c : Char) (t : Text) : (units (c :: t)).head? = (charUnits c).head? := by
  rw [units_cons, charUnits]
  split <;> rfl

/-- The units of a text start with a line feed only if its first line is that line feed. -/
theorem head?_units_joinLines_ne {ls : List Line} (h : Canonical ls) (hs : ls.head? ≠ some ⟨[], .lf⟩) :
    (units (joinLines ls)).head? ≠ some 10 := by
  intro hu
  apply hs
  rw [← splitLines_joinLines h]
  generalize joinLines ls = t at hu
  cases t with
  | nil => cases hu
  | cons c t =>
    rw [head?_units_cons] at hu
    obtain rfl : c = '\n' := eq_of_mem_charUnits (List.mem_of_head? hu) rfl (by decide)
    rw [splitLines_cons, Line.prepend_lf]
    rfl

/-- What follows the body of a line is a break or the end of the units. -/
theorem isBreakUnit_of_mem_head? {e : Terminator} {us : List UInt16} (h : e = .none → us = []) :
    ∀ u ∈ (units e.text ++ us).head?, isBreakUnit u = true := by
  intro u hu
  cases e with
  | none =>
    rw [h rfl] at hu
    cases hu
  | lf =>
    obtain rfl : 10 = u := Option.some.inj hu
    rfl
  | cr =>
    obtain rfl : 13 = u := Option.some.inj hu
    rfl
  | crlf =>
    obtain rfl : 13 = u := Option.some.inj hu
    rfl

/-- A position in a line lies behind all lines before it. -/
theorem unitOffset_joinLines {ls : List Line} (h : Canonical ls) {i : Nat} {l : Line} (hl : ls[i]? = some l)
    (character : Nat) :
    unitOffset (units (joinLines ls)) i character =
      unitLength (joinLines (ls.take i)) + min character (unitLength l.body) := by
  induction ls generalizing i with
  | nil => cases hl
  | cons m ls ih =>
    obtain ⟨hm, hls⟩ := h
    have hbody := not_isBreakUnit_of_mem_units hm.unbroken
    have hunits : units (joinLines (m :: ls)) = units m.body ++ (units m.terminator.text ++ units (joinLines ls)) := by
      simp [Line.text]
    rw [hunits]
    cases i with
    | zero =>
      obtain rfl : m = l := by simpa using hl
      have hend : m.terminator = .none → units (joinLines ls) = [] := fun ht => by rw [(hm.ended ht).2]; rfl
      rw [unitOffset_within hbody (isBreakUnit_of_mem_head? hend), length_units]
      simp
    | succ i =>
      have hl : ls[i]? = some l := by simpa using hl
      -- A line in front of another one has a terminator.
      have ht : m.terminator ≠ .none := by
        intro ht
        rw [(hm.ended ht).2] at hl
        cases hl
      have ha : m.terminator = .cr → (units (joinLines ls)).head? ≠ some 10 :=
        fun hc => head?_units_joinLines_ne hls (hm.apart hc)
      rw [unitOffset_unbroken hbody, unitOffset_terminator ht ha, ih hls hl, length_units, List.take_succ_cons,
        joinLines_cons, unitLength_append, Line.text, unitLength_append]
      omega

section Column

variable {content : Text} {i : Nat} {l : Line}

/-- A text cut at a column of one of its lines. -/
theorem cut_at_column (hl : (splitLines content)[i]? = some l) (column : Nat) :
    content = (joinLines ((splitLines content).take i) ++ l.body.take column) ++
      (l.body.drop column ++ (l.terminator.text ++ joinLines ((splitLines content).drop (i + 1)))) := by
  conv_lhs => rw [← joinLines_splitLines content, (cut_at_line hl).1]
  simp only [joinLines, List.flatMap_append, List.flatMap_cons, Line.text, List.append_assoc]
  rw [← List.append_assoc (List.take column _), List.take_append_drop]

theorem unitLength_take_le (t : Text) (column : Nat) : unitLength (t.take column) ≤ unitLength t := by
  have h := congrArg unitLength (List.take_append_drop column t)
  rw [unitLength_append] at h
  omega

/-- The offset of a column of a line is the length of all that stands before it. -/
theorem unitOffset_column (hl : (splitLines content)[i]? = some l) (column : Nat) :
    unitOffset (units content) i (unitLength (l.body.take column)) =
      unitLength (joinLines ((splitLines content).take i) ++ l.body.take column) := by
  have h := unitOffset_joinLines (canonical_splitLines content) hl (unitLength (l.body.take column))
  rw [joinLines_splitLines, Nat.min_eq_left (unitLength_take_le l.body column)] at h
  rw [h, unitLength_append]

theorem take_unitOffset_column (hl : (splitLines content)[i]? = some l) (column : Nat) :
    (units content).take (unitOffset (units content) i (unitLength (l.body.take column))) =
      units (joinLines ((splitLines content).take i) ++ l.body.take column) := by
  rw [unitOffset_column hl, congrArg units (cut_at_column hl column), units_append]
  exact List.take_left' (length_units _)

theorem drop_unitOffset_column (hl : (splitLines content)[i]? = some l) (column : Nat) :
    (units content).drop (unitOffset (units content) i (unitLength (l.body.take column))) =
      units (l.body.drop column ++ (l.terminator.text ++ joinLines ((splitLines content).drop (i + 1)))) := by
  rw [unitOffset_column hl, congrArg units (cut_at_column hl column), units_append]
  exact List.drop_left' (length_units _)

end Column

/-! ## Edits of a line as edits of the buffer -/

theorem cap32_of_lt {n : Nat} (h : n < 2 ^ 32) : cap32 n = n := by
  have hm : maxUInt32 = 2 ^ 32 - 1 := rfl
  rw [cap32, hm]
  omega

/-- The range of a span, where no number exceeds 32 bits. -/
theorem Document.range_eq {d : Document} {sp : Span} {l : Line} (hl : (splitLines d.content)[sp.line]? = some l)
    (hline : sp.line < 2 ^ 32) (hunits : unitLength l.body < 2 ^ 32) :
    d.range sp = ⟨⟨sp.line, unitLength (l.body.take sp.start)⟩, ⟨sp.line, unitLength (l.body.take sp.stop)⟩⟩ := by
  have hcap : ∀ column, unitColumn l.body column = unitLength (l.body.take column) := fun column =>
    cap32_of_lt (Nat.lt_of_le_of_lt (unitLength_take_le l.body column) hunits)
  simp only [Document.range, Document.line?, hl, Option.map_some, Option.getD_some, hcap, cap32_of_lt hline]

/-- Replacing the range of a span edits the line of that span and leaves all else. -/
theorem editAt_range {d : Document} {e : Edit} {l : Line} (hl : (splitLines d.content)[e.span.line]? = some l)
    (hspan : e.span.start ≤ e.span.stop) (hline : e.span.line < 2 ^ 32) (hunits : unitLength l.body < 2 ^ 32) :
    editAt d.content (d.range e.span) e.newText =
      joinLines ((splitLines d.content).set e.span.line (l.withBody (e.apply l.body))) := by
  rw [editAt, Document.range_eq hl hline hunits]
  simp only [take_unitOffset_column hl, drop_unitOffset_column hl]
  rw [← units_append, ← units_append, ofUnits_units, Edit.apply_eq hspan, (cut_at_line hl).2]
  simp [joinLines, Line.text, Line.withBody]

example : editAt "𝄞\r\na𝄞b\rc".toList ⟨⟨1, 1⟩, ⟨1, 3⟩⟩ "xy".toList = "𝄞\r\naxyb\rc".toList := by decide

end Keyline
