import Mathlib.Algebra.GroupWithZero.Nat
import Mathlib.Data.List.Sort
import Keyline.Proofs.Editor.Buffer

/-!
# Many replacements at once

An editor can replace many ranges in one go (`editAll`). All of them are ranges of the old text: the editor finds the
offsets first, puts the replacements in order, and then walks once through the units.

What such a walk does is easy to say for a text that is cut into *pieces*, each of which stays or is swapped for another
text. The swaps are the *changes* of the text; making them all gives the pieces with the new texts in place of the old
ones (`spliceAll_changes`). Changes of the lines of a text, sent as ranges, are changes of the text
(`Document.map_ofRange_lineEdits`), so that an editor which makes them at once has changed each line on its own
(`Document.editAll_lineEdits`). Where the changes of each line keep apart, the ranges lie one behind the other
(`Document.pairwise_lineEdits`).
-/

namespace Keyline

/-! ## Replacements in a buffer -/

/-- The replacement of the units between two offsets. -/
structure Splice where
  start : Nat
  stop : Nat
  newUnits : List UInt16

/-- The replacement of a range of the units `us`. -/
def Splice.ofRange (us : List UInt16) (r : Range) (newText : Text) : Splice :=
  ⟨unitOffset us r.start.line r.start.character, unitOffset us r.stop.line r.stop.character, units newText⟩

/-- Makes replacements that are in order, on the units from the offset `offset` on. -/
def spliceAll : (offset : Nat) → List Splice → List UInt16 → List UInt16
  | _, [], us => us
  | offset, p :: ps, us =>
    us.take (p.start - offset) ++ p.newUnits ++ spliceAll p.stop ps (us.drop (p.stop - offset))

/-- The text that an editor has after it has made many replacements at once. All ranges are ranges of the old text, and
they may be listed in any order. -/
def editAll (content : Text) (edits : List (Range × Text)) : Text :=
  let us := units content
  let splices := edits.map fun (r, newText) => Splice.ofRange us r newText
  ofUnits (spliceAll 0 (splices.insertionSort (·.start ≤ ·.start)) us)

/-- A position stands before another one. -/
def Position.Before (p q : Position) : Prop := p.line < q.line ∨ p.line = q.line ∧ p.character < q.character

example : editAll "𝄞b\nc".toList [(⟨⟨1, 0⟩, ⟨1, 1⟩⟩, []), (⟨⟨0, 0⟩, ⟨0, 2⟩⟩, "xyz".toList), (⟨⟨0, 3⟩, ⟨0, 3⟩⟩, ['!'])] =
    "xyzb!\n".toList := by
  decide

/-- What lies before the first replacement stays. -/
theorem spliceAll_append {offset : Nat} {ps : List Splice} {us : List UInt16}
    (h : ∀ p ∈ ps, offset + us.length ≤ p.start ∧ p.start ≤ p.stop) (vs : List UInt16) :
    spliceAll offset ps (us ++ vs) = us ++ spliceAll (offset + us.length) ps vs := by
  cases ps with
  | nil => rfl
  | cons p ps =>
    obtain ⟨hstart, hstop⟩ := h p List.mem_cons_self
    have htake : p.start - offset = us.length + (p.start - (offset + us.length)) := by omega
    have hdrop : p.stop - offset = us.length + (p.stop - (offset + us.length)) := by omega
    rw [spliceAll, spliceAll, htake, hdrop, List.take_length_add_append, List.drop_length_add_append]
    simp only [List.append_assoc]

/-! ## Pieces and changes -/

/-- A part of a text, which stays or is swapped for another text. -/
inductive Piece where
  | keep (t : Text)
  | swap (old new : Text)

/-- A piece before the swap. -/
def Piece.old : Piece → Text
  | keep t => t
  | swap old _ => old

/-- A piece after the swap. -/
def Piece.new : Piece → Text
  | keep t => t
  | swap _ new => new

/-- The text that is cut into pieces. -/
def textBefore (ps : List Piece) : Text := ps.flatMap Piece.old

/-- The text after all swaps. -/
def textAfter (ps : List Piece) : Text := ps.flatMap Piece.new

/-- The swap of `old` for `new` in a text that has `front` before it. -/
structure Change where
  front : Text
  old : Text
  new : Text

/-- The swaps in a list of pieces with the text `front` before them. -/
def changes : (front : Text) → List Piece → List Change
  | _, [] => []
  | front, .keep t :: ps => changes (front ++ t) ps
  | front, .swap old new :: ps => ⟨front, old, new⟩ :: changes (front ++ old) ps

/-- A change when one more text is put in front. -/
def Change.behind (t : Text) (c : Change) : Change := { c with front := t ++ c.front }

/-- A change as a replacement in a buffer. -/
def Change.splice (c : Change) : Splice := ⟨unitLength c.front, unitLength (c.front ++ c.old), units c.new⟩

/-- A change as an edit of a line. -/
def Change.edit (line : Nat) (c : Change) : Edit := ⟨⟨line, c.front.length, (c.front ++ c.old).length⟩, c.new⟩

section Changes

variable {front : Text} {ps qs : List Piece} {c : Change}

@[simp] theorem textBefore_nil : textBefore [] = [] := rfl

@[simp] theorem textBefore_cons (p : Piece) (ps : List Piece) : textBefore (p :: ps) = p.old ++ textBefore ps := rfl

@[simp] theorem textBefore_append (ps qs : List Piece) : textBefore (ps ++ qs) = textBefore ps ++ textBefore qs :=
  List.flatMap_append

@[simp] theorem textAfter_nil : textAfter [] = [] := rfl

@[simp] theorem textAfter_cons (p : Piece) (ps : List Piece) : textAfter (p :: ps) = p.new ++ textAfter ps := rfl

@[simp] theorem textAfter_append (ps qs : List Piece) : textAfter (ps ++ qs) = textAfter ps ++ textAfter qs :=
  List.flatMap_append

theorem changes_append (front : Text) (ps qs : List Piece) :
    changes front (ps ++ qs) = changes front ps ++ changes (front ++ textBefore ps) qs := by
  induction ps generalizing front with
  | nil => simp [changes]
  | cons p ps ih => cases p <;> simp [changes, ih, Piece.old]

theorem changes_behind (t front : Text) (ps : List Piece) :
    changes (t ++ front) ps = (changes front ps).map (Change.behind t) := by
  induction ps generalizing front with
  | nil => rfl
  | cons p ps ih => cases p <;> simp [changes, ← ih, Change.behind]

/-- A change lies in the text that is cut into pieces. -/
theorem exists_of_mem_changes (h : c ∈ changes front ps) :
    ∃ pre post, c.front = front ++ pre ∧ textBefore ps = pre ++ (c.old ++ post) := by
  induction ps generalizing front with
  | nil => cases h
  | cons p ps ih =>
    cases p with
    | keep t =>
      obtain ⟨pre, post, hfront, hbefore⟩ := ih h
      exact ⟨t ++ pre, post, by rw [hfront, List.append_assoc], by simp [hbefore, Piece.old]⟩
    | swap old new =>
      rcases List.mem_cons.mp h with rfl | h
      · exact ⟨[], textBefore ps, by simp, rfl⟩
      · obtain ⟨pre, post, hfront, hbefore⟩ := ih h
        exact ⟨old ++ pre, post, by rw [hfront, List.append_assoc], by simp [hbefore, Piece.old]⟩

/-- Changes come in the order of the text and do not overlap. -/
theorem pairwise_changes (front : Text) (ps : List Piece) :
    (changes front ps).Pairwise fun c c' => unitLength (c.front ++ c.old) ≤ unitLength c'.front := by
  induction ps generalizing front with
  | nil => exact .nil
  | cons p ps ih =>
    cases p with
    | keep t => exact ih _
    | swap old new =>
      refine List.pairwise_cons.mpr ⟨fun c hc => ?_, ih _⟩
      obtain ⟨pre, _, hfront, _⟩ := exists_of_mem_changes hc
      rw [hfront, unitLength_append (front ++ old)]
      exact Nat.le_add_right _ _

theorem Change.splice_bounds (h : c ∈ changes front ps) :
    unitLength front ≤ c.splice.start ∧ c.splice.start ≤ c.splice.stop := by
  obtain ⟨pre, _, hfront, _⟩ := exists_of_mem_changes h
  constructor
  · rw [Change.splice, hfront, unitLength_append]
    exact Nat.le_add_right _ _
  · rw [Change.splice, unitLength_append]
    exact Nat.le_add_right _ _

/-- Making all changes of the pieces gives the new text. -/
theorem spliceAll_changes (front : Text) (ps : List Piece) :
    spliceAll (unitLength front) ((changes front ps).map Change.splice) (units (textBefore ps)) =
      units (textAfter ps) := by
  induction ps generalizing front with
  | nil => rfl
  | cons p ps ih =>
    cases p with
    | keep t =>
      have hlength : unitLength front + (units t).length = unitLength (front ++ t) := by
        rw [length_units, unitLength_append]
      have hbounds : ∀ q ∈ (changes (front ++ t) ps).map Change.splice,
          unitLength front + (units t).length ≤ q.start ∧ q.start ≤ q.stop := by
        intro q hq
        obtain ⟨c, hc, rfl⟩ := List.mem_map.mp hq
        rw [hlength]
        exact Change.splice_bounds hc
      show spliceAll (unitLength front) ((changes (front ++ t) ps).map Change.splice) (units (t ++ textBefore ps)) =
        units (t ++ textAfter ps)
      rw [units_append, spliceAll_append hbounds, hlength, ih, units_append]
    | swap old new =>
      have hstop : unitLength (front ++ old) - unitLength front = (units old).length := by
        rw [length_units, unitLength_append, Nat.add_sub_cancel_left]
      show spliceAll (unitLength front)
        (Change.splice ⟨front, old, new⟩ :: (changes (front ++ old) ps).map Change.splice)
        (units (old ++ textBefore ps)) = units (new ++ textAfter ps)
      rw [spliceAll, Change.splice, hstop, units_append, List.drop_left, ih, units_append]
      simp

/-- An editor that makes the changes of a text at once has the new text. -/
theorem editAll_changes {content : Text} {edits : List (Range × Text)} (hcontent : textBefore ps = content)
    (hedits : edits.map (fun (r, newText) => Splice.ofRange (units content) r newText) =
      (changes [] ps).map Change.splice) :
    editAll content edits = textAfter ps := by
  have hsorted : ((changes [] ps).map Change.splice).Pairwise (·.start ≤ ·.start) := by
    refine List.pairwise_map.mpr ((pairwise_changes [] ps).imp fun {c c'} h => ?_)
    rw [unitLength_append] at h
    exact Nat.le_trans (Nat.le_add_right _ _) h
  have hwalk : spliceAll 0 ((changes [] ps).map Change.splice) (units content) = units (textAfter ps) := by
    rw [← hcontent]
    exact spliceAll_changes [] ps
  simp only [editAll, hedits]
  rw [hsorted.insertionSort_eq, hwalk, ofUnits_units]

end Changes

/-! ## Changes of lines as changes of the text -/

section Lines

variable (cut : Text → List Piece)

/-- The edits of a list of lines, the first of which has the index `line`, when the bodies are cut into pieces. -/
def lineEdits (line : Nat) : List Line → List Edit
  | [] => []
  | l :: ls => (changes [] (cut l.body)).map (Change.edit line) ++ lineEdits (line + 1) ls

/-- The pieces of a line: those of its body, and the terminator. -/
def Line.pieces (l : Line) : List Piece := cut l.body ++ [.keep l.terminator.text]

variable {cut}

theorem textBefore_pieces (hcut : ∀ body, textBefore (cut body) = body) (ls : List Line) :
    textBefore (ls.flatMap (Line.pieces cut)) = joinLines ls := by
  induction ls with
  | nil => rfl
  | cons l ls ih => simp [ih, Line.pieces, hcut, Line.text, Piece.old]

theorem textAfter_pieces (ls : List Line) :
    textAfter (ls.flatMap (Line.pieces cut)) = joinLines (ls.map fun l => l.withBody (textAfter (cut l.body))) := by
  induction ls with
  | nil => rfl
  | cons l ls ih => simp [ih, Line.pieces, Line.text, Line.withBody, Piece.new]

/-- An edit of the lines is a change of one of them. -/
theorem exists_of_mem_lineEdits {line : Nat} {ls : List Line} {e : Edit} (h : e ∈ lineEdits cut line ls) :
    ∃ i l, ls[i]? = some l ∧ ∃ c ∈ changes [] (cut l.body), e = c.edit (line + i) := by
  induction ls generalizing line with
  | nil => cases h
  | cons l ls ih =>
    rcases List.mem_append.mp h with h | h
    · obtain ⟨c, hc, rfl⟩ := List.mem_map.mp h
      exact ⟨0, l, rfl, c, hc, rfl⟩
    · obtain ⟨i, m, hm, c, hc, rfl⟩ := ih h
      exact ⟨i + 1, m, hm, c, hc, by rw [Nat.add_assoc, Nat.add_comm 1 i]⟩

variable {d : Document} (hlines : (splitLines d.content).length ≤ 2 ^ 32)
  (hunits : ∀ l ∈ splitLines d.content, unitLength l.body < 2 ^ 32) (hcut : ∀ body, textBefore (cut body) = body)

section OneLine

variable {i : Nat} {l : Line} {c : Change} (hl : (splitLines d.content)[i]? = some l)
  (hc : c ∈ changes [] (cut l.body))

include hcut hc

/-- What a line has up to the start and up to the end of a change. -/
theorem take_of_mem_changes :
    l.body.take c.front.length = c.front ∧ l.body.take (c.front ++ c.old).length = c.front ++ c.old := by
  obtain ⟨pre, post, hfront, hbefore⟩ := exists_of_mem_changes hc
  have hbody : l.body = c.front ++ (c.old ++ post) := by rw [← hcut l.body, hbefore, hfront, List.nil_append]
  constructor
  · rw [hbody, List.take_left]
  · rw [hbody, ← List.append_assoc, List.take_left]

include hlines hunits hl

/-- The range of a change of a line. -/
theorem Document.range_edit :
    d.range (c.edit i).span = ⟨⟨i, unitLength c.front⟩, ⟨i, unitLength (c.front ++ c.old)⟩⟩ := by
  obtain ⟨hstart, hstop⟩ := take_of_mem_changes hcut hc
  have hline : i < 2 ^ 32 := Nat.lt_of_lt_of_le (List.getElem?_eq_some_iff.mp hl).1 hlines
  have hrange := Document.range_eq (show (splitLines d.content)[(c.edit i).span.line]? = some l from hl) hline
    (hunits l (List.mem_of_getElem? hl))
  rw [hrange, ← congrArg unitLength hstart, ← congrArg unitLength hstop]
  rfl

/-- A change of a line is the same change of the text, behind all lines before. -/
theorem Document.ofRange_edit :
    Splice.ofRange (units d.content) (d.range (c.edit i).span) c.new =
      (c.behind (joinLines ((splitLines d.content).take i))).splice := by
  obtain ⟨hstart, hstop⟩ := take_of_mem_changes hcut hc
  have hfrom := unitOffset_column hl c.front.length
  have hto := unitOffset_column hl (c.front ++ c.old).length
  rw [hstart] at hfrom
  rw [hstop] at hto
  rw [Document.range_edit hlines hunits hcut hl hc, Splice.ofRange, hfrom, hto]
  simp [Change.splice, Change.behind]

end OneLine

section AllLines

variable {done ls : List Line}

include hlines hunits hcut

/-- The edits of the lines of a document are the changes of its text. -/
theorem Document.map_ofRange_lineEdits (h : splitLines d.content = done ++ ls) :
    (lineEdits cut done.length ls).map (fun e => Splice.ofRange (units d.content) (d.range e.span) e.newText) =
      (changes (joinLines done) (ls.flatMap (Line.pieces cut))).map Change.splice := by
  induction ls generalizing done with
  | nil => rfl
  | cons l ls ih =>
    have hl : (splitLines d.content)[done.length]? = some l := by simp [h]
    have htake : (splitLines d.content).take done.length = done := by simp [h]
    have hfirst : ((changes [] (cut l.body)).map (Change.edit done.length)).map
        (fun e => Splice.ofRange (units d.content) (d.range e.span) e.newText) =
          (changes (joinLines done) (cut l.body)).map Change.splice := by
      rw [← List.append_nil (joinLines done), changes_behind, List.map_map, List.map_map]
      refine List.map_congr_left fun c hc => ?_
      have hsplice := Document.ofRange_edit hlines hunits hcut hl hc
      rwa [htake] at hsplice
    have hrest := ih (show splitLines d.content = (done ++ [l]) ++ ls by simp [h])
    have hfront : joinLines (done ++ [l]) = joinLines done ++ (l.body ++ l.terminator.text) := by
      simp [joinLines, Line.text]
    rw [List.length_append, List.length_singleton, hfront] at hrest
    rw [lineEdits, List.map_append, hfirst, hrest, List.flatMap_cons, Line.pieces, List.append_assoc, changes_append,
      List.map_append, hcut]
    simp [changes]

/-- An editor that makes the edits of all lines at once has changed each line on its own. -/
theorem Document.editAll_lineEdits :
    editAll d.content ((lineEdits cut 0 (splitLines d.content)).map fun e => (d.range e.span, e.newText)) =
      joinLines ((splitLines d.content).map fun l => l.withBody (textAfter (cut l.body))) := by
  have hcontent : textBefore ((splitLines d.content).flatMap (Line.pieces cut)) = d.content := by
    rw [textBefore_pieces hcut, joinLines_splitLines]
  rw [← textAfter_pieces]
  refine editAll_changes hcontent ?_
  rw [List.map_map]
  exact Document.map_ofRange_lineEdits hlines hunits hcut (List.nil_append (splitLines d.content)).symm

/-- Where the changes of each line keep apart, so do their ranges in the document. -/
theorem Document.pairwise_lineEdits
    (hapart : ∀ body, (changes [] (cut body)).Pairwise fun c c' => unitLength (c.front ++ c.old) < unitLength c'.front)
    (h : splitLines d.content = done ++ ls) :
    (lineEdits cut done.length ls).Pairwise fun e e' => (d.range e.span).stop.Before (d.range e'.span).start := by
  induction ls generalizing done with
  | nil => exact .nil
  | cons l ls ih =>
    have hl : (splitLines d.content)[done.length]? = some l := by simp [h]
    have hrest := ih (show splitLines d.content = (done ++ [l]) ++ ls by simp [h])
    rw [List.length_append, List.length_singleton] at hrest
    refine List.pairwise_append.mpr ⟨List.pairwise_map.mpr ?_, hrest, ?_⟩
    · refine (hapart l.body).imp_of_mem fun {c c'} hc hc' hlt => ?_
      rw [Document.range_edit hlines hunits hcut hl hc, Document.range_edit hlines hunits hcut hl hc']
      exact Or.inr ⟨rfl, hlt⟩
    · -- The other edits are on later lines.
      intro e he e' he'
      obtain ⟨c, hc, rfl⟩ := List.mem_map.mp he
      obtain ⟨i, m, hm, c', hc', rfl⟩ := exists_of_mem_lineEdits he'
      have hm : (splitLines d.content)[done.length + 1 + i]? = some m := by
        rw [h, List.getElem?_append_right (by omega)]
        simpa [show done.length + 1 + i - done.length = i + 1 by omega] using hm
      rw [Document.range_edit hlines hunits hcut hl hc, Document.range_edit hlines hunits hcut hm hc']
      exact Or.inl (by simp; omega)

/-- The range of an edit does not end before it starts. -/
theorem Document.not_before_of_mem_lineEdits {e : Edit} (he : e ∈ lineEdits cut 0 (splitLines d.content)) :
    ¬ (d.range e.span).stop.Before (d.range e.span).start := by
  obtain ⟨i, l, hl, c, hc, rfl⟩ := exists_of_mem_lineEdits he
  rw [Nat.zero_add, Document.range_edit hlines hunits hcut hl hc, unitLength_append]
  simp [Position.Before]

end AllLines

end Lines

end Keyline
