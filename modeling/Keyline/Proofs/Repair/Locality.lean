import Keyline.Proofs.Line.Decomposition
import Keyline.Proofs.Repair.Content

/-!
# Every line for itself

Findings and repairs of a text are those of its lines, and a line is judged and repaired by its body alone.

* **In parts.** A text that is cut between two lines has the lines of its two parts (`splitLines_append`). So the parts
  are judged and repaired on their own, and the findings of the second part only move down by the lines of the first
  (`validateLines_append`, `validateLines_add`). A cut between a carriage return and its line feed is not one between
  two lines: it would make two lines out of one.
* **With other endings.** Giving every ended line the same terminator keeps the bodies (`splitLines_withEndings`).
  Breaks are blanks, so one that got into a body could pass for a value; none does.
-/

namespace Keyline

/-! ## Two texts in a row -/

section Append

variable {a b : Text} {l : Line} {ls ms : List Line}

theorem joinLines_append (ls ms : List Line) : joinLines (ls ++ ms) = joinLines ls ++ joinLines ms :=
  List.flatMap_append

/-- Two canonical lists in a row are canonical when the last line of the first fits in front of the second. -/
theorem Canonical.append (hls : Canonical ls) (hms : Canonical ms) (h : ∀ l, ls.getLast? = some l → l.Fits ms) :
    Canonical (ls ++ ms) := by
  induction ls with
  | nil => exact hms
  | cons l ls ih =>
    obtain ⟨hl, hls⟩ := hls
    cases ls with
    | nil => exact ⟨h l rfl, hms⟩
    | cons m ls =>
      have hrest : Canonical (m :: ls ++ ms) := ih hls fun k hk => h k (by rw [List.getLast?_cons_cons, hk])
      refine ⟨⟨hl.unbroken, fun ht => ?_, hl.apart⟩, hrest⟩
      exact absurd (hl.ended ht).2 (List.cons_ne_nil m ls)

/-- The last line of a canonical list has nothing behind it and fits there. -/
theorem Canonical.fits_getLast? (h : Canonical ls) (hl : ls.getLast? = some l) : l.Fits [] := by
  induction ls with
  | nil => cases hl
  | cons m ls ih =>
    cases ls with
    | nil =>
      obtain rfl : m = l := by simpa using hl
      exact h.1
    | cons k ls =>
      rw [List.getLast?_cons_cons] at hl
      exact ih h.2 hl

/-- A text ends as its last line does. -/
theorem getLast?_of_getLast?_splitLines (hl : (splitLines a).getLast? = some l) : a.getLast? = l.text.getLast? := by
  obtain ⟨front, hfront⟩ := List.getLast?_eq_some_iff.mp hl
  have hne := ((canonical_splitLines a).fits_getLast? hl).text_ne_nil
  have ha := joinLines_splitLines a
  rw [hfront, joinLines_append, joinLines_cons, joinLines_nil, List.append_nil] at ha
  rw [← ha, List.getLast?_append_of_ne_nil _ hne]

/-- An unbroken text does not end with a break. -/
theorem Unbroken.getLast?_ne (h : Unbroken a) : a.getLast? ≠ some '\n' ∧ a.getLast? ≠ some '\r' :=
  ⟨fun hn => h.1 (List.mem_of_getLast? hn), fun hr => h.2 (List.mem_of_getLast? hr)⟩

/-- Behind a text that ends with a break its last line fits in front of the next text, unless the cut goes through the
two characters of one break. -/
theorem fits_of_getLast?_splitLines (ha : a.getLast? = some '\n' ∨ a.getLast? = some '\r')
    (hab : ¬ (a.getLast? = some '\r' ∧ b.head? = some '\n')) (hl : (splitLines a).getLast? = some l) :
    l.Fits (splitLines b) := by
  have hfits := (canonical_splitLines a).fits_getLast? hl
  have hlast := getLast?_of_getLast?_splitLines hl
  refine ⟨hfits.unbroken, fun ht => ?_, fun ht hlf => ?_⟩
  · have hne := hfits.unbroken.getLast?_ne
    rw [hlast, Line.text, ht, Terminator.text, List.append_nil] at ha
    rcases ha with ha | ha
    · exact absurd ha hne.1
    · exact absurd ha hne.2
  · refine hab ⟨?_, head?_of_head?_splitLines hlf⟩
    rw [hlast, Line.text, ht, Terminator.text, List.getLast?_concat]

/-- A text that is cut between two lines has the lines of its two parts. -/
theorem splitLines_append (ha : a = [] ∨ a.getLast? = some '\n' ∨ a.getLast? = some '\r')
    (hab : ¬ (a.getLast? = some '\r' ∧ b.head? = some '\n')) :
    splitLines (a ++ b) = splitLines a ++ splitLines b := by
  rcases ha with rfl | ha
  · rfl
  · have hc : Canonical (splitLines a ++ splitLines b) :=
      (canonical_splitLines a).append (canonical_splitLines b) fun l hl => fits_of_getLast?_splitLines ha hab hl
    have hs := splitLines_joinLines hc
    rwa [joinLines_append, joinLines_splitLines, joinLines_splitLines] at hs

end Append

/-- A finding that names a line `n` lines further down. -/
def Finding.movedBy (n : Nat) (f : Finding) : Finding := { f with span := { f.span with line := f.span.line + n } }

theorem validateLines_append (line : Nat) (ls ms : List Line) :
    validateLines line (ls ++ ms) = validateLines line ls ++ validateLines (line + ls.length) ms := by
  induction ls generalizing line with
  | nil => rfl
  | cons l ls ih =>
    rw [List.cons_append, validateLines, ih, validateLines, List.append_assoc, List.length_cons,
      show line + 1 + ls.length = line + (ls.length + 1) by omega]

section Moved

variable (line n : Nat)

theorem Side.findings_add (s : Side) (offset : Nat) (text : Text) :
    s.findings (line + n) offset text = (s.findings line offset text).map (Finding.movedBy n) := by
  rw [Side.findings_eq, Side.findings_eq]
  split
  · rfl
  · split <;> rfl

/-- A line further down has the same findings, further down. -/
theorem validateLine_add (body : Text) :
    validateLine (line + n) body = (validateLine line body).map (Finding.movedBy n) := by
  rcases not_mem_or_append_equal body with he | ⟨key, value, hk, rfl⟩
  · rw [validateLine_of_not_mem he, validateLine_of_not_mem he]
    split <;> rfl
  · rw [validateLine_append_equal hk, validateLine_append_equal hk]
    split
    · rfl
    · rw [List.map_append, Side.findings_add, Side.findings_add]

theorem validateLines_add (ls : List Line) :
    validateLines (line + n) ls = (validateLines line ls).map (Finding.movedBy n) := by
  induction ls generalizing line with
  | nil => rfl
  | cons l ls ih =>
    rw [validateLines, validateLines, List.map_append, validateLine_add, Nat.add_right_comm, ih]

end Moved

/-- **Judging and repairing are local.** A text that is cut between two lines has the findings of its two parts, those
of the second part moved down by the lines of the first, and its repair is the repair of the parts. -/
theorem validate_and_repair_in_parts {a b : Text} (ha : a = [] ∨ a.getLast? = some '\n' ∨ a.getLast? = some '\r')
    (hab : ¬ (a.getLast? = some '\r' ∧ b.head? = some '\n')) :
    validate (a ++ b) = validate a ++ (validate b).map (Finding.movedBy (splitLines a).length) ∧
      (repair (a ++ b)).text = (repair a).text ++ (repair b).text ∧
      (repair (a ++ b)).applied = (repair a).applied + (repair b).applied := by
  have hs := splitLines_append ha hab
  refine ⟨?_, ?_, ?_⟩
  · rw [validate, hs, validateLines_append, validateLines_add]
    rfl
  · simp only [repair_eq, hs, List.map_append, joinLines_append]
  · simp only [repair_eq, hs, List.map_append, List.sum_append]

theorem validate_and_repair_in_parts_sample :
    "k@=v\r".toList.getLast? = some '\r' ∧ "x\r\n=y".toList.head? = some 'x' ∧
      validate ("k@=v\r".toList ++ "x\r\n=y".toList) =
        [⟨.invalid .key, 0, 0, 2⟩, ⟨.missingEqual, 1, 0, 1⟩, ⟨.missing .key, 2, 0, 0⟩] ∧
      (repair ("k@=v\r".toList ++ "x\r\n=y".toList)).text = "k=v\rx = \r\n=y".toList := by
  obtain ⟨hfindings, htext, _⟩ := validate_and_repair_in_parts (a := "k@=v\r".toList) (b := "x\r\n=y".toList)
    (by decide) (by decide)
  refine ⟨by decide, by decide, hfindings.trans (by decide), htext.trans ?_⟩
  rw [repair_eq, repair_eq]
  decide

/-! ## Other line endings -/

/-- A line that ends with `e` if it has a terminator at all. -/
def Line.endedBy (e : Terminator) (l : Line) : Line := if l.terminator = .none then l else { l with terminator := e }

/-- A text in which every terminator is `e`. -/
def withEndings (e : Terminator) (content : Text) : Text := joinLines ((splitLines content).map (Line.endedBy e))

section Endings

variable {e : Terminator}

@[simp] theorem Line.body_endedBy (l : Line) : (l.endedBy e).body = l.body := by
  unfold Line.endedBy
  split <;> rfl

theorem Line.terminator_endedBy (l : Line) :
    (l.endedBy e).terminator = if l.terminator = .none then .none else e := by
  unfold Line.endedBy
  split
  · assumption
  · rfl

/-- A line that has a terminator after its ending was changed has the new one. -/
theorem Line.eq_of_terminator_endedBy {l : Line} {e' : Terminator} (h : (l.endedBy e).terminator = e')
    (he' : e' ≠ .none) : e' = e := by
  rw [Line.terminator_endedBy] at h
  split at h
  · exact absurd h.symm he'
  · exact h.symm

/-- Lines with one ending stay apart: no line feed comes behind a carriage return, since all are the same. -/
theorem canonical_map_endedBy (he : e ≠ .none) {ls : List Line} (h : Canonical ls) :
    Canonical (ls.map (Line.endedBy e)) := by
  induction ls with
  | nil => trivial
  | cons l ls ih =>
    obtain ⟨hl, hls⟩ := h
    refine ⟨⟨by simpa using hl.unbroken, fun ht => ?_, fun ht hlf => ?_⟩, ih hls⟩
    · rw [Line.terminator_endedBy] at ht
      split at ht
      · rename_i hn
        obtain ⟨hne, rfl⟩ := hl.ended hn
        exact ⟨by simpa using hne, rfl⟩
      · exact absurd ht he
    · cases ls with
      | nil => cases hlf
      | cons m ms =>
        have hm : m.endedBy e = ⟨[], .lf⟩ := by simpa using hlf
        have hcr := Line.eq_of_terminator_endedBy ht (by decide)
        have hlf := Line.eq_of_terminator_endedBy (congrArg Line.terminator hm) (by decide)
        rw [← hcr] at hlf
        cases hlf

/-- The lines keep their bodies when their endings change. -/
theorem splitLines_withEndings (he : e ≠ .none) (content : Text) :
    splitLines (withEndings e content) = (splitLines content).map (Line.endedBy e) :=
  splitLines_joinLines (canonical_map_endedBy he (canonical_splitLines content))

/-- A line is judged by its body. -/
theorem validateLines_map_endedBy (line : Nat) (ls : List Line) :
    validateLines line (ls.map (Line.endedBy e)) = validateLines line ls := by
  induction ls generalizing line with
  | nil => rfl
  | cons l ls ih => rw [List.map_cons, validateLines, validateLines, ih, Line.body_endedBy]

/-- A line is repaired by its body. -/
theorem Line.normal_endedBy (l : Line) : (l.endedBy e).normal = l.normal.endedBy e := by
  by_cases h : l.terminator = .none
  · have hn : l.normal.terminator = .none := h
    rw [Line.endedBy, if_pos h, Line.endedBy, if_pos hn]
  · have hn : l.normal.terminator ≠ .none := h
    rw [Line.endedBy, if_neg h, Line.endedBy, if_neg hn]
    rfl

/-- **Line endings do not matter.** A text in which all terminators are replaced by one of the three has the same
findings, takes as many repairs, and is repaired to the repaired text with its terminators replaced. -/
theorem line_endings_do_not_matter (he : e ≠ .none) (content : Text) :
    validate (withEndings e content) = validate content ∧
      (repair (withEndings e content)).text = withEndings e (repair content).text ∧
      (repair (withEndings e content)).applied = (repair content).applied := by
  have hs := splitLines_withEndings he content
  have hnormal : ((splitLines content).map (Line.endedBy e)).map Line.normal =
      ((splitLines content).map Line.normal).map (Line.endedBy e) := by
    rw [List.map_map, List.map_map]
    exact List.map_congr_left fun l _ => l.normal_endedBy
  have hcount : ((splitLines content).map (Line.endedBy e)).map (fun l => repairCount l.body) =
      (splitLines content).map fun l => repairCount l.body := by
    rw [List.map_map]
    exact List.map_congr_left fun l _ => congrArg repairCount l.body_endedBy
  refine ⟨?_, ?_, ?_⟩
  · rw [validate, hs, validateLines_map_endedBy, validate]
  · calc (repair (withEndings e content)).text
        = joinLines (((splitLines content).map (Line.endedBy e)).map Line.normal) := by rw [repair_eq, hs]
      _ = joinLines ((splitLines (repair content).text).map (Line.endedBy e)) := by
        rw [hnormal, splitLines_repair_text]
      _ = withEndings e (repair content).text := rfl
  · rw [repair_eq, repair_eq, hs, hcount]

/-- Five lines with three kinds of terminators, of which one is blank and one misses both sides. -/
theorem line_endings_do_not_matter_sample :
    withEndings .crlf "a\r\n=\rb \n\nc".toList = "a\r\n=\r\nb \r\n\r\nc".toList ∧
      validate "a\r\n=\r\nb \r\n\r\nc".toList = validate "a\r\n=\rb \n\nc".toList ∧
      validate "a\r\n=\rb \n\nc".toList =
        [⟨.missingEqual, 0, 0, 1⟩, ⟨.missing .key, 1, 0, 0⟩, ⟨.missing .value, 1, 1, 1⟩, ⟨.missingEqual, 2, 0, 2⟩,
          ⟨.missingEqual, 4, 0, 1⟩] ∧
      (repair "a\r\n=\r\nb \r\n\r\nc".toList).text = "a = \r\n=\r\nb =  \r\n\r\nc = ".toList ∧
      (repair "a\r\n=\r\nb \r\n\r\nc".toList).applied = 3 := by
  have htext : withEndings .crlf "a\r\n=\rb \n\nc".toList = "a\r\n=\r\nb \r\n\r\nc".toList := by decide
  have hrepair : repair "a\r\n=\rb \n\nc".toList = ⟨"a = \r\n=\rb =  \n\nc = ".toList, 3⟩ := by
    rw [repair_eq]
    decide
  have hsame := line_endings_do_not_matter (e := .crlf) (by decide) "a\r\n=\rb \n\nc".toList
  rw [htext, hrepair] at hsame
  obtain ⟨hfindings, hrepaired, hcount⟩ := hsame
  exact ⟨htext, hfindings, by decide, hrepaired.trans (by decide), hcount⟩

end Endings

end Keyline
