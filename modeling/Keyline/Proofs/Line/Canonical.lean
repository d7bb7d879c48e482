import Mathlib.Data.List.Forall2
import Keyline.Line.Split

/-!
# Canonical lists of lines

A list of lines is *canonical* when it is the split of the text it makes up.

* Every split is canonical (`canonical_splitLines`): a character put in front of a canonical list gives a canonical
  list (`canonical_prepend`).
* A canonical list is split again into the same lines (`splitLines_joinLines`), since a line that fits in front of a
  text is split off from it (`splitLines_text_append`).
* A list stays canonical when bodies change without getting a line break and without vanishing
  (`Canonical.of_reshapes`, `Canonical.set`). A body that vanished between a carriage return and a line feed would
  glue two lines together.
-/

namespace Keyline

/-- A text without line breaks. -/
def Unbroken (t : Text) : Prop := '\n' ∉ t ∧ '\r' ∉ t

/-- What a split promises of a line with the lines `rest` behind it. -/
structure Line.Fits (l : Line) (rest : List Line) : Prop where
  unbroken : Unbroken l.body
  ended : l.terminator = .none → l.body ≠ [] ∧ rest = []
  apart : l.terminator = .cr → rest.head? ≠ some ⟨[], .lf⟩

/-- Lists of lines in which every line fits in front of the lines behind it. -/
def Canonical : List Line → Prop
  | [] => True
  | l :: ls => l.Fits ls ∧ Canonical ls

theorem unbroken_nil : Unbroken [] := ⟨by simp, by simp⟩

theorem unbroken_cons {c : Char} {t : Text} : Unbroken (c :: t) ↔ c ≠ '\n' ∧ c ≠ '\r' ∧ Unbroken t := by
  simp only [Unbroken, List.mem_cons, not_or]
  constructor
  · rintro ⟨⟨hn, htn⟩, hr, htr⟩
    exact ⟨Ne.symm hn, Ne.symm hr, htn, htr⟩
  · rintro ⟨hn, hr, htn, htr⟩
    exact ⟨⟨Ne.symm hn, htn⟩, Ne.symm hr, htr⟩

theorem unbroken_append {s t : Text} : Unbroken (s ++ t) ↔ Unbroken s ∧ Unbroken t := by
  simp only [Unbroken, List.mem_append, not_or]
  constructor
  · rintro ⟨⟨hs, ht⟩, hs', ht'⟩
    exact ⟨⟨hs, hs'⟩, ht, ht'⟩
  · rintro ⟨⟨hs, hs'⟩, ht, ht'⟩
    exact ⟨⟨hs, ht⟩, hs', ht'⟩

/-! ## One character in front -/

namespace Line

theorem prepend_lf (ls : List Line) : prepend '\n' ls = ⟨[], .lf⟩ :: ls := by
  cases ls <;> simp [prepend]

theorem prepend_cr {ls : List Line} (h : ls.head? ≠ some ⟨[], .lf⟩) : prepend '\r' ls = ⟨[], .cr⟩ :: ls := by
  cases ls with
  | nil => simp [prepend]
  | cons l ls =>
    have hl : l ≠ ⟨[], .lf⟩ := by simpa using h
    simp [prepend, hl]

theorem prepend_cr_lf (ls : List Line) : prepend '\r' (⟨[], .lf⟩ :: ls) = ⟨[], .crlf⟩ :: ls := by
  simp [prepend]

theorem prepend_nil {c : Char} (hn : c ≠ '\n') (hr : c ≠ '\r') : prepend c [] = [⟨[c], .none⟩] := by
  simp [prepend, hn, hr]

theorem prepend_cons {c : Char} (hn : c ≠ '\n') (hr : c ≠ '\r') (l : Line) (ls : List Line) :
    prepend c (l :: ls) = l.withBody (c :: l.body) :: ls := by
  simp [prepend, hn, hr]

/-- A line with an empty body and a full terminator fits wherever the two characters of a break stay apart. -/
theorem fits_empty {e : Terminator} {rest : List Line} (he : e ≠ .none)
    (ha : e = .cr → rest.head? ≠ some ⟨[], .lf⟩) : Fits ⟨[], e⟩ rest :=
  ⟨unbroken_nil, fun h => absurd h he, ha⟩

end Line

/-- A character in front of a canonical list gives a canonical list. -/
theorem canonical_prepend (c : Char) {ls : List Line} (h : Canonical ls) : Canonical (Line.prepend c ls) := by
  by_cases hn : c = '\n'
  · subst hn
    rw [Line.prepend_lf]
    exact ⟨Line.fits_empty (by decide) (fun h => by cases h), h⟩
  · by_cases hr : c = '\r'
    · subst hr
      by_cases hl : ls.head? = some ⟨[], .lf⟩
      · obtain ⟨ls', rfl⟩ := List.head?_eq_some_iff.mp hl
        rw [Line.prepend_cr_lf]
        exact ⟨Line.fits_empty (by decide) (fun h => by cases h), h.2⟩
      · rw [Line.prepend_cr hl]
        exact ⟨Line.fits_empty (by decide) (fun _ => hl), h⟩
    · cases ls with
      | nil =>
        rw [Line.prepend_nil hn hr]
        refine ⟨⟨unbroken_cons.mpr ⟨hn, hr, unbroken_nil⟩, fun _ => ⟨by simp, rfl⟩, fun h => by cases h⟩, trivial⟩
      | cons l ls =>
        rw [Line.prepend_cons hn hr]
        obtain ⟨hl, hls⟩ := h
        refine ⟨⟨unbroken_cons.mpr ⟨hn, hr, hl.unbroken⟩, fun ht => ⟨?_, (hl.ended ht).2⟩, hl.apart⟩, hls⟩
        exact List.cons_ne_nil _ _

/-- Every split is canonical. -/
theorem canonical_splitLines (t : Text) : Canonical (splitLines t) := by
  induction t with
  | nil => trivial
  | cons c t ih => exact canonical_prepend c ih

/-! ## Splitting what was joined -/

theorem splitLines_eq_nil_iff {t : Text} : splitLines t = [] ↔ t = [] := by
  constructor
  · intro h
    rw [← joinLines_splitLines t, h, joinLines_nil]
  · rintro rfl
    rfl

/-- A text without breaks is one line without terminator. -/
theorem splitLines_unbroken {body : Text} (hb : Unbroken body) (hne : body ≠ []) :
    splitLines body = [⟨body, .none⟩] := by
  induction body with
  | nil => exact absurd rfl hne
  | cons c t ih =>
    obtain ⟨hn, hr, ht⟩ := unbroken_cons.mp hb
    cases t with
    | nil => exact Line.prepend_nil hn hr
    | cons d t =>
      rw [splitLines_cons, ih ht (by simp), Line.prepend_cons hn hr]
      rfl

/-- A text without breaks in front of a text becomes part of its first line. -/
theorem splitLines_unbroken_append {body t : Text} {l : Line} {ls : List Line} (hb : Unbroken body)
    (h : splitLines t = l :: ls) : splitLines (body ++ t) = l.withBody (body ++ l.body) :: ls := by
  induction body with
  | nil => exact h
  | cons c b ih =>
    obtain ⟨hn, hr, hb⟩ := unbroken_cons.mp hb
    rw [List.cons_append, splitLines_cons, ih hb, Line.prepend_cons hn hr]
    rfl

/-- A terminator in front of a text ends an empty line. -/
theorem splitLines_terminator_append {e : Terminator} {t : Text} (he : e ≠ .none)
    (ha : e = .cr → (splitLines t).head? ≠ some ⟨[], .lf⟩) : splitLines (e.text ++ t) = ⟨[], e⟩ :: splitLines t := by
  cases e with
  | none => exact absurd rfl he
  | lf => exact Line.prepend_lf _
  | cr => exact Line.prepend_cr (ha rfl)
  | crlf =>
    simp only [Terminator.text, List.cons_append, List.nil_append, splitLines_cons]
    rw [Line.prepend_lf, Line.prepend_cr_lf]

/-- A line that fits in front of a text is split off from it. -/
theorem splitLines_text_append {l : Line} {t : Text} (h : l.Fits (splitLines t)) :
    splitLines (l.text ++ t) = l :: splitLines t := by
  obtain ⟨body, e⟩ := l
  by_cases he : e = .none
  · subst he
    obtain ⟨hne, ht⟩ := h.ended rfl
    obtain rfl := splitLines_eq_nil_iff.mp ht
    simpa [Line.text, Terminator.text] using splitLines_unbroken h.unbroken hne
  · have hs := splitLines_unbroken_append h.unbroken (splitLines_terminator_append he h.apart)
    simpa [Line.text, Line.withBody] using hs

/-- A canonical list is the split of the text it makes up. -/
theorem splitLines_joinLines {ls : List Line} (h : Canonical ls) : splitLines (joinLines ls) = ls := by
  induction ls with
  | nil => rfl
  | cons l ls ih =>
    obtain ⟨hl, hls⟩ := h
    have hs := ih hls
    rw [joinLines_cons, splitLines_text_append (by rw [hs]; exact hl), hs]

/-! ## Changing bodies -/

/-- Two lines with one terminator, the second without a new break and empty only if the first is. -/
structure Line.Reshapes (l l' : Line) : Prop where
  terminator : l'.terminator = l.terminator
  unbroken : Unbroken l.body → Unbroken l'.body
  body_eq_nil : l'.body = [] → l.body = []

theorem Line.Reshapes.refl (l : Line) : l.Reshapes l := ⟨rfl, id, id⟩

theorem Line.Reshapes.trans {l l' l'' : Line} (h : l.Reshapes l') (h' : l'.Reshapes l'') : l.Reshapes l'' :=
  ⟨h'.terminator.trans h.terminator, fun hu => h'.unbroken (h.unbroken hu), fun hb => h.body_eq_nil (h'.body_eq_nil hb)⟩

/-- Reshaped lines fit where the lines themselves do. -/
theorem Line.Fits.of_reshapes {l l' : Line} {ls ls' : List Line} (hf : l.Fits ls) (h : l.Reshapes l')
    (hs : List.Forall₂ Reshapes ls ls') : l'.Fits ls' := by
  refine ⟨h.unbroken hf.unbroken, fun ht => ?_, fun ht => ?_⟩
  · obtain ⟨hne, rfl⟩ := hf.ended (h.terminator ▸ ht)
    exact ⟨fun hb => hne (h.body_eq_nil hb), List.forall₂_nil_left_iff.mp hs⟩
  · have ha := hf.apart (h.terminator ▸ ht)
    cases hs with
    | nil => simp
    | @cons m m' ms ms' hm _ =>
      intro hm'
      obtain rfl : m' = ⟨[], .lf⟩ := by simpa using hm'
      obtain ⟨body, e⟩ := m
      -- The line behind was an empty line feed before it was reshaped.
      obtain rfl : body = [] := hm.body_eq_nil rfl
      obtain rfl : e = .lf := hm.terminator.symm
      exact ha rfl

/-- A list of lines stays canonical when its lines are reshaped. -/
theorem Canonical.of_reshapes {ls ls' : List Line} (h : Canonical ls) (hs : List.Forall₂ Line.Reshapes ls ls') :
    Canonical ls' := by
  induction hs with
  | nil => trivial
  | cons hl hls ih => exact ⟨h.1.of_reshapes hl hls, ih h.2⟩

/-- A list of lines stays canonical when one line is reshaped. -/
theorem Canonical.replace {before after : List Line} {l l' : Line} (h : Canonical (before ++ l :: after))
    (hl : l.Reshapes l') : Canonical (before ++ l' :: after) := by
  have hrefl : ∀ ls : List Line, List.Forall₂ Line.Reshapes ls ls :=
    fun ls => List.forall₂_same.mpr fun m _ => Line.Reshapes.refl m
  exact h.of_reshapes (List.rel_append (hrefl before) (.cons hl (hrefl after)))

/-- Lines cut at one of them; the same cut shows what setting that line does. -/
theorem cut_at_line {ls : List Line} {i : Nat} {l : Line} (hi : ls[i]? = some l) :
    ls = ls.take i ++ l :: ls.drop (i + 1) ∧ ∀ l', ls.set i l' = ls.take i ++ l' :: ls.drop (i + 1) := by
  obtain ⟨hlt, rfl⟩ := List.getElem?_eq_some_iff.mp hi
  constructor
  · rw [← List.drop_eq_getElem_cons hlt, List.take_append_drop]
  · intro l'
    rw [List.set_eq_take_append_cons_drop, if_pos hlt]

theorem Canonical.set {ls : List Line} {i : Nat} {l l' : Line} (h : Canonical ls) (hi : ls[i]? = some l)
    (hl : l.Reshapes l') : Canonical (ls.set i l') := by
  obtain ⟨hcut, hset⟩ := cut_at_line hi
  rw [hcut] at h
  rw [hset]
  exact h.replace hl

end Keyline
