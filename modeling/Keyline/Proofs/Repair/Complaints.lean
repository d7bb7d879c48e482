import Mathlib.Tactic.TFAE
import Keyline.Proofs.Repair.Content

/-!
# Findings before and after repair

* A line needs a repair exactly when it has a finding that is not about a missing side (`repairCount_eq_zero_iff`). So a
  text takes no repair, stays as it is, and has only missing sides, all three or none (`repair_unneeded_tfae`).
* A finding is about a line and, where there is a separator, about one of its sides: its *place*. Every place that the
  repaired text has findings about had findings before, in the same order (`places_repair_sublist`). Cleaning a side can
  empty it, but then it had a fault; and it can turn the line into a record, but never keep it from being one.
-/

namespace Keyline

/-! ## Texts that take no repair -/

/-- The kinds that are not repaired are those of the missing sides. -/
theorem Kind.exists_eq_missing_iff {k : Kind} :
    (∃ s, k = .missing s) ↔ k ∉ [.missingEqual, .invalid .key, .invalid .value] := by
  rcases k with _ | s | s
  · simp
  · simp
  · cases s <;> simp

/-- A line needs no repair exactly when its findings are about missing sides. -/
theorem repairCount_eq_zero_iff (line : Nat) {body : Text} :
    repairCount body = 0 ↔ ∀ f ∈ validateLine line body, ∃ s, f.kind = .missing s := by
  constructor
  · intro hc f hf
    rcases kind_of_mem_validateLine hc hf with h | h
    · exact ⟨_, h⟩
    · exact ⟨_, h⟩
  · intro h
    -- A missing side offers no repair, so none of the findings does.
    have hnone : nextRepair? line body = none := by
      rw [nextRepair?, List.findSome?_eq_none_iff]
      intro f hf
      obtain ⟨s, hs⟩ := h f hf
      simp [Finding.repair?, Finding.fix?, hs]
    exact repairCount_of_nextRepair?_eq_none hnone

/-- A text that is repaired to itself takes no repair. -/
theorem applied_of_repair_text_eq_self {content : Text} (h : (repair content).text = content) :
    (repair content).applied = 0 := by
  have hagain := repair_repair_text content
  rw [h] at hagain
  rw [hagain]

/-- Taking no repair, staying as it is, and having nothing to repair are one and the same for a text. -/
theorem repair_unneeded_tfae (content : Text) :
    List.TFAE [(repair content).applied = 0, (repair content).text = content,
      ∀ f ∈ validate content, f.kind ∉ [.missingEqual, .invalid .key, .invalid .value]] := by
  tfae_have 1 → 2 := repair_text_of_applied_eq_zero
  tfae_have 2 → 1 := applied_of_repair_text_eq_self
  tfae_have 1 ↔ 3 := by
    rw [repair_applied_eq_zero_iff]
    simp only [← Kind.exists_eq_missing_iff]
    constructor
    · intro h f hf
      obtain ⟨l, hl, hfl⟩ := mem_validate_iff.mp hf
      exact (repairCount_eq_zero_iff f.line).mp (h l (List.mem_of_getElem? hl)) f hfl
    · intro h l hl
      obtain ⟨i, hi⟩ := List.mem_iff_getElem?.mp hl
      refine (repairCount_eq_zero_iff i).mpr fun f hf => ?_
      obtain rfl := line_of_mem_validateLine hf
      exact h f (mem_validate_iff.mpr ⟨l, hi, hf⟩)
  tfae_finish

/-! ## Places of findings -/

/-- The side that a kind of finding is about; a missing separator is about none. -/
def Kind.side? : Kind → Option Side
  | missingEqual => none
  | missing s => some s
  | invalid s => some s

/-- What a finding is about: a line, and perhaps a side of it. -/
def Finding.place (f : Finding) : Nat × Option Side := (f.line, f.kind.side?)

theorem Kind.side?_eq_some_iff {k : Kind} {s : Side} : k.side? = some s ↔ k = .missing s ∨ k = .invalid s := by
  cases k <;> simp [Kind.side?]

section Places

variable (line : Nat)

/-- A side has a finding when it has only blanks or a character that does not belong there. -/
theorem Side.places_findings (s : Side) (offset : Nat) (t : Text) :
    (s.findings line offset t).map Finding.place =
      if isBlankText t = true ∨ s.alphabet.accepts t = false then [(line, some s)] else [] := by
  rw [Side.findings_eq]
  by_cases hb : isBlankText t = true
  · rw [if_pos hb, if_pos (Or.inl hb)]
    rfl
  · by_cases ha : s.alphabet.accepts t = true
    · rw [if_neg hb, if_pos ha, if_neg (by simp [hb, ha])]
      rfl
    · rw [if_neg hb, if_neg ha, if_pos (by simp [ha])]
      rfl

/-- Cleaning a side gives it no fault that it did not have in one form or another. -/
theorem Side.places_clean_sublist (s : Side) (offset offset' : Nat) (t : Text) :
    ((s.findings line offset (s.alphabet.clean t)).map Finding.place).Sublist
      ((s.findings line offset' t).map Finding.place) := by
  rw [Side.places_findings, Side.places_findings]
  by_cases ha : s.alphabet.accepts t = true
  · rw [Alphabet.clean_eq_self_iff.mpr ha]
  · have hfault : isBlankText t = true ∨ s.alphabet.accepts t = false := Or.inr (by simpa using ha)
    rw [if_pos hfault]
    split
    · exact List.Sublist.refl _
    · exact List.nil_sublist _

/-- The normal form of a line has findings only at places where the line has findings. -/
theorem places_normalBody_sublist (body : Text) :
    ((validateLine line (normalBody body)).map Finding.place).Sublist
      ((validateLine line body).map Finding.place) := by
  rcases not_mem_or_append_equal body with he | ⟨key, value, hk, rfl⟩
  · rw [validateLine_normalBody_of_not_mem he]
    exact List.nil_sublist _
  · by_cases hr : (Side.key.fills key && Side.value.fills value) = true
    · -- A record is its own normal form.
      obtain ⟨hkf, hvf⟩ := Bool.and_eq_true_iff.mp hr
      have hka := (Bool.and_eq_true_iff.mp hkf).2
      have hva := (Bool.and_eq_true_iff.mp hvf).2
      rw [normalBody_append_equal value hk, Alphabet.clean_eq_self_iff.mpr hka, Alphabet.clean_eq_self_iff.mpr hva]
    · rw [normalBody_append_equal value hk, validateLine_append_equal (Alphabet.not_mem_clean hk),
        validateLine_append_equal hk, if_neg hr]
      split
      · exact List.nil_sublist _
      · rw [List.map_append, List.map_append]
        exact (Side.key.places_clean_sublist line _ _ key).append (Side.value.places_clean_sublist line _ _ value)

theorem places_validateLines_sublist (ls : List Line) :
    ((validateLines line (ls.map Line.normal)).map Finding.place).Sublist
      ((validateLines line ls).map Finding.place) := by
  induction ls generalizing line with
  | nil => exact List.Sublist.refl _
  | cons l ls ih =>
    rw [List.map_cons, validateLines, validateLines, List.map_append, List.map_append]
    exact (places_normalBody_sublist line l.body).append (ih (line + 1))

end Places

/-- The repaired text has findings only at places where the text has findings. -/
theorem places_repair_sublist (content : Text) :
    ((validate (repair content).text).map Finding.place).Sublist ((validate content).map Finding.place) := by
  rw [validate, splitLines_repair_text]
  exact places_validateLines_sublist 0 (splitLines content)

theorem map_place_findingsOn (content : Text) (i : Nat) :
    (findingsOn content i).map Finding.place = ((validate content).map Finding.place).filter (·.1 = i) := by
  rw [findingsOn, List.filter_map]
  rfl

/-- **Repair adds no complaint.** Each finding of the repaired text is about a missing side, and the text had a finding
about that side of that line before. No line has more findings than before, and neither has the text. -/
theorem repair_adds_no_complaint (content : Text) :
    (∀ g ∈ validate (repair content).text, ∃ s, g.kind = .missing s ∧
        ∃ f ∈ validate content, f.line = g.line ∧ (f.kind = .missing s ∨ f.kind = .invalid s)) ∧
      (∀ i, (findingsOn (repair content).text i).length ≤ (findingsOn content i).length) ∧
      (validate (repair content).text).length ≤ (validate content).length := by
  have hsub := places_repair_sublist content
  refine ⟨fun g hg => ?_, fun i => ?_, ?_⟩
  · obtain ⟨l, _, hgl⟩ := mem_validate_repair_text_iff.mp hg
    obtain ⟨s, hs⟩ := (repairCount_eq_zero_iff g.line).mp (repairCount_normalBody l.body) g hgl
    obtain ⟨f, hf, hplace⟩ := List.mem_map.mp (hsub.subset (List.mem_map_of_mem hg))
    obtain ⟨hline, hside⟩ := Prod.mk.inj hplace
    rw [hs] at hside
    exact ⟨s, hs, f, hf, hline, Kind.side?_eq_some_iff.mp hside⟩
  · have h := (hsub.filter (·.1 = i)).length_le
    rwa [← map_place_findingsOn, ← map_place_findingsOn, List.length_map, List.length_map] at h
  · have h := hsub.length_le
    rwa [List.length_map, List.length_map] at h

example : (validate (repair "@=  \n  =v.".toList).text).map Finding.kind = [.missing .key, .missing .value] := by
  rw [repair_eq]
  decide

end Keyline
