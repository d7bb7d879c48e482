import Mathlib.Algebra.GroupWithZero.Nat
import Keyline.Proofs.Repair.NormalForm

/-!
# Repairing a whole text

A text is repaired line by line, and the repaired bodies are glued to their old terminators (`repair_eq`). No repair
breaks a line or empties one, so the repaired text splits into the repaired lines (`splitLines_repair_text`), and the
other statements are about single lines:

* a line in normal form needs no repair, so repairing again changes nothing (`repair_repair_text`);
* what is left to complain about is a side that cleaning has emptied or that was empty from the start
  (`kind_of_mem_validateLine`, `validateLine_normalBody_ne_nil_iff`).
-/

namespace Keyline

/-- A line with its body in normal form. -/
def Line.normal (l : Line) : Line := l.withBody (normalBody l.body)

/-- Repaired lines are lines in normal form. -/
theorem repairLines_eq (line : Nat) (ls : List Line) :
    repairLines line ls = ⟨joinLines (ls.map Line.normal), (ls.map fun l => repairCount l.body).sum⟩ := by
  induction ls generalizing line with
  | nil => rfl
  | cons l ls ih =>
    rw [repairLines, ih, repairLine_eq, List.map_cons, List.map_cons, joinLines_cons, List.sum_cons]
    rfl

theorem repair_eq (content : Text) :
    repair content = ⟨joinLines ((splitLines content).map Line.normal),
      ((splitLines content).map fun l => repairCount l.body).sum⟩ :=
  repairLines_eq 0 _

theorem canonical_map_normal {ls : List Line} (h : Canonical ls) : Canonical (ls.map Line.normal) := by
  refine h.of_reshapes (List.forall₂_map_right_iff.mpr (List.forall₂_same.mpr fun l _ => ?_))
  exact reshapes_normalBody l.body l.terminator

/-- The repaired text splits into the repaired lines. -/
theorem splitLines_repair_text (content : Text) :
    splitLines (repair content).text = (splitLines content).map Line.normal := by
  rw [repair_eq]
  exact splitLines_joinLines (canonical_map_normal (canonical_splitLines content))

/-! ## Repairing again -/

theorem Line.normal_normal (l : Line) : l.normal.normal = l.normal := by
  have h : normalBody (normalBody l.body) = normalBody l.body :=
    normalBody_of_repairCount_eq_zero (repairCount_normalBody l.body)
  show l.withBody (normalBody (normalBody l.body)) = l.withBody (normalBody l.body)
  rw [h]

/-- A repaired text needs no repair. -/
theorem repair_repair_text (content : Text) : repair (repair content).text = ⟨(repair content).text, 0⟩ := by
  have hc : ((splitLines content).map Line.normal).map (fun l => repairCount l.body) =
      (splitLines content).map fun _ => 0 := by
    rw [List.map_map]
    exact List.map_congr_left fun l _ => repairCount_normalBody l.body
  have hn : ((splitLines content).map Line.normal).map Line.normal = (splitLines content).map Line.normal := by
    rw [List.map_map]
    exact List.map_congr_left fun l _ => l.normal_normal
  rw [repair_eq (repair content).text, splitLines_repair_text, hc, hn, repair_eq content]
  simp

/-- A text takes no repair exactly when none of its lines needs one. -/
theorem repair_applied_eq_zero_iff {content : Text} :
    (repair content).applied = 0 ↔ ∀ l ∈ splitLines content, repairCount l.body = 0 := by
  rw [repair_eq]
  show ((splitLines content).map fun l => repairCount l.body).sum = 0 ↔ _
  rw [List.sum_eq_zero_iff_forall_eq_nat, List.forall_mem_map]

/-- A text that takes no repair stays as it is. -/
theorem repair_text_of_applied_eq_zero {content : Text} (h : (repair content).applied = 0) :
    (repair content).text = content := by
  have hn : (splitLines content).map Line.normal = (splitLines content).map id := by
    refine List.map_congr_left fun l hl => ?_
    show l.withBody (normalBody l.body) = l
    rw [normalBody_of_repairCount_eq_zero (repair_applied_eq_zero_iff.mp h l hl)]
    rfl
  rw [repair_eq]
  show joinLines ((splitLines content).map Line.normal) = content
  rw [hn, List.map_id, joinLines_splitLines]

/-- **Repairing keeps the lines and is idempotent.** -/
theorem repair_keeps_lines_and_idempotent (content : Text) :
    splitLines (repair content).text =
        (splitLines content).mapIdx (fun i l => ⟨(repairLine i l.body).text, l.terminator⟩) ∧
      repair (repair content).text = ⟨(repair content).text, 0⟩ := by
  refine ⟨?_, repair_repair_text content⟩
  rw [splitLines_repair_text, eq_comm, List.mapIdx_eq_iff]
  intro i
  simp only [repairLine_eq, List.getElem?_map]
  rfl

/-! ## What is left to complain about -/

/-- A line that needs no repair has at most empty or blank sides. -/
theorem kind_of_mem_validateLine {line : Nat} {body : Text} {f : Finding} (hc : repairCount body = 0)
    (hf : f ∈ validateLine line body) : f.kind = .missing .key ∨ f.kind = .missing .value := by
  rcases origin_of_mem_validateLine hf with ⟨he, hb, rfl⟩ | ⟨key, value, hk, rfl, hs⟩
  · rw [repairCount_of_not_mem hb he] at hc
    omega
  · obtain ⟨hka, hva⟩ := accepts_of_repairCount_eq_zero hk hc
    rcases hs with hs | hs
    · rw [Side.eq_missingFinding_of_mem hka hs]
      exact Or.inl rfl
    · rw [Side.eq_missingFinding_of_mem hva hs]
      exact Or.inr rfl

/-- Two accepted sides make a faultless line exactly when neither is empty. -/
theorem validateLine_eq_nil_iff_of_accepts {line : Nat} {key value : Text} (hk : '=' ∉ key)
    (hka : Side.key.alphabet.accepts key = true) (hva : Side.value.alphabet.accepts value = true) :
    validateLine line (key ++ '=' :: value) = [] ↔ key ≠ [] ∧ value ≠ [] := by
  constructor
  · intro h
    rw [validateLine_append_equal hk] at h
    -- An empty side keeps the line from being a record, and then it is missed.
    constructor
    · rintro rfl
      rw [if_neg (by simp [Side.fills])] at h
      exact Side.key.findings_ne_nil_of_isBlankText rfl (List.append_eq_nil_iff.mp h).1
    · rintro rfl
      rw [if_neg (by simp [Side.fills])] at h
      exact Side.value.findings_ne_nil_of_isBlankText rfl (List.append_eq_nil_iff.mp h).2
  · rintro ⟨hkn, hvn⟩
    rw [validateLine_append_equal hk, if_pos (by simp [Side.fills, hka, hva, hkn, hvn])]

/-- Cleaned sides make a faultless line exactly when neither is empty. -/
theorem validateLine_normalBody_append_equal {line : Nat} {key : Text} (value : Text) (hk : '=' ∉ key) :
    validateLine line (normalBody (key ++ '=' :: value)) = [] ↔
      Side.key.alphabet.clean key ≠ [] ∧ Side.value.alphabet.clean value ≠ [] := by
  rw [normalBody_append_equal value hk]
  exact validateLine_eq_nil_iff_of_accepts (Alphabet.not_mem_clean hk) (Alphabet.accepts_clean _ key)
    (Alphabet.accepts_clean _ value)

/-- A line that had no separator has no fault once it is in normal form: the new separator has a space on either
side. -/
theorem validateLine_normalBody_of_not_mem {line : Nat} {body : Text} (he : '=' ∉ body) :
    validateLine line (normalBody body) = [] := by
  by_cases hb : isBlankText body = true
  · rw [normalBody_of_isBlankText hb, validateLine_of_not_mem he, if_pos hb]
  · have hs : LineStep body (separated body) := (Repairs.separate (by simpa using hb) he).lineStep
    rw [← hs.normalBody_eq, separated_eq, validateLine_normalBody_append_equal _ (not_mem_separatedKey he)]
    constructor
    · simp [Alphabet.clean_append, Side.clean_space]
    · rw [Alphabet.clean_append, Side.clean_space]
      simp

/-- The normal form of a line has a fault exactly when the line had a separator and a side without any character that
belongs there. -/
theorem validateLine_normalBody_ne_nil_iff {line : Nat} {body : Text} :
    validateLine line (normalBody body) ≠ [] ↔
      ∃ key value, body = key ++ '=' :: value ∧ '=' ∉ key ∧
        (Side.key.alphabet.clean key = [] ∨ Side.value.alphabet.clean value = []) := by
  constructor
  · intro h
    rcases not_mem_or_append_equal body with he | ⟨key, value, hk, rfl⟩
    · exact absurd (validateLine_normalBody_of_not_mem he) h
    · rw [ne_eq, validateLine_normalBody_append_equal value hk] at h
      exact ⟨key, value, rfl, hk, by tauto⟩
  · rintro ⟨key, value, rfl, hk, h⟩
    rw [ne_eq, validateLine_normalBody_append_equal value hk]
    tauto

/-- The findings of a repaired text are those of the normal forms of its lines. -/
theorem mem_validate_repair_text_iff {content : Text} {f : Finding} :
    f ∈ validate (repair content).text ↔
      ∃ l, (splitLines content)[f.line]? = some l ∧ f ∈ validateLine f.line (normalBody l.body) := by
  rw [mem_validate_iff, splitLines_repair_text, List.getElem?_map]
  constructor
  · rintro ⟨m, hm, h⟩
    obtain ⟨l, hl, rfl⟩ := Option.map_eq_some_iff.mp hm
    exact ⟨l, hl, h⟩
  · rintro ⟨l, hl, h⟩
    exact ⟨l.normal, by rw [hl]; rfl, h⟩

theorem exists_mem_validate_repair_text_iff {content : Text} {i : Nat} :
    (∃ f ∈ validate (repair content).text, f.line = i) ↔
      ∃ l, (splitLines content)[i]? = some l ∧ validateLine i (normalBody l.body) ≠ [] := by
  constructor
  · rintro ⟨f, hf, rfl⟩
    obtain ⟨l, hl, h⟩ := mem_validate_repair_text_iff.mp hf
    exact ⟨l, hl, List.ne_nil_of_mem h⟩
  · rintro ⟨l, hl, h⟩
    obtain ⟨f, hf⟩ := List.exists_mem_of_ne_nil _ h
    obtain rfl := line_of_mem_validateLine hf
    exact ⟨f, mem_validate_repair_text_iff.mpr ⟨l, hl, hf⟩, rfl⟩

/-- **What repairing leaves.** Only missing sides, and those exactly on the lines that had a separator and a side
without any character that belongs there; a line that had no separator has no fault any more. -/
theorem validate_repair_text (content : Text) :
    (∀ f ∈ validate (repair content).text, f.kind = .missing .key ∨ f.kind = .missing .value) ∧
      (∀ i, (∃ f ∈ validate (repair content).text, f.line = i) ↔
        ∃ l key value, (splitLines content)[i]? = some l ∧ l.body = key ++ '=' :: value ∧ '=' ∉ key ∧
          (Side.key.alphabet.clean key = [] ∨ Side.value.alphabet.clean value = [])) ∧
      ∀ i l, (splitLines content)[i]? = some l → isBlankText l.body = false → '=' ∉ l.body →
        ∀ f ∈ validate (repair content).text, f.line ≠ i := by
  refine ⟨?_, ?_, ?_⟩
  · intro f hf
    obtain ⟨l, _, h⟩ := mem_validate_repair_text_iff.mp hf
    exact kind_of_mem_validateLine (repairCount_normalBody l.body) h
  · intro i
    rw [exists_mem_validate_repair_text_iff]
    simp only [validateLine_normalBody_ne_nil_iff]
    constructor
    · rintro ⟨l, hl, key, value, h⟩
      exact ⟨l, key, value, hl, h⟩
    · rintro ⟨l, key, value, hl, h⟩
      exact ⟨l, hl, key, value, h⟩
  · intro i l hl _ he f hf hi
    obtain ⟨m, hm, h⟩ := exists_mem_validate_repair_text_iff.mp ⟨f, hf, hi⟩
    obtain rfl : l = m := Option.some.inj (hl.symm.trans hm)
    exact h (validateLine_normalBody_of_not_mem he)

end Keyline
