import Keyline.Proofs.Validation.Grammar

/-!
# The sides of a line and each other

A line with a separator has findings about its key and findings about its value (`sideFindings`). Mostly a side is
judged by its own text. The exception is a *bare* side, one with blanks only and at least one of them: the line is a
record if the other side is good enough for one, and otherwise the bare side is missed.

* A side that is not bare and fills its place has no finding anyway, so it makes no difference to it whether the line is
  a record (`Side.findings_of_not_isBare`).
* A bare side fills its place, so the other side alone decides (`Side.findings_of_isBare`).
-/

namespace Keyline

/-- Whether a side has blanks only and at least one of them. -/
def isBare (text : Text) : Bool := !text.isEmpty && isBlankText text

/-- The findings of a line that are about a side. -/
def sideFindings (s : Side) (line : Nat) (body : Text) : List Finding :=
  (validateLine line body).filter fun f => f.kind ∈ [.missing s, .invalid s]

variable {line : Nat} {key value : Text}

/-! ## The findings about one side -/

theorem Side.filter_findings (s : Side) (offset : Nat) (text : Text) :
    (s.findings line offset text).filter (fun f => f.kind ∈ [.missing s, .invalid s]) =
      s.findings line offset text := by
  refine List.filter_eq_self.mpr fun f hf => ?_
  simpa using Side.kind_of_mem_findings hf

theorem Side.filter_findings_of_ne {s s' : Side} (h : s' ≠ s) (offset : Nat) (text : Text) :
    (s'.findings line offset text).filter (fun f => f.kind ∈ [.missing s, .invalid s]) = [] := by
  refine List.filter_eq_nil_iff.mpr fun f hf => ?_
  rcases Side.kind_of_mem_findings hf with hk | hk <;> simp [hk, h]

theorem sideFindings_key (hk : '=' ∉ key) :
    sideFindings .key line (key ++ '=' :: value) =
      if Side.key.fills key && Side.value.fills value then [] else Side.key.findings line 0 key := by
  rw [sideFindings, validateLine_append_equal hk]
  split
  · rfl
  · rw [List.filter_append, Side.filter_findings, Side.filter_findings_of_ne (by decide), List.append_nil]

theorem sideFindings_value (hk : '=' ∉ key) :
    sideFindings .value line (key ++ '=' :: value) =
      if Side.value.fills value && Side.key.fills key then [] else Side.value.findings line (key.length + 1) value := by
  rw [sideFindings, validateLine_append_equal hk, Bool.and_comm]
  split
  · rfl
  · rw [List.filter_append, Side.filter_findings, Side.filter_findings_of_ne (by decide), List.nil_append]

/-! ## A side beside another one -/

section Beside

variable {s : Side} {text : Text} {offset : Nat}

/-- A side that is not bare is judged by its own text, whatever stands on the other side. -/
theorem Side.findings_of_not_isBare (h : isBare text = false) (otherFills : Bool) :
    (if s.fills text && otherFills then [] else s.findings line offset text) = s.findings line offset text := by
  split
  · -- On a record the side is not empty and every character belongs there; as it is not bare, it has no finding.
    rename_i hr
    obtain ⟨hne, ha⟩ := Side.fills_iff.mp (Bool.and_eq_true_iff.mp hr).1
    have hb : isBlankText text = false := by simpa [isBare, hne] using h
    exact (Side.findings_eq_nil_iff.mpr ⟨hb, Alphabet.accepts_iff.mpr ha⟩).symm
  · rfl

/-- A bare side is missed exactly when the other side keeps the line from being a record. -/
theorem Side.findings_of_isBare (h : isBare text = true) (otherFills : Bool) :
    (if s.fills text && otherFills then [] else s.findings line offset text) =
      if otherFills then [] else [s.missingFinding line offset text] := by
  obtain ⟨hne, hb⟩ := Bool.and_eq_true_iff.mp h
  have hf : s.fills text = true := by
    rw [Side.fills, hne, s.accepts_of_isBlankText hb]
    rfl
  rw [hf, Bool.true_and, Side.findings_eq, if_pos hb]

end Beside

/-- The kinds of the findings of a side do not depend on where it starts. -/
theorem Side.kinds_findings (s : Side) (line offset offset' : Nat) (text : Text) :
    (s.findings line offset text).map Finding.kind = (s.findings line offset' text).map Finding.kind := by
  rw [Side.findings_eq, Side.findings_eq]
  split
  · rfl
  · split <;> rfl

/-- **A side is judged apart from the other one unless it is bare.** Two lines with the same text before their first
separator have the same findings about the key, unless that text is bare. A bare key is missed on just those lines on
which the value is not good enough for a record. Two lines with the same text behind their first separator have
findings of the same kinds about the value, unless that text is bare. A bare value is missed on just those lines on
which the key is not good enough for a record. -/
theorem sides_are_judged_apart_unless_bare (line : Nat) :
    (∀ key value value', '=' ∉ key →
        (isBare key = false →
          sideFindings .key line (key ++ '=' :: value) = sideFindings .key line (key ++ '=' :: value')) ∧
        (isBare key = true → sideFindings .key line (key ++ '=' :: value) =
          if Side.value.fills value then [] else [⟨.missing .key, line, 0, key.length⟩])) ∧
      ∀ key key' value, '=' ∉ key → '=' ∉ key' →
        (isBare value = false →
          (sideFindings .value line (key ++ '=' :: value)).map Finding.kind =
            (sideFindings .value line (key' ++ '=' :: value)).map Finding.kind) ∧
        (isBare value = true → (sideFindings .value line (key ++ '=' :: value)).map Finding.kind =
          if Side.key.fills key then [] else [.missing .value]) := by
  refine ⟨fun key value value' hk => ⟨fun hb => ?_, fun hb => ?_⟩,
    fun key key' value hk hk' => ⟨fun hb => ?_, fun hb => ?_⟩⟩
  · rw [sideFindings_key hk, sideFindings_key hk, Side.findings_of_not_isBare hb, Side.findings_of_not_isBare hb]
  · rw [sideFindings_key hk, Side.findings_of_isBare hb, Side.missingFinding, Nat.zero_add]
  · rw [sideFindings_value hk, sideFindings_value hk', Side.findings_of_not_isBare hb, Side.findings_of_not_isBare hb]
    exact Side.value.kinds_findings line _ _ value
  · rw [sideFindings_value hk, Side.findings_of_isBare hb]
    split <;> rfl

/-- A bare key is no fault beside a good value and one beside a bad value, and likewise a bare value. -/
theorem bare_sides_are_not_judged_apart :
    (sides? " =v".toList = some ([' '], ['v']) ∧ sides? " =v.".toList = some ([' '], ['v', '.']) ∧
        sideFindings .key 0 " =v".toList ≠ sideFindings .key 0 " =v.".toList) ∧
      sides? "k= ".toList = some (['k'], [' ']) ∧ sides? "@= ".toList = some (['@'], [' ']) ∧
        (sideFindings .value 0 "k= ".toList).map Finding.kind ≠
          (sideFindings .value 0 "@= ".toList).map Finding.kind := by
  decide

end Keyline
