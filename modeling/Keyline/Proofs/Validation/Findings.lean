import Keyline.Validation

/-!
# The findings of a line and of a text

* A line without separator has one finding unless it is blank (`validateLine_of_not_mem`); a line with a separator has
  the findings of its two sides unless it is a record (`validateLine_append_equal`). Every line is of one of these
  forms, so proofs about `validateLine` need not unfold it.
* A side is faulty when it has only blanks or a character that does not belong there (`Side.mem_findings_iff`). It has
  at most one finding, so a line has at most one finding of a kind (`eq_of_mem_validateLine`).
* A finding belongs to a text exactly when it belongs to the line that it names (`mem_validate_iff`), and its kind and
  line tell it apart from all others (`eq_of_mem_validate`). The findings that name a line are those of its body, and
  depend on no other line (`findingsOn_eq`).
-/

namespace Keyline

variable {line : Nat} {f : Finding}

/-! ## One side -/

/-- A text of blanks only may stand on either side. -/
theorem Side.accepts_of_isBlankText (s : Side) {t : Text} (h : isBlankText t = true) : s.alphabet.accepts t = true :=
  Alphabet.accepts_iff.mpr fun c hc => s.alphabet.allows_of_isBlank (List.all_eq_true.mp h c hc)

/-- What is wrong with a side: nothing but blanks, or a character that does not belong there. -/
theorem Side.mem_findings_iff {s : Side} {offset : Nat} {text : Text} :
    f ∈ s.findings line offset text ↔
      isBlankText text = true ∧ f = s.missingFinding line offset text ∨
        s.alphabet.accepts text = false ∧ f = s.invalidFinding line offset text := by
  rw [Side.findings_eq]
  by_cases hb : isBlankText text = true
  · have ha := s.accepts_of_isBlankText hb
    simp [hb, ha]
  · by_cases ha : s.alphabet.accepts text = true
    · simp [hb, ha]
    · simp [hb, ha]

/-- A side of blanks only, the empty one included, is missed. -/
theorem Side.findings_ne_nil_of_isBlankText (s : Side) {offset : Nat} {text : Text} (h : isBlankText text = true) :
    s.findings line offset text ≠ [] := by
  rw [Side.findings_eq, if_pos h]
  exact List.cons_ne_nil _ _

/-- An accepted side has at most the fault that it has only blanks. -/
theorem Side.eq_missingFinding_of_mem {s : Side} {offset : Nat} {text : Text} (ha : s.alphabet.accepts text = true)
    (h : f ∈ s.findings line offset text) : f = s.missingFinding line offset text := by
  rcases Side.mem_findings_iff.mp h with ⟨_, hf⟩ | ⟨hr, _⟩
  · exact hf
  · rw [ha] at hr
    cases hr

theorem Side.line_of_mem_findings {s : Side} {offset : Nat} {text : Text} (h : f ∈ s.findings line offset text) :
    f.line = line := by
  rcases Side.mem_findings_iff.mp h with ⟨_, rfl⟩ | ⟨_, rfl⟩ <;> rfl

theorem Side.kind_of_mem_findings {s : Side} {offset : Nat} {text : Text} (h : f ∈ s.findings line offset text) :
    f.kind = .missing s ∨ f.kind = .invalid s := by
  rcases Side.mem_findings_iff.mp h with ⟨_, rfl⟩ | ⟨_, rfl⟩
  · exact Or.inl rfl
  · exact Or.inr rfl

/-- A side has at most one finding. -/
theorem Side.eq_of_mem_findings {s : Side} {offset : Nat} {text : Text} {g : Finding}
    (hf : f ∈ s.findings line offset text) (hg : g ∈ s.findings line offset text) : f = g := by
  rw [Side.findings_eq] at hf hg
  by_cases hb : isBlankText text = true
  · rw [if_pos hb] at hf hg
    rw [List.mem_singleton.mp hf, List.mem_singleton.mp hg]
  · rw [if_neg hb] at hf hg
    split at hf
    · cases hf
    · rename_i ha
      rw [if_neg ha] at hg
      rw [List.mem_singleton.mp hf, List.mem_singleton.mp hg]

theorem Side.start_le_stop_of_mem_findings {s : Side} {offset : Nat} {text : Text}
    (h : f ∈ s.findings line offset text) : f.span.start ≤ f.span.stop := by
  rcases Side.mem_findings_iff.mp h with ⟨_, rfl⟩ | ⟨_, rfl⟩
  · exact Nat.le_add_right _ _
  · exact Nat.add_le_add_left (length_indentation_le text) offset

/-! ## One line -/

/-- A line is cut at its first separator, if it has one. -/
theorem not_mem_or_append_equal (body : Text) : '=' ∉ body ∨ ∃ key value, '=' ∉ key ∧ body = key ++ '=' :: value := by
  by_cases h : '=' ∈ body
  · obtain ⟨key, value, hb, hk⟩ := List.eq_append_cons_of_mem h
    exact Or.inr ⟨key, value, hk, hb⟩
  · exact Or.inl h

/-- There is one way to cut a line at its first separator. -/
theorem append_equal_inj {key key' value value' : Text} (hk : '=' ∉ key) (hk' : '=' ∉ key')
    (h : key ++ '=' :: value = key' ++ '=' :: value') : key = key' ∧ value = value' := by
  have hs := sides?_append_equal value hk
  rw [h, sides?_append_equal value' hk'] at hs
  obtain ⟨rfl, rfl⟩ := Prod.mk.inj (Option.some.inj hs)
  exact ⟨rfl, rfl⟩

theorem isBlankText_append_equal (key value : Text) : isBlankText (key ++ '=' :: value) = false := by
  have he : isBlank '=' = false := by decide
  simp [isBlankText, he]

theorem validateLine_of_not_mem {body : Text} (h : '=' ∉ body) :
    validateLine line body = if isBlankText body then [] else [missingEqualFinding line body] := by
  have hs := sides?_eq_none_iff.mpr h
  have hr : isRecord body = false := by simp [isRecord, hs]
  simp [validateLine, hs, hr]

theorem validateLine_append_equal {key value : Text} (h : '=' ∉ key) :
    validateLine line (key ++ '=' :: value) =
      if Side.key.fills key && Side.value.fills value then []
      else Side.key.findings line 0 key ++ Side.value.findings line (key.length + 1) value := by
  have hs := sides?_append_equal value h
  simp [validateLine, isRecord, hs, isBlankText_append_equal]

/-- The findings of a line with a separator are findings of its sides. -/
theorem mem_findings_of_mem_validateLine {key value : Text} (hk : '=' ∉ key)
    (h : f ∈ validateLine line (key ++ '=' :: value)) :
    f ∈ Side.key.findings line 0 key ∨ f ∈ Side.value.findings line (key.length + 1) value := by
  rw [validateLine_append_equal hk] at h
  split at h
  · cases h
  · exact List.mem_append.mp h

/-- Where a finding of a line comes from: a separator that is missing, or one of the sides around the first one. -/
theorem origin_of_mem_validateLine {body : Text} (h : f ∈ validateLine line body) :
    ('=' ∉ body ∧ isBlankText body = false ∧ f = missingEqualFinding line body) ∨
      ∃ key value, '=' ∉ key ∧ body = key ++ '=' :: value ∧
        (f ∈ Side.key.findings line 0 key ∨ f ∈ Side.value.findings line (key.length + 1) value) := by
  rcases not_mem_or_append_equal body with he | ⟨key, value, hk, rfl⟩
  · rw [validateLine_of_not_mem he] at h
    split at h
    · cases h
    · rename_i hb
      exact Or.inl ⟨he, by simpa using hb, List.mem_singleton.mp h⟩
  · exact Or.inr ⟨key, value, hk, rfl, mem_findings_of_mem_validateLine hk h⟩

/-- The findings of a line name that line. -/
theorem line_of_mem_validateLine {body : Text} (h : f ∈ validateLine line body) : f.line = line := by
  rcases origin_of_mem_validateLine h with ⟨_, _, rfl⟩ | ⟨key, value, _, _, h | h⟩
  · rfl
  · exact Side.line_of_mem_findings h
  · exact Side.line_of_mem_findings h

theorem start_le_stop_of_mem_validateLine {body : Text} (h : f ∈ validateLine line body) :
    f.span.start ≤ f.span.stop := by
  rcases origin_of_mem_validateLine h with ⟨_, _, rfl⟩ | ⟨key, value, _, _, h | h⟩
  · exact Nat.zero_le _
  · exact Side.start_le_stop_of_mem_findings h
  · exact Side.start_le_stop_of_mem_findings h

/-- Findings of different sides have different kinds. -/
theorem Side.kind_ne_of_mem_findings {s s' : Side} {offset offset' : Nat} {text text' : Text} {g : Finding}
    (hs : s ≠ s') (hf : f ∈ s.findings line offset text) (hg : g ∈ s'.findings line offset' text') :
    f.kind ≠ g.kind := by
  rcases Side.kind_of_mem_findings hf with h | h <;> rcases Side.kind_of_mem_findings hg with h' | h' <;>
    simp [h, h', hs]

/-- A line has at most one finding of a kind. -/
theorem eq_of_mem_validateLine {body : Text} {g : Finding} (hf : f ∈ validateLine line body)
    (hg : g ∈ validateLine line body) (hk : f.kind = g.kind) : f = g := by
  rcases origin_of_mem_validateLine hf with ⟨hn, _, rfl⟩ | ⟨key, value, hkey, hbody, hfs⟩
  · rcases origin_of_mem_validateLine hg with ⟨_, _, rfl⟩ | ⟨key, value, _, rfl, _⟩
    · rfl
    · exact absurd (by simp) hn
  · rcases origin_of_mem_validateLine hg with ⟨hn, _, _⟩ | ⟨key', value', hkey', hbody', hgs⟩
    · exact absurd (by simp [hbody]) hn
    · obtain ⟨rfl, rfl⟩ := append_equal_inj hkey hkey' (hbody.symm.trans hbody')
      rcases hfs with hfs | hfs <;> rcases hgs with hgs | hgs
      · exact Side.eq_of_mem_findings hfs hgs
      · exact absurd hk (Side.kind_ne_of_mem_findings (by decide) hfs hgs)
      · exact absurd hk (Side.kind_ne_of_mem_findings (by decide) hfs hgs)
      · exact Side.eq_of_mem_findings hfs hgs

/-! ## A whole text -/

theorem mem_validateLines_iff {ls : List Line} :
    f ∈ validateLines line ls ↔ ∃ i l, ls[i]? = some l ∧ f ∈ validateLine (line + i) l.body := by
  induction ls generalizing line with
  | nil => simp [validateLines]
  | cons l ls ih =>
    rw [validateLines, List.mem_append, ih]
    constructor
    · rintro (h | ⟨i, m, hm, h⟩)
      · exact ⟨0, l, rfl, h⟩
      · exact ⟨i + 1, m, hm, by rwa [Nat.add_right_comm, Nat.add_assoc] at h⟩
    · rintro ⟨i, m, hm, h⟩
      cases i with
      | zero =>
        obtain rfl : l = m := by simpa using hm
        exact Or.inl h
      | succ i => exact Or.inr ⟨i, m, hm, by rwa [Nat.add_right_comm, Nat.add_assoc]⟩

/-- A finding of a text is a finding of the line that it names. -/
theorem mem_validate_iff {content : Text} :
    f ∈ validate content ↔ ∃ l, (splitLines content)[f.line]? = some l ∧ f ∈ validateLine f.line l.body := by
  rw [validate, mem_validateLines_iff]
  constructor
  · rintro ⟨i, l, hl, h⟩
    rw [Nat.zero_add] at h
    obtain rfl := line_of_mem_validateLine h
    exact ⟨l, hl, h⟩
  · rintro ⟨l, hl, h⟩
    exact ⟨f.line, l, hl, by rwa [Nat.zero_add]⟩

/-- A finding of a text names one of its lines. -/
theorem line_lt_of_mem_validate {content : Text} (h : f ∈ validate content) : f.line < (splitLines content).length := by
  obtain ⟨l, hl, _⟩ := mem_validate_iff.mp h
  exact (List.getElem?_eq_some_iff.mp hl).1

/-- The kind and the line tell the findings of a text apart. -/
theorem eq_of_mem_validate {content : Text} {g : Finding} (hf : f ∈ validate content) (hg : g ∈ validate content)
    (hk : f.kind = g.kind) (hline : f.line = g.line) : f = g := by
  obtain ⟨l, hl, hf⟩ := mem_validate_iff.mp hf
  obtain ⟨m, hm, hg⟩ := mem_validate_iff.mp hg
  rw [← hline] at hm hg
  obtain rfl := Option.some.inj (hl.symm.trans hm)
  exact eq_of_mem_validateLine hf hg hk

/-! ## The findings on one line of a text -/

/-- The findings of a text that name a line, in their order. -/
def findingsOn (content : Text) (i : Nat) : List Finding := (validate content).filter (·.line = i)

/-- Each line of a list is judged for itself, under its own index. -/
theorem filter_validateLines (line i : Nat) (ls : List Line) :
    (validateLines line ls).filter (·.line = line + i) = ls[i]?.elim [] fun l => validateLine (line + i) l.body := by
  induction ls generalizing line i with
  | nil => rfl
  | cons l ls ih =>
    have hfirst : ∀ f ∈ validateLine line l.body, f.line = line := fun f hf => line_of_mem_validateLine hf
    have hrest : ∀ f ∈ validateLines (line + 1) ls, line < f.line := by
      intro f hf
      obtain ⟨j, m, _, hm⟩ := mem_validateLines_iff.mp hf
      have := line_of_mem_validateLine hm
      omega
    rw [validateLines, List.filter_append]
    cases i with
    | zero =>
      have hkeep : (validateLine line l.body).filter (·.line = line) = validateLine line l.body :=
        List.filter_eq_self.mpr fun f hf => by simp [hfirst f hf]
      have hdrop : (validateLines (line + 1) ls).filter (·.line = line) = [] :=
        List.filter_eq_nil_iff.mpr fun f hf => by
          have := hrest f hf
          simp only [decide_eq_true_iff]
          omega
      simp [hkeep, hdrop]
    | succ i =>
      have hdrop : (validateLine line l.body).filter (·.line = line + (i + 1)) = [] :=
        List.filter_eq_nil_iff.mpr fun f hf => by simp [hfirst f hf]
      have hi : line + (i + 1) = line + 1 + i := by omega
      rw [hdrop, List.nil_append, hi, ih, List.getElem?_cons_succ]

/-- The findings that name a line are those of its body. -/
theorem findingsOn_eq (content : Text) (i : Nat) :
    findingsOn content i = (splitLines content)[i]?.elim [] fun l => validateLine i l.body := by
  have h := filter_validateLines 0 i (splitLines content)
  rw [Nat.zero_add] at h
  exact h

end Keyline
