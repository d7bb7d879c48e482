import Keyline.Proofs.Validation.Grammar

/-!
# Where findings lie

A finding names a line and a span of its columns. `WellPlaced` says how the findings of a line lie on it: inside the
line, that of the key before the first separator and that of the value behind it. The span of an invalid side starts
with a character that is not blank and covers one that does not belong there. The findings are also complete: on a line
with a separator, what no span covers belongs to its side.

All of it is proved once for a side that stands somewhere on a line (`Side.Stands`): its finding lies on it
(`Side.span_of_mem_findings`), an invalid one covers an intruder (`Side.Stands.faulty`), and no intruder escapes it
(`Side.Stands.allows_of_not_covered`). A line with a separator has two such sides (`wellPlaced_append_equal`), and a
text has the findings of its lines in order (`pairwise_line_validateLines`).
-/

namespace Keyline

variable {line : Nat} {f : Finding}

/-- Whether a span covers a column. -/
def Span.Covers (s : Span) (column : Nat) : Prop := s.start ≤ column ∧ column < s.stop

/-- The side on which a column of a line stands; the first separator stands on none. -/
def sideAt? (body : Text) (column : Nat) : Option Side :=
  if column < body.idxOf '=' then some .key else if column = body.idxOf '=' then none else some .value

/-- How the findings `fs` of a line lie on it, and that they leave no fault out. -/
structure WellPlaced (body : Text) (fs : List Finding) : Prop where
  inside : ∀ f ∈ fs, f.span.start ≤ f.span.stop ∧ f.span.stop ≤ body.length
  atMostTwo : fs.length ≤ 2
  keyThenValue : ∀ f g, fs = [f, g] →
    '=' ∈ body ∧ f.kind ∈ [.missing .key, .invalid .key] ∧ f.span.stop = body.idxOf '=' ∧
      g.kind ∈ [.missing .value, .invalid .value] ∧ body.idxOf '=' < g.span.start
  alone : ∀ f ∈ fs, f.kind = .missingEqual → fs = [f] ∧ f.span.start = 0 ∧ f.span.stop = body.length
  faulty : ∀ f ∈ fs, ∀ s, f.kind = .invalid s →
    (∃ c, body[f.span.start]? = some c ∧ isBlank c = false) ∧
      ∃ column c, f.span.Covers column ∧ body[column]? = some c ∧ sideAt? body column = some s ∧ s.allows c = false
  complete : '=' ∈ body → ∀ column c s, body[column]? = some c → sideAt? body column = some s →
    (∀ f ∈ fs, ¬ f.span.Covers column) → s.allows c = true

/-! ## One side -/

/-- The side `s` of the line `body` is the text `side`, and starts at the column `offset`. -/
structure Side.Stands (s : Side) (offset : Nat) (side body : Text) : Prop where
  inside : offset + side.length ≤ body.length
  reads : ∀ i < side.length, body[offset + i]? = side[i]?
  columns : ∀ column < body.length,
    sideAt? body column = some s ↔ offset ≤ column ∧ column < offset + side.length

theorem Side.length_findings_le (s : Side) (line offset : Nat) (text : Text) :
    (s.findings line offset text).length ≤ 1 := by
  rw [Side.findings_eq]
  split
  · exact Nat.le_refl 1
  · split <;> simp

/-- Two findings of two sides are one of each, in the order of the sides. -/
theorem Side.mem_findings_of_append_eq {s s' : Side} {offset offset' : Nat} {text text' : Text} {g : Finding}
    (h : s.findings line offset text ++ s'.findings line offset' text' = [f, g]) :
    f ∈ s.findings line offset text ∧ g ∈ s'.findings line offset' text' := by
  have hs := s.length_findings_le line offset text
  have hs' := s'.length_findings_le line offset' text'
  have hcount := congrArg List.length h
  simp only [List.length_append, List.length_cons, List.length_nil] at hcount
  have hcut : s.findings line offset text ++ s'.findings line offset' text' = [f] ++ [g] := h
  obtain ⟨hf, hg⟩ := List.append_inj hcut (by simp only [List.length_cons, List.length_nil]; omega)
  rw [hf, hg]
  exact ⟨List.mem_singleton_self f, List.mem_singleton_self g⟩

/-- The finding of a side starts on it and reaches up to its end. -/
theorem Side.span_of_mem_findings {s : Side} {offset : Nat} {text : Text} (h : f ∈ s.findings line offset text) :
    offset ≤ f.span.start ∧ f.span.start ≤ f.span.stop ∧ f.span.stop = offset + text.length := by
  have hle := Side.start_le_stop_of_mem_findings h
  rcases Side.mem_findings_iff.mp h with ⟨_, rfl⟩ | ⟨_, rfl⟩
  · exact ⟨Nat.le_refl _, hle, rfl⟩
  · exact ⟨Nat.le_add_right _ _, hle, rfl⟩

theorem Side.kind_ne_missingEqual_of_mem_findings {s : Side} {offset : Nat} {text : Text}
    (h : f ∈ s.findings line offset text) : f.kind ≠ .missingEqual := by
  rcases Side.kind_of_mem_findings h with hk | hk <;> simp [hk]

/-- An intruder stands behind the indentation of its side. -/
theorem Side.mem_trimStart_of_mem {s : Side} {side : Text} {c : Char} (hc : c ∈ side) (hn : s.allows c = false) :
    c ∈ trimStart side := by
  rw [← indentation_append_trimStart side, List.mem_append] at hc
  rcases hc with hc | hc
  · have ha : s.allows c = true := s.alphabet.allows_of_isBlank (isBlank_of_mem_indentation hc)
    rw [ha] at hn
    cases hn
  · exact hc

namespace Side.Stands

variable {s : Side} {offset column : Nat} {side body : Text} {c : Char} (h : s.Stands offset side body)

include h

/-- The columns behind the indentation of a side read what follows it. -/
theorem getElem?_behind_indentation {i : Nat} (hi : i < (trimStart side).length) :
    body[offset + (indentation side).length + i]? = (trimStart side)[i]? := by
  have hlen := congrArg List.length (indentation_append_trimStart side)
  rw [List.length_append] at hlen
  rw [Nat.add_assoc, h.reads _ (by omega), ← List.getElem?_drop, drop_length_indentation]

/-- A column of a side reads a character of that side. -/
theorem getElem?_of_sideAt? (hc : body[column]? = some c) (hs : sideAt? body column = some s) :
    offset ≤ column ∧ column < offset + side.length ∧ side[column - offset]? = some c := by
  obtain ⟨hl, hr⟩ := (h.columns column (List.getElem?_eq_some_iff.mp hc).1).mp hs
  have hread := h.reads (column - offset) (by omega)
  rw [Nat.add_sub_cancel' hl, hc] at hread
  exact ⟨hl, hr, hread.symm⟩

/-- On an accepted side every character belongs there. -/
theorem allows_of_accepts (ha : s.alphabet.accepts side = true) (hc : body[column]? = some c)
    (hs : sideAt? body column = some s) : s.allows c = true := by
  obtain ⟨_, _, hside⟩ := h.getElem?_of_sideAt? hc hs
  exact Alphabet.accepts_iff.mp ha c (List.mem_of_getElem? hside)

/-- What the finding of a side does not cover belongs there: in front of an invalid side's finding stands its
indentation. -/
theorem allows_of_not_covered (hc : body[column]? = some c) (hs : sideAt? body column = some s)
    (hf : ∀ f ∈ s.findings line offset side, ¬ f.span.Covers column) : s.allows c = true := by
  by_cases ha : s.alphabet.accepts side = true
  · exact h.allows_of_accepts ha hc hs
  · obtain ⟨hl, hr, hside⟩ := h.getElem?_of_sideAt? hc hs
    have hmem : s.invalidFinding line offset side ∈ s.findings line offset side :=
      Side.mem_findings_iff.mpr (Or.inr ⟨by simpa using ha, rfl⟩)
    have hstart : column < offset + (indentation side).length := by
      by_contra hge
      exact hf _ hmem ⟨Nat.le_of_not_lt hge, hr⟩
    rw [← indentation_append_trimStart side, List.getElem?_append_left (by omega)] at hside
    exact s.alphabet.allows_of_isBlank (isBlank_of_mem_indentation (List.mem_of_getElem? hside))

/-- The finding of an invalid side starts with a character that is not blank and covers an intruder. -/
theorem faulty (hf : f ∈ s.findings line offset side) {s' : Side} (hk : f.kind = .invalid s') :
    (∃ c, body[f.span.start]? = some c ∧ isBlank c = false) ∧
      ∃ column c, f.span.Covers column ∧ body[column]? = some c ∧ sideAt? body column = some s' ∧
        s'.allows c = false := by
  rcases Side.mem_findings_iff.mp hf with ⟨_, rfl⟩ | ⟨ha, rfl⟩
  · cases hk
  · obtain rfl : s = s' := Kind.invalid.inj hk
    obtain ⟨c, hc, hn⟩ := Alphabet.accepts_eq_false_iff.mp ha
    obtain ⟨i, hi⟩ := List.mem_iff_getElem?.mp (Side.mem_trimStart_of_mem hc hn)
    have hlt := (List.getElem?_eq_some_iff.mp hi).1
    have hlen := congrArg List.length (indentation_append_trimStart side)
    rw [List.length_append] at hlen
    have hinside := h.inside
    constructor
    · cases ht : trimStart side with
      | nil => simp [ht] at hlt
      | cons d r =>
        have hd := h.getElem?_behind_indentation (i := 0) (by omega)
        rw [ht] at hd
        exact ⟨d, hd, head_trimStart ht⟩
    · refine ⟨offset + (indentation side).length + i, c, ⟨Nat.le_add_right _ _, ?_⟩, ?_, ?_, hn⟩
      · show offset + (indentation side).length + i < offset + side.length
        omega
      · rw [h.getElem?_behind_indentation hlt, hi]
      · exact (h.columns _ (by omega)).mpr (by omega)

end Side.Stands

/-! ## One line -/

section Line

variable {key : Text} (value : Text)

theorem idxOf_append_equal (hk : '=' ∉ key) : (key ++ '=' :: value).idxOf '=' = key.length := by
  rw [List.idxOf_append_of_notMem hk, List.idxOf_cons_self, Nat.add_zero]

theorem length_append_equal (key : Text) : (key ++ '=' :: value).length = key.length + 1 + value.length := by
  simp only [List.length_append, List.length_cons]
  omega

theorem stands_key (hk : '=' ∉ key) : Side.key.Stands 0 key (key ++ '=' :: value) := by
  have hlen := length_append_equal value key
  refine ⟨by omega, fun i hi => ?_, fun column hc => ?_⟩
  · rw [Nat.zero_add, List.getElem?_append_left hi]
  · rw [sideAt?, idxOf_append_equal value hk]
    by_cases hl : column < key.length
    · simp [hl]
    · by_cases he : column = key.length <;> simp [hl, he]

theorem stands_value (hk : '=' ∉ key) : Side.value.Stands (key.length + 1) value (key ++ '=' :: value) := by
  have hlen := length_append_equal value key
  refine ⟨by omega, fun i hi => ?_, fun column hc => ?_⟩
  · rw [List.getElem?_append_right (by omega), show key.length + 1 + i - key.length = i + 1 by omega,
      List.getElem?_cons_succ]
  · rw [sideAt?, idxOf_append_equal value hk]
    by_cases hl : column < key.length
    · simp [hl]
      omega
    · by_cases he : column = key.length
      · simp [he]
      · simp [hl, he]
        omega

/-- The findings of two sides are well placed on the line that the sides make up. -/
theorem wellPlaced_append_equal (line : Nat) (hk : '=' ∉ key) :
    WellPlaced (key ++ '=' :: value)
      (Side.key.findings line 0 key ++ Side.value.findings line (key.length + 1) value) := by
  have hkey := stands_key value hk
  have hvalue := stands_value value hk
  have hkl := Side.key.length_findings_le line 0 key
  have hvl := Side.value.length_findings_le line (key.length + 1) value
  have hlen := length_append_equal value key
  refine ⟨?_, ?_, ?_, ?_, ?_, ?_⟩
  · intro f hf
    rcases List.mem_append.mp hf with hf | hf
    · obtain ⟨_, hle, hstop⟩ := Side.span_of_mem_findings hf
      exact ⟨hle, by omega⟩
    · obtain ⟨_, hle, hstop⟩ := Side.span_of_mem_findings hf
      exact ⟨hle, by omega⟩
  · rw [List.length_append]
    omega
  · intro f g hfg
    obtain ⟨hf, hg⟩ := Side.mem_findings_of_append_eq hfg
    have hfs := (Side.span_of_mem_findings hf).2.2
    have hgs := (Side.span_of_mem_findings hg).1
    rw [idxOf_append_equal value hk]
    refine ⟨by simp, ?_, by omega, ?_, by omega⟩
    · simpa using Side.kind_of_mem_findings hf
    · simpa using Side.kind_of_mem_findings hg
  · intro f hf hkind
    rcases List.mem_append.mp hf with hf | hf
    · exact absurd hkind (Side.kind_ne_missingEqual_of_mem_findings hf)
    · exact absurd hkind (Side.kind_ne_missingEqual_of_mem_findings hf)
  · intro f hf s hkind
    rcases List.mem_append.mp hf with hf | hf
    · exact hkey.faulty hf hkind
    · exact hvalue.faulty hf hkind
  · intro _ column c s hc hs hf
    cases s with
    | key => exact hkey.allows_of_not_covered hc hs fun f hm => hf f (List.mem_append_left _ hm)
    | value => exact hvalue.allows_of_not_covered hc hs fun f hm => hf f (List.mem_append_right _ hm)

/-- A record has nothing to report. -/
theorem wellPlaced_of_accepts (hk : '=' ∉ key) (hka : Side.key.alphabet.accepts key = true)
    (hva : Side.value.alphabet.accepts value = true) : WellPlaced (key ++ '=' :: value) [] := by
  refine ⟨by simp, by simp, by simp, by simp, by simp, ?_⟩
  intro _ column c s hc hs _
  cases s with
  | key => exact (stands_key value hk).allows_of_accepts hka hc hs
  | value => exact (stands_value value hk).allows_of_accepts hva hc hs

end Line

theorem wellPlaced_of_not_mem (line : Nat) {body : Text} (he : '=' ∉ body) :
    WellPlaced body (validateLine line body) := by
  rw [validateLine_of_not_mem he]
  split
  · exact ⟨by simp, by simp, by simp, by simp, by simp, fun h => absurd h he⟩
  · refine ⟨?_, by simp, by simp, ?_, ?_, fun h => absurd h he⟩
    · intro f hf
      rw [List.mem_singleton.mp hf]
      exact ⟨Nat.zero_le _, Nat.le_refl _⟩
    · intro f hf _
      rw [List.mem_singleton.mp hf]
      exact ⟨rfl, rfl, rfl⟩
    · intro f hf s hs
      rw [List.mem_singleton.mp hf] at hs
      cases hs

/-- The findings of a line are well placed on it. -/
theorem wellPlaced_validateLine (line : Nat) (body : Text) : WellPlaced body (validateLine line body) := by
  rcases not_mem_or_append_equal body with he | ⟨key, value, hk, rfl⟩
  · exact wellPlaced_of_not_mem line he
  · rw [validateLine_append_equal hk]
    split
    · rename_i hr
      obtain ⟨hkf, hvf⟩ := Bool.and_eq_true_iff.mp hr
      exact wellPlaced_of_accepts value hk (Bool.and_eq_true_iff.mp hkf).2 (Bool.and_eq_true_iff.mp hvf).2
    · exact wellPlaced_append_equal value line hk

/-! ## A whole text -/

/-- The findings of a list of lines come line by line. -/
theorem pairwise_line_validateLines (line : Nat) (ls : List Line) :
    (validateLines line ls).Pairwise fun f g => f.line ≤ g.line := by
  induction ls generalizing line with
  | nil => exact List.Pairwise.nil
  | cons l ls ih =>
    have hfirst : ∀ f ∈ validateLine line l.body, f.line = line := fun f hf => line_of_mem_validateLine hf
    refine List.pairwise_append.mpr ⟨?_, ih (line + 1), ?_⟩
    · exact List.pairwise_of_forall_mem_list fun f hf g hg => by rw [hfirst f hf, hfirst g hg]
    · intro f hf g hg
      obtain ⟨i, m, _, hm⟩ := mem_validateLines_iff.mp hg
      have hf := hfirst f hf
      have hg := line_of_mem_validateLine hm
      omega

/-- **Findings are well placed and complete.** They come line by line and name lines of the text, and on each line they
lie as `WellPlaced` says. -/
theorem findings_are_well_placed (content : Text) :
    ((validate content).Pairwise fun f g => f.line ≤ g.line) ∧
      (∀ f ∈ validate content, f.line < (splitLines content).length) ∧
      ∀ i l, (splitLines content)[i]? = some l → WellPlaced l.body (findingsOn content i) := by
  refine ⟨pairwise_line_validateLines 0 _, fun f hf => line_lt_of_mem_validate hf, fun i l hl => ?_⟩
  rw [findingsOn_eq, hl]
  exact wellPlaced_validateLine i l.body

example : validate "ok=1\n é k = a=b ".toList = [⟨.invalid .key, 1, 1, 5⟩, ⟨.invalid .value, 1, 7, 11⟩] := by decide

end Keyline
