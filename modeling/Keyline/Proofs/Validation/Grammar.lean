import Mathlib.Computability.Language
import Keyline.Proofs.Validation.Findings

/-!
# The grammar of lines

A record is described by a pattern, the language `recordPattern`: blanks, at least one key character, blanks, the
separator, blanks, at least one value character, blanks. Blanks belong to both alphabets, so a line can be cut along the
pattern in many ways, and a side of blanks only is enough.

* All that the pattern asks of a side is that it fills its place (`mem_sidePattern_iff`), and a line with a separator
  matches exactly when its two sides do (`append_equal_mem_recordPattern_iff`).
* A line without findings is blank or matches the pattern (`validateLine_eq_nil_iff`).
* A line that is neither has the findings of its sides, and each kind of finding has a condition on the sides
  (`kind_mem_validateLine_iff`). A side of blanks only is missed just when the other side keeps the line from being a
  record, so the two conditions for missing sides depend on each other.
-/

namespace Keyline

open scoped Computability

variable {line : Nat} {body key value : Text}

/-! ## The pattern of records -/

/-- The texts of one character of a class. -/
def oneOf (p : Char → Bool) : Language Char := {t | ∃ c, p c = true ∧ t = [c]}

/-- What may stand on a side of a record: blanks, at least one character of the side, blanks. -/
def sidePattern (s : Side) : Language Char :=
  (oneOf isBlank)∗ * (oneOf s.allows * (oneOf s.allows)∗) * (oneOf isBlank)∗

/-- The lines that are records. -/
def recordPattern : Language Char := sidePattern .key * oneOf (· == '=') * sidePattern .value

/-- Repeating a class gives the texts of that class. -/
theorem mem_kstar_oneOf {p : Char → Bool} {t : Text} : t ∈ (oneOf p)∗ ↔ ∀ c ∈ t, p c = true := by
  rw [Language.mem_kstar]
  constructor
  · rintro ⟨ts, rfl, hts⟩ c hc
    obtain ⟨u, hu, hcu⟩ := List.mem_flatten.mp hc
    obtain ⟨d, hd, rfl⟩ := hts u hu
    rw [List.mem_singleton.mp hcu]
    exact hd
  · intro h
    refine ⟨t.map ([·]), (List.flatMap_singleton' t).symm, ?_⟩
    intro u hu
    obtain ⟨c, hc, rfl⟩ := List.mem_map.mp hu
    exact ⟨c, h c hc, rfl⟩

theorem mem_oneOf_mul_kstar {p : Char → Bool} {t : Text} :
    t ∈ oneOf p * (oneOf p)∗ ↔ t ≠ [] ∧ ∀ c ∈ t, p c = true := by
  rw [Language.mem_mul]
  constructor
  · rintro ⟨_, ⟨c, hc, rfl⟩, u, hu, rfl⟩
    refine ⟨by simp, ?_⟩
    intro d hd
    rcases List.mem_cons.mp hd with rfl | hd
    · exact hc
    · exact mem_kstar_oneOf.mp hu d hd
  · rintro ⟨hne, h⟩
    obtain ⟨c, u, rfl⟩ := List.exists_cons_of_ne_nil hne
    refine ⟨[c], ⟨c, h c List.mem_cons_self, rfl⟩, u, mem_kstar_oneOf.mpr fun d hd => ?_, rfl⟩
    exact h d (List.mem_cons_of_mem c hd)

theorem Side.fills_iff {s : Side} {t : Text} : s.fills t = true ↔ t ≠ [] ∧ ∀ c ∈ t, s.allows c = true := by
  simp [Side.fills, Alphabet.accepts_iff]

/-- The pattern asks of a side that it is not empty and that every character belongs there: the outer blanks may be
taken as characters of the side. -/
theorem mem_sidePattern_iff {s : Side} {t : Text} : t ∈ sidePattern s ↔ s.fills t = true := by
  rw [Side.fills_iff, sidePattern, Language.mem_mul]
  constructor
  · rintro ⟨_, hfront, after, hafter, rfl⟩
    obtain ⟨before, hbefore, mid, hmid, rfl⟩ := Language.mem_mul.mp hfront
    obtain ⟨hne, hmid⟩ := mem_oneOf_mul_kstar.mp hmid
    refine ⟨by simp [hne], ?_⟩
    intro c hc
    simp only [List.mem_append] at hc
    rcases hc with (hc | hc) | hc
    · exact s.alphabet.allows_of_isBlank (mem_kstar_oneOf.mp hbefore c hc)
    · exact hmid c hc
    · exact s.alphabet.allows_of_isBlank (mem_kstar_oneOf.mp hafter c hc)
  · rintro ⟨hne, h⟩
    refine ⟨t, ?_, [], Language.nil_mem_kstar _, List.append_nil t⟩
    exact Language.mem_mul.mpr ⟨[], Language.nil_mem_kstar _, t, mem_oneOf_mul_kstar.mpr ⟨hne, h⟩, rfl⟩

theorem mem_recordPattern_iff :
    body ∈ recordPattern ↔
      ∃ key value, Side.key.fills key = true ∧ Side.value.fills value = true ∧ body = key ++ '=' :: value := by
  rw [recordPattern, Language.mem_mul]
  constructor
  · rintro ⟨_, hfront, value, hvalue, rfl⟩
    obtain ⟨key, hkey, _, ⟨c, hc, rfl⟩, rfl⟩ := Language.mem_mul.mp hfront
    obtain rfl : c = '=' := by simpa using hc
    exact ⟨key, value, mem_sidePattern_iff.mp hkey, mem_sidePattern_iff.mp hvalue, by simp⟩
  · rintro ⟨key, value, hkey, hvalue, rfl⟩
    refine ⟨key ++ ['='], ?_, value, mem_sidePattern_iff.mpr hvalue, by simp⟩
    exact Language.mem_mul.mpr ⟨key, mem_sidePattern_iff.mpr hkey, ['='], ⟨'=', rfl, rfl⟩, rfl⟩

/-- A side that fills its place has no separator. -/
theorem Side.not_mem_of_fills {s : Side} {t : Text} (h : s.fills t = true) : '=' ∉ t := by
  intro hm
  have ha := (Side.fills_iff.mp h).2 '=' hm
  rw [s.allows_equal] at ha
  cases ha

theorem not_mem_recordPattern_of_not_mem (h : '=' ∉ body) : body ∉ recordPattern := by
  intro hb
  obtain ⟨key, value, _, _, rfl⟩ := mem_recordPattern_iff.mp hb
  exact h (by simp)

/-- A line with a separator matches when the sides around its first separator fill their places. -/
theorem append_equal_mem_recordPattern_iff (hk : '=' ∉ key) :
    key ++ '=' :: value ∈ recordPattern ↔ Side.key.fills key = true ∧ Side.value.fills value = true := by
  rw [mem_recordPattern_iff]
  constructor
  · rintro ⟨key', value', hkey, hvalue, he⟩
    obtain ⟨rfl, rfl⟩ := append_equal_inj hk (Side.not_mem_of_fills hkey) he
    exact ⟨hkey, hvalue⟩
  · rintro ⟨hkey, hvalue⟩
    exact ⟨key, value, hkey, hvalue, rfl⟩

/-! ## Lines without findings -/

theorem Side.findings_eq_nil_iff {s : Side} {offset : Nat} {t : Text} :
    s.findings line offset t = [] ↔ isBlankText t = false ∧ s.alphabet.accepts t = true := by
  rw [Side.findings_eq]
  by_cases hb : isBlankText t = true
  · simp [hb]
  · by_cases ha : s.alphabet.accepts t = true
    · simp [hb, ha]
    · simp [hb, ha]

/-- A side without findings fills its place. -/
theorem Side.fills_of_findings_eq_nil {s : Side} {offset : Nat} {t : Text} (h : s.findings line offset t = []) :
    s.fills t = true := by
  obtain ⟨hb, ha⟩ := Side.findings_eq_nil_iff.mp h
  refine Side.fills_iff.mpr ⟨?_, Alphabet.accepts_iff.mp ha⟩
  rintro rfl
  cases hb

/-- A line has no finding exactly when it is blank or a record. -/
theorem validateLine_eq_nil_iff :
    validateLine line body = [] ↔ isBlankText body = true ∨ body ∈ recordPattern := by
  rcases not_mem_or_append_equal body with he | ⟨key, value, hk, rfl⟩
  · have hn := not_mem_recordPattern_of_not_mem he
    rw [validateLine_of_not_mem he]
    simp [hn]
  · rw [validateLine_append_equal hk, append_equal_mem_recordPattern_iff hk, isBlankText_append_equal]
    constructor
    · intro h
      split at h
      · rename_i hf
        exact Or.inr (Bool.and_eq_true_iff.mp hf)
      · obtain ⟨hkey, hvalue⟩ := List.append_eq_nil_iff.mp h
        exact Or.inr ⟨Side.fills_of_findings_eq_nil hkey, Side.fills_of_findings_eq_nil hvalue⟩
    · rintro (h | ⟨hkey, hvalue⟩)
      · cases h
      · rw [hkey, hvalue]
        rfl

/-! ## The kinds of findings -/

/-- The kinds of the findings of a line, in order. -/
def reportedKinds (line : Nat) (body : Text) : List Kind := (validateLine line body).map Finding.kind

theorem Side.kind_mem_findings_iff {s : Side} {offset : Nat} {t : Text} {k : Kind} :
    k ∈ (s.findings line offset t).map Finding.kind ↔
      k = .missing s ∧ isBlankText t = true ∨ k = .invalid s ∧ s.alphabet.accepts t = false := by
  simp only [List.mem_map, Side.mem_findings_iff]
  constructor
  · rintro ⟨f, ⟨hb, rfl⟩ | ⟨ha, rfl⟩, rfl⟩
    · exact Or.inl ⟨rfl, hb⟩
    · exact Or.inr ⟨rfl, ha⟩
  · rintro (⟨rfl, hb⟩ | ⟨rfl, ha⟩)
    · exact ⟨_, Or.inl ⟨hb, rfl⟩, rfl⟩
    · exact ⟨_, Or.inr ⟨ha, rfl⟩, rfl⟩

/-- The kinds that a line with a separator has, unless it is a record. -/
theorem kind_mem_validateLine_iff {k : Kind} (hk : '=' ∉ key) (hr : key ++ '=' :: value ∉ recordPattern) :
    k ∈ reportedKinds line (key ++ '=' :: value) ↔
      (k = .missing .key ∧ isBlankText key = true ∨ k = .invalid .key ∧ Side.key.alphabet.accepts key = false) ∨
        (k = .missing .value ∧ isBlankText value = true ∨
          k = .invalid .value ∧ Side.value.alphabet.accepts value = false) := by
  have hf : ¬ (Side.key.fills key && Side.value.fills value) = true := by
    rw [Bool.and_eq_true_iff, ← append_equal_mem_recordPattern_iff hk]
    exact hr
  rw [reportedKinds, validateLine_append_equal hk, if_neg hf, List.map_append, List.mem_append,
    Side.kind_mem_findings_iff, Side.kind_mem_findings_iff]

theorem Alphabet.accepts_eq_false_iff {a : Alphabet} {t : Text} :
    a.accepts t = false ↔ ∃ c ∈ t, a.allows c = false := by
  rw [Alphabet.accepts, List.all_eq_false]
  simp

/-- A side does not fill its place when it is empty or has a character that does not belong there. -/
theorem Side.fills_eq_false_iff {s : Side} {t : Text} :
    s.fills t = false ↔ t = [] ∨ ∃ c ∈ t, s.allows c = false := by
  rw [← Bool.not_eq_true, Side.fills_iff]
  constructor
  · intro h
    by_cases ht : t = []
    · exact Or.inl ht
    · refine Or.inr (Alphabet.accepts_eq_false_iff.mp ?_)
      by_contra ha
      exact h ⟨ht, Alphabet.accepts_iff.mp (by simpa using ha)⟩
  · rintro (rfl | ⟨c, hc, hn⟩) ⟨hne, ha⟩
    · exact hne rfl
    · rw [ha c hc] at hn
      cases hn

/-- Where one of two sides does not fill its place, a side of blanks only is empty, or the other side is the one that
does not. -/
theorem Side.isBlankText_iff_of_not_fills {s s' : Side} {t t' : Text} (h : ¬ (s.fills t = true ∧ s'.fills t' = true)) :
    isBlankText t = true ↔ t = [] ∨ isBlankText t = true ∧ (t' = [] ∨ ∃ c ∈ t', s'.allows c = false) := by
  constructor
  · intro hb
    by_cases ht : t = []
    · exact Or.inl ht
    · have hs : s.fills t = true :=
        Side.fills_iff.mpr ⟨ht, Alphabet.accepts_iff.mp (s.accepts_of_isBlankText hb)⟩
      have hs' : s'.fills t' = false := by
        by_contra hf
        exact h ⟨hs, by simpa using hf⟩
      exact Or.inr ⟨hb, Side.fills_eq_false_iff.mp hs'⟩
  · rintro (rfl | ⟨hb, _⟩)
    · rfl
    · exact hb

/-- **The validator decides the line grammar.** A line has no finding exactly when it is blank or a record. Otherwise a
line without separator has the one finding that says so, and on a line with a separator each kind of finding is reported
on a condition on the texts around the first separator. -/
theorem validateLine_decides_grammar (line : Nat) (body : Text) :
    (validateLine line body = [] ↔ isBlankText body = true ∨ body ∈ recordPattern) ∧
      (isBlankText body = false → body ∉ recordPattern →
        (Kind.missingEqual ∈ reportedKinds line body ↔ '=' ∉ body) ∧
        ('=' ∉ body → reportedKinds line body = [.missingEqual]) ∧
        ∀ key value, body = key ++ '=' :: value → '=' ∉ key →
          (.invalid .key ∈ reportedKinds line body ↔ ∃ c ∈ key, Side.key.allows c = false) ∧
          (.invalid .value ∈ reportedKinds line body ↔ ∃ c ∈ value, Side.value.allows c = false) ∧
          (.missing .key ∈ reportedKinds line body ↔
            key = [] ∨ isBlankText key = true ∧ (value = [] ∨ ∃ c ∈ value, Side.value.allows c = false)) ∧
          (.missing .value ∈ reportedKinds line body ↔
            value = [] ∨ isBlankText value = true ∧ (key = [] ∨ ∃ c ∈ key, Side.key.allows c = false))) := by
  refine ⟨validateLine_eq_nil_iff, fun hb hr => ?_⟩
  have halone : '=' ∉ body → reportedKinds line body = [.missingEqual] := by
    intro he
    rw [reportedKinds, validateLine_of_not_mem he, hb]
    rfl
  refine ⟨⟨fun hm => ?_, fun he => ?_⟩, halone, ?_⟩
  · rcases not_mem_or_append_equal body with he | ⟨key, value, hk, rfl⟩
    · exact he
    · simp [kind_mem_validateLine_iff hk hr] at hm
  · rw [halone he]
    exact List.mem_singleton_self _
  · rintro key value rfl hk
    have hf := mt (append_equal_mem_recordPattern_iff hk).mpr hr
    simp only [kind_mem_validateLine_iff hk hr]
    refine ⟨?_, ?_, ?_, ?_⟩
    · simpa using Alphabet.accepts_eq_false_iff
    · simpa using Alphabet.accepts_eq_false_iff
    · simpa using Side.isBlankText_iff_of_not_fills hf
    · simpa using Side.isBlankText_iff_of_not_fills (mt And.symm hf)

example : reportedKinds 0 "  = v".toList = [] ∧
    reportedKinds 0 "  = v.".toList = [.missing .key, .invalid .value] := by decide

end Keyline
