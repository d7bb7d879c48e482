import Keyline.Edit

/-!
# Repair

A line is repaired by applying its next repair and judging it anew, until no finding offers a repair. A text is
repaired line by line, and the terminators stay.

The next repair is the first one that the findings of a line offer. It either puts a separator behind the first word, or
cleans the key, or, once the key is clean, cleans the value (`map_apply_nextRepair?`).

The *defects* of a line bound the repairs that it can still take: a line without separator counts one more than its
characters, any other line counts the characters that do not belong to their side. Every repair leaves fewer defects
(`defects_apply_lt`), so that repairing ends.
-/

namespace Keyline

/-! ## The next repair of a line -/

/-- The first repair that the findings of a line offer. -/
def nextRepair? (line : Nat) (body : Text) : Option Edit :=
  (validateLine line body).findSome? (·.repair? body)

/-- The line that the next repair makes. -/
def nextBody? (body : Text) : Option Text :=
  match sides? body with
  | none =>
    if isBlankText body then none
    else some (indentation body ++ (firstWord body ++ (separator ++ afterFirstWord body)))
  | some (key, value) =>
    if !Side.key.alphabet.accepts key then some (Side.key.alphabet.clean key ++ '=' :: value)
    else if !Side.value.alphabet.accepts value then some (key ++ '=' :: Side.value.alphabet.clean value)
    else none

/-- The number of characters that do not belong to a side. -/
def Side.intruders (s : Side) (t : Text) : Nat := t.countP fun c => !s.allows c

/-- A bound on the repairs that a line can still take. -/
def defects (body : Text) : Nat :=
  match sides? body with
  | none => body.length + 1
  | some (key, value) => Side.key.intruders key + Side.value.intruders value

/-- A side offers a repair exactly when it has a character that does not belong there. -/
theorem Side.findSome?_repair? (s : Side) (line : Nat) (before side after : Text) :
    ((s.findings line before.length side).findSome? (·.repair? (before ++ (side ++ after)))).map
        (·.apply (before ++ (side ++ after))) =
      if s.alphabet.accepts side then none else some (before ++ (s.alphabet.clean side ++ after)) := by
  rw [Side.findings_eq]
  by_cases hb : isBlankText side
  · have ha : s.alphabet.accepts side = true :=
      Alphabet.accepts_iff.2 fun c hc => s.alphabet.allows_of_isBlank (List.all_eq_true.1 hb c hc)
    simp [hb, ha, Side.repair?_missingFinding]
  · by_cases ha : s.alphabet.accepts side
    · simp [hb, ha]
    · obtain ⟨e, he, hap⟩ := s.repair?_invalidFinding line before side after
      simp [hb, ha, he, hap]

/-- The key is cleaned before the value. -/
theorem findSome?_sides (line : Nat) (key value : Text) :
    ((Side.key.findings line 0 key ++ Side.value.findings line (key.length + 1) value).findSome?
        (·.repair? (key ++ '=' :: value))).map (·.apply (key ++ '=' :: value)) =
      if !Side.key.alphabet.accepts key then some (Side.key.alphabet.clean key ++ '=' :: value)
      else if !Side.value.alphabet.accepts value then some (key ++ '=' :: Side.value.alphabet.clean value)
      else none := by
  have hk := Side.key.findSome?_repair? line [] key ('=' :: value)
  have hv := Side.value.findSome?_repair? line (key ++ ['=']) value []
  simp only [List.nil_append, List.length_nil, List.append_nil, List.append_assoc, List.cons_append,
    List.length_append, List.length_cons] at hk hv
  rw [List.findSome?_append]
  cases hf : (Side.key.findings line 0 key).findSome? (·.repair? (key ++ '=' :: value)) with
  | none => cases hv' : Side.value.alphabet.accepts value <;> simp_all
  | some e => simp_all

/-- The next repair makes the line that `nextBody?` describes. -/
theorem map_apply_nextRepair? (line : Nat) (body : Text) :
    (nextRepair? line body).map (·.apply body) = nextBody? body := by
  cases hs : sides? body with
  | none =>
    have hr : isRecord body = false := by simp [isRecord, hs]
    by_cases hb : isBlankText body
    · simp [nextRepair?, validateLine, nextBody?, hs, hb]
    · have hw := firstWord_ne_nil (by simpa using hb) (sides?_eq_none_iff.1 hs)
      obtain ⟨e, he, ha⟩ := repair?_missingEqualFinding line hw
      simp [nextRepair?, validateLine, nextBody?, hs, hb, hr, he, ha]
  | some s =>
    obtain ⟨key, value⟩ := s
    have hb := isBlankText_of_sides? hs
    have hbody := (sides?_eq_some_iff.1 hs).1
    by_cases hr : isRecord body
    · have : Side.key.alphabet.accepts key = true ∧ Side.value.alphabet.accepts value = true := by
        simp only [isRecord, hs, Side.fills, Bool.and_eq_true] at hr
        exact ⟨hr.1.2, hr.2.2⟩
      simp [nextRepair?, validateLine, nextBody?, hs, hr, this]
    · have := findSome?_sides line key value
      simp only [nextRepair?, validateLine, nextBody?, hs, hb, Bool.false_or, hr, Bool.false_eq_true, if_false]
      rw [hbody]
      exact this

theorem Side.intruders_eq_zero_iff {s : Side} {t : Text} : s.intruders t = 0 ↔ s.alphabet.accepts t = true := by
  simp [intruders, List.countP_eq_zero, Alphabet.accepts_iff]

/-- Every repair leaves fewer defects. -/
theorem defects_nextBody?_lt {body next : Text} (h : nextBody? body = some next) : defects next < defects body := by
  cases hs : sides? body with
  | none =>
    by_cases hb : isBlankText body
    · simp [nextBody?, hs, hb] at h
    · have he := sides?_eq_none_iff.1 hs
      simp only [nextBody?, hs, hb, Bool.false_eq_true, if_false, Option.some.injEq] at h
      subst h
      have hp := firstWord_parts body
      have hn : '=' ∉ indentation body ++ (firstWord body ++ [' ']) := by
        have hm : ('=' ∈ indentation body ++ (firstWord body ++ afterFirstWord body)) = ('=' ∈ body) := by rw [hp]
        simp only [List.mem_append, he, eq_iff_iff, iff_false, not_or] at hm
        simp [hm.1, hm.2.1]
      have hl := congrArg List.length hp
      have hd := sides?_append_equal (' ' :: afterFirstWord body) hn
      simp only [List.append_assoc, List.cons_append, List.nil_append] at hd
      simp only [defects, hs, separator, List.cons_append, List.nil_append, hd]
      simp only [List.length_append] at hl
      have hk := List.countP_le_length (p := fun c => !Side.key.allows c) (l := indentation body ++ firstWord body)
      have hv := List.countP_le_length (p := fun c => !Side.value.allows c) (l := afterFirstWord body)
      have h1 : Side.key.allows ' ' = true := by decide
      have h2 : Side.value.allows ' ' = true := by decide
      simp only [Side.intruders, List.countP_append, List.countP_cons, List.countP_nil, h1, h2, List.length_append] at *
      simp
      omega
  | some s =>
    obtain ⟨key, value⟩ := s
    have hk := (sides?_eq_some_iff.1 hs).2
    simp only [nextBody?, hs] at h
    split at h
    · next hi =>
      cases h
      rw [defects, sides?_append_equal value (Alphabet.not_mem_clean hk), defects, hs]
      have h0 := Side.intruders_eq_zero_iff.2 (Alphabet.accepts_clean Side.key.alphabet key)
      have h1 : Side.key.intruders key ≠ 0 := fun h => by simp [Side.intruders_eq_zero_iff.1 h] at hi
      simp only [h0]
      omega
    · split at h
      · next hi =>
        cases h
        rw [defects, sides?_append_equal _ hk, defects, hs]
        have h0 := Side.intruders_eq_zero_iff.2 (Alphabet.accepts_clean Side.value.alphabet value)
        have h1 : Side.value.intruders value ≠ 0 := fun h => by simp [Side.intruders_eq_zero_iff.1 h] at hi
        simp only [h0]
        omega
      · cases h

theorem defects_apply_lt {line : Nat} {body : Text} {e : Edit} (h : nextRepair? line body = some e) :
    defects (e.apply body) < defects body :=
  defects_nextBody?_lt (by rw [← map_apply_nextRepair? line, h]; rfl)

/-! ## Lines and texts -/

/-- A repaired text and the number of repairs that it took. -/
structure Outcome where
  text : Text
  applied : Nat
deriving DecidableEq, Repr

/-- Repairs a line until no finding offers a repair. -/
def repairLine (line : Nat) (body : Text) : Outcome :=
  match h : nextRepair? line body with
  | none => ⟨body, 0⟩
  | some e =>
    let rest := repairLine line (e.apply body)
    ⟨rest.text, rest.applied + 1⟩
termination_by defects body
decreasing_by exact defects_apply_lt h

/-- Repairs a list of lines, the first of which has the index `line`, and joins them. -/
def repairLines (line : Nat) : List Line → Outcome
  | [] => ⟨[], 0⟩
  | l :: ls =>
    let first := repairLine line l.body
    let rest := repairLines (line + 1) ls
    ⟨(l.withBody first.text).text ++ rest.text, first.applied + rest.applied⟩

/-- Repairs every line of a text. -/
def repair (content : Text) : Outcome := repairLines 0 (splitLines content)

end Keyline
