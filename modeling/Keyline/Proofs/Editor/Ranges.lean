import Mathlib.Algebra.GroupWithZero.Nat
import Keyline.Proofs.Editor.Changes

/-!
# Spans as ranges

A span counts the characters of a line, and its range counts UTF-16 units. Whoever gets a range has only the units of
the line. The units before an offset stand for a number of characters, which is a column again (`columnAt`), and the
units between the two offsets of a range stand for a text (`Range.unitsOn`).

* An offset with whole characters on both sides of it never divides a pair of surrogates
  (`BetweenCharacters.splitsPair_eq_false`).
* A span that lies on its line has its columns between characters (`betweenCharacters_column`). They are read back from
  the units (`columnAt_column`), and the units between them are those of the covered text (`drop_units_slice`).
* Every number of a range is that of the place itself, or the largest that fits 32 bits (`Document.range_eq_capped`).
  This holds for every span, also on a line that does not exist.
-/

namespace Keyline

/-! ## Reading the units of a line -/

/-- Whether an offset has a pair of surrogates around it. -/
def splitsPair (us : List UInt16) (offset : Nat) : Bool :=
  (us.take offset).getLast?.any isHighSurrogate && (us.drop offset).head?.any isLowSurrogate

/-- An offset lies between two characters of a text, or at one of its ends. -/
def BetweenCharacters (t : Text) (offset : Nat) : Prop :=
  ∃ before after, t = before ++ after ∧ offset = (units before).length

/-- The column of an offset: the number of characters that the units before it stand for. -/
def columnAt (us : List UInt16) (offset : Nat) : Nat := (ofUnits (us.take offset)).length

/-- The span that a range means on a line with the units `us`; a range over several lines means none. -/
def Range.spanOn? (r : Range) (us : List UInt16) : Option Span :=
  if r.start.line = r.stop.line then
    some ⟨r.start.line, columnAt us r.start.character, columnAt us r.stop.character⟩
  else none

/-- The units of a line that lie in a range. -/
def Range.unitsOn (r : Range) (us : List UInt16) : List UInt16 := (us.take r.stop.character).drop r.start.character

example : splitsPair (units "a𝄞".toList) 2 = true ∧ columnAt (units "a𝄞b".toList) 3 = 2 := by decide

/-- A character does not end in the first unit of a pair. -/
theorem not_isHighSurrogate_of_getLast?_charUnits {c : Char} {u : UInt16} (h : (charUnits c).getLast? = some u) :
    isHighSurrogate u = false := by
  have hv := toNat_lt_or_gt c
  unfold charUnits at h
  split at h
  · rename_i hc
    obtain rfl : UInt16.ofNat c.toNat = u := by simpa using h
    simp only [isHighSurrogate, UInt16.toNat_ofNat_of_lt' hc, Bool.and_eq_false_iff, decide_eq_false_iff_not]
    omega
  · obtain rfl : UInt16.ofNat (0xDC00 + (c.toNat - 0x10000) % 0x400) = u := by simpa using h
    simp only [isHighSurrogate, UInt16.toNat_ofNat', Bool.and_eq_false_iff, decide_eq_false_iff_not]
    omega

theorem not_isHighSurrogate_of_getLast?_units {t : Text} {u : UInt16} (h : (units t).getLast? = some u) :
    isHighSurrogate u = false := by
  rcases List.eq_nil_or_concat t with rfl | ⟨s, c, rfl⟩
  · cases h
  · have hne : charUnits c ≠ [] := by
      unfold charUnits
      split <;> simp
    apply not_isHighSurrogate_of_getLast?_charUnits (c := c)
    rw [List.concat_eq_append, units_append] at h
    simpa [List.getLast?_append_of_ne_nil _ hne] using h

section Column

variable {t : Text} {offset column : Nat}

theorem take_length_units_append (s t : Text) : (units (s ++ t)).take (units s).length = units s := by
  rw [units_append]
  exact List.take_left' rfl

/-- Between characters no pair is divided. -/
theorem BetweenCharacters.splitsPair_eq_false (h : BetweenCharacters t offset) :
    splitsPair (units t) offset = false := by
  obtain ⟨before, after, rfl, rfl⟩ := h
  rw [splitsPair, take_length_units_append, Bool.and_eq_false_iff]
  left
  cases hu : (units before).getLast? with
  | none => rfl
  | some u => exact not_isHighSurrogate_of_getLast?_units hu

theorem betweenCharacters_column (t : Text) (column : Nat) : BetweenCharacters t (unitLength (t.take column)) :=
  ⟨t.take column, t.drop column, (List.take_append_drop column t).symm, (length_units _).symm⟩

/-- The units before a column are those of the characters before it. -/
theorem take_units_column (t : Text) (column : Nat) :
    (units t).take (unitLength (t.take column)) = units (t.take column) := by
  have h := take_length_units_append (t.take column) (t.drop column)
  rwa [List.take_append_drop, length_units] at h

/-- Columns are read back from the units. -/
theorem columnAt_column (h : column ≤ t.length) : columnAt (units t) (unitLength (t.take column)) = column := by
  rw [columnAt, take_units_column, ofUnits_units, List.length_take, Nat.min_eq_left h]

/-- The units between the columns of a span are those of the text that it covers. -/
theorem drop_units_slice {sp : Span} (h : sp.start ≤ sp.stop) (t : Text) :
    (units (t.take sp.stop)).drop (unitLength (t.take sp.start)) = units (sp.slice t) := by
  -- What stands before the end of the span is what stands before its start, and then what it covers.
  have hcut : t.take sp.stop = t.take sp.start ++ sp.slice t := by
    have hstop : sp.stop = sp.start + (sp.stop - sp.start) := by omega
    conv_lhs => rw [hstop, List.take_add]
    rfl
  rw [hcut, units_append]
  exact List.drop_left' (length_units _)

theorem unitLength_take_mono (t : Text) {column column' : Nat} (h : column ≤ column') :
    unitLength (t.take column) ≤ unitLength (t.take column') := by
  have hle := unitLength_take_le (t.take column') column
  rwa [List.take_take, Nat.min_eq_left h] at hle

end Column

/-! ## The range of a span -/

/-- A position with its numbers capped at the largest that fits 32 bits. -/
def Position.capped (p : Position) : Position := ⟨min p.line (2 ^ 32 - 1), min p.character (2 ^ 32 - 1)⟩

namespace Document

variable (d : Document)

/-- The characters of a line; a line that does not exist has none. -/
def lineText (line : Nat) : Text := (d.line? line).getD []

/-- The place of a column, in units and without any limit. -/
def place (line column : Nat) : Position := ⟨line, (units ((d.lineText line).take column)).length⟩

/-- The end of a line, in units and without any limit. -/
def lineEnd (line : Nat) : Position := ⟨line, (units (d.lineText line)).length⟩

theorem place_eq_lineEnd {line column : Nat} (h : (d.lineText line).length ≤ column) :
    d.place line column = d.lineEnd line := by
  rw [place, List.take_of_length_le h, lineEnd]

/-- The numbers of a range are those of the two places, capped. -/
theorem range_eq_capped (sp : Span) :
    d.range sp = ⟨(d.place sp.line sp.start).capped, (d.place sp.line sp.stop).capped⟩ := by
  simp only [place, length_units]
  rfl

/-- A range does not end before it starts. -/
theorem not_before_range {sp : Span} (h : sp.start ≤ sp.stop) : ¬ (d.range sp).stop.Before (d.range sp).start := by
  have hmono := unitLength_take_mono (d.lineText sp.line) h
  simp only [range_eq_capped, Position.Before, Position.capped, place, length_units]
  omega

variable {d}

/-- Where no number exceeds 32 bits, what the range of a span on its line means is that span and its text. -/
theorem reads_range {sp : Span} {body : Text} (h : sp.start ≤ sp.stop) (hb : d.line? sp.line = some body)
    (hstop : sp.stop ≤ body.length) (hunits : (units body).length < 2 ^ 32) (hline : sp.line < 2 ^ 32) :
    (d.range sp).spanOn? (units body) = some sp ∧ (d.range sp).unitsOn (units body) = units (sp.slice body) := by
  obtain ⟨l, hl, rfl⟩ := Option.map_eq_some_iff.mp hb
  rw [length_units] at hunits
  rw [range_eq hl hline hunits, Range.spanOn?, Range.unitsOn]
  refine ⟨?_, ?_⟩
  · rw [if_pos rfl, columnAt_column hstop, columnAt_column (Nat.le_trans h hstop)]
  · simp only [take_units_column, drop_units_slice h]

end Document

/-- **Spans and ranges correspond.** Take a span on its line, where no number exceeds 32 bits. Both ends of its range
stand between characters and divide no pair. Read on the units of the line, the range means the span again, and its
units are those of the covered text. For any span at all, the range does not end before it starts, a column behind the
end of the line means that end, and each number is the true one, capped. -/
theorem spans_correspond_to_ranges (d : Document) (sp : Span) (h : sp.start ≤ sp.stop) :
    (∀ body, d.line? sp.line = some body → sp.stop ≤ body.length → (units body).length < 2 ^ 32 → sp.line < 2 ^ 32 →
        (∀ p ∈ [(d.range sp).start, (d.range sp).stop],
          BetweenCharacters body p.character ∧ splitsPair (units body) p.character = false) ∧
        (d.range sp).spanOn? (units body) = some sp ∧
        ∃ t, d.spanText? sp = some t ∧ (d.range sp).unitsOn (units body) = units t) ∧
      ¬ (d.range sp).stop.Before (d.range sp).start ∧
      ((d.lineText sp.line).length ≤ sp.start → (d.range sp).start = (d.lineEnd sp.line).capped) ∧
      ((d.lineText sp.line).length ≤ sp.stop → (d.range sp).stop = (d.lineEnd sp.line).capped) ∧
      d.range sp = ⟨(d.place sp.line sp.start).capped, (d.place sp.line sp.stop).capped⟩ := by
  refine ⟨fun body hb hstop hunits hline => ?_, d.not_before_range h, fun hs => ?_, fun hs => ?_, d.range_eq_capped sp⟩
  · obtain ⟨l, hl, rfl⟩ := Option.map_eq_some_iff.mp hb
    obtain ⟨hspan, hslice⟩ := Document.reads_range h hb hstop hunits hline
    refine ⟨?_, hspan, sp.slice l.body, by rw [Document.spanText?, hb, Option.map_some], hslice⟩
    rw [Document.range_eq hl hline (by rwa [← length_units])]
    have hbetween : ∀ column, BetweenCharacters l.body (unitLength (l.body.take column)) ∧
        splitsPair (units l.body) (unitLength (l.body.take column)) = false := fun column =>
      ⟨betweenCharacters_column _ _, (betweenCharacters_column _ _).splitsPair_eq_false⟩
    simp [hbetween]
  · rw [d.range_eq_capped, d.place_eq_lineEnd hs]
  · rw [d.range_eq_capped, d.place_eq_lineEnd hs]

theorem spans_correspond_to_ranges_sample :
    (⟨"x\r\né𝄞@ = v".toList, "aam", 1⟩ : Document).range ⟨1, 1, 3⟩ = ⟨⟨1, 1⟩, ⟨1, 4⟩⟩ ∧
      (⟨⟨1, 1⟩, ⟨1, 4⟩⟩ : Range).spanOn? (units "é𝄞@ = v".toList) = some ⟨1, 1, 3⟩ ∧
      ¬ (⟨1, 4⟩ : Position).Before ⟨1, 1⟩ := by
  have hrange : (⟨"x\r\né𝄞@ = v".toList, "aam", 1⟩ : Document).range ⟨1, 1, 3⟩ = ⟨⟨1, 1⟩, ⟨1, 4⟩⟩ := by decide
  obtain ⟨hlimited, hbefore, _⟩ :=
    spans_correspond_to_ranges ⟨"x\r\né𝄞@ = v".toList, "aam", 1⟩ ⟨1, 1, 3⟩ (by decide)
  obtain ⟨_, hspan, _⟩ := hlimited "é𝄞@ = v".toList (by decide) (by decide) (by decide) (by decide)
  rw [hrange] at hspan hbefore
  exact ⟨hrange, hspan, hbefore⟩

example : (⟨"a = b".toList, "aam", 1⟩ : Document).range ⟨2 ^ 64 - 1, 0, 2 ^ 64 - 1⟩ =
    ⟨⟨2 ^ 32 - 1, 0⟩, ⟨2 ^ 32 - 1, 0⟩⟩ := by
  decide

end Keyline
