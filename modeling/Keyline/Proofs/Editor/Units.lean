import Keyline.Text.Encoding

/-!
# Texts as UTF-16 code units

An editor holds a text as its UTF-16 code units: a character up to U+FFFF is one unit, any other a pair of surrogates.
Such a list of units may be cut anywhere, also between two surrogates; a surrogate without its partner is read as the
replacement character.

Main statements: the units of a text are as many as `unitLength` says (`length_units`), and reading them gives the text
back (`ofUnits_units`).
-/

namespace Keyline

/-- The units of a character. -/
def charUnits (c : Char) : List UInt16 :=
  if c.toNat < 0x10000 then [.ofNat c.toNat]
  else [.ofNat (0xD800 + (c.toNat - 0x10000) / 0x400), .ofNat (0xDC00 + (c.toNat - 0x10000) % 0x400)]

/-- The units of a text. -/
def units (t : Text) : List UInt16 := t.flatMap charUnits

/-- Whether a unit is the first one of a pair. -/
def isHighSurrogate (u : UInt16) : Bool := 0xD800 ≤ u.toNat && u.toNat < 0xDC00

/-- Whether a unit is the second one of a pair. -/
def isLowSurrogate (u : UInt16) : Bool := 0xDC00 ≤ u.toNat && u.toNat < 0xE000

/-- The character of a single unit. -/
def unitChar (u : UInt16) : Char :=
  if isHighSurrogate u || isLowSurrogate u then '\uFFFD' else .ofNat u.toNat

/-- The character of a pair. -/
def pairChar (u v : UInt16) : Char := .ofNat (0x10000 + (u.toNat - 0xD800) * 0x400 + (v.toNat - 0xDC00))

/-- The text that a list of units stands for. -/
def ofUnits : List UInt16 → Text
  | [] => []
  | [u] => [unitChar u]
  | u :: v :: us =>
    if isHighSurrogate u && isLowSurrogate v then pairChar u v :: ofUnits us else unitChar u :: ofUnits (v :: us)

@[simp] theorem units_nil : units [] = [] := rfl

@[simp] theorem units_cons (c : Char) (t : Text) : units (c :: t) = charUnits c ++ units t := rfl

@[simp] theorem units_append (s t : Text) : units (s ++ t) = units s ++ units t := List.flatMap_append

theorem length_charUnits (c : Char) : (charUnits c).length = unitWidth c := by
  unfold charUnits unitWidth
  split <;> rfl

theorem length_units (t : Text) : (units t).length = unitLength t := by
  induction t with
  | nil => rfl
  | cons c t ih => rw [units_cons, List.length_append, length_charUnits, ih, unitLength_cons]

/-- Code points are no surrogates. -/
theorem toNat_lt_or_gt (c : Char) : c.toNat < 0xD800 ∨ 0xDFFF < c.toNat ∧ c.toNat < 0x110000 := c.valid

/-- A unit below the surrogates belongs to the character with that code point only. -/
theorem eq_of_mem_charUnits {b c : Char} {u : UInt16} (h : u ∈ charUnits c) (hu : u.toNat = b.toNat)
    (hb : b.toNat < 0xD800) : c = b := by
  apply Char.toNat_inj.mp
  unfold charUnits at h
  split at h
  · rename_i hc
    obtain rfl := List.mem_singleton.mp h
    rw [← hu, UInt16.toNat_ofNat_of_lt' hc]
  · have hv := toNat_lt_or_gt c
    simp only [List.mem_cons, List.not_mem_nil, or_false] at h
    rcases h with rfl | rfl
    · rw [UInt16.toNat_ofNat'] at hu
      omega
    · rw [UInt16.toNat_ofNat'] at hu
      omega

/-! ## Reading units -/

/-- A unit that does not start a pair is read on its own. -/
theorem ofUnits_cons {u : UInt16} (h : isHighSurrogate u = false) (us : List UInt16) :
    ofUnits (u :: us) = unitChar u :: ofUnits us := by
  cases us with
  | nil => rfl
  | cons v us => simp [ofUnits, h]

theorem ofUnits_pair {u v : UInt16} (hu : isHighSurrogate u = true) (hv : isLowSurrogate v = true) (us : List UInt16) :
    ofUnits (u :: v :: us) = pairChar u v :: ofUnits us := by
  simp [ofUnits, hu, hv]

/-- The units of a character are read as that character, whatever follows. -/
theorem ofUnits_charUnits_append (c : Char) (us : List UInt16) : ofUnits (charUnits c ++ us) = c :: ofUnits us := by
  have hv := toNat_lt_or_gt c
  unfold charUnits
  split
  · rename_i hc
    have hn : (UInt16.ofNat c.toNat).toNat = c.toNat := UInt16.toNat_ofNat_of_lt' hc
    have hh : isHighSurrogate (.ofNat c.toNat) = false := by
      simp only [isHighSurrogate, hn, Bool.and_eq_false_iff, decide_eq_false_iff_not]
      omega
    have hl : isLowSurrogate (.ofNat c.toNat) = false := by
      simp only [isLowSurrogate, hn, Bool.and_eq_false_iff, decide_eq_false_iff_not]
      omega
    rw [List.singleton_append, ofUnits_cons hh, unitChar, hh, hl, hn, Char.ofNat_toNat]
    rfl
  · -- The pair holds the quotient and the remainder of what lies beyond U+FFFF.
    generalize hhigh : 0xD800 + (c.toNat - 0x10000) / 0x400 = high
    generalize hlow : 0xDC00 + (c.toNat - 0x10000) % 0x400 = low
    have hn : (UInt16.ofNat high).toNat = high := UInt16.toNat_ofNat_of_lt' (show high < 2 ^ 16 by omega)
    have hm : (UInt16.ofNat low).toNat = low := UInt16.toNat_ofNat_of_lt' (show low < 2 ^ 16 by omega)
    have hh : isHighSurrogate (.ofNat high) = true := by
      simp only [isHighSurrogate, hn, Bool.and_eq_true, decide_eq_true_eq]
      omega
    have hl : isLowSurrogate (.ofNat low) = true := by
      simp only [isLowSurrogate, hm, Bool.and_eq_true, decide_eq_true_eq]
      omega
    have hc : 0x10000 + (high - 0xD800) * 0x400 + (low - 0xDC00) = c.toNat := by omega
    rw [List.cons_append, List.singleton_append, ofUnits_pair hh hl, pairChar, hn, hm, hc, Char.ofNat_toNat]

theorem ofUnits_units (t : Text) : ofUnits (units t) = t := by
  induction t with
  | nil => rfl
  | cons c t ih => rw [units_cons, ofUnits_charUnits_append, ih]

example : units "a𝄞".toList = [0x61, 0xD834, 0xDD1E] ∧ ofUnits [0xD834, 0x61] = "\uFFFDa".toList := by decide

end Keyline
