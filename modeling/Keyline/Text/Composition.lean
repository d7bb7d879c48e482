import Keyline.Text.Composition.Classes
import Keyline.Text.Composition.Composites

/-!
# Composed texts

Many characters with marks can be written in several ways: as one character, or as a letter followed by its marks, and
marks in different places may come in any order. The composed form is the one with as few characters as possible: every
composite is taken apart, the marks of each letter are put in the order of their classes, and what can be composed is
composed again, unless something that stands between keeps the two apart.

Main statement: a text of characters that neither are composites nor can be part of one, as in ASCII, stays as it is
(`compose_eq_self`).
-/

namespace Keyline

/-- The combining class of a character; zero if it starts anew. -/
def combiningClass (c : Char) : Nat := if c.toNat < 0x300 then 0 else (valueIn? combiningClasses c).getD 0

/-! ## Syllables of Hangul -/

/-- The index of a syllable of Hangul. -/
def syllable? (c : Char) : Option Nat :=
  if 0xAC00 ≤ c.toNat && c.toNat < 0xD7A4 then some (c.toNat - 0xAC00) else none

/-- The letters of the syllable with a given index. -/
def syllableParts (i : Nat) : Text :=
  [Char.ofNat (0x1100 + i / 588), Char.ofNat (0x1161 + i % 588 / 28)] ++
    if i % 28 = 0 then [] else [Char.ofNat (0x11A7 + i % 28)]

/-- The syllable of a first letter and a vowel, or of a syllable without last letter and a last letter. -/
def joinSyllable? (a b : Char) : Option Char :=
  let a := a.toNat
  let b := b.toNat
  if 0x1100 ≤ a && a < 0x1113 && 0x1161 ≤ b && b < 0x1176 then
    some (Char.ofNat (0xAC00 + (a - 0x1100) * 588 + (b - 0x1161) * 28))
  else if 0xAC00 ≤ a && a < 0xD7A4 && (a - 0xAC00) % 28 == 0 && 0x11A8 ≤ b && b < 0x11C3 then
    some (Char.ofNat (a + (b - 0x11A7)))
  else none

/-! ## Taking apart and composing -/

/-- The characters that a character is composed of. -/
def parts (c : Char) : Text :=
  if c.toNat < 0xC0 then [c]
  else
    match syllable? c with
    | some i => syllableParts i
    | none => (valueIn? composites c).getD [c]

/-- The character that two characters are composed to. -/
def composed? (a b : Char) : Option Char :=
  if b.toNat < 0x300 then none
  else
    let whole := parts a ++ [b]
    (joinSyllable? a b).or ((composites.find? (·.value == whole)).map fun r => Char.ofNat r.first)

/-- Puts a mark behind a text, whose last character comes first, in front of the marks of higher classes. -/
def insertMark (c : Char) : Text → Text
  | [] => [c]
  | d :: r => if combiningClass c != 0 && combiningClass c < combiningClass d then d :: insertMark c r else c :: d :: r

/-- A text with the marks of each letter in the order of their classes. -/
def ordered (t : Text) : Text := (t.foldl (fun done c => insertMark c done) []).reverse

/-- Composes a text behind a letter; `between` are the marks of the letter so far that are not composed with it. -/
def composeBehind (letter : Char) (between : Text) : Text → Text
  | [] => letter :: between
  | c :: r =>
    let apart := between.getLast?.any fun d => combiningClass c ≤ combiningClass d
    match if apart then none else composed? letter c with
    | some whole => composeBehind whole between r
    | none =>
      if combiningClass c = 0 then letter :: between ++ composeBehind c [] r
      else composeBehind letter (between ++ [c]) r

/-- Composes a text that is taken apart and ordered. Marks without letter stay. -/
def recompose : Text → Text
  | [] => []
  | c :: r => if combiningClass c = 0 then composeBehind c [] r else c :: recompose r

/-- The composed form of a text. -/
def compose (t : Text) : Text := recompose (ordered (t.flatMap parts))

/-! ## Texts that stay -/

theorem combiningClass_eq_zero {c : Char} (h : c.toNat < 0x300) : combiningClass c = 0 := by
  simp [combiningClass, h]

theorem composed?_eq_none (a : Char) {b : Char} (h : b.toNat < 0x300) : composed? a b = none := by
  simp [composed?, h]

theorem flatMap_parts_eq_self {t : Text} (h : ∀ c ∈ t, c.toNat < 0xC0) : t.flatMap parts = t := by
  induction t with
  | nil => rfl
  | cons c r ih =>
    have hc : parts c = [c] := by simp [parts, h c (by simp)]
    rw [List.flatMap_cons, hc, ih fun d hd => h d (by simp [hd])]
    rfl

theorem insertMark_eq_cons {c : Char} (h : c.toNat < 0x300) (done : Text) : insertMark c done = c :: done := by
  cases done with
  | nil => rfl
  | cons d r => simp [insertMark, combiningClass_eq_zero h]

theorem ordered_eq_self {t : Text} (h : ∀ c ∈ t, c.toNat < 0x300) : ordered t = t := by
  suffices ∀ done : Text, t.foldl (fun done c => insertMark c done) done = t.reverse ++ done by
    rw [ordered, this, List.append_nil, List.reverse_reverse]
  induction t with
  | nil => intro done; rfl
  | cons c r ih =>
    intro done
    rw [List.foldl_cons, insertMark_eq_cons (h c (by simp)), ih fun d hd => h d (by simp [hd])]
    simp

theorem composeBehind_eq_cons {t : Text} (h : ∀ c ∈ t, c.toNat < 0x300) (letter : Char) :
    composeBehind letter [] t = letter :: t := by
  induction t generalizing letter with
  | nil => rfl
  | cons c r ih =>
    have hc := h c (by simp)
    simp [composeBehind, composed?_eq_none letter hc, combiningClass_eq_zero hc, ih fun d hd => h d (by simp [hd])]

/-- A text stays as it is if its characters are neither composites nor marks. -/
theorem compose_eq_self {t : Text} (h : ∀ c ∈ t, c.toNat < 0xC0) : compose t = t := by
  have h' : ∀ c ∈ t, c.toNat < 0x300 := fun c hc => Nat.lt_trans (h c hc) (by decide)
  rw [compose, flatMap_parts_eq_self h, ordered_eq_self h']
  cases t with
  | nil => rfl
  | cons c r =>
    rw [recompose, combiningClass_eq_zero (h' c (by simp)), if_pos rfl]
    exact composeBehind_eq_cons (fun d hd => h' d (by simp [hd])) c

end Keyline
