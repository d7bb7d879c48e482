import Keyline.Text.Blank

/-!
# Texts in bytes, units and digits

Files, paths and percent escapes hold bytes, in which a text is stored in UTF-8. Bytes that are no text can still be
shown: what starts like a character and is none, or starts like none, is replaced by U+FFFD. A text is shown as it is
(`decodeLossy_encode`).

An editor counts columns in UTF-16 code units: a character beyond U+FFFF takes two. Positions are 32-bit numbers, and a
larger number is written as the largest.

Escapes write a character by its number, in digits of a base up to sixteen: `0` to `9` and the letters from `a` on, in
either case.
-/

namespace Keyline

/-! ## Bytes -/

/-- A sequence of bytes. -/
abbrev Bytes := List UInt8

/-- The bytes of a text. -/
def encode (t : Text) : Bytes := t.flatMap String.utf8EncodeChar

/-- The text that bytes encode, if they encode one. -/
def decode? (bytes : Bytes) : Option Text := (String.fromUTF8? ⟨bytes.toArray⟩).map String.toList

/-- The ranges in which the bytes lie that follow the first byte of a character. -/
def followers (first : UInt8) : List (UInt8 × UInt8) :=
  if first < 0xC2 then []
  else if first < 0xE0 then [(0x80, 0xBF)]
  else if first = 0xE0 then [(0xA0, 0xBF), (0x80, 0xBF)]
  else if first = 0xED then [(0x80, 0x9F), (0x80, 0xBF)]
  else if first < 0xF0 then [(0x80, 0xBF), (0x80, 0xBF)]
  else if first = 0xF0 then [(0x90, 0xBF), (0x80, 0xBF), (0x80, 0xBF)]
  else if first < 0xF4 then [(0x80, 0xBF), (0x80, 0xBF), (0x80, 0xBF)]
  else if first = 0xF4 then [(0x80, 0x8F), (0x80, 0xBF), (0x80, 0xBF)]
  else []

/-- Drops bytes as long as each lies in its range. -/
def dropWithin : List (UInt8 × UInt8) → Bytes → Bytes
  | (lo, hi) :: ranges, b :: bytes => if lo ≤ b ∧ b ≤ hi then dropWithin ranges bytes else b :: bytes
  | _, bytes => bytes

theorem length_dropWithin_le (ranges : List (UInt8 × UInt8)) (bytes : Bytes) :
    (dropWithin ranges bytes).length ≤ bytes.length := by
  induction ranges generalizing bytes with
  | nil => cases bytes <;> exact Nat.le_refl _
  | cons r ranges ih =>
    cases bytes with
    | nil => exact Nat.le_refl _
    | cons b bytes =>
      rw [dropWithin]
      split
      · exact Nat.le_succ_of_le (ih bytes)
      · exact Nat.le_refl _

/-- The text as which bytes are shown. Where no character starts, as many bytes as could start one are replaced. -/
def decodeLossy : Bytes → Text
  | [] => []
  | b :: bytes =>
    match ByteArray.utf8DecodeChar? ⟨(b :: bytes).toArray⟩ 0 with
    | some c => c :: decodeLossy (bytes.drop (c.utf8Size - 1))
    | none => '\uFFFD' :: decodeLossy (dropWithin (followers b) bytes)
termination_by bytes => bytes.length
decreasing_by
  · simp only [List.length_drop, List.length_cons]
    omega
  · exact Nat.lt_succ_of_le (length_dropWithin_le _ _)

theorem encode_cons (c : Char) (t : Text) : encode (c :: t) = String.utf8EncodeChar c ++ encode t := rfl

theorem encode_append (s t : Text) : encode (s ++ t) = encode s ++ encode t := List.flatMap_append

theorem utf8DecodeChar?_encode_cons (c : Char) (t : Text) :
    ByteArray.utf8DecodeChar? ⟨(encode (c :: t)).toArray⟩ 0 = some c := by
  have hbytes : (⟨(encode (c :: t)).toArray⟩ : ByteArray) =
      (String.utf8EncodeChar c).toByteArray ++ (encode t).toByteArray := by
    apply ByteArray.ext
    simp [encode_cons]
  rw [hbytes, ByteArray.utf8DecodeChar?_utf8EncodeChar_append]

theorem decodeLossy_encode (t : Text) : decodeLossy (encode t) = t := by
  induction t with
  | nil => rw [show encode [] = [] from rfl, decodeLossy]
  | cons c t ih =>
    obtain ⟨b, rest, hb⟩ := List.exists_cons_of_ne_nil (String.utf8EncodeChar_ne_nil (c := c))
    have hdecode := utf8DecodeChar?_encode_cons c t
    have hsize : c.utf8Size - 1 = rest.length := by
      rw [← String.length_utf8EncodeChar, hb]
      rfl
    rw [encode_cons, hb, List.cons_append] at hdecode ⊢
    rw [decodeLossy]
    simp only [hdecode, hsize]
    rw [List.drop_left, ih]

/-! ## UTF-16 units -/

/-- The number of UTF-16 code units of a character. -/
def unitWidth (c : Char) : Nat := if c.toNat < 0x10000 then 1 else 2

/-- The number of UTF-16 code units of a text. -/
def unitLength (t : Text) : Nat := t.foldr (fun c n => unitWidth c + n) 0

/-- The largest number that fits 32 bits. -/
def maxUInt32 : Nat := 0xFFFFFFFF

/-- A number, or the largest that fits 32 bits. -/
def cap32 (n : Nat) : Nat := min n maxUInt32

/-- The UTF-16 column of a character column; a column behind the end of the text means its end. -/
def unitColumn (t : Text) (column : Nat) : Nat := cap32 (unitLength (t.take column))

@[simp] theorem unitLength_nil : unitLength [] = 0 := rfl

@[simp] theorem unitLength_cons (c : Char) (t : Text) : unitLength (c :: t) = unitWidth c + unitLength t := rfl

theorem unitLength_append (s t : Text) : unitLength (s ++ t) = unitLength s + unitLength t := by
  induction s with
  | nil => simp
  | cons c s ih => rw [List.cons_append, unitLength_cons, unitLength_cons, ih, Nat.add_assoc]

/-! ## Digits -/

/-- A hexadecimal digit, in lower case. -/
def hexDigit (n : Nat) : Char := Nat.digitChar (n % 16)

/-- The value of a hexadecimal digit. -/
def hexValue? (c : Char) : Option Nat :=
  if '0' ≤ c ∧ c ≤ '9' then some (c.toNat - '0'.toNat)
  else if 'a' ≤ c ∧ c ≤ 'f' then some (c.toNat - 'a'.toNat + 10)
  else if 'A' ≤ c ∧ c ≤ 'F' then some (c.toNat - 'A'.toNat + 10)
  else none

/-- The number that digits of a base stand for. -/
def digitsValue? (base : Nat) (t : Text) : Option Nat := do
  let values ← t.mapM hexValue?
  if values.all (· < base) then some (values.foldl (fun v d => base * v + d) 0) else none

/-- Reads a number of `n` hexadecimal digits. -/
def readHex (n : Nat) (cs : Text) : Option (Nat × Text) :=
  let digits := cs.take n
  if digits.length < n then none
  else do
    let values ← digits.mapM hexValue?
    some (values.foldl (fun v d => 16 * v + d) 0, cs.drop n)

end Keyline
