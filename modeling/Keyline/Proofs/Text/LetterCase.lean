import Keyline.Settings

/-!
# Letter case

Only ASCII letters have a case here, as a character of a text and as a byte alike. A character beyond ASCII has no byte
of ASCII in its encoding, so the case of a text can be changed byte by byte (`encode_asciiLower`), and bytes are a text
just when they are one in lower case (`decode?_lowerBytes`).

Slashes and dots are no letters. The names of a path stand where they stood, and the extension of a path in lower case
is its extension in lower case (`Path.extension?_lowerBytes`).
-/

namespace Keyline

/-! ## Letter case in texts and bytes -/

/-- A byte, with an upper-case ASCII letter put into lower case. -/
def lowerByte (b : UInt8) : UInt8 := if 0x41 ≤ b.toNat ∧ b.toNat ≤ 0x5A then .ofNat (b.toNat + 0x20) else b

/-- Bytes with their ASCII letters in lower case. -/
def lowerBytes (bytes : Bytes) : Bytes := bytes.map lowerByte

theorem toNat_toLower (c : Char) :
    c.toLower.toNat = if 0x41 ≤ c.toNat ∧ c.toNat ≤ 0x5A then c.toNat + 0x20 else c.toNat := by
  by_cases h : c.toNat < 0x80
  · have hsmall : ∀ n : Nat, n < 0x80 → (Char.ofNat n).toLower.toNat =
        if 0x41 ≤ n ∧ n ≤ 0x5A then n + 0x20 else n := by decide
    simpa using hsmall c.toNat h
  · have hc : ¬ (c.val ≥ 'A'.val ∧ c.val ≤ 'Z'.val) := by
      rintro ⟨-, hz⟩
      have : c.toNat ≤ 0x5A := UInt32.le_iff_toNat_le.mp hz
      omega
    have hl : c.toLower = c := dif_neg hc
    rw [hl, if_neg (by omega)]

theorem toLower_toLower (c : Char) : c.toLower.toLower = c.toLower := by
  apply Char.toNat_inj.mp
  rw [toNat_toLower c.toLower, toNat_toLower c]
  by_cases h : 0x41 ≤ c.toNat ∧ c.toNat ≤ 0x5A
  · rw [if_pos h, if_neg (by omega)]
  · rw [if_neg h, if_neg h]

theorem asciiLower_asciiLower (t : Text) : asciiLower (asciiLower t) = asciiLower t := by
  simp only [asciiLower, List.map_map, Function.comp_def, toLower_toLower]

theorem toNat_lowerByte (b : UInt8) :
    (lowerByte b).toNat = if 0x41 ≤ b.toNat ∧ b.toNat ≤ 0x5A then b.toNat + 0x20 else b.toNat := by
  unfold lowerByte
  split
  · rw [UInt8.toNat_ofNat']
    omega
  · rfl

/-- A character beyond ASCII has no byte of ASCII. -/
theorem le_toNat_of_mem_utf8EncodeChar {c : Char} {b : UInt8} (hc : 0x80 ≤ c.toNat) (hb : b ∈ String.utf8EncodeChar c) :
    0x80 ≤ b.toNat := by
  have hv : ¬ c.val.toNat ≤ 127 := by
    show ¬ c.toNat ≤ 127
    omega
  unfold String.utf8EncodeChar at hb
  simp only [if_neg hv] at hb
  split at hb
  · simp only [List.mem_cons, List.not_mem_nil, or_false] at hb
    rcases hb with rfl | rfl <;> rw [UInt8.toNat_ofNat'] <;> omega
  · split at hb
    · simp only [List.mem_cons, List.not_mem_nil, or_false] at hb
      rcases hb with rfl | rfl | rfl <;> rw [UInt8.toNat_ofNat'] <;> omega
    · simp only [List.mem_cons, List.not_mem_nil, or_false] at hb
      rcases hb with rfl | rfl | rfl | rfl <;> rw [UInt8.toNat_ofNat'] <;> omega

theorem utf8EncodeChar_of_lt {c : Char} (hc : c.toNat < 0x80) : String.utf8EncodeChar c = [.ofNat c.toNat] := by
  have hv : c.val.toNat ≤ 127 := by
    show c.toNat ≤ 127
    omega
  simp only [String.utf8EncodeChar, if_pos hv]
  rfl

/-- Bytes beyond ASCII have no case. -/
theorem lowerBytes_eq_self {bytes : Bytes} (h : ∀ b ∈ bytes, 0x80 ≤ b.toNat) : lowerBytes bytes = bytes := by
  have hb : ∀ b ∈ bytes, lowerByte b = b := by
    intro b hb
    have hle := h b hb
    rw [lowerByte, if_neg (by omega)]
  rw [lowerBytes, List.map_congr_left hb, List.map_id']

theorem toLower_of_le {c : Char} (h : 0x80 ≤ c.toNat) : c.toLower = c := by
  apply Char.toNat_inj.mp
  rw [toNat_toLower, if_neg (by omega)]

theorem utf8EncodeChar_toLower (c : Char) :
    String.utf8EncodeChar c.toLower = lowerBytes (String.utf8EncodeChar c) := by
  have hl := toNat_toLower c
  by_cases hc : c.toNat < 0x80
  · have hl' : c.toLower.toNat < 0x80 := by
      rw [hl]
      split <;> omega
    rw [utf8EncodeChar_of_lt hc, utf8EncodeChar_of_lt hl', lowerBytes, List.map_singleton]
    congr 1
    apply UInt8.toNat_inj.mp
    rw [toNat_lowerByte, UInt8.toNat_ofNat', UInt8.toNat_ofNat', Nat.mod_eq_of_lt (by omega),
      Nat.mod_eq_of_lt (by omega), hl]
  · have hbytes : ∀ b ∈ String.utf8EncodeChar c, 0x80 ≤ b.toNat := fun b hb =>
      le_toNat_of_mem_utf8EncodeChar (by omega) hb
    rw [toLower_of_le (by omega), lowerBytes_eq_self hbytes]

/-- Putting a text into lower case does the same to its bytes. -/
theorem encode_asciiLower (t : Text) : encode (asciiLower t) = lowerBytes (encode t) := by
  induction t with
  | nil => rfl
  | cons c t ih =>
    show String.utf8EncodeChar c.toLower ++ encode (asciiLower t) = lowerBytes (String.utf8EncodeChar c ++ encode t)
    rw [utf8EncodeChar_toLower, ih]
    exact List.map_append.symm

/-- Bytes are read as the text that they encode. -/
theorem decode?_eq_some_iff {bytes : Bytes} {t : Text} : decode? bytes = some t ↔ encode t = bytes := by
  have hbytes : (⟨bytes.toArray⟩ : ByteArray) = bytes.toByteArray := ByteArray.ext List.data_toByteArray.symm
  rw [decode?, hbytes, Option.map_eq_some_iff]
  constructor
  · rintro ⟨s, hs, rfl⟩
    have hs : s.toByteArray = bytes.toByteArray := by
      unfold String.fromUTF8? at hs
      split at hs
      · rw [← Option.some.inj hs]
        rfl
      · cases hs
    rw [← String.utf8Encode_toList] at hs
    exact List.toByteArray_inj.mp hs
  · intro h
    have hvalid : bytes.toByteArray.IsValidUTF8 := ⟨t, by rw [← h]; rfl⟩
    refine ⟨String.fromUTF8 _ hvalid, by rw [String.fromUTF8?, dif_pos hvalid], ?_⟩
    have hs : String.fromUTF8 _ hvalid = String.ofList t := by
      apply String.toByteArray_inj.mp
      rw [String.toByteArray_ofList, List.utf8Encode]
      exact congrArg List.toByteArray h.symm
    rw [hs, String.toList_ofList]

/-- Bytes that are those of a character in lower case are those of a character. -/
theorem exists_utf8EncodeChar_of_lowerBytes {bytes : Bytes} {c : Char}
    (h : lowerBytes bytes = String.utf8EncodeChar c) : ∃ d, String.utf8EncodeChar d = bytes := by
  by_cases hc : c.toNat < 0x80
  · -- The change of case keeps a byte of ASCII within ASCII, and takes no other byte there.
    rw [utf8EncodeChar_of_lt hc, lowerBytes, List.map_eq_singleton_iff] at h
    obtain ⟨b, rfl, hb⟩ := h
    have hl := congrArg UInt8.toNat hb
    rw [toNat_lowerByte, UInt8.toNat_ofNat', Nat.mod_eq_of_lt (by omega)] at hl
    have hsmall : b.toNat < 0x80 := by
      split at hl <;> omega
    have hd : (Char.ofNat b.toNat).toNat = b.toNat := by
      rw [Char.ofNat, dif_pos (Or.inl (by omega))]
      rfl
    refine ⟨Char.ofNat b.toNat, ?_⟩
    rw [utf8EncodeChar_of_lt (by omega), hd, UInt8.ofNat_toNat]
  · -- All bytes lie beyond ASCII, so none of them was changed.
    have hbytes : ∀ b ∈ bytes, 0x80 ≤ b.toNat := by
      intro b hb
      have hmem : lowerByte b ∈ String.utf8EncodeChar c := by
        rw [← h]
        exact List.mem_map_of_mem hb
      have hle := le_toNat_of_mem_utf8EncodeChar (by omega) hmem
      rw [toNat_lowerByte] at hle
      split at hle <;> omega
    exact ⟨c, by rw [← h, lowerBytes_eq_self hbytes]⟩

/-- Bytes that encode a text after a change of case do so before it. -/
theorem exists_encode_of_lowerBytes {bytes : Bytes} {t : Text} (h : lowerBytes bytes = encode t) :
    ∃ s, encode s = bytes := by
  induction t generalizing bytes with
  | nil =>
    obtain rfl := List.map_eq_nil_iff.mp h
    exact ⟨[], rfl⟩
  | cons c t ih =>
    obtain ⟨front, rest, rfl, hfront, hrest⟩ := List.map_eq_append_iff.mp h
    obtain ⟨d, rfl⟩ := exists_utf8EncodeChar_of_lowerBytes hfront
    obtain ⟨s, rfl⟩ := ih hrest
    exact ⟨d :: s, rfl⟩

/-- Reading bytes and putting them into lower case can be done in either order. -/
theorem decode?_lowerBytes (bytes : Bytes) : decode? (lowerBytes bytes) = (decode? bytes).map asciiLower := by
  cases hd : decode? bytes with
  | some t =>
    rw [Option.map_some, decode?_eq_some_iff, encode_asciiLower, decode?_eq_some_iff.mp hd]
  | none =>
    rw [Option.map_none, Option.eq_none_iff_forall_ne_some]
    intro t ht
    obtain ⟨s, hs⟩ := exists_encode_of_lowerBytes (decode?_eq_some_iff.mp ht).symm
    rw [decode?_eq_some_iff.mpr hs] at hd
    cases hd

/-! ## Letter case in paths -/

/-- No letter becomes one of the bytes before the letters. -/
theorem lowerByte_beq {k : UInt8} (hk : k.toNat < 0x41) (b : UInt8) : (lowerByte b == k) = (b == k) := by
  rw [Bool.eq_iff_iff, beq_iff_eq, beq_iff_eq, ← UInt8.toNat_inj, ← UInt8.toNat_inj, toNat_lowerByte]
  split <;> omega

theorem lowerBytes_beq {ks : Bytes} (hk : ∀ k ∈ ks, k.toNat < 0x41) (bytes : Bytes) :
    (lowerBytes bytes == ks) = (bytes == ks) := by
  induction ks generalizing bytes with
  | nil => cases bytes <;> rfl
  | cons k ks ih =>
    cases bytes with
    | nil => rfl
    | cons b bytes =>
      have hb := lowerByte_beq (hk k List.mem_cons_self) b
      have hbs := ih (fun l hl => hk l (List.mem_cons_of_mem k hl)) bytes
      rw [lowerBytes, List.map_cons, List.cons_beq_cons, List.cons_beq_cons, hb]
      exact congrArg (b == k && ·) hbs

namespace Path

theorem splitOn_lowerBytes (path : Path) : (lowerBytes path).splitOn slash = (path.splitOn slash).map lowerBytes := by
  induction path with
  | nil => rfl
  | cons b path ih =>
    have ih : (path.map lowerByte).splitOn slash = (path.splitOn slash).map lowerBytes := ih
    rw [lowerBytes, List.map_cons, List.splitOn_cons_eq_if_modifyHead, List.splitOn_cons_eq_if_modifyHead, ih,
      lowerByte_beq (by decide)]
    split
    · rfl
    · cases path.splitOn slash <;> rfl

theorem fileName?_lowerBytes (path : Path) : fileName? (lowerBytes path) = (fileName? path).map lowerBytes := by
  have hkeep : ((fun part => part != [] && part != [dot]) ∘ lowerBytes) = fun part => part != [] && part != [dot] := by
    funext part
    have hnone : (lowerBytes part == []) = (part == []) := lowerBytes_beq (by simp) part
    have hdot : (lowerBytes part == [dot]) = (part == [dot]) := lowerBytes_beq (by simp [dot]) part
    simp only [Function.comp_apply, bne, hnone, hdot]
  rw [fileName?, splitOn_lowerBytes, List.filter_map, hkeep, List.getLast?_map, fileName?]
  cases ((path.splitOn slash).filter fun part => part != [] && part != [dot]).getLast? with
  | none => rfl
  | some part =>
    have hdots : (lowerBytes part == [dot, dot]) = (part == [dot, dot]) := lowerBytes_beq (by simp [dot]) part
    simp only [Option.map_some, hdots]
    split <;> rfl

theorem nameExtension?_lowerBytes (name : Bytes) :
    nameExtension? (lowerBytes name) = (nameExtension? name).map lowerBytes := by
  have hdot : ((· != dot) ∘ lowerByte) = (· != dot) := by
    funext b
    simp only [Function.comp_apply, bne, lowerByte_beq (k := dot) (by decide)]
  simp only [nameExtension?, lowerBytes, ← List.map_reverse, List.dropWhile_map, List.takeWhile_map, hdot]
  cases name.reverse.dropWhile (· != dot) with
  | nil => rfl
  | cons b stem =>
    simp only [List.map_cons, List.isEmpty_map]
    split <;> simp [lowerBytes]

/-- The extension of a path in lower case is its extension in lower case. -/
theorem extension?_lowerBytes (path : Path) : extension? (lowerBytes path) = (extension? path).map asciiLower := by
  rw [extension?, fileName?_lowerBytes, extension?]
  cases (fileName? path) with
  | none => rfl
  | some name =>
    simp only [Option.map_some, Option.bind_some, nameExtension?_lowerBytes]
    cases nameExtension? name with
    | none => rfl
    | some e => exact decode?_lowerBytes e

end Path

end Keyline
