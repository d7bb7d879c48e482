import Mathlib.Order.MinMax
import Keyline.Edit
import Keyline.Proofs.Text.LetterCase

/-!
# Edits on bytes

Columns count characters, but a line that is stored in UTF-8 is cut at byte offsets, and a cut within a character fails.
Here an edit is made on the bytes: the columns are turned into offsets first, and only then is an offset behind the end
or a span that ends before it starts put right (`Edit.applyBytes?`).

* A character has one byte that starts it, which tells how many others continue it (`exists_utf8EncodeChar_eq_cons`).
* So the offset of a column is the number of bytes of the characters before it, or of all characters
  (`byteOffset_encode`), and the offsets at which bytes may be cut are those between characters
  (`mayCutAt_encode_iff`).
* The later of two offsets is that of the later column (`max_length_encode_take`). Hence the edit of the bytes gives
  the bytes of the edited line.
-/

namespace Keyline

/-- Whether a byte continues a character that an earlier byte has started. -/
def isContinuation (b : UInt8) : Bool := 0x80 ≤ b.toNat && b.toNat < 0xC0

/-- The number of bytes of a character, as its first byte tells. -/
def leadWidth (b : UInt8) : Nat :=
  if b.toNat < 0x80 then 1 else if b.toNat < 0xE0 then 2 else if b.toNat < 0xF0 then 3 else 4

/-- The offsets at which characters start in bytes that stand at `offset`, the first `skip` of which continue a
character. -/
def charOffsets (offset : Nat) : Nat → Bytes → List Nat
  | _, [] => []
  | 0, b :: bytes => offset :: charOffsets (offset + 1) (leadWidth b - 1) bytes
  | skip + 1, _ :: bytes => charOffsets (offset + 1) skip bytes

/-- The offset at which the character of a column starts; behind the last character, the end of the bytes. -/
def byteOffset (bytes : Bytes) (column : Nat) : Nat := (charOffsets 0 0 bytes)[column]?.getD bytes.length

/-- Whether bytes may be cut at an offset: at their ends, and in front of a byte that starts a character. -/
def mayCutAt (bytes : Bytes) (offset : Nat) : Bool :=
  offset == 0 || if offset < bytes.length then bytes[offset]?.any (!isContinuation ·) else offset == bytes.length

/-- The bytes before an offset, if they may be cut there. -/
def bytesBefore? (bytes : Bytes) (offset : Nat) : Option Bytes :=
  if mayCutAt bytes offset then some (bytes.take offset) else none

/-- The bytes from an offset on, if they may be cut there. -/
def bytesFrom? (bytes : Bytes) (offset : Nat) : Option Bytes :=
  if mayCutAt bytes offset then some (bytes.drop offset) else none

namespace Edit

/-- The offset at which an edit starts to replace bytes. -/
def byteStart (e : Edit) (bytes : Bytes) : Nat := byteOffset bytes e.span.start

/-- The offset up to which an edit replaces bytes. -/
def byteStop (e : Edit) (bytes : Bytes) : Nat := max (byteOffset bytes e.span.stop) (e.byteStart bytes)

/-- Replaces the span in the bytes of a line; none if that cuts them within a character. -/
def applyBytes? (e : Edit) (bytes : Bytes) : Option Bytes := do
  let before ← bytesBefore? bytes (e.byteStart bytes)
  let after ← bytesFrom? bytes (e.byteStop bytes)
  return before ++ encode e.newText ++ after

end Edit

/-- An offset into the bytes of a text lies between two characters, or at one of the ends. -/
def BetweenBytes (t : Text) (offset : Nat) : Prop :=
  ∃ before after, t = before ++ after ∧ offset = (encode before).length

/-! ## The bytes of a text -/

/-- A byte that starts a character of the given number of bytes. -/
theorem lead_ofNat (n width : Nat)
    (h : n < 0x80 ∧ width = 1 ∨ 0xC0 ≤ n ∧ n < 0xE0 ∧ width = 2 ∨ 0xE0 ≤ n ∧ n < 0xF0 ∧ width = 3 ∨
      0xF0 ≤ n ∧ n < 0x100 ∧ width = 4) :
    isContinuation (.ofNat n) = false ∧ leadWidth (.ofNat n) = width := by
  have hn : (UInt8.ofNat n).toNat = n := by
    rw [UInt8.toNat_ofNat']
    omega
  rw [isContinuation, leadWidth, hn]
  constructor
  · simp only [Bool.and_eq_false_iff, decide_eq_false_iff_not]
    omega
  · split
    · omega
    · split
      · omega
      · split <;> omega

/-- Six bits of a character make a byte that continues it. -/
theorem isContinuation_ofNat (n : Nat) : isContinuation (.ofNat (n % 0x40 + 0x80)) = true := by
  simp only [isContinuation, UInt8.toNat_ofNat', Bool.and_eq_true, decide_eq_true_eq]
  omega

/-- The bytes of a character: one that starts it and tells their number, and those that continue it. -/
theorem exists_utf8EncodeChar_eq_cons (c : Char) :
    ∃ b rest, String.utf8EncodeChar c = b :: rest ∧ isContinuation b = false ∧ leadWidth b = rest.length + 1 ∧
      ∀ r ∈ rest, isContinuation r = true := by
  unfold String.utf8EncodeChar
  simp only
  split
  · obtain ⟨hb, hw⟩ := lead_ofNat c.val.toNat 1 (by omega)
    exact ⟨_, _, rfl, hb, hw, by simp⟩
  · split
    · obtain ⟨hb, hw⟩ := lead_ofNat (c.val.toNat / 64 % 0x20 + 0xC0) 2 (by omega)
      exact ⟨_, _, rfl, hb, hw, by simp only [List.forall_mem_cons, isContinuation_ofNat]; simp⟩
    · split
      · obtain ⟨hb, hw⟩ := lead_ofNat (c.val.toNat / 4096 % 0x10 + 0xE0) 3 (by omega)
        exact ⟨_, _, rfl, hb, hw, by simp only [List.forall_mem_cons, isContinuation_ofNat]; simp⟩
      · obtain ⟨hb, hw⟩ := lead_ofNat (c.val.toNat / 262144 % 0x08 + 0xF0) 4 (by omega)
        exact ⟨_, _, rfl, hb, hw, by simp only [List.forall_mem_cons, isContinuation_ofNat]; simp⟩

/-! ## The offset of a column -/

/-- The bytes that continue a character are passed over. -/
theorem charOffsets_append (offset : Nat) (rest bytes : Bytes) :
    charOffsets offset rest.length (rest ++ bytes) = charOffsets (offset + rest.length) 0 bytes := by
  induction rest generalizing offset with
  | nil => rfl
  | cons b rest ih =>
    show charOffsets (offset + 1) rest.length (rest ++ bytes) = _
    rw [ih, List.length_cons, Nat.add_right_comm, Nat.add_assoc]

/-- After the start of a character come the starts of the following ones, behind its bytes. -/
theorem charOffsets_encode_cons (offset : Nat) (c : Char) (t : Text) :
    charOffsets offset 0 (encode (c :: t)) =
      offset :: charOffsets (offset + (String.utf8EncodeChar c).length) 0 (encode t) := by
  obtain ⟨b, rest, hc, _, hw, _⟩ := exists_utf8EncodeChar_eq_cons c
  rw [encode_cons, hc]
  show offset :: charOffsets (offset + 1) (leadWidth b - 1) (rest ++ encode t) = _
  rw [hw, Nat.add_sub_cancel, charOffsets_append, List.length_cons, Nat.add_right_comm, Nat.add_assoc]

/-- Each character starts behind the bytes of those before it. -/
theorem getElem?_charOffsets_encode (t : Text) (offset column : Nat) :
    (charOffsets offset 0 (encode t))[column]? =
      if column < t.length then some (offset + (encode (t.take column)).length) else none := by
  induction t generalizing offset column with
  | nil => rfl
  | cons c t ih =>
    rw [charOffsets_encode_cons]
    cases column with
    | zero => simp [encode]
    | succ column =>
      rw [List.getElem?_cons_succ, ih, List.take_succ_cons, encode_cons, List.length_append, List.length_cons,
        Nat.add_assoc]
      simp only [Nat.add_lt_add_iff_right]

/-- The offset of a column is the number of bytes of the characters before it. -/
theorem byteOffset_encode (t : Text) (column : Nat) :
    byteOffset (encode t) column = (encode (t.take column)).length := by
  rw [byteOffset, getElem?_charOffsets_encode]
  split
  · rw [Option.getD_some, Nat.zero_add]
  · rename_i h
    rw [Option.getD_none, List.take_of_length_le (Nat.le_of_not_lt h)]

/-! ## Where bytes may be cut -/

theorem take_length_encode (before after : Text) :
    (encode (before ++ after)).take (encode before).length = encode before := by
  rw [encode_append, List.take_left]

theorem drop_length_encode (before after : Text) :
    (encode (before ++ after)).drop (encode before).length = encode after := by
  rw [encode_append, List.drop_left]

/-- A byte that starts a character stands between characters. -/
theorem betweenBytes_of_getElem? {t : Text} {offset : Nat} {b : UInt8} (h : (encode t)[offset]? = some b)
    (hb : isContinuation b = false) : BetweenBytes t offset := by
  induction t generalizing offset with
  | nil => cases h
  | cons c t ih =>
    obtain ⟨first, rest, hc, _, _, hrest⟩ := exists_utf8EncodeChar_eq_cons c
    by_cases hlt : offset < (String.utf8EncodeChar c).length
    · -- Of the bytes of the first character only the first one starts a character.
      rw [encode_cons, List.getElem?_append_left hlt, hc] at h
      cases offset with
      | zero => exact ⟨[], c :: t, rfl, rfl⟩
      | succ offset =>
        rw [hrest b (List.mem_of_getElem? h)] at hb
        cases hb
    · rw [encode_cons, List.getElem?_append_right (Nat.le_of_not_lt hlt)] at h
      obtain ⟨before, after, rfl, ho⟩ := ih h
      refine ⟨c :: before, after, rfl, ?_⟩
      rw [encode_cons, List.length_append]
      omega

/-- Between characters stands the end of the bytes, or a byte that starts a character. -/
theorem BetweenBytes.mayCutAt_encode {t : Text} {offset : Nat} (h : BetweenBytes t offset) :
    mayCutAt (encode t) offset = true := by
  obtain ⟨before, after, rfl, rfl⟩ := h
  rw [mayCutAt, Bool.or_eq_true]
  refine Or.inr ?_
  cases after with
  | nil => simp
  | cons c after =>
    obtain ⟨b, rest, hc, hb, _, _⟩ := exists_utf8EncodeChar_eq_cons c
    have hread : (encode (before ++ c :: after))[(encode before).length]? = some b := by
      rw [encode_append, List.getElem?_append_right (Nat.le_refl _), Nat.sub_self, encode_cons, hc]
      rfl
    rw [if_pos (List.getElem?_eq_some_iff.mp hread).1, hread, Option.any_some, hb]
    rfl

/-- Bytes may be cut exactly between characters. -/
theorem mayCutAt_encode_iff {t : Text} {offset : Nat} : mayCutAt (encode t) offset = true ↔ BetweenBytes t offset := by
  refine ⟨fun h => ?_, BetweenBytes.mayCutAt_encode⟩
  rw [mayCutAt, Bool.or_eq_true, beq_iff_eq] at h
  rcases h with rfl | h
  · exact ⟨[], t, rfl, rfl⟩
  · split at h
    · cases hb : (encode t)[offset]? with
      | none => simp [hb] at h
      | some b => exact betweenBytes_of_getElem? hb (by simpa [hb] using h)
    · exact ⟨t, [], (List.append_nil t).symm, by simpa using h⟩

/-! ## Edits -/

theorem BetweenBytes.le_length {t : Text} {offset : Nat} (h : BetweenBytes t offset) : offset ≤ (encode t).length := by
  obtain ⟨before, after, rfl, rfl⟩ := h
  rw [encode_append, List.length_append]
  exact Nat.le_add_right _ _

theorem betweenBytes_take (t : Text) (column : Nat) : BetweenBytes t (encode (t.take column)).length :=
  ⟨t.take column, t.drop column, (List.take_append_drop column t).symm, rfl⟩

theorem monotone_length_encode_take (t : Text) : Monotone fun column => (encode (t.take column)).length := by
  intro i j h
  have htake : (t.take j).take i = t.take i := by rw [List.take_take, Nat.min_eq_left h]
  show (encode (t.take i)).length ≤ (encode (t.take j)).length
  rw [← List.take_append_drop i (t.take j), htake, encode_append, List.length_append]
  exact Nat.le_add_right _ _

/-- The later of the offsets of two columns is the offset of the later column. -/
theorem max_length_encode_take (t : Text) (i j : Nat) :
    max (encode (t.take j)).length (encode (t.take i)).length = (encode (t.take (max i j))).length := by
  rw [Nat.max_comm i]
  exact (monotone_length_encode_take t).map_max.symm

namespace Edit

variable (e : Edit) (body : Text)

theorem byteStart_encode : e.byteStart (encode body) = (encode (body.take e.span.start)).length :=
  byteOffset_encode body e.span.start

theorem byteStop_encode :
    e.byteStop (encode body) = (encode (body.take (max e.span.start e.span.stop))).length := by
  rw [byteStop, byteStart_encode, byteOffset_encode, max_length_encode_take]

/-- The edit of the bytes of a line gives the bytes of the edited line. -/
theorem applyBytes?_encode : e.applyBytes? (encode body) = some (encode (e.apply body)) := by
  have hstart := (betweenBytes_take body e.span.start).mayCutAt_encode
  have hstop := (betweenBytes_take body (max e.span.start e.span.stop)).mayCutAt_encode
  have hbefore := take_length_encode (body.take e.span.start) (body.drop e.span.start)
  have hafter :=
    drop_length_encode (body.take (max e.span.start e.span.stop)) (body.drop (max e.span.start e.span.stop))
  rw [List.take_append_drop] at hbefore hafter
  rw [applyBytes?, byteStart_encode, byteStop_encode, bytesBefore?, bytesFrom?, if_pos hstart, if_pos hstop, hbefore,
    hafter, apply, encode_append, encode_append]
  rfl

end Edit

/-- **Edits are right on bytes.** Let the line be stored in UTF-8, where bytes may be cut between characters and nowhere
else. For every edit, whatever its columns, the two offsets at which the bytes are cut lie between characters, in order,
and not behind the end. So the edit of the bytes does not fail. It gives the bytes of the edited line, and these are
read as the characters before the first column, the new text, and the characters from the later of both columns on. -/
theorem edits_cut_bytes_between_characters (e : Edit) (body : Text) :
    (∀ offset, mayCutAt (encode body) offset = true ↔ BetweenBytes body offset) ∧
      BetweenBytes body (e.byteStart (encode body)) ∧ BetweenBytes body (e.byteStop (encode body)) ∧
      e.byteStart (encode body) ≤ e.byteStop (encode body) ∧ e.byteStop (encode body) ≤ (encode body).length ∧
      ∃ result, e.applyBytes? (encode body) = some result ∧ result = encode (e.apply body) ∧
        decode? result = some (body.take e.span.start ++ e.newText ++ body.drop (max e.span.start e.span.stop)) := by
  have hstart : BetweenBytes body (e.byteStart (encode body)) := by
    rw [e.byteStart_encode]
    exact betweenBytes_take body _
  have hstop : BetweenBytes body (e.byteStop (encode body)) := by
    rw [e.byteStop_encode]
    exact betweenBytes_take body _
  exact ⟨fun _ => mayCutAt_encode_iff, hstart, hstop, Nat.le_max_right _ _, hstop.le_length, _,
    e.applyBytes?_encode body, rfl, decode?_eq_some_iff.mpr rfl⟩

example : (⟨⟨0, 1, 2 ^ 64 - 1⟩, ['!']⟩ : Edit).applyBytes? (encode "é𝄞€".toList) = some (encode "é!".toList) ∧
    bytesBefore? (encode "é𝄞€".toList) 3 = none := by decide

end Keyline
