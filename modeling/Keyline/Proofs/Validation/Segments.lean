import Mathlib.Order.Bounds.Defs
import Keyline.Proofs.Validation.Placement

/-!
# Where a trimmed side stands

A side is trimmed by dropping the blanks at its two ends, and the column of what is left is found by counting those in
front. Both can be said without the program.

* The text of a segment is the one text that starts and ends with no blank and has only blanks around it on its side
  (`trims_iff`).
* If it is not empty, its column is the first one from the start of the side on at which that text occurs
  (`Segment.locates_trimmed`): it occurs there, and an earlier occurrence would have to start with a blank
  (`Segment.start_le_of_occursAt`). So it makes no difference whether the text stands on the line again.
-/

namespace Keyline

/-- A text stands in another one at a column. -/
def OccursAt (text body : Text) (column : Nat) : Prop :=
  ∃ before after, body = before ++ (text ++ after) ∧ before.length = column

/-- The text `text` is `side` without the blanks at its two ends. -/
structure Trims (side text : Text) : Prop where
  around : ∃ front back, side = front ++ (text ++ back) ∧ isBlankText front = true ∧ isBlankText back = true
  head : ∀ c ∈ text.head?, isBlank c = false
  last : ∀ c ∈ text.getLast?, isBlank c = false

/-- The segment `g` is what a search finds: the side `side` of the line `body` without its outer blanks, at the first
column from `offset` on at which that text occurs. -/
structure Segment.Locates (g : Segment) (offset : Nat) (side body : Text) : Prop where
  text_iff : ∀ text, Trims side text ↔ text = g.text
  leftmost : g.text ≠ [] → IsLeast {column | offset ≤ column ∧ OccursAt g.text body column} g.start

variable {text side body : Text} {column : Nat}

/-! ## Trimming -/

theorem trimStart_append_of_isBlankText {front : Text} (h : isBlankText front = true) (t : Text) :
    trimStart (front ++ t) = trimStart t :=
  List.dropWhile_append_of_pos (List.all_eq_true.mp h)

/-- A text that starts with no blank has no indentation. -/
theorem trimStart_eq_self {t : Text} (h : ∀ c ∈ t.head?, isBlank c = false) : trimStart t = t := by
  cases t with
  | nil => rfl
  | cons c r => rw [trimStart, List.dropWhile_cons_of_neg (by simp [h c rfl])]

theorem head?_trimStart (t : Text) : ∀ c ∈ (trimStart t).head?, isBlank c = false := by
  intro c hc
  cases h : trimStart t with
  | nil => simp [h] at hc
  | cons d r =>
    obtain rfl : d = c := by simpa [h] using hc
    exact head_trimStart h

/-- Trimming the end of a text is trimming the start of the text read backwards. -/
theorem trimEnd_eq (t : Text) : trimEnd t = (trimStart t.reverse).reverse := rfl

/-- Trimming the end of a text leaves its start, unless it leaves nothing. -/
theorem head?_trimEnd {t : Text} {c : Char} (h : c ∈ (trimEnd t).head?) : c ∈ t.head? := by
  rw [← trimEnd_append_blanks t, List.head?_append, h]
  rfl

/-- A side is its indentation, what trimming leaves, and the blanks at its end. -/
theorem indentation_append_trim (side : Text) :
    indentation side ++ (trim side ++ ((trimStart side).reverse.takeWhile isBlank).reverse) = side := by
  rw [trim, trimEnd_append_blanks, indentation_append_trimStart]

theorem trims_trim (side : Text) : Trims side (trim side) := by
  refine ⟨⟨indentation side, _, (indentation_append_trim side).symm, ?_, ?_⟩, ?_, ?_⟩
  · exact List.all_eq_true.mpr fun c => isBlank_of_mem_indentation
  · rw [isBlankText, List.all_reverse]
    exact List.all_takeWhile
  · intro c hc
    exact head?_trimStart side c (head?_trimEnd hc)
  · intro c hc
    rw [trim, trimEnd_eq, List.getLast?_reverse] at hc
    exact head?_trimStart _ c hc

/-- There is one way to trim a side. -/
theorem Trims.eq_trim (h : Trims side text) : text = trim side := by
  obtain ⟨front, back, rfl, hfront, hback⟩ := h.around
  by_cases hne : text = []
  · -- All of the side is blank.
    subst hne
    refine (trim_eq_nil_iff.mpr ?_).symm
    rw [isBlankText, List.all_append, List.nil_append]
    exact Bool.and_eq_true_iff.mpr ⟨hfront, hback⟩
  · have hstart : trimStart (front ++ (text ++ back)) = text ++ back := by
      rw [trimStart_append_of_isBlankText hfront, trimStart_eq_self]
      rw [List.head?_append_of_ne_nil _ hne]
      exact h.head
    have hback : isBlankText back.reverse = true := by rwa [isBlankText, List.all_reverse]
    have hlast : ∀ c ∈ text.reverse.head?, isBlank c = false := by
      rw [List.head?_reverse]
      exact h.last
    rw [trim, hstart, trimEnd_eq, List.reverse_append, trimStart_append_of_isBlankText hback, trimStart_eq_self hlast,
      List.reverse_reverse]

theorem trims_iff : Trims side text ↔ text = trim side :=
  ⟨Trims.eq_trim, fun h => h ▸ trims_trim side⟩

/-! ## Occurrences -/

theorem OccursAt.getElem? (h : OccursAt text body column) (hne : text ≠ []) : body[column]? = text.head? := by
  obtain ⟨before, after, rfl, rfl⟩ := h
  rw [List.getElem?_append_right (Nat.le_refl _), Nat.sub_self, ← List.head?_eq_getElem?,
    List.head?_append_of_ne_nil _ hne]

namespace Segment

variable (before side after : Text)

/-- A trimmed side stands at its column. -/
theorem occursAt_start :
    OccursAt (trimmed before.length side).text (before ++ (side ++ after)) (trimmed before.length side).start := by
  refine ⟨before ++ indentation side, ((trimStart side).reverse.takeWhile isBlank).reverse ++ after, ?_, ?_⟩
  · show before ++ (side ++ after) = before ++ indentation side ++ (trim side ++ _)
    rw [List.append_assoc before, ← List.append_assoc (trim side), ← List.append_assoc (indentation side),
      indentation_append_trim]
  · rw [List.length_append]
    rfl

/-- No occurrence of a trimmed side starts in its indentation, as that has only blanks. -/
theorem start_le_of_occursAt (hne : (trimmed before.length side).text ≠ []) (hle : before.length ≤ column)
    (h : OccursAt (trimmed before.length side).text (before ++ (side ++ after)) column) :
    (trimmed before.length side).start ≤ column := by
  by_contra hlt
  have hlt : column < before.length + (indentation side).length := Nat.lt_of_not_le hlt
  have hi : column - before.length < (indentation side).length := by omega
  have hlen := length_indentation_le side
  have hread : (before ++ (side ++ after))[column]? = (indentation side)[column - before.length]? := by
    rw [List.getElem?_append_right hle, List.getElem?_append_left (by omega), ← List.getElem?_take_of_lt hi,
      take_length_indentation]
  -- The character at that column is a blank, and the trimmed side starts with none.
  rw [h.getElem? hne, List.getElem?_eq_getElem hi] at hread
  have hblank := isBlank_of_mem_indentation (List.getElem_mem hi)
  rw [(trims_trim side).head _ hread] at hblank
  cases hblank

/-- A trimmed side is what a search from the start of the side finds. -/
theorem locates_trimmed : (trimmed before.length side).Locates before.length side (before ++ (side ++ after)) := by
  refine ⟨fun _ => trims_iff, fun hne => ⟨⟨Nat.le_add_right _ _, occursAt_start before side after⟩, ?_⟩⟩
  rintro column ⟨hle, h⟩
  exact start_le_of_occursAt before side after hne hle h

end Segment

/-! ## The sides of a line -/

/-- An invalid side is reported at the column of its segment. -/
theorem Side.start_of_mem_findings {s : Side} {line offset : Nat} {f : Finding} (h : f ∈ s.findings line offset side)
    (hk : f.kind = .invalid s) : f.span.start = (Segment.trimmed offset side).start := by
  rcases Side.mem_findings_iff.mp h with ⟨_, rfl⟩ | ⟨_, rfl⟩
  · cases hk
  · rfl

theorem start_of_mem_validateLine {line : Nat} {key value : Text} {f : Finding} (hk : '=' ∉ key)
    (h : f ∈ validateLine line (key ++ '=' :: value)) :
    (f.kind = .invalid .key → f.span.start = (Segment.trimmed 0 key).start) ∧
      (f.kind = .invalid .value → f.span.start = (Segment.trimmed (key.length + 1) value).start) := by
  rcases mem_findings_of_mem_validateLine hk h with hf | hf
  · refine ⟨Side.start_of_mem_findings hf, fun hkind => ?_⟩
    rcases Side.kind_of_mem_findings hf with hk' | hk' <;> simp [hk'] at hkind
  · refine ⟨fun hkind => ?_, Side.start_of_mem_findings hf⟩
    rcases Side.kind_of_mem_findings hf with hk' | hk' <;> simp [hk'] at hkind

/-- **A trimmed side stands at its leftmost occurrence.** On a line with a separator, the text of each segment is its
side without the blanks at both ends. Unless it is empty, the segment of the key starts at the first column of the line
at which its text occurs, and that of the value at the first such column behind the first separator. An invalid side is
reported from that column on. -/
theorem trimmed_sides_stand_leftmost {body key value : Text} (h : sides? body = some (key, value)) :
    body.idxOf '=' = key.length ∧
      (Segment.trimmed 0 key).Locates 0 key body ∧
      (Segment.trimmed (key.length + 1) value).Locates (key.length + 1) value body ∧
      ∀ line, ∀ f ∈ validateLine line body,
        (f.kind = .invalid .key → f.span.start = (Segment.trimmed 0 key).start) ∧
          (f.kind = .invalid .value → f.span.start = (Segment.trimmed (key.length + 1) value).start) := by
  obtain ⟨rfl, hk⟩ := sides?_eq_some_iff.mp h
  refine ⟨idxOf_append_equal value hk, ?_, ?_, fun line f hf => start_of_mem_validateLine hk hf⟩
  · exact Segment.locates_trimmed [] key ('=' :: value)
  · -- The key and the separator stand before the value, and nothing behind it.
    simpa using Segment.locates_trimmed (key ++ ['=']) value []

/-- The two sides of the sample have the same text, and each is found in its own place. -/
theorem trimmed_sides_stand_leftmost_sample :
    sides? "  a.b = a.b".toList = some ("  a.b ".toList, " a.b".toList) ∧
      IsLeast {column | 0 ≤ column ∧ OccursAt "a.b".toList "  a.b = a.b".toList column} 2 ∧
      IsLeast {column | 7 ≤ column ∧ OccursAt "a.b".toList "  a.b = a.b".toList column} 8 := by
  have h : sides? "  a.b = a.b".toList = some ("  a.b ".toList, " a.b".toList) := by decide
  obtain ⟨_, hkey, hvalue, _⟩ := trimmed_sides_stand_leftmost h
  exact ⟨h, hkey.leftmost (by decide), hvalue.leftmost (by decide)⟩

end Keyline
