/-!
# Texts and blank characters

A text is the list of its characters, and a column is an index into that list. *Blank* means the Unicode property
`White_Space`; line breaks are blank too.

Main statements: a text is its indentation followed by the rest (`indentation_append_trimStart`), the rest does not
start with a blank (`head_trimStart`), and trimming removes nothing but blanks (`trim_eq_nil_iff`).
-/

namespace Keyline

/-- A text is the sequence of its characters. -/
abbrev Text := List Char

/-- The code points with the property `White_Space`, as inclusive ranges in ascending order. -/
def blankRanges : List (Nat × Nat) :=
  [(0x09, 0x0D), (0x20, 0x20), (0x85, 0x85), (0xA0, 0xA0), (0x1680, 0x1680), (0x2000, 0x200A), (0x2028, 0x2029),
    (0x202F, 0x202F), (0x205F, 0x205F), (0x3000, 0x3000)]

/-- Whether a character is blank. -/
def isBlank (c : Char) : Bool :=
  blankRanges.any fun r => r.1 ≤ c.toNat && c.toNat ≤ r.2

/-- Whether a text has only blank characters; the empty text has. -/
def isBlankText (t : Text) : Bool := t.all isBlank

/-- The blanks at the start of a text. -/
def indentation (t : Text) : Text := t.takeWhile isBlank

/-- A text without the blanks at its start. -/
def trimStart (t : Text) : Text := t.dropWhile isBlank

/-- A text without the blanks at its end. -/
def trimEnd (t : Text) : Text := (t.reverse.dropWhile isBlank).reverse

/-- A text without the blanks at its two ends. -/
def trim (t : Text) : Text := trimEnd (trimStart t)

theorem indentation_append_trimStart (t : Text) : indentation t ++ trimStart t = t :=
  List.takeWhile_append_dropWhile

/-- The indentation has only blanks. -/
theorem isBlank_of_mem_indentation {t : Text} {c : Char} (h : c ∈ indentation t) : isBlank c = true :=
  List.all_eq_true.1 List.all_takeWhile c h

theorem length_indentation_le (t : Text) : (indentation t).length ≤ t.length := by
  have := congrArg List.length (indentation_append_trimStart t)
  simp only [List.length_append] at this
  omega

theorem drop_length_indentation (t : Text) : t.drop (indentation t).length = trimStart t := by
  have := congrArg (List.drop (indentation t).length) (indentation_append_trimStart t)
  simpa using this.symm

theorem take_length_indentation (t : Text) : t.take (indentation t).length = indentation t := by
  have := congrArg (List.take (indentation t).length) (indentation_append_trimStart t)
  simpa using this.symm

/-- What follows the indentation starts with no blank. -/
theorem head_trimStart {t : Text} {c : Char} {r : Text} (h : trimStart t = c :: r) : isBlank c = false := by
  have hhead := List.head?_dropWhile_not isBlank t
  rw [show t.dropWhile isBlank = c :: r from h] at hhead
  exact hhead

theorem trimStart_eq_nil_iff {t : Text} : trimStart t = [] ↔ isBlankText t = true := by
  have hany : (trimStart t).any (!isBlank ·) = !isBlankText t := List.any_dropWhile
  cases h : trimStart t with
  | nil => simpa [h] using hany
  | cons c r => simpa [h, head_trimStart h] using hany

/-- A text ends in the blanks that trimming its end takes away. -/
theorem trimEnd_append_blanks (t : Text) : trimEnd t ++ (t.reverse.takeWhile isBlank).reverse = t := by
  rw [trimEnd, ← List.reverse_append, List.takeWhile_append_dropWhile, List.reverse_reverse]

theorem trimEnd_eq_nil_iff {t : Text} : trimEnd t = [] ↔ isBlankText t = true := by
  rw [trimEnd, List.reverse_eq_nil_iff]
  exact trimStart_eq_nil_iff.trans (by rw [isBlankText, List.all_reverse, isBlankText])

/-- Trimming leaves nothing exactly when every character is blank. -/
theorem trim_eq_nil_iff {t : Text} : trim t = [] ↔ isBlankText t = true := by
  rw [trim, trimEnd_eq_nil_iff]
  have h := indentation_append_trimStart t
  have hi : (indentation t).all isBlank = true := List.all_eq_true.2 fun c => isBlank_of_mem_indentation
  constructor
  · intro hr
    rw [← h]
    simp only [isBlankText, List.all_append, hi, Bool.true_and]
    exact hr
  · intro ht
    rw [← h] at ht
    simp only [isBlankText, List.all_append, hi, Bool.true_and] at ht
    exact ht

end Keyline
