import Keyline.Text.Blank

/-!
# The two sides of a record and their alphabets

A record is a line `key = value`. Each side has an alphabet: ASCII letters and digits, blanks, and a few marks. The
alphabet of values has all marks of keys and three more. Cleaning a text leaves the characters of an alphabet
(`Alphabet.accepts_clean`), and a text that has no others stays as it is (`Alphabet.clean_eq_self_iff`).
-/

namespace Keyline

/-- A set of characters: ASCII letters and digits, blanks and the listed marks. -/
structure Alphabet where
  marks : List Char
deriving DecidableEq, Repr

namespace Alphabet

/-- Whether a character belongs to the alphabet. -/
def allows (a : Alphabet) (c : Char) : Bool := c.isAlphanum || a.marks.contains c || isBlank c

/-- Whether all characters of a text belong to the alphabet. -/
def accepts (a : Alphabet) (t : Text) : Bool := t.all a.allows

/-- A text without the characters that do not belong to the alphabet. -/
def clean (a : Alphabet) (t : Text) : Text := t.filter a.allows

/-- A mark as it is written inside the brackets of a pattern. -/
def patternMark (c : Char) : String := if c = '#' then "\\#" else c.toString

/-- The alphabet as a bracketed class of a pattern language, with `\s` for the blanks. -/
def pattern (a : Alphabet) : String :=
  "[a-zA-Z0-9" ++ String.join (a.marks.map patternMark) ++ "\\s]"

theorem accepts_iff {a : Alphabet} {t : Text} : a.accepts t = true ↔ ∀ c ∈ t, a.allows c = true :=
  List.all_eq_true

/-- Every character of a cleaned text belongs to the alphabet. -/
theorem accepts_clean (a : Alphabet) (t : Text) : a.accepts (a.clean t) = true :=
  accepts_iff.2 fun _ h => (List.mem_filter.1 h).2

/-- Cleaning changes nothing exactly when the alphabet accepts the text. -/
theorem clean_eq_self_iff {a : Alphabet} {t : Text} : a.clean t = t ↔ a.accepts t = true := by
  rw [clean, List.filter_eq_self, accepts_iff]

theorem clean_clean (a : Alphabet) (t : Text) : a.clean (a.clean t) = a.clean t :=
  clean_eq_self_iff.2 (a.accepts_clean t)

theorem not_mem_clean {a : Alphabet} {c : Char} {t : Text} (h : c ∉ t) : c ∉ a.clean t :=
  fun hm => h (List.mem_filter.1 hm).1

theorem clean_append (a : Alphabet) (s t : Text) : a.clean (s ++ t) = a.clean s ++ a.clean t :=
  List.filter_append ..

theorem accepts_append (a : Alphabet) (s t : Text) : a.accepts (s ++ t) = (a.accepts s && a.accepts t) :=
  List.all_append

/-- Blanks belong to every alphabet. -/
theorem allows_of_isBlank (a : Alphabet) {c : Char} (h : isBlank c = true) : a.allows c = true := by
  simp [allows, h]

theorem clean_indentation (a : Alphabet) (t : Text) : a.clean (indentation t) = indentation t :=
  clean_eq_self_iff.2 (accepts_iff.2 fun _ h => a.allows_of_isBlank (isBlank_of_mem_indentation h))

/-- Cleaning what follows the indentation cleans the whole text. -/
theorem indentation_append_clean (a : Alphabet) (t : Text) :
    indentation t ++ a.clean (trimStart t) = a.clean t := by
  rw [← a.clean_indentation, ← clean_append, indentation_append_trimStart]

/-- The alphabet accepts a text exactly when it accepts the text without its outer blanks. -/
theorem accepts_trim (a : Alphabet) (t : Text) : a.accepts (trim t) = a.accepts t := by
  have hs : a.accepts (trimStart t) = a.accepts t := by
    have h := congrArg a.accepts (indentation_append_trimStart t)
    have hi := clean_eq_self_iff.1 (a.clean_indentation t)
    simp only [accepts, List.all_append] at h hi ⊢
    simpa [hi] using h
  have he : a.accepts (trimEnd (trimStart t)) = a.accepts (trimStart t) := by
    have h := congrArg a.accepts (trimEnd_append_blanks (trimStart t))
    have hb : a.accepts ((trimStart t).reverse.takeWhile isBlank).reverse = true :=
      accepts_iff.2 fun c hc =>
        a.allows_of_isBlank (List.all_eq_true.1 List.all_takeWhile c (List.mem_reverse.1 hc))
    simp only [accepts, List.all_append] at h hb ⊢
    simpa [hb] using h
  rw [trim, he, hs]

end Alphabet

/-- The two sides of a record. -/
inductive Side where
  | key
  | value
deriving DecidableEq, Repr

namespace Side

/-- The characters that may stand on a side. -/
def alphabet : Side → Alphabet
  | key => ⟨['_']⟩
  | value => ⟨['_', '"', '\x27', '#']⟩

/-- Whether a character may stand on a side. -/
abbrev allows (s : Side) (c : Char) : Bool := s.alphabet.allows c

/-- The separator belongs to no side. -/
theorem allows_equal (s : Side) : s.allows '=' = false := by cases s <;> decide

end Side

end Keyline
