import Keyline.Text.Composition
import Keyline.Text.Direction
import Keyline.Text.Joining
import Keyline.Text.Mark
import Keyline.Uri.Domain.Mapping
import Keyline.Uri.Punycode

/-!
# Domains

A domain is a sequence of labels with dots between them. It may be written with characters beyond ASCII; its normal form
is in ASCII. Each character is first replaced by what stands for it, and the text is composed. A label that starts with
`xn--` is the written form of another label, which has to be in normal form itself. A label with characters beyond ASCII
does not start with a mark, has joiners only where they join something, and, if a label of the domain has a character
that runs from right to left, keeps the rule of direction.

Main statement: the characters of a domain in ASCII are only put into lower case (`normal?_of_isAscii`).
-/

namespace Keyline.Uri.Domain

/-- Whether a text is written in ASCII. -/
def isAscii (t : Text) : Bool := t.all (·.toNat < 0x80)

/-- A text with every character replaced by what stands for it, and composed. -/
def normal? (t : Text) : Option Text := (t.mapM mapped?).map fun parts => compose parts.flatten

theorem toNat_toLower_lt {c : Char} (h : c.toNat < 0x80) : c.toLower.toNat < 0x80 := by
  have : ∀ n : Nat, n < 0x80 → (Char.ofNat n).toLower.toNat < 0x80 := by decide
  simpa using this c.toNat h

/-- A domain in ASCII is put into lower case. -/
theorem normal?_of_isAscii {t : Text} (h : isAscii t = true) : normal? t = some (t.map Char.toLower) := by
  have hc : ∀ c ∈ t, c.toNat < 0x80 := by simpa [isAscii] using h
  have hm : t.mapM mapped? = some (t.map fun c => [c.toLower]) := by
    clear h
    induction t with
    | nil => rfl
    | cons c r ih =>
      have hd : mapped? c = some [c.toLower] := by simp [mapped?, hc c (by simp)]
      rw [List.mapM_cons, hd, ih fun d hd => hc d (by simp [hd])]
      rfl
  have hf : (t.map fun c => [c.toLower]).flatten = t.map Char.toLower := by
    rw [← List.flatMap_def]
    exact (List.map_eq_flatMap ..).symm
  rw [normal?, hm, Option.map_some, hf, compose_eq_self]
  intro c h
  obtain ⟨d, hd, rfl⟩ := List.mem_map.1 h
  exact Nat.lt_trans (toNat_toLower_lt (hc d hd)) (by decide)

/-! ## Joiners -/

/-- The character that keeps its neighbours from joining. -/
def nonJoiner : Char := '\u200c'

/-- The character that makes its neighbours join. -/
def joiner : Char := '\u200d'

/-- The combining class of the sign that takes the vowel from a letter. -/
def viramaClass : Nat := 9

/-- Whether the first character that is not transparent joins in the wanted way. -/
def reaches (wanted : Joining → Bool) : Text → Bool
  | [] => false
  | c :: r => wanted (joining c) || (joining c = .transparent && reaches wanted r)

/-- Whether a joiner may stand between two texts, of which `before` has its last character first: behind a sign that
takes away a vowel; or, if it keeps its neighbours from joining, where they would join. -/
def joinerFits (before : Text) (c : Char) (after : Text) : Bool :=
  match before with
  | [] => false
  | d :: _ =>
    combiningClass d = viramaClass ||
      (c = nonJoiner && reaches Joining.joinsNext before && reaches Joining.joinsPrevious after)

/-- Whether all joiners of a text may stand where they stand; `before` has the last character first. -/
def joinersFit (before : Text) : Text → Bool
  | [] => true
  | c :: r => (!(c = joiner || c = nonJoiner) || joinerFits before c r) && joinersFit (c :: before) r

/-! ## Direction -/

/-- Whether a label that runs from left to right may end in a class. -/
def endsLeftToRight (d : Direction) : Bool := d = .leftToRight || d = .europeanNumber

/-- Whether a label that runs from right to left may end in a class. -/
def endsRightToLeft (d : Direction) : Bool := d.isRightToLeft || d = .europeanNumber

/-- Whether the classes of a label keep the rule of direction: the first says how the label runs, and with the marks at
the end left out, the last one is a letter or a number and all are of the kinds that run so. Numbers of two kinds do not
occur in a label that runs from right to left. -/
def keepsDirection : List Direction → Bool
  | [] => true
  | first :: rest =>
    let rest := (rest.reverse.dropWhile (· == .mark)).reverse
    if first = .leftToRight then
      rest.getLast?.all endsLeftToRight && rest.all fun d => d = .leftToRight || d.isCommon
    else if first = .rightToLeft || first = .arabicLetter then
      rest.getLast?.all endsRightToLeft && (rest.all fun d => d.isRightToLeft || d.isCommon) &&
        !(rest.contains .europeanNumber && rest.contains .arabicNumber)
    else false

/-- Whether a label has a character that runs from right to left. -/
def hasRightToLeft (label : Text) : Bool := label.any fun c => 0x590 ≤ c.toNat && (direction c).isRightToLeft

/-- Whether the labels of a domain keep the rule of direction, which holds if one of them runs from right to left. -/
def keepDirection (labels : List Text) : Bool :=
  !labels.any hasRightToLeft || labels.all fun label => keepsDirection (label.map direction)

/-! ## Labels -/

/-- The mark in front of labels in their written form. -/
def mark : Text := "xn--".toList

/-- The greatest length of a label with characters beyond ASCII. -/
def maxLabel : Nat := 1000

/-- The greatest length of the written form of a label, without its mark. -/
def maxWritten : Nat := 2000

/-- Whether a label with characters beyond ASCII may stand in a domain. -/
def isLabel (label : Text) : Bool :=
  !label.head?.any isMark && joinersFit [] label && label.length ≤ maxLabel

/-- The label of which a text is the written form without its mark. -/
def ofWritten? (t : Text) : Option Text :=
  if !isAscii t || maxWritten < t.length || t.getLast?.all (· == '-') then none
  else (Punycode.decode? t).filter fun label => normal? label = some label

/-- The label that a text denotes. -/
def label? (t : Text) : Option Text := do
  let label ← if mark.isPrefixOf t then ofWritten? (t.drop mark.length) else some t
  if isAscii label || isLabel label then some label else none

/-- The written form of a label. -/
def written (label : Text) : Text := if isAscii label then label else mark ++ Punycode.encode label

/-- The normal form of a domain. -/
def toAscii? (domain : Text) : Option Text := do
  let labels ← ((← normal? domain).splitOn '.').mapM label?
  if keepDirection labels then some (List.intercalate ['.'] (labels.map written)) else none

end Keyline.Uri.Domain
