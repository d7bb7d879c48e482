import Keyline.Text.Blank

/-!
# Punycode

A label with characters beyond ASCII is written with ASCII characters: the basic ones first, then, for every other
character in ascending order, the distance from the one before as a number with variable thresholds. Distances are
numbers of 32 bits.
-/

namespace Keyline.Uri.Punycode

/-- A digit: `a` to `z`, then `0` to `9`. -/
def digit (d : Nat) : Char := if d < 26 then Char.ofNat ('a'.toNat + d) else Char.ofNat ('0'.toNat + (d - 26))

/-- The value of a digit, which may be an upper-case letter. -/
def digitValue? (c : Char) : Option Nat :=
  if c.isLower then some (c.toNat - 'a'.toNat)
  else if c.isUpper then some (c.toNat - 'A'.toNat)
  else if c.isDigit then some (c.toNat - '0'.toNat + 26)
  else none

/-- The threshold of the digit at position `k`. -/
def threshold (k bias : Nat) : Nat := if k ≤ bias then 1 else if bias + 26 ≤ k then 26 else k - bias

theorem threshold_pos (k bias : Nat) : 1 ≤ threshold k bias := by
  unfold threshold
  split
  · omega
  · split <;> omega

/-- Divides a distance until it is small, and counts the positions that this takes. -/
def shrink (delta k : Nat) : Nat × Nat := if 455 < delta then shrink (delta / 35) (k + 36) else (delta, k)
termination_by delta
decreasing_by omega

/-- The bias after a distance was written, as the `count`-th character. -/
def adapt (delta count : Nat) (first : Bool) : Nat :=
  let delta := if first then delta / 700 else delta / 2
  let (delta, k) := shrink (delta + delta / count) 0
  k + 36 * delta / (delta + 38)

/-- The digits of a distance. -/
def digits (bias k delta : Nat) : Text :=
  let t := threshold k bias
  if delta < t then [digit delta]
  else digit (t + (delta - t) % (36 - t)) :: digits bias (k + 36) ((delta - t) / (36 - t))
termination_by delta
decreasing_by
  have h := threshold_pos k bias
  exact Nat.lt_of_le_of_lt (Nat.div_le_self _ _) (by omega)

/-! ## Writing -/

/-- What is known while a label is written. -/
structure Progress where
  output : Text
  delta : Nat
  bias : Nat
  /-- How many characters are written. -/
  count : Nat

/-- Looks at one character of the label while those with the code `code` are written. -/
def visit (basics code : Nat) (p : Progress) (c : Char) : Progress :=
  if c.toNat < code then { p with delta := p.delta + 1 }
  else if c.toNat = code then
    { output := p.output ++ digits p.bias 36 p.delta
      delta := 0
      bias := adapt p.delta (p.count + 1) (p.count = basics)
      count := p.count + 1 }
  else p

/-- Writes the characters with the given codes, which ascend from `code` on. -/
def writeCodes (label : Text) (basics : Nat) : List Nat → Nat → Progress → Progress
  | [], _, p => p
  | next :: codes, code, p =>
    let p := { p with delta := p.delta + (next - code) * (p.count + 1) }
    let p := label.foldl (visit basics next) p
    writeCodes label basics codes (next + 1) { p with delta := p.delta + 1 }

/-- A label in ASCII characters, without the mark that tells it from other labels. -/
def encode (label : Text) : Text :=
  let basics := label.filter (·.toNat < 0x80)
  let codes := ((label.filter (0x80 ≤ ·.toNat)).map Char.toNat).mergeSort.eraseDups
  let p := writeCodes label basics.length codes 0x80 ⟨[], 0, 72, basics.length⟩
  basics ++ (if basics.isEmpty then [] else ['-']) ++ p.output

/-! ## Reading -/

/-- The first number that does not fit 32 bits. -/
def limit : Nat := 0x100000000

/-- Reads the digits of a distance from position `k` on and adds it to `place`. -/
def readDistance (bias k weight place : Nat) : Text → Option (Nat × Text)
  | [] => none
  | c :: r => do
    let d ← digitValue? c
    let place := place + d * weight
    let t := threshold k bias
    if limit ≤ place then none
    else if d < t then some (place, r)
    else
      let weight := weight * (36 - t)
      if limit ≤ weight then none else readDistance bias (k + 36) weight place r

theorem length_readDistance {bias k weight place : Nat} {t : Text} {p : Nat × Text}
    (h : readDistance bias k weight place t = some p) : p.2.length < t.length := by
  induction t generalizing k weight place with
  | nil => simp [readDistance] at h
  | cons c r ih =>
    rw [readDistance] at h
    cases hd : digitValue? c with
    | none => simp [hd] at h
    | some d =>
      simp only [hd, Option.bind_eq_bind, Option.bind_some] at h
      split at h
      · simp at h
      · split at h
        · rw [← Option.some.inj h]
          simp
        · split at h
          · simp at h
          · have := ih h
            simp only [List.length_cons]
            omega

/-- Whether a number is the code of a character. -/
def isCode (n : Nat) : Bool := n < 0xD800 || (0xDFFF < n && n < 0x110000)

/-- Reads the characters beyond ASCII: the next one has a code of at least `code` and is put at `place` or, with a
higher code, further on, into the label so far. -/
def readCodes (bias code place : Nat) (label : Text) (t : Text) : Option Text :=
  if t.isEmpty then some label
  else
    match _h : readDistance bias 36 1 place t with
    | none => none
    | some (next, r) =>
      let count := label.length + 1
      let code := code + next / count
      let index := next % count
      if isCode code then
        readCodes (adapt (next - place) count (place = 0)) code (index + 1)
          (label.take index ++ Char.ofNat code :: label.drop index) r
      else none
termination_by t.length
decreasing_by exact length_readDistance _h

/-- The label that ASCII characters stand for. The last hyphen is behind the basic characters, unless it comes first. -/
def decode? (t : Text) : Option Text :=
  let digits := (t.reverse.takeWhile (· != '-')).reverse
  let basics := (t.take (t.length - digits.length)).dropLast
  if basics.isEmpty then readCodes 72 0x80 0 [] t else readCodes 72 0x80 0 basics digits

end Keyline.Uri.Punycode
