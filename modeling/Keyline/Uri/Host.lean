import Keyline.Uri.Domain
import Keyline.Uri.Percent

/-!
# Hosts

A host is a domain, an address of four numbers, or an address of eight groups in brackets. Under a special scheme a
domain is unescaped and brought into its normal form, and one whose last label is a number has to be an address. Under
any other scheme the host is taken as it is.
-/

namespace Keyline.Uri

/-! ## Addresses of four numbers -/

/-- The number that a label stands for: hexadecimal behind `0x`, octal behind a zero, else decimal. -/
def labelValue? : Text → Option Nat
  | [] => none
  | '0' :: 'x' :: r => digitsValue? 16 r
  | '0' :: 'X' :: r => digitsValue? 16 r
  | '0' :: c :: r => digitsValue? 8 (c :: r)
  | t => digitsValue? 10 t

/-- The labels of a domain without the empty one behind a final dot. -/
def domainLabels (domain : Text) : List Text :=
  let labels := domain.splitOn '.'
  if 1 < labels.length ∧ labels.getLast? = some [] then labels.dropLast else labels

/-- Whether the last label of a domain is a number. -/
def endsInNumber (domain : Text) : Bool :=
  match (domainLabels domain).getLast? with
  | none => false
  | some label => (!label.isEmpty && label.all Char.isDigit) || (labelValue? label).isSome

/-- The 32-bit number of an address; the last of up to four numbers fills the bytes that are left. -/
def addressValue? (domain : Text) : Option Nat := do
  let labels := domainLabels domain
  if 4 < labels.length then none
  else
    let numbers ← labels.mapM labelValue?
    let last ← numbers.getLast?
    let heads := numbers.dropLast
    let unit := Nat.pow 256 (4 - heads.length)
    if heads.any (255 < ·) || unit ≤ last then none
    else some (unit * heads.foldl (fun v n => 256 * v + n) 0 + last)

/-- An address as four numbers with dots between them. -/
def addressText (n : Nat) : Text :=
  List.intercalate ['.'] ([16777216, 65536, 256, 1].map fun unit => Nat.toDigits 10 (n / unit % 256))

/-! ## Addresses of eight groups -/

/-- One of the four numbers at the end of an address of eight groups. -/
def octet? (t : Text) : Option Nat :=
  if t.isEmpty || 3 < t.length || (1 < t.length && t.head? == some '0') || !t.all Char.isDigit then none
  else (digitsValue? 10 t).filter (· < 256)

/-- The groups that a text with colons stands for; the last may be four numbers if `last` holds. -/
def groups? (last : Bool) (t : Text) : Option (List Nat) :=
  if t.isEmpty then some []
  else do
    let parts := t.splitOn ':'
    let group (i : Nat) (part : Text) : Option (List Nat) :=
      if last && i + 1 = parts.length && part.contains '.' then do
        match ← (part.splitOn '.').mapM octet? with
        | [a, b, c, d] => some [256 * a + b, 256 * c + d]
        | _ => none
      else if part.isEmpty || 4 < part.length then none
      else (digitsValue? 16 part).map ([·])
    some (← parts.zipIdx.mapM fun (part, i) => group i part).flatten

/-- The parts of a text around its first two colons in a row. -/
def aroundGap? : Text → Option (Text × Text)
  | ':' :: ':' :: r => some ([], r)
  | c :: r => (aroundGap? r).map fun (a, b) => (c :: a, b)
  | [] => none

/-- The eight groups of an address; two colons in a row stand for one or more groups of zero. -/
def eightGroups? (t : Text) : Option (List Nat) :=
  match aroundGap? t with
  | none => (groups? true t).filter (·.length = 8)
  | some (front, back) => do
    let front ← groups? false front
    let back ← groups? true back
    if front.length + back.length < 8 then
      some (front ++ List.replicate (8 - front.length - back.length) 0 ++ back)
    else none

/-- The length of the run of zeros at the start of a list. -/
def zeroRun (groups : List Nat) : Nat := (groups.takeWhile (· == 0)).length

/-- The start and length of the first of the longest runs of zeros. -/
def longestZeroRun (groups : List Nat) : Nat × Nat :=
  (List.range groups.length).foldl
    (fun best i => let n := zeroRun (groups.drop i); if best.2 < n then (i, n) else best) (0, 0)

/-- Groups in lower-case hexadecimal with colons between them. -/
def groupsText (groups : List Nat) : Text := List.intercalate [':'] (groups.map (Nat.toDigits 16))

/-- An address with its longest run of two or more zeros left out. -/
def eightGroupsText (groups : List Nat) : Text :=
  let (start, length) := longestZeroRun groups
  if length < 2 then groupsText groups
  else groupsText (groups.take start) ++ [':', ':'] ++ groupsText (groups.drop (start + length))

/-- The host that a text in brackets denotes. -/
def bracketHost? (t : Text) : Option Text :=
  if t.getLast? = some ']' then
    (eightGroups? t.dropLast).map fun groups => '[' :: (eightGroupsText groups ++ [']'])
  else none

/-! ## Domains -/

/-- Characters that no host may have. -/
def forbiddenInHost (c : Char) : Bool :=
  c = '\x00' || c = '\t' || c = '\n' || c = '\r' ||
    [' ', '#', '/', ':', '<', '>', '?', '@', '[', '\\', ']', '^', '|'].contains c

/-- Characters that no domain may have. -/
def forbiddenInDomain (c : Char) : Bool := forbiddenInHost c || isControl c || c = '%'

/-- The host under a special scheme. -/
def specialHost? : Text → Option Text
  | '[' :: r => bracketHost? r
  | t => do
    let domain ← Domain.toAscii? (← decode? (unescape t))
    if domain.isEmpty || domain.any forbiddenInDomain then none
    else if endsInNumber domain then (addressValue? domain).map addressText
    else some domain

/-- The host under any other scheme. -/
def plainHost? : Text → Option Text
  | '[' :: r => bracketHost? r
  | t => if t.any forbiddenInHost then none else some (escape isControl t)

end Keyline.Uri
