import Keyline.Uri.Basic
import Keyline.Uri.Host

/-!
# Reading addresses

Addresses are read without a base and brought into their normal form. The schemes of the web and of files are special:
their separators may be backslashes, and they always have an authority and a path. Tabs and line breaks count nowhere,
except that one behind the drive of a file ends the name of the drive.
-/

namespace Keyline.Uri

/-- The families of schemes that are read differently. -/
inductive SchemeFamily where
  | file
  | web
  | other
deriving DecidableEq, Repr

/-- The family of a scheme. -/
def familyOf (scheme : String) : SchemeFamily :=
  if scheme = "file" then .file
  else if ["http", "https", "ws", "wss", "ftp"].contains scheme then .web
  else .other

/-- The port that a scheme implies. -/
def defaultPort? (scheme : String) : Option Nat :=
  [("http", 80), ("ws", 80), ("https", 443), ("wss", 443), ("ftp", 21)].lookup scheme

namespace SchemeFamily

/-- Whether a family is special. -/
def isSpecial (f : SchemeFamily) : Bool := f != other

/-- Whether a character separates the names of a path. -/
def isSlash (f : SchemeFamily) (c : Char) : Bool := c = '/' || (f.isSpecial && c = '\\')

/-- Whether a character ends an authority. -/
def endsAuthority (f : SchemeFamily) (c : Char) : Bool := f.isSlash c || c = '?' || c = '#'

end SchemeFamily

/-! ## Input -/

/-- Whether a character is dropped at the two ends of the input. -/
def isOuter (c : Char) : Bool := c.toNat ≤ 0x20

/-- An input without the characters at its ends that are dropped. -/
def trimOuter (t : Text) : Text := ((t.dropWhile isOuter).reverse.dropWhile isOuter).reverse

/-- Tabs and line breaks, which an address may be broken with. -/
def isBreak (c : Char) : Bool := c = '\t' || c = '\n' || c = '\r'

/-- A text without tabs and line breaks. -/
def unbroken (t : Text) : Text := t.filter (!isBreak ·)

/-- Characters that may stand in a scheme. -/
def isSchemeChar (c : Char) : Bool := c.isAlphanum || c = '+' || c = '-' || c = '.'

/-- Reads the scheme and the colon behind it. -/
def readScheme (t : Text) : Option (String × Text) :=
  let front := t.takeWhile fun c => isSchemeChar c || isBreak c
  let scheme := unbroken front
  match t.drop front.length with
  | ':' :: r => if scheme.head?.any Char.isAlpha then some (String.ofList (scheme.map Char.toLower), r) else none
  | _ => none

/-! ## Paths -/

/-- Whether a name is a letter with a colon or a bar, as drives are written. -/
def isDrive : Text → Bool
  | [letter, mark] => letter.isAlpha && (mark = ':' || mark = '|')
  | _ => false

/-- Whether a name stands for the directory itself. -/
def isSingleDot (name : Text) : Bool := [".".toList, "%2e".toList].contains (name.map Char.toLower)

/-- Whether a name stands for the directory above. -/
def isDoubleDot (name : Text) : Bool :=
  ["..".toList, ".%2e".toList, "%2e.".toList, "%2e%2e".toList].contains (name.map Char.toLower)

/-- The names of a path without the last one; a drive stays. -/
def parentNames (names : List Text) : List Text :=
  match names.getLast? with
  | some name => if isDrive name then names else names.dropLast
  | none => []

/-- What stands between two slashes of a path. -/
inductive Segment where
  /-- The directory itself. -/
  | here
  /-- The directory above. -/
  | above
  | name (t : Text)
  | drive (t : Text)
  /-- A drive and a name that only a break separates. -/
  | driveAndName (drive t : Text)

/-- The drive that a break follows, and the name behind it; `front` is what was read so far. -/
def atBreak? (front : Text) : Text → Option (Text × Text)
  | [] => none
  | c :: r =>
    if isBreak c then
      if isDrive front && front.getLast? == some ':' && !(unbroken r).isEmpty then some (front, unbroken r)
      else atBreak? front r
    else atBreak? (front ++ [c]) r

/-- The segment that a text denotes. Drives are the first segment of a file path; they are written with a colon. -/
def readSegment (f : SchemeFamily) (first : Bool) (t : Text) : Segment :=
  let first := first && f == .file
  let name := escape escapedInPath (unbroken t)
  match if first then atBreak? [] t else none with
  | some (drive, t) => .driveAndName drive (escape escapedInPath t)
  | none =>
    if isDoubleDot name then .above
    else if isSingleDot name then .here
    else if first && isDrive name then .drive (name.take 1 ++ [':'])
    else .name name

/-- Whether a segment stands for a directory. -/
def Segment.isDots : Segment → Bool
  | here => true
  | above => true
  | _ => false

/-- The part of a path that was read. -/
structure Walk where
  names : List Text := []
  /-- Whether the path starts with a drive that has a segment of its own. -/
  onDrive : Bool := false

/-- The path after one more segment. -/
def Walk.add (w : Walk) : Segment → Walk
  | .here => w
  | .above => { w with names := parentNames w.names }
  | .name t => { w with names := w.names ++ [t] }
  | .drive t => { names := w.names ++ [t], onDrive := true }
  | .driveAndName drive t => { w with names := w.names ++ [drive, t] }

/-- The path after the segments that texts denote. -/
def Walk.addAll (f : SchemeFamily) (w : Walk) : List Text → Walk
  | [] => w
  | t :: rest =>
    let s := readSegment f w.names.isEmpty t
    let next := w.add s
    match rest with
    | [] => if s.isDots then next.add (.name []) else next
    | _ :: _ => next.addAll f rest

/-- Reads a path from behind its first slash. -/
def readPath (f : SchemeFamily) (t : Text) : Walk := Walk.addAll f {} (t.splitOnP f.isSlash)

/-- The names that a path keeps: a file path does not start with empty ones. -/
def keptNames (f : SchemeFamily) (names : List Text) : List Text :=
  if f = .file then
    match names.dropWhile List.isEmpty with
    | [] => [[]]
    | names => names
  else names

/-- A path in normal form. -/
def Walk.text (f : SchemeFamily) (w : Walk) : Text := '/' :: List.intercalate ['/'] (keptNames f w.names)

/-- A text without its first slash. -/
def dropSlash (f : SchemeFamily) (t : Text) : Text :=
  match t.dropWhile isBreak with
  | [] => []
  | c :: r => if f.isSlash c then r else c :: r

/-- The path that follows an authority. Under a special scheme it is never empty. -/
def authorityPath (f : SchemeFamily) (t : Text) : Text :=
  if t.isEmpty && !f.isSpecial then [] else (readPath f (dropSlash f t)).text f

/-! ## Authorities -/

/-- User name and password with escapes, and a colon between them unless there is no password. -/
def userText (t : Text) : Text :=
  let name := t.takeWhile (· != ':')
  let password := t.drop (name.length + 1)
  escape escapedInUser name ++ if password.isEmpty then [] else ':' :: escape escapedInUser password

/-- Splits off what stands in front of the last `@` of an authority. -/
def splitUser (t : Text) : Option Text × Text :=
  let reversed := t.reverse
  let host := (reversed.takeWhile (· != '@')).reverse
  match reversed.drop host.length with
  | [] => (none, t)
  | _ :: user => (some user.reverse, host)

/-- The number of characters of a host in front of its port; a colon in brackets belongs to the host. -/
def hostLength (inBrackets : Bool) : Text → Nat
  | [] => 0
  | c :: r =>
    if c = ':' && !inBrackets then 0
    else 1 + hostLength (if c = '[' then true else if c = ']' then false else inBrackets) r

/-- Reads the port from behind its colon. It ends at a backslash, which is left. -/
def readPort (scheme : String) (t : Text) : Option (Option Nat × Text) :=
  let digits := t.takeWhile Char.isDigit
  let rest := t.drop digits.length
  let port := digits.foldl (fun n c => 10 * n + (c.toNat - '0'.toNat)) 0
  if 65535 < port || rest.head?.any (· != '\\') then none
  else some (if digits.isEmpty ∨ some port = defaultPort? scheme then none else some port, rest)

/-- Reads the host and the port of an authority. -/
def readHostPort (f : SchemeFamily) (scheme : String) (t : Text) : Option (Text × Option Nat × Text) := do
  let n := hostLength false t
  let host ← if f.isSpecial then specialHost? (t.take n) else plainHost? (t.take n)
  match t.drop n with
  | [] => some (host, none, [])
  | _ :: r => do
    if host.isEmpty then none
    else
      let (port, rest) ← readPort scheme r
      some (host, port, rest)

/-- Reads an authority and the path behind it; `t` ends where the query or fragment starts. -/
def readAuthority (f : SchemeFamily) (scheme : String) (t : Text) (more : Bool) : Option (Authority × Text) := do
  let whole := t.takeWhile (!f.endsAuthority ·)
  let after := t.drop whole.length
  let (user, hostPort) := splitUser whole
  if user = some [] ∧ hostPort = [] ∧ (!after.isEmpty ∨ more) then none
  else
    let (host, port, rest) ← readHostPort f scheme hostPort
    let user := userText (user.getD [])
    if host.isEmpty && !user.isEmpty then none
    else some (⟨String.ofList user, String.ofList host, port⟩, authorityPath f (rest ++ after))

/-! ## Files -/

/-- The authority of a file without host. -/
def noHost : Authority := ⟨"", "", none⟩

/-- Reads what follows two slashes in the address of a file: a host, unless it is a drive, and the path. If there is no
host, the path has an empty name in front; a host in front of a drive is dropped. -/
def readFileHost (t : Text) : Option (Authority × Text) :=
  let f := SchemeFamily.file
  let front := t.takeWhile (!f.endsAuthority ·)
  let rest := t.drop front.length
  if isDrive (unbroken front) then some (noHost, (readPath f t).text f)
  else if (unbroken front).isEmpty then some (noHost, (readPath f rest).text f)
  else do
    let host ← specialHost? (unbroken front)
    if host = "localhost".toList then some (noHost, (readPath f rest).text f)
    else
      let path := readPath f (dropSlash f rest)
      some (⟨"", if path.onDrive then "" else String.ofList host, none⟩, path.text f)

/-- Reads the address of a file from behind its scheme. -/
def readFile (t : Text) : Option (Authority × Text) :=
  let f := SchemeFamily.file
  match unbroken t with
  | a :: b :: _ =>
    if f.isSlash a && f.isSlash b then readFileHost (dropSlash f (dropSlash f t)) else some (noHost, authorityPath f t)
  | _ => some (noHost, authorityPath f t)

/-! ## Addresses -/

/-- Reads the authority and the path, from behind the scheme up to the query or fragment. -/
def readHierarchy (scheme : String) (t : Text) (more : Bool) : Option (Option Authority × Text) :=
  match familyOf scheme with
  | .file => (readFile t).map fun (a, path) => (some a, path)
  | .web =>
    (readAuthority .web scheme ((unbroken t).dropWhile SchemeFamily.web.isSlash) more).map fun (a, path) =>
      (some a, path)
  | .other =>
    match unbroken t with
    | '/' :: '/' :: r => (readAuthority .other scheme r more).map fun (a, path) => (some a, path)
    | '/' :: r => some (none, (readPath .other r).text .other)
    | r => some (none, escape isControl r)

/-- Splits a text at its first `mark`. -/
def cut (mark : Char) (t : Text) : Text × Option Text :=
  match t.dropWhile (· != mark) with
  | [] => (t, none)
  | _ :: r => (t.takeWhile (· != mark), some r)

/-- The address that a text denotes. -/
def parse? (s : String) : Option Uri := do
  let (scheme, r) ← readScheme (trimOuter s.toList)
  let (r, fragment) := cut '#' r
  let (r, query) := cut '?' r
  let (authority, path) ← readHierarchy scheme r (query.isSome || fragment.isSome)
  let special := (familyOf scheme).isSpecial
  some {
    scheme
    authority
    path := String.ofList path
    query := query.map fun q => String.ofList (escape (escapedInQuery special) (unbroken q))
    fragment := fragment.map fun t => String.ofList (escape escapedInFragment (unbroken t)) }

end Keyline.Uri
