import Keyline.Text.Encoding

/-!
# Paths

A path is a sequence of names with slashes between them, in bytes that need not be a text. Empty names and `.` mean
nothing, and `..` is no name. The extension of a name is what follows its last dot, unless that dot is its first byte.

A path is shown as the text that it is, if it is one (`Path.display_ofString`).
-/

namespace Keyline

/-- A path, as the file system takes it. -/
abbrev Path := Bytes

namespace Path

/-- The path that a text spells. -/
def ofString (s : String) : Path := encode s.toList

/-- A path as it is shown to a user. -/
def display (path : Path) : String := String.ofList (decodeLossy path)

/-- Whether a path is a text. -/
def isText (path : Path) : Bool := (decode? path).isSome

/-- The byte of a slash. -/
def slash : UInt8 := 0x2F

/-- The byte of a dot. -/
def dot : UInt8 := 0x2E

/-- Whether a path starts at the root. -/
def isAbsolute (path : Path) : Bool := path.head? == some slash

/-- A path below another one. An absolute path stays, and no slash is doubled. -/
def join (base path : Path) : Path :=
  if isAbsolute path || base.isEmpty then path
  else if base.getLast? == some slash then base ++ path
  else base ++ slash :: path

/-- The last name of a path. -/
def fileName? (path : Path) : Option Bytes :=
  match ((path.splitOn slash).filter fun part => part != [] && part != [dot]).getLast? with
  | none => none
  | some part => if part == [dot, dot] then none else some part

/-- The extension of a name. -/
def nameExtension? (name : Bytes) : Option Bytes :=
  let reversed := name.reverse
  match reversed.dropWhile (· != dot) with
  | [] => none
  | _ :: stem => if stem.isEmpty then none else some (reversed.takeWhile (· != dot)).reverse

/-- The extension of a path, if its last name has one and it is a text. -/
def extension? (path : Path) : Option Text := ((fileName? path).bind nameExtension?).bind decode?

/-- A path that a text spells is shown as that text. -/
theorem display_ofString (s : String) : display (ofString s) = s := by
  rw [display, ofString, decodeLossy_encode, String.ofList_toList]

end Path

end Keyline
