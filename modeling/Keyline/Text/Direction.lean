import Keyline.Text.Direction.Classes

/-!
# Direction

Some scripts run from right to left. The class of a character says in which direction it runs itself, or how it follows
the characters around it.
-/

namespace Keyline

/-- The classes of direction. -/
inductive Direction where
  | leftToRight
  | rightToLeft
  | arabicLetter
  | europeanNumber
  | arabicNumber
  | europeanSeparator
  | europeanTerminator
  | commonSeparator
  | mark
  | boundary
  | neutral
  /-- A blank, a break, or a character that sets the direction of others. -/
  | layout
deriving DecidableEq, Repr

namespace Direction

/-- The names of the classes. -/
def names : List (String × Direction) := [
  ("L", leftToRight), ("R", rightToLeft), ("AL", arabicLetter), ("EN", europeanNumber), ("AN", arabicNumber),
  ("ES", europeanSeparator), ("ET", europeanTerminator), ("CS", commonSeparator), ("NSM", mark), ("BN", boundary),
  ("ON", neutral)]

/-- The class with a given name. -/
def ofName (name : Text) : Direction := (names.lookup (String.ofList name)).getD layout

/-- Whether a class makes a text one that runs from right to left. -/
def isRightToLeft (d : Direction) : Bool := d = rightToLeft || d = arabicLetter || d = arabicNumber

/-- Whether a class may stand in any label. -/
def isCommon (d : Direction) : Bool :=
  [europeanNumber, europeanSeparator, europeanTerminator, commonSeparator, mark, boundary, neutral].contains d

end Direction

/-- The class of direction of a character. -/
def direction (c : Char) : Direction := ((valueIn? directionNames c).map Direction.ofName).getD .leftToRight

end Keyline
