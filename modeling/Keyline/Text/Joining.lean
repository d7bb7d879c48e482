import Keyline.Text.Joining.Types

/-!
# Joining

In some scripts a letter takes another form if it is joined to its neighbours.
-/

namespace Keyline

/-- How a character joins its neighbours. -/
inductive Joining where
  | none
  | both
  | left
  | right
  /-- It does not stand between the characters around it. -/
  | transparent
  /-- It makes its neighbours join. -/
  | causing
deriving DecidableEq, Repr

namespace Joining

/-- The type of joining with a given name. -/
def ofName (name : Text) : Joining :=
  if name = ['D'] then both
  else if name = ['L'] then left
  else if name = ['R'] then right
  else if name = ['T'] then transparent
  else if name = ['C'] then causing
  else none

/-- Whether a character can join the one behind it. -/
def joinsNext (j : Joining) : Bool := j = both || j = left

/-- Whether a character can join the one in front of it. -/
def joinsPrevious (j : Joining) : Bool := j = both || j = right

end Joining

/-- How a character joins its neighbours. -/
def joining (c : Char) : Joining := ((valueIn? joiningNames c).map Joining.ofName).getD .none

end Keyline
