import Keyline.Text.Blank

/-!
# Lines and their terminators

A line ends with a line feed, a carriage return, or the two together; a line feed right after a carriage return never
ends a line of its own. A last line without a terminator counts only if it has a character.

The split is built from the right, one character at a time (`prepend`), so that its laws are inductions over the text.
Main statement: joining the lines gives the text back (`joinLines_splitLines`).
-/

namespace Keyline

/-- How a line ends. -/
inductive Terminator where
  | none
  | lf
  | cr
  | crlf
deriving DecidableEq, Repr

/-- The characters of a terminator. -/
def Terminator.text : Terminator → Text
  | none => []
  | lf => ['\n']
  | cr => ['\r']
  | crlf => ['\r', '\n']

/-- A line of a text: its characters without the terminator, and the terminator. -/
structure Line where
  body : Text
  terminator : Terminator
deriving DecidableEq, Repr

namespace Line

/-- The characters of a line, terminator included. -/
def text (l : Line) : Text := l.body ++ l.terminator.text

/-- A line with another body and the same terminator. -/
def withBody (l : Line) (body : Text) : Line := { l with body }

/-- The lines of a text that has one more character in front. -/
def prepend (c : Char) : List Line → List Line
  | [] => if c = '\n' then [⟨[], .lf⟩] else if c = '\r' then [⟨[], .cr⟩] else [⟨[c], .none⟩]
  | l :: ls =>
    if c = '\n' then ⟨[], .lf⟩ :: l :: ls
    else if c = '\r' then if l = ⟨[], .lf⟩ then ⟨[], .crlf⟩ :: ls else ⟨[], .cr⟩ :: l :: ls
    else l.withBody (c :: l.body) :: ls

end Line

/-- The lines of a text, in order. -/
def splitLines (t : Text) : List Line := t.foldr Line.prepend []

/-- The text that a list of lines makes up. -/
def joinLines (ls : List Line) : Text := ls.flatMap Line.text

@[simp] theorem splitLines_nil : splitLines [] = [] := rfl

@[simp] theorem splitLines_cons (c : Char) (t : Text) : splitLines (c :: t) = Line.prepend c (splitLines t) := rfl

@[simp] theorem joinLines_nil : joinLines [] = [] := rfl

@[simp] theorem joinLines_cons (l : Line) (ls : List Line) : joinLines (l :: ls) = l.text ++ joinLines ls := by
  simp [joinLines]

/-- A character put in front of the lines is put in front of the text. -/
theorem joinLines_prepend (c : Char) (ls : List Line) : joinLines (Line.prepend c ls) = c :: joinLines ls := by
  cases ls with
  | nil =>
    simp only [Line.prepend]
    split
    · simp [Line.text, Terminator.text, *]
    · split <;> simp [Line.text, Terminator.text, *]
  | cons l ls =>
    simp only [Line.prepend]
    split
    · simp [Line.text, Terminator.text, *]
    · split
      · split <;> simp [Line.text, Terminator.text, *]
      · simp [Line.text, Line.withBody]

/-- Splitting loses nothing. -/
theorem joinLines_splitLines (t : Text) : joinLines (splitLines t) = t := by
  induction t with
  | nil => rfl
  | cons c t ih => rw [splitLines_cons, joinLines_prepend, ih]

end Keyline
