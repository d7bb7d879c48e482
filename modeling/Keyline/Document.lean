import Keyline.Text.Encoding
import Keyline.Validation

/-!
# Open documents

An open document is a text with the language that the editor gave it and a version. Its spans are turned into the ranges
of an editor, which count columns in UTF-16 code units.
-/

namespace Keyline

/-- A place in a text as an editor counts it: both numbers fit 32 bits. -/
structure Position where
  line : Nat
  character : Nat
deriving DecidableEq, Repr

/-- The text between two positions. -/
structure Range where
  start : Position
  stop : Position
deriving DecidableEq, Repr

/-- A text that an editor has open. -/
structure Document where
  content : Text
  languageId : String
  version : Int
deriving DecidableEq, Repr

namespace Document

/-- The line with a given index, without its terminator. -/
def line? (d : Document) (index : Nat) : Option Text := ((splitLines d.content)[index]?).map Line.body

/-- The characters that a span covers, if its line exists. -/
def spanText? (d : Document) (s : Span) : Option Text := (d.line? s.line).map s.slice

/-- A span as an editor sees it; a line that does not exist counts as empty. -/
def range (d : Document) (s : Span) : Range :=
  let body := (d.line? s.line).getD []
  ⟨⟨cap32 s.line, unitColumn body s.start⟩, ⟨cap32 s.line, unitColumn body s.stop⟩⟩

end Document

end Keyline
