import Keyline.Json.Printer
import Keyline.Path
import Keyline.Repair

/-!
# Reports

What a check says about one file: how many repairs were made and which findings are left. A report is written either as
one line per finding, with line and column counted from one, or as JSON, where both count from zero and the path has to
be a text.
-/

namespace Keyline

/-- A span as JSON. -/
def Span.toJson (s : Span) : Json := .obj [("line", .nat s.line), ("start", .nat s.start), ("end", .nat s.stop)]

/-- A finding as JSON. -/
def Finding.toJson (f : Finding) : Json :=
  .obj [("span", f.span.toJson), ("kind", .str f.kind.code), ("message", .str f.message)]

/-- A finding as a line of a text report. -/
def Finding.render (f : Finding) (path : Path) : String :=
  path.display ++ ":" ++ toString (f.line + 1) ++ ":" ++ toString (f.span.start + 1) ++ ": " ++ f.kind.code ++ ": " ++
    f.message ++ "\n"

/-- The result of checking one file. -/
structure Report where
  path : Path
  applied : Nat
  findings : List Finding
deriving DecidableEq, Repr

namespace Report

/-- Whether nothing is left to complain about. -/
def isClean (r : Report) : Bool := r.findings.isEmpty

/-- One line per finding. -/
def render (r : Report) : String := String.join (r.findings.map (·.render r.path))

/-- The report as JSON, if its path is a text. -/
def toJson? (r : Report) : Option Json := do
  let path ← decode? r.path
  some (.obj [("path", .str (String.ofList path)), ("fixes_applied", .nat r.applied),
    ("findings", .arr (r.findings.map Finding.toJson))])

end Report

end Keyline
