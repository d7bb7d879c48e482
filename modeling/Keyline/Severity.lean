/-!
# Severities

How serious an editor shows the findings, as a name and as the number that the editor expects.
-/

namespace Keyline

/-- How serious a finding is shown. -/
inductive Severity where
  | error
  | warning
  | information
  | hint
deriving DecidableEq, Repr

namespace Severity

/-- All severities, the most serious first. -/
def all : List Severity := [error, warning, information, hint]

/-- The name of a severity. -/
def name : Severity → String
  | error => "error"
  | warning => "warning"
  | information => "information"
  | hint => "hint"

/-- The severity with a given name. -/
def ofName? (name : String) : Option Severity := all.find? (·.name == name)

/-- The number of a severity in an editor. -/
def number : Severity → Int
  | error => 1
  | warning => 2
  | information => 3
  | hint => 4

end Severity

end Keyline
