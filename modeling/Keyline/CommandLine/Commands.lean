import Keyline.CommandLine.Basic
import Keyline.Path
import Keyline.Severity

/-!
# The two commands

The language server takes no positional arguments; the checker needs at least one file. A path may not be empty.
-/

namespace Keyline

open CommandLine

/-- A path is accepted if it is not empty. -/
def acceptsPath (path : String) : Bool := !path.isEmpty

/-- The arguments of the language server. -/
structure ServerArgs where
  config : Option Path
  severity : Option Severity
  logLevel : String
deriving DecidableEq, Repr

namespace ServerArgs

/-- What the language server accepts. -/
def spec : Spec where
  flags := []
  options := [("config", acceptsPath), ("severity", fun v => (Severity.ofName? v).isSome), ("log-level", fun _ => true)]
  positional := none

/-- Reads the arguments of the language server. -/
def read (args : List String) : Except Stop ServerArgs := do
  let given ← CommandLine.read spec args
  return {
    config := (given.values.lookup "config").map Path.ofString
    severity := (given.values.lookup "severity").bind Severity.ofName?
    logLevel := (given.values.lookup "log-level").getD "info" }

end ServerArgs

/-- How the checker writes its reports. -/
inductive Format where
  | text
  | json
deriving DecidableEq, Repr

namespace Format

/-- The name of a format. -/
def name : Format → String
  | text => "text"
  | json => "json"

/-- The format with a given name. -/
def ofName? (name : String) : Option Format := [text, json].find? (·.name == name)

end Format

/-- The arguments of the checker. -/
structure CheckArgs where
  files : List Path
  fix : Bool
  format : Format
  logLevel : String
deriving DecidableEq, Repr

namespace CheckArgs

/-- What the checker accepts. -/
def spec : Spec where
  flags := ["fix"]
  options := [("format", fun v => (Format.ofName? v).isSome), ("log-level", fun _ => true)]
  positional := some acceptsPath

/-- Reads the arguments of the checker. -/
def read (args : List String) : Except Stop CheckArgs := do
  let given ← CommandLine.read spec args
  if given.positionals.isEmpty then throw .missingArgument
  return {
    files := given.positionals.map Path.ofString
    fix := given.flags.contains "fix"
    format := ((given.values.lookup "format").bind Format.ofName?).getD .text
    logLevel := (given.values.lookup "log-level").getD "warn" }

end CheckArgs

end Keyline
