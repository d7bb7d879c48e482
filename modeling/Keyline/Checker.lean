import Keyline.CommandLine.Commands
import Keyline.Report
import Keyline.Store

/-!
# The checker

The checker reads files in the order in which they are named, repairs them if told to, and reports what is left. A file
is written only if a repair was made. The first file that cannot be read or written ends the run: then nothing is
printed, but repairs made before stay. Nor is anything printed if a path cannot be written as JSON.
-/

namespace Keyline

/-- Why a run of the checker failed. -/
inductive CheckError where
  | unreadable (path : Path)
  | unwritable (path : Path)
  | unprintable
deriving DecidableEq, Repr

/-- The sentence that tells a user why the run failed. -/
def CheckError.message : CheckError → String
  | unreadable path => "Failed to read " ++ path.display
  | unwritable path => "Failed to write " ++ path.display
  | unprintable => "path contains invalid UTF-8 characters"

/-- The reports in the chosen format. -/
def Format.render? (reports : List Report) : Format → Option String
  | text => some (String.join (reports.map Report.render))
  | json => (reports.mapM Report.toJson?).map fun items => (Json.arr items).pretty ++ "\n"

namespace Checker

variable {m : Type → Type} [Monad m]

/-- Repairs the content of a file. -/
def repairFile (files : FileAccess m) (path : Path) (content : Text) : m (Except CheckError Report) := do
  let outcome := repair content
  let report : Report := ⟨path, outcome.applied, validate outcome.text⟩
  if outcome.applied = 0 then return .ok report
  else if ← files.writeText path outcome.text then return .ok report
  else return .error (.unwritable path)

/-- Checks one file, and repairs it if `fix` holds. -/
def checkFile (files : FileAccess m) (fix : Bool) (path : Path) : m (Except CheckError Report) := do
  match ← files.readText path with
  | none => return .error (.unreadable path)
  | some content => if fix then repairFile files path content else return .ok ⟨path, 0, validate content⟩

/-- Checks files up to the first error. -/
def checkFiles (files : FileAccess m) (fix : Bool) : List Path → m (Except CheckError (List Report))
  | [] => return .ok []
  | path :: paths => do
    match ← checkFile files fix path with
    | .error e => return .error e
    | .ok report => return (← checkFiles files fix paths).map (report :: ·)

/-- The exit of a run that made the given reports. -/
def exitOf (format : Format) : Except CheckError (List Report) → Exit
  | .error e => ⟨"", 1, some e.message⟩
  | .ok reports =>
    match format.render? reports with
    | none => ⟨"", 1, some CheckError.unprintable.message⟩
    | some output => ⟨output, if reports.all Report.isClean then 0 else 1, none⟩

/-- Checks the files of a command line. -/
def check (files : FileAccess m) (args : CheckArgs) : m Exit :=
  exitOf args.format <$> checkFiles files args.fix args.files

/-- What the checker tells about itself. -/
def about : About where
  version := "aam-check 0.1.0"
  help := [
    "Check aam key = value files and optionally repair them",
    "",
    "Usage: aam-check [OPTIONS] <FILES>...",
    "",
    "Arguments:",
    "  <FILES>...  Files to check",
    "",
    "Options:",
    "      --fix                    Apply automatic fixes and write the files back",
    "      --format <FORMAT>        [default: text] [possible values: text, json]",
    "      --log-level <LOG_LEVEL>  Log level (trace, debug, info, warn, error) [default: warn]",
    "  -h, --help                   Print help",
    "  -V, --version                Print version"]

/-- Runs the checker with the given arguments. -/
def run (files : FileAccess m) (args : List String) : m Exit :=
  match CheckArgs.read args with
  | .ok args => check files args
  | .error stop => return about.exit stop

end Checker

end Keyline
