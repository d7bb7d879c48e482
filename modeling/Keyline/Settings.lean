import Keyline.CommandLine.Commands
import Keyline.Store

/-!
# Settings

The settings of a language server come from one settings file and the command line. A file named on the command line
has to be there; otherwise the first regular file among two candidates is taken, in the working directory and in the
user's configuration directory, and without one the defaults hold. The command line has the last word on the severity.
Where the user keeps configuration, and how the text of a settings file is read, is for the caller to say.

A document belongs to the record grammar if its language identifier is one of the settings, or if the extension of its
path is: extensions are compared without their leading dots and without regard to the case of ASCII letters.
-/

namespace Keyline

/-- Why the settings could not be loaded. -/
inductive SettingsError where
  | unreadable (path : Path)
  | malformed (path : Path)
deriving DecidableEq, Repr

/-- The sentence that tells a user why the settings could not be loaded. -/
def SettingsError.message : SettingsError → String
  | unreadable path => "Failed to read config file " ++ path.display
  | malformed path => "Failed to parse config file " ++ path.display

/-- What a settings file says; every setting has a default. -/
structure FileSettings where
  languageIds : List String := ["aam"]
  extensions : List String := ["aam"]
  severity : Severity := .error
deriving DecidableEq, Repr

/-- A text with its ASCII letters in lower case. -/
def asciiLower (t : Text) : Text := t.map Char.toLower

/-- An extension as it is compared. -/
def normalizeExtension (e : String) : String := String.ofList (asciiLower (e.toList.dropWhile (· == '.')))

/-- The settings in effect. -/
structure Settings where
  languageIds : List String
  extensions : List String
  severity : Severity
  logLevel : String
  /-- The settings file in effect. -/
  configPath : Option Path
deriving DecidableEq, Repr

namespace Settings

/-- The settings that a settings file gives. -/
def ofFile (file : FileSettings) (logLevel : String) (configPath : Option Path) : Settings where
  languageIds := file.languageIds
  extensions := file.extensions.map normalizeExtension
  severity := file.severity
  logLevel
  configPath

/-- The settings without a settings file. -/
def default : Settings := ofFile {} "info" none

/-- The places where a settings file is looked for, the first one first. -/
def candidates (configDir : Option Path) (workdir : Path) : List Path :=
  let user := configDir.map fun dir => Path.join (Path.join dir (.ofString "aam-ls")) (.ofString "config.toml")
  Path.join workdir (.ofString ".aam-ls.toml") :: user.toList

/-- The first path that leads to a regular file. -/
def firstFile? {m : Type → Type} [Monad m] (files : FileReader m) : List Path → m (Option Path)
  | [] => return none
  | path :: paths => do
    if ← files.isFile path then return some path else firstFile? files paths

/-- Reads a settings file, whose text is read by `parse?`. -/
def loadFile {m : Type → Type} [Monad m] (files : FileReader m) (parse? : Text → Option FileSettings) (path : Path) :
    m (Except SettingsError FileSettings) := do
  match ← files.readText path with
  | none => return .error (.unreadable path)
  | some content =>
    match parse? content with
    | none => return .error (.malformed path)
    | some file => return .ok file

/-- Puts the command line over the settings of a file. -/
def overlay (args : ServerArgs) (file : FileSettings) (configPath : Option Path) : Settings :=
  let s := ofFile file args.logLevel configPath
  { s with severity := args.severity.getD s.severity }

/-- The settings for a command line. -/
def load {m : Type → Type} [Monad m] (files : FileReader m) (parse? : Text → Option FileSettings)
    (configDir : Option Path) (workdir : Path) (args : ServerArgs) : m (Except SettingsError Settings) := do
  let configPath ← match args.config with
    | some path => pure (some path)
    | none => firstFile? files (candidates configDir workdir)
  match configPath with
  | none => return .ok (overlay args {} none)
  | some path => return (← loadFile files parse? path).map fun file => overlay args file (some path)

/-- Whether a document with the given language identifier and path belongs to the record grammar. -/
def accepts (s : Settings) (languageId : String) (path : Path) : Bool :=
  s.languageIds.contains languageId ||
    match Path.extension? path with
    | some e => s.extensions.contains (String.ofList (asciiLower e))
    | none => false

end Settings

end Keyline
