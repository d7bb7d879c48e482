import Keyline.Server

/-!
# Launching the server

A command line either gives a server with its settings, or ends the program at once. The configuration directory is the
one that the user has chosen, if that is an absolute path, and otherwise the directory `.config` at home. Home is what
the user has chosen too, or else what the list of accounts says.
-/

namespace Keyline

/-- The directories of a user. -/
structure Environment where
  /-- The chosen place for configuration. -/
  configHome : Option Path
  /-- The chosen home. -/
  home : Option Path
  /-- The home in the list of accounts. -/
  accountHome : Option Path := none
deriving DecidableEq, Repr

/-- The user's configuration directory. -/
def Environment.configDir? (env : Environment) : Option Path :=
  match env.configHome.filter Path.isAbsolute with
  | some dir => some dir
  | none => ((env.home.filter (!·.isEmpty)).or env.accountHome).map (Path.join · (.ofString ".config"))

/-- The home of a user in a list of accounts, which has a line with seven fields for each. -/
def accountHome? (accounts user : Text) : Option Path :=
  (accounts.splitOn '\n').findSome? fun account =>
    match account.splitOn ':' with
    | [_, _, id, _, _, home, _] => if id = user then some (encode home) else none
    | _ => none

/-- What comes of a command line. -/
inductive Launch where
  | ready (server : Server)
  | ended (exit : Exit)

namespace Server

/-- What the server tells about itself on a command line. -/
def about : About where
  version := "aam-ls 0.1.0"
  help := [
    "Language server for aam key = value files",
    "",
    "Usage: aam-ls [OPTIONS]",
    "",
    "Options:",
    "      --config <CONFIG>        Path to a TOML configuration file",
    "      --severity <SEVERITY>    Severity of published diagnostics " ++
      "[possible values: error, warning, information, hint]",
    "      --log-level <LOG_LEVEL>  Log level (trace, debug, info, warn, error) [default: info]",
    "  -h, --help                   Print help",
    "  -V, --version                Print version"]

/-- Launches a server with the given arguments. -/
def launch {m : Type → Type} [Monad m] (files : FileReader m) (parse? : Text → Option FileSettings)
    (configDir : Option Path) (workdir : Path) (args : List String) : m Launch := do
  match ServerArgs.read args with
  | .error stop => return .ended (about.exit stop)
  | .ok args =>
    match ← Settings.load files parse? configDir workdir args with
    | .error e => return .ended ⟨"", 1, some e.message⟩
    | .ok settings => return .ready { settings }

end Server

end Keyline
