import Keyline.Settings
import Keyline.Toml.Parser

/-!
# Settings files

A settings file is written in TOML. It may name the language identifiers and the file extensions that belong to the
record grammar, and the severity of findings; a setting that does not exist is refused. A severity is given by its name,
or as a table whose only entry has that name and is empty.
-/

namespace Keyline

namespace Toml.Tree

/-- The string that a tree is. -/
def str? : Tree → Option String
  | str s => some s
  | _ => none

/-- The list of strings that a tree is. -/
def strs? : Tree → Option (List String)
  | arr items => items.mapM str?
  | _ => none

/-- Whether a tree is a list or table without content. -/
def isEmpty : Tree → Bool
  | arr items => items.isEmpty
  | table _ entries => entries.isEmpty
  | str _ => false

/-- The severity that a tree names. -/
def severity? : Tree → Option Severity
  | str s => Severity.ofName? s
  | table _ [(name, t)] => if t.isEmpty then Severity.ofName? name else none
  | _ => none

end Toml.Tree

namespace FileSettings

/-- Takes over one entry of a settings file. -/
def set? (s : FileSettings) (name : String) (t : Toml.Tree) : Option FileSettings :=
  match name with
  | "language_ids" => t.strs?.map fun languageIds => { s with languageIds }
  | "extensions" => t.strs?.map fun extensions => { s with extensions }
  | "severity" => t.severity?.map fun severity => { s with severity }
  | _ => none

/-- The settings in the text of a settings file. -/
def parse? (content : Text) : Option FileSettings := do
  (← Toml.parse? content).foldlM (fun s e => s.set? e.1 e.2) {}

end FileSettings

end Keyline
