import Keyline.Text.Blank

/-!
# Command lines

A command has flags, options with a value, and possibly positional arguments. Arguments are read from left to right. A
value that follows its option, and a run of positional arguments, is *pending* until the next flag, option or the end:
only then is it checked. An argument that the command does not know is refused at once, whatever is pending.

Every command also knows `--help`, `-h`, `--version` and `-V`, which end the reading where they stand. A program that
is not run ends with the help or version that was asked for, or with the status for wrong usage.
-/

namespace Keyline.CommandLine

/-- Why a command is not run. -/
inductive Stop where
  | help
  | version
  | unknownArgument
  | invalidValue
  | tooManyValues
  | conflict
  | missingArgument
deriving DecidableEq, Repr

/-- What a command accepts. -/
structure Spec where
  /-- The names of the flags, which take no value. -/
  flags : List String
  /-- The options and the values that they accept. -/
  options : List (String × (String → Bool))
  /-- The positional arguments that the command accepts, if it takes any. -/
  positional : Option (String → Bool)

/-- What was given on a command line. -/
structure Given where
  flags : List String := []
  values : List (String × String) := []
  positionals : List String := []
deriving DecidableEq, Repr

/-- What is not checked yet. -/
inductive Pending where
  | nothing
  | option (name : String) (value : Option String)
  | positionals (args : List String)
deriving DecidableEq, Repr

/-- A command line that is being read. -/
structure Reading where
  given : Given := {}
  pending : Pending := .nothing
  /-- Whether a `--` was read, after which every argument is positional. -/
  trailing : Bool := false
deriving DecidableEq, Repr

namespace Given

/-- Records a flag. -/
def addFlag (g : Given) (name : String) : Except Stop Given :=
  if g.flags.contains name then .error .conflict else .ok { g with flags := g.flags ++ [name] }

/-- Records the value of an option, unless the option was given before or refuses the value. -/
def addValue (spec : Spec) (g : Given) (name value : String) : Except Stop Given :=
  if (g.values.lookup name).isSome then .error .conflict
  else if ((spec.options.lookup name).getD fun _ => false) value then
    .ok { g with values := g.values ++ [(name, value)] }
  else .error .invalidValue

/-- Records positional arguments, all of which have to be acceptable. -/
def addPositionals (spec : Spec) (g : Given) (args : List String) : Except Stop Given :=
  if args.all (spec.positional.getD fun _ => false) then .ok { g with positionals := g.positionals ++ args }
  else .error .invalidValue

end Given

namespace Reading

/-- Checks and records what is pending. -/
def settle (spec : Spec) (r : Reading) : Except Stop Reading := do
  let given ← match r.pending with
    | .nothing => .ok r.given
    | .option _ none => .error .invalidValue
    | .option name (some value) => r.given.addValue spec name value
    | .positionals args => r.given.addPositionals spec args
  return { r with given, pending := .nothing }

/-- Reads a long flag or option, with the value that `=` attaches to it. -/
def long (spec : Spec) (r : Reading) (name : String) (attached : Option String) : Except Stop Reading := do
  if spec.flags.contains name || name = "help" || name = "version" then
    if attached.isSome then throw .tooManyValues
    let r ← r.settle spec
    if name = "help" then throw .help
    if name = "version" then throw .version
    return { r with given := ← r.given.addFlag name }
  else if (spec.options.lookup name).isSome then
    let r ← r.settle spec
    match attached with
    | some value => return { r with given := ← r.given.addValue spec name value }
    | none => return { r with pending := .option name none }
  else throw .unknownArgument

/-- Reads a group of short flags, the first of which decides. -/
def short (spec : Spec) (r : Reading) (first : Char) : Except Stop Reading := do
  if first = 'h' then
    let _ ← r.settle spec
    throw .help
  else if first = 'V' then
    let _ ← r.settle spec
    throw .version
  else throw .unknownArgument

/-- Reads a positional argument. -/
def positional (spec : Spec) (r : Reading) (arg : String) : Except Stop Reading :=
  if spec.positional.isNone then .error .unknownArgument
  else
    match r.pending with
    | .positionals args => .ok { r with pending := .positionals (args ++ [arg]) }
    | _ => do
      let r ← r.settle spec
      return { r with pending := .positionals [arg] }

/-- Reads an argument that is no flag and no option: the value that an option waits for, or a positional argument. -/
def plain (spec : Spec) (r : Reading) (arg : String) : Except Stop Reading :=
  match r.pending with
  | .option name none => .ok { r with pending := .option name (some arg) }
  | _ => r.positional spec arg

/-- Reads one argument. -/
def step (spec : Spec) (r : Reading) (arg : String) : Except Stop Reading :=
  if r.trailing then r.positional spec arg
  else
    match arg.toList with
    | ['-', '-'] => .ok { r with trailing := true }
    | '-' :: '-' :: rest =>
      let name := String.ofList (rest.takeWhile (· != '='))
      match rest.dropWhile (· != '=') with
      | [] => r.long spec name none
      | _ :: value => r.long spec name (some (String.ofList value))
    | '-' :: first :: _ => r.short spec first
    | _ => r.plain spec arg

end Reading

/-- Reads the arguments of a command. -/
def read (spec : Spec) (args : List String) : Except Stop Given := do
  let r ← args.foldlM (Reading.step spec) {}
  let r ← r.settle spec
  return r.given

end Keyline.CommandLine

namespace Keyline

/-! ## How a program ends -/

/-- What a program leaves behind: its output, its exit status and the error that it reports. -/
structure Exit where
  output : String
  status : Nat
  failure : Option String := none
deriving DecidableEq, Repr

/-- What a program tells about itself. -/
structure About where
  version : String
  help : List String

/-- How a program ends that is not run. -/
def About.exit (a : About) : CommandLine.Stop → Exit
  | .help => ⟨String.join (a.help.map (· ++ "\n")), 0, none⟩
  | .version => ⟨a.version ++ "\n", 0, none⟩
  | _ => ⟨"", 2, none⟩

end Keyline
