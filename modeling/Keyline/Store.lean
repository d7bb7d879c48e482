import Keyline.Path

/-!
# File systems

Programs reach files through a `FileReader` or a `FileAccess`, which say how to read and write in some monad. A `Store`
is a file system as a value: a function from locations to what is there, with a working directory, in which some
locations may be locked against writing. Several paths can lead to one location, since `.` and empty names stay where
they are and `..` goes up; every step of a path starts from a directory.
-/

namespace Keyline

/-- How files are read. -/
structure FileReader (m : Type → Type) where
  /-- The content of a file; none if it cannot be read or is no text. -/
  readText : Path → m (Option Text)
  /-- Whether a path leads to a regular file. -/
  isFile : Path → m Bool

/-- How files are read and written. -/
structure FileAccess (m : Type → Type) extends FileReader m where
  /-- Replaces the content of a file and says whether that worked. -/
  writeText : Path → Text → m Bool

/-- A place in a file system: the names on the way from the root. -/
abbrev Location := List Bytes

/-- What is at a location. -/
inductive Node where
  | directory
  | text (content : Text)
  | binary (bytes : Bytes)
deriving DecidableEq, Repr

namespace Node

/-- The file with the given bytes. -/
def ofBytes (bytes : Bytes) : Node :=
  match decode? bytes with
  | some t => text t
  | none => binary bytes

/-- Whether a node is a regular file. -/
def isFile : Node → Bool
  | directory => false
  | text _ => true
  | binary _ => true

end Node

/-- A file system and the directory in which relative paths start. -/
structure Store where
  node : Location → Option Node
  workdir : Location
  /-- Whether what is at a location cannot be written. -/
  isLocked : Location → Bool := fun _ => false

namespace Store

/-- The store with the given nodes and the directories above them; the first node given for a location counts. -/
def ofNodes (workdir : Location) (nodes : List (Location × Node)) : Store where
  node loc :=
    match nodes.lookup loc with
    | some n => some n
    | none => if loc.isEmpty || nodes.any (fun e => loc.isPrefixOf e.1) then some .directory else none
  workdir

/-- The store with a location locked against writing. -/
def lock (s : Store) (loc : Location) : Store := { s with isLocked := fun other => other == loc || s.isLocked other }

/-- Follows the names of a path from a location. -/
def walk (s : Store) (loc : Location) : List Bytes → Option Location
  | [] => some loc
  | name :: names =>
    if s.node loc != some .directory then none
    else if name = [] ∨ name = [Path.dot] then s.walk loc names
    else if name = [Path.dot, Path.dot] then s.walk loc.dropLast names
    else s.walk (loc ++ [name]) names

/-- The location to which a path leads, whether there is something or not. -/
def resolve? (s : Store) (path : Path) : Option Location :=
  match path with
  | [] => none
  | path => s.walk (if Path.isAbsolute path then [] else s.workdir) (path.splitOn Path.slash)

/-- What a path leads to. -/
def lookup? (s : Store) (path : Path) : Option Node := (s.resolve? path).bind s.node

/-- The text in the file to which a path leads. -/
def readText? (s : Store) (path : Path) : Option Text :=
  match s.lookup? path with
  | some (.text t) => some t
  | _ => none

/-- Whether a path leads to a regular file. -/
def isFile (s : Store) (path : Path) : Bool := (s.lookup? path).any Node.isFile

/-- The store with another node at a location. -/
def put (s : Store) (loc : Location) (n : Node) : Store :=
  { s with node := fun other => if other = loc then some n else s.node other }

/-- Writes a text to the file to which a path leads, and says whether there is one that can be written. -/
def writeText (s : Store) (path : Path) (content : Text) : Bool × Store :=
  match s.resolve? path with
  | some loc =>
    if (s.node loc).any Node.isFile && !s.isLocked loc then (true, s.put loc (.text content)) else (false, s)
  | none => (false, s)

/-- Reading from a store. -/
def reader (s : Store) : FileReader Id where
  readText path := s.readText? path
  isFile path := s.isFile path

/-- Reading from and writing to the store at hand. -/
def access : FileAccess (StateM Store) where
  readText path := do return (← get).readText? path
  isFile path := do return (← get).isFile path
  writeText path content := modifyGet (·.writeText path content)

end Store

end Keyline
