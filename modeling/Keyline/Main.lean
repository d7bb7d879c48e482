import Keyline.Checker
import Keyline.Server.Launch
import Keyline.Server.Wire
import Keyline.Settings.File

/-!
# The command line

One program with two names: the first argument says whether it is the checker or the language server. This layer only
reads and writes; everything that decides is in the other modules. The files of the disk are opened by their names, so
that here a path that is no text leads nowhere.
-/

open Keyline

/-- The text of a file on disk. -/
def readDisk (path : Path) : IO (Option Text) := do
  let some name := decode? path | return none
  try
    let bytes ← IO.FS.readBinFile (String.ofList name)
    return (String.fromUTF8? bytes).map String.toList
  catch _ => return none

/-- Whether a path leads to a regular file on disk. -/
def isDiskFile (path : Path) : IO Bool := do
  let some name := decode? path | return false
  try
    let metadata ← (← IO.FS.realPath (String.ofList name)).metadata
    return metadata.type == .file
  catch _ => return false

/-- Writes a file on disk, and says whether that worked. -/
def writeDisk (path : Path) (content : Text) : IO Bool := do
  let some name := decode? path | return false
  try
    IO.FS.writeFile (String.ofList name) (String.ofList content)
    return true
  catch _ => return false

/-- The files on disk. -/
def disk : FileAccess IO where
  readText := readDisk
  isFile := isDiskFile
  writeText := writeDisk

/-- Writes what a program leaves behind. -/
def finish (e : Exit) : IO UInt32 := do
  IO.print e.output
  if let some failure := e.failure then IO.eprintln ("Error: " ++ failure)
  return UInt32.ofNat e.status

/-- Reads the header of a message; none at the end of the input. -/
partial def readHeader (input : IO.FS.Stream) (length : Nat) : IO (Option Nat) := do
  let line ← input.getLine
  if line.isEmpty then return none
  else if (trim line.toList).isEmpty then return some length
  else readHeader input ((contentLength? line).getD length)

/-- Reads a number of bytes, or fewer at the end of the input. -/
partial def readBody (input : IO.FS.Stream) (length : Nat) (seen : ByteArray) : IO ByteArray := do
  if seen.size ≥ length then return seen
  let bytes ← input.read (USize.ofNat (length - seen.size))
  if bytes.isEmpty then return seen else readBody input length (seen ++ bytes)

/-- Serves messages until the server exits or the input ends. -/
partial def serveAll (input output : IO.FS.Stream) (server : Server) : IO Unit := do
  let some length ← readHeader input 0 | return
  let text := (String.fromUTF8? (← readBody input length .empty)).getD ""
  let (server, messages) := server.receive text
  for message in messages do
    output.putStr (framed message)
  output.flush
  if server.phase = .exited then return else serveAll input output server

/-- The number of the user who runs this program. -/
def currentUser : IO Text := do
  let status := (← readDisk (.ofString "/proc/self/status")).getD []
  return (status.splitOn '\n').findSome? (fun line =>
    match line.splitOn '\t' with
    | label :: user :: _ => if label = "Uid:".toList then some user else none
    | _ => none) |>.getD []

/-- The directories of the user who runs this program. -/
def currentEnvironment : IO Environment := do
  let accounts := (← readDisk (.ofString "/etc/passwd")).getD []
  return {
    configHome := (← IO.getEnv "XDG_CONFIG_HOME").map Path.ofString
    home := (← IO.getEnv "HOME").map Path.ofString
    accountHome := accountHome? accounts (← currentUser) }

/-- Runs the language server. -/
def runServer (args : List String) : IO UInt32 := do
  let configDir := (← currentEnvironment).configDir?
  let workdir := Path.ofString (← IO.currentDir).toString
  match ← Server.launch disk.toFileReader FileSettings.parse? configDir workdir args with
  | .ended e => finish e
  | .ready server =>
    serveAll (← IO.getStdin) (← IO.getStdout) server
    return 0

def main (args : List String) : IO UInt32 := do
  match args with
  | "aam-check" :: args => finish (← Checker.run disk args)
  | "aam-ls" :: args => runServer args
  | _ =>
    IO.eprintln "The first argument has to be aam-check or aam-ls."
    return 2
