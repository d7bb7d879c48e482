import Keyline.Protocol.Method
import Keyline.Protocol.Params

/-!
# The language server

A server goes through four phases. Before it is initialized, it refuses requests and ignores notifications; while it
runs, it hands messages about documents to the workspace; after a shutdown it refuses requests again; and after an exit
it is gone. A notification that is sent as a request is refused, and a request without identifier is ignored.
-/

namespace Keyline

/-- The identifier of a request. -/
inductive RequestId where
  | number (n : Int)
  | name (s : String)
  | null
deriving DecidableEq, Repr

/-- A message from the client; one with an identifier asks for a response. -/
structure Message where
  method : String
  id : Option RequestId
  params : Option Json
deriving Repr

/-- Why a request is refused. -/
inductive Refusal where
  | methodNotFound
  | invalidParams
  | invalidRequest
  | notInitialized
deriving DecidableEq, Repr

namespace Refusal

/-- The code of a refusal. -/
def code : Refusal → Int
  | methodNotFound => -32601
  | invalidParams => -32602
  | invalidRequest => -32600
  | notInitialized => -32002

/-- The sentence of a refusal. -/
def message : Refusal → String
  | methodNotFound => "Method not found"
  | invalidParams => "Invalid params"
  | invalidRequest => "Invalid request"
  | notInitialized => "Server not initialized"

end Refusal

/-- The response to a request. -/
structure Response where
  id : RequestId
  outcome : Except Refusal Json

/-- A message to the client that asks for no response. -/
structure Notification where
  method : String
  params : Json

/-- What a server does with a message. -/
inductive Reply where
  /-- The server is gone. -/
  | exited
  | handled (sent : List Notification) (response : Option Response)

/-- The phases of a server. -/
inductive Phase where
  | uninitialized
  | running
  | shutDown
  | exited
deriving DecidableEq, Repr

/-- A language server. -/
structure Server where
  settings : Settings
  phase : Phase := .uninitialized
  documents : Documents := []

namespace Reply

/-- A message without consequences. -/
def silent : Reply := handled [] none

/-- Refuses a message if it is a request. -/
def refuse (m : Message) (r : Refusal) : Reply := handled [] (m.id.map fun id => ⟨id, .error r⟩)

/-- Responds to a request. -/
def respond (id : RequestId) (result : Json) : Reply := handled [] (some ⟨id, .ok result⟩)

/-- Tells the client something. -/
def notify (method : String) (params : Json) : Reply := handled [⟨method, params⟩] none

end Reply

namespace Server

/-- What the server tells about itself. -/
def description : Json :=
  .obj [
    ("capabilities", .obj [
      ("textDocumentSync", .int 1),
      ("codeActionProvider", .obj [("codeActionKinds", .strs ["quickfix"]), ("resolveProvider", .bool false)])]),
    ("serverInfo", .obj [("name", .str "aam-language-server"), ("version", .str "0.1.0")])]

/-- The greeting that the server logs at the client. -/
def greeting : Reply :=
  .notify "window/logMessage" (.obj [("type", .int 3), ("message", .str "aam-language-server initialized")])

/-- How a server that does not run treats a message: it refuses requests. -/
def unready (s : Server) (m : Message) : Reply :=
  .refuse m (if s.phase = .uninitialized then .notInitialized else .invalidRequest)

/-- Starts a server that is not initialized; a start with bad parameters is refused. -/
def start (s : Server) (m : Message) : Server × Reply :=
  if s.phase ≠ .uninitialized then (s, .refuse m .invalidRequest)
  else
    match m.id with
    | none => (s, .silent)
    | some id =>
      if m.params.any Shape.startParams.fits then ({ s with phase := .running }, .respond id description)
      else (s, .refuse m .invalidParams)

/-- Shuts a running server down. The request takes no parameters; one with parameters is refused, and works. -/
def shutDown (s : Server) (m : Message) : Server × Reply :=
  if s.phase ≠ .running then (s, s.unready m)
  else
    let s := { s with phase := .shutDown }
    match m.id with
    | none => (s, .silent)
    | some id => if m.params.isSome then (s, .refuse m .invalidParams) else (s, .respond id .null)

/-- Serves a notification with decoded parameters. -/
def notified (s : Server) (m : Message) (event : Option Event) : Server × Reply :=
  match m.id, event with
  | some _, _ => (s, .refuse m .invalidRequest)
  | none, none => (s, .silent)
  | none, some event =>
    match s.settings.handle s.documents event with
    | (documents, .published p) =>
      ({ s with documents }, .notify "textDocument/publishDiagnostics" p.toJson)
    | (documents, _) => ({ s with documents }, .silent)

/-- Serves a request for quick fixes with decoded parameters. -/
def asked (s : Server) (m : Message) (event : Option Event) : Server × Reply :=
  match m.id, event with
  | none, _ => (s, .silent)
  | some _, none => (s, .refuse m .invalidParams)
  | some id, some event =>
    match s.settings.handle s.documents event with
    | (documents, .answered (some fixes)) =>
      ({ s with documents }, .respond id (.arr (fixes.map QuickFix.toJson)))
    | (documents, _) => ({ s with documents }, .respond id .null)

/-- Greets the client once it is ready. -/
def greet (s : Server) (m : Message) : Server × Reply :=
  if m.id.isSome then (s, .refuse m .invalidRequest)
  else if (m.params.bind (Json.record? [])).isSome then (s, greeting)
  else (s, .silent)

/-- Refuses a request that is not served. -/
def refuseUnserved (m : Message) (shape : Shape) : Reply :=
  .refuse m (if m.params.any shape.fits then .methodNotFound else .invalidParams)

/-- Treats a message whose method is not known. Names that start with `$/` may be ignored by everyone. -/
def unknown (m : Message) : Reply :=
  if m.method.toList.take 2 = ['$', '/'] then .silent else .refuse m .methodNotFound

/-- Serves a message of a running server. -/
def serve (s : Server) (m : Message) : Method → Server × Reply
  | .clientReady => s.greet m
  | .didOpen => s.notified m (m.params.bind Event.opened?)
  | .didChange => s.notified m (m.params.bind Event.changed?)
  | .didClose => s.notified m (m.params.bind Event.closed?)
  | .codeAction => s.asked m (m.params.bind Event.fixesAsked?)
  | .unserved shape => (s, refuseUnserved m shape)
  | _ => (s, .refuse m .invalidRequest)

/-- Handles a message. -/
def step (s : Server) (m : Message) : Server × Reply :=
  if s.phase = .exited then (s, .exited)
  else
    match Method.ofName? m.method with
    | none => (s, unknown m)
    | some .exit => ({ s with phase := .exited }, .silent)
    | some .cancel => (s, .refuse m .invalidRequest)
    | some .start => s.start m
    | some .shutdown => s.shutDown m
    | some method => if s.phase = .running then s.serve m method else (s, s.unready m)

end Server

end Keyline
