import Keyline.Json.Parser
import Keyline.Json.Printer
import Keyline.Server

/-!
# Messages on the wire

Messages are JSON objects of the JSON-RPC protocol. Each is sent behind a header that says how many bytes it takes.
-/

namespace Keyline

/-- The identifier that a JSON value denotes. -/
def RequestId.ofJson? : Json → Option RequestId
  | .int n => some (.number n)
  | .str s => some (.name s)
  | .null => some .null
  | _ => none

/-- An identifier as JSON. -/
def RequestId.toJson : RequestId → Json
  | number n => .int n
  | name s => .str s
  | null => .null

/-- The message that a JSON value denotes. -/
def Message.ofJson? (j : Json) : Option Message := do
  let method ← j.required "method" Json.str?
  let id ← match j.get? "id" with
    | none => some none
    | some id => (RequestId.ofJson? id).map some
  some ⟨method, id, j.get? "params"⟩

/-- The version of the protocol, which every message names. -/
def protocolVersion : String × Json := ("jsonrpc", .str "2.0")

/-- A failure as JSON. -/
def failureJson (code : Int) (message : String) : Json := .obj [("code", .int code), ("message", .str message)]

/-- A response as JSON. -/
def Response.toJson (r : Response) : Json :=
  match r.outcome with
  | .ok result => .obj [protocolVersion, ("result", result), ("id", r.id.toJson)]
  | .error e => .obj [protocolVersion, ("error", failureJson e.code e.message), ("id", r.id.toJson)]

/-- A notification as JSON. -/
def Notification.toJson (n : Notification) : Json :=
  .obj [protocolVersion, ("method", .str n.method), ("params", n.params)]

/-- The messages that make up a reply, in the order in which they are sent. -/
def Reply.toJson : Reply → List Json
  | exited => []
  | handled sent response => sent.map Notification.toJson ++ (response.map Response.toJson).toList

/-- What the server sends back when it cannot read a message. -/
def unreadableJson : Json := .obj [protocolVersion, ("error", failureJson (-32700) "Parse error"), ("id", .null)]

/-- What the server sends back for JSON that is no message. -/
def misshapenJson : Json := .obj [protocolVersion, ("error", failureJson (-32600) "Invalid request"), ("id", .null)]

/-- Handles the text of a message. Responses of the client are ignored. -/
def Server.receive (s : Server) (text : String) : Server × List Json :=
  match Json.parse? text with
  | none => (s, [unreadableJson])
  | some j =>
    match Message.ofJson? j with
    | some m =>
      let (s, reply) := s.step m
      (s, reply.toJson)
    | none => (s, if (j.get? "result").isSome || (j.get? "error").isSome then [] else [misshapenJson])

/-- A message behind its header. -/
def framed (j : Json) : String :=
  let body := j.compact
  "Content-Length: " ++ toString body.utf8ByteSize ++ "\r\n\r\n" ++ body

/-- The number of bytes that a line of a header announces, if that is what it is about. -/
def contentLength? (line : String) : Option Nat :=
  let name := "content-length:".toList
  let cs := line.toList
  if (cs.take name.length).map Char.toLower = name then
    (String.ofList (trim (cs.drop name.length))).toNat?
  else none

end Keyline
