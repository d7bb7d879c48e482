import Keyline.Protocol.Shape
import Keyline.Workspace

/-!
# Parameters and results

The messages about documents, between JSON and the events of the workspace.
-/

namespace Keyline

/-- The address in a record that names a document. -/
def documentUri? (j : Json) : Option Uri := do (← j.record? ["uri"]).required "uri" Uri.ofJson?

/-- The parameters of the message that a document was opened. -/
def Event.opened? (j : Json) : Option Event := do
  let j ← j.record? ["textDocument"]
  let item ← j.required "textDocument" (Json.record? ["uri", "languageId", "version", "text"])
  let uri ← item.required "uri" Uri.ofJson?
  let languageId ← item.required "languageId" Json.str?
  let version ← item.required "version" Json.int32?
  let text ← item.required "text" Json.str?
  some (.opened uri ⟨text.toList, languageId, version⟩)

/-- The text of a change; the place that it may name is checked and not used. -/
def changedText? (j : Json) : Option Text := do
  let j ← j.record? ["range", "rangeLength", "text"]
  let _ ← j.optional "range" Range.ofJson?
  let _ ← j.optional "rangeLength" Json.uint32?
  (← j.required "text" Json.str?).toList

/-- The parameters of the message that a document was changed. -/
def Event.changed? (j : Json) : Option Event := do
  let j ← j.record? ["textDocument", "contentChanges"]
  let item ← j.required "textDocument" (Json.record? ["uri", "version"])
  let uri ← item.required "uri" Uri.ofJson?
  let version ← item.required "version" Json.int32?
  some (.changed uri version (← j.required "contentChanges" (Json.list? changedText?)))

/-- The parameters of the message that a document was closed. -/
def Event.closed? (j : Json) : Option Event := do
  some (.closed (← (← j.record? ["textDocument"]).required "textDocument" documentUri?))

/-- The diagnostics for which quick fixes are asked. -/
def askedDiagnostics? (j : Json) : Option (List Diagnostic) := do
  let j ← j.record? ["diagnostics", "only", "triggerKind"]
  let _ ← j.optional "only" (Json.list? Json.str?)
  let _ ← j.optional "triggerKind" Json.int32?
  j.required "diagnostics" (Json.list? Diagnostic.ofJson?)

/-- The parameters of the request for quick fixes. -/
def Event.fixesAsked? (j : Json) : Option Event := do
  let j ← j.object?
  let uri ← j.required "textDocument" documentUri?
  let _ ← j.required "range" Range.ofJson?
  let diagnostics ← j.required "context" askedDiagnostics?
  let _ ← j.optional "workDoneToken" Label.ofJson?
  let _ ← j.optional "partialResultToken" Label.ofJson?
  some (.fixesAsked uri diagnostics)

/-- The parameters of a publication. -/
def Publication.toJson (p : Publication) : Json :=
  .objOfSome [
    ("uri", some p.uri.toJson),
    ("diagnostics", some (.arr (p.diagnostics.map Diagnostic.toJson))),
    ("version", p.version.map Json.int)]

/-- A quick fix as JSON. -/
def QuickFix.toJson (q : QuickFix) : Json :=
  let edit := Json.obj [("range", q.range.toJson), ("newText", .str (String.ofList q.newText))]
  .obj [
    ("title", .str q.title),
    ("kind", .str "quickfix"),
    ("diagnostics", .arr [q.diagnostic.toJson]),
    ("edit", .obj [("changes", .obj [(q.uri.render, .arr [edit])])]),
    ("isPreferred", .bool q.isPreferred)]

end Keyline
