import Keyline.Protocol.Shape.Capabilities

/-!
# Methods

The methods of the language server protocol: those that the server serves, the requests that it knows but refuses once
their parameters have the right shape, and the notifications that it ignores.
-/

namespace Keyline

/-- What a message is about. -/
inductive Method where
  | start
  | clientReady
  | shutdown
  | exit
  | cancel
  | didOpen
  | didChange
  | didClose
  | codeAction
  /-- A request that is not served; its parameters have to have the shape. -/
  | unserved (params : Shape)
  /-- A notification that has no effect. -/
  | ignored

namespace Method

/-- A request with the given fields. -/
def request (fields : Fields) : Method := .unserved (.record false fields)

/-- The requests for something about a document or a workspace that are not served. -/
def unservedRequests : List (String × Method) := [
  ("textDocument/willSaveWaitUntil",
    .unserved (.positional (.required "textDocument" .document (.required "reason" .int32 .nil)))),
  ("textDocument/declaration", request (.atPosition ++ .tokens)),
  ("textDocument/definition", request (.atPosition ++ .tokens)),
  ("textDocument/typeDefinition", request (.atPosition ++ .tokens)),
  ("textDocument/implementation", request (.atPosition ++ .tokens)),
  ("textDocument/references",
    request (.atPosition ++ .required "context" (.positional (.required "includeDeclaration" .bool .nil)) .tokens)),
  ("textDocument/prepareCallHierarchy", request (.atPosition ++ .progress)),
  ("callHierarchy/incomingCalls", request (.atItem (.list .int32) ++ .tokens)),
  ("callHierarchy/outgoingCalls", request (.atItem (.list .int32) ++ .tokens)),
  ("textDocument/prepareTypeHierarchy", request (.atPosition ++ .progress)),
  ("typeHierarchy/supertypes", request (.atItem .int32 ++ .tokens)),
  ("typeHierarchy/subtypes", request (.atItem .int32 ++ .tokens)),
  ("textDocument/documentHighlight", request (.atPosition ++ .tokens)),
  ("textDocument/documentLink", request (.atDocument ++ .tokens)),
  ("documentLink/resolve",
    .unserved (.positional
      (.required "range" .range <| .optionals [("target", .uri), ("tooltip", .str), ("data", .any)]))),
  ("textDocument/hover", request (.atPosition ++ .progress)),
  ("textDocument/codeLens", request (.atDocument ++ .tokens)),
  ("codeLens/resolve",
    .unserved (.positional (.required "range" .range <| .optionals [("command", .command), ("data", .any)]))),
  ("textDocument/foldingRange", request (.atDocument ++ .tokens)),
  ("textDocument/selectionRange", request (.atDocument ++ .required "positions" (.list .position) .tokens)),
  ("textDocument/documentSymbol", request (.atDocument ++ .tokens)),
  ("textDocument/semanticTokens/full", request (.atDocument ++ .tokens)),
  ("textDocument/semanticTokens/full/delta", request (.atDocument ++ .required "previousResultId" .str .tokens)),
  ("textDocument/semanticTokens/range", request (.atRange ++ .tokens)),
  ("textDocument/inlineValue",
    request (.atRange ++
      .required "context" (.positional (.required "frameId" .int32 (.required "stoppedLocation" .range .nil)))
        .progress)),
  ("textDocument/inlayHint", request (.atRange ++ .progress)),
  ("inlayHint/resolve", .unserved .hint),
  ("textDocument/moniker", request (.atPosition ++ .tokens)),
  ("textDocument/completion",
    request (.atPosition ++
      .optional "context" (.positional (.required "triggerKind" .int32 (.optional "triggerCharacter" .str .nil)))
        .tokens)),
  ("completionItem/resolve", .unserved .completionItem),
  ("textDocument/diagnostic",
    request (.atDocument ++ .optional "identifier" .str (.optional "previousResultId" .str .tokens))),
  ("workspace/diagnostic",
    request (.optional "identifier" .str <|
      .required "previousResultIds" (.list (.positional (.required "uri" .uri (.required "value" .str .nil))))
        .tokens)),
  ("textDocument/signatureHelp",
    request (.atPosition ++
      .optional "context" (.positional
        (.required "triggerKind" .int32 <| .optional "triggerCharacter" .str <| .required "isRetrigger" .bool <|
          .optional "activeSignatureHelp" .signatures .nil)) .progress)),
  ("codeAction/resolve", .unserved .action),
  ("textDocument/documentColor", request (.atDocument ++ .tokens)),
  ("textDocument/colorPresentation",
    request (.atRange ++
      .required "color" (.positional
        (.required "red" .number <| .required "green" .number <| .required "blue" .number <|
          .required "alpha" .number .nil)) .tokens)),
  ("textDocument/formatting", request (.atDocument ++ .required "options" .layout .progress)),
  ("textDocument/rangeFormatting", request (.atRange ++ .required "options" .layout .progress)),
  ("textDocument/onTypeFormatting",
    request (.atPosition ++ .required "ch" .str (.required "options" .layout .nil))),
  ("textDocument/rename", request (.atPosition ++ .required "newName" .str .progress)),
  ("textDocument/prepareRename", .unserved (.positional .atPosition)),
  ("textDocument/linkedEditingRange", request (.atPosition ++ .progress)),
  ("workspace/symbol", request (.required "query" .str .tokens)),
  ("workspaceSymbol/resolve", .unserved .symbol),
  ("workspace/willCreateFiles", .unserved (.files (.required "uri" .str .nil))),
  ("workspace/willRenameFiles", .unserved (.files (.required "oldUri" .str (.required "newUri" .str .nil)))),
  ("workspace/willDeleteFiles", .unserved (.files (.required "uri" .str .nil))),
  ("workspace/executeCommand",
    request (.required "command" .str <| .omissible "arguments" (.list .any) .progress))]

/-- The notifications that have no effect. -/
def ignoredNotifications : List String := [
  "textDocument/willSave", "textDocument/didSave", "workspace/didChangeConfiguration",
  "workspace/didChangeWorkspaceFolders", "workspace/didCreateFiles", "workspace/didRenameFiles",
  "workspace/didDeleteFiles", "workspace/didChangeWatchedFiles"]

/-- The methods that are served. -/
def served : List (String × Method) := [
  ("initialize", .start), ("initialized", .clientReady), ("shutdown", .shutdown), ("exit", .exit),
  ("$/cancelRequest", .cancel), ("textDocument/didOpen", .didOpen), ("textDocument/didChange", .didChange),
  ("textDocument/didClose", .didClose), ("textDocument/codeAction", .codeAction)]

/-- The method with a given name. -/
def ofName? (name : String) : Option Method :=
  (served.lookup name).or <| (unservedRequests.lookup name).or <|
    if ignoredNotifications.contains name then some .ignored else none

end Method

end Keyline
