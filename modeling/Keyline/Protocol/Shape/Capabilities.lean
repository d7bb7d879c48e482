import Keyline.Protocol.Shape.Parts

/-!
# Capabilities of clients

A client that starts the server says what it can do, in groups: for workspaces, for documents, for windows and in
general. All of it is optional, except that some groups have fields that have to be there once the group is.
-/

namespace Keyline.Shape

/-- A record of optional truth values. -/
def switches (names : List String) : Shape := positional (.flags names)

/-- A capability of which a client only says whether it can be registered later on. -/
def registration : Shape := switches ["dynamicRegistration"]

/-- A capability of which a client only says whether it can be asked to start anew. -/
def refresh : Shape := switches ["refreshSupport"]

/-- A capability to go somewhere, for which a client says whether it knows links. -/
def linked : Shape := switches ["dynamicRegistration", "linkSupport"]

/-- A capability that can be registered later on and has more fields. -/
def registered (fields : Fields) : Shape := positional (.optional "dynamicRegistration" .bool fields)

/-- A record of the one field `valueSet`. -/
def values (item : Shape) : Shape := positional (.required "valueSet" (.list item) .nil)

/-- A record of the one field `valueSet`, which may be absent. -/
def someValues (item : Shape) : Shape := options [("valueSet", .list item)]

/-- The properties that can be asked for later. -/
def resolvable : Shape := positional (.required "properties" (.list .str) .nil)

/-- The tags that a client knows: a list, or only whether it knows tags. -/
def tagSupport : Shape := either null (either bool (values int32))

/-! ## Workspaces -/

/-- What a client can do with changes of documents and files. -/
def editCapability : Shape :=
  options [
    ("documentChanges", bool), ("resourceOperations", list (oneOf ["create", "rename", "delete"])),
    ("failureHandling", oneOf ["abort", "transactional", "textOnlyTransactional", "undo"]),
    ("normalizesLineEndings", bool), ("changeAnnotationSupport", switches ["groupsOnLabel"])]

/-- What a client can do with symbols of workspaces. -/
def symbolCapability : Shape :=
  registered <| .optional "symbolKind" (someValues int32) <| .omissible "tagSupport" tagSupport <|
    .optional "resolveSupport" resolvable .nil

/-- What a client can do with workspaces. -/
def workspaceCapabilities : Shape :=
  options [
    ("applyEdit", bool), ("workspaceEdit", editCapability), ("didChangeConfiguration", registration),
    ("didChangeWatchedFiles", switches ["dynamicRegistration", "relativePatternSupport"]),
    ("symbol", symbolCapability), ("executeCommand", registration), ("workspaceFolders", bool),
    ("configuration", bool), ("semanticTokens", refresh), ("codeLens", refresh),
    ("fileOperations", switches
      ["dynamicRegistration", "didCreate", "willCreate", "didRename", "willRename", "didDelete", "willDelete"]),
    ("inlineValue", refresh), ("inlayHint", refresh), ("diagnostic", refresh)]

/-! ## Documents -/

/-- What a client can do with entries of lists of completions. -/
def completionItemCapability : Shape :=
  positional
    (.optionals [
      ("snippetSupport", bool), ("commitCharactersSupport", bool), ("documentationFormat", list markupKind),
      ("deprecatedSupport", bool), ("preselectSupport", bool)] ++
    (.omissible "tagSupport" tagSupport <| .optionals [
      ("insertReplaceSupport", bool), ("resolveSupport", resolvable), ("insertTextModeSupport", values int32),
      ("labelDetailsSupport", bool)]))

/-- What a client can do with completions. -/
def completionCapability : Shape :=
  registered <| .optionals [
    ("completionItem", completionItemCapability), ("completionItemKind", someValues int32), ("contextSupport", bool),
    ("insertTextMode", int32), ("completionList", options [("itemDefaults", list str)])]

/-- What a client can do with signatures. -/
def signatureCapability : Shape :=
  registered <| .optionals [
    ("signatureInformation", options [
      ("documentationFormat", list markupKind), ("parameterInformation", switches ["labelOffsetSupport"]),
      ("activeParameterSupport", bool)]),
    ("contextSupport", bool)]

/-- What a client can do with symbols of documents. -/
def documentSymbolCapability : Shape :=
  registered <| .optional "symbolKind" (someValues int32) <| .optional "hierarchicalDocumentSymbolSupport" bool <|
    .omissible "tagSupport" tagSupport .nil

/-- What a client can do with actions on code. -/
def actionCapability : Shape :=
  registered <| .optionals [
    ("codeActionLiteralSupport", positional (.required "codeActionKind" (values str) .nil)),
    ("isPreferredSupport", bool), ("disabledSupport", bool), ("dataSupport", bool), ("resolveSupport", resolvable),
    ("honorsChangeAnnotations", bool)]

/-- What a client can do with published diagnostics. -/
def publishCapability : Shape :=
  positional
    (.optional "relatedInformation" bool <| .omissible "tagSupport" tagSupport <|
      .flags ["versionSupport", "codeDescriptionSupport", "dataSupport"])

/-- What a client can do with ranges that fold. -/
def foldingCapability : Shape :=
  registered <| .optionals [
    ("rangeLimit", uint32), ("lineFoldingOnly", bool),
    ("foldingRangeKind", someValues (oneOf ["comment", "imports", "region"])),
    ("foldingRange", switches ["collapsedText"])]

/-- What a client can do with tokens. -/
def tokensCapability : Shape :=
  registered <|
    .required "requests" (options [
      ("range", bool), ("full", either bool (record false (.flags ["delta"])))]) <|
    .required "tokenTypes" (list str) <| .required "tokenModifiers" (list str) <| .required "formats" (list str) <|
    .flags ["overlappingTokenSupport", "multilineTokenSupport", "serverCancelSupport", "augmentsSyntaxTokens"]

/-- What a client can do with documents. -/
def documentCapabilities : Shape :=
  options [
    ("synchronization", switches ["dynamicRegistration", "willSave", "willSaveWaitUntil", "didSave"]),
    ("completion", completionCapability), ("hover", registered (.optionals [("contentFormat", list markupKind)])),
    ("signatureHelp", signatureCapability), ("references", registration), ("documentHighlight", registration),
    ("documentSymbol", documentSymbolCapability), ("formatting", registration), ("rangeFormatting", registration),
    ("onTypeFormatting", registration), ("declaration", linked), ("definition", linked), ("typeDefinition", linked),
    ("implementation", linked), ("codeAction", actionCapability), ("codeLens", registration),
    ("documentLink", switches ["dynamicRegistration", "tooltipSupport"]), ("colorProvider", registration),
    ("rename", registered (.optionals [
      ("prepareSupport", bool), ("prepareSupportDefaultBehavior", int32), ("honorsChangeAnnotations", bool)])),
    ("publishDiagnostics", publishCapability), ("foldingRange", foldingCapability), ("selectionRange", registration),
    ("linkedEditingRange", registration), ("callHierarchy", registration), ("semanticTokens", tokensCapability),
    ("moniker", registration), ("typeHierarchy", registration), ("inlineValue", registration),
    ("inlayHint", registered (.optionals [("resolveSupport", resolvable)])),
    ("diagnostic", switches ["dynamicRegistration", "relatedDocumentSupport"])]

/-! ## Windows and the rest -/

/-- What a client can do with windows. -/
def windowCapabilities : Shape :=
  options [
    ("workDoneProgress", bool),
    ("showMessage", options [("messageActionItem", switches ["additionalPropertiesSupport"])]),
    ("showDocument", positional (.required "support" bool .nil))]

/-- What a client can do in general. -/
def generalCapabilities : Shape :=
  options [
    ("regularExpressions", positional (.required "engine" str (.optional "version" str .nil))),
    ("markdown", positional (.required "parser" str (.optionals [("version", str), ("allowedTags", list str)]))),
    ("staleRequestSupport", positional (.required "cancel" bool (.required "retryOnContentModified" (list str) .nil))),
    ("positionEncodings", list str)]

/-- What a client can do. -/
def capabilities : Shape :=
  options [
    ("workspace", workspaceCapabilities), ("textDocument", documentCapabilities), ("window", windowCapabilities),
    ("general", generalCapabilities), ("experimental", any)]

/-- The parameters with which a client starts the server. -/
def startParams : Shape :=
  positional
    (.optionals [("processId", uint32), ("rootPath", str), ("rootUri", uri), ("initializationOptions", any)] ++
    (.required "capabilities" capabilities <| .optionals [
      ("trace", oneOf ["off", "messages", "verbose"]),
      ("workspaceFolders", list (positional (.required "uri" uri (.required "name" str .nil)))),
      ("clientInfo", positional (.required "name" str (.optional "version" str .nil))), ("locale", str)]))

end Keyline.Shape
