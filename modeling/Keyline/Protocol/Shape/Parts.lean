import Keyline.Protocol.Shape

/-!
# Parts of parameters

The shapes of what the parameters of several requests have in them: places, texts with markup, commands, and changes of
documents and files.
-/

namespace Keyline

namespace Shape

/-- A positional record. -/
def positional (fields : Fields) : Shape := record true fields

/-- A positional record of optional fields. -/
def options (fields : List (String × Shape)) : Shape := positional (.optionals fields)

/-- A token of a client. -/
def token : Shape := either int32 str

/-! ## Places -/

/-- A position in a document. -/
def position : Shape := positional (.required "line" uint32 (.required "character" uint32 .nil))

/-- A range of a document. -/
def range : Shape := positional (.required "start" position (.required "end" position .nil))

/-- The name of a document. -/
def document : Shape := positional (.required "uri" uri .nil)

/-- A range of a named document. -/
def location : Shape := positional (.required "uri" uri (.required "range" range .nil))

/-! ## Texts and commands -/

/-- The kinds of markup. -/
def markupKind : Shape := oneOf ["plaintext", "markdown"]

/-- A text, with or without markup. -/
def markup : Shape := either str (positional (.required "kind" markupKind (.required "value" str .nil)))

/-- A command of a client. -/
def command : Shape :=
  positional (.required "title" str (.required "command" str (.optional "arguments" (list any) .nil)))

/-- How text is laid out; clients may add settings of their own. -/
def layout : Shape :=
  openRecord
    (.required "tabSize" uint32 <| .required "insertSpaces" bool <|
      .flags ["trimTrailingWhitespace", "insertFinalNewline", "trimFinalNewlines"])
    (either bool (either int32 str))

/-! ## Changes -/

/-- A replacement of text. -/
def textEdit : Shape := positional (.required "range" range (.required "newText" str .nil))

/-- Replacements in a document of a version. -/
def documentEdit : Shape :=
  positional
    (.required "textDocument" (positional (.required "uri" uri (.optional "version" int32 .nil))) <|
      .required "edits" (list textEdit) .nil)

/-- How a file is made or renamed. -/
def fileOptions : Shape := positional (.flags ["overwrite", "ignoreIfExists"])

/-- A change of files: one is made, renamed or deleted. -/
def fileChange : Shape :=
  either
    (tagged "create" 0
      (.required "uri" uri <| .optional "options" fileOptions <| .optional "annotationId" str .nil))
    (either
      (tagged "rename" 1
        (.required "oldUri" uri <| .required "newUri" uri <| .optional "options" fileOptions <|
          .optional "annotationId" str .nil))
      (tagged "delete" 2
        (.required "uri" uri <| .optional "options"
          (options [("recursive", bool), ("ignoreIfNotExists", bool), ("annotationId", str)]) .nil)))

/-- A remark on changes. -/
def remark : Shape :=
  positional (.required "label" str <| .optional "needsConfirmation" bool <| .optional "description" str .nil)

/-- Changes of documents and files. -/
def workspaceEdit : Shape :=
  positional
    (.omissible "changes" (either null (map true (list textEdit))) <|
      .optional "documentChanges" (list (either fileChange documentEdit)) <|
      .optional "changeAnnotations" (map false remark) .nil)

/-! ## Diagnostics and actions -/

/-- A diagnostic. -/
def diagnostic : Shape :=
  positional
    (.required "range" range <| .optional "severity" int32 <| .optional "code" token <|
      .optional "codeDescription" (positional (.required "href" uri .nil)) <| .optional "source" str <|
      .required "message" str <|
      .optional "relatedInformation" (list (positional
        (.required "location" location (.required "message" str .nil)))) <|
      .optional "tags" (list int32) <| .optional "data" any .nil)

/-- An action on code. -/
def action : Shape :=
  positional
    (.required "title" str <| .optional "kind" str <| .optional "diagnostics" (list diagnostic) <|
      .optional "edit" workspaceEdit <| .optional "command" command <| .optional "isPreferred" bool <|
      .optional "disabled" (positional (.required "reason" str .nil)) <| .optional "data" any .nil)

/-! ## Completions, signatures, hints and symbols -/

/-- An entry of a list of completions. -/
def completionItem : Shape :=
  positional
    (.required "label" str <| .optionals [
      ("labelDetails", options [("detail", str), ("description", str)]),
      ("kind", int32), ("detail", str), ("documentation", markup), ("deprecated", bool), ("preselect", bool),
      ("sortText", str), ("filterText", str), ("insertText", str), ("insertTextFormat", int32),
      ("insertTextMode", int32),
      ("textEdit", either textEdit (positional
        (.required "newText" str <| .required "insert" range <| .required "replace" range .nil))),
      ("additionalTextEdits", list textEdit), ("command", command), ("commitCharacters", list str), ("data", any),
      ("tags", list int32)])

/-- A parameter of a signature, named or given by its place in the name of the signature. -/
def parameter : Shape :=
  positional (.required "label" (either str (pair uint32)) (.optional "documentation" markup .nil))

/-- A signature of something that can be called. -/
def signature : Shape :=
  positional
    (.required "label" str <| .optional "documentation" markup <| .optional "parameters" (list parameter) <|
      .optional "activeParameter" uint32 .nil)

/-- The signatures of something that is being called. -/
def signatures : Shape :=
  positional
    (.required "signatures" (list signature) <| .optional "activeSignature" uint32 <|
      .optional "activeParameter" uint32 .nil)

/-- A part of the label of a hint. -/
def hintPart : Shape :=
  positional
    (.required "value" str <| .optional "tooltip" markup <| .optional "location" location <|
      .optional "command" command .nil)

/-- A hint within a text. -/
def hint : Shape :=
  positional
    (.required "position" position <| .required "label" (either str (list hintPart)) <| .optional "kind" int32 <|
      .optional "textEdits" (list textEdit) <| .optional "tooltip" markup <| .optional "paddingLeft" bool <|
      .optional "paddingRight" bool <| .optional "data" any .nil)

/-- A symbol of a workspace. -/
def symbol : Shape :=
  positional
    (.required "name" str <| .required "kind" int32 <| .optional "tags" (list int32) <|
      .optional "containerName" str <| .required "location" (either location document) <| .optional "data" any .nil)

/-- An entry of a hierarchy; `tags` is the shape of its tags. -/
def hierarchyItem (tags : Shape) : Shape :=
  positional
    (.required "name" str <| .required "kind" int32 <| .optional "tags" tags <| .optional "detail" str <|
      .required "uri" uri <| .required "range" range <| .required "selectionRange" range <| .optional "data" any .nil)

/-- A list of files, each with the given addresses. -/
def files (addresses : Fields) : Shape := positional (.required "files" (list (positional addresses)) .nil)

end Shape

namespace Fields

/-- The field that names the token under which progress is reported. -/
def progress : Fields := optional "workDoneToken" .token nil

/-- The fields that name the tokens of a request. -/
def tokens : Fields := optional "workDoneToken" .token (optional "partialResultToken" .token nil)

/-- The field that names a document. -/
def atDocument : Fields := required "textDocument" .document nil

/-- The fields that name a place in a document. -/
def atPosition : Fields := required "textDocument" .document (required "position" .position nil)

/-- The fields that name a part of a document. -/
def atRange : Fields := required "textDocument" .document (required "range" .range nil)

/-- The field that holds an entry of a hierarchy. -/
def atItem (tags : Shape) : Fields := required "item" (.hierarchyItem tags) nil

end Fields

end Keyline
