import Keyline.Edit
import Keyline.Protocol.Diagnostic
import Keyline.Settings
import Keyline.Workspace.Documents

/-!
# The workspace

What a language server does with the documents that an editor has open. Opening or changing a document stores it and
publishes the findings of what is then stored as diagnostics; closing it forgets it and publishes that there are none. A
change carries the whole text, so the last of several counts, and a document that is changed without having been opened
has an empty language identifier. Documents outside the record grammar are stored as well, and published without
diagnostics.

An editor can ask for quick fixes of diagnostics. A diagnostic gets one if the document has a finding of that kind with
that range now, and the finding has a repair.

Main statement: what was stored is found and published (`Settings.store_eq`).
-/

namespace Keyline

/-- The name of this program in its diagnostics. -/
def diagnosticSource : String := "aam-ls"

/-- Whether a document belongs to the record grammar. -/
def Settings.acceptsDocument (s : Settings) (uri : Uri) (d : Document) : Bool := s.accepts d.languageId uri.filePath

/-- A finding as a diagnostic. -/
def Document.diagnostic (d : Document) (severity : Severity) (f : Finding) : Diagnostic where
  range := d.range f.span
  severity := some severity.number
  code := some (.name f.kind.code)
  source := some diagnosticSource
  message := f.message

/-- The diagnostics of a document. -/
def Settings.diagnostics (s : Settings) (uri : Uri) (d : Document) : List Diagnostic :=
  if s.acceptsDocument uri d then (validate d.content).map (d.diagnostic s.severity) else []

/-- A list of diagnostics that replaces what an editor shows for a document. -/
structure Publication where
  uri : Uri
  diagnostics : List Diagnostic
  version : Option Int
deriving Repr

/-- The publication for a stored document. -/
def Settings.publication (s : Settings) (uri : Uri) (d : Document) : Publication :=
  ⟨uri, s.diagnostics uri d, some d.version⟩

/-- A repair that an editor offers for a diagnostic. -/
structure QuickFix where
  title : String
  diagnostic : Diagnostic
  /-- The document that the repair edits. -/
  uri : Uri
  range : Range
  newText : Text
  /-- Whether the editor may take the repair without asking. -/
  isPreferred : Bool
deriving Repr

/-- The text that decides the repair of a finding. -/
def Document.context? (d : Document) (f : Finding) : Option Text :=
  match f.kind with
  | .missingEqual => d.line? f.line
  | _ => d.spanText? f.span

/-- The findings of a document, each with the range under which an editor shows it. -/
def Document.located (d : Document) : List (Finding × Range) := (validate d.content).map fun f => (f, d.range f.span)

/-- The quick fix of a diagnostic, given the address and the located findings of the document. -/
def Document.quickFix? (d : Document) (uri : Uri) (located : List (Finding × Range)) (diagnostic : Diagnostic) :
    Option QuickFix := do
  let kind ← diagnostic.kind?
  let title ← kind.repairTitle?
  let (finding, _) ← located.find? fun (f, range) => f.kind = kind ∧ range = diagnostic.range
  let edit ← finding.fix? (← d.context? finding)
  some {
    title
    diagnostic
    uri
    range := d.range edit.span
    newText := edit.newText
    isPreferred := kind ≠ .missingEqual }

/-- The quick fixes of a document for the given diagnostics; none if there is not a single one. -/
def Settings.quickFixes? (s : Settings) (ds : Documents) (uri : Uri) (diagnostics : List Diagnostic) :
    Option (List QuickFix) := do
  let d ← ds.get? uri
  if s.acceptsDocument uri d then
    match diagnostics.filterMap (d.quickFix? uri d.located) with
    | [] => none
    | fixes => some fixes
  else none

/-- What an editor tells or asks about a document. -/
inductive Event where
  | opened (uri : Uri) (document : Document)
  | changed (uri : Uri) (version : Int) (contents : List Text)
  | closed (uri : Uri)
  | fixesAsked (uri : Uri) (diagnostics : List Diagnostic)

/-- What follows from an event. -/
inductive Effect where
  | nothing
  | published (publication : Publication)
  | answered (fixes : Option (List QuickFix))

/-- Publishes the diagnostics of the document that is stored under an address, if one is. -/
def Settings.publish (s : Settings) (ds : Documents) (uri : Uri) : Effect :=
  match ds.get? uri with
  | none => .nothing
  | some d => .published (s.publication uri d)

/-- Stores a document and publishes what is stored then. -/
def Settings.store (s : Settings) (ds : Documents) (uri : Uri) (d : Document) : Documents × Effect :=
  let ds := ds.insert uri d
  (ds, s.publish ds uri)

/-- Handles an event. -/
def Settings.handle (s : Settings) (ds : Documents) : Event → Documents × Effect
  | .opened uri d => s.store ds uri d
  | .changed uri version contents =>
    match contents.getLast? with
    | none => (ds, .nothing)
    | some content => s.store ds uri ⟨content, ((ds.get? uri).map Document.languageId).getD "", version⟩
  | .closed uri => (ds.erase uri, .published ⟨uri, [], none⟩)
  | .fixesAsked uri diagnostics => (ds, .answered (s.quickFixes? ds uri diagnostics))

/-- What was stored is there to be published, so that storing never falls silent. -/
theorem Settings.store_eq (s : Settings) (ds : Documents) (uri : Uri) (d : Document) :
    s.store ds uri d = (ds.insert uri d, .published (s.publication uri d)) := by
  simp only [Settings.store, Settings.publish, Documents.get?_insert, if_true]

end Keyline
