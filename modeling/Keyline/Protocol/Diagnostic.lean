import Keyline.Document
import Keyline.Json.Basic
import Keyline.Uri.Parser

/-!
# Diagnostics

A diagnostic is a finding as an editor shows it. Editors send diagnostics back, also those of other programs; the fields
that are known here are kept, so that a diagnostic can be returned as it came.
-/

namespace Keyline

/-! ## Places -/

/-- A position as JSON. -/
def Position.toJson (p : Position) : Json := .obj [("line", .nat p.line), ("character", .nat p.character)]

/-- The position that a JSON value denotes. -/
def Position.ofJson? (j : Json) : Option Position := do
  let j ← j.record? ["line", "character"]
  some ⟨← j.required "line" Json.uint32?, ← j.required "character" Json.uint32?⟩

/-- A range as JSON. -/
def Range.toJson (r : Range) : Json := .obj [("start", r.start.toJson), ("end", r.stop.toJson)]

/-- The range that a JSON value denotes. -/
def Range.ofJson? (j : Json) : Option Range := do
  let j ← j.record? ["start", "end"]
  some ⟨← j.required "start" Position.ofJson?, ← j.required "end" Position.ofJson?⟩

/-- An address as JSON. -/
def Uri.toJson (u : Uri) : Json := .str u.render

/-- The address that a JSON value denotes. -/
def Uri.ofJson? (j : Json) : Option Uri := j.str?.bind Uri.parse?

/-! ## Diagnostics -/

/-- The code of a diagnostic, or a token: a number or a name. -/
inductive Label where
  | number (n : Int)
  | name (s : String)
deriving DecidableEq, Repr

/-- A label as JSON. -/
def Label.toJson : Label → Json
  | number n => .int n
  | name s => .str s

/-- The label that a JSON value denotes. -/
def Label.ofJson? : Json → Option Label
  | .str s => some (.name s)
  | j => j.int32?.map .number

/-- A place that has to do with a diagnostic, and a remark on it. -/
structure Related where
  uri : Uri
  range : Range
  message : String
deriving DecidableEq, Repr

/-- A finding as an editor shows it. -/
structure Diagnostic where
  range : Range
  severity : Option Int := none
  code : Option Label := none
  codeDescription : Option Uri := none
  source : Option String := none
  message : String
  related : Option (List Related) := none
  tags : Option (List Int) := none
  data : Option Json := none
deriving Repr

/-- A related place as JSON. -/
def Related.toJson (r : Related) : Json :=
  .obj [("location", .obj [("uri", r.uri.toJson), ("range", r.range.toJson)]), ("message", .str r.message)]

/-- The related place that a JSON value denotes. -/
def Related.ofJson? (j : Json) : Option Related := do
  let j ← j.record? ["location", "message"]
  let location ← j.required "location" (Json.record? ["uri", "range"])
  some ⟨← location.required "uri" Uri.ofJson?, ← location.required "range" Range.ofJson?,
    ← j.required "message" Json.str?⟩

/-- The link that explains a code. -/
def codeLink? (j : Json) : Option Uri := do (← j.record? ["href"]).required "href" Uri.ofJson?

namespace Diagnostic

/-- A diagnostic as JSON. -/
def toJson (d : Diagnostic) : Json :=
  .objOfSome [
    ("range", some d.range.toJson),
    ("severity", d.severity.map Json.int),
    ("code", d.code.map Label.toJson),
    ("codeDescription", d.codeDescription.map fun u => .obj [("href", u.toJson)]),
    ("source", d.source.map Json.str),
    ("message", some (.str d.message)),
    ("relatedInformation", d.related.map fun rs => .arr (rs.map Related.toJson)),
    ("tags", d.tags.map fun ts => .arr (ts.map Json.int)),
    ("data", d.data)]

/-- The diagnostic that a JSON value denotes. -/
def ofJson? (j : Json) : Option Diagnostic := do
  let j ← j.record? ["range", "severity", "code", "codeDescription", "source", "message", "relatedInformation", "tags",
    "data"]
  some {
    range := ← j.required "range" Range.ofJson?
    severity := ← j.optional "severity" Json.int32?
    code := ← j.optional "code" Label.ofJson?
    codeDescription := ← j.optional "codeDescription" codeLink?
    source := ← j.optional "source" Json.str?
    message := ← j.required "message" Json.str?
    related := ← j.optional "relatedInformation" (Json.list? Related.ofJson?)
    tags := ← j.optional "tags" (Json.list? Json.int32?)
    data := ← j.optional "data" some }

/-- The kind of finding that a diagnostic names, if its code is the name of one. -/
def kind? (d : Diagnostic) : Option Kind :=
  match d.code with
  | some (.name code) => Kind.ofCode? code
  | _ => none

end Diagnostic

end Keyline
