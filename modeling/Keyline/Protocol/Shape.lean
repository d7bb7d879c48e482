import Keyline.Json.Basic
import Keyline.Uri.Parser

/-!
# Shapes of JSON values

The parameters of the requests that a server knows but does not serve are only checked for their shape. A record is an
object with named fields; a positional one may also be written as the list of its fields in order. Fields without a
meaning are ignored.
-/

namespace Keyline

mutual

/-- A set of JSON values. -/
inductive Shape where
  | any
  | null
  | bool
  | str
  | int32
  | uint32
  | number
  | uri
  /-- One of some names, alone or as the only field of an object with null in it. -/
  | oneOf (names : List String)
  | list (item : Shape)
  /-- A list of two. -/
  | pair (item : Shape)
  /-- An object with values of one shape; its names are addresses if `uris` holds. -/
  | map (uris : Bool) (value : Shape)
  | either (left right : Shape)
  | record (positional : Bool) (fields : Fields)
  /-- An object whose further fields all have a shape. -/
  | openRecord (fields : Fields) (other : Shape)
  /-- A positional record in front of whose fields the field `kind` says which of several it is, by name or index. -/
  | tagged (name : String) (index : Nat) (fields : Fields)

/-- The fields of a record. -/
inductive Fields where
  | nil
  | required (name : String) (shape : Shape) (rest : Fields)
  /-- A field that may be null, and may be absent from an object. -/
  | optional (name : String) (shape : Shape) (rest : Fields)
  /-- A field that may be absent from an object and from the end of a list. -/
  | omissible (name : String) (shape : Shape) (rest : Fields)

end

namespace Fields

/-- The names of the fields. -/
def names : Fields → List String
  | nil => []
  | required name _ rest => name :: rest.names
  | optional name _ rest => name :: rest.names
  | omissible name _ rest => name :: rest.names

/-- The fields of a list of fields after others. -/
def append : Fields → Fields → Fields
  | nil, other => other
  | required name shape rest, other => required name shape (rest.append other)
  | optional name shape rest, other => optional name shape (rest.append other)
  | omissible name shape rest, other => omissible name shape (rest.append other)

instance : Append Fields := ⟨append⟩

/-- Optional fields with names and shapes. -/
def optionals (fields : List (String × Shape)) : Fields := fields.foldr (fun f rest => optional f.1 f.2 rest) nil

/-- Optional fields that are truth values. -/
def flags (names : List String) : Fields := optionals (names.map fun name => (name, .bool))

end Fields

/-- Whether a value tells a tagged record by its name or index. -/
def isTag (name : String) (index : Nat) : Json → Bool
  | .str s => s = name
  | .int n => n = index
  | _ => false

mutual

/-- Whether a value has a shape. -/
def Shape.fits : Shape → Json → Bool
  | .any, _ => true
  | .null, .null => true
  | .bool, j => j.bool?.isSome
  | .str, j => j.str?.isSome
  | .int32, j => j.int32?.isSome
  | .uint32, j => j.uint32?.isSome
  | .number, .int _ => true
  | .number, .decimal _ => true
  | .uri, j => (j.str?.bind Uri.parse?).isSome
  | .oneOf names, .str s => names.contains s
  | .oneOf names, .obj [(name, .null)] => names.contains name
  | .list item, .arr items => items.all item.fits
  | .pair item, .arr [a, b] => item.fits a && item.fits b
  | .map uris value, .obj fields => fields.all fun (name, j) => (!uris || (Uri.parse? name).isSome) && value.fits j
  | .either left right, j => left.fits j || right.fits j
  | .record _ fields, .obj js => fields.fit (.obj js)
  | .record positional fields, .arr items => positional && fields.fitItems items
  | .openRecord fields other, .obj js =>
    fields.fit (.obj js) && js.all fun (name, j) => fields.names.contains name || other.fits j
  | .tagged name index fields, .obj js =>
    ((Json.obj js).get? "kind").any (isTag name index) && fields.fit (.obj js)
  | .tagged name index fields, .arr (tag :: items) => isTag name index tag && fields.fitItems items
  | _, _ => false

/-- Whether an object has the fields that are required, and all its fields have their shapes. -/
def Fields.fit : Fields → Json → Bool
  | .nil, _ => true
  | .required name shape rest, j => (j.get? name).any shape.fits && rest.fit j
  | .optional name shape rest, j =>
    (match j.get? name with
      | none => true
      | some .null => true
      | some value => shape.fits value) && rest.fit j
  | .omissible name shape rest, j => (j.get? name).all shape.fits && rest.fit j

/-- Whether the items of a list are the fields of a record in order. -/
def Fields.fitItems : Fields → List Json → Bool
  | .nil, items => items.isEmpty
  | .required _ shape rest, j :: items => shape.fits j && rest.fitItems items
  | .optional _ _ rest, .null :: items => rest.fitItems items
  | .optional _ shape rest, j :: items => shape.fits j && rest.fitItems items
  | .omissible _ shape rest, j :: items => shape.fits j && rest.fitItems items
  | .omissible _ _ rest, [] => rest.fitItems []
  | _, [] => false

end

end Keyline
