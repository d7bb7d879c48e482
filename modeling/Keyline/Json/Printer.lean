import Keyline.Json.Basic
import Keyline.Text.Encoding

/-!
# Writing JSON

Two layouts: one without blanks, and one with an indented line for every item and field, in which an empty list or
object stays on one line. In a string, a quote and a backslash get a backslash, the control characters with a letter of
their own get that letter, and the other characters below U+0020 get four hexadecimal digits; all else stays.
-/

namespace Keyline.Json

/-- A character as it stands in a JSON string. -/
def escape (c : Char) : String :=
  if c = '"' then "\\\""
  else if c = '\\' then "\\\\"
  else if c = '\n' then "\\n"
  else if c = '\r' then "\\r"
  else if c = '\t' then "\\t"
  else if c = '\x08' then "\\b"
  else if c = '\x0c' then "\\f"
  else if c.toNat < 0x20 then "\\u00" ++ String.ofList [hexDigit (c.toNat / 16), hexDigit c.toNat]
  else c.toString

/-- A string in its quotes. -/
def quote (s : String) : String := "\"" ++ String.join (s.toList.map escape) ++ "\""

/-- Texts with a comma and a separating text between them. -/
def commaJoin (between : String) (texts : List String) : String := String.intercalate ("," ++ between) texts

/-- A value that holds no other values. -/
def leafText : Json → String
  | null => "null"
  | bool true => "true"
  | bool false => "false"
  | int n => toString n
  | decimal literal => literal
  | str s => quote s
  | arr _ => "[]"
  | obj _ => "\x7b\x7d"

mutual

/-- A value without blanks. -/
def compact : Json → String
  | arr items => "[" ++ commaJoin "" (compactItems items) ++ "]"
  | obj fields => "\x7b" ++ commaJoin "" (compactFields fields) ++ "\x7d"
  | j => leafText j

/-- The items of a list without blanks. -/
def compactItems : List Json → List String
  | [] => []
  | j :: js => compact j :: compactItems js

/-- The fields of an object without blanks. -/
def compactFields : List (String × Json) → List String
  | [] => []
  | (name, j) :: fs => (quote name ++ ":" ++ compact j) :: compactFields fs

end

/-- A line break and the blanks of an indentation. -/
def newline (depth : Nat) : String := "\n" ++ String.ofList (List.replicate (2 * depth) ' ')

/-- Texts between brackets, each on a line of its own. -/
def block (depth : Nat) (left : String) (texts : List String) (right : String) : String :=
  left ++ newline (depth + 1) ++ commaJoin (newline (depth + 1)) texts ++ newline depth ++ right

mutual

/-- A value with a line for every item and field, inside `depth` lists and objects. -/
def prettyAt (depth : Nat) : Json → String
  | arr [] => "[]"
  | arr items => block depth "[" (prettyItems (depth + 1) items) "]"
  | obj [] => "\x7b\x7d"
  | obj fields => block depth "\x7b" (prettyFields (depth + 1) fields) "\x7d"
  | j => leafText j

/-- The items of a list, one text each. -/
def prettyItems (depth : Nat) : List Json → List String
  | [] => []
  | j :: js => prettyAt depth j :: prettyItems depth js

/-- The fields of an object, one text each. -/
def prettyFields (depth : Nat) : List (String × Json) → List String
  | [] => []
  | (name, j) :: fs => (quote name ++ ": " ++ prettyAt depth j) :: prettyFields depth fs

end

/-- A value with a line for every item and field. -/
def pretty (j : Json) : String := prettyAt 0 j

end Keyline.Json
