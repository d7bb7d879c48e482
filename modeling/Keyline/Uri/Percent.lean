import Keyline.Text.Encoding

/-!
# Percent escapes

A character that may not stand in a part of an address is written as the bytes of its UTF-8 form, each as a percent sign
with two hexadecimal digits. Which ASCII characters are escaped depends on the part; other characters always are.
-/

namespace Keyline.Uri

/-- Control characters, which are escaped everywhere. -/
def isControl (c : Char) : Bool := c.toNat < 0x20 || c.toNat = 0x7F

/-- Characters that are escaped in a fragment. -/
def escapedInFragment (c : Char) : Bool := isControl c || [' ', '"', '<', '>', '\x60'].contains c

/-- Characters that are escaped in a path. -/
def escapedInPath (c : Char) : Bool := escapedInFragment c || ['#', '?', '\x7b', '\x7d'].contains c

/-- Characters that are escaped in a user name or password. -/
def escapedInUser (c : Char) : Bool :=
  escapedInPath c || ['/', ':', ';', '=', '@', '[', '\\', ']', '^', '|'].contains c

/-- Characters that are escaped in a query; an apostrophe is one of them if the scheme is special. -/
def escapedInQuery (special : Bool) (c : Char) : Bool :=
  isControl c || [' ', '"', '#', '<', '>'].contains c || (special && c = '\x27')

/-- A byte as an escape. -/
def escapeByte (b : UInt8) : Text := ['%', (hexDigit (b.toNat / 16)).toUpper, (hexDigit b.toNat).toUpper]

/-- A text with the given ASCII characters, and all others beyond ASCII, as escapes. -/
def escape (escaped : Char → Bool) (t : Text) : Text :=
  t.flatMap fun c => if c.toNat < 0x80 && !escaped c then [c] else (String.utf8EncodeChar c).flatMap escapeByte

/-- The bytes of a text in which escapes stand for bytes. A percent sign that starts no escape stands for itself. -/
def unescape : Text → Bytes
  | [] => []
  | '%' :: a :: b :: r =>
    match hexValue? a, hexValue? b with
    | some x, some y => UInt8.ofNat (16 * x + y) :: unescape r
    | _, _ => encode ['%'] ++ unescape (a :: b :: r)
  | c :: r => String.utf8EncodeChar c ++ unescape r

end Keyline.Uri
