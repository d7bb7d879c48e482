import Keyline.Uri.Percent

/-!
# Addresses

An address names a document: a scheme, possibly an authority, a path, and possibly a query and a fragment, all in their
normal form. The path of an address without host names a file; its escapes stand for bytes.
-/

namespace Keyline

/-- The part of an address that says on which host the document is. -/
structure Authority where
  /-- User name and password with the colon between them; empty if there are none. -/
  user : String
  /-- The host; empty if there is none. -/
  host : String
  port : Option Nat
deriving DecidableEq, Repr

/-- The address of a document, in normal form. -/
structure Uri where
  scheme : String
  authority : Option Authority
  path : String
  query : Option String
  fragment : Option String
deriving DecidableEq, Repr

/-- An authority as it is written. -/
def Authority.render (a : Authority) : String :=
  (if a.user.isEmpty then "" else a.user ++ "@") ++ a.host ++
    match a.port with
    | some port => ":" ++ toString port
    | none => ""

namespace Uri

/-- What stands between the scheme and the path. Without an authority, a path with an empty first name is marked. -/
def lead (u : Uri) : String :=
  match u.authority with
  | some a => "//" ++ a.render
  | none => if u.path.toList.take 2 = ['/', '/'] then "/." else ""

/-- An address as it is written. -/
def render (u : Uri) : String :=
  let query := match u.query with
    | some q => "?" ++ q
    | none => ""
  let fragment := match u.fragment with
    | some f => "#" ++ f
    | none => ""
  u.scheme ++ ":" ++ u.lead ++ u.path ++ query ++ fragment

/-- Whether an address names no host, or this one. -/
def isLocal (u : Uri) : Bool :=
  match u.authority with
  | none => true
  | some a => a.host.isEmpty || a.host = "localhost"

/-- The path of the document: the file path of a local address, else the path as it is written. -/
def filePath (u : Uri) : Bytes :=
  let path := u.path.toList
  if u.isLocal && path.head? == some '/' then unescape path else encode path

end Uri

end Keyline
