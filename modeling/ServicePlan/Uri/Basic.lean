/-!
# Resource identifiers

An identifier names a resource by a scheme, an authority, a path, a query and a fragment.  All parts
but the path may be missing; an identifier without a scheme is relative and is completed by the one
of the place where it stands.

* `Uri`: identifiers with their parts.
* `Uri.text`: the text of an identifier.
-/

namespace ServicePlan

/-- The part of an identifier that names a host. -/
structure Authority where
  /-- What stands in front of the host, with an at sign between them. -/
  user : Option String
  /-- The name or the address of the host. -/
  host : String
  /-- The digits of the port behind a colon. -/
  port : Option String
  deriving DecidableEq, Repr

/-- An identifier of a resource, or one relative to another. -/
structure Uri where
  /-- What stands in front of the first colon. -/
  scheme : Option String
  /-- What follows two slashes. -/
  authority : Option Authority
  /-- The path. -/
  path : String
  /-- What follows a question mark. -/
  query : Option String
  /-- What follows a hash sign. -/
  fragment : Option String
  deriving DecidableEq, Repr

/-- The text of an authority. -/
def Authority.text (a : Authority) : String :=
  (a.user.map (· ++ "@")).getD "" ++ a.host ++ (a.port.map (":" ++ ·)).getD ""

namespace Uri

/-- The text of an identifier. -/
def text (u : Uri) : String :=
  (u.scheme.map (· ++ ":")).getD "" ++ (u.authority.map fun a => "//" ++ a.text).getD "" ++ u.path ++
    (u.query.map ("?" ++ ·)).getD "" ++ (u.fragment.map ("#" ++ ·)).getD ""

/-- An identifier without its fragment. -/
def withoutFragment (u : Uri) : Uri := { u with fragment := none }

/-! ## Characters -/

/-- Characters that stand for themselves everywhere. -/
def isUnreserved (c : Char) : Bool := c.isAlphanum || c == '-' || c == '.' || c == '_' || c == '~'

/-- Characters that may separate parts of a component. -/
def isSubDelimiter (c : Char) : Bool :=
  ['!', '$', '&', '\'', '(', ')', '*', '+', ',', ';', '='].contains c

/-- Whether a character may stand in a scheme. -/
def isSchemeChar (c : Char) : Bool := c.isAlphanum || c == '+' || c == '-' || c == '.'

/-- Whether a character may stand in the name of a host. -/
def isNameChar (c : Char) : Bool := isUnreserved c || isSubDelimiter c

/-- Whether a character may stand in front of a host. -/
def isUserChar (c : Char) : Bool := isNameChar c || c == ':'

/-- Whether a character may stand in the first segment of a relative path. -/
def isFirstSegmentChar (c : Char) : Bool := isNameChar c || c == '@'

/-- Whether a character may stand in a path. -/
def isPathChar (c : Char) : Bool := isNameChar c || c == '@' || c == ':' || c == '/'

/-- Whether a character may stand in a query or a fragment. -/
def isQueryChar (c : Char) : Bool := isPathChar c || c == '?'

end Uri

end ServicePlan
