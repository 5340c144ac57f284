import ServicePlan.Path
import ServicePlan.Uri.Reader

/-!
# Completing identifiers

A relative identifier is completed by the identifier of the place where it stands, its base: what it
leaves out is taken from there.  Identifiers that name the same resource are brought to the same
form.

* `Uri.complete?`: a relative identifier as seen from a base.
* `Uri.normal`: the usual form of an identifier.
-/

namespace ServicePlan.Uri

/-! ## Steps inside paths -/

/-- The segments of a path after steps upwards have been made; `done` holds the segments so far,
in reverse order. -/
def removeDots : List String → List String → List String
  | done, [] => done.reverse
  | done, ["."] => ("" :: done).reverse
  | done, [".."] => ("" :: done.drop 1).reverse
  | done, "." :: rest => removeDots done rest
  | done, ".." :: rest => removeDots (done.drop 1) rest
  | done, s :: rest => removeDots (s :: done) rest

/-- The segments between the slashes of a path. -/
def segments (path : String) : List String := (Path.splitFrom [] [] path.toList).reverse

/-- A path without steps that stay or lead upwards. -/
def straight (path : String) : String :=
  match segments path with
  | "" :: rest => if rest.isEmpty then "" else "/" ++ "/".intercalate (removeDots [] rest)
  | parts => "/".intercalate (removeDots [] parts)

/-! ## Bases -/

/-- Whether only a fragment can be seen from a base: it has no authority, and its path starts with
no slash. -/
def isOpaque (base : Uri) : Bool := base.authority.isNone && base.path.toList.head? != some '/'

/-- A path as seen from a base. -/
def mergePath (base : Uri) (path : String) : String :=
  if base.authority.isSome && base.path == "" then "/" ++ path
  else "/".intercalate ((segments base.path).dropLast ++ [path])

/-- An identifier as seen from a base, unless the base is opaque and more than its fragment is
replaced. -/
def complete? (base u : Uri) : Option Uri :=
  if u.scheme.isSome then some { u with path := straight u.path }
  else if base.isOpaque && !(u.authority.isNone && u.path == "" && u.query.isNone) then none
  else if u.authority.isSome then some { u with scheme := base.scheme, path := straight u.path }
  else if u.path = "" then
    some { base with query := u.query.or base.query, fragment := u.fragment }
  else
    let path := if u.path.toList.head? = some '/' then u.path else mergePath base u.path
    some { base with path := straight path, query := u.query, fragment := u.fragment }

/-! ## The usual form -/

/-- A character in lower case, of ASCII letters. -/
def lowerText (text : String) : String := String.ofList (text.toList.map Char.toLower)

/-- A text whose percent escapes are written in capital letters, and only where they are
needed. -/
def normalEscapes : List Char → List Char
  | '%' :: a :: b :: rest =>
    match (Text.hexNumber? [a, b]).map Char.ofNat with
    | some c =>
      if isUnreserved c then c :: normalEscapes rest
      else '%' :: a.toUpper :: b.toUpper :: normalEscapes rest
    | none => '%' :: normalEscapes (a :: b :: rest)
  | c :: rest => c :: normalEscapes rest
  | [] => []

/-- The usual form of a component. -/
def normalText (text : String) : String := String.ofList (normalEscapes text.toList)

/-- The usual form of the name of a host: letters in lower case. -/
def lowerName : List Char → List Char
  | '%' :: a :: b :: rest => '%' :: a :: b :: lowerName rest
  | c :: rest => c.toLower :: lowerName rest
  | [] => []

/-- The ports that schemes use unless another one is given. -/
def usualPorts : List (String × String) :=
  [("ftp", "21"), ("http", "80"), ("https", "443"), ("ws", "80"), ("wss", "443")]

/-- The usual form of an authority. -/
def normalAuthority (scheme : Option String) (a : Authority) : Authority where
  user := a.user.map normalText
  host := String.ofList (lowerName (normalEscapes a.host.toList))
  port := a.port.filter fun port =>
    port != "" && (scheme.bind fun s => usualPorts.lookup s) != some port

/-- The usual form of an identifier. -/
def normal (u : Uri) : Uri :=
  let scheme := u.scheme.map lowerText
  { scheme
    authority := u.authority.map (normalAuthority scheme)
    path := if scheme.isSome then straight (normalText u.path) else normalText u.path
    query := u.query.map normalText
    fragment := u.fragment.map normalText }

end ServicePlan.Uri
