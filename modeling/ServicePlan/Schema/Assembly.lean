import ServicePlan.Schema.Basic
import ServicePlan.Schema.Library

/-!
# Putting schemas together

A schema is put together from a JSON value in a setting: the origin of its references, its draft and
its vocabularies.  The first reference to a place is replaced by the schema that stands there.  All
later ones are requests, which become definitions of their own; so recursive schemas come to an end.

* `DocumentFault`: why a value is no schema document.
* `Setting`: where a schema stands.
* `Assembly`: what is put together, with the requests on the way.
* `Assembly.meet`: what a link stands for.
-/

namespace ServicePlan.Schema

/-- Why a value is no schema document. -/
inductive DocumentFault
  /-- The value breaks the schema of schemas. -/
  | invalid (cause : Cause)
  /-- A pattern is not well formed; the value shown is the pattern, or the schema of a pattern for
  names. -/
  | badPattern (shown : Json)
  /-- A reference leads nowhere. -/
  | badReference (fault : ReferenceFault)

/-- The wording of a fault. -/
def DocumentFault.message : DocumentFault → String
  | invalid cause => cause.message
  | badPattern shown => shown.compact ++ " is not a \"regex\""
  | badReference fault => fault.message

/-- Where a schema stands. -/
structure Setting where
  /-- Where references are looked up. -/
  origin : Library.Origin
  /-- The draft whose keywords count. -/
  draft : Draft
  /-- The vocabularies whose keywords count. -/
  vocabularies : Vocabularies
  deriving DecidableEq

namespace Setting

/-- The setting of a schema inside another one, which may name its draft and itself. -/
def within (s : Setting) (schema : Json) : Except ReferenceFault Setting := do
  let r : Resource := ⟨s.draft.detect schema, schema⟩
  .ok { s with origin := ← s.origin.within r, draft := r.draft }

end Setting

/-- A keyword that leads to a schema elsewhere. -/
inductive Link
  /-- To the place that a text names. -/
  | named (text : String)
  /-- To the outermost resource from which all resources on the way are recursive. -/
  | recursive
  deriving DecidableEq

namespace Link

/-- The full name of a link, as seen from a base. -/
def fullName (base : Uri) : Link → Except ReferenceFault Uri
  | named text => completeReference base text
  | recursive => completeReference base "#"

/-- The place that a link leads to. -/
def place (library : Library) (o : Library.Origin) : Link → Except ReferenceFault Library.Place
  | named text => library.lookup o text
  | recursive => library.lookupRecursive o

end Link

/-- The parts of a value that a coverage is about. -/
inductive Extent
  | members
  | items
  deriving DecidableEq

/-- A link that is followed later. -/
structure Request where
  /-- The link. -/
  link : Link
  /-- The setting of the link. -/
  setting : Setting
  /-- The extent of the coverage that is asked for, or nothing if it is a schema. -/
  extent : Option Extent
  deriving DecidableEq

/-- What has been met while schemas are put together. -/
structure Progress where
  /-- The full names of the links that have been followed at once. -/
  followed : List String := []
  /-- The links that are followed later. -/
  requests : List Request := []

/-- What is put together in view of a library. -/
abbrev Assembly := ReaderT Library (StateT Progress (Except DocumentFault))

namespace Assembly

/-- A fault of references ends the assembly. -/
def ofReference {α : Type} : Except ReferenceFault α → Assembly α
  | .ok a => pure a
  | .error fault => throw (.badReference fault)

/-- The name of a request. -/
def request (r : Request) : Assembly String := do
  let requests := (← get).requests
  match requests.idxOf? r with
  | some i => pure s!"{i}"
  | none =>
    modify fun p => { p with requests := p.requests ++ [r] }
    pure s!"{requests.length}"

/-- What a link stands for: a place at its first occurrence, and the name of a request later. -/
def meet (r : Request) : Assembly (Library.Place ⊕ String) := do
  let o := r.setting.origin
  let name := (← ofReference (r.link.fullName o.base)).text
  if (← get).followed.contains name then
    let name ← request r
    pure (.inr name)
  else
    modify fun p => { p with followed := name :: p.followed }
    let place ← ofReference (r.link.place (← read) o)
    pure (.inl place)

/-- The setting at a place. -/
def settingAt (p : Library.Place) : Assembly Setting := do
  let r := p.resource
  pure ⟨⟨p.base, p.trail⟩, r.draft, (← read).vocabulariesOf r.draft r.contents⟩

/-- The place of a request, and the setting in which what stands there is put together. -/
def target (r : Request) : Assembly (Json × Setting) := do
  let place ← ofReference (r.link.place (← read) r.setting.origin)
  pure (place.resource.contents,
    { r.setting with origin := { r.setting.origin with base := place.base } })

end Assembly

end ServicePlan.Schema
