import ServicePlan.Schema.Meta.Draft2019
import ServicePlan.Schema.Meta.Draft2020
import ServicePlan.Schema.Meta.Draft4
import ServicePlan.Schema.Meta.Draft6
import ServicePlan.Schema.Meta.Draft7
import ServicePlan.Schema.Reference

/-!
# The resources of a schema document

A document is a resource, and so is every schema inside it that names itself.  They are gathered
level by level, together with the anchors in them and the names that references ask for; a reference
to a resource that is not among them is reported before anything else.  The schemas of schemas
belong to every library.

* `Library`: resources and anchors by name.
* `Library.ofDocument`: the library of a document.
* `Library.lookup`, `Library.lookupRecursive`: what a reference leads to.
* `Library.vocabulariesOf`: the vocabularies that count for a schema.
-/

namespace ServicePlan.Schema

/-- A schema with the draft it keeps to. -/
structure Resource where
  /-- The draft. -/
  draft : Draft
  /-- The schema. -/
  contents : Json

namespace Resource

/-- The name that a resource gives itself. -/
def name? (r : Resource) : Option String := r.draft.nameOf? r.contents

/-- The schemas directly inside a resource. -/
def subresources (r : Resource) : List Resource :=
  (r.draft.subschemas r.contents).map fun v => ⟨r.draft.detect v, v⟩

end Resource

/-- Resources and anchors by name, the latest first. -/
structure Library where
  /-- The resources by their full names. -/
  resources : List (String × Resource) := []
  /-- The anchors by the full names of their resources and their own names. -/
  anchors : List ((String × String) × Bool × Resource) := []

/-- A library while resources are gathered. -/
structure Gathering where
  /-- The library so far. -/
  library : Library
  /-- Resources that references ask for, the earliest first. -/
  wanted : List Uri := []
  /-- References that have been dealt with, with their bases. -/
  seen : List (String × String) := []

namespace Gathering

/-- Whether a name is that of a schema of schemas, which is never asked for. -/
def isStandard (name : String) : Bool :=
  ["https://json-schema.org/draft/", "http://json-schema.org/draft-"].any fun start =>
    start.toList.isPrefixOf name.toList

/-- Notes what a reference asks for. -/
def ask (base : Uri) (g : Gathering) (reference : String) : Except ReferenceFault Gathering :=
  let key := (base.text, reference)
  if isStandard reference || isStandard base.text || reference == "#" || g.seen.contains key then
    .ok g
  else do
    let u ← completeReference base reference
    .ok { g with wanted := g.wanted ++ [u], seen := key :: g.seen }

/-- Notes what a schema asks for: by a reference, and by the draft that it names. -/
def askAll (base : Uri) (g : Gathering) (schema : Json) : Except ReferenceFault Gathering :=
  if base.scheme = some "urn" then .ok g
  else (["$ref", "$schema"].filterMap (Draft.textOf? schema)).foldlM (ask base) g

/-- Adds a resource under its name, if it names itself, and its anchors; the result holds also the
base of what is inside. -/
def enter (base : Uri) (r : Resource) (g : Gathering) : Except ReferenceFault (Uri × Gathering) := do
  let (base, resources) ← match r.name? with
    | some name => do
      let base ← completeReference base name
      pure (base, (base.text, r) :: g.library.resources)
    | none => pure (base, g.library.resources)
  let anchors := (r.draft.anchorsOf r.contents).map fun a => ((base.text, a.name), a.isDynamic, r)
  .ok (base, { g with library := ⟨resources, anchors.reverse ++ g.library.anchors⟩ })

/-- Notes what the schema of a resource inside another one asks for. -/
def askInside (base : Uri) (g : Gathering) (r : Resource) : Except ReferenceFault Gathering := do
  let inner ← match r.name? with
    | some name => completeReference base name
    | none => pure base
  g.askAll inner r.contents

/-- Looks after the resources asked for: each has to be there, and a part named by a pointer is
gathered as well. -/
def serve (g : Gathering) : Except ReferenceFault (List (Uri × Resource) × Gathering) := do
  let parts ← g.wanted.mapM fun u =>
    match g.library.resources.lookup u.withoutFragment.text with
    | none => .error (.notKnown u.withoutFragment)
    | some r =>
      .ok ((u.fragment.bind fun pointer => Pointer.find? pointer r.contents).map fun v =>
        (u, ⟨r.draft.detect v, v⟩))
  .ok (parts.filterMap id, { g with wanted := [] })

/-- Gathers the resources of a queue and all that is inside of them. -/
def run : Nat → List (Uri × Resource) → Gathering → Except ReferenceFault Gathering
  | 0, _, g => .ok g
  | fuel + 1, (base, r) :: queue, g => do
    let (base, g) ← g.enter base r
    let g ← g.askAll base r.contents
    let g ← r.subresources.foldlM (askInside base) g
    run fuel (queue ++ r.subresources.map fun s => (base, s)) g
  | fuel + 1, [], g =>
    if g.wanted.isEmpty then .ok g
    else do
      let (queue, g) ← g.serve
      run fuel queue g

end Gathering

mutual

/-- Number of values inside a value, counting itself. -/
def size : Json → Nat
  | .array items => sizeItems items + 1
  | .object members => sizeMembers members + 1
  | _ => 1

/-- Number of values inside the items. -/
def sizeItems : List Json → Nat
  | [] => 0
  | v :: rest => size v + sizeItems rest

/-- Number of values inside the members. -/
def sizeMembers : List (String × Json) → Nat
  | [] => 0
  | (_, v) :: rest => size v + sizeMembers rest

end

namespace Library

/-- Adds a resource of a name and all that is inside of it. -/
def add (l : Library) (name : Uri) (r : Resource) : Except ReferenceFault Library := do
  let start : Gathering := { library := { l with resources := (name.text, r) :: l.resources } }
  let n := size r.contents + 1
  .ok (← start.run (2 * n * n) [(name, r)]).library

/-- The schemas of schemas. -/
def standardSchemas : List Resource :=
  [⟨.draft4, Meta.Draft4.root⟩, ⟨.draft6, Meta.Draft6.root⟩, ⟨.draft7, Meta.Draft7.root⟩] ++
    Meta.Draft2019.all.map (⟨.draft2019, ·⟩) ++ Meta.Draft2020.all.map (⟨.draft2020, ·⟩)

/-- The library of the schemas of schemas. -/
def standard : Library :=
  standardSchemas.foldl (fun l r =>
    match r.name?.map completeName with
    | some (.ok name) => (l.add name r).toOption.getD l
    | _ => l) {}

/-- The full name of a document. -/
def nameOf (document : Json) : Except ReferenceFault Uri :=
  match Draft.draft2020.nameOf? document with
  | some name => completeName name
  | none => .ok defaultBase

/-- The library of a document. -/
def ofDocument (document : Json) : Except ReferenceFault Library := do
  standard.add (← nameOf document) ⟨.draft2020, document⟩

/-! ## Looking up -/

/-- A place in a library, with the way that references have led there. -/
structure Place where
  /-- What stands there. -/
  resource : Resource
  /-- The name that relative names count from. -/
  base : Uri
  /-- The names of the resources on the way, the latest first. -/
  trail : List String

/-- Where the search for a reference starts. -/
structure Origin where
  /-- The name that relative names count from. -/
  base : Uri
  /-- The names of the resources on the way, the latest first. -/
  trail : List String
  deriving DecidableEq

namespace Origin

/-- The origin inside a resource that may name itself. -/
def within (o : Origin) (r : Resource) : Except ReferenceFault Origin :=
  match r.name? with
  | some name => do .ok { o with base := ← completeReference o.base name }
  | none => .ok o

/-- The origin inside another resource.  A resource counts where the way has led into it first. -/
def moveTo (o : Origin) (base : Uri) : Origin :=
  if (o.trail.isEmpty ∨ base ≠ o.base) ∧ !o.trail.contains o.base.text then
    ⟨base, o.base.text :: o.trail⟩
  else ⟨base, o.trail⟩

end Origin

/-- The anchor of a name in a resource, or in the resource of the name that it gives itself. -/
def anchor? (l : Library) (resource name : String) : Option (Bool × Resource) :=
  (l.anchors.lookup (resource, name)).or <| do
    let own ← (← l.resources.lookup resource).name?
    l.anchors.lookup ((← (completeName own).toOption).text, name)

/-- The resource of a name. -/
def resource (l : Library) (name : Uri) : Except ReferenceFault Resource :=
  match l.resources.lookup name.text with
  | some r => .ok r
  | none => .error (.notGathered name)

/-- Follows the steps of a pointer inside a resource; `walked` holds the steps since the base has
changed. -/
def follow (draft : Draft) (pointer : String) :
    List String → List String → Json → Origin → Except ReferenceFault (Json × Origin)
  | [], _, v, o => .ok (v, o)
  | s :: rest, walked, v, o => do
    let v ← Pointer.step pointer s v
    let walked := walked ++ [String.ofList (Pointer.unescape s.toList)]
    let inner ← if draft.isSubschemaPath v walked then o.within ⟨draft, v⟩ else .ok o
    follow draft pointer rest (if inner.base = o.base then walked else []) v inner

/-- The place of a pointer inside a resource. -/
def pointed (r : Resource) (pointer : String) (o : Origin) : Except ReferenceFault Place :=
  match Text.unescapePercent? false pointer.toList with
  | none => .error (.badEscape pointer)
  | some text => do
    let (v, o) ← follow r.draft pointer (Pointer.steps text) [] r.contents o
    .ok ⟨⟨r.draft, v⟩, o.base, o.trail⟩

/-- The place of an anchor inside a resource.  Where it is a dynamic one, the first resource on the
way counts that has a dynamic anchor of this name. -/
def anchored (l : Library) (resource name : String) (o : Origin) : Except ReferenceFault Place :=
  match l.anchor? resource name with
  | none => .error (if name.toList.contains '/' then .badAnchor name else .noAnchor name)
  | some (false, r) => .ok ⟨r, o.base, o.trail⟩
  | some (true, r) => do
    let r := o.trail.foldl (fun r outer =>
      match l.anchor? outer name with
      | some (true, r) => r
      | _ => r) r
    let inner ← o.within r
    .ok ⟨r, inner.base, inner.trail⟩

/-- The vocabularies of a schema: those of the draft that it names, or that the schema of schemas
asks for whose name it gives, or else those of a given draft. -/
def vocabulariesOf (l : Library) (draft : Draft) (schema : Json) : Vocabularies :=
  match Draft.declared? schema with
  | none => .ofDraft draft
  | some text =>
    match Draft.names.lookup text with
    | some d => .ofDraft d
    | none =>
      ((do
        let name ← (completeName text).toOption
        Vocabularies.asked? (← l.resources.lookup name.text).contents) : Option Vocabularies).getD
          (.ofDraft draft)

/-- The place that a reference leads to. -/
def lookup (l : Library) (o : Origin) (reference : String) : Except ReferenceFault Place := do
  let (name, fragment) := splitReference reference
  let target ←
    if reference.toList.head? = some '#' then pure o.base else completeReference o.base name
  let r ← l.resource target
  let o' := o.moveTo target
  if fragment.toList.head? = some '/' then pointed r fragment o'
  else if fragment ≠ "" then l.anchored target.text fragment o'
  else .ok ⟨r, o'.base, o'.trail⟩

/-- Whether a value is an object whose references lead back to the outermost resource. -/
def isRecursive (v : Json) : Bool := (v.member? "$recursiveAnchor").any Json.isTrue

/-- The place that a recursive reference leads to: the resource itself, or the first one on the way
from which all resources are recursive. -/
def lookupRecursive (l : Library) (o : Origin) : Except ReferenceFault Place := do
  let here ← l.lookup o "#"
  if isRecursive here.resource.contents then
    let outer := o.trail.filterMap fun name =>
      ((Uri.read name).toOption.bind fun _ => (l.lookup o name).toOption)
    .ok (((outer.takeWhile fun p => isRecursive p.resource.contents).getLast?).getD here)
  else .ok here

end Library

end ServicePlan.Schema
