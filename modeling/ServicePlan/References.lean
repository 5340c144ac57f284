import ServicePlan.Fault
import ServicePlan.Log
import ServicePlan.Naming
import ServicePlan.Spec.References

/-!
# Resolved references

Before anything is planned, the references of a spec are resolved.  A layer is given by a resource
name or by its own name; the latest version behind a name is asked for once, however many ids
share it.  Who answers may remember what was asked before.

* `Resolver`: the state of the resolution, with the names asked for so far.
* `References.resolve`: the resolution of all references.
* `References.layerArns`, `References.userPool`: what the phases ask for.
-/

namespace ServicePlan

/-- Who knows the latest version of a layer, given the names asked for before. -/
abbrev LayerVersions := List String → String → Except Fault Int

/-- A user pool with the issuer of its tokens. -/
structure UserPool where
  /-- The id of the pool. -/
  id : String
  /-- The issuer. -/
  url : String
  /-- All other members of the description, as given. -/
  extra : Table Json

/-- What exists outside of a spec, with full names. -/
structure References where
  /-- The layers, with versions. -/
  layers : Table String
  /-- The user pools. -/
  pools : Table UserPool
  /-- The network that batch jobs run in. -/
  network : Option NetworkSpec

/-- How far the resolution of layers has come. -/
structure Resolver where
  /-- The names asked for, in order. -/
  asked : List String := []
  /-- The resource names found for them. -/
  found : List (String × String) := []
  /-- The layers resolved so far. -/
  layers : Table String := ∅
  /-- The records so far. -/
  log : List Record := []

namespace Resolver

/-- What a resource name starts with. -/
def arnStart : String := "arn:"

/-- Whether a layer is given by a resource name. -/
def isArn (value : String) : Bool := arnStart.toList.isPrefixOf value.toList

/-- Notes what a layer resolves to. -/
def settle (s : Resolver) (id arn : String) : Resolver :=
  { s with
    layers := s.layers.insert id arn
    log := s.log ++ [⟨.info, s!"Layer {id} -> {arn}"⟩] }

/-- Asks for a name, which was not asked for before. -/
def ask (versions : LayerVersions) (n : Naming) (s : Resolver) (name : String) :
    Resolver × Except Fault String :=
  let after := { s with asked := s.asked ++ [name] }
  match versions s.asked name with
  | .error f => (after, .error f)
  | .ok version =>
    let arn := n.layerVersionArn name version
    ({ after with found := s.found ++ [(name, arn)] }, .ok arn)

/-- Resolves one layer. -/
def step (versions : LayerVersions) (n : Naming) (s : Resolver) (id value : String) :
    Resolver × Option Fault :=
  if isArn value then (s.settle id value, none)
  else
    match s.found.lookup value with
    | some arn => (s.settle id arn, none)
    | none =>
      match s.ask versions n value with
      | (s, .ok arn) => (s.settle id arn, none)
      | (s, .error f) => (s, some f)

/-- Resolves layers one after another; the first fault ends it. -/
def run (versions : LayerVersions) (n : Naming) :
    List (String × String) → Resolver → Resolver × Option Fault
  | [], s => (s, none)
  | (id, value) :: rest, s =>
    match s.step versions n id value with
    | (s, none) => run versions n rest s
    | (s, some f) => (s, some f)

end Resolver

namespace References

/-- No references at all. -/
def empty : References := ⟨∅, ∅, none⟩

/-- A user pool with its issuer. -/
def poolOf (n : Naming) (p : UserPoolSpec) : UserPool := ⟨p.id, n.userPoolUrl p.id, p.extra⟩

/-- Resolves the references of a spec.  The state tells what was asked for and recorded, also if
there is no result. -/
def resolve (spec : Option ReferenceSpec) (site : Deployment) (versions : LayerVersions) :
    Resolver × Except Fault References :=
  let n : Naming := ⟨"", site⟩
  match spec with
  | none => ({}, .ok empty)
  | some spec =>
    match Resolver.run versions n spec.layers.entries {} with
    | (s, some f) => (s, .error f)
    | (s, none) => (s, .ok ⟨s.layers, spec.pools.map fun _ p => poolOf n p, spec.network⟩)

/-- The resource name of a layer. -/
def layerArn (r : References) (requestedBy id : String) : Except Fault String :=
  match r.layers.get? id with
  | some arn => .ok arn
  | none => .error (.unknownLayer id requestedBy)

/-- The resource names of layers, in order. -/
def layerArns (r : References) (ids : List String) (requestedBy : String) :
    Except Fault (List String) :=
  ids.mapM (r.layerArn requestedBy)

/-- A user pool. -/
def userPool (r : References) (user requestedBy : String) : Except Fault UserPool :=
  match r.pools.get? user with
  | some pool => .ok pool
  | none => .error (.unknownUser user requestedBy)

end References

end ServicePlan
