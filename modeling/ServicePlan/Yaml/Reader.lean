import ServicePlan.Yaml.Event
import ServicePlan.Yaml.Scalar

/-!
# Reading YAML

The events of a document become a value.  A reference stands for the value of the node with its
anchor.  How often references are followed and how deep collections nest is limited, and the keys
of a mapping have to differ.

* `Linked`: the events with the nodes that references lead to.
* `Yaml.ofEvents?`: the value of the events.
* `Yaml.read`: the value of a text, if it is well formed.
-/

namespace ServicePlan.Yaml

/-! ## References -/

/-- Anchors while the events are gone through. -/
structure Anchors where
  /-- The numbers of the anchors, by their names. -/
  numbers : List (String × Nat) := []
  /-- The places of the nodes, by the numbers of their anchors. -/
  places : List (Nat × Nat) := []
  /-- The numbers of the anchors that references lead to, by the places of the references. -/
  links : List (Nat × Nat) := []

namespace Anchors

/-- Notes an anchor of the node at a place.  Its number is the number of names known so far. -/
def note (a : Anchors) (place : Nat) : Option String → Anchors
  | none => a
  | some name =>
    let number := a.numbers.length
    { a with
      numbers := a.numbers.filter (·.1 != name) ++ [(name, number)]
      places := (number, place) :: a.places }

/-- Goes through events; a reference must name an anchor in front of it. -/
def ofEvents (place : Nat) : List Event → Anchors → Option Anchors
  | [], a => some a
  | .reference name :: rest, a => do
    let number ← a.numbers.lookup name
    ofEvents (place + 1) rest { a with links := (place, number) :: a.links }
  | .scalar p _ _ :: rest, a => ofEvents (place + 1) rest (a.note place p.anchor)
  | .sequenceStart p :: rest, a => ofEvents (place + 1) rest (a.note place p.anchor)
  | .mappingStart p :: rest, a => ofEvents (place + 1) rest (a.note place p.anchor)
  | _ :: rest, a => ofEvents (place + 1) rest a

/-- The place of the node that the reference at a place leads to. -/
def target? (a : Anchors) (place : Nat) : Option Nat :=
  (a.links.lookup place).bind fun number => a.places.lookup number

end Anchors

/-- The events of a document with the nodes that references lead to. -/
structure Linked where
  /-- The events. -/
  events : Array Event
  /-- The anchors. -/
  anchors : Anchors

/-- How often references are followed, for each event. -/
def maxFollowed : Nat := 100

/-- How deep collections may be nested. -/
def maxDepth : Nat := 128

/-! ## Values -/

/-- A tag without the exclamation mark in front; one that is nothing else stays as it is. -/
def withoutMark : List Char → List Char
  | '!' :: c :: rest => c :: rest
  | tag => tag

/-- The name that a tag gives if it is no tag of the format: what stands behind the exclamation
mark, and behind a second one. -/
def ownTag? (tag : Option String) : Option String :=
  match tag.map String.toList with
  | some ('!' :: rest) => some (String.ofList (withoutMark (withoutMark ('!' :: rest))))
  | _ => none

/-- The value of a scalar whose tag, if any, belongs to the format; below a tag of another kind it
is not looked at. -/
def ofScalar (tag : Option String) (below : Bool) (text : String) (plain : Bool) : Option Yaml :=
  match tag, below with
  | some tag, false => Scalar.ofTag tag text.toList
  | _, _ => if plain then Scalar.ofPlain text.toList else some (.string text)

mutual

/-- The value of the node at a place, the place behind it and the number of references followed so
far.  `depth` is the number of collections that may still be opened, and `below` tells whether a
tag of the node has been dealt with. -/
def nodeAt (d : Linked) : Nat → Nat → Bool → Nat → Nat → Option (Yaml × Nat × Nat)
  | 0, _, _, _, _ => none
  | fuel + 1, depth, below, place, followed =>
    match d.events[place]? with
    | none => none
    | some e =>
      match if below then none else ownTag? e.tag? with
      | some name => do
        let (v, place, followed) ← nodeAt d fuel depth true place followed
        some (.tagged name v, place, followed)
      | none =>
        match e, depth with
        | .reference _, depth =>
          if d.events.size * maxFollowed < followed + 1 then none
          else do
            let target ← d.anchors.target? place
            let (v, _, followed) ← nodeAt d fuel depth below target (followed + 1)
            some (v, place + 1, followed)
        | .scalar p text plain, _ => do
          let v ← ofScalar p.tag below text plain
          some (v, place + 1, followed)
        | .sequenceStart _, depth + 1 => do
          let (items, place, followed) ← itemsAt d fuel depth (place + 1) followed
          some (.sequence items, place, followed)
        | .mappingStart _, depth + 1 => do
          let (entries, place, followed) ← entriesAt d fuel depth (place + 1) followed []
          some (.mapping entries, place, followed)
        | _, _ => none

/-- The values of the items from a place on. -/
def itemsAt (d : Linked) : Nat → Nat → Nat → Nat → Option (List Yaml × Nat × Nat)
  | 0, _, _, _ => none
  | fuel + 1, depth, place, followed =>
    match d.events[place]? with
    | some .sequenceEnd => some ([], place + 1, followed)
    | _ => do
      let (v, place, followed) ← nodeAt d fuel depth false place followed
      let (rest, place, followed) ← itemsAt d fuel depth place followed
      some (v :: rest, place, followed)

/-- The entries from a place on, behind those that are `done`; their keys have to differ. -/
def entriesAt (d : Linked) :
    Nat → Nat → Nat → Nat → List (Yaml × Yaml) → Option (List (Yaml × Yaml) × Nat × Nat)
  | 0, _, _, _, _ => none
  | fuel + 1, depth, place, followed, done =>
    match d.events[place]? with
    | some .mappingEnd => some (done, place + 1, followed)
    | _ => do
      let (k, place, followed) ← nodeAt d fuel depth false place followed
      if hasKey done k then none
      else do
        let (v, place, followed) ← nodeAt d fuel depth false place followed
        entriesAt d fuel depth place followed (done ++ [(k, v)])

end

/-- The value of the events of a document; without events it is null. -/
def ofEvents? (events : List Event) : Option Yaml :=
  match events with
  | [] => some .null
  | events => do
    let anchors ← Anchors.ofEvents 0 events {}
    let fuel := (maxDepth + 2) * (events.length + 4)
    let (v, _, _) ← nodeAt ⟨events.toArray, anchors⟩ fuel maxDepth false 0 0
    some v

/-- The value of a text that holds at most one document. -/
def read (text : String) : Option Yaml := do
  let tokens ← Token.ofText? text.toList
  let events ← Event.ofTokens? tokens
  ofEvents? events

end ServicePlan.Yaml
