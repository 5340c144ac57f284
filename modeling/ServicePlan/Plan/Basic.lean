import ServicePlan.Fault
import ServicePlan.Plan.Intent

/-!
# Plans

A plan is a list of intents in an order in which the resources can be created: every intent
depends only on earlier ones, and no resource is listed twice.

* `Plan.push`: adding an intent, which fails rather than break the order.
* `Plan.find?`, `Plan.byCategory`: reading.
* `Plan.listing`, `Plan.toText`: the plan as a document.
-/

namespace ServicePlan

/-- A list of intents with the tags of all resources. -/
structure Plan where
  /-- The tags of every resource. -/
  tags : Table String
  /-- The intents, in order. -/
  intents : List Intent
  /-- The resources that have been emitted, kept apart from the intents to look them up. -/
  emitted : List Handle

namespace Plan

/-- The plan without intents. -/
def new (tags : Table String) : Plan := ⟨tags, [], []⟩

/-- The handles of the intents. -/
def handles (p : Plan) : List Handle := p.intents.map (·.handle)

/-- Whether a resource has been emitted. -/
def contains (p : Plan) (h : Handle) : Bool := p.emitted.contains h

/-- The plan with one more intent at its end. -/
def add (p : Plan) (i : Intent) : Plan :=
  { p with intents := p.intents ++ [i], emitted := p.emitted ++ [i.handle] }

/-- Adds an intent and answers its handle.  Its resource must be new, and all that it depends on
must have been emitted; otherwise the plan stays as it is. -/
def push (p : Plan) (i : Intent) : Plan × Except Fault Handle :=
  if p.contains i.handle then (p, .error (.emittedTwice i.handle))
  else
    match i.dependsOn.find? fun h => !p.contains h with
    | some missing => (p, .error (.missingDependency i.handle missing))
    | none => (p.add i, .ok i.handle)

/-- The first intent for the resource of a category and a physical name. -/
def find? (p : Plan) (category : Category) (physicalName : String) : Option Intent :=
  p.intents.find? fun i => i.handle == .of category physicalName

/-- The intents of a category, in order. -/
def byCategory (p : Plan) (category : Category) : List Intent :=
  p.intents.filter fun i => i.category = category

/-- Number of intents. -/
def size (p : Plan) : Nat := p.intents.length

/-- The plan as a document: the tags, and then the intents as they list their members. -/
def listing (p : Plan) : Json :=
  .object [("tags", .ofTable .string p.tags), ("intents", .array (p.intents.map Intent.listing))]

/-- The text of that document. -/
def toText (p : Plan) : String := p.listing.pretty

/-- Intents and tags as a value, with all members in the order of their names. -/
def encodeDocument (intents : List Intent) (tags : Table String) : Json :=
  .object [("intents", .array (intents.map Intent.encode)), ("tags", .ofTable .string tags)]

/-- The plan as a value, with all members in the order of their names. -/
def encode (p : Plan) : Json := encodeDocument p.intents p.tags

end Plan

end ServicePlan
