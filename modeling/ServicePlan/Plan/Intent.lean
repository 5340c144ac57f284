import ServicePlan.Distinct
import ServicePlan.Json.Form
import ServicePlan.Resource

/-!
# Intents

An intent says that a resource is to be created, with which attributes, and which resources have
to be there before.

* `Intent.of`: the intent of a category, a phase and a physical name.
* `Intent.encode`, `Intent.decode`, `Intent.ofText`: intents as JSON values and texts.
-/

namespace ServicePlan

/-- A resource that is to be created. -/
structure Intent where
  /-- What the resource is known by. -/
  handle : Handle
  /-- The kind of resource. -/
  category : Category
  /-- The phase that planned it. -/
  phase : Phase
  /-- The physical name. -/
  physicalName : String
  /-- The properties of the resource, which may hold tokens of other resources. -/
  attributes : Json
  /-- The resources that have to be there before. -/
  dependsOn : List Handle

namespace Intent

/-- The intent to create a resource after those it depends on. -/
def of (category : Category) (phase : Phase) (physicalName : String) (attributes : Json)
    (dependsOn : List Handle := []) : Intent where
  handle := .of category physicalName
  category := category
  phase := phase
  physicalName := physicalName
  attributes := attributes
  dependsOn := appendNew [] dependsOn

@[simp] theorem handle_of (category : Category) (phase : Phase) (physicalName : String)
    (attributes : Json) (dependsOn : List Handle) :
    (of category phase physicalName attributes dependsOn).handle = .of category physicalName :=
  rfl

@[simp] theorem category_of (category : Category) (phase : Phase) (physicalName : String)
    (attributes : Json) (dependsOn : List Handle) :
    (of category phase physicalName attributes dependsOn).category = category := rfl

@[simp] theorem phase_of (category : Category) (phase : Phase) (physicalName : String)
    (attributes : Json) (dependsOn : List Handle) :
    (of category phase physicalName attributes dependsOn).phase = phase := rfl

@[simp] theorem physicalName_of (category : Category) (phase : Phase) (physicalName : String)
    (attributes : Json) (dependsOn : List Handle) :
    (of category phase physicalName attributes dependsOn).physicalName = physicalName := rfl

@[simp] theorem mem_dependsOn_of {category : Category} {phase : Phase} {physicalName : String}
    {attributes : Json} {dependsOn : List Handle} {h : Handle} :
    h ∈ (of category phase physicalName attributes dependsOn).dependsOn ↔ h ∈ dependsOn := by
  simp [of, mem_appendNew]

/-- The same intent with more dependencies, each of them once. -/
def after (i : Intent) (handles : List Handle) : Intent :=
  { i with dependsOn := appendNew i.dependsOn handles }

/-- Handles as values. -/
def encodeHandles (handles : List Handle) : Json := .strings (handles.map (·.text))

/-- The value of an intent, with its members in the order of their names. -/
def encode (i : Intent) : Json :=
  .object [
    ("attributes", i.attributes),
    ("category", .string i.category.label),
    ("dependsOn", encodeHandles i.dependsOn),
    ("handle", .string i.handle.text),
    ("phase", .string i.phase.label),
    ("physical_name", .string i.physicalName)]

/-- The members of an intent, as a document lists them: what it is first, and then the rest. -/
def listing (i : Intent) : Json :=
  .object [
    ("handle", .string i.handle.text),
    ("category", .string i.category.label),
    ("phase", .string i.phase.label),
    ("physical_name", .string i.physicalName),
    ("attributes", i.attributes),
    ("dependsOn", encodeHandles i.dependsOn)]

/-- Decodes a handle. -/
def decodeHandle : Decoder Handle := fun v => (Decode.string v).map Handle.mk

/-- The fields of an intent. -/
def fields : Fields Intent :=
  mk <$> .required "handle" decodeHandle
    <*> .required "category" Category.decode
    <*> .required "phase" Phase.decode
    <*> .required "physical_name" Decode.string
    <*> .required "attributes" Decode.any
    <*> .required "dependsOn" (Decode.list decodeHandle)

/-- The name of intents in messages. -/
def shape : String := "ResourceIntent"

/-- Decodes an intent. -/
def decode : Decoder Intent := fields.decode shape

/-- What the fields of an intent have to hold. -/
def forms : Fields.Forms :=
  [("handle", .text), ("category", .oneOf (Category.labels.map (·.1))),
    ("phase", .oneOf (Phase.labels.map (·.1))), ("physical_name", .text), ("attributes", .any),
    ("dependsOn", .texts)]

/-- The intent that a text stands for. -/
def ofText (text : String) : Except Json.ReadError Intent := fields.readText shape forms text

end Intent

end ServicePlan
