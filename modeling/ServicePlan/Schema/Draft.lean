import ServicePlan.Json.Basic

/-!
# Drafts

The format of schema documents has changed over time; each version is a draft.  Drafts differ in
where a schema may hold other schemas, in how a schema names itself and places inside it, and in the
keywords that count.

* `Draft`: the drafts, and `Draft.detect`: the draft that a schema says it keeps to.
* `Draft.subschemas`, `Draft.isSubschemaPath`: where a schema holds other schemas.
* `Draft.nameOf?`, `Draft.anchorsOf`: how a schema names itself and places inside it.
* `Vocabularies`: the groups of keywords that count.
-/

namespace ServicePlan.Schema

/-- A version of the format of schema documents. -/
inductive Draft
  | draft4
  | draft6
  | draft7
  | draft2019
  | draft2020
  deriving DecidableEq, Repr

namespace Draft

/-- The drafts with the names that schemas give them. -/
def names : List (String × Draft) :=
  [("https://json-schema.org/draft/2020-12/schema", draft2020),
    ("https://json-schema.org/draft/2019-09/schema", draft2019),
    ("http://json-schema.org/draft-07/schema", draft7),
    ("http://json-schema.org/draft-06/schema", draft6),
    ("http://json-schema.org/draft-04/schema", draft4)]

/-- A name without the hash signs at its end. -/
def trimHash (name : String) : String :=
  String.ofList (name.toList.reverse.dropWhile (· == '#')).reverse

/-- The name of the draft that a schema says it keeps to. -/
def declared? (schema : Json) : Option String :=
  ((schema.member? "$schema").bind Json.string?).map trimHash

/-- The draft of a schema: the one it names, or the one of its surroundings if it names none.
Where the name is unknown the latest draft counts. -/
def detect (outer : Draft) (schema : Json) : Draft :=
  match declared? schema with
  | some name => (names.lookup name).getD draft2020
  | none => outer

/-- Position in time. -/
def rank : Draft → Nat
  | draft4 => 4
  | draft6 => 6
  | draft7 => 7
  | draft2019 => 8
  | draft2020 => 9

/-- Whether keywords beside a reference count, and keywords belong to vocabularies. -/
def isModern (d : Draft) : Bool := draft2019.rank ≤ d.rank

/-! ## Schemas inside schemas -/

/-- Keywords whose value is a schema. -/
def schemaKeywords : Draft → List String
  | draft4 => ["additionalItems", "additionalProperties", "not"]
  | draft6 => ["additionalItems", "additionalProperties", "contains", "not", "propertyNames"]
  | draft7 =>
    ["additionalItems", "additionalProperties", "contains", "else", "if", "not", "propertyNames",
      "then"]
  | draft2019 =>
    ["additionalItems", "additionalProperties", "contains", "contentSchema", "else", "if", "not",
      "propertyNames", "then", "unevaluatedItems", "unevaluatedProperties"]
  | draft2020 =>
    ["additionalProperties", "contains", "contentSchema", "else", "if", "items", "not",
      "propertyNames", "then", "unevaluatedItems", "unevaluatedProperties"]

/-- Keywords whose value is a list of schemas. -/
def listKeywords : Draft → List String
  | draft2020 => ["allOf", "anyOf", "oneOf", "prefixItems"]
  | _ => ["allOf", "anyOf", "oneOf"]

/-- Keywords whose value gives schemas to names. -/
def mapKeywords (d : Draft) : List String :=
  if d.isModern then ["$defs", "definitions", "dependentSchemas", "patternProperties", "properties"]
  else ["definitions", "patternProperties", "properties"]

/-- The schemas that the value of a keyword holds. -/
def keywordSchemas (d : Draft) (keyword : String) (value : Json) : List Json :=
  if d.schemaKeywords.contains keyword then [value]
  else if d.listKeywords.contains keyword then
    match value with
    | .array items => items
    | _ => []
  else if d.mapKeywords.contains keyword then
    match value with
    | .object members => members.map (·.2)
    | _ => []
  else if keyword = "items" then
    match value with
    | .array items => items
    | value => [value]
  else if keyword = "dependencies" && !d.isModern then
    match value with
    | .object members => (members.map (·.2)).filter fun v => !v.isArray
    | _ => []
  else []

/-- The schemas directly inside a schema. -/
def subschemas (d : Draft) : Json → List Json
  | .object members => members.flatMap fun (keyword, value) => d.keywordSchemas keyword value
  | _ => []

/-- Whether steps from a schema lead to a schema inside it. -/
def isSubschemaPath (d : Draft) (target : Json) : List String → Bool
  | [] => true
  | step :: rest =>
    if d ≠ draft2020 && step == "items" && target.isObject then true
    else if d.schemaKeywords.contains step then isSubschemaPath d target rest
    else if d.listKeywords.contains step || d.mapKeywords.contains step ||
        (step == "dependencies" && !d.isModern) then
      match rest with
      | _ :: rest => isSubschemaPath d target rest
      | [] => false
    else false

/-! ## Names -/

/-- The text of a keyword. -/
def textOf? (schema : Json) (keyword : String) : Option String :=
  (schema.member? keyword).bind Json.string?

/-- The keyword by which a schema names itself. -/
def nameKeyword : Draft → String
  | draft4 => "id"
  | _ => "$id"

/-- Whether a text names a place inside a schema. -/
def isPlace (text : String) : Bool := text.toList.head? == some '#'

/-- The name that a schema gives itself.  In early drafts nothing counts beside a reference, and a
name with a hash sign in front is that of a place. -/
def nameOf? (d : Draft) (schema : Json) : Option String :=
  let name := textOf? schema d.nameKeyword
  let name :=
    if d.isModern then name
    else if (schema.member? "$ref").isSome then none
    else name.filter fun text => !isPlace text
  name.map trimHash

/-- The name of a place inside a schema. -/
structure Anchor where
  /-- The name. -/
  name : String
  /-- Whether a reference leads to the outermost place of this name. -/
  isDynamic : Bool
  deriving DecidableEq, Repr

/-- The names that a schema gives its place. -/
def anchorsOf (d : Draft) (schema : Json) : List Anchor :=
  let plain := (textOf? schema "$anchor").toList.map fun name => ⟨name, false⟩
  match d with
  | draft2020 =>
    plain ++ (textOf? schema "$dynamicAnchor").toList.map fun name => ⟨name, true⟩
  | draft2019 => plain
  | d =>
    ((textOf? schema d.nameKeyword).toList.filter isPlace).map fun name =>
      ⟨String.ofList (name.toList.drop 1), false⟩

end Draft

/-! ## Vocabularies -/

/-- The groups of keywords that count. -/
structure Vocabularies where
  /-- Keywords that apply schemas to a value or to parts of it. -/
  applicator : Bool
  /-- Keywords about single values. -/
  validation : Bool
  /-- Keywords about parts that no other keyword looks at. -/
  unevaluated : Bool
  deriving DecidableEq, Repr

namespace Vocabularies

/-- No vocabulary. -/
def none : Vocabularies := ⟨false, false, false⟩

/-- The vocabularies of a draft; early drafts have none. -/
def ofDraft : Draft → Vocabularies
  | .draft2020 => ⟨true, true, true⟩
  | .draft2019 => ⟨true, true, false⟩
  | _ => none

/-- The names that vocabularies have in a draft. -/
def namesOf (vocabulary : String) : List String :=
  ["https://json-schema.org/draft/2020-12/vocab/" ++ vocabulary,
    "https://json-schema.org/draft/2019-09/vocab/" ++ vocabulary]

/-- The vocabularies that a schema of schemas asks for. -/
def asked? (schema : Json) : Option Vocabularies :=
  match schema.member? "$vocabulary" with
  | some (.object members) =>
    let asks (vocabulary : String) : Bool :=
      members.any fun (name, v) => (namesOf vocabulary).contains name && v.isTrue
    some ⟨asks "applicator", asks "validation", asks "unevaluated"⟩
  | _ => Option.none

end Vocabularies

end ServicePlan.Schema
