import ServicePlan.Schema.Assembly

/-!
# Keywords

Each keyword of a schema becomes a rule, where the keywords for members work together as one rule;
keywords without a meaning of their own are ignored.  Which keywords have a meaning depends on the
draft and on the vocabularies.

* `Setting.heeds`: which keywords count.
* `plainRules`: the rules of keywords whose values hold no schemas.
* `schemaRules`: the rules of keywords whose values hold schemas.
-/

namespace ServicePlan.Schema

open Decimal (Binary64)

namespace Setting

/-- Whether keywords count that apply schemas to a value or to parts of it. -/
def applies (s : Setting) : Bool := !s.draft.isModern || s.vocabularies.applicator

/-- Whether keywords count that are about single values. -/
def checks (s : Setting) : Bool := !s.draft.isModern || s.vocabularies.validation

/-- Whether the draft is a given one or later. -/
def since (s : Setting) (d : Draft) : Bool := d.rank ≤ s.draft.rank

/-- Whether a keyword counts. -/
def heeds (s : Setting) (keyword : String) : Bool :=
  match keyword with
  | "$ref" | "dependencies" => true
  | "$dynamicRef" => s.draft = .draft2020
  | "$recursiveRef" => s.draft = .draft2019
  | "format" => !s.draft.isModern
  | "contentEncoding" | "contentMediaType" => s.draft = .draft6 ∨ s.draft = .draft7
  | "additionalProperties" | "allOf" | "anyOf" | "items" | "not" | "oneOf" | "patternProperties"
  | "properties" => s.applies
  | "contains" | "propertyNames" => s.applies && s.since .draft6
  | "if" => s.applies && s.since .draft7
  | "additionalItems" => s.applies && s.draft != .draft2020
  | "dependentSchemas" => s.applies && s.draft.isModern
  | "prefixItems" => s.applies && s.draft == .draft2020
  | "unevaluatedItems" | "unevaluatedProperties" =>
    (s.draft == .draft2019 && s.vocabularies.applicator) ||
      (s.draft == .draft2020 && s.vocabularies.unevaluated)
  | "enum" | "maxItems" | "maxLength" | "maxProperties" | "maximum" | "minItems" | "minLength"
  | "minProperties" | "minimum" | "multipleOf" | "pattern" | "required" | "type"
  | "uniqueItems" => s.checks
  | "const" => s.checks && s.since .draft6
  | "exclusiveMaximum" | "exclusiveMinimum" => s.checks && s.since .draft6
  | "dependentRequired" => s.checks && s.draft.isModern
  | _ => false

end Setting

/-! ## Values without schemas -/

/-- The strings of an array. -/
def stringsOf : Json → List String
  | .array items => items.filterMap Json.string?
  | _ => []

/-- The items of an array. -/
def itemsOf : Json → List Json
  | .array items => items
  | _ => []

/-- The members of an object. -/
def membersOf : Json → List (String × Json)
  | .object members => members
  | _ => []

/-- The largest count; larger numbers stand for it. -/
def maxCount : Nat := 18446744073709551615

/-- The count that a whole number gives. -/
def count? : Json → Option Nat
  | .number (.integer i) => some i.toNat
  | .number (.float x) =>
    if x.isWhole then some (min maxCount (x.units / Binary64.unitsPerOne)) else none
  | _ => none

/-- The rule of a count. -/
def counting (rule : Nat → Rule) (v : Json) : List Rule := (count? v).toList.map rule

/-- The rule of a number. -/
def bounding (rule : Number → Rule) : Json → List Rule
  | .number n => [rule n]
  | _ => []

/-- The types that a value names. -/
def typesOf : Json → List TypeName
  | .string s => (TypeName.ofLabel? s).toList
  | v => (stringsOf v).filterMap TypeName.ofLabel?

/-- Whether a keyword of a schema says yes. -/
def affirms (written : List (String × Json)) (keyword : String) : Bool :=
  (written.lookup keyword).any Json.isTrue

/-- The rule of a bound, which the earliest draft makes exclusive by another keyword. -/
def bound (d : Draft) (written : List (String × Json)) (other : String)
    (rule exclusive : Number → Rule) (v : Json) : List Rule :=
  bounding (if d = .draft4 && affirms written other then exclusive else rule) v

/-- The rules of the encoding and of the type of contents, which work together. -/
def contentRules (written : List (String × Json)) : List Rule :=
  let isEncoded := (written.lookup "contentEncoding").isSome
  let isBase64 := (written.lookup "contentEncoding").any fun v => v.string? == some "base64"
  let isJson := (written.lookup "contentMediaType").any fun v =>
    v.string? == some "application/json"
  if isJson then (if isEncoded && !isBase64 then [] else [.jsonText isEncoded])
  else if isBase64 && (written.lookup "contentMediaType").isNone then [.base64]
  else []

/-- The rules of a keyword whose value holds no schema, in view of the keywords beside it. -/
def plainRules (d : Draft) (written : List (String × Json)) (keyword : String) (v : Json) :
    Except DocumentFault (List Rule) :=
  match keyword with
  | "type" =>
    .ok [if d = .draft4 then .writtenTypes (typesOf v) else .types (typesOf v)]
  | "enum" => .ok [.enum (itemsOf v)]
  | "const" => .ok [.const v]
  | "multipleOf" => .ok (bounding (fun n => .multipleOf n.toBinary64) v)
  | "minimum" => .ok (bound d written "exclusiveMinimum" .minimum .exclusiveMinimum v)
  | "maximum" => .ok (bound d written "exclusiveMaximum" .maximum .exclusiveMaximum v)
  | "exclusiveMinimum" => .ok (bounding .exclusiveMinimum v)
  | "exclusiveMaximum" => .ok (bounding .exclusiveMaximum v)
  | "minLength" => .ok (counting .minLength v)
  | "maxLength" => .ok (counting .maxLength v)
  | "minItems" => .ok (counting .minItems v)
  | "maxItems" => .ok (counting .maxItems v)
  | "minProperties" => .ok (counting .minProperties v)
  | "maxProperties" => .ok (counting .maxProperties v)
  | "uniqueItems" => .ok (if v.isTrue then [.uniqueItems] else [])
  | "required" => .ok [.required (stringsOf v)]
  | "dependentRequired" =>
    .ok [.dependentRequired ((membersOf v).map fun (k, names) => (k, stringsOf names))]
  | "pattern" =>
    match v with
    | .string s =>
      match Pattern.Search.ofSource? s with
      | some p => .ok [.pattern s p]
      | none => .error (.badPattern (.string s))
    | _ => .ok []
  | "format" => .ok ((v.string?.bind Format.ofName?).toList.map .format)
  | "contentMediaType" => .ok (contentRules written)
  | "contentEncoding" =>
    .ok (if (written.lookup "contentMediaType").isNone then contentRules written else [])
  | _ => .ok []

/-! ## Values that hold schemas -/

/-- How the schemas inside a schema are put together. -/
abbrev Inside := Json → Assembly Schema

/-- The pattern of a source text; a fault shows the value beside it. -/
def patternOf (shown : Json) (source : String) : Assembly Pattern.Search :=
  match Pattern.Search.ofSource? source with
  | some p => pure p
  | none => throw (.badPattern shown)

/-- The schemas of the items of an array. -/
def ofItems (inside : Inside) (v : Json) : Assembly (List Schema) := (itemsOf v).mapM inside

/-- The schemas of the members of an object. -/
def ofMembers (inside : Inside) (v : Json) : Assembly (List (String × Schema)) :=
  (membersOf v).mapM fun (name, v) => do pure (name, ← inside v)

/-- The schemas of the members of an object whose names are patterns. -/
def ofPatterns (inside : Inside) (v : Json) : Assembly (List (Pattern.Search × Schema)) :=
  (membersOf v).mapM fun (source, v) => do
    let p ← patternOf v source
    pure (p, ← inside v)

/-- The schema of a dependency; a list of names stands for the schema that requires them. -/
def ofDependency (inside : Inside) : Json → Assembly Schema
  | .array names => pure (.rules [.required (names.filterMap Json.string?)])
  | v => inside v

/-- Whether other members have a schema of their own, so that one rule treats all members. -/
def treatsAll (written : List (String × Json)) : Bool :=
  match written.lookup "additionalProperties" with
  | some (.object _) | some (.bool false) => true
  | _ => false

/-- The rule of members that have neither a name nor a pattern of their own. -/
def othersRule (inside : Inside) (written : List (String × Json)) (v : Json) :
    Assembly (List Rule) := do
  let patterns ← ((written.lookup "patternProperties").mapM (ofPatterns inside))
  if v.isTrue then pure []
  else
    let named ← (written.lookup "properties").mapM (ofMembers inside)
    match ← inside v, named, patterns with
    | .nothing, none, none => pure [.noMembers]
    | others, named, patterns => pure [.members (named.getD []) (patterns.getD []) others]

/-- The rule of items behind those that have a schema each. -/
def furtherRule (inside : Inside) (written : List (String × Json)) (v : Json) :
    Assembly (List Rule) :=
  match written.lookup "items", v with
  | some (.array items), .bool false => pure [.noItems items.length]
  | some (.array items), .object o => do pure [.items items.length (← inside (.object o))]
  | _, _ => pure []

/-- The rule of the items of an array. -/
def itemsRule (inside : Inside) (d : Draft) (written : List (String × Json)) (v : Json) :
    Assembly (List Rule) :=
  match d, v with
  | .draft2020, v => do
    let skip := ((written.lookup "prefixItems").map fun v => (itemsOf v).length).getD 0
    pure [.items skip (← inside v)]
  | _, .array items => do pure [.prefixItems (← items.mapM inside)]
  | _, v => do pure [.items 0 (← inside v)]

/-- The rule of items that have to occur. -/
def containsRule (d : Draft) (written : List (String × Json)) (s : Schema) : Rule :=
  let bound (keyword : String) : Option Nat :=
    if d.isModern then (written.lookup keyword).bind count? else none
  .contains ((bound "minContains").getD 1) (bound "maxContains") s

/-- The rule of a condition, if it has a consequence. -/
def conditionRule (inside : Inside) (written : List (String × Json)) (v : Json) :
    Assembly (List Rule) :=
  match written.lookup "then", written.lookup "else" with
  | none, none => pure []
  | yes, no => do
    let test ← inside v
    let yes ← yes.mapM inside
    let no ← no.mapM inside
    pure [.conditional test (yes.getD .anything) (no.getD .anything)]

/-- The rules of a keyword whose value holds schemas, in view of the keywords beside it. -/
def schemaRules (inside : Inside) (d : Draft) (written : List (String × Json)) (keyword : String)
    (v : Json) : Assembly (List Rule) :=
  match keyword with
  | "additionalItems" => furtherRule inside written v
  | "additionalProperties" => othersRule inside written v
  | "allOf" => do pure [.allOf (← ofItems inside v)]
  | "anyOf" => do pure [.anyOf (← ofItems inside v)]
  | "contains" => do pure [containsRule d written (← inside v)]
  | "dependencies" => do
    pure [.dependentSchemas (← (membersOf v).mapM fun (name, v) => do
      pure (name, ← ofDependency inside v))]
  | "dependentSchemas" => do pure [.dependentSchemas (← ofMembers inside v)]
  | "if" => conditionRule inside written v
  | "items" => itemsRule inside d written v
  | "not" => do pure [.not v (← inside v)]
  | "oneOf" => do pure [.oneOf (← ofItems inside v)]
  | "patternProperties" =>
    if treatsAll written then pure [] else do pure [.patternProperties (← ofPatterns inside v)]
  | "prefixItems" => do pure [.prefixItems (← ofItems inside v)]
  | "properties" =>
    if treatsAll written then pure [] else do pure [.properties (← ofMembers inside v)]
  | "propertyNames" => do
    match ← inside v with
    | .anything => pure []
    | s => pure [.propertyNames s]
  | _ => pure []

/-- Keywords whose values hold schemas, apart from those about parts that no other keyword looks
at. -/
def schemaKeywords : List String :=
  ["additionalItems", "additionalProperties", "allOf", "anyOf", "contains", "dependencies",
    "dependentSchemas", "if", "items", "not", "oneOf", "patternProperties", "prefixItems",
    "properties", "propertyNames"]

end ServicePlan.Schema
