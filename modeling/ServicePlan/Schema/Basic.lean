import ServicePlan.Json.Printer
import ServicePlan.Schema.Format

/-!
# Schemas

A schema is a list of rules that a value has to keep.  Rules look only at values they are about:
a bound for numbers says nothing about a string.  A schema document is a schema together with
the schemas that its references lead to.

* `Schema`, `Schema.Rule`: schemas and their rules.
* `Schema.Coverage`: which parts of a value the keywords of a schema look at.
* `Schema.Document`: a schema with its references.
* `Schema.Violation`: where a value breaks a rule, and `Violation.message`.
-/

namespace ServicePlan

open Decimal (Binary64)

namespace Schema

/-- The types of values that schemas tell apart. -/
inductive TypeName
  | array
  | boolean
  | integer
  | null
  | number
  | object
  | string
  deriving DecidableEq, Repr

namespace TypeName

/-- The name of a type. -/
def label : TypeName → String
  | array => "array"
  | boolean => "boolean"
  | integer => "integer"
  | null => "null"
  | number => "number"
  | object => "object"
  | string => "string"

/-- All types, in the order messages list them. -/
def all : List TypeName := [array, boolean, integer, null, number, object, string]

/-- The type of a name. -/
def ofLabel? (label : String) : Option TypeName := (all.map fun t => (t.label, t)).lookup label

/-- Whether a value has the type.  A whole number is an integer however it is written. -/
def accepts : TypeName → Json → Bool
  | array, .array _ => true
  | boolean, .bool _ => true
  | integer, .number n => n.isWhole
  | null, .null => true
  | number, .number _ => true
  | object, .object _ => true
  | string, .string _ => true
  | _, _ => false

/-- Whether a value has the type, where a number with a point or an exponent is no integer. -/
def acceptsWritten : TypeName → Json → Bool
  | integer, .number (.integer _) => true
  | integer, _ => false
  | t, v => t.accepts v

end TypeName

/-- How many of several schemas have to be kept. -/
inductive Demand
  | all
  | any
  | one
  deriving DecidableEq, Repr

end Schema

mutual

/-- A schema. -/
inductive Schema
  /-- Every value is allowed. -/
  | anything
  /-- No value is allowed. -/
  | nothing
  /-- All rules have to be kept; violations are listed rule by rule. -/
  | rules (rules : List Schema.Rule)

/-- A rule of a schema. -/
inductive Schema.Rule
  /-- The value has one of the types. -/
  | types (types : List Schema.TypeName)
  /-- The value has one of the types, and is written like one. -/
  | writtenTypes (types : List Schema.TypeName)
  /-- The value is one of the options. -/
  | enum (options : List Json)
  /-- The value is the given one. -/
  | const (value : Json)
  /-- Numbers are multiples of the divisor. -/
  | multipleOf (divisor : Binary64)
  /-- Numbers are at least the bound. -/
  | minimum (bound : Number)
  /-- Numbers are at most the bound. -/
  | maximum (bound : Number)
  /-- Numbers are above the bound. -/
  | exclusiveMinimum (bound : Number)
  /-- Numbers are below the bound. -/
  | exclusiveMaximum (bound : Number)
  /-- Strings have at least so many characters. -/
  | minLength (count : Nat)
  /-- Strings have at most so many characters. -/
  | maxLength (count : Nat)
  /-- Arrays have at least so many items. -/
  | minItems (count : Nat)
  /-- Arrays have at most so many items. -/
  | maxItems (count : Nat)
  /-- Objects have at least so many members. -/
  | minProperties (count : Nat)
  /-- Objects have at most so many members. -/
  | maxProperties (count : Nat)
  /-- Strings match the pattern. -/
  | pattern (source : String) (search : Pattern.Search)
  /-- Strings are written like the format says. -/
  | format (format : Schema.Format)
  /-- Strings hold bytes in groups of six bits. -/
  | base64
  /-- Strings are JSON texts, or hold the bytes of one. -/
  | jsonText (encoded : Bool)
  /-- The items of an array differ. -/
  | uniqueItems
  /-- Objects have the members. -/
  | required (names : List String)
  /-- Objects with a member have other members too. -/
  | dependentRequired (names : List (String × List String))
  /-- Objects with a member keep a schema. -/
  | dependentSchemas (schemas : List (String × Schema))
  /-- The members of an object keep the schemas of their names. -/
  | properties (schemas : List (String × Schema))
  /-- The members whose names match a pattern keep its schema. -/
  | patternProperties (schemas : List (Pattern.Search × Schema))
  /-- The members keep the schemas of their names and patterns, and all others a schema of their
  own.  Violations are listed member by member. -/
  | members (named : List (String × Schema)) (patterns : List (Pattern.Search × Schema))
      (others : Schema)
  /-- Objects have no members.  Of several members the first one is refused. -/
  | noMembers
  /-- The items behind the first ones keep the schema. -/
  | items (skip : Nat) (schema : Schema)
  /-- There are no items behind the first ones. -/
  | noItems (skip : Nat)
  /-- The first items keep a schema each. -/
  | prefixItems (schemas : List Schema)
  /-- The number of items that keep the schema is in the bounds. -/
  | contains (least : Nat) (most : Option Nat) (schema : Schema)
  /-- The names of the members keep the schema. -/
  | propertyNames (schema : Schema)
  /-- The value keeps all schemas. -/
  | allOf (schemas : List Schema)
  /-- The value keeps one of the schemas. -/
  | anyOf (schemas : List Schema)
  /-- The value keeps exactly one of the schemas. -/
  | oneOf (schemas : List Schema)
  /-- The value does not keep the schema, which messages show as written. -/
  | not (written : Json) (schema : Schema)
  /-- The value keeps the second schema if it keeps the first, and the third if not. -/
  | conditional (test yes no : Schema)
  /-- The value keeps the schema that the reference leads to. -/
  | reference (target : String)
  /-- No keyword leaves out a member. -/
  | unevaluatedProperties (parts : List Schema.Coverage)
  /-- No keyword leaves out an item. -/
  | unevaluatedItems (parts : List Schema.Coverage)

/-- What a keyword looks at: members or items of a value. -/
inductive Schema.Coverage
  /-- The member of the name, if it keeps the schema. -/
  | named (name : String) (schema : Schema)
  /-- The members whose names match the pattern. -/
  | matching (search : Pattern.Search)
  /-- The members that keep the schema. -/
  | members (schema : Schema)
  /-- All items. -/
  | everyItem
  /-- The first items. -/
  | firstItems (count : Nat)
  /-- The items that keep the schema. -/
  | items (schema : Schema)
  /-- What the parts look at, if the value keeps as many of the schemas as demanded. -/
  | group (demand : Schema.Demand) (schemas : List Schema) (parts : List Schema.Coverage)
  /-- What one of two lists of parts looks at; the first one counts if the value keeps the
  schema. -/
  | conditional (test : Schema) (yes no : List Schema.Coverage)
  /-- What the parts look at that the reference leads to. -/
  | reference (target : String)

end

namespace Schema

instance : Inhabited Schema := ⟨anything⟩

/-- A schema with the schemas its references lead to. -/
structure Document where
  /-- The schema of the whole value. -/
  root : Schema
  /-- The schemas that references lead to, by the name of the reference. -/
  definitions : List (String × Schema)
  /-- What references inside of coverages lead to, by the name of the reference. -/
  coverages : List (String × List Coverage) := []

/-! ## Violations -/

/-- A step from a value to a part of it. -/
inductive Step
  | member (name : String)
  | item (index : Nat)
  deriving DecidableEq, Repr

/-- A member name as a part of a place. -/
def escapeName (name : String) : List Char :=
  name.toList.flatMap fun c => if c = '~' then ['~', '0'] else if c = '/' then ['~', '1'] else [c]

/-- The text of a step. -/
def Step.render : Step → List Char
  | member name => '/' :: escapeName name
  | item index => '/' :: Decimal.natDigits index

/-- How a value breaks a rule. -/
inductive Cause
  | wrongType (value : Json) (types : List TypeName)
  | notAnOption (value : Json) (options : List Json)
  | notTheConstant (expected : Json)
  | notAMultiple (value : Json) (divisor : Binary64)
  | belowMinimum (value : Json) (bound : Number)
  | aboveMaximum (value : Json) (bound : Number)
  | notAboveMinimum (value : Json) (bound : Number)
  | notBelowMaximum (value : Json) (bound : Number)
  | tooShort (value : Json) (count : Nat)
  | tooLong (value : Json) (count : Nat)
  | tooFewItems (value : Json) (count : Nat)
  | tooManyItems (value : Json) (count : Nat)
  | tooFewMembers (value : Json) (count : Nat)
  | tooManyMembers (value : Json) (count : Nat)
  | noMatch (value : Json) (source : String)
  | searchGivenUp
  | wrongFormat (value : Json) (format : Format)
  | notBase64 (value : Json)
  | notJsonText (value : Json)
  | repeatedItems (value : Json)
  | missingMember (name : String)
  | refused (value : Json)
  | unexpectedMembers (names : List String)
  | unexpectedItems (items : List Json)
  | noneOfAny (value : Json)
  | noneOfOne (value : Json)
  | severalOfOne (value : Json)
  | forbidden (written value : Json)
  | notContained (value : Json)
  | unevaluatedMembers (names : List String)
  | unevaluatedItems (items : List Json)

/-- A count with a noun. -/
def counted (count : Nat) (one many : String) : String :=
  if count = 1 then s!"1 {one}" else s!"{count} {many}"

/-- A list of texts between single quotes, with the verb of its number. -/
def unexpected (names : List String) : String :=
  "(" ++ ", ".intercalate (names.map fun n => "'" ++ n ++ "'") ++
    (if names.length = 1 then " was unexpected)" else " were unexpected)")

/-- The text of a number. -/
def numberText (n : Number) : String := String.ofList (Json.renderNumber n)

/-- The wording of a cause. -/
def Cause.message : Cause → String
  | wrongType v [t] => v.compact ++ " is not of type \"" ++ t.label ++ "\""
  | wrongType v types =>
    v.compact ++ " is not of types " ++
      ", ".intercalate ((TypeName.all.filter types.contains).map fun t => "\"" ++ t.label ++ "\"")
  | notAnOption v options => v.compact ++ " is not one of " ++ (Json.array options).compact
  | notTheConstant expected => expected.compact ++ " was expected"
  | notAMultiple v divisor =>
    v.compact ++ " is not a multiple of " ++ String.ofList (Decimal.plain divisor)
  | belowMinimum v bound => v.compact ++ " is less than the minimum of " ++ numberText bound
  | aboveMaximum v bound => v.compact ++ " is greater than the maximum of " ++ numberText bound
  | notAboveMinimum v bound =>
    v.compact ++ " is less than or equal to the minimum of " ++ numberText bound
  | notBelowMaximum v bound =>
    v.compact ++ " is greater than or equal to the maximum of " ++ numberText bound
  | tooShort v count => v.compact ++ " is shorter than " ++ counted count "character" "characters"
  | tooLong v count => v.compact ++ " is longer than " ++ counted count "character" "characters"
  | tooFewItems v count => v.compact ++ " has less than " ++ counted count "item" "items"
  | tooManyItems v count => v.compact ++ " has more than " ++ counted count "item" "items"
  | tooFewMembers v count =>
    v.compact ++ " has less than " ++ counted count "property" "properties"
  | tooManyMembers v count =>
    v.compact ++ " has more than " ++ counted count "property" "properties"
  | noMatch v source => v.compact ++ " does not match \"" ++ source ++ "\""
  | searchGivenUp => "Error executing regex: Max limit for backtracking count exceeded"
  | wrongFormat v format => v.compact ++ " is not a \"" ++ format.name ++ "\""
  | notBase64 v => v.compact ++ " is not compliant with \"base64\" content encoding"
  | notJsonText v => v.compact ++ " is not compliant with \"application/json\" media type"
  | repeatedItems v => v.compact ++ " has non-unique elements"
  | missingMember name => (Json.string name).compact ++ " is a required property"
  | refused v => "False schema does not allow " ++ v.compact
  | unexpectedMembers names => "Additional properties are not allowed " ++ unexpected names
  | unexpectedItems items =>
    "Additional items are not allowed (" ++ ", ".intercalate (items.map Json.compact) ++
      (if items.length = 1 then " was unexpected)" else " were unexpected)")
  | noneOfAny v =>
    v.compact ++ " is not valid under any of the schemas listed in the 'anyOf' keyword"
  | noneOfOne v =>
    v.compact ++ " is not valid under any of the schemas listed in the 'oneOf' keyword"
  | severalOfOne v =>
    v.compact ++ " is valid under more than one of the schemas listed in the 'oneOf' keyword"
  | forbidden written v => written.compact ++ " is not allowed for " ++ v.compact
  | notContained v => "None of " ++ v.compact ++ " are valid under the given schema"
  | unevaluatedMembers names => "Unevaluated properties are not allowed " ++ unexpected names
  | unevaluatedItems items =>
    "Unevaluated items are not allowed " ++ unexpected (items.map Json.compact)

/-- A part of a value that breaks a rule. -/
structure Violation where
  /-- The way from the whole value to the part. -/
  place : List Step
  /-- How the rule is broken. -/
  cause : Cause

/-- A place as messages show it. -/
def renderPlace (place : List Step) : String :=
  match place with
  | [] => "(root)"
  | steps => String.ofList (steps.flatMap Step.render)

/-- A violation on one line. -/
def Violation.message (v : Violation) : String := renderPlace v.place ++ ": " ++ v.cause.message

end Schema

end ServicePlan
