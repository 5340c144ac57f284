import ServicePlan.Schema.Meta.Basic

/-!
# The schemas of schemas of 2019

Each vocabulary has a schema of its own; wherever a schema may stand, the schema of the whole
document applies again.

* `all`: the schemas.
-/

namespace ServicePlan.Schema.Meta.Draft2019

/-- A schema. -/
def anySchema : Json := .object [("$recursiveRef", .string "#")]

/-- Names, identifiers and references. -/
def core : Json :=
  .object [
    ("$id", .string "https://json-schema.org/draft/2019-09/meta/core"),
    ("$recursiveAnchor", .bool true),
    ("$schema", .string "https://json-schema.org/draft/2019-09/schema"),
    ("$vocabulary", .object [("https://json-schema.org/draft/2019-09/vocab/core", .bool true)]),
    ("properties", .object [
      ("$anchor", .object [
        ("pattern", .string "^[A-Za-z][-A-Za-z0-9.:_]*$"),
        ("type", .string "string")]),
      ("$comment", typed "string"),
      ("$defs", .object [
        ("additionalProperties", anySchema),
        ("default", .object []),
        ("type", .string "object")]),
      ("$id", .object [
        ("$comment", .string "Non-empty fragments not allowed."),
        ("format", .string "uri-reference"),
        ("pattern", .string "^[^#]*#?$"),
        ("type", .string "string")]),
      ("$recursiveAnchor", .object [("default", .bool false), ("type", .string "boolean")]),
      ("$recursiveRef", .object [
        ("format", .string "uri-reference"),
        ("type", .string "string")]),
      ("$ref", .object [("format", .string "uri-reference"), ("type", .string "string")]),
      ("$schema", .object [("format", .string "uri"), ("type", .string "string")]),
      ("$vocabulary", .object [
        ("additionalProperties", typed "boolean"),
        ("propertyNames", .object [("format", .string "uri"), ("type", .string "string")]),
        ("type", .string "object")])]),
    ("title", .string "Core vocabulary meta-schema"),
    ("type", .array [.string "object", .string "boolean"])]

/-- Keywords that apply schemas to a value or to parts of it. -/
def applicator : Json :=
  .object [
    ("$defs", .object [
      ("schemaArray", .object [
        ("items", anySchema),
        ("minItems", .int 1),
        ("type", .string "array")])]),
    ("$id", .string "https://json-schema.org/draft/2019-09/meta/applicator"),
    ("$recursiveAnchor", .bool true),
    ("$schema", .string "https://json-schema.org/draft/2019-09/schema"),
    ("$vocabulary", .object [
      ("https://json-schema.org/draft/2019-09/vocab/applicator", .bool true)]),
    ("properties", .object [
      ("additionalItems", anySchema),
      ("additionalProperties", anySchema),
      ("allOf", reference "#/$defs/schemaArray"),
      ("anyOf", reference "#/$defs/schemaArray"),
      ("contains", anySchema),
      ("dependentSchemas", .object [
        ("additionalProperties", anySchema),
        ("type", .string "object")]),
      ("else", anySchema),
      ("if", anySchema),
      ("items", .object [("anyOf", .array [anySchema, reference "#/$defs/schemaArray"])]),
      ("not", anySchema),
      ("oneOf", reference "#/$defs/schemaArray"),
      ("patternProperties", .object [
        ("additionalProperties", anySchema),
        ("default", .object []),
        ("propertyNames", .object [("format", .string "regex")]),
        ("type", .string "object")]),
      ("properties", .object [
        ("additionalProperties", anySchema),
        ("default", .object []),
        ("type", .string "object")]),
      ("propertyNames", anySchema),
      ("then", anySchema),
      ("unevaluatedItems", anySchema),
      ("unevaluatedProperties", anySchema)]),
    ("title", .string "Applicator vocabulary meta-schema"),
    ("type", .array [.string "object", .string "boolean"])]

/-- Keywords about single values. -/
def validation : Json :=
  .object [
    ("$defs", .object [
      ("nonNegativeInteger", .object [("minimum", .int 0), ("type", .string "integer")]),
      ("nonNegativeIntegerDefault0", .object [
        ("$ref", .string "#/$defs/nonNegativeInteger"),
        ("default", .int 0)]),
      ("simpleTypes", .object [
        ("enum", .array [
          .string "array",
          .string "boolean",
          .string "integer",
          .string "null",
          .string "number",
          .string "object",
          .string "string"])]),
      ("stringArray", .object [
        ("default", .array []),
        ("items", typed "string"),
        ("type", .string "array"),
        ("uniqueItems", .bool true)])]),
    ("$id", .string "https://json-schema.org/draft/2019-09/meta/validation"),
    ("$recursiveAnchor", .bool true),
    ("$schema", .string "https://json-schema.org/draft/2019-09/schema"),
    ("$vocabulary", .object [
      ("https://json-schema.org/draft/2019-09/vocab/validation", .bool true)]),
    ("properties", .object [
      ("const", .bool true),
      ("dependentRequired", .object [
        ("additionalProperties", reference "#/$defs/stringArray"),
        ("type", .string "object")]),
      ("enum", .object [("items", .bool true), ("type", .string "array")]),
      ("exclusiveMaximum", typed "number"),
      ("exclusiveMinimum", typed "number"),
      ("maxContains", reference "#/$defs/nonNegativeInteger"),
      ("maxItems", reference "#/$defs/nonNegativeInteger"),
      ("maxLength", reference "#/$defs/nonNegativeInteger"),
      ("maxProperties", reference "#/$defs/nonNegativeInteger"),
      ("maximum", typed "number"),
      ("minContains", .object [
        ("$ref", .string "#/$defs/nonNegativeInteger"),
        ("default", .int 1)]),
      ("minItems", reference "#/$defs/nonNegativeIntegerDefault0"),
      ("minLength", reference "#/$defs/nonNegativeIntegerDefault0"),
      ("minProperties", reference "#/$defs/nonNegativeIntegerDefault0"),
      ("minimum", typed "number"),
      ("multipleOf", .object [("exclusiveMinimum", .int 0), ("type", .string "number")]),
      ("pattern", .object [("format", .string "regex"), ("type", .string "string")]),
      ("required", reference "#/$defs/stringArray"),
      ("type", .object [
        ("anyOf", .array [
          reference "#/$defs/simpleTypes",
          .object [
            ("items", reference "#/$defs/simpleTypes"),
            ("minItems", .int 1),
            ("type", .string "array"),
            ("uniqueItems", .bool true)]])]),
      ("uniqueItems", .object [("default", .bool false), ("type", .string "boolean")])]),
    ("title", .string "Validation vocabulary meta-schema"),
    ("type", .array [.string "object", .string "boolean"])]

/-- Keywords that describe a schema. -/
def description : Json :=
  .object [
    ("$id", .string "https://json-schema.org/draft/2019-09/meta/meta-data"),
    ("$recursiveAnchor", .bool true),
    ("$schema", .string "https://json-schema.org/draft/2019-09/schema"),
    ("$vocabulary", .object [
      ("https://json-schema.org/draft/2019-09/vocab/meta-data", .bool true)]),
    ("properties", .object [
      ("default", .bool true),
      ("deprecated", .object [("default", .bool false), ("type", .string "boolean")]),
      ("description", typed "string"),
      ("examples", .object [("items", .bool true), ("type", .string "array")]),
      ("readOnly", .object [("default", .bool false), ("type", .string "boolean")]),
      ("title", typed "string"),
      ("writeOnly", .object [("default", .bool false), ("type", .string "boolean")])]),
    ("title", .string "Meta-data vocabulary meta-schema"),
    ("type", .array [.string "object", .string "boolean"])]

/-- Formats of strings. -/
def format : Json :=
  .object [
    ("$id", .string "https://json-schema.org/draft/2019-09/meta/format"),
    ("$recursiveAnchor", .bool true),
    ("$schema", .string "https://json-schema.org/draft/2019-09/schema"),
    ("$vocabulary", .object [
      ("https://json-schema.org/draft/2019-09/vocab/format", .bool true)]),
    ("properties", .object [("format", typed "string")]),
    ("title", .string "Format vocabulary meta-schema"),
    ("type", .array [.string "object", .string "boolean"])]

/-- Keywords about encoded contents. -/
def content : Json :=
  .object [
    ("$id", .string "https://json-schema.org/draft/2019-09/meta/content"),
    ("$recursiveAnchor", .bool true),
    ("$schema", .string "https://json-schema.org/draft/2019-09/schema"),
    ("$vocabulary", .object [
      ("https://json-schema.org/draft/2019-09/vocab/content", .bool true)]),
    ("properties", .object [
      ("contentEncoding", typed "string"),
      ("contentMediaType", typed "string"),
      ("contentSchema", anySchema)]),
    ("title", .string "Content vocabulary meta-schema"),
    ("type", .array [.string "object", .string "boolean"])]

/-- All vocabularies and some keywords of earlier times. -/
def root : Json :=
  .object [
    ("$id", .string "https://json-schema.org/draft/2019-09/schema"),
    ("$recursiveAnchor", .bool true),
    ("$schema", .string "https://json-schema.org/draft/2019-09/schema"),
    ("$vocabulary", .object [
      ("https://json-schema.org/draft/2019-09/vocab/applicator", .bool true),
      ("https://json-schema.org/draft/2019-09/vocab/content", .bool true),
      ("https://json-schema.org/draft/2019-09/vocab/core", .bool true),
      ("https://json-schema.org/draft/2019-09/vocab/format", .bool false),
      ("https://json-schema.org/draft/2019-09/vocab/meta-data", .bool true),
      ("https://json-schema.org/draft/2019-09/vocab/validation", .bool true)]),
    ("allOf", .array [
      reference "meta/core",
      reference "meta/applicator",
      reference "meta/validation",
      reference "meta/meta-data",
      reference "meta/format",
      reference "meta/content"]),
    ("properties", .object [
      ("definitions", .object [
        ("$comment", .string (
          "While no longer an official keyword as it is replaced by $defs, this " ++
          "keyword is retained in the meta-schema to prevent incompatible " ++
          "extensions as it remains in common use.")),
        ("additionalProperties", anySchema),
        ("default", .object []),
        ("type", .string "object")]),
      ("dependencies", .object [
        ("$comment", .string (
          "\"dependencies\" is no longer a keyword, but schema authors should " ++
          "avoid redefining it to facilitate a smooth transition to " ++
          "\"dependentSchemas\" and \"dependentRequired\"")),
        ("additionalProperties", .object [
          ("anyOf", .array [anySchema, reference "meta/validation#/$defs/stringArray"])]),
        ("type", .string "object")])]),
    ("title", .string "Core and Validation specifications meta-schema"),
    ("type", .array [.string "object", .string "boolean"])]

/-- The schemas. -/
def all : List Json := [root, core, applicator, validation, description, format, content]

end ServicePlan.Schema.Meta.Draft2019
