import ServicePlan.Schema.Meta.Basic

/-!
# The schemas of schemas of 2020

Each vocabulary has a schema of its own; wherever a schema may stand, the schema of the whole
document applies again.

* `all`: the schemas.
-/

namespace ServicePlan.Schema.Meta.Draft2020

/-- A schema. -/
def anySchema : Json := .object [("$dynamicRef", .string "#meta")]

/-- Names, identifiers and references. -/
def core : Json :=
  .object [
    ("$defs", .object [
      ("anchorString", .object [
        ("pattern", .string "^[A-Za-z_][-A-Za-z0-9._]*$"),
        ("type", .string "string")]),
      ("uriReferenceString", .object [
        ("format", .string "uri-reference"),
        ("type", .string "string")]),
      ("uriString", .object [("format", .string "uri"), ("type", .string "string")])]),
    ("$dynamicAnchor", .string "meta"),
    ("$id", .string "https://json-schema.org/draft/2020-12/meta/core"),
    ("$schema", .string "https://json-schema.org/draft/2020-12/schema"),
    ("$vocabulary", .object [("https://json-schema.org/draft/2020-12/vocab/core", .bool true)]),
    ("properties", .object [
      ("$anchor", reference "#/$defs/anchorString"),
      ("$comment", typed "string"),
      ("$defs", .object [("additionalProperties", anySchema), ("type", .string "object")]),
      ("$dynamicAnchor", reference "#/$defs/anchorString"),
      ("$dynamicRef", reference "#/$defs/uriReferenceString"),
      ("$id", .object [
        ("$comment", .string "Non-empty fragments not allowed."),
        ("$ref", .string "#/$defs/uriReferenceString"),
        ("pattern", .string "^[^#]*#?$")]),
      ("$ref", reference "#/$defs/uriReferenceString"),
      ("$schema", reference "#/$defs/uriString"),
      ("$vocabulary", .object [
        ("additionalProperties", typed "boolean"),
        ("propertyNames", reference "#/$defs/uriString"),
        ("type", .string "object")])]),
    ("title", .string "Core vocabulary meta-schema"),
    ("type", .array [.string "object", .string "boolean"])]

/-- Keywords that apply schemas to a value or to parts of it. -/
def applicator : Json :=
  .object [
    ("$defs", .object [
      ("schemaArray", .object [
        ("items", anySchema),
        ("minItems", .int 1),
        ("type", .string "array")])]),
    ("$dynamicAnchor", .string "meta"),
    ("$id", .string "https://json-schema.org/draft/2020-12/meta/applicator"),
    ("$schema", .string "https://json-schema.org/draft/2020-12/schema"),
    ("$vocabulary", .object [
      ("https://json-schema.org/draft/2020-12/vocab/applicator", .bool true)]),
    ("properties", .object [
      ("additionalProperties", anySchema),
      ("allOf", reference "#/$defs/schemaArray"),
      ("anyOf", reference "#/$defs/schemaArray"),
      ("contains", anySchema),
      ("dependentSchemas", .object [
        ("additionalProperties", anySchema),
        ("default", .object []),
        ("type", .string "object")]),
      ("else", anySchema),
      ("if", anySchema),
      ("items", anySchema),
      ("not", anySchema),
      ("oneOf", reference "#/$defs/schemaArray"),
      ("patternProperties", .object [
        ("additionalProperties", anySchema),
        ("default", .object []),
        ("propertyNames", .object [("format", .string "regex")]),
        ("type", .string "object")]),
      ("prefixItems", reference "#/$defs/schemaArray"),
      ("properties", .object [
        ("additionalProperties", anySchema),
        ("default", .object []),
        ("type", .string "object")]),
      ("propertyNames", anySchema),
      ("then", anySchema)]),
    ("title", .string "Applicator vocabulary meta-schema"),
    ("type", .array [.string "object", .string "boolean"])]

/-- Keywords about parts that no other keyword looks at. -/
def unevaluated : Json :=
  .object [
    ("$dynamicAnchor", .string "meta"),
    ("$id", .string "https://json-schema.org/draft/2020-12/meta/unevaluated"),
    ("$schema", .string "https://json-schema.org/draft/2020-12/schema"),
    ("$vocabulary", .object [
      ("https://json-schema.org/draft/2020-12/vocab/unevaluated", .bool true)]),
    ("properties", .object [
      ("unevaluatedItems", anySchema),
      ("unevaluatedProperties", anySchema)]),
    ("title", .string "Unevaluated applicator vocabulary meta-schema"),
    ("type", .array [.string "object", .string "boolean"])]

/-- Keywords about single values. -/
def validation : Json :=
  .object [
    ("$defs", .object [
      ("nonNegativeInteger", .object [("minimum", .int 0), ("type", .string "integer")]),
      ("nonNegativeIntegerDefault0", .object [
        ("$ref", .string "#/$defs/nonNegativeInteger"),
        ("default", .int 0)]),
      ("simpleTypes", .object [
        ("enum", .array [
          .string "array",
          .string "boolean",
          .string "integer",
          .string "null",
          .string "number",
          .string "object",
          .string "string"])]),
      ("stringArray", .object [
        ("default", .array []),
        ("items", typed "string"),
        ("type", .string "array"),
        ("uniqueItems", .bool true)])]),
    ("$dynamicAnchor", .string "meta"),
    ("$id", .string "https://json-schema.org/draft/2020-12/meta/validation"),
    ("$schema", .string "https://json-schema.org/draft/2020-12/schema"),
    ("$vocabulary", .object [
      ("https://json-schema.org/draft/2020-12/vocab/validation", .bool true)]),
    ("properties", .object [
      ("const", .bool true),
      ("dependentRequired", .object [
        ("additionalProperties", reference "#/$defs/stringArray"),
        ("type", .string "object")]),
      ("enum", .object [("items", .bool true), ("type", .string "array")]),
      ("exclusiveMaximum", typed "number"),
      ("exclusiveMinimum", typed "number"),
      ("maxContains", reference "#/$defs/nonNegativeInteger"),
      ("maxItems", reference "#/$defs/nonNegativeInteger"),
      ("maxLength", reference "#/$defs/nonNegativeInteger"),
      ("maxProperties", reference "#/$defs/nonNegativeInteger"),
      ("maximum", typed "number"),
      ("minContains", .object [
        ("$ref", .string "#/$defs/nonNegativeInteger"),
        ("default", .int 1)]),
      ("minItems", reference "#/$defs/nonNegativeIntegerDefault0"),
      ("minLength", reference "#/$defs/nonNegativeIntegerDefault0"),
      ("minProperties", reference "#/$defs/nonNegativeIntegerDefault0"),
      ("minimum", typed "number"),
      ("multipleOf", .object [("exclusiveMinimum", .int 0), ("type", .string "number")]),
      ("pattern", .object [("format", .string "regex"), ("type", .string "string")]),
      ("required", reference "#/$defs/stringArray"),
      ("type", .object [
        ("anyOf", .array [
          reference "#/$defs/simpleTypes",
          .object [
            ("items", reference "#/$defs/simpleTypes"),
            ("minItems", .int 1),
            ("type", .string "array"),
            ("uniqueItems", .bool true)]])]),
      ("uniqueItems", .object [("default", .bool false), ("type", .string "boolean")])]),
    ("title", .string "Validation vocabulary meta-schema"),
    ("type", .array [.string "object", .string "boolean"])]

/-- Keywords that describe a schema. -/
def description : Json :=
  .object [
    ("$dynamicAnchor", .string "meta"),
    ("$id", .string "https://json-schema.org/draft/2020-12/meta/meta-data"),
    ("$schema", .string "https://json-schema.org/draft/2020-12/schema"),
    ("$vocabulary", .object [
      ("https://json-schema.org/draft/2020-12/vocab/meta-data", .bool true)]),
    ("properties", .object [
      ("default", .bool true),
      ("deprecated", .object [("default", .bool false), ("type", .string "boolean")]),
      ("description", typed "string"),
      ("examples", .object [("items", .bool true), ("type", .string "array")]),
      ("readOnly", .object [("default", .bool false), ("type", .string "boolean")]),
      ("title", typed "string"),
      ("writeOnly", .object [("default", .bool false), ("type", .string "boolean")])]),
    ("title", .string "Meta-data vocabulary meta-schema"),
    ("type", .array [.string "object", .string "boolean"])]

/-- Formats of strings. -/
def format : Json :=
  .object [
    ("$dynamicAnchor", .string "meta"),
    ("$id", .string "https://json-schema.org/draft/2020-12/meta/format-annotation"),
    ("$schema", .string "https://json-schema.org/draft/2020-12/schema"),
    ("$vocabulary", .object [
      ("https://json-schema.org/draft/2020-12/vocab/format-annotation", .bool true)]),
    ("properties", .object [("format", typed "string")]),
    ("title", .string "Format vocabulary meta-schema for annotation results"),
    ("type", .array [.string "object", .string "boolean"])]

/-- Keywords about encoded contents. -/
def content : Json :=
  .object [
    ("$dynamicAnchor", .string "meta"),
    ("$id", .string "https://json-schema.org/draft/2020-12/meta/content"),
    ("$schema", .string "https://json-schema.org/draft/2020-12/schema"),
    ("$vocabulary", .object [
      ("https://json-schema.org/draft/2020-12/vocab/content", .bool true)]),
    ("properties", .object [
      ("contentEncoding", typed "string"),
      ("contentMediaType", typed "string"),
      ("contentSchema", anySchema)]),
    ("title", .string "Content vocabulary meta-schema"),
    ("type", .array [.string "object", .string "boolean"])]

/-- All vocabularies and some keywords of earlier times. -/
def root : Json :=
  .object [
    ("$comment", .string (
      "This meta-schema also defines keywords that have appeared in previous " ++
      "drafts in order to prevent incompatible extensions as they remain in common " ++
      "use.")),
    ("$dynamicAnchor", .string "meta"),
    ("$id", .string "https://json-schema.org/draft/2020-12/schema"),
    ("$schema", .string "https://json-schema.org/draft/2020-12/schema"),
    ("$vocabulary", .object [
      ("https://json-schema.org/draft/2020-12/vocab/applicator", .bool true),
      ("https://json-schema.org/draft/2020-12/vocab/content", .bool true),
      ("https://json-schema.org/draft/2020-12/vocab/core", .bool true),
      ("https://json-schema.org/draft/2020-12/vocab/format-annotation", .bool true),
      ("https://json-schema.org/draft/2020-12/vocab/meta-data", .bool true),
      ("https://json-schema.org/draft/2020-12/vocab/unevaluated", .bool true),
      ("https://json-schema.org/draft/2020-12/vocab/validation", .bool true)]),
    ("allOf", .array [
      reference "meta/core",
      reference "meta/applicator",
      reference "meta/unevaluated",
      reference "meta/validation",
      reference "meta/meta-data",
      reference "meta/format-annotation",
      reference "meta/content"]),
    ("properties", .object [
      ("$recursiveAnchor", .object [
        ("$comment", .string "\"$recursiveAnchor\" has been replaced by \"$dynamicAnchor\"."),
        ("$ref", .string "meta/core#/$defs/anchorString"),
        ("deprecated", .bool true)]),
      ("$recursiveRef", .object [
        ("$comment", .string "\"$recursiveRef\" has been replaced by \"$dynamicRef\"."),
        ("$ref", .string "meta/core#/$defs/uriReferenceString"),
        ("deprecated", .bool true)]),
      ("definitions", .object [
        ("$comment", .string "\"definitions\" has been replaced by \"$defs\"."),
        ("additionalProperties", anySchema),
        ("default", .object []),
        ("deprecated", .bool true),
        ("type", .string "object")]),
      ("dependencies", .object [
        ("$comment", .string (
          "\"dependencies\" has been split and replaced by \"dependentSchemas\" " ++
          "and \"dependentRequired\" in order to serve their differing semantics.")),
        ("additionalProperties", .object [
          ("anyOf", .array [anySchema, reference "meta/validation#/$defs/stringArray"])]),
        ("default", .object []),
        ("deprecated", .bool true),
        ("type", .string "object")])]),
    ("title", .string "Core and Validation specifications meta-schema"),
    ("type", .array [.string "object", .string "boolean"])]

/-- The schemas. -/
def all : List Json := [root, core, applicator, unevaluated, validation, description, format, content]

end ServicePlan.Schema.Meta.Draft2020
