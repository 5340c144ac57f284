import ServicePlan.Schema.Meta.Basic

/-!
# The schema of schemas of draft 7

One schema describes all keywords.

* `root`: the schema.
-/

namespace ServicePlan.Schema.Meta.Draft7

/-- The schema of schemas. -/
def root : Json :=
  .object [
    ("$id", .string "http://json-schema.org/draft-07/schema#"),
    ("$schema", .string "http://json-schema.org/draft-07/schema#"),
    ("default", .bool true),
    ("definitions", .object [
      ("nonNegativeInteger", .object [("minimum", .int 0), ("type", .string "integer")]),
      ("nonNegativeIntegerDefault0", .object [
        ("allOf", .array [
          reference "#/definitions/nonNegativeInteger",
          .object [("default", .int 0)]])]),
      ("schemaArray", .object [
        ("items", reference "#"),
        ("minItems", .int 1),
        ("type", .string "array")]),
      ("simpleTypes", .object [
        ("enum", .array [
          .string "array",
          .string "boolean",
          .string "integer",
          .string "null",
          .string "number",
          .string "object",
          .string "string"])]),
      ("stringArray", .object [
        ("default", .array []),
        ("items", typed "string"),
        ("type", .string "array"),
        ("uniqueItems", .bool true)])]),
    ("properties", .object [
      ("$comment", typed "string"),
      ("$id", .object [("format", .string "uri-reference"), ("type", .string "string")]),
      ("$ref", .object [("format", .string "uri-reference"), ("type", .string "string")]),
      ("$schema", .object [("format", .string "uri"), ("type", .string "string")]),
      ("additionalItems", reference "#"),
      ("additionalProperties", reference "#"),
      ("allOf", reference "#/definitions/schemaArray"),
      ("anyOf", reference "#/definitions/schemaArray"),
      ("const", .bool true),
      ("contains", reference "#"),
      ("contentEncoding", typed "string"),
      ("contentMediaType", typed "string"),
      ("default", .bool true),
      ("definitions", .object [
        ("additionalProperties", reference "#"),
        ("default", .object []),
        ("type", .string "object")]),
      ("dependencies", .object [
        ("additionalProperties", .object [
          ("anyOf", .array [reference "#", reference "#/definitions/stringArray"])]),
        ("type", .string "object")]),
      ("description", typed "string"),
      ("else", reference "#"),
      ("enum", .object [("items", .bool true), ("type", .string "array")]),
      ("examples", .object [("items", .bool true), ("type", .string "array")]),
      ("exclusiveMaximum", typed "number"),
      ("exclusiveMinimum", typed "number"),
      ("format", typed "string"),
      ("if", reference "#"),
      ("items", .object [
        ("anyOf", .array [reference "#", reference "#/definitions/schemaArray"]),
        ("default", .bool true)]),
      ("maxItems", reference "#/definitions/nonNegativeInteger"),
      ("maxLength", reference "#/definitions/nonNegativeInteger"),
      ("maxProperties", reference "#/definitions/nonNegativeInteger"),
      ("maximum", typed "number"),
      ("minItems", reference "#/definitions/nonNegativeIntegerDefault0"),
      ("minLength", reference "#/definitions/nonNegativeIntegerDefault0"),
      ("minProperties", reference "#/definitions/nonNegativeIntegerDefault0"),
      ("minimum", typed "number"),
      ("multipleOf", .object [("exclusiveMinimum", .int 0), ("type", .string "number")]),
      ("not", reference "#"),
      ("oneOf", reference "#/definitions/schemaArray"),
      ("pattern", .object [("format", .string "regex"), ("type", .string "string")]),
      ("patternProperties", .object [
        ("additionalProperties", reference "#"),
        ("default", .object []),
        ("propertyNames", .object [("format", .string "regex")]),
        ("type", .string "object")]),
      ("properties", .object [
        ("additionalProperties", reference "#"),
        ("default", .object []),
        ("type", .string "object")]),
      ("propertyNames", reference "#"),
      ("readOnly", .object [("default", .bool false), ("type", .string "boolean")]),
      ("required", reference "#/definitions/stringArray"),
      ("then", reference "#"),
      ("title", typed "string"),
      ("type", .object [
        ("anyOf", .array [
          reference "#/definitions/simpleTypes",
          .object [
            ("items", reference "#/definitions/simpleTypes"),
            ("minItems", .int 1),
            ("type", .string "array"),
            ("uniqueItems", .bool true)]])]),
      ("uniqueItems", .object [("default", .bool false), ("type", .string "boolean")])]),
    ("title", .string "Core schema meta-schema"),
    ("type", .array [.string "object", .string "boolean"])]

end ServicePlan.Schema.Meta.Draft7
