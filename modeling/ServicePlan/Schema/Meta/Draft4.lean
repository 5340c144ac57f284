import ServicePlan.Schema.Meta.Basic

/-!
# The schema of schemas of draft 4

One schema describes all keywords.

* `root`: the schema.
-/

namespace ServicePlan.Schema.Meta.Draft4

/-- The schema of schemas. -/
def root : Json :=
  .object [
    ("$schema", .string "http://json-schema.org/draft-04/schema#"),
    ("default", .object []),
    ("definitions", .object [
      ("positiveInteger", .object [("minimum", .int 0), ("type", .string "integer")]),
      ("positiveIntegerDefault0", .object [
        ("allOf", .array [
          reference "#/definitions/positiveInteger",
          .object [("default", .int 0)]])]),
      ("schemaArray", .object [
        ("items", reference "#"),
        ("minItems", .int 1),
        ("type", .string "array")]),
      ("simpleTypes", .object [
        ("enum", .array [
          .string "array",
          .string "boolean",
          .string "integer",
          .string "null",
          .string "number",
          .string "object",
          .string "string"])]),
      ("stringArray", .object [
        ("items", typed "string"),
        ("minItems", .int 1),
        ("type", .string "array"),
        ("uniqueItems", .bool true)])]),
    ("dependencies", .object [
      ("exclusiveMaximum", .array [.string "maximum"]),
      ("exclusiveMinimum", .array [.string "minimum"])]),
    ("description", .string "Core schema meta-schema"),
    ("id", .string "http://json-schema.org/draft-04/schema#"),
    ("properties", .object [
      ("$schema", typed "string"),
      ("additionalItems", .object [
        ("anyOf", .array [typed "boolean", reference "#"]),
        ("default", .object [])]),
      ("additionalProperties", .object [
        ("anyOf", .array [typed "boolean", reference "#"]),
        ("default", .object [])]),
      ("allOf", reference "#/definitions/schemaArray"),
      ("anyOf", reference "#/definitions/schemaArray"),
      ("default", .object []),
      ("definitions", .object [
        ("additionalProperties", reference "#"),
        ("default", .object []),
        ("type", .string "object")]),
      ("dependencies", .object [
        ("additionalProperties", .object [
          ("anyOf", .array [reference "#", reference "#/definitions/stringArray"])]),
        ("type", .string "object")]),
      ("description", typed "string"),
      ("enum", .object [
        ("minItems", .int 1),
        ("type", .string "array"),
        ("uniqueItems", .bool true)]),
      ("exclusiveMaximum", typed "boolean"),
      ("exclusiveMinimum", typed "boolean"),
      ("format", typed "string"),
      ("id", typed "string"),
      ("items", .object [
        ("anyOf", .array [reference "#", reference "#/definitions/schemaArray"]),
        ("default", .object [])]),
      ("maxItems", reference "#/definitions/positiveInteger"),
      ("maxLength", reference "#/definitions/positiveInteger"),
      ("maxProperties", reference "#/definitions/positiveInteger"),
      ("maximum", typed "number"),
      ("minItems", reference "#/definitions/positiveIntegerDefault0"),
      ("minLength", reference "#/definitions/positiveIntegerDefault0"),
      ("minProperties", reference "#/definitions/positiveIntegerDefault0"),
      ("minimum", typed "number"),
      ("multipleOf", .object [
        ("exclusiveMinimum", .bool true),
        ("minimum", .int 0),
        ("type", .string "number")]),
      ("not", reference "#"),
      ("oneOf", reference "#/definitions/schemaArray"),
      ("pattern", .object [("format", .string "regex"), ("type", .string "string")]),
      ("patternProperties", .object [
        ("additionalProperties", reference "#"),
        ("default", .object []),
        ("type", .string "object")]),
      ("properties", .object [
        ("additionalProperties", reference "#"),
        ("default", .object []),
        ("type", .string "object")]),
      ("required", reference "#/definitions/stringArray"),
      ("title", typed "string"),
      ("type", .object [
        ("anyOf", .array [
          reference "#/definitions/simpleTypes",
          .object [
            ("items", reference "#/definitions/simpleTypes"),
            ("minItems", .int 1),
            ("type", .string "array"),
            ("uniqueItems", .bool true)]])]),
      ("uniqueItems", .object [("default", .bool false), ("type", .string "boolean")])]),
    ("type", .string "object")]

end ServicePlan.Schema.Meta.Draft4
