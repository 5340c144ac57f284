import ServicePlan.Json.Basic

/-!
# Parts of the schemas of schemas

Schemas that occur again and again in the schemas of schemas.
-/

namespace ServicePlan.Schema.Meta

/-- The schema that a reference leads to. -/
def reference (target : String) : Json := .object [("$ref", .string target)]

/-- The schema of the values of a type. -/
def typed (type : String) : Json := .object [("type", .string type)]

end ServicePlan.Schema.Meta
