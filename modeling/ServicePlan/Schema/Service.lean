import ServicePlan.Schema.Report

/-!
# The schema of service specs

Every spec keeps this schema before anything is planned from it.  Records allow no members beyond
their fields; only the cognito and network references may carry more.

* `Schema.ofServices`: the document that service specs keep.
-/

namespace ServicePlan.Schema.Service

/-- A string. -/
def text : Schema := .rules [.types [.string]]

/-- A string with at least one character. -/
def name : Schema := .rules [.minLength 1, .types [.string]]

/-- A truth value. -/
def flag : Schema := .rules [.types [.boolean]]

/-- An integer between two bounds. -/
def between (least most : Int) : Schema :=
  .rules [.maximum (.integer most), .minimum (.integer least), .types [.integer]]

/-- An integer with a lower bound. -/
def atLeast (least : Int) : Schema := .rules [.minimum (.integer least), .types [.integer]]

/-- A list of strings, by reference. -/
def texts : Schema := .rules [.reference "#/$defs/string_list"]

/-- An object whose members all keep a schema. -/
def mapOf (s : Schema) : Schema := .rules [.members [] [] s, .types [.object]]

/-- A record with fields and no other members. -/
def record (fields : List (String × Schema)) : Schema :=
  .rules [.members fields [] .nothing, .types [.object]]

/-- A record some of whose fields have to be given. -/
def recordWith (needed : List String) (fields : List (String × Schema)) : Schema :=
  .rules [.members fields [] .nothing, .required needed, .types [.object]]

/-- A record that may have members beyond its fields. -/
def openRecord (needed : List String) (fields : List (String × Schema)) : Schema :=
  .rules [.properties fields, .required needed, .types [.object]]

/-- What the schema says about a kind of block, by reference. -/
def block (kind : String) : Schema := .rules [.reference ("#/$defs/" ++ kind)]

/-- A branch. -/
def branch : Schema :=
  record [
    ("amplify_type", .rules [.enum [
      .string "PRODUCTION", .string "BETA", .string "DEVELOPMENT", .string "EXPERIMENTAL",
      .string "PULL_REQUEST"]]),
    ("apigw_stage", text), ("bucket", text), ("notification-url", text)]

/-- What functions and apps refer to outside of the spec. -/
def references : Schema :=
  record [
    ("cognito", mapOf (openRecord ["user_pool_id"] [("user_pool_id", name)])),
    ("lambda_layer", mapOf name),
    ("vpc", openRecord ["subnet_id_list", "security_group_id"]
      [("security_group_id", text), ("subnet_id_list", texts)])]

/-- A function. -/
def function : Schema :=
  record [
    ("code", text), ("layer_list", texts), ("managed_policy", texts),
    ("memory_size", between 128 10240),
    ("queue", record [("additional_timeout", between 0 42300)]),
    ("queue_next", text), ("runtime", text), ("storage_size", between 512 10240),
    ("test", text), ("timeout", between 1 900)]

/-- The HTTP api. -/
def gateway : Schema :=
  recordWith ["lambda_integration"] [
    ("certificate_arn", text), ("description", text), ("domain", text),
    ("lambda_integration", mapOf (block "route")), ("zone_id", text)]

/-- An integration, whose routes are given in exactly one way. -/
def route : Schema :=
  .rules [
    .members [
      ("cognito_auth", recordWith ["user", "app"] [("app", text), ("user", text)]),
      ("openapi_yaml", text), ("route", texts), ("route_openapi", text)] [] .nothing,
    .oneOf [
      .rules [.required ["route"]], .rules [.required ["route_openapi"]],
      .rules [.required ["openapi_yaml"]]],
    .types [.object]]

/-- A bucket. -/
def bucket : Schema := record [("public_read", flag), ("website_hosting", flag)]

/-- A topic with the functions it feeds. -/
def topic : Schema := record [("description", text), ("lambda_func", block "lambda_map")]

/-- A batch job. -/
def job : Schema :=
  recordWith ["maxv_cpus", "queue_state_lambda"] [
    ("maxv_cpus", atLeast 1), ("memory", atLeast 512), ("queue_state_lambda", text),
    ("vcpu", .rules [.exclusiveMinimum (.integer 0), .types [.number]])]

/-- A front-end app. -/
def app : Schema :=
  recordWith ["domain"] [
    ("cognito_auth", text), ("deploy_event_sns", text), ("description", text), ("domain", text),
    ("inline_policy", texts), ("managed_policy", texts)]

/-- A whole spec. -/
def root : Schema :=
  .rules [
    .members [
      ("amplify", mapOf (block "app")), ("api_name", name), ("apigw", block "apigw"),
      ("batch_func", mapOf (block "batch")),
      ("branch", .rules [
        .members [] [] (block "branch"), .minProperties 1, .types [.object]]),
      ("common_lambda_policy", texts), ("default_runtime", text),
      ("lambda_func", block "lambda_map"), ("lambda_handler", name), ("ref", block "ref"),
      ("repository_root", text), ("s3", mapOf (block "bucket")), ("service_name", name),
      ("sns", mapOf (block "topic")), ("tags", mapOf text)] [] .nothing,
    .required ["service_name", "api_name", "branch", "lambda_handler"],
    .types [.object]]

end ServicePlan.Schema.Service

namespace ServicePlan.Schema

/-- The schema of service specs. -/
def ofServices : Document where
  root := Service.root
  definitions := [
    ("#/$defs/app", Service.app), ("#/$defs/apigw", Service.gateway),
    ("#/$defs/batch", Service.job), ("#/$defs/branch", Service.branch),
    ("#/$defs/bucket", Service.bucket), ("#/$defs/lambda", Service.function),
    ("#/$defs/lambda_map", Service.mapOf (Service.block "lambda")),
    ("#/$defs/ref", Service.references), ("#/$defs/route", Service.route),
    ("#/$defs/string_list", .rules [.items 0 Service.text, .types [.array]]),
    ("#/$defs/topic", Service.topic)]

end ServicePlan.Schema
