import ServicePlan.Spec.Frontend
import ServicePlan.Spec.Infrastructure
import ServicePlan.Spec.References

/-!
# Specs of services

A `ServiceSpec` is the whole declaration of a service: its names, its branches and what each of
them consists of.

* `BranchSpec`: one deployment line.
* `ServiceSpec.ofJson`, `ServiceSpec.ofText`: reading specs, with the checks beyond their form.
-/

namespace ServicePlan

/-- A branch. -/
structure BranchSpec where
  /-- The stage of the api that serves the branch. -/
  stage : Option String := none
  /-- The type of the stage of front-end apps. -/
  appStage : Option String := none
  /-- The bucket that functions get the name of. -/
  bucket : Option String := none
  /-- The place that functions send notifications to. -/
  notificationUrl : Option String := none
  deriving DecidableEq, Repr

namespace BranchSpec

/-- The fields of a branch. -/
def fields : Fields BranchSpec :=
  mk <$> .optional "apigw_stage" Decode.string
    <*> .optional "amplify_type" Decode.string
    <*> .optional "bucket" Decode.string
    <*> .optional "notification-url" Decode.string

/-- Decodes a branch. -/
def decode : Decoder BranchSpec := fields.decode "BranchSpec"

/-- The value of a branch. -/
def encode (b : BranchSpec) : Json :=
  .object [
    ("amplify_type", .stringOrNull b.appStage),
    ("apigw_stage", .stringOrNull b.stage),
    ("bucket", .stringOrNull b.bucket),
    ("notification-url", .stringOrNull b.notificationUrl)]

end BranchSpec

/-- A service. -/
structure ServiceSpec where
  /-- The name of the service, which functions get. -/
  serviceName : String
  /-- The name that the names of all resources start with. -/
  apiName : String
  /-- The branches. -/
  branches : Table BranchSpec
  /-- The entry point that all functions share. -/
  handler : String
  /-- Managed policies of every branch function. -/
  commonPolicies : List String := []
  /-- What exists outside of the spec. -/
  references : Option ReferenceSpec := none
  /-- Tags of every resource. -/
  tags : Table String := ∅
  /-- The runtime of functions that name none. -/
  defaultRuntime : Option String := none
  /-- The root of the repositories of front-end apps. -/
  repositoryRoot : Option String := none
  /-- The functions of each branch. -/
  functions : Table FunctionSpec := ∅
  /-- The HTTP api. -/
  gateway : Option GatewaySpec := none
  /-- The buckets, by their names. -/
  buckets : Option (Table BucketSpec) := none
  /-- The topics. -/
  topics : Option (Table TopicSpec) := none
  /-- The batch jobs of each branch. -/
  jobs : Option (Table JobSpec) := none
  /-- The front-end apps, by their names. -/
  apps : Option (Table AppSpec) := none

namespace ServiceSpec

/-- The fields of a service. -/
def fields : Fields ServiceSpec :=
  mk <$> .required "service_name" Decode.string
    <*> .required "api_name" Decode.string
    <*> .required "branch" (Decode.table BranchSpec.decode)
    <*> .required "lambda_handler" Decode.string
    <*> .withDefault "common_lambda_policy" (Decode.list Decode.string) []
    <*> .optional "ref" ReferenceSpec.decode
    <*> .withDefault "tags" (Decode.table Decode.string) ∅
    <*> .optional "default_runtime" Decode.string
    <*> .optional "repository_root" Decode.string
    <*> .withDefault "lambda_func" (Decode.table FunctionSpec.decode) ∅
    <*> .optional "apigw" GatewaySpec.decode
    <*> .optional "s3" (Decode.table BucketSpec.decode)
    <*> .optional "sns" (Decode.table TopicSpec.decode)
    <*> .optional "batch_func" (Decode.table JobSpec.decode)
    <*> .optional "amplify" (Decode.table AppSpec.decode)

/-- Decodes a service. -/
def decode : Decoder ServiceSpec := fields.decode "ServiceSpec"

/-- The value of a service. -/
def encode (s : ServiceSpec) : Json :=
  .object [
    ("amplify", .orNull (.ofTable AppSpec.encode) s.apps),
    ("api_name", .string s.apiName),
    ("apigw", .orNull GatewaySpec.encode s.gateway),
    ("batch_func", .orNull (.ofTable JobSpec.encode) s.jobs),
    ("branch", .ofTable BranchSpec.encode s.branches),
    ("common_lambda_policy", .strings s.commonPolicies),
    ("default_runtime", .stringOrNull s.defaultRuntime),
    ("lambda_func", .ofTable FunctionSpec.encode s.functions),
    ("lambda_handler", .string s.handler),
    ("ref", .orNull ReferenceSpec.encode s.references),
    ("repository_root", .stringOrNull s.repositoryRoot),
    ("s3", .orNull (.ofTable BucketSpec.encode) s.buckets),
    ("service_name", .string s.serviceName),
    ("sns", .orNull (.ofTable TopicSpec.encode) s.topics),
    ("tags", .ofTable .string s.tags)]

/-- What has to hold beyond the form: both names are nonempty and there is a branch. -/
def check (s : ServiceSpec) : Except Fault Unit :=
  if s.serviceName = "" then .error (.emptyName "service_name")
  else if s.apiName = "" then .error (.emptyName "api_name")
  else if s.branches.isEmpty then .error .noBranch
  else .ok ()

/-- The spec that a JSON value stands for. -/
def ofJson (v : Json) : Except Fault ServiceSpec := do
  let s ← (decode v).mapError .specShape
  s.check
  .ok s

/-- The spec that a text stands for. -/
def ofText (text : String) : Except Fault ServiceSpec := do
  let v ← (Json.read text).mapError .json
  ofJson v

/-- The names of the branches, in order. -/
def branchNames (s : ServiceSpec) : List String := s.branches.keys

end ServiceSpec

end ServicePlan
