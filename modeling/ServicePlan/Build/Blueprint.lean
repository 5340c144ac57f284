import ServicePlan.Build.Step
import ServicePlan.Policy
import ServicePlan.References
import ServicePlan.Spec.Service

/-!
# What a build works from

* `Blueprint`: a spec with its resolved references and what is known about the place it is built
  in.
* `Blueprint.environment`: the environment of functions, app branches and batch jobs.
* `permission`, `serviceRole`: intents that several phases use.
-/

namespace ServicePlan

/-- All inputs of a build. -/
structure Blueprint where
  /-- The spec. -/
  spec : ServiceSpec
  /-- The account and region. -/
  site : Deployment
  /-- The resolved references. -/
  references : References
  /-- The directory that relative paths are resolved against. -/
  root : Option String := none
  /-- The access token of the repositories. -/
  token : Option String := none
  /-- The files that the spec refers to. -/
  files : Files

namespace Blueprint

/-- The names of the resources. -/
def naming (b : Blueprint) : Naming := ⟨b.spec.apiName, b.site⟩

/-- A path of the spec as it is looked up. -/
def path (b : Blueprint) (path : String) : String := Path.resolve b.root path

/-- The environment of everything that runs for a branch.  What all branches share gets only the
names of the api and the service. -/
def environment (b : Blueprint) (branch : Option String) : Table String :=
  let shared := (Table.empty.insert "API" b.spec.apiName).insert "Service" b.spec.serviceName
  match branch with
  | none => shared
  | some name =>
    let own := shared.insert "Branch" name
    match b.spec.branches.get? name with
    | none => own
    | some branch =>
      let own := match branch.bucket with
        | some bucket => own.insert "Bucket" bucket
        | none => own
      match branch.notificationUrl with
      | some url => own.insert "NotificationUrl" url
      | none => own

/-- The environment of a branch as a list of pairs. -/
def environmentPairs (b : Blueprint) (branch : String) : Json :=
  .array ((b.environment (some branch)).entries.map fun e =>
    .object [("name", .string e.1), ("value", .string e.2)])

end Blueprint

/-- The intent to let a principal call a function on behalf of a source. -/
def permission (phase : Phase) (name : String) (function : Handle) (principal sourceArn : String)
    (source : Handle) : Intent :=
  .of .permission phase name
    (.object [
      ("action", .string "lambda:InvokeFunction"),
      ("function_name", .string function.ref),
      ("principal", .string principal),
      ("source_arn", .string sourceArn)])
    [function, source]

/-- The intent to create a role that a service assumes. -/
def serviceRole (phase : Phase) (name principal : String) (policies : List String) : Intent :=
  .of .role phase name
    (.object [
      ("assumed_by", .object [("service", .string principal)]),
      ("managed_policies", .strings policies),
      ("role_name", .string name)])

end ServicePlan
