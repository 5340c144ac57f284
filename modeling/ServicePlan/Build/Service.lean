import ServicePlan.Build.Gateway
import ServicePlan.Build.Jobs

/-!
# Building a service

A service is built phase by phase: topics, front-end apps, the api, storage, and then functions
and batch jobs, branch by branch.  A phase reads only what earlier phases have entered in the
registry, or what the same branch has.

* `Blueprint.steps`: all steps.
* `Blueprint.build`: the run of all steps.
-/

namespace ServicePlan

namespace Blueprint

variable (b : Blueprint)

/-- For whom the functions of a branch are built. -/
def branchWiring (branch : String) : Wiring := ⟨some branch, none, .compute⟩

/-- The steps for the functions of a branch. -/
def computeSteps (branch : String) : List Step :=
  if b.spec.functions.isEmpty then
    [.info s!"No lambda_func for branch {branch}, nothing to compute"]
  else
    .info s!"Building compute of branch {branch}" ::
      b.functionsSteps (branchWiring branch) b.spec.functions

/-- The steps for everything that a branch has of its own. -/
def branchSteps (branch : String) : List Step := b.computeSteps branch ++ b.batchSteps branch

/-- The steps of a build. -/
def steps : List Step :=
  [.info s!"Building resource graph of {b.spec.apiName}"] ++
  b.messagingSteps ++ [.complete .messaging] ++
  b.frontendSteps ++ [.complete .frontend] ++
  b.gatewaySteps ++ [.complete .gateway] ++
  b.storageSteps ++ [.complete .storage] ++
  b.spec.branchNames.flatMap b.branchSteps ++
  [.complete .compute, .complete .batch]

/-- The record that ends a build. -/
def summary (p : Progress) : Record :=
  ⟨.info, s!"Resource graph of {b.spec.apiName} has {p.plan.size} intents, " ++
    s!"{p.warnings.length} warnings"⟩

/-- What a build starts from. -/
def start : Progress := { plan := .new b.spec.tags }

/-- Builds the plan of a service.  What has been done up to a fault is kept beside it. -/
def build : Progress × Option Fault :=
  match b.start.run b.steps with
  | (p, none) => (p.note (b.summary p), none)
  | (p, some f) => (p, some f)

end Blueprint

end ServicePlan
