import ServicePlan.Placeholder
import ServicePlan.Settings

/-!
# Names of resources

The physical names of all resources are functions of the api name, the branch and the logical
key alone, so a second run over the same spec names the same resources.

* `Naming`: the api name and the deployment that all names start from.
* `Naming.function`, `Naming.waitingQueue`, …: one definition for each kind of resource.
* `JobNames`: the names of the resources that make up one batch job.
-/

namespace ServicePlan

/-- The names of the resources of one batch job. -/
structure JobNames where
  /-- The job itself, and its log group. -/
  job : String
  /-- The compute environment. -/
  computeEnvironment : String
  /-- The job queue. -/
  jobQueue : String
  /-- The job definition. -/
  jobDefinition : String
  /-- The role that the batch service assumes. -/
  serviceRole : String
  /-- The role that pulls the image and ships the logs. -/
  executionRole : String
  /-- The role that the running job assumes. -/
  jobRole : String
  /-- The rule for changes of the job state. -/
  rule : String
  deriving DecidableEq, Repr

/-- What the names of one api are made from. -/
structure Naming where
  /-- The api name, which most names start with. -/
  apiName : String
  /-- The account and region that resource names refer to. -/
  site : Deployment
  deriving DecidableEq, Repr

namespace Naming

variable (n : Naming)

/-- A function of a branch, or one that all branches share. -/
def function (key : String) : Option String → String
  | some branch => n.apiName ++ "-" ++ branch ++ "-" ++ key
  | none => n.apiName ++ "-" ++ key

/-- The queue that feeds a function. -/
def waitingQueue (key : String) (branch : Option String) : String :=
  n.function key branch ++ "_waiting"

/-- The queue of messages that a function failed to handle. -/
def deadQueue (key : String) (branch : Option String) : String :=
  n.function key branch ++ "_dead"

/-- A topic. -/
def topic (key : String) : String := n.apiName ++ "-" ++ key

/-- The container repository of a batch job, which all branches share. -/
def repository (key : String) : String := n.apiName ++ "-" ++ key

/-- A batch job of a branch. -/
def job (key branch : String) : String := n.apiName ++ "-" ++ branch ++ "-" ++ key

/-- All resources of a batch job. -/
def jobNames (key branch : String) : JobNames :=
  let job := n.job key branch
  let jobQueue := job ++ "-JobQueue"
  { job
    jobQueue
    computeEnvironment := job ++ "-ComputeEnvironment"
    jobDefinition := job ++ "-JobDef"
    serviceRole := job ++ "-BatchServiceRole"
    executionRole := job ++ "-ExecutionRole"
    jobRole := job ++ "-JobRole"
    rule := jobQueue ++ "-notice" }

/-- The host of the container registry of the region. -/
def registryHost : String :=
  (Bindings.none.bind .region n.site.region).substitute Settings.registryHost

/-- The image that a branch runs as a batch job. -/
def containerUrl (key branch : String) : String :=
  n.site.account ++ "." ++ n.registryHost ++ "/" ++ n.repository key ++ ":" ++ branch

/-- The authorizer of a user pool and an app. -/
def authorizer (user app : String) : String := "auth-" ++ user ++ "-" ++ app

/-- The function that an integration calls, where a stage variable stands for the branch. -/
def integrationFunction (key stageVariable : String) : String :=
  n.apiName ++ "-$\x7bstageVariables." ++ stageVariable ++ "\x7d-" ++ key

/-- The login client of an app. -/
def client (app : String) : String := app ++ "-client"

/-- The resource name of a function. -/
def functionArn (name : String) : String :=
  "arn:aws:lambda:" ++ n.site.region ++ ":" ++ n.site.account ++ ":function:" ++ name

/-- The resource name of a version of a layer. -/
def layerVersionArn (layer : String) (version : Int) : String :=
  "arn:aws:lambda:" ++ n.site.region ++ ":" ++ n.site.account ++ ":layer:" ++ layer ++ ":" ++
    toString version

/-- The issuer of the tokens of a user pool. -/
def userPoolUrl (userPoolId : String) : String :=
  "https://cognito-idp." ++ n.site.region ++ ".amazonaws.com/" ++ userPoolId

/-- The source that covers every stage, method and path of an api. -/
def executeApiArn (apiId : String) : String :=
  "arn:aws:execute-api:" ++ n.site.region ++ ":" ++ n.site.account ++ ":" ++ apiId ++ "/*/*/*"

end Naming

end ServicePlan
