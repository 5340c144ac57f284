import ServicePlan.Build.Functions
import ServicePlan.Build.Storage
import ServicePlan.Json.Printer

/-!
# Batch jobs in a plan

Every branch runs the batch jobs of the spec for itself.  A job has its own roles, compute
environment and queue, and a function of the branch is told about changes of its state.  Without
a network, or without subnets, there are no jobs, and a warning says so.

* `Blueprint.jobSteps`: the steps for one job of a branch.
* `Blueprint.batchSteps`: the steps for all jobs of a branch.
-/

namespace ServicePlan.Blueprint

variable (b : Blueprint) (branch key : String) (j : JobSpec) (network : NetworkSpec)

/-- The managed policies of the batch service. -/
def batchPolicies : List String := ["service-role/AWSBatchServiceRole"]

/-- The managed policies of the role that pulls images. -/
def executionPolicies : List String := ["service-role/AmazonECSTaskExecutionRolePolicy"]

/-- The managed policies of running jobs. -/
def jobPolicies : List String :=
  ["service-role/AWSBatchServiceEventTargetRole", "service-role/AWSLambdaRole",
    "service-role/AWSLambdaSQSQueueExecutionRole", "AmazonS3FullAccess"]

/-- The names of the resources of a job. -/
def jobNames : JobNames := b.naming.jobNames key branch

/-- The handle of the function that is told about a job. -/
def stateFunction : Handle := .of .function (b.naming.function j.stateFunction (some branch))

/-- The intents to create the roles of a job. -/
def jobRoles : List Intent :=
  let names := b.jobNames branch key
  [serviceRole .batch names.serviceRole "batch.amazonaws.com" batchPolicies,
    serviceRole .batch names.executionRole "ecs-tasks.amazonaws.com" executionPolicies,
    serviceRole .batch names.jobRole "ecs-tasks.amazonaws.com" jobPolicies]

/-- The intent to create the compute environment of a job. -/
def computeEnvironment : Intent :=
  let names := b.jobNames branch key
  let role : Handle := .of .role names.serviceRole
  .of .computeEnvironment .batch names.computeEnvironment
    (.object [
      ("compute_environment_name", .string names.computeEnvironment),
      ("compute_resources", .object [
        ("maxv_cpus", .int j.maxProcessors),
        ("security_group_ids", .strings [network.securityGroup]),
        ("subnets", .strings network.subnets),
        ("type", .string "FARGATE")]),
      ("service_role", .string role.arn),
      ("type", .string "MANAGED")])
    [role]

/-- The intent to create the queue of a job. -/
def jobQueue : Intent :=
  let names := b.jobNames branch key
  let environment : Handle := .of .computeEnvironment names.computeEnvironment
  .of .jobQueue .batch names.jobQueue
    (.object [
      ("compute_environment_order", .array [.object [
        ("compute_environment", .string environment.arn),
        ("order", .int 1)]]),
      ("job_queue_name", .string names.jobQueue),
      ("priority", .int 1)])
    [environment]

/-- The intent to create the rule for changes of the state of a job. -/
def jobRule : Intent :=
  let names := b.jobNames branch key
  let queue : Handle := .of .jobQueue names.jobQueue
  let function := b.stateFunction branch j
  .of .eventRule .batch names.rule
    (.object [
      ("event_pattern", .object [
        ("detail", .object [
          ("jobQueue", .strings [queue.arn]),
          ("status", .strings ["RUNNING", "SUCCEEDED", "FAILED"])]),
        ("detail_type", .strings ["Batch Job State Change"]),
        ("source", .strings ["aws.batch"])]),
      ("rule_name", .string names.rule),
      ("targets", .strings [function.arn])])
    [queue, function]

/-- A requirement of a run. -/
def requirement (type value : String) : Json :=
  .object [("type", .string type), ("value", .string value)]

/-- The requirements of a run of a job. -/
def requirements (j : JobSpec) : List Json :=
  (j.memory.toList.map fun memory => requirement "MEMORY" (toString memory)) ++
  (j.processors.toList.map fun n => requirement "VCPU" (String.ofList (Json.renderNumber n)))

/-- The intent to create the definition of a job. -/
def jobDefinition : Intent :=
  let names := b.jobNames branch key
  let executionRole : Handle := .of .role names.executionRole
  let jobRole : Handle := .of .role names.jobRole
  .of .jobDefinition .batch names.jobDefinition
    (.object [
      ("container_properties", .object [
        ("environment", b.environmentPairs branch),
        ("execution_role_arn", .string executionRole.arn),
        ("image", .string (b.naming.containerUrl key branch)),
        ("job_role_arn", .string jobRole.arn),
        ("log_configuration", .object [
          ("log_driver", .string "awslogs"),
          ("options", .object [("awslogs-group", .string names.job)])]),
        ("resource_requirements", .array (requirements j))]),
      ("job_definition_name", .string names.jobDefinition),
      ("platform_capabilities", .strings ["FARGATE"]),
      ("type", .string "container")])
    [b.repositoryHandle key, executionRole, jobRole, .of .logGroup names.job]

/-- The intents of a job, in order. -/
def jobIntents : List Intent :=
  let names := b.jobNames branch key
  let rule : Handle := .of .eventRule names.rule
  b.jobRoles branch key ++
  [b.computeEnvironment branch key j network, b.jobQueue branch key, b.jobRule branch key j,
    permission .batch (names.rule ++ "-permission") (b.stateFunction branch j)
      "events.amazonaws.com" rule.arn rule,
    .of .logGroup .batch names.job (.object [("log_group_name", .string names.job)]),
    b.jobDefinition branch key j]

/-- The steps for a job. -/
def jobSteps : List Step :=
  .require ⟨.function, some branch, j.stateFunction⟩ s!"queue_state_lambda of `{key}`" ::
    if network.subnets.isEmpty then
      [.warn s!"ignore creating {b.naming.job key branch} because vpc subnet_id_list is blank"]
    else (b.jobIntents branch key j network).map .emit

/-- The steps for all jobs of a branch. -/
def batchSteps : List Step :=
  match (b.spec.jobs.getD ∅).entries with
  | [] => []
  | jobs =>
    match b.references.network with
    | none =>
      [.warn s!"cannot create batch func of branch '{branch}': vpc is not defined in spec"]
    | some network =>
      .info s!"Building batch of branch {branch}" ::
        jobs.flatMap fun e => b.jobSteps branch e.1 e.2 network

end ServicePlan.Blueprint
