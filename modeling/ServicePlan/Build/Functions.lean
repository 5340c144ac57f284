import ServicePlan.Build.Blueprint
import ServicePlan.Build.QueueChain
import ServicePlan.Function.Config

/-!
# Functions in a plan

Functions come with what feeds them: the api, a topic or a queue.  The functions of a spec are
built once for each branch, and the functions of a topic once for all branches.

* `Wiring`: for whom functions are built.
* `Blueprint.functionSteps`: the steps for one function.
* `Blueprint.functionsSteps`: the steps for all functions of a table.
-/

namespace ServicePlan

/-- For whom functions are built. -/
structure Wiring where
  /-- The branch, unless all branches share the functions. -/
  branch : Option String
  /-- The topic that feeds the functions, if one does. -/
  sender : Option Handle
  /-- The phase that builds them. -/
  phase : Phase

/-- The registry key of a function. -/
def Wiring.functionKey (w : Wiring) (key : String) : Registry.Key := ⟨.function, w.branch, key⟩

namespace Blueprint

variable (b : Blueprint) (w : Wiring) (key : String) (f : FunctionSpec)

/-- The physical name of a function. -/
def functionName : String := b.naming.function key w.branch

/-- The handle of a function. -/
def functionHandle : Handle := .of .function (b.functionName w key)

/-- The environment of a function. -/
def functionEnvironment : Table String :=
  let shared := b.environment w.branch
  match f.queueNext with
  | some next => shared.insert "NextSQS" (b.naming.waitingQueue next w.branch)
  | none => shared

/-- The configuration of a function, given its runtime and its layers. -/
def functionConfig (runtime : Runtime) (layers : List String) : FunctionConfig :=
  let config : FunctionConfig := {
    name := b.functionName w key
    runtime
    handler := b.spec.handler
    code := match f.code with
      | some code => b.path code
      | none => Settings.code
    timeout := f.effectiveTimeout Settings.timeout
    memorySize := f.memorySize
    storageSize := f.storageSize
    layers
    environment := b.functionEnvironment w f }
  let config := config.addPolicies f.policies
  if w.branch.isSome then config.addPolicies b.spec.commonPolicies else config

/-- The steps for the test events of a function, whose schema is read from a file. -/
def testSteps : List Step :=
  match f.test with
  | none => []
  | some test =>
    let path := b.path test
    let name := b.functionName w key
    match b.files path with
    | .error failure => [.fail (.unreadableTest path name failure)]
    | .ok content =>
      let schema := name ++ "-schema"
      [.emit <| .of .eventSchema w.phase schema
        (.object [
          ("content", .string content),
          ("description", .string "test event for lambda"),
          ("registry_name", .string Settings.testEventRegistry),
          ("schema_name", .string ("_" ++ schema)),
          ("type", .string "OpenApi3")])
        [b.functionHandle w key]]

/-- The handle of the api. -/
def apiHandle : Handle := .of .api b.spec.apiName

/-- The registry key of the api. -/
def apiKey : Registry.Key := ⟨.gateway, none, b.spec.apiName⟩

/-- Whether the api calls a function, which only branch functions are called by. -/
def isIntegrated : Bool :=
  w.branch.isSome && b.spec.gateway.any fun g => g.integrations.contains key

/-- The steps that let the api call a function. -/
def apiSteps : List Step :=
  if b.isIntegrated w key then
    [.require b.apiKey s!"lambda_integration of `{key}`",
      .emit <| permission w.phase (b.functionName w key ++ "-permission") (b.functionHandle w key)
        "apigateway.amazonaws.com" (b.naming.executeApiArn b.apiHandle.ref) b.apiHandle]
  else []

/-- The steps that let a topic feed a function. -/
def senderSteps : List Step :=
  match w.sender with
  | none => []
  | some topic =>
    let function := b.functionHandle w key
    [.emit <| .of .subscription w.phase (b.functionName w key ++ "-subscription")
        (.object [
          ("endpoint", .string function.arn),
          ("protocol", .string "lambda"),
          ("topic_arn", .string topic.arn)])
        [topic, function],
      .emit <| permission w.phase (b.functionName w key ++ "-sns-permission") function
        "sns.amazonaws.com" topic.arn topic]

/-- The steps for the queue that feeds a function, the queue for messages that it cannot handle,
and the trigger between the first queue and the function. -/
def queueSteps : List Step :=
  Step.orFail (f.visibilityTimeout Settings.timeout) fun
    | none => []
    | some timeout =>
      let deadName := b.naming.deadQueue key w.branch
      let dead : Handle := .of .queue deadName
      let waitingName := b.naming.waitingQueue key w.branch
      let waiting : Handle := .of .queue waitingName
      let function := b.functionHandle w key
      [.emit <| .of .queue w.phase deadName (.object [("queue_name", .string deadName)]),
        .note ⟨.debug, s!"{waitingName} visibility timeout {timeout}s"⟩,
        .emit <| .of .queue w.phase waitingName
          (.object [
            ("dead_letter_queue", .object [
              ("max_receive_count", .int Settings.maxReceiveCount),
              ("target_arn", .string dead.arn)]),
            ("queue_name", .string waitingName),
            ("visibility_timeout", .int timeout)])
          [dead],
        .emit <| .of .eventSourceMapping w.phase (waitingName ++ "-trigger")
          (.object [
            ("batch_size", .int Settings.batchSize),
            ("event_source_arn", .string waiting.arn),
            ("function_name", .string function.ref)])
          [waiting, function]]

/-- The steps for one function. -/
def functionSteps : List Step :=
  Step.orFail (Runtime.resolve f.runtime b.spec.defaultRuntime) fun runtime =>
    Step.orFail (b.references.layerArns f.layers s!"layer_list of `{key}`") fun layers =>
      [.emit <| .of .function w.phase (b.functionName w key)
        (b.functionConfig w key f runtime layers).attributes] ++
      b.testSteps w key f ++ b.apiSteps w key ++ b.senderSteps w key ++ b.queueSteps w key f ++
      [.register (w.functionKey key) (b.functionHandle w key)]

/-- The steps for all functions of a table, in key order. -/
def functionsSteps (functions : Table FunctionSpec) : List Step :=
  Step.orFail (QueueChain.check functions) fun _ =>
    functions.entries.flatMap fun e => b.functionSteps w e.1 e.2

end Blueprint

end ServicePlan
