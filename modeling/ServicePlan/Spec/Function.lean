import ServicePlan.Function.Runtime

/-!
# Functions in specs

A spec lists functions by their keys.  A function may be fed by a queue and may send messages on
to the queue of another function.

* `FunctionSpec`, `QueueSpec`: with their decoders and the values they are written as.
* `FunctionSpec.visibilityTimeout`: how long a message stays hidden while the function handles it.
-/

namespace ServicePlan

/-- The queue that feeds a function. -/
structure QueueSpec where
  /-- Seconds added to the timeout of the function to get the visibility timeout. -/
  additionalTimeout : Option Int := none
  deriving DecidableEq, Repr

namespace QueueSpec

/-- The fields of a queue. -/
def fields : Fields QueueSpec := mk <$> .optional "additional_timeout" Decode.int

/-- Decodes a queue. -/
def decode : Decoder QueueSpec := fields.decode "QueueSpec"

/-- The value of a queue. -/
def encode (q : QueueSpec) : Json := .object [("additional_timeout", .intOrNull q.additionalTimeout)]

end QueueSpec

/-- A function. -/
structure FunctionSpec where
  /-- The path of the code asset. -/
  code : Option String := none
  /-- The name of the runtime. -/
  runtime : Option String := none
  /-- The largest execution time, in seconds. -/
  timeout : Option Int := none
  /-- The memory size in megabytes. -/
  memorySize : Option Int := none
  /-- The size of the temporary storage in megabytes. -/
  storageSize : Option Int := none
  /-- The ids of the layers. -/
  layers : List String := []
  /-- The managed policies of the function. -/
  policies : List String := []
  /-- The queue that feeds the function. -/
  queue : Option QueueSpec := none
  /-- The key of the function whose queue gets the output. -/
  queueNext : Option String := none
  /-- The path of the schema of test events. -/
  test : Option String := none
  deriving DecidableEq, Repr

namespace FunctionSpec

/-- The fields of a function. -/
def fields : Fields FunctionSpec :=
  mk <$> .optional "code" Decode.string
    <*> .optional "runtime" Decode.string
    <*> .optional "timeout" Decode.int
    <*> .optional "memory_size" Decode.int
    <*> .optional "storage_size" Decode.int
    <*> .withDefault "layer_list" (Decode.list Decode.string) []
    <*> .withDefault "managed_policy" (Decode.list Decode.string) []
    <*> .optional "queue" QueueSpec.decode
    <*> .optional "queue_next" Decode.string
    <*> .optional "test" Decode.string

/-- Decodes a function. -/
def decode : Decoder FunctionSpec := fields.decode "LambdaSpec"

/-- The value of a function. -/
def encode (f : FunctionSpec) : Json :=
  .object [
    ("code", .stringOrNull f.code),
    ("layer_list", .strings f.layers),
    ("managed_policy", .strings f.policies),
    ("memory_size", .intOrNull f.memorySize),
    ("queue", .orNull QueueSpec.encode f.queue),
    ("queue_next", .stringOrNull f.queueNext),
    ("runtime", .stringOrNull f.runtime),
    ("storage_size", .intOrNull f.storageSize),
    ("test", .stringOrNull f.test),
    ("timeout", .intOrNull f.timeout)]

/-- The timeout that the function runs with. -/
def effectiveTimeout (f : FunctionSpec) (default : Int) : Int := f.timeout.getD default

/-- The largest timeout that can be expressed. -/
def maxTimeout : Int := 9223372036854775807

/-- The smallest timeout that can be expressed. -/
def minTimeout : Int := -9223372036854775808

/-- The visibility timeout of the queue, which covers the timeout of the function and what the
queue adds to it.  There is none without a queue. -/
def visibilityTimeout (f : FunctionSpec) (default : Int) : Except Fault (Option Int) :=
  match f.queue with
  | none => .ok none
  | some queue =>
    let timeout := f.effectiveTimeout default
    let additional := queue.additionalTimeout.getD Settings.additionalTimeout
    if minTimeout ≤ timeout + additional ∧ timeout + additional ≤ maxTimeout then
      .ok (some (timeout + additional))
    else .error (.timeoutOverflow timeout additional)

end FunctionSpec

end ServicePlan
