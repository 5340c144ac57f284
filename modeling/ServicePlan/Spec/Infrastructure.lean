import ServicePlan.Spec.Function

/-!
# Topics, buckets and batch jobs in specs

* `TopicSpec`: a topic and the functions it feeds, which all branches share.
* `BucketSpec`: a bucket.
* `JobSpec`: a container job, which every branch runs for itself.
-/

namespace ServicePlan

/-- A topic and the functions it feeds. -/
structure TopicSpec where
  /-- What the topic is shown as. -/
  description : Option String := none
  /-- The functions that the topic feeds. -/
  functions : Option (Table FunctionSpec) := none

namespace TopicSpec

/-- The fields of a topic. -/
def fields : Fields TopicSpec :=
  mk <$> .optional "description" Decode.string
    <*> .optional "lambda_func" (Decode.table FunctionSpec.decode)

/-- Decodes a topic. -/
def decode : Decoder TopicSpec := fields.decode "TopicSpec"

/-- The value of a topic. -/
def encode (t : TopicSpec) : Json :=
  .object [
    ("description", .stringOrNull t.description),
    ("lambda_func", .orNull (.ofTable FunctionSpec.encode) t.functions)]

end TopicSpec

/-- A bucket. -/
structure BucketSpec where
  /-- Whether everyone may read it. -/
  publicRead : Bool := false
  /-- Whether it serves a website. -/
  websiteHosting : Bool := false
  deriving DecidableEq, Repr

namespace BucketSpec

/-- The fields of a bucket. -/
def fields : Fields BucketSpec :=
  mk <$> .withDefault "public_read" Decode.bool false
    <*> .withDefault "website_hosting" Decode.bool false

/-- Decodes a bucket. -/
def decode : Decoder BucketSpec := fields.decode "BucketSpec"

/-- The value of a bucket. -/
def encode (b : BucketSpec) : Json :=
  .object [("public_read", .bool b.publicRead), ("website_hosting", .bool b.websiteHosting)]

end BucketSpec

/-- A container job. -/
structure JobSpec where
  /-- The upper bound of processors of the compute environment. -/
  maxProcessors : Int
  /-- The memory of a run, in megabytes. -/
  memory : Option Int := none
  /-- The processors of a run, which may be a fraction of one. -/
  processors : Option Number := none
  /-- The key of the branch function that is told about changes of the job state. -/
  stateFunction : String
  deriving DecidableEq, Repr

namespace JobSpec

/-- The fields of a job. -/
def fields : Fields JobSpec :=
  mk <$> .required "maxv_cpus" Decode.int
    <*> .optional "memory" Decode.int
    <*> .optional "vcpu" Decode.number
    <*> .required "queue_state_lambda" Decode.string

/-- Decodes a job. -/
def decode : Decoder JobSpec := fields.decode "BatchFuncSpec"

/-- The value of a job. -/
def encode (j : JobSpec) : Json :=
  .object [
    ("maxv_cpus", .int j.maxProcessors),
    ("memory", .intOrNull j.memory),
    ("queue_state_lambda", .string j.stateFunction),
    ("vcpu", .orNull .number j.processors)]

end JobSpec

end ServicePlan
