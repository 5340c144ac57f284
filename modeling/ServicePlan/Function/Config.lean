import ServicePlan.Distinct
import ServicePlan.Function.Runtime

/-!
# Configurations of functions

A `FunctionConfig` holds everything a plan says about a function.  It starts from a name, a
handler and a runtime, with the settings for everything else.

* `FunctionConfig.addPolicies`: attaching managed policies, each once.
* `FunctionConfig.attributes`: the configuration as attributes of a resource.
-/

namespace ServicePlan

/-- The configuration of a function. -/
structure FunctionConfig where
  /-- The physical name. -/
  name : String
  /-- The runtime. -/
  runtime : Runtime
  /-- The entry point that handles events. -/
  handler : String
  /-- The path of the code asset. -/
  code : String := Settings.code
  /-- The largest execution time, in seconds. -/
  timeout : Int := Settings.timeout
  /-- The memory size in megabytes, if it is not left to the provider. -/
  memorySize : Option Int := none
  /-- The size of the temporary storage in megabytes, if it is not left to the provider. -/
  storageSize : Option Int := none
  /-- The resource names of the layers, with versions. -/
  layers : List String := []
  /-- The environment variables. -/
  environment : Table String := ∅
  /-- The managed policies of the role, the one for basic execution first. -/
  policies : List String := [Settings.basicExecutionPolicy]

namespace FunctionConfig

/-- Attaches managed policies, leaving out those that are attached already. -/
def addPolicies (c : FunctionConfig) (policies : List String) : FunctionConfig :=
  { c with policies := appendNew c.policies policies }

/-- The configuration as attributes. -/
def attributes (c : FunctionConfig) : Json :=
  .object [
    ("code", .string c.code),
    ("environment", .ofTable .string c.environment),
    ("function_name", .string c.name),
    ("handler", .string c.handler),
    ("layers", .strings c.layers),
    ("managed_policies", .strings c.policies),
    ("memory_size", .intOrNull c.memorySize),
    ("runtime", .string c.runtime.identifier),
    ("storage_size", .intOrNull c.storageSize),
    ("timeout", .int c.timeout)]

end FunctionConfig

end ServicePlan
