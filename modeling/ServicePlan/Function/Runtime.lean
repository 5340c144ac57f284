import ServicePlan.Fault
import ServicePlan.Settings

/-!
# Runtimes of functions

A function runs on one of a fixed set of runtimes.  Each has two names: a constant name and an
identifier, which plans use.

* `Runtime.ofName?`: reading either name.
* `Runtime.resolve`: the runtime of a function, from the names that the function, the spec and
  the settings give.
-/

namespace ServicePlan

/-- The runtimes that functions may use. -/
inductive Runtime
  | python39
  | python310
  | python311
  | python312
  | python313
  | nodejs18
  | nodejs20
  | nodejs22
  | java17
  | java21
  | providedAl2
  | providedAl2023
  deriving DecidableEq, Repr

namespace Runtime

/-- All runtimes. -/
def all : List Runtime :=
  [python39, python310, python311, python312, python313, nodejs18, nodejs20, nodejs22, java17,
    java21, providedAl2, providedAl2023]

/-- The constant name. -/
def constant : Runtime → String
  | python39 => "PYTHON_3_9"
  | python310 => "PYTHON_3_10"
  | python311 => "PYTHON_3_11"
  | python312 => "PYTHON_3_12"
  | python313 => "PYTHON_3_13"
  | nodejs18 => "NODEJS_18_X"
  | nodejs20 => "NODEJS_20_X"
  | nodejs22 => "NODEJS_22_X"
  | java17 => "JAVA_17"
  | java21 => "JAVA_21"
  | providedAl2 => "PROVIDED_AL2"
  | providedAl2023 => "PROVIDED_AL2023"

/-- The identifier. -/
def identifier : Runtime → String
  | python39 => "python3.9"
  | python310 => "python3.10"
  | python311 => "python3.11"
  | python312 => "python3.12"
  | python313 => "python3.13"
  | nodejs18 => "nodejs18.x"
  | nodejs20 => "nodejs20.x"
  | nodejs22 => "nodejs22.x"
  | java17 => "java17"
  | java21 => "java21"
  | providedAl2 => "provided.al2"
  | providedAl2023 => "provided.al2023"

/-- The runtime that has a name. -/
def ofName? (name : String) : Option Runtime :=
  all.find? fun r => r.constant == name || r.identifier == name

/-- The runtime that has a name, which has to exist. -/
def ofName (name : String) : Except Fault Runtime :=
  match ofName? name with
  | some r => .ok r
  | none => .error (.unknownRuntime name)

/-- The runtime of a function: the one it names, or else the default of the spec, or else that of
the settings.  The first name that is given has to exist. -/
def resolve (function specDefault : Option String) : Except Fault Runtime :=
  ofName ((function.or specDefault).getD Settings.runtime)

theorem ofName?_constant (r : Runtime) : ofName? r.constant = some r := by
  cases r <;> rfl

theorem ofName?_identifier (r : Runtime) : ofName? r.identifier = some r := by
  cases r <;> rfl

end Runtime

end ServicePlan
