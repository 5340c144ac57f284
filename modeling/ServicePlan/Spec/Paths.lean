import ServicePlan.Spec.Service

/-!
# Files that a spec refers to

A spec names the schemas of test events, the documents of apis and the policies of apps by their
paths.  Paths of code assets are passed on and not read.
-/

namespace ServicePlan

/-- The files that a function refers to. -/
def FunctionSpec.paths (f : FunctionSpec) : List String := f.test.toList

/-- The files that the functions of a topic refer to. -/
def TopicSpec.paths (t : TopicSpec) : List String :=
  (t.functions.getD ∅).values.flatMap FunctionSpec.paths

/-- The files that the integrations of an api refer to. -/
def GatewaySpec.paths (g : GatewaySpec) : List String :=
  g.integrations.values.flatMap fun r => r.document.toList

/-- The files that a service refers to. -/
def ServiceSpec.paths (s : ServiceSpec) : List String :=
  (s.topics.getD ∅).values.flatMap TopicSpec.paths ++
    (s.apps.getD ∅).values.flatMap (·.inlinePolicies) ++
    s.gateway.toList.flatMap GatewaySpec.paths ++
    s.functions.values.flatMap FunctionSpec.paths

end ServicePlan
