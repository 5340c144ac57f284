import ServicePlan.Json.Decode

/-!
# Resources

A plan lists resources of a fixed set of categories, each planned in one of six phases.  A
resource is known by its handle, a text made of its category and its physical name.  Attributes
that are only known once a resource exists are referred to by tokens made from the handle.

* `Category`, `Phase`: with their labels, which also read back.
* `Handle`: `Handle.of`, and the tokens `Handle.attr`, `Handle.arn` and `Handle.ref`.
-/

namespace ServicePlan

/-- The kinds of resources. -/
inductive Category
  | topic
  | topicPolicy
  | subscription
  | app
  | appBranch
  | appDomain
  | userPoolClient
  | identityPool
  | role
  | roleAttachment
  | eventRule
  | api
  | stage
  | domainName
  | dnsRecord
  | apiMapping
  | authorizer
  | integration
  | route
  | bucket
  | repository
  | function
  | permission
  | eventSchema
  | queue
  | eventSourceMapping
  | computeEnvironment
  | jobQueue
  | jobDefinition
  | logGroup
  deriving DecidableEq, Repr

namespace Category

/-- The label of a category, which starts the handles of its resources. -/
def label : Category → String
  | topic => "Topic"
  | topicPolicy => "TopicPolicy"
  | subscription => "Subscription"
  | app => "App"
  | appBranch => "AppBranch"
  | appDomain => "AppDomain"
  | userPoolClient => "UserPoolClient"
  | identityPool => "IdentityPool"
  | role => "Role"
  | roleAttachment => "RoleAttachment"
  | eventRule => "EventRule"
  | api => "Api"
  | stage => "Stage"
  | domainName => "DomainName"
  | dnsRecord => "DnsRecord"
  | apiMapping => "ApiMapping"
  | authorizer => "Authorizer"
  | integration => "Integration"
  | route => "Route"
  | bucket => "Bucket"
  | repository => "Repository"
  | function => "Function"
  | permission => "Permission"
  | eventSchema => "EventSchema"
  | queue => "Queue"
  | eventSourceMapping => "EventSourceMapping"
  | computeEnvironment => "ComputeEnvironment"
  | jobQueue => "JobQueue"
  | jobDefinition => "JobDefinition"
  | logGroup => "LogGroup"

/-- All categories. -/
def all : List Category :=
  [topic, topicPolicy, subscription, app, appBranch, appDomain, userPoolClient, identityPool,
    role, roleAttachment, eventRule, api, stage, domainName, dnsRecord, apiMapping, authorizer,
    integration, route, bucket, repository, function, permission, eventSchema, queue,
    eventSourceMapping, computeEnvironment, jobQueue, jobDefinition, logGroup]

/-- The categories by their labels. -/
def labels : List (String × Category) := all.map fun c => (c.label, c)

/-- The category of a label. -/
def ofLabel? (label : String) : Option Category := labels.lookup label

/-- A category, written as its label. -/
def decode : Decoder Category := Decode.variant labels

end Category

/-- The phases in which a plan is made. -/
inductive Phase
  /-- Topics and the functions they feed. -/
  | messaging
  /-- Front-end apps with their login clients and identity pools. -/
  | frontend
  /-- The HTTP api. -/
  | gateway
  /-- Buckets and container repositories. -/
  | storage
  /-- The functions of the branches and their queues. -/
  | compute
  /-- The batch jobs of the branches. -/
  | batch
  deriving DecidableEq, Repr

namespace Phase

/-- The label of a phase. -/
def label : Phase → String
  | messaging => "Messaging"
  | frontend => "Frontend"
  | gateway => "Gateway"
  | storage => "Storage"
  | compute => "Compute"
  | batch => "Batch"

/-- All phases, in order. -/
def all : List Phase := [messaging, frontend, gateway, storage, compute, batch]

/-- The phases by their labels. -/
def labels : List (String × Phase) := all.map fun p => (p.label, p)

/-- The phase of a label. -/
def ofLabel? (label : String) : Option Phase := labels.lookup label

/-- A phase, written as its label. -/
def decode : Decoder Phase := Decode.variant labels

end Phase

/-- What a resource is known by. -/
@[ext] structure Handle where
  /-- The handle as a text. -/
  text : String
  deriving DecidableEq, Repr

namespace Handle

/-- The handle of the resource of a category and a physical name. -/
def of (category : Category) (physicalName : String) : Handle :=
  ⟨category.label ++ "/" ++ physicalName⟩

/-- The token of an attribute that is known once the resource exists. -/
def attr (h : Handle) (name : String) : String :=
  "$\x7b" ++ h.text ++ "." ++ name ++ "\x7d"

/-- The token of the resource name. -/
def arn (h : Handle) : String := h.attr "Arn"

/-- The token of the id. -/
def ref (h : Handle) : String := h.attr "Ref"

/-- The resources of a category are told apart by their names. -/
theorem of_inj {c : Category} {name other : String} : of c name = of c other ↔ name = other := by
  simp [of, Handle.ext_iff]

/-- Handles are told apart by the tokens of their ids. -/
theorem ref_inj {h k : Handle} : h.ref = k.ref ↔ h = k := by
  simp [ref, attr, Handle.ext_iff]

/-- Handles are told apart by the tokens of their resource names. -/
theorem arn_inj {h k : Handle} : h.arn = k.arn ↔ h = k := by
  simp [arn, attr, Handle.ext_iff]

end Handle

end ServicePlan
