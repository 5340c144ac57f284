import ServicePlan.Build.Service
import ServicePlan.Schema.Service

/-!
# From the text of a spec to a plan

The names of a service are read from the raw text first, because placeholders of the text may
stand for them.  Then the text is completed, checked against the schema and decoded, its
references are resolved, and the plan is built.

* `peekNames`: the names of the raw text.
* `prepare`: the spec of a text with the warnings on the way.
* `synthesize`: the plan of a text.
-/

namespace ServicePlan

/-- What is known besides the text of a spec. -/
structure Options where
  /-- The account and region to deploy to. -/
  site : Deployment
  /-- The branch that the placeholder for it stands for. -/
  branch : Option String := none
  /-- The directory that relative paths are resolved against. -/
  root : Option String := none
  /-- The access token of the repositories. -/
  token : Option String := none
  /-- A schema in place of the one for service specs. -/
  schema : Option Json := none

/-- A text that a document has to give under a name. -/
def requiredName (document : Json) (field : String) : Except Fault String :=
  match (document.member? field).bind Json.string? with
  | some s => if s = "" then .error (.blankName field) else .ok s
  | none => .error (.blankName field)

/-- The value of the text of a spec. -/
def parseSpec (text : String) : Except Fault Json := (Json.read text).mapError .specText

/-- The service name and the api name of the raw text of a spec. -/
def peekNames (raw : String) : Except Fault (String × String) := do
  let document ← parseSpec raw
  let serviceName ← requiredName document "service_name"
  let apiName ← requiredName document "api_name"
  .ok (serviceName, apiName)

/-- The schema document that a value stands for, or that of service specs. -/
def schemaDocument (schema : Option Json) : Except Fault Schema.Document :=
  match schema with
  | some v => (Schema.Document.ofJson v).mapError .schemaDocument
  | none => .ok Schema.ofServices

/-- Makes sure that a document keeps a schema. -/
def validate (document : Json) (schema : Option Json) : Except Fault Unit := do
  let schema ← schemaDocument schema
  match schema.report document with
  | [] => .ok ()
  | violations => .error (.violations violations)

/-- The values of the placeholders of a raw text with two names. -/
def specBindings (o : Options) (serviceName apiName : String) : Bindings :=
  let apiName := (Bindings.ofApiName o.site serviceName).substitute apiName
  Bindings.ofSpec o.site serviceName apiName o.branch

/-- The raw text of a spec with its placeholders replaced. -/
def complete (raw : String) (o : Options) : Except Fault String := do
  let (serviceName, apiName) ← peekNames raw
  .ok ((specBindings o serviceName apiName).substitute raw)

/-- The warning about a placeholder that is left. -/
def unresolvedWarning (token : String) : String := s!"placeholder {token} is left unresolved"

/-- The spec of a completed text. -/
def decodeSpec (text : String) (o : Options) : Except Fault ServiceSpec := do
  let document ← parseSpec text
  validate document o.schema
  ServiceSpec.ofJson document

/-- A spec with what came up while it was prepared. -/
structure Prepared where
  /-- The spec, or why there is none. -/
  result : Except Fault ServiceSpec
  /-- The warnings about placeholders that are left. -/
  warnings : List String := []
  /-- The log. -/
  log : List Record := []

/-- The record of a spec that has been decoded. -/
def acceptance (s : ServiceSpec) : Record :=
  ⟨.info, s!"Spec of service {s.serviceName} (api {s.apiName}) passed the schema gate, " ++
    s!"{s.branches.size} branches"⟩

/-- Completes, checks and decodes the raw text of a spec. -/
def prepare (raw : String) (o : Options) : Prepared :=
  match complete raw o with
  | .error f => ⟨.error f, [], []⟩
  | .ok text =>
    let warnings := (unresolved text).map unresolvedWarning
    let log := warnings.map (Record.mk .warn)
    match decodeSpec text o with
    | .error f => ⟨.error f, warnings, log⟩
    | .ok spec => ⟨.ok spec, warnings, log ++ [acceptance spec]⟩

/-- A plan with all that a service was built with. -/
structure Output where
  /-- The plan. -/
  plan : Plan
  /-- What happened in the registry. -/
  journal : List Registry.Event
  /-- The warnings. -/
  warnings : List String

/-- A synthesis with what came up on the way. -/
structure Synthesis where
  /-- The output, or why there is none. -/
  result : Except Fault Output
  /-- The names of layers that were asked for. -/
  asked : List String := []
  /-- The log. -/
  log : List Record := []

/-- Builds the plan of the raw text of a spec. -/
def synthesize (raw : String) (o : Options) (versions : LayerVersions) (files : Files) :
    Synthesis :=
  let prepared := prepare raw o
  match prepared.result with
  | .error f => ⟨.error f, [], prepared.log⟩
  | .ok spec =>
    let (resolver, references) := References.resolve spec.references o.site versions
    let log := prepared.log ++ resolver.log
    match references with
    | .error f => ⟨.error f, resolver.asked, log⟩
    | .ok references =>
      let blueprint : Blueprint :=
        { spec, site := o.site, references, root := o.root, token := o.token, files }
      match blueprint.build with
      | (p, some f) => ⟨.error f, resolver.asked, log ++ p.log⟩
      | (p, none) =>
        ⟨.ok ⟨p.plan, p.registry.journal, prepared.warnings ++ p.warnings⟩, resolver.asked,
          log ++ p.log⟩

end ServicePlan
