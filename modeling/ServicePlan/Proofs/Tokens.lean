import ServicePlan.Proofs.FunctionPlan

/-!
# Tokens are backed by dependencies

An attribute that is only known once a resource exists stands in the attributes of other resources
as a token.  What an intent depends on is listed apart from its attributes, and a plan checks that
list alone.  That a token is always of a resource that is there before is therefore up to everything
that writes tokens.

A text of the spec may look like a token.  It is its place that makes a text a token.

* `TokenForm`, `TokenPlace`, `Category.tokenPlaces`: where tokens stand, and how they are written.
* `Intent.TokensFrom`, `Intent.Renders`: whose tokens an intent has.
* `Intent.OwnTokens`: an intent that depends on every resource that it has a token of.  All intents
  are so but the mappings of the api, which depend on it through their stages.
* `Intent.IsBacked`: an intent that depends on these resources directly or through others.
* `Blueprint.tokens_of_build`: what backs the tokens of a whole plan.
-/

namespace ServicePlan

namespace Json

/-- What stands in a value: the items of an array, nothing for null, and else the value itself. -/
@[simp] def contents : Json → List Json
  | .array items => items
  | .null => []
  | v => [v]

/-- What stands in a value where member names lead to, through all items of arrays. -/
@[simp] def reached (v : Json) : List String → List Json
  | [] => v.contents
  | name :: path => v.contents.flatMap fun w => (w.member? name).toList.flatMap (·.reached path)

@[simp] theorem member?_object_nil (name : String) : (object []).member? name = none := rfl

@[simp] theorem member?_object_cons (key : String) (v : Json) (rest : List (String × Json))
    (name : String) : (object ((key, v) :: rest)).member? name =
      if name = key then some v else (object rest).member? name :=
  Table.lookup_cons_eq_ite ..

end Json

/-! ## Forms of tokens -/

/-- How a token is written. -/
inductive TokenForm
  /-- As it is. -/
  | plain (name : String)
  /-- Behind the word for integrations. -/
  | target
  /-- In the source that covers all of an api. -/
  | executeApi
  deriving DecidableEq

namespace TokenForm

variable {n : Naming} {h k : Handle} {form other : TokenForm}

/-- The token of a resource name. -/
def arn : TokenForm := .plain "Arn"

/-- The token of an id. -/
def ref : TokenForm := .plain "Ref"

/-- The text of a token of a resource. -/
def write (n : Naming) (h : Handle) : TokenForm → String
  | .plain name => h.attr name
  | .target => "integrations/" ++ h.ref
  | .executeApi => n.executeApiArn h.ref

@[simp] theorem write_plain {name : String} : (plain name).write n h = h.attr name := rfl

@[simp] theorem write_arn : arn.write n h = h.arn := rfl

@[simp] theorem write_ref : ref.write n h = h.ref := rfl

@[simp] theorem write_target : target.write n h = "integrations/" ++ h.ref := rfl

@[simp] theorem write_executeApi : executeApi.write n h = n.executeApiArn h.ref := rfl

/-- Resources are told apart by their tokens of one form. -/
theorem write_inj : form.write n h = form.write n k ↔ h = k := by
  cases form with
  | plain name => simp [write, Handle.attr, Handle.ext_iff]
  | target => simp [write, Handle.ref_inj]
  | executeApi =>
    unfold write Naming.executeApiArn
    simp [Handle.ref_inj]

/-- A resource name is no source that covers all of an api. -/
theorem write_arn_ne_write_executeApi : arn.write n h ≠ executeApi.write n k := by
  intro heq
  unfold arn write Handle.attr Naming.executeApiArn at heq
  have hfirst := congrArg (·.toList.head?) heq
  simp at hfirst

end TokenForm

/-! ## Places of tokens -/

/-- A place in the attributes of a resource that is for tokens. -/
structure TokenPlace where
  /-- The member names that lead to it. -/
  path : List String
  /-- How a token may be written there. -/
  forms : List TokenForm
  /-- Whether the place may be empty. -/
  isOptional : Bool

/-- The places in the attributes of a resource that are for tokens. -/
@[simp] def Category.tokenPlaces : Category → List TokenPlace
  | topicPolicy =>
    [⟨["policy_document", "Statement", "Resource"], [.arn], false⟩, ⟨["topics"], [.ref], false⟩]
  | subscription => [⟨["endpoint"], [.arn], false⟩, ⟨["topic_arn"], [.arn], false⟩]
  | appBranch | appDomain => [⟨["app_id"], [.plain "AppId"], false⟩]
  | identityPool => [⟨["cognito_identity_providers", "client_id"], [.ref], false⟩]
  | role =>
    [⟨["assumed_by", "conditions", "StringEquals", "cognito-identity.amazonaws.com:aud"], [.ref],
      true⟩]
  | roleAttachment =>
    [⟨["identity_pool_id"], [.ref], false⟩, ⟨["roles", "authenticated"], [.arn], false⟩]
  | eventRule =>
    [⟨["event_pattern", "detail", "appId"], [.plain "AppId"], true⟩,
      ⟨["event_pattern", "detail", "jobQueue"], [.arn], true⟩, ⟨["targets"], [.arn], false⟩]
  | stage | integration => [⟨["api_id"], [.ref], false⟩]
  | dnsRecord =>
    [⟨["alias_target", "dns_name"], [.plain "RegionalDomainName"], false⟩,
      ⟨["alias_target", "hosted_zone_id"], [.plain "RegionalHostedZoneId"], false⟩]
  | apiMapping => [⟨["api_id"], [.ref], false⟩, ⟨["domain_name"], [.ref], false⟩]
  | authorizer =>
    [⟨["api_id"], [.ref], false⟩, ⟨["jwt_configuration", "audience"], [.ref], false⟩]
  | route =>
    [⟨["api_id"], [.ref], false⟩, ⟨["authorizer_id"], [.ref], true⟩,
      ⟨["target"], [.target], false⟩]
  | permission =>
    [⟨["function_name"], [.ref], false⟩, ⟨["source_arn"], [.arn, .executeApi], false⟩]
  | queue => [⟨["dead_letter_queue", "target_arn"], [.arn], true⟩]
  | eventSourceMapping =>
    [⟨["event_source_arn"], [.arn], false⟩, ⟨["function_name"], [.ref], false⟩]
  | computeEnvironment => [⟨["service_role"], [.arn], false⟩]
  | jobQueue => [⟨["compute_environment_order", "compute_environment"], [.arn], false⟩]
  | jobDefinition =>
    [⟨["container_properties", "execution_role_arn"], [.arn], false⟩,
      ⟨["container_properties", "job_role_arn"], [.arn], false⟩]
  | topic | app | userPoolClient | api | domainName | bucket | repository | function | eventSchema
  | logGroup => []

/-- Only the source of a permission is written in one of two forms. -/
theorem Category.forms_tokenPlaces (c : Category) :
    ∀ place ∈ c.tokenPlaces,
      place.forms = [.arn, .executeApi] ∨ ∃ form, place.forms = [form] := by
  cases c <;> simp [tokenPlaces]

namespace TokenPlace

variable {n : Naming} {place : TokenPlace} {form other : TokenForm} {h k : Handle}

/-- Wherever a place is, a token there is of one resource only. -/
theorem eq_of_write_eq {c : Category} (hplace : place ∈ c.tokenPlaces) (hform : form ∈ place.forms)
    (hother : other ∈ place.forms) (heq : form.write n h = other.write n k) : h = k := by
  obtain hforms | ⟨only, hforms⟩ := c.forms_tokenPlaces place hplace
  · rw [hforms, List.mem_pair] at hform hother
    obtain rfl | rfl := hform <;> obtain rfl | rfl := hother
    · exact TokenForm.write_inj.1 heq
    · exact absurd heq TokenForm.write_arn_ne_write_executeApi
    · exact absurd heq.symm TokenForm.write_arn_ne_write_executeApi
    · exact TokenForm.write_inj.1 heq
  · rw [hforms, List.mem_singleton] at hform hother
    obtain rfl := hform
    obtain rfl := hother
    exact TokenForm.write_inj.1 heq

/-- A place of a value holds nothing but tokens of some resources, and only an optional place holds
nothing at all. -/
@[simp] def Holds (n : Naming) (R : Handle → Prop) (v : Json) (place : TokenPlace) : Prop :=
  (place.isOptional = false → v.reached place.path ≠ []) ∧
    ∀ w ∈ v.reached place.path, ∃ form ∈ place.forms, ∃ h, R h ∧ w = .string (form.write n h)

end TokenPlace

namespace Intent

variable {n : Naming} {i : Intent} {R S : Handle → Prop}

/-- All tokens of an intent are of some resources. -/
def TokensFrom (n : Naming) (R : Handle → Prop) (i : Intent) : Prop :=
  ∀ place ∈ i.category.tokenPlaces, place.Holds n R i.attributes

/-- An intent has a token of a resource. -/
def Renders (n : Naming) (i : Intent) (h : Handle) : Prop :=
  ∃ place ∈ i.category.tokenPlaces, ∃ form ∈ place.forms,
    .string (form.write n h) ∈ i.attributes.reached place.path

theorem TokensFrom.mono (hi : i.TokensFrom n R) (himp : ∀ h, R h → S h) : i.TokensFrom n S := by
  intro place hplace
  obtain ⟨hfilled, htokens⟩ := hi place hplace
  refine ⟨hfilled, fun w hw => ?_⟩
  obtain ⟨form, hform, h, hh, hwrite⟩ := htokens w hw
  exact ⟨form, hform, h, himp h hh, hwrite⟩

/-- A token tells its resource, so there are no tokens of other resources. -/
theorem TokensFrom.of_renders (hi : i.TokensFrom n R) {h : Handle} (hrenders : i.Renders n h) :
    R h := by
  obtain ⟨place, hplace, form, hform, hmem⟩ := hrenders
  obtain ⟨other, hother, k, hk, hwrite⟩ := (hi place hplace).2 _ hmem
  obtain rfl := TokenPlace.eq_of_write_eq hplace hform hother (Json.string.inj hwrite)
  exact hk

/-- An intent that depends on every resource that it has a token of. -/
def OwnTokens (n : Naming) (i : Intent) : Prop := i.TokensFrom n (· ∈ i.dependsOn)

section Of

variable {c : Category} {phase : Phase} {name : String} {attributes : Json}
  {dependsOn : List Handle}

theorem tokensFrom_of : (of c phase name attributes dependsOn).TokensFrom n R ↔
    ∀ place ∈ c.tokenPlaces, place.Holds n R attributes :=
  Iff.rfl

theorem ownTokens_of : (of c phase name attributes dependsOn).OwnTokens n ↔
    ∀ place ∈ c.tokenPlaces, place.Holds n (· ∈ dependsOn) attributes := by
  simp only [OwnTokens, tokensFrom_of, mem_dependsOn_of]

end Of

/-- An intent of a plan that depends on every resource that it has a token of, directly or through
other resources. -/
def IsBacked (n : Naming) (p : Plan) (i : Intent) : Prop :=
  i.TokensFrom n (Relation.TransGen p.DependsOn i.handle)

theorem OwnTokens.isBacked {p : Plan} (hown : i.OwnTokens n) (hi : i ∈ p.intents) :
    i.IsBacked n p :=
  hown.mono fun _ hh => .single ⟨i, hi, rfl, hh⟩

end Intent

/-- A resource is there before an intent, and the intent depends on it. -/
structure Plan.Backs (p : Plan) (before : List Intent) (i : Intent) (h : Handle) : Prop where
  /-- It is the resource of an intent further to the front. -/
  earlier : h ∈ before.map (·.handle)
  /-- Dependencies lead to it. -/
  reached : Relation.TransGen p.DependsOn i.handle h

theorem Emits.isBacked {n : Naming} {p : Plan} {steps : List Step}
    (h : Emits (Intent.OwnTokens n) steps) (hsubset : emissions steps ⊆ p.intents) :
    Emits (Intent.IsBacked n p) steps :=
  fun i hi => (h i hi).isBacked (hsubset hi)

namespace Blueprint

variable {b : Blueprint} {w : Wiring} {key branch app : String} {f : FunctionSpec} {a : AppSpec}
  {g : GatewaySpec}

/-! ## Own tokens -/

/-- A permission has tokens of the function and of the source. -/
theorem ownTokens_permission {phase : Phase} {name principal sourceArn : String}
    {function source : Handle}
    (h : sourceArn = source.arn ∨ sourceArn = b.naming.executeApiArn source.ref) :
    (permission phase name function principal sourceArn source).OwnTokens b.naming := by
  rw [permission, Intent.ownTokens_of]
  obtain rfl | rfl := h <;> simp [Handle.arn_inj, Handle.ref_inj]

theorem ownTokens_testSteps : Emits (Intent.OwnTokens b.naming) (b.testSteps w key f) := by
  simp only [testSteps]
  split
  · exact emits_nil
  · split <;> simp [Emits, Intent.ownTokens_of]

theorem ownTokens_apiSteps : Emits (Intent.OwnTokens b.naming) (b.apiSteps w key) := by
  rw [Emits, emissions_apiSteps]
  split
  · exact List.forall_mem_singleton.2 (ownTokens_permission (.inr rfl))
  · simp

theorem ownTokens_senderSteps : Emits (Intent.OwnTokens b.naming) (b.senderSteps w key) := by
  rw [senderSteps]
  split
  · exact emits_nil
  · refine emits_emit.2 ⟨?_, emits_emit.2 ⟨ownTokens_permission (.inl rfl), emits_nil⟩⟩
    simp [Intent.ownTokens_of, Handle.arn_inj]

theorem ownTokens_queueSteps : Emits (Intent.OwnTokens b.naming) (b.queueSteps w key f) := by
  refine emits_orFail fun timeout? => ?_
  cases timeout? <;> simp [Emits, Intent.ownTokens_of, Handle.arn_inj, Handle.ref_inj]

theorem ownTokens_functionSteps : Emits (Intent.OwnTokens b.naming) (b.functionSteps w key f) :=
  emits_functionSteps_of (fun _ => by simp [Intent.ownTokens_of]) ownTokens_testSteps
    ownTokens_apiSteps ownTokens_senderSteps ownTokens_queueSteps

theorem ownTokens_messagingSteps : Emits (Intent.OwnTokens b.naming) b.messagingSteps :=
  emits_messagingSteps_of fun _ _ =>
    emits_topicSteps_of (fun _ => by simp [Intent.ownTokens_of])
      (by simp [topicPolicy, Intent.ownTokens_of, Json.strings]) fun _ _ => ownTokens_functionSteps

theorem ownTokens_loginSteps : Emits (Intent.OwnTokens b.naming) (b.loginSteps app a) :=
  emits_loginSteps_of (fun _ => by simp [loginClient, Intent.ownTokens_of])
    (fun _ _ => by simp [identityPool, Intent.ownTokens_of])
    (fun _ _ => by simp [identityRole, Intent.ownTokens_of])
    (fun _ => by simp [roleAttachment, Intent.ownTokens_of, Handle.arn_inj, Handle.ref_inj])

theorem ownTokens_appSteps {repositoryRoot token : String} :
    Emits (Intent.OwnTokens b.naming) (b.appSteps app a repositoryRoot token) := by
  simp only [appSteps, emits_append]
  refine ⟨⟨by simp [Emits, Intent.ownTokens_of], emits_map_emit.2 ?_⟩, ?_⟩
  · exact List.forall_mem_map.2 fun e _ => by simp [appBranch, Intent.ownTokens_of, appId]
  · simp [Emits, Intent.ownTokens_of, appId]

theorem ownTokens_deploymentSteps :
    Emits (Intent.OwnTokens b.naming) (b.deploymentSteps app a) := by
  rw [deploymentSteps]
  split
  · exact emits_nil
  · simp [Emits, Intent.ownTokens_of, Json.strings, appId, Handle.arn_inj]

theorem ownTokens_frontendSteps : Emits (Intent.OwnTokens b.naming) b.frontendSteps :=
  emits_frontendSteps_of (fun _ _ _ _ => ownTokens_appSteps) (fun _ _ => ownTokens_loginSteps)
    fun _ _ => ownTokens_deploymentSteps

theorem ownTokens_storageSteps : Emits (Intent.OwnTokens b.naming) b.storageSteps := by
  rw [storageSteps, emits_append]
  constructor
  · exact emits_map_emit.2 (by simp [bucket, Intent.ownTokens_of])
  · exact emits_map_emit.2 (by simp [repository, Intent.ownTokens_of])

theorem ownTokens_computeSteps : Emits (Intent.OwnTokens b.naming) (b.computeSteps branch) :=
  emits_computeSteps_of fun _ _ => ownTokens_functionSteps

theorem ownTokens_batchSteps : Emits (Intent.OwnTokens b.naming) (b.batchSteps branch) :=
  emits_batchSteps_of fun _ _ _ =>
    forall_jobIntents_of (fun _ _ _ => by simp [serviceRole, Intent.ownTokens_of])
      (by simp [computeEnvironment, Intent.ownTokens_of])
      (by simp [jobQueue, Intent.ownTokens_of])
      (by simp [jobRule, Intent.ownTokens_of, Json.strings, Handle.arn_inj])
      (fun _ _ => ownTokens_permission (.inl rfl)) (fun _ _ => by simp [Intent.ownTokens_of])
      (by simp [jobDefinition, Intent.ownTokens_of, Handle.arn_inj])

/-! ## Tokens of the api -/

theorem ownTokens_domainSteps : Emits (Intent.OwnTokens b.naming) (b.domainSteps g) := by
  rw [domainSteps]
  split <;> simp [Emits, Intent.ownTokens_of]

theorem ownTokens_authorizerSteps : Emits (Intent.OwnTokens b.naming) (b.authorizerSteps g) :=
  emits_flatMap fun _ _ => emits_orFail fun _ => by
    simp [Emits, authorizer, Intent.ownTokens_of, Json.strings, Handle.ref_inj]

theorem ownTokens_integrationsSteps :
    Emits (Intent.OwnTokens b.naming) (b.integrationsSteps g) := by
  refine emits_flatMap fun e _ => emits_cons.2 ⟨by simp [integration, Intent.ownTokens_of], ?_⟩
  refine emits_orFail fun routes => emits_map_emit.2 fun routeKey _ => ?_
  rw [route, Intent.ownTokens_of]
  cases authorizer? g e.2 <;>
    simp [Json.stringOrNull, Json.orNull, Handle.ref_inj]

theorem ownTokens_stage {s : BranchSpec} : (b.stage branch s).OwnTokens b.naming := by
  rw [stage, Intent.ownTokens_of]
  simp

/-- A mapping depends on the stage and on the domain.  Its token of the api is backed through the
stage. -/
theorem isBacked_mapping {p : Plan} {s : BranchSpec} {domain : Handle}
    (hstage : b.stage branch s ∈ p.intents) (hmapping : b.mapping domain branch s ∈ p.intents) :
    (b.mapping domain branch s).IsBacked b.naming p := by
  have hdependsOn : ∀ h ∈ [domain, (b.stage branch s).handle],
      p.DependsOn (b.mapping domain branch s).handle h := fun h hh =>
    ⟨_, hmapping, rfl, Intent.mem_dependsOn_of.2 hh⟩
  have hdomain : Relation.TransGen p.DependsOn (b.mapping domain branch s).handle domain :=
    .single (hdependsOn _ (by simp))
  have hapi : Relation.TransGen p.DependsOn (b.mapping domain branch s).handle b.apiHandle :=
    .tail (.single (hdependsOn _ (by simp))) ⟨_, hstage, rfl, by simp [stage]⟩
  rw [Intent.IsBacked]
  generalize (b.mapping domain branch s).handle = own at hdomain hapi ⊢
  rw [mapping, Intent.tokensFrom_of]
  simpa [Handle.ref_inj] using And.intro hapi hdomain

theorem isBacked_stageSteps {p : Plan} (hsubset : emissions (b.stageSteps g) ⊆ p.intents) :
    Emits (Intent.IsBacked b.naming p) (b.stageSteps g) := by
  refine emits_flatMap fun e he => ?_
  have hentry : b.stage e.1 e.2 :: (b.domainHandle? g).toList.map (b.mapping · e.1 e.2) ⊆
      p.intents := by
    refine List.Subset.trans (fun i hi => ?_) hsubset
    rw [stageSteps, emissions_flatMap]
    exact List.mem_flatMap.2 ⟨e, he, by simpa using hi⟩
  obtain ⟨hstage, hmappings⟩ := List.cons_subset.1 hentry
  refine emits_emit.2 ⟨ownTokens_stage.isBacked hstage, emits_map_emit.2 fun domain hdomain => ?_⟩
  exact isBacked_mapping hstage (hmappings (List.mem_map_of_mem hdomain))

theorem isBacked_gatewaySteps {p : Plan} (hsubset : emissions b.gatewaySteps ⊆ p.intents) :
    Emits (Intent.IsBacked b.naming p) b.gatewaySteps := by
  cases hg : b.spec.gateway with
  | none => simp [gatewaySteps, hg, Emits, Step.info]
  | some g =>
    rw [emissions_gatewaySteps hg] at hsubset
    simp only [List.cons_subset, List.append_subset] at hsubset
    obtain ⟨hapi, ⟨⟨hdomain, hstage⟩, hauthorizer⟩, hintegration⟩ := hsubset
    rw [Emits, emissions_gatewaySteps hg]
    simp only [List.forall_mem_cons, List.forall_mem_append]
    refine ⟨?api, ⟨⟨?domain, ?stage⟩, ?authorizer⟩, ?integration⟩
    case api =>
      have hown : (b.api g).OwnTokens b.naming := by simp [api, Intent.ownTokens_of]
      exact hown.isBacked hapi
    case domain => exact ownTokens_domainSteps.isBacked hdomain
    case stage => exact isBacked_stageSteps hstage
    case authorizer => exact ownTokens_authorizerSteps.isBacked hauthorizer
    case integration => exact ownTokens_integrationsSteps.isBacked hintegration

/-! ## Whole plans -/

/-- Every intent of a plan depends on the resources that it has tokens of. -/
theorem isBacked_of_build (h : b.build.2 = none) :
    ∀ i ∈ b.build.1.plan.intents, i.IsBacked b.naming b.build.1.plan := by
  intro i hi
  obtain hsteps | hsteps | hsteps | hsteps | ⟨branch, -, hsteps | hsteps⟩ :=
    mem_intents_cases h hi
  · exact (ownTokens_messagingSteps i hsteps).isBacked hi
  · exact (ownTokens_frontendSteps i hsteps).isBacked hi
  · exact isBacked_gatewaySteps (emissions_subset_intents h b.gatewaySteps_subset) i hsteps
  · exact (ownTokens_storageSteps i hsteps).isBacked hi
  · exact (ownTokens_computeSteps i hsteps).isBacked hi
  · exact (ownTokens_batchSteps i hsteps).isBacked hi

/-- **Tokens are backed by dependencies.**  In the plan of a build without a fault, every place of
an intent that is for tokens holds nothing but tokens, and each of them is of a resource that stands
strictly before the intent and that the intent depends on, directly or through others.  So it is for
every resource that the intent has a token of. -/
theorem tokens_of_build (h : b.build.2 = none) {before after : List Intent} {i : Intent}
    (hsplit : b.build.1.plan.intents = before ++ i :: after) :
    i.TokensFrom b.naming (b.build.1.plan.Backs before i) ∧
      ∀ dep, i.Renders b.naming dep → b.build.1.plan.Backs before i dep := by
  have hi : i ∈ b.build.1.plan.intents := by simp [hsplit]
  have hbacked : i.TokensFrom b.naming (b.build.1.plan.Backs before i) :=
    (isBacked_of_build h i hi).mono fun dep hreach =>
      ⟨b.ordered_build.mem_before hsplit hreach, hreach⟩
  exact ⟨hbacked, fun dep hrenders => hbacked.of_renders hrenders⟩

/-- The market with a custom domain for its api, and with identity pools for its app. -/
def portal : Blueprint :=
  { market with
    spec := { market.spec with
      gateway := market.spec.gateway.map fun g =>
        { g with zoneId := some "zone", domain := some "market.test" }
      apps := some (.ofList [("front", {
        domain := "market.test", user := some "people", topic := some "sold",
        managedPolicies := ["ReadOnlyAccess"] })]) } }

set_option maxRecDepth 20000 in
theorem build_portal : portal.build.2 = none := by rfl

/-- The mapping of the main branch onto the custom domain of the portal. -/
def portalMapping : Intent := portal.mapping (.of .domainName "market-api.market.test") "main" {}

theorem portalMapping_mem_intents : portalMapping ∈ portal.build.1.plan.intents := by
  refine emissions_subset_intents build_portal portal.gatewaySteps_subset (mem_emissions.2 ?_)
  have hstep : portal.gatewaySteps[4]? = some (.emit portalMapping) := by rfl
  exact List.mem_of_getElem? hstep

/-- A mapping does not depend on the api itself, and yet the api is there. -/
theorem tokens_portalMapping :
    portal.build.2 = none ∧ portal.apiHandle ∉ portalMapping.dependsOn ∧
      ∃ before after, portal.build.1.plan.intents = before ++ portalMapping :: after ∧
        portalMapping.Renders portal.naming portal.apiHandle ∧
        portal.build.1.plan.Backs before portalMapping portal.apiHandle := by
  have hrenders : portalMapping.Renders portal.naming portal.apiHandle :=
    ⟨⟨["api_id"], [.ref], false⟩, by simp [portalMapping, mapping], .ref, by simp, by
      simp [portalMapping, mapping, Intent.of]⟩
  obtain ⟨before, after, hsplit⟩ := List.append_of_mem portalMapping_mem_intents
  exact ⟨build_portal, by decide, before, after, hsplit, hrenders,
    (tokens_of_build build_portal hsplit).2 _ hrenders⟩

end Blueprint

end ServicePlan
