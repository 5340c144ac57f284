import Mathlib.Data.List.Nodup
import ServicePlan.Proofs.Calls
import ServicePlan.Proofs.Tokens

/-!
# Stages and the custom domain

The api has a stage for each branch.  A custom domain, if there is one, leads to each stage by the
name of its branch.  Nothing compares the names of stages: a branch that names none has the default
stage, and that no two branches have one stage is left to the plan, which refuses a second resource
of one name.

* `Intent.IsStageOf`, `Intent.IsAliasOf`: the stage of a branch, and the record of a domain.
* `Plan.HasDomain`, `Plan.Maps`: what a plan has for a custom domain.
* `Blueprint.FansOut`: a plan with a stage for each branch, and a mapping for each stage.
* `Blueprint.fansOut_of_build`: what comes of a build without a fault.
-/

namespace ServicePlan

/-! ## Stages, domains and mappings -/

namespace Intent

/-- A stage is that of a branch: it has the name that the branch gives, or else the default one, and
it knows the branch by its variable. -/
structure IsStageOf (i : Intent) (branch : String) (own : BranchSpec) : Prop where
  /-- Its name is that of the branch or the default one. -/
  named : i.text? "stage_name" = some (own.stage.getD Settings.defaultStage)
  /-- Its variable is the branch. -/
  branch : i.stageBranch? = some branch

/-- What a record is an alias of. -/
def alias? (i : Intent) (name : String) : Option String :=
  ((i.attributes.member? "alias_target").bind (·.member? name)).bind Json.string?

/-- A record is an alias of a domain, which is there before it. -/
structure IsAliasOf (i domain : Intent) : Prop where
  /-- It leads to the address of the domain. -/
  address : i.alias? "dns_name" = some (domain.handle.attr "RegionalDomainName")
  /-- It leads to the zone of that address. -/
  zone : i.alias? "hosted_zone_id" = some (domain.handle.attr "RegionalHostedZoneId")
  /-- It depends on the domain alone. -/
  after : i.dependsOn = [domain.handle]

end Intent

namespace Plan

/-- A plan lists one domain and one record, and both have a name. -/
structure HasDomain (p : Plan) (name : String) (domain record : Intent) : Prop where
  /-- There is one domain. -/
  domains : p.byCategory .domainName = [domain]
  /-- There is one record. -/
  records : p.byCategory .dnsRecord = [record]
  /-- The domain has the name. -/
  domainNamed : domain.physicalName = name ∧ domain.text? "domain_name" = some name
  /-- The record has it too. -/
  recordNamed : record.physicalName = name ∧ record.text? "record_name" = some name
  /-- The record is an alias of the domain. -/
  aliased : record.IsAliasOf domain

/-- A mapping leads from a domain to the stage that knows a branch, by the name of the branch. -/
structure Maps (p : Plan) (domain : Intent) (branch : String) (i : Intent) : Prop where
  /-- It goes by the name of the branch. -/
  key : i.text? "api_mapping_key" = some branch
  /-- It is for the domain. -/
  target : i.text? "domain_name" = some domain.handle.ref
  /-- It leads to the one stage that knows the branch, and is made after it and the domain. -/
  stage : ∃ stage ∈ p.byCategory .stage, stage.stageBranch? = some branch ∧
    (∀ other ∈ p.byCategory .stage, other.stageBranch? = some branch → other = stage) ∧
    (∃ name, stage.text? "stage_name" = some name ∧ i.text? "stage" = some name) ∧
    ∀ h, h ∈ i.dependsOn ↔ h = domain.handle ∨ h = stage.handle

end Plan

/-- A plan has a stage for each branch of a spec and, if the api gives the id and the name of a
zone, a custom domain with a mapping for each stage. -/
structure Blueprint.FansOut (b : Blueprint) (g : GatewaySpec) (p : Plan) : Prop where
  /-- There is one stage for each branch, in the order of the branches. -/
  stages : List.Forall₂ (fun e i => i.IsStageOf e.1 e.2) b.spec.branches.entries
    (p.byCategory .stage)
  /-- No two stages have one name. -/
  distinct : ((p.byCategory .stage).map (·.text? "stage_name")).Nodup
  /-- With both, there is one domain and one record of the name of the api below the zone, and one
  mapping for each branch. -/
  mapped : ∀ zoneId zone, g.zoneId = some zoneId → g.domain = some zone →
    ∃ domain record, p.HasDomain (b.spec.apiName ++ "." ++ zone) domain record ∧
      List.Forall₂ (p.Maps domain) b.spec.branchNames (p.byCategory .apiMapping)
  /-- Without one of them, there is nothing of the kind. -/
  bare : g.zoneId = none ∨ g.domain = none →
    p.byCategory .domainName = [] ∧ p.byCategory .dnsRecord = [] ∧ p.byCategory .apiMapping = []

namespace Blueprint

variable {b : Blueprint} {g : GatewaySpec} {zoneId zone name : String}

/-! ## What the steps emit -/

/-- A domain comes with its record. -/
theorem exists_emissions_domainSteps (hd : b.customDomain? g = some (zoneId, zone, name)) :
    ∃ domain record, emissions (b.domainSteps g) = [domain, record] ∧
      domain.handle = .of .domainName name ∧ domain.category = .domainName ∧
      record.category = .dnsRecord ∧ record.IsAliasOf domain ∧
      (domain.physicalName = name ∧ domain.text? "domain_name" = some name) ∧
      (record.physicalName = name ∧ record.text? "record_name" = some name) := by
  rw [domainSteps, hd]
  exact ⟨_, _, rfl, rfl, rfl, rfl, ⟨rfl, rfl, rfl⟩, ⟨rfl, rfl⟩, ⟨rfl, rfl⟩⟩

/-- Without a custom domain nothing is emitted for one. -/
theorem emissions_domainSteps_eq_nil (hd : b.customDomain? g = none) :
    emissions (b.domainSteps g) = [] := by
  rw [domainSteps, hd]
  rfl

/-- There is a mapping for each branch if there is a custom domain. -/
theorem filter_apiMapping_stageSteps (b : Blueprint) (g : GatewaySpec) :
    (emissions (b.stageSteps g)).filter (fun i => i.category = .apiMapping) =
      b.spec.branches.entries.flatMap fun e =>
        (b.domainHandle? g).toList.map fun domain => b.mapping domain e.1 e.2 := by
  rw [stageSteps, emissions_flatMap, List.filter_flatMap]
  congr 1
  funext e
  cases b.domainHandle? g <;> simp [stage, mapping]

section Plan

variable (h : b.build.2 = none) (hg : b.spec.gateway = some g)
include h hg

/-- The mappings of a plan are those of the branches. -/
theorem byCategory_apiMapping :
    b.build.1.plan.byCategory .apiMapping = b.spec.branches.entries.flatMap fun e =>
      (b.domainHandle? g).toList.map fun domain => b.mapping domain e.1 e.2 := by
  rw [byCategory_parts h hg (by decide), filter_apiMapping_stageSteps]
  simp (disch := decide) only [emits_domainSteps.filter_category_eq_nil,
    emits_authorizerSteps.filter_category_eq_nil, emits_integrationsSteps.filter_category_eq_nil]
  simp [api]

/-- The domains and records of a plan are those of the custom domain. -/
theorem byCategory_domain {c : Category} (hc : c ∈ [Category.domainName, .dnsRecord]) :
    b.build.1.plan.byCategory c =
      (emissions (b.domainSteps g)).filter fun i => i.category = c := by
  have hothers : ∀ c ∈ [Category.domainName, .dnsRecord], c ∈ gatewayCategories ∧ c ≠ .api ∧
      c ∉ [Category.stage, .apiMapping] ∧ c ∉ [Category.authorizer] ∧
      c ∉ [Category.integration, .route] := by decide
  obtain ⟨hgateway, hapi, hstage, hauthorizer, hintegration⟩ := hothers c hc
  rw [byCategory_parts h hg hgateway, emits_stageSteps.filter_category_eq_nil hstage,
    emits_authorizerSteps.filter_category_eq_nil hauthorizer,
    emits_integrationsSteps.filter_category_eq_nil hintegration]
  simp [api, hapi.symm]

/-- The plan refuses a second stage of one name, since the api is the same. -/
theorem nodup_stageNames : (b.spec.branches.entries.map fun e => stageName e.2).Nodup := by
  have hdistinct := b.ordered_build.nodup_byCategory .stage
  have hhandles : (b.build.1.plan.byCategory .stage).map (·.handle) =
      (b.spec.branches.entries.map fun e => stageName e.2).map fun name =>
        Handle.of .stage (b.spec.apiName ++ "_" ++ name) := by
    rw [byCategory_stage h hg, List.map_map, List.map_map]
    rfl
  rw [hhandles] at hdistinct
  exact hdistinct.of_map

/-- The stage that knows a branch is the one of the branch. -/
theorem eq_stage_of_stageBranch? {e : String × BranchSpec} (he : e ∈ b.spec.branches.entries)
    {i : Intent} (hi : i ∈ b.build.1.plan.byCategory .stage) (hbranch : i.stageBranch? = some e.1) :
    i = b.stage e.1 e.2 := by
  rw [byCategory_stage h hg] at hi
  obtain ⟨⟨branch, own⟩, hown, rfl⟩ := List.mem_map.1 hi
  obtain rfl : branch = e.1 := Option.some.inj hbranch
  rw [Table.eq_of_mem hown he]

/-- The mapping of a branch leads to its stage. -/
theorem maps_mapping {e : String × BranchSpec} (he : e ∈ b.spec.branches.entries) (domain : Intent) :
    b.build.1.plan.Maps domain e.1 (b.mapping domain.handle e.1 e.2) where
  key := rfl
  target := rfl
  stage := by
    have hlisted : b.stage e.1 e.2 ∈ b.build.1.plan.byCategory .stage := by
      rw [byCategory_stage h hg]
      exact List.mem_map.2 ⟨e, he, rfl⟩
    refine ⟨b.stage e.1 e.2, hlisted, rfl, fun other hother => ?_, ⟨_, rfl, rfl⟩, fun handle => ?_⟩
    · exact eq_stage_of_stageBranch? h hg he hother
    · simp [mapping, stage]

end Plan

/-- **Stages and mappings, branch by branch.**  Let a spec with an api be built without a fault.
Then the plan has one stage for each branch, with the name that the branch gives or else the default
one, and no two stages have one name.  If the api gives the id and the name of a zone, there is one
domain and one record, both of the name of the api below the zone, the record is an alias of the
domain, and there is one mapping for each branch, which leads by the name of the branch to the one
stage that knows the branch.  Otherwise there is no domain, no record and no mapping. -/
theorem fansOut_of_build (h : b.build.2 = none) (hg : b.spec.gateway = some g) :
    b.FansOut g b.build.1.plan where
  stages := by
    rw [byCategory_stage h hg, List.forall₂_map_right_iff, List.forall₂_same]
    exact fun e _ => ⟨rfl, rfl⟩
  distinct := by
    have hnames : (b.build.1.plan.byCategory .stage).map (·.text? "stage_name") =
        (b.spec.branches.entries.map fun e => stageName e.2).map some := by
      rw [byCategory_stage h hg, List.map_map, List.map_map]
      rfl
    rw [hnames]
    exact (nodup_stageNames h hg).map fun _ _ heq => Option.some.inj heq
  mapped zoneId zone hzoneId hzone := by
    have hd : b.customDomain? g = some (zoneId, zone, b.spec.apiName ++ "." ++ zone) := by
      rw [customDomain?, hzoneId, hzone]
    obtain ⟨domain, record, hemissions, hhandle, hdomain, hrecord, halias, hnamed, hnamed'⟩ :=
      exists_emissions_domainSteps hd
    refine ⟨domain, record, ⟨?_, ?_, hnamed, hnamed', halias⟩, ?_⟩
    · rw [byCategory_domain h hg (by decide), hemissions]
      simp [hdomain, hrecord]
    · rw [byCategory_domain h hg (by decide), hemissions]
      simp [hdomain, hrecord]
    · have hmappings : b.build.1.plan.byCategory .apiMapping =
          b.spec.branches.entries.map fun e => b.mapping domain.handle e.1 e.2 := by
        rw [byCategory_apiMapping h hg, domainHandle?, hd, hhandle, List.map_eq_flatMap]
        rfl
      rw [hmappings, ServiceSpec.branchNames, Table.keys, List.forall₂_map_left_iff,
        List.forall₂_map_right_iff, List.forall₂_same]
      exact fun e he => maps_mapping h hg he domain
  bare hnone := by
    have hd : b.customDomain? g = none := by
      obtain hnone | hnone := hnone
      · rw [customDomain?, hnone]
      · rw [customDomain?, hnone]
        cases g.zoneId <;> rfl
    have hemissions := emissions_domainSteps_eq_nil hd
    refine ⟨?_, ?_, ?_⟩
    · rw [byCategory_domain h hg (by decide), hemissions, List.filter_nil]
    · rw [byCategory_domain h hg (by decide), hemissions, List.filter_nil]
    · rw [byCategory_apiMapping h hg, domainHandle?, hd]
      simp

/-- The portal has a custom domain, and its branches have the default stage and one of their own. -/
theorem fansOut_portal :
    (∃ g, portal.spec.gateway = some g ∧ g.zoneId = some "zone" ∧ g.domain = some "market.test" ∧
      portal.FansOut g portal.build.1.plan) ∧
    (portal.build.1.plan.byCategory .stage).map (·.text? "stage_name") =
      [some "$default", some "test"] := by
  refine ⟨⟨_, rfl, rfl, rfl, fansOut_of_build build_portal rfl⟩, ?_⟩
  rw [byCategory_stage build_portal rfl]
  rfl

end Blueprint

end ServicePlan
