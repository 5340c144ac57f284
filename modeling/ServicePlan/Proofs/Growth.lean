import ServicePlan.Proofs.Entries

/-!
# Specs that grow

A spec is built again whenever it has grown.  What was planned before is planned again, the same and
in the same order, so that a plan is only added to.  An intent is made from its own entry, from the
branches and from the references, and never from the other entries of its table; only the order of
the keys decides where the intents of a new entry go.

* `ServiceSpec.Grows`: a spec gets one entry under a new key.
* `ServiceSpec.Extends`: a spec gets any number of entries, which is what growing comes to.
* `Blueprint.sublist_emissions_steps`: the steps for a spec and for one that extends it.
* `Blueprint.sublist_intents_of_grows`: what comes of builds without a fault.
-/

namespace ServicePlan

/-! ## Larger specs -/

/-- A spec becomes another one by one entry under a key that is new in its table.  A table that the
spec leaves out is filled from the empty one. -/
inductive ServiceSpec.Grows (s : ServiceSpec) : ServiceSpec → Prop
  /-- The branches get one more function. -/
  | function {key : String} (f : FunctionSpec) (h : key ∉ s.functions.keys) :
    Grows s { s with functions := s.functions.insert key f }
  /-- There is one more topic. -/
  | topic {key : String} (t : TopicSpec) (h : key ∉ s.topicTable.keys) :
    Grows s { s with topics := some (s.topicTable.insert key t) }
  /-- There is one more bucket. -/
  | bucket {name : String} (k : BucketSpec) (h : name ∉ s.bucketTable.keys) :
    Grows s { s with buckets := some (s.bucketTable.insert name k) }
  /-- The branches get one more batch job. -/
  | job {key : String} (j : JobSpec) (h : key ∉ s.jobTable.keys) :
    Grows s { s with jobs := some (s.jobTable.insert key j) }
  /-- There is one more app. -/
  | app {name : String} (a : AppSpec) (h : name ∉ s.appTable.keys) :
    Grows s { s with apps := some (s.appTable.insert name a) }

/-- A spec has all entries of another one, and agrees with it on all else. -/
structure ServiceSpec.Extends (s t : ServiceSpec) : Prop where
  /-- Only the tables of entries differ. -/
  rest : ∃ functions buckets topics jobs apps,
    t = { s with functions, buckets, topics, jobs, apps }
  /-- No function is missing. -/
  functions : s.functions.entries.Sublist t.functions.entries
  /-- No topic is missing. -/
  topics : s.topicTable.entries.Sublist t.topicTable.entries
  /-- No bucket is missing. -/
  buckets : s.bucketTable.entries.Sublist t.bucketTable.entries
  /-- No batch job is missing. -/
  jobs : s.jobTable.entries.Sublist t.jobTable.entries
  /-- No app is missing. -/
  apps : s.appTable.entries.Sublist t.appTable.entries

/-- Growing replaces nothing. -/
theorem ServiceSpec.Grows.extends {s t : ServiceSpec} (h : s.Grows t) : s.Extends t := by
  cases h with
  | function f h =>
    exact ⟨⟨_, _, _, _, _, rfl⟩, Table.sublist_entries_insert f h, .refl _, .refl _, .refl _,
      .refl _⟩
  | topic t h =>
    exact ⟨⟨_, _, _, _, _, rfl⟩, .refl _, Table.sublist_entries_insert t h, .refl _, .refl _,
      .refl _⟩
  | bucket k h =>
    exact ⟨⟨_, _, _, _, _, rfl⟩, .refl _, .refl _, Table.sublist_entries_insert k h, .refl _,
      .refl _⟩
  | job j h =>
    exact ⟨⟨_, _, _, _, _, rfl⟩, .refl _, .refl _, .refl _, Table.sublist_entries_insert j h,
      .refl _⟩
  | app a h =>
    exact ⟨⟨_, _, _, _, _, rfl⟩, .refl _, .refl _, .refl _, .refl _,
      Table.sublist_entries_insert a h⟩

namespace Blueprint

/-- The blueprint of another spec, with the same references, files and options. -/
def withSpec (b : Blueprint) (s : ServiceSpec) : Blueprint := { b with spec := s }

variable {b : Blueprint} {s : ServiceSpec} {branch : String}

/-! ## Entries on their own

What is planned for an entry is the same whatever entries there are beside it. -/

/-- What does not read the tables of entries is the same for both specs. -/
theorem eq_of_extends {α : Sort*} (h : b.spec.Extends s) (part : Blueprint → α)
    (hpart : ∀ functions buckets topics jobs apps,
      part (b.withSpec { b.spec with functions, buckets, topics, jobs, apps }) = part b) :
    part (b.withSpec s) = part b := by
  obtain ⟨functions, buckets, topics, jobs, apps, rfl⟩ := h.rest
  exact hpart functions buckets topics jobs apps

theorem functionSteps_withSpec (h : b.spec.Extends s) :
    (b.withSpec s).functionSteps = b.functionSteps :=
  eq_of_extends h (·.functionSteps) fun _ _ _ _ _ => rfl

theorem topicSteps_withSpec (h : b.spec.Extends s) : (b.withSpec s).topicSteps = b.topicSteps :=
  eq_of_extends h (·.topicSteps) fun _ _ _ _ _ => rfl

theorem deployedAppSteps_withSpec (h : b.spec.Extends s) :
    (b.withSpec s).deployedAppSteps = b.deployedAppSteps :=
  eq_of_extends h (·.deployedAppSteps) fun _ _ _ _ _ => rfl

theorem jobSteps_withSpec (h : b.spec.Extends s) : (b.withSpec s).jobSteps = b.jobSteps :=
  eq_of_extends h (·.jobSteps) fun _ _ _ _ _ => rfl

theorem repository_withSpec (h : b.spec.Extends s) : (b.withSpec s).repository = b.repository :=
  eq_of_extends h (·.repository) fun _ _ _ _ _ => rfl

theorem branchNames_withSpec (h : b.spec.Extends s) :
    (b.withSpec s).spec.branchNames = b.spec.branchNames :=
  eq_of_extends h (·.spec.branchNames) fun _ _ _ _ _ => rfl

/-- The api looks at functions only to make sure that they are there. -/
theorem emissions_gatewaySteps_withSpec (h : b.spec.Extends s) :
    emissions (b.withSpec s).gatewaySteps = emissions b.gatewaySteps := by
  have hgateway : (b.withSpec s).spec.gateway = b.spec.gateway :=
    eq_of_extends h (·.spec.gateway) fun _ _ _ _ _ => rfl
  cases hg : b.spec.gateway with
  | none => rw [gatewaySteps, gatewaySteps, hgateway, hg]
  | some g =>
    rw [emissions_gatewaySteps hg, emissions_gatewaySteps (hgateway.trans hg)]
    obtain ⟨functions, buckets, topics, jobs, apps, rfl⟩ := h.rest
    rfl

/-! ## Phases -/

theorem sublist_messagingSteps (h : b.spec.Extends s) :
    (emissions b.messagingSteps).Sublist (emissions (b.withSpec s).messagingSteps) := by
  rw [emissions_messagingSteps, emissions_messagingSteps, topicSteps_withSpec h]
  exact h.topics.flatMap _

theorem sublist_frontendSteps (h : b.spec.Extends s) :
    (emissions b.frontendSteps).Sublist (emissions (b.withSpec s).frontendSteps) := by
  rw [emissions_frontendSteps, emissions_frontendSteps, deployedAppSteps_withSpec h]
  exact h.apps.flatMap _

theorem sublist_storageSteps (h : b.spec.Extends s) :
    (emissions b.storageSteps).Sublist (emissions (b.withSpec s).storageSteps) := by
  rw [emissions_storageSteps, emissions_storageSteps, repository_withSpec h]
  exact (h.buckets.map _).append (h.jobs.map _)

/-- The functions of the larger spec are only planned if nothing is wrong with their queues. -/
theorem sublist_computeSteps (h : b.spec.Extends s) (hb : Clean (b.computeSteps branch))
    (hs : Clean ((b.withSpec s).computeSteps branch)) :
    (emissions (b.computeSteps branch)).Sublist
      (emissions ((b.withSpec s).computeSteps branch)) := by
  rw [emissions_computeSteps hb, emissions_computeSteps hs, functionSteps_withSpec h]
  exact h.functions.flatMap _

theorem sublist_batchSteps (h : b.spec.Extends s) :
    (emissions (b.batchSteps branch)).Sublist (emissions ((b.withSpec s).batchSteps branch)) := by
  rw [emissions_batchSteps, emissions_batchSteps, jobSteps_withSpec h]
  exact h.jobs.flatMap _

/-! ## Whole builds -/

/-- The steps for a spec emit some of what those for a larger spec emit, if both can be made to the
end. -/
theorem sublist_emissions_steps (h : b.spec.Extends s) (hb : Clean b.steps)
    (hs : Clean (b.withSpec s).steps) :
    (emissions b.steps).Sublist (emissions (b.withSpec s).steps) := by
  have hnames := branchNames_withSpec h
  rw [emissions_steps, emissions_steps, emissions_gatewaySteps_withSpec h, hnames]
  refine ((((sublist_messagingSteps h).append (sublist_frontendSteps h)).append (.refl _)).append
    (sublist_storageSteps h)).append (.flatMap_right _ fun branch hbranch => ?_)
  refine List.Sublist.append ?_ (sublist_batchSteps h)
  exact sublist_computeSteps h (clean_computeSteps hb hbranch)
    (clean_computeSteps hs (hnames ▸ hbranch))

/-- **Plans are only added to.**  If a spec and the spec with one entry more are both built without
a fault, with the same references, files and options, then the first plan lists some of the intents
of the second one in their order, each with the same handle, phase, attributes and dependencies. -/
theorem sublist_intents_of_grows (hgrows : b.spec.Grows s) (h : b.build.2 = none)
    (hs : (b.withSpec s).build.2 = none) :
    b.build.1.plan.intents.Sublist (b.withSpec s).build.1.plan.intents := by
  rw [intents_build h, intents_build hs]
  exact sublist_emissions_steps hgrows.extends (clean_of_build h) (clean_of_build hs)

/-- The spec of the service with two branches and with one more function, whose key comes between
those of the others and which has a queue. -/
def largerMarket : ServiceSpec :=
  { market.spec with functions := market.spec.functions.insert "mail" { queue := some {} } }

theorem grows_largerMarket : market.spec.Grows largerMarket :=
  .function _ (by decide +kernel)

set_option maxRecDepth 20000 in
theorem build_largerMarket : (market.withSpec largerMarket).build.2 = none := by rfl

/-- The plan of the service with two branches is only added to. -/
theorem sublist_intents_market :
    market.spec.Grows largerMarket ∧ market.build.2 = none ∧
      (market.withSpec largerMarket).build.2 = none ∧
      market.build.1.plan.intents.Sublist (market.withSpec largerMarket).build.1.plan.intents :=
  ⟨grows_largerMarket, build_market, build_largerMarket,
    sublist_intents_of_grows grows_largerMarket build_market build_largerMarket⟩

end Blueprint

end ServicePlan
