import ServicePlan.Proofs.Warnings

/-!
# Networks are optional

Only batch jobs need a network.  Without one, or without subnets, a build says so for every branch
and leaves the jobs out; it plans everything else as it would with them.

* `Blueprint.withNetwork`: a blueprint with another network.
* `Plan.without`: a plan without the intents of a phase.
* `Blueprint.Idle`: a blueprint with nothing for batch jobs to run in.
* `Blueprint.build_withNetwork`: what comes of a build without its network.
* `Blueprint.forgoes_network`: the two ways to be without one, with all warnings.
-/

namespace ServicePlan

/-- References to another network, or to none. -/
def ReferenceSpec.withNetwork (r : ReferenceSpec) (network : Option NetworkSpec) : ReferenceSpec :=
  { r with network }

/-- The network without its subnets. -/
def NetworkSpec.withoutSubnets (n : NetworkSpec) : NetworkSpec := { n with subnets := [] }

/-- The network that a spec refers to. -/
def ServiceSpec.network? (s : ServiceSpec) : Option NetworkSpec := s.references.bind (·.network)

namespace References

variable {spec : Option ReferenceSpec} {site : Deployment} {versions : LayerVersions}
  {r : References} {network : NetworkSpec}

/-- Resolved references with another network, or none. -/
def withNetwork (r : References) (network : Option NetworkSpec) : References := { r with network }

/-- The network of a spec is not looked up anywhere. -/
theorem network_of_resolve (h : (resolve spec site versions).2 = .ok r) :
    r.network = spec.bind (·.network) := by
  cases spec with
  | none =>
    cases h
    rfl
  | some spec =>
    rw [resolve] at h
    cases hrun : Resolver.run versions ⟨"", site⟩ spec.layers.entries {} with
    | mk state fault =>
      rw [hrun] at h
      cases fault with
      | some f => cases h
      | none =>
        cases h
        rfl

/-- The other references are resolved alike, whatever network there is. -/
theorem resolve_withNetwork (h : (resolve spec site versions).2 = .ok r) (hspec : spec.isSome)
    (other : Option NetworkSpec) :
    (resolve (spec.map (·.withNetwork other)) site versions).2 = .ok (r.withNetwork other) := by
  obtain ⟨spec, rfl⟩ := Option.isSome_iff_exists.1 hspec
  rw [resolve] at h
  rw [Option.map_some, resolve]
  have hlayers : (spec.withNetwork other).layers = spec.layers := rfl
  rw [hlayers]
  cases hrun : Resolver.run versions ⟨"", site⟩ spec.layers.entries {} with
  | mk state fault =>
    rw [hrun] at h
    cases fault with
    | some f => cases h
    | none =>
      cases h
      rfl

end References

/-- The plan without the intents of a phase. -/
def Plan.without (p : Plan) (phase : Phase) : Plan :=
  let intents := p.intents.filter fun i => i.phase ≠ phase
  ⟨p.tags, intents, intents.map (·.handle)⟩

/-! ## The plan of a run -/

/-- Steps leave the tags of a plan as they are. -/
theorem Progress.tags_run {p q : Progress} {steps : List Step} (h : p.run steps = (q, none)) :
    q.plan.tags = p.plan.tags := by
  refine run_induction (P := fun _ r => r.plan.tags = p.plan.tags) h rfl fun seen s r t hr hs => ?_
  have ht : t.plan = (r.step s).1.plan := by rw [hs]
  rw [ht, ← hr]
  cases hintent : s.intent? with
  | none => rw [plan_step_of_intent?_eq_none r hintent]
  | some i =>
    obtain rfl := Step.intent?_eq_some_iff.1 hintent
    rw [plan_step_emit]
    rcases r.plan.push_cases i with ⟨-, h⟩ | ⟨_, -, -, -, h⟩ | ⟨-, -, h⟩ <;> rw [h]
    rfl

namespace Blueprint

variable {b c : Blueprint} {branch : String} {network : Option NetworkSpec}

/-- The plan of a build without a fault is what its steps emit, under the tags of the spec. -/
theorem plan_of_build (h : b.build.2 = none) :
    b.build.1.plan = ⟨b.spec.tags, emissions b.steps, (emissions b.steps).map (·.handle)⟩ := by
  have htags : b.build.1.plan.tags = b.spec.tags := by
    rw [plan_build, Progress.tags_run (run_of_build h)]
    rfl
  have hemitted : b.build.1.plan.emitted = (emissions b.steps).map (·.handle) := by
    rw [plan_build, (traces_of_build h).adds.emitted]
    rfl
  rw [← htags, ← hemitted, ← intents_build h]

/-! ## Another network -/

/-- The blueprint with another network, or none. -/
def withNetwork (b : Blueprint) (network : Option NetworkSpec) : Blueprint :=
  { b with
    spec := { b.spec with references := b.spec.references.map (·.withNetwork network) }
    references := b.references.withNetwork network }

/-- Only batch jobs ask for the network: the steps before those of the branches do not. -/
theorem sharedSteps_withNetwork : (b.withNetwork network).sharedSteps = b.sharedSteps := rfl

/-- Nor do those for the functions of a branch. -/
theorem computeSteps_withNetwork :
    (b.withNetwork network).computeSteps branch = b.computeSteps branch := rfl

/-- There is nothing that batch jobs could run in: no network, or one without subnets. -/
def Idle (b : Blueprint) : Prop :=
  ∀ network, b.references.network = some network → network.subnets = []

theorem idle_withNetwork_none (b : Blueprint) : (b.withNetwork none).Idle := by
  intro network h
  cases h

theorem idle_withNetwork_withoutSubnets (b : Blueprint) (network : NetworkSpec) :
    (b.withNetwork (some network.withoutSubnets)).Idle := by
  intro _ h
  cases h
  rfl

/-! ## Batch jobs of a branch -/

/-- The warning about a branch without a network for its jobs. -/
def noNetworkWarning (branch : String) : String :=
  s!"cannot create batch func of branch '{branch}': vpc is not defined in spec"

/-- The warning about a job without subnets. -/
def noSubnetsWarning (b : Blueprint) (branch key : String) : String :=
  s!"ignore creating {b.naming.job key branch} because vpc subnet_id_list is blank"

/-- Batch jobs never end a build by themselves. -/
theorem clean_batchSteps (b : Blueprint) (branch : String) : Clean (b.batchSteps branch) := by
  have hjob : ∀ key j network, Clean (b.jobSteps branch key j network) := by
    intro key j network
    rw [jobSteps]
    split <;> simp [Clean]
  rw [batchSteps]
  split
  · simp [Clean]
  · split
    · simp [Clean]
    · intro f hf
      obtain hf | hf := List.mem_cons.1 hf
      · cases hf
      · exact clean_flatMap.2 (fun e _ => hjob e.1 e.2 _) f hf

/-- Where jobs have nothing to run in, nothing is emitted for them. -/
theorem emissions_batchSteps_of_idle (h : b.Idle) (branch : String) :
    emissions (b.batchSteps branch) = [] := by
  rw [emissions_batchSteps]
  refine List.flatMap_eq_nil_iff.2 fun e _ => List.flatMap_eq_nil_iff.2 fun network hnetwork => ?_
  have hsubnets : network.subnets = [] := h network (Option.mem_toList.1 hnetwork)
  simp [jobSteps, hsubnets]

/-- Without a network, a branch with jobs gives one warning. -/
theorem warningsOf_batchSteps_of_none (h : b.references.network = none) (branch : String) :
    warningsOf (b.batchSteps branch) =
      if b.spec.jobTable.entries = [] then [] else [noNetworkWarning branch] := by
  rw [batchSteps, ServiceSpec.jobTable]
  split
  · rename_i hjobs
    rw [if_pos hjobs]
    rfl
  · rename_i hjobs
    rw [if_neg hjobs, h]
    rfl

/-- With a network, a branch gives a warning for each job if there are no subnets. -/
theorem warningsOf_batchSteps_of_some {network : NetworkSpec}
    (h : b.references.network = some network) (branch : String) :
    warningsOf (b.batchSteps branch) =
      if network.subnets = [] then b.spec.jobTable.keys.map (b.noSubnetsWarning branch)
      else [] := by
  have hjob : ∀ key j, warningsOf (b.jobSteps branch key j network) =
      if network.subnets = [] then [b.noSubnetsWarning branch key] else [] := by
    intro key j
    rw [jobSteps, warningsOf_cons]
    by_cases hsubnets : network.subnets = []
    · rw [if_pos hsubnets, hsubnets]
      rfl
    · rw [if_neg hsubnets, if_neg (by simpa using hsubnets)]
      simp [warningsOf]
  rw [batchSteps, ServiceSpec.jobTable, Table.keys]
  split
  · rename_i hjobs
    simp [hjobs, warningsOf]
  · rw [h]
    simp only [Step.info, warningsOf_cons, warningsOf_flatMap, hjob]
    split
    · rw [List.map_map]
      exact List.map_eq_flatMap.symm
    · exact List.flatMap_eq_nil_iff.2 fun _ _ => rfl

/-! ## Builds -/

/-- A build with nothing for jobs to run in emits what is not of the batch phase. -/
theorem emissions_withNetwork (hidle : (b.withNetwork network).Idle) :
    emissions (b.withNetwork network).steps =
      (emissions b.steps).filter fun i => i.phase ≠ .batch := by
  have hshared : (emissions b.sharedSteps).filter (fun i => i.phase ≠ .batch) =
      emissions b.sharedSteps := by
    refine List.filter_eq_self.2 fun i hi => ?_
    have hbranch := List.filter_eq_nil_iff.1 branchIntents_sharedSteps i hi
    simp only [decide_eq_true_eq, not_or] at hbranch
    simp [hbranch.2]
  have hbranch : ∀ branch, (emissions (b.branchSteps branch)).filter (fun i => i.phase ≠ .batch) =
      emissions ((b.withNetwork network).branchSteps branch) := by
    intro branch
    have hcompute : (emissions (b.computeSteps branch)).filter (fun i => i.phase ≠ .batch) =
        emissions (b.computeSteps branch) :=
      List.filter_eq_self.2 fun i hi => by simp [(emits_computeSteps i hi).1]
    have hbatch : (emissions (b.batchSteps branch)).filter (fun i => i.phase ≠ .batch) = [] :=
      List.filter_eq_nil_iff.2 fun i hi => by simp [(emits_batchSteps i hi).1]
    rw [branchSteps, branchSteps, emissions_append, emissions_append, List.filter_append, hcompute,
      hbatch, emissions_batchSteps_of_idle hidle, computeSteps_withNetwork]
  rw [steps_eq_append, steps_eq_append, sharedSteps_withNetwork]
  simp only [emissions_append, emissions_flatMap, List.filter_append, List.filter_flatMap, hshared,
    hbranch]
  rfl

/-- Without its network a spec refers to nothing else than before. -/
theorem closed_withNetwork (hnetwork : b.references.network.isSome) (h : b.Closed) :
    (b.withNetwork network).Closed where
  functions := ⟨h.functions.chains, h.functions.layers⟩
  topicFunctions e he functions hfunctions :=
    ⟨(h.topicFunctions e he functions hfunctions).chains,
      (h.topicFunctions e he functions hfunctions).layers⟩
  logins := h.logins
  notifications := h.notifications
  integrations := h.integrations
  authorizations := h.authorizations
  jobs _ := h.jobs hnetwork

/-- What can be built with a network can be built with nothing for jobs to run in. -/
theorem build_withNetwork (h : b.build.2 = none) (hnetwork : b.references.network.isSome)
    (hidle : (b.withNetwork network).Idle) : (b.withNetwork network).build.2 = none := by
  by_cases hbranches : b.spec.branchNames = []
  · -- without branches there is no loop, and the network plays no part at all
    have hsteps : (b.withNetwork network).steps = b.steps := by
      have hnames : (b.withNetwork network).spec.branchNames = [] := hbranches
      rw [steps_eq_append, steps_eq_append, sharedSteps_withNetwork, hnames, hbranches]
      rfl
    rw [snd_build, hsteps]
    exact (snd_build b).symm.trans h
  · obtain ⟨hclean, hclosed, hnodup⟩ := (build_eq_none_iff b hbranches).1 h
    refine (build_eq_none_iff (b.withNetwork network) hbranches).2 ⟨?_, ?_, ?_⟩
    · rw [steps_eq_append, clean_append, clean_append, clean_flatMap] at hclean ⊢
      refine ⟨⟨hclean.1.1, fun branch hbranch => clean_append.2 ⟨?_, clean_batchSteps _ branch⟩⟩,
        hclean.2⟩
      exact (clean_append.1 (hclean.1.2 branch hbranch)).1
    · exact closed_withNetwork hnetwork hclosed
    · rw [emissions_withNetwork hidle]
      exact hnodup.sublist (List.filter_sublist.map _)

/-- A build gets on without what the batch jobs of another build run in: it succeeds and plans
everything but the jobs. -/
structure Forgoes (b c : Blueprint) (versions : LayerVersions) : Prop where
  /-- The references of the spec are resolved. -/
  resolves : (References.resolve c.spec.references c.site versions).2 = .ok c.references
  /-- The build meets no fault. -/
  builds : c.build.2 = none
  /-- The plan is the other plan without the intents of the batch phase. -/
  plan : c.build.1.plan = b.build.1.plan.without .batch

theorem forgoes_withNetwork {versions : LayerVersions} (h : b.build.2 = none)
    (hresolve : (References.resolve b.spec.references b.site versions).2 = .ok b.references)
    (hnetwork : b.references.network.isSome) (hidle : (b.withNetwork network).Idle) :
    b.Forgoes (b.withNetwork network) versions := by
  have hbuilt := build_withNetwork h hnetwork hidle
  refine ⟨References.resolve_withNetwork hresolve ?_ network, hbuilt, ?_⟩
  · rw [References.network_of_resolve hresolve] at hnetwork
    exact Option.isSome_of_isSome_bind hnetwork
  · rw [plan_of_build hbuilt, plan_of_build h, emissions_withNetwork hidle]
    rfl

/-- **Networks are optional.**  Let a spec with a network be built without a fault.  Then it is
built as well without the network, and with a network without subnets, and either plan is the first
one less the intents of the batch phase.  If there are batch jobs, the builds warn of every branch,
or of every job of every branch, and of nothing else.  With subnets there are no warnings. -/
theorem forgoes_network {versions : LayerVersions} {network : NetworkSpec}
    (hresolve : (References.resolve b.spec.references b.site versions).2 = .ok b.references)
    (hnetwork : b.spec.network? = some network) (hbuild : b.build.2 = none) :
    b.Forgoes (b.withNetwork none) versions ∧
    (b.withNetwork none).build.1.warnings =
      (if b.spec.jobTable.entries = [] then [] else b.spec.branchNames.map noNetworkWarning) ∧
    b.Forgoes (b.withNetwork (some network.withoutSubnets)) versions ∧
    (b.withNetwork (some network.withoutSubnets)).build.1.warnings =
      (b.spec.branchNames.flatMap fun branch =>
        b.spec.jobTable.keys.map (b.noSubnetsWarning branch)) ∧
    (network.subnets ≠ [] → b.build.1.warnings = []) := by
  have hresolved : b.references.network = some network := by
    rw [References.network_of_resolve hresolve]
    exact hnetwork
  have hsome : b.references.network.isSome := by rw [hresolved]; rfl
  have hnone := forgoes_withNetwork hbuild hresolve hsome b.idle_withNetwork_none
  have hempty :=
    forgoes_withNetwork hbuild hresolve hsome (b.idle_withNetwork_withoutSubnets network)
  refine ⟨hnone, ?none, hempty, ?empty, fun hsubnets => ?subnets⟩
  case none =>
    rw [warnings_build hnone.builds]
    simp only [warningsOf_batchSteps_of_none (b := b.withNetwork none) rfl]
    change (b.spec.branchNames.flatMap fun branch =>
      if b.spec.jobTable.entries = [] then [] else [noNetworkWarning branch]) = _
    split
    · exact List.flatMap_eq_nil_iff.2 fun _ _ => rfl
    · exact List.map_eq_flatMap.symm
  case empty =>
    rw [warnings_build hempty.builds]
    simp only [warningsOf_batchSteps_of_some (b := b.withNetwork _) rfl]
    rfl
  case subnets =>
    rw [warnings_build hbuild]
    simp only [warningsOf_batchSteps_of_some hresolved, if_neg hsubnets]
    exact List.flatMap_eq_nil_iff.2 fun _ _ => rfl

/-- The market has a job on either of its branches, or a warning for each. -/
theorem forgoes_network_market :
    let versions : LayerVersions := fun _ _ => .ok 1
    ((References.resolve market.spec.references market.site versions).2 = .ok market.references ∧
      market.spec.network? = some ⟨["net"], "group"⟩ ∧ market.build.2 = none) ∧
    market.Forgoes (market.withNetwork none) versions ∧
    (market.withNetwork none).build.1.warnings =
      [noNetworkWarning "main", noNetworkWarning "test"] ∧
    market.Forgoes (market.withNetwork (some (.withoutSubnets ⟨["net"], "group"⟩))) versions ∧
    (market.withNetwork (some (.withoutSubnets ⟨["net"], "group"⟩))).build.1.warnings =
      [market.noSubnetsWarning "main" "report", market.noSubnetsWarning "test" "report"] ∧
    market.build.1.warnings = [] := by
  intro versions
  have hresolve : (References.resolve market.spec.references market.site versions).2 =
      .ok market.references := by rfl
  have hnetwork : market.spec.network? = some ⟨["net"], "group"⟩ := by rfl
  have hbranches : market.spec.branchNames = ["main", "test"] := by rfl
  have hjobs : market.spec.jobTable.keys = ["report"] := by rfl
  have hsome : market.spec.jobTable.entries ≠ [] := by
    intro h
    rw [Table.keys, h] at hjobs
    cases hjobs
  obtain ⟨halone, hnone, hblank, hempty, hfull⟩ :=
    forgoes_network hresolve hnetwork build_market
  rw [if_neg hsome, hbranches] at hnone
  rw [hbranches, hjobs] at hempty
  exact ⟨⟨hresolve, hnetwork, build_market⟩, halone, hnone.trans rfl, hblank, hempty.trans rfl,
    hfull (by simp)⟩

end Blueprint

end ServicePlan
