import ServicePlan.Proofs.FunctionPlan

/-!
# Branches on their own

What a spec says about one branch can be built without the others.  The shared phases emit fewer
resources then, since apps, sign-in and stages go by branches, but none that they would not emit
otherwise.  The functions and batch jobs of the branch come out the same, so they depend neither on
which other branches there are nor on how these are configured.

* `Blueprint.only`: a blueprint with one of its branches.
* `Thins`: steps that emit some of the resources that other steps emit.
* `Blueprint.thins_steps`: a build of one branch does some of what the full build does.
* `Blueprint.IsLocal`: what is built for a branch is built for the branch alone.
* `Blueprint.isLocal_of_build`: what comes of a build without a fault.
-/

namespace ServicePlan

/-! ## One branch of a blueprint -/

section Only

variable {α : Type} {t : Table α} {key : String} {value : α}

/-- The table with the entry of one key, if there is one. -/
def Table.only (t : Table α) (key : String) : Table α :=
  ⟨t.entries.filter fun e => e.1 = key, t.ascending.filter _⟩

theorem Table.get?_only : (t.only key).get? key = t.get? key := by
  refine Option.ext fun value => ?_
  rw [get?_eq_some_iff, get?_eq_some_iff, only]
  simp

theorem Table.keys_only (hkey : key ∈ t.keys) : (t.only key).keys = [key] := by
  have hkeys : (t.only key).keys = t.keys.filter fun k => k = key := by
    simp [keys, only, List.filter_map, Function.comp_def]
  have hnodup : t.keys.Nodup := by
    refine t.pairwise_keys.imp fun hlt => ?_
    rintro rfl
    exact String.lt_irrefl _ hlt
  rw [hkeys, List.filter_eq, List.count_eq_one_of_mem hnodup hkey, List.replicate_one]

end Only

namespace Blueprint

variable {b : Blueprint} {branch key app : String} {w : Wiring} {f : FunctionSpec} {a : AppSpec}

/-- The blueprint with one of its branches. -/
def only (b : Blueprint) (branch : String) : Blueprint :=
  { b with spec := { b.spec with branches := b.spec.branches.only branch } }

theorem branchNames_only (hbranch : branch ∈ b.spec.branchNames) :
    (b.only branch).spec.branchNames = [branch] :=
  Table.keys_only hbranch

/-! ## What does not depend on other branches -/

/-- The environment of a branch depends on no other branch. -/
theorem environment_only :
    (b.only branch).environment (some branch) = b.environment (some branch) := by
  have hget : (b.only branch).spec.branches.get? branch = b.spec.branches.get? branch :=
    Table.get?_only
  simp only [environment, hget]
  rfl

/-- Functions depend on branches by their environment alone. -/
theorem functionSteps_only (h : (b.only branch).environment w.branch = b.environment w.branch) :
    (b.only branch).functionSteps w key f = b.functionSteps w key f := by
  have hconfig : (b.only branch).functionConfig w key f = b.functionConfig w key f := by
    funext runtime layers
    simp only [functionConfig, functionEnvironment, h]
    rfl
  simp only [functionSteps, hconfig]
  rfl

theorem functionsSteps_only {functions : Table FunctionSpec}
    (h : (b.only branch).environment w.branch = b.environment w.branch) :
    (b.only branch).functionsSteps w functions = b.functionsSteps w functions := by
  simp only [functionsSteps, functionSteps_only h]

theorem messagingSteps_only : (b.only branch).messagingSteps = b.messagingSteps := by
  have htopic : (b.only branch).topicSteps = b.topicSteps := by
    funext key t
    simp only [topicSteps]
    rw [funext fun functions => functionsSteps_only rfl]
    rfl
  simp only [messagingSteps, htopic]
  rfl

theorem computeSteps_only : (b.only branch).computeSteps branch = b.computeSteps branch := by
  simp only [computeSteps, functionsSteps_only (w := branchWiring branch) environment_only]
  rfl

theorem batchSteps_only : (b.only branch).batchSteps branch = b.batchSteps branch := by
  have hpairs : (b.only branch).environmentPairs branch = b.environmentPairs branch := by
    simp only [environmentPairs, environment_only]
  have hdefinition : (b.only branch).jobDefinition branch = b.jobDefinition branch := by
    funext key j
    simp only [jobDefinition, hpairs]
    rfl
  have hjob : (b.only branch).jobSteps branch = b.jobSteps branch := by
    funext key j network
    simp only [jobSteps, jobIntents, hdefinition]
    rfl
  simp only [batchSteps, hjob]
  rfl

end Blueprint

/-- What a plan lists for branches: functions with what feeds them, and batch jobs. -/
def Plan.branchIntents (p : Plan) : List Intent :=
  p.intents.filter fun i => i.phase = .compute ∨ i.phase = .batch

/-! ## Steps that do less -/

/-- Steps that emit some of the resources that other steps emit, in the same order, and that end a
build only if these do. -/
structure Thins (few many : List Step) : Prop where
  /-- The resources are some of the others. -/
  handles : ((emissions few).map (·.handle)).Sublist ((emissions many).map (·.handle))
  /-- The steps are made to the end if the others are. -/
  clean : Clean many → Clean few

section Thins

variable {α : Type} {few many few' many' : List Step}

theorem Thins.refl (steps : List Step) : Thins steps steps := ⟨.refl _, id⟩

theorem Thins.append (h : Thins few many) (h' : Thins few' many') :
    Thins (few ++ few') (many ++ many') where
  handles := by
    simp only [emissions_append, List.map_append]
    exact h.handles.append h'.handles
  clean hclean := by
    rw [clean_append] at hclean ⊢
    exact ⟨h.clean hclean.1, h'.clean hclean.2⟩

theorem thins_nil (steps : List Step) : Thins [] steps where
  handles := List.nil_sublist _
  clean _ := by simp [Clean]

/-- Only the resource of an intent counts. -/
theorem thins_emit {i j : Intent} (h : i.handle = j.handle) : Thins [.emit i] [.emit j] where
  handles := by simp [h]
  clean _ := by simp [Clean]

/-- A loop with fewer rounds, each of which does less. -/
theorem thins_flatMap {l l' : List α} {g g' : α → List Step} (hl : l.Sublist l')
    (h : ∀ a ∈ l, Thins (g a) (g' a)) : Thins (l.flatMap g) (l'.flatMap g') := by
  induction hl with
  | slnil => exact thins_nil _
  | cons a _ ih => exact (thins_nil (g' a)).append (ih h)
  | cons_cons a _ ih =>
    exact (h a (List.mem_cons_self ..)).append (ih fun x hx => h x (List.mem_cons_of_mem a hx))

theorem thins_orFail {r : Except Fault α} {next next' : α → List Step}
    (h : ∀ a, Thins (next a) (next' a)) : Thins (Step.orFail r next) (Step.orFail r next') := by
  cases r with
  | ok a => exact h a
  | error f => exact .refl _

end Thins

namespace Blueprint

variable {b : Blueprint} {branch key app : String} {a : AppSpec} {g : GatewaySpec}

/-- What goes by branches in the spec goes by one of them. -/
theorem sublist_entries_only :
    (b.only branch).spec.branches.entries.Sublist b.spec.branches.entries :=
  List.filter_sublist

theorem sublist_branchNames_only :
    (b.only branch).spec.branchNames.Sublist b.spec.branchNames :=
  sublist_entries_only.map _

/-! ## The shared phases -/

/-- An app is deployed on fewer branches. -/
theorem thins_appSteps (repositoryRoot token : String) :
    Thins ((b.only branch).appSteps app a repositoryRoot token)
      (b.appSteps app a repositoryRoot token) := by
  have hbranches : ∀ c : Blueprint, (c.appBranches app).map Step.emit =
      c.spec.branches.entries.flatMap fun e => [Step.emit (c.appBranch app e.1 e.2)] := by
    intro c
    rw [appBranches, List.map_map, List.map_eq_flatMap]
    rfl
  rw [appSteps, appSteps, hbranches, hbranches]
  refine ((Thins.refl _).append ?_).append (thins_emit rfl)
  exact thins_flatMap sublist_entries_only fun _ _ => thins_emit rfl

/-- An app has identity pools for fewer branches. -/
theorem thins_loginSteps : Thins ((b.only branch).loginSteps app a) (b.loginSteps app a) := by
  rw [loginSteps, loginSteps]
  split
  · exact .refl _
  · refine thins_orFail fun pool => (Thins.append ?client ?pools).append (.refl _)
    case client => exact thins_emit rfl
    case pools =>
      split
      · exact thins_flatMap sublist_branchNames_only fun _ _ => .refl _
      · exact .refl _

/-- A notification is about fewer branches. -/
theorem thins_deploymentSteps :
    Thins ((b.only branch).deploymentSteps app a) (b.deploymentSteps app a) := by
  rw [deploymentSteps, deploymentSteps]
  split
  · exact .refl _
  · exact (Thins.refl [_]).append (thins_emit rfl)

theorem thins_frontendSteps : Thins (b.only branch).frontendSteps b.frontendSteps := by
  have happs : (b.only branch).spec.apps = b.spec.apps := rfl
  have htoken : (b.only branch).token = b.token := rfl
  have hroot : (b.only branch).spec.repositoryRoot = b.spec.repositoryRoot := rfl
  rw [frontendSteps, frontendSteps, happs, htoken, hroot]
  split
  · exact .refl _
  · split
    · exact .refl _
    · exact .refl _
    · refine thins_flatMap (.refl _) fun e _ => ?_
      exact ((thins_appSteps _ _).append thins_loginSteps).append thins_deploymentSteps

/-- The api has fewer stages. -/
theorem thins_stageSteps : Thins ((b.only branch).stageSteps g) (b.stageSteps g) :=
  thins_flatMap sublist_entries_only fun _ _ => .refl _

theorem thins_gatewaySteps : Thins (b.only branch).gatewaySteps b.gatewaySteps := by
  have hgateway : (b.only branch).spec.gateway = b.spec.gateway := rfl
  rw [gatewaySteps, gatewaySteps, hgateway]
  split
  · exact .refl _
  · refine ((((((Thins.refl _).append (.refl _)).append (.refl _)).append ?_).append ?_).append
      ?_).append (.refl _)
    · exact thins_stageSteps
    · exact .refl _
    · exact .refl _

/-! ## The whole build -/

/-- A build of one branch does some of what the full build does. -/
theorem thins_steps (hbranch : branch ∈ b.spec.branchNames) :
    Thins (b.only branch).steps b.steps := by
  have hbranches : Thins ((b.only branch).spec.branchNames.flatMap (b.only branch).branchSteps)
      (b.spec.branchNames.flatMap b.branchSteps) := by
    rw [branchNames_only hbranch]
    refine thins_flatMap (List.singleton_sublist.2 hbranch) fun name hname => ?_
    obtain rfl := List.mem_singleton.1 hname
    rw [branchSteps, branchSteps, computeSteps_only, batchSteps_only]
    exact .refl _
  rw [steps, steps, messagingSteps_only]
  exact ((((((((((Thins.refl _).append (.refl _)).append (.refl _)).append
    thins_frontendSteps).append (.refl _)).append thins_gatewaySteps).append (.refl _)).append
    (.refl _)).append (.refl _)).append hbranches).append (.refl _)

/-- The references of a spec do not go by branches. -/
theorem closed_only (h : b.Closed) : (b.only branch).Closed where
  functions := h.functions
  topicFunctions := h.topicFunctions
  logins := h.logins
  notifications := h.notifications
  integrations := h.integrations
  authorizations := h.authorizations
  jobs := h.jobs

/-- What can be built for all branches can be built for each of them. -/
theorem build_only (h : b.build.2 = none) (hbranch : branch ∈ b.spec.branchNames) :
    (b.only branch).build.2 = none := by
  have hsome : b.spec.branchNames ≠ [] := List.ne_nil_of_mem hbranch
  have hone : (b.only branch).spec.branchNames ≠ [] := by simp [branchNames_only hbranch]
  obtain ⟨hclean, hclosed, hnodup⟩ := (build_eq_none_iff b hsome).1 h
  have hthins := thins_steps hbranch
  exact (build_eq_none_iff _ hone).2
    ⟨hthins.clean hclean, closed_only hclosed, hnodup.sublist hthins.handles⟩

/-! ## What is built for a branch -/

/-- The steps that come before those of the branches. -/
def sharedSteps (b : Blueprint) : List Step :=
  [.info s!"Building resource graph of {b.spec.apiName}"] ++
  b.messagingSteps ++ [.complete .messaging] ++
  b.frontendSteps ++ [.complete .frontend] ++
  b.gatewaySteps ++ [.complete .gateway] ++
  b.storageSteps ++ [.complete .storage]

theorem steps_eq_append (b : Blueprint) :
    b.steps = b.sharedSteps ++ b.spec.branchNames.flatMap b.branchSteps ++
      [.complete .compute, .complete .batch] := rfl

/-- The steps of a branch emit nothing but intents of branches. -/
theorem branchIntents_branchSteps :
    (emissions (b.branchSteps branch)).filter (fun i => i.phase = .compute ∨ i.phase = .batch) =
      emissions (b.branchSteps branch) := by
  refine List.filter_eq_self.2 fun i hi => ?_
  rw [branchSteps, emissions_append, List.mem_append] at hi
  obtain hi | hi := hi
  · simp [(emits_computeSteps i hi).1]
  · simp [(emits_batchSteps i hi).1]

/-- The shared steps emit no intents of branches. -/
theorem branchIntents_sharedSteps :
    (emissions b.sharedSteps).filter (fun i => i.phase = .compute ∨ i.phase = .batch) = [] := by
  refine List.filter_eq_nil_iff.2 fun i hi => ?_
  simp only [sharedSteps, emissions_append, emissions_cons, Step.intent?, Step.info,
    Option.toList_none, emissions_nil, List.append_nil, List.nil_append, List.mem_append] at hi
  obtain ((hi | hi) | hi) | hi := hi
  · simp [(emits_messagingSteps i hi).1]
  · simp [(emits_frontendSteps i hi).1]
  · simp [(emits_gatewaySteps i hi).1]
  · simp [(emits_storageSteps i hi).1]

/-- A plan lists the intents of the branches branch by branch. -/
theorem branchIntents_build (h : b.build.2 = none) :
    b.build.1.plan.branchIntents =
      b.spec.branchNames.flatMap fun branch => emissions (b.branchSteps branch) := by
  rw [Plan.branchIntents, intents_build h, steps_eq_append, emissions_append, emissions_append,
    emissions_flatMap, List.filter_append, List.filter_append, branchIntents_sharedSteps,
    List.filter_flatMap]
  simp only [branchIntents_branchSteps]
  simp

/-- The intents of a branch are the same if it is built alone. -/
theorem branchIntents_only (h : b.build.2 = none) (hbranch : branch ∈ b.spec.branchNames) :
    (b.only branch).build.1.plan.branchIntents = emissions (b.branchSteps branch) := by
  rw [branchIntents_build (build_only h hbranch), branchNames_only hbranch, List.flatMap_singleton,
    branchSteps, branchSteps, computeSteps_only, batchSteps_only]

/-- What is built for a branch of a spec is built for the branch alone. -/
structure IsLocal (b : Blueprint) (branch : String) : Prop where
  /-- The branch can be built alone. -/
  builds : (b.only branch).build.2 = none
  /-- A full build comes to the branch, puts into the plan just what is built for the branch alone,
  and goes on behind it. -/
  block : ∃ before after p q rest, b.spec.branchNames = before ++ branch :: after ∧
    b.start.run (b.sharedSteps ++ before.flatMap b.branchSteps) = (p, none) ∧
    p.run (b.branchSteps branch) = (q, none) ∧
    q.plan.intents = p.plan.intents ++ (b.only branch).build.1.plan.branchIntents ∧
    b.build.1.plan.intents = q.plan.intents ++ rest
  /-- All that the full plan lists for branches is listed for each of them alone. -/
  branches : b.build.1.plan.branchIntents =
    b.spec.branchNames.flatMap fun name => (b.only name).build.1.plan.branchIntents

/-- **Branches are local.**  If a spec is built without a fault, so is each of its branches alone,
and what the plan lists for a branch is, in order and with all attributes and dependencies, what is
listed for the branch alone. -/
theorem isLocal_of_build (h : b.build.2 = none) (hbranch : branch ∈ b.spec.branchNames) :
    b.IsLocal branch where
  builds := build_only h hbranch
  block := by
    obtain ⟨before, after, hsplit⟩ := List.append_of_mem hbranch
    obtain ⟨last, hsteps⟩ : ∃ last, b.steps =
        (b.sharedSteps ++ before.flatMap b.branchSteps) ++ (b.branchSteps branch ++ last) :=
      ⟨after.flatMap b.branchSteps ++ [.complete .compute, .complete .batch], by
        simp [steps_eq_append, hsplit]⟩
    have hrun := run_of_build h
    rw [hsteps] at hrun
    obtain ⟨p, hp, hrest⟩ := Progress.exists_of_run_append hrun
    obtain ⟨q, hq, hend⟩ := Progress.exists_of_run_append hrest
    refine ⟨before, after, p, q, emissions last, hsplit, hp, hq, ?_, ?_⟩
    · rw [branchIntents_only h hbranch]
      exact Progress.intents_run hq
    · rw [plan_build, hsteps]
      exact Progress.intents_run hend
  branches := by
    rw [branchIntents_build h]
    exact List.flatMap_congr fun name hname => (branchIntents_only h hname).symm

/-- One of the two branches of the service with two branches. -/
theorem isLocal_market : market.IsLocal "test" :=
  isLocal_of_build build_market (by decide +kernel)

end Blueprint

end ServicePlan
