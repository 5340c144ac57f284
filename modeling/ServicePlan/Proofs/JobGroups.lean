import ServicePlan.Proofs.Layout

/-!
# Batch jobs of branches

Every batch job of a spec is planned for every branch, with nine intents that refer to each other.
They also refer to what was planned before: to the repository that the image of the job is taken
from, which all branches share, and to the function of the branch that is told about changes.

* `JobGroup`: the intents for a job of a branch.
* `Intent.image?`, `Intent.ListensTo`, `Intent.AdmitsOnly`: what a job definition runs, what a rule
  is about, and whom a permission is for.
* `JobGroup.IsFor`: a group that is what a job of a branch needs.
* `Blueprint.exists_jobGroups`: the batch phase of a plan.
-/

namespace ServicePlan

/-- The image of a job definition. -/
def Intent.image? (i : Intent) : Option String :=
  ((i.attributes.member? "container_properties").bind (·.member? "image")).bind Json.string?

/-- Whether a rule is about the changes of one job queue and of nothing else. -/
def Intent.ListensTo (i : Intent) (queue : Handle) : Prop :=
  ((i.attributes.member? "event_pattern").bind (·.member? "detail")).bind (·.member? "jobQueue") =
    some (.strings [queue.arn])

/-- Whether an intent lets one source of a principal call a function, and does nothing else. -/
structure Intent.AdmitsOnly (i : Intent) (principal : String) (source function : Handle) : Prop
    extends i.Admits principal function where
  /-- It is about calls. -/
  action : i.text? "action" = some "lambda:InvokeFunction"
  /-- It is for the source. -/
  source : i.text? "source_arn" = some source.arn

/-! ## Groups -/

/-- The intents for a batch job of a branch. -/
structure JobGroup where
  /-- The role that the batch service assumes. -/
  serviceRole : Intent
  /-- The role that pulls the image. -/
  executionRole : Intent
  /-- The role that the running job assumes. -/
  jobRole : Intent
  /-- Where the job runs. -/
  computeEnvironment : Intent
  /-- Where the job waits. -/
  jobQueue : Intent
  /-- The rule for changes of the job state. -/
  rule : Intent
  /-- What lets the rule call its function. -/
  permission : Intent
  /-- Where the job logs. -/
  logGroup : Intent
  /-- What the job runs. -/
  jobDefinition : Intent

namespace JobGroup

/-- The intents of a group, in the order of a plan. -/
def intents (g : JobGroup) : List Intent :=
  [g.serviceRole, g.executionRole, g.jobRole, g.computeEnvironment, g.jobQueue, g.rule,
    g.permission, g.logGroup, g.jobDefinition]

/-- The categories of the intents of a group, and their names. -/
def kinds (names : JobNames) : List (Category × String) :=
  [(.role, names.serviceRole), (.role, names.executionRole), (.role, names.jobRole),
    (.computeEnvironment, names.computeEnvironment), (.jobQueue, names.jobQueue),
    (.eventRule, names.rule), (.permission, names.rule ++ "-permission"), (.logGroup, names.job),
    (.jobDefinition, names.jobDefinition)]

/-- A group is what a job of a branch needs, in the plan of a build. -/
structure IsFor (g : JobGroup) (b : Blueprint) (branch key : String) (j : JobSpec) : Prop where
  /-- Its intents are in the plan. -/
  listed : ∀ i ∈ g.intents, i ∈ b.build.1.plan.intents
  /-- They are named after the job and the branch. -/
  named : g.intents.map (fun i => (i.category, i.physicalName)) =
    kinds (b.naming.jobNames key branch)
  /-- They are known by their categories and names. -/
  handle : ∀ i ∈ g.intents, i.handle = .of i.category i.physicalName
  /-- There are three roles. -/
  roles : ([g.serviceRole, g.executionRole, g.jobRole].map (·.handle)).Nodup
  /-- The job runs the image of the branch from a repository of the plan. -/
  image : ∃ repository ∈ b.build.1.plan.intents, repository.category = .repository ∧
    repository.handle ∈ g.jobDefinition.dependsOn ∧
    g.jobDefinition.image? = some (b.site.account ++ "." ++ b.naming.registryHost ++ "/" ++
      repository.physicalName ++ ":" ++ branch)
  /-- The rule is about the queue of the job. -/
  listens : g.rule.ListensTo g.jobQueue.handle
  /-- The rule calls a function of the branch, and the permission lets the rule call it. -/
  calls : ∃ function ∈ b.build.1.plan.intents, function.category = .function ∧
    function.physicalName = b.naming.function j.stateFunction (some branch) ∧
    g.rule.Targets function.handle ∧
    g.permission.AdmitsOnly "events.amazonaws.com" g.rule.handle function.handle

end JobGroup

namespace Blueprint

variable {b : Blueprint} {branch key : String} {j : JobSpec} {network : NetworkSpec}

/-- The intents that are planned for a job of a branch. -/
def jobGroup (b : Blueprint) (network : NetworkSpec) (branch key : String) (j : JobSpec) :
    JobGroup :=
  let names := b.jobNames branch key
  let rule := b.jobRule branch key j
  { serviceRole := serviceRole .batch names.serviceRole "batch.amazonaws.com" batchPolicies
    executionRole :=
      serviceRole .batch names.executionRole "ecs-tasks.amazonaws.com" executionPolicies
    jobRole := serviceRole .batch names.jobRole "ecs-tasks.amazonaws.com" jobPolicies
    computeEnvironment := b.computeEnvironment branch key j network
    jobQueue := b.jobQueue branch key
    rule
    permission := permission .batch (names.rule ++ "-permission") (b.stateFunction branch j)
      "events.amazonaws.com" rule.handle.arn rule.handle
    logGroup := .of .logGroup .batch names.job (.object [("log_group_name", .string names.job)])
    jobDefinition := b.jobDefinition branch key j }

theorem intents_jobGroup : (b.jobGroup network branch key j).intents =
    b.jobIntents branch key j network := rfl

/-- With subnets, a job is planned with its group. -/
theorem emissions_jobSteps (h : network.subnets ≠ []) :
    emissions (b.jobSteps branch key j network) = (b.jobGroup network branch key j).intents := by
  rw [intents_jobGroup, jobSteps, if_neg (by simpa using h), emissions_cons, emissions_emits]
  rfl

/-- The batch phase of a plan holds the groups of all jobs, branch by branch. -/
theorem filter_batch_of_build (h : b.build.2 = none)
    (hnetwork : b.references.network = some network) (hsubnets : network.subnets ≠ []) :
    (b.build.1.plan.intents.filter fun i => i.phase = .batch) =
      b.spec.branchNames.flatMap fun branch => b.spec.jobTable.entries.flatMap fun e =>
        (b.jobGroup network branch e.1 e.2).intents := by
  have hother : ∀ {phase categories steps}, Emits (Intent.IsOf phase categories) steps →
      phase ≠ .batch → (emissions steps).filter (fun i => i.phase = .batch) = [] := by
    intro phase categories steps hemits hne
    refine List.filter_eq_nil_iff.2 fun i hi => ?_
    rw [(hemits i hi).1]
    simpa using hne
  have hbatch : ∀ branch, (emissions (b.batchSteps branch)).filter (fun i => i.phase = .batch) =
      b.spec.jobTable.entries.flatMap fun e => (b.jobGroup network branch e.1 e.2).intents := by
    intro branch
    rw [List.filter_eq_self.2 fun i hi => by simpa using (emits_batchSteps i hi).1,
      emissions_batchSteps, hnetwork]
    simp only [Option.toList_some, List.flatMap_singleton, emissions_jobSteps hsubnets]
  rw [intents_build h, emissions_steps]
  simp only [List.filter_append, List.filter_flatMap, hother emits_messagingSteps (by decide),
    hother emits_frontendSteps (by decide), hother emits_gatewaySteps (by decide),
    hother emits_storageSteps (by decide), hother emits_computeSteps (by decide), hbatch,
    List.nil_append]

/-- The repository of a job is in the plan. -/
theorem repository_mem_intents (h : b.build.2 = none)
    (hj : (key, j) ∈ b.spec.jobTable.entries) :
    b.repository key ∈ b.build.1.plan.intents := by
  have hstorage : b.repository key ∈ emissions b.storageSteps := by
    rw [emissions_storageSteps]
    exact List.mem_append_right _ (List.mem_map.2 ⟨_, hj, rfl⟩)
  rw [intents_build h, emissions_steps]
  simp only [List.mem_append, hstorage, true_or, or_true]

/-- The roles of a job have names of their own. -/
theorem nodup_jobRoles (b : Blueprint) (branch key : String) :
    ((b.jobRoles branch key).map (·.handle)).Nodup := by
  simp [jobRoles, serviceRole, jobNames, Naming.jobNames, Handle.of_inj]

/-- The group of a job is what it needs. -/
theorem isFor_jobGroup (h : b.build.2 = none) (hnetwork : b.references.network = some network)
    (hsubnets : network.subnets ≠ []) (hbranch : branch ∈ b.spec.branchNames)
    (hj : (key, j) ∈ b.spec.jobTable.entries) :
    (b.jobGroup network branch key j).IsFor b branch key j where
  listed i hi := by
    have hfilter : i ∈ b.build.1.plan.intents.filter fun i => i.phase = .batch := by
      rw [filter_batch_of_build h hnetwork hsubnets]
      exact List.mem_flatMap.2 ⟨branch, hbranch, List.mem_flatMap.2 ⟨_, hj, hi⟩⟩
    exact List.mem_of_mem_filter hfilter
  named := rfl
  handle := by
    rw [intents_jobGroup]
    exact forall_jobIntents_of (fun _ _ _ => rfl) rfl rfl rfl (fun _ _ => rfl) (fun _ _ => rfl) rfl
  roles := b.nodup_jobRoles branch key
  image := ⟨_, repository_mem_intents h hj, rfl,
    Intent.mem_dependsOn_of.2 (List.mem_cons_self ..), rfl⟩
  listens := rfl
  calls := by
    have hstate := stateFunction_mem_keys h hbranch hnetwork hj
    obtain ⟨function, hfunction, hname, hhandle⟩ := exists_branchFunction h hbranch hstate
    obtain ⟨hlisted, hcategory⟩ := Plan.mem_byCategory.1 hfunction
    refine ⟨function, hlisted, hcategory, hname, ?_, ?_⟩
    · rw [hhandle]
      rfl
    · rw [hhandle]
      exact ⟨⟨rfl, rfl, rfl⟩, rfl, rfl⟩

/-- **Batch jobs of branches.**  Let a spec be built without a fault, with a network that has
subnets.  Then the batch phase of the plan consists of one group of intents for each job of each
branch, in this order.  A group has the names of its branch and its job.  Its job runs the image of
the branch from the repository of the job, its rule is about its queue and calls the function of the
branch that the job names, and its permission lets this rule call this function. -/
theorem exists_jobGroups (h : b.build.2 = none) (hnetwork : b.references.network = some network)
    (hsubnets : network.subnets ≠ []) :
    ∃ group : String → String → JobSpec → JobGroup,
      (b.build.1.plan.intents.filter fun i => i.phase = .batch) =
        (b.spec.branchNames.flatMap fun branch => b.spec.jobTable.entries.flatMap fun e =>
          (group branch e.1 e.2).intents) ∧
      ∀ branch ∈ b.spec.branchNames, ∀ e ∈ b.spec.jobTable.entries,
        (group branch e.1 e.2).IsFor b branch e.1 e.2 :=
  ⟨b.jobGroup network, filter_batch_of_build h hnetwork hsubnets,
    fun _ hbranch _ he => isFor_jobGroup h hnetwork hsubnets hbranch he⟩

/-- The market reports from both of its branches. -/
theorem exists_jobGroups_market :
    (market.references.network = some ⟨["net"], "group"⟩ ∧
      market.spec.branchNames = ["main", "test"] ∧ market.spec.jobTable.keys = ["report"]) ∧
    ∃ group : String → String → JobSpec → JobGroup,
      (market.build.1.plan.intents.filter fun i => i.phase = .batch) =
        (market.spec.branchNames.flatMap fun branch =>
          market.spec.jobTable.entries.flatMap fun e => (group branch e.1 e.2).intents) ∧
      ∀ branch ∈ market.spec.branchNames, ∀ e ∈ market.spec.jobTable.entries,
        (group branch e.1 e.2).IsFor market branch e.1 e.2 :=
  ⟨⟨rfl, rfl, rfl⟩, exists_jobGroups build_market rfl (List.cons_ne_nil _ _)⟩

end Blueprint

end ServicePlan
