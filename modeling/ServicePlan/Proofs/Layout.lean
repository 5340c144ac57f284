import ServicePlan.Proofs.Topics

/-!
# The layout of a plan

Every intent carries the phase that it is planned in, and the same routines plan functions, queues,
permissions and roles for several phases.  A plan nevertheless lists the intents phase by phase, and
those of the last two phases branch by branch.  What is listed for a branch is about the branch: its
functions run for it, and the rules of its batch jobs call functions that are listed with them.

* `Layout`: the blocks of a plan.
* `Layout.IsOf`: blocks that hold what they are for.
* `Blueprint.exists_layout_of_build`: what comes of a build without a fault.
-/

namespace ServicePlan

/-- The branch that a function runs for, as its environment says. -/
def Intent.branch? (i : Intent) : Option String :=
  ((i.attributes.member? "environment").bind (·.member? "Branch")).bind Json.string?

/-- Whether a rule sends its events to one resource and nowhere else. -/
def Intent.Targets (i : Intent) (handle : Handle) : Prop :=
  i.attributes.member? "targets" = some (.strings [handle.arn])

/-! ## Blocks -/

/-- The blocks of a plan: one for each shared phase, and two for each branch. -/
structure Layout where
  /-- Topics and the functions that they feed. -/
  messaging : List Intent
  /-- Front-end apps. -/
  frontend : List Intent
  /-- The api. -/
  gateway : List Intent
  /-- Buckets and repositories. -/
  storage : List Intent
  /-- The functions of each branch. -/
  compute : String → List Intent
  /-- The batch jobs of each branch. -/
  batch : String → List Intent

/-- The intents of all blocks, for branches in order. -/
def Layout.intents (l : Layout) (branches : List String) : List Intent :=
  l.messaging ++ l.frontend ++ l.gateway ++ l.storage ++
    branches.flatMap fun branch => l.compute branch ++ l.batch branch

/-- The blocks hold what they are for. -/
structure Layout.IsOf (l : Layout) (b : Blueprint) : Prop where
  /-- The first block is planned in the first phase. -/
  messaging : ∀ i ∈ l.messaging, i.phase = .messaging
  /-- The second block is planned in the second phase. -/
  frontend : ∀ i ∈ l.frontend, i.phase = .frontend
  /-- The third block is planned in the third phase. -/
  gateway : ∀ i ∈ l.gateway, i.phase = .gateway
  /-- The fourth block is planned in the fourth phase. -/
  storage : ∀ i ∈ l.storage, i.phase = .storage
  /-- The first block of each branch is planned in the fifth phase. -/
  compute : ∀ branch ∈ b.spec.branchNames, ∀ i ∈ l.compute branch, i.phase = .compute
  /-- The second block of each branch is planned in the last phase. -/
  batch : ∀ branch ∈ b.spec.branchNames, ∀ i ∈ l.batch branch, i.phase = .batch
  /-- The functions in the first block of a branch are those of the branch. -/
  functions : ∀ branch ∈ b.spec.branchNames, ∀ i ∈ l.compute branch, i.category = .function →
    i.branch? = some branch ∧
      ∃ key ∈ b.spec.functions.keys, i.physicalName = b.spec.apiName ++ "-" ++ branch ++ "-" ++ key
  /-- The rules in the second block of a branch call functions of the first one. -/
  rules : ∀ branch ∈ b.spec.branchNames, ∀ i ∈ l.batch branch, i.category = .eventRule →
    ∃ function ∈ l.compute branch, function.category = .function ∧ i.Targets function.handle

namespace Blueprint

variable {b : Blueprint} {w : Wiring} {branch key : String} {f : FunctionSpec} {j : JobSpec}
  {network : NetworkSpec} {i : Intent}

/-! ## The functions of a branch -/

/-- The environment of a function is among its attributes. -/
theorem member?_environment (runtime : Runtime) (layers : List String) :
    (b.functionConfig w key f runtime layers).attributes.member? "environment" =
      some (.ofTable .string (b.functionEnvironment w f)) := by
  have henvironment : (b.functionConfig w key f runtime layers).environment =
      b.functionEnvironment w f := by
    simp only [functionConfig]
    split <;> rfl
  rw [← henvironment]
  rfl

/-- The environment of a function names the branch that the function is built for, if there is
one. -/
theorem get?_functionEnvironment (b : Blueprint) (w : Wiring) (f : FunctionSpec) :
    (b.functionEnvironment w f).get? "Branch" = w.branch := by
  have hshared : (b.environment w.branch).get? "Branch" = w.branch := by
    cases w.branch with
    | none => rfl
    | some branch =>
      simp only [environment]
      split
      · simp [Table.get?_insert]
      · split <;> split <;> simp [Table.get?_insert]
  simp only [functionEnvironment]
  cases f.queueNext with
  | none => exact hshared
  | some next => simp [Table.get?_insert, hshared]

/-- A function among the steps for a function says which branch it runs for. -/
theorem branch?_of_mem_functionSteps (hclean : Clean (b.functionSteps w key f))
    (hi : i ∈ emissions (b.functionSteps w key f)) (hcategory : i.category = .function) :
    i.branch? = w.branch := by
  obtain ⟨runtime, layers, -, -, hemissions⟩ := exists_emissions_functionSteps hclean
  simp only [hemissions, List.mem_cons, List.mem_append] at hi
  obtain rfl | ((hi | hi) | hi) | hi := hi
  · rw [Intent.branch?, Intent.of, member?_environment, Option.bind_some, Json.member?_ofTable,
      get?_functionEnvironment]
    cases w.branch <;> rfl
  · exact absurd hi (emits_testSteps.not_mem_of_category hcategory (by decide))
  · exact absurd hi (emits_apiSteps.not_mem_of_category hcategory (by decide))
  · exact absurd hi (emits_senderSteps.not_mem_of_category hcategory (by decide))
  · exact absurd hi (emits_queueSteps.not_mem_of_category hcategory (by decide))

/-- The functions that are planned for a branch are those of the branch. -/
theorem function_of_mem_computeSteps (h : b.build.2 = none) (hbranch : branch ∈ b.spec.branchNames)
    (hi : i ∈ emissions (b.computeSteps branch)) (hcategory : i.category = .function) :
    i.branch? = some branch ∧ ∃ key ∈ b.spec.functions.keys,
      i.physicalName = b.spec.apiName ++ "-" ++ branch ++ "-" ++ key := by
  have hclean := clean_of_build h
  constructor
  · rw [emissions_computeSteps (clean_computeSteps hclean hbranch)] at hi
    obtain ⟨e, he, hi⟩ := List.mem_flatMap.1 hi
    have hown := hclean.subset (functionSteps_subset h hbranch he)
    exact branch?_of_mem_functionSteps hown hi hcategory
  · have hlisted : (i.physicalName, i.handle) ∈ functionsOf (emissions (b.computeSteps branch)) :=
      mem_functionsOf.2 ⟨i, hi, hcategory, rfl, rfl⟩
    rw [functionsOf_computeSteps h hbranch] at hlisted
    obtain ⟨key, hkey, heq⟩ := List.mem_map.1 hlisted
    exact ⟨key, hkey, (congrArg Prod.fst heq).symm⟩

/-! ## The rules of batch jobs -/

/-- A job has one rule. -/
theorem eq_jobRule_of_mem_jobIntents :
    ∀ i ∈ b.jobIntents branch key j network, i.category = .eventRule →
      i = b.jobRule branch key j := by
  simp [jobIntents, jobRoles, serviceRole, computeEnvironment, jobQueue, jobRule, permission,
    jobDefinition]

/-- Where jobs have a network, the function that is told about a job is one of the spec. -/
theorem stateFunction_mem_keys (h : b.build.2 = none) (hbranch : branch ∈ b.spec.branchNames)
    (hnetwork : b.references.network = some network) (hj : (key, j) ∈ b.spec.jobTable.entries) :
    j.stateFunction ∈ b.spec.functions.keys := by
  have hclosed := closed_of_traces (traces_of_build h) (List.ne_nil_of_mem hbranch)
  have hrun : b.references.catalog.network = true := by simp [References.catalog, hnetwork]
  exact hclosed.jobs hrun _ hj

/-- The rules that are planned for a branch call functions that are planned for it before. -/
theorem targets_of_mem_batchSteps (h : b.build.2 = none) (hbranch : branch ∈ b.spec.branchNames)
    (hi : i ∈ emissions (b.batchSteps branch)) (hcategory : i.category = .eventRule) :
    ∃ function ∈ emissions (b.computeSteps branch), function.category = .function ∧
      i.Targets function.handle := by
  rw [emissions_batchSteps] at hi
  obtain ⟨⟨key, j⟩, he, hi⟩ := List.mem_flatMap.1 hi
  obtain ⟨network, hnetwork, hi⟩ := List.mem_flatMap.1 hi
  have hstate := stateFunction_mem_keys h hbranch (Option.mem_toList.1 hnetwork) he
  have hlisted : listed (b.spec.apiName ++ "-" ++ branch ++ "-" ++ j.stateFunction) ∈
      functionsOf (emissions (b.computeSteps branch)) := by
    rw [functionsOf_computeSteps h hbranch]
    exact List.mem_map.2 ⟨_, hstate, rfl⟩
  obtain ⟨function, hfunction, hfunctionCategory, -, hhandle⟩ := mem_functionsOf.1 hlisted
  refine ⟨function, hfunction, hfunctionCategory, ?_⟩
  rw [jobSteps, emissions_cons] at hi
  split at hi
  · simp at hi
  · rw [emissions_map_emit] at hi
    obtain rfl := eq_jobRule_of_mem_jobIntents i (by simpa using hi) hcategory
    rw [hhandle]
    rfl

/-! ## Whole plans -/

/-- The blocks that the phases emit. -/
def layout (b : Blueprint) : Layout where
  messaging := emissions b.messagingSteps
  frontend := emissions b.frontendSteps
  gateway := emissions b.gatewaySteps
  storage := emissions b.storageSteps
  compute branch := emissions (b.computeSteps branch)
  batch branch := emissions (b.batchSteps branch)

/-- The blocks of a build without a fault hold what they are for. -/
theorem isOf_layout (h : b.build.2 = none) : b.layout.IsOf b where
  messaging i hi := (emits_messagingSteps i hi).1
  frontend i hi := (emits_frontendSteps i hi).1
  gateway i hi := (emits_gatewaySteps i hi).1
  storage i hi := (emits_storageSteps i hi).1
  compute _ _ i hi := (emits_computeSteps i hi).1
  batch _ _ i hi := (emits_batchSteps i hi).1
  functions _ hbranch _ hi hcategory := function_of_mem_computeSteps h hbranch hi hcategory
  rules _ hbranch _ hi hcategory := targets_of_mem_batchSteps h hbranch hi hcategory

/-- **Plans are laid out by phases and branches.**  If a spec is built without a fault, the plan
lists the intents of the four shared phases in the order of the phases, and behind them, for each
branch in order, those of its functions and then those of its batch jobs.  The functions are those
of the branch, and the rules of the jobs call them. -/
theorem exists_layout_of_build (h : b.build.2 = none) :
    ∃ l : Layout, l.IsOf b ∧ b.build.1.plan.intents = l.intents b.spec.branchNames := by
  refine ⟨b.layout, isOf_layout h, ?_⟩
  rw [intents_build h, emissions_steps]
  rfl

/-- The layout of the plan of the service with two branches. -/
theorem exists_layout_market :
    ∃ l : Layout, l.IsOf market ∧
      market.build.1.plan.intents = l.intents market.spec.branchNames :=
  exists_layout_of_build build_market

end Blueprint

end ServicePlan
