import ServicePlan.Proofs.JobGroups
import ServicePlan.Proofs.QueueWiring

/-!
# What runs for a branch

Functions, deployed apps and batch jobs run for a branch.  A plan says what they see of it:
functions get an object of texts, and apps and jobs a list of names with texts.  Whatever runs for a
branch sees the same, which is of the branch and of no other one.  Functions of topics run for all
branches and see the names of the api and the service alone.  Functions that send their messages on
also see the name of the next queue.

* `Intent.environment`, `Intent.Sees`: what an intent sees.
* `ServiceSpec.branchEnvironment`, `ServiceSpec.commonEnvironment`: the environment of a branch, and
  that of the functions of topics.
* `Blueprint.Runs`: what each function, app and job of a spec is to see.
* `Blueprint.sees_of_build`: what comes of a build without a fault.
-/

namespace ServicePlan

/-! ## Named texts -/

namespace Json

/-- A text and its name. -/
def namedText? (v : Json) : Option (String × String) := do
  let name ← (v.member? "name").bind string?
  let value ← (v.member? "value").bind string?
  return (name, value)

/-- Texts with their names: the members of an object, or the items of a list. -/
def namedTexts? : Json → Option (List (String × String))
  | .object members => members.mapM fun e => e.2.string?.map fun text => (e.1, text)
  | .array items => items.mapM namedText?
  | _ => none

/-- An object of texts is read back. -/
theorem namedTexts?_ofTable (t : Table String) :
    (ofTable .string t).namedTexts? = some t.entries := by
  rw [ofTable, namedTexts?]
  induction t.entries with
  | nil => rfl
  | cons e rest ih =>
    rw [List.map_cons, List.mapM_cons, ih]
    rfl

/-- So is a list of names with texts. -/
theorem namedTexts?_array (entries : List (String × String)) :
    (array (entries.map fun e =>
      .object [("name", .string e.1), ("value", .string e.2)])).namedTexts? = some entries := by
  rw [namedTexts?]
  induction entries with
  | nil => rfl
  | cons e rest ih =>
    rw [List.map_cons, List.mapM_cons, ih]
    rfl

end Json

/-! ## Environments -/

namespace Intent

/-- The environment of a function, of the branch of an app or of a job, with names and texts. -/
def environment (i : Intent) : Option (List (String × String)) :=
  match i.category with
  | .function => (i.attributes.member? "environment").bind Json.namedTexts?
  | .appBranch => (i.attributes.member? "environment_variables").bind Json.namedTexts?
  | .jobDefinition =>
    ((i.attributes.member? "container_properties").bind (·.member? "environment")).bind
      Json.namedTexts?
  | _ => none

/-- An intent has the texts of a list in its environment, and no others. -/
def Sees (i : Intent) (texts : List (String × String)) : Prop :=
  ∃ seen, i.environment = some seen ∧ seen.Perm texts

end Intent

namespace ServiceSpec

variable (s : ServiceSpec)

/-- What all functions of topics see. -/
def commonEnvironment : List (String × String) := [("API", s.apiName), ("Service", s.serviceName)]

/-- What all that runs for a branch sees: the branch has a name, and may have a bucket and a place
for notifications. -/
def branchEnvironment (branch : String) (own : BranchSpec) : List (String × String) :=
  [("API", s.apiName), ("Branch", branch)] ++ own.bucket.toList.map (("Bucket", ·)) ++
    own.notificationUrl.toList.map (("NotificationUrl", ·)) ++ [("Service", s.serviceName)]

end ServiceSpec

namespace Blueprint

variable {b : Blueprint} {w : Wiring} {branch key app : String} {f : FunctionSpec}
  {own : BranchSpec} {i : Intent}

/-- What a function that sends its messages on sees besides. -/
def nextQueue (b : Blueprint) (f : FunctionSpec) (branch : Option String) :
    List (String × String) :=
  f.queueNext.toList.map fun next => ("NextSQS", b.naming.waitingQueue next branch)

theorem entries_environment_some (h : (branch, own) ∈ b.spec.branches.entries) :
    (b.environment (some branch)).entries = b.spec.branchEnvironment branch own := by
  have hown : b.spec.branches.get? branch = some own := Table.get?_eq_some_iff.2 h
  obtain ⟨stage, appStage, bucket, url⟩ := own
  simp only [environment, hown]
  cases bucket <;> cases url <;> rfl

/-- A function sees its environment, and the next queue if there is one. -/
theorem sees_functionIntent (b : Blueprint) (w : Wiring) (key : String) (f : FunctionSpec)
    (runtime : Runtime) (layers : List String) :
    (b.functionIntent w key f runtime layers).Sees
      ((b.environment w.branch).entries ++ b.nextQueue f w.branch) := by
  refine ⟨(b.functionEnvironment w f).entries, ?_, ?_⟩
  · rw [Intent.environment, functionIntent, Intent.category_of]
    change ((b.functionConfig w key f runtime layers).attributes.member? "environment").bind _ = _
    rw [member?_environment, Option.bind_some, Json.namedTexts?_ofTable]
  · rw [functionEnvironment, nextQueue]
    cases f.queueNext with
    | none => simp
    | some next =>
      have hnew : "NextSQS" ∉ (b.environment w.branch).keys := by
        rw [← Table.get?_eq_none_iff]
        exact get?_environment_of_not_mem b w.branch (by decide)
      exact (Table.perm_insertEntry _ hnew).trans (List.perm_append_singleton ..).symm

/-- The branch of an app sees the environment of the branch. -/
theorem sees_appBranch (b : Blueprint) (app branch : String) (own : BranchSpec) :
    (b.appBranch app branch own).Sees (b.environment (some branch)).entries :=
  ⟨_, Json.namedTexts?_array _, .refl _⟩

/-- So does a job. -/
theorem sees_jobDefinition (b : Blueprint) (branch key : String) (j : JobSpec) :
    (b.jobDefinition branch key j).Sees (b.environment (some branch)).entries :=
  ⟨_, Json.namedTexts?_array _, .refl _⟩

/-! ## Where apps and jobs are planned -/

/-- The categories of what only apps have. -/
def appCategories : List Category := [.app, .appBranch, .appDomain, .userPoolClient]

/-- With a token and a root of the repositories, an app is deployed on each branch. -/
theorem appBranch_mem_deployedAppSteps {a : AppSpec} (htoken : b.token.isSome)
    (hroot : b.spec.repositoryRoot.isSome) (hbranch : (branch, own) ∈ b.spec.branches.entries) :
    b.appBranch app branch own ∈ emissions (b.deployedAppSteps app a) := by
  obtain ⟨token, htoken⟩ := Option.isSome_iff_exists.1 htoken
  obtain ⟨root, hroot⟩ := Option.isSome_iff_exists.1 hroot
  have happ : b.appBranch app branch own ∈ b.appBranches app :=
    List.mem_map.2 ⟨_, hbranch, rfl⟩
  simp [deployedAppSteps, htoken, hroot, appSteps, emissions_emits, happ]

/-- Without them nothing is deployed, and nothing else that is planned for an app is a branch. -/
theorem eq_appBranch_of_mem_deployedAppSteps {a : AppSpec}
    (hi : i ∈ emissions (b.deployedAppSteps app a)) (hcategory : i.category = .appBranch) :
    b.token.isSome ∧ b.spec.repositoryRoot.isSome ∧
      ∃ e ∈ b.spec.branches.entries, i = b.appBranch app e.1 e.2 := by
  unfold deployedAppSteps at hi
  split at hi
  · rename_i token root htoken hroot
    refine ⟨by simp [htoken], by simp [hroot], ?_⟩
    simp only [emissions_append, List.mem_append] at hi
    obtain (happ | hlogin) | hdeployment := hi
    · simp only [appSteps, emissions_append, emissions_emits, List.mem_append] at happ
      obtain (happ | hown) | hdomain := happ
      · obtain rfl := List.mem_singleton.1 happ
        cases hcategory
      · obtain ⟨e, he, rfl⟩ := List.mem_map.1 hown
        exact ⟨e, he, rfl⟩
      · obtain rfl := List.mem_singleton.1 hdomain
        cases hcategory
    · have hnot : Emits (fun i => i.category ≠ .appBranch) (b.loginSteps app a) :=
        emits_loginSteps_of (by simp [loginClient]) (by simp [identityPool])
          (by simp [identityRole]) (by simp [roleAttachment])
      exact absurd hcategory (hnot i hlogin)
    · rw [deploymentSteps] at hdeployment
      split at hdeployment
      · cases hdeployment
      · obtain rfl := List.mem_singleton.1 hdeployment
        cases hcategory
  · cases hi

/-- A job definition of a group is the one of its job. -/
theorem eq_jobDefinition_of_mem_jobIntents {j : JobSpec} {network : NetworkSpec} :
    ∀ i ∈ b.jobIntents branch key j network, i.category = .jobDefinition →
      i = b.jobDefinition branch key j :=
  forall_jobIntents_of (fun _ _ _ => nofun) nofun nofun nofun (fun _ _ => nofun) (fun _ _ => nofun)
    fun _ => rfl

section Plan

variable (h : b.build.2 = none)
include h

theorem appBranch_mem_intents (htoken : b.token.isSome) (hroot : b.spec.repositoryRoot.isSome)
    (happ : app ∈ b.spec.appTable.keys) (hbranch : (branch, own) ∈ b.spec.branches.entries) :
    b.appBranch app branch own ∈ b.build.1.plan.intents := by
  obtain ⟨e, he, rfl⟩ := List.mem_map.1 happ
  refine emissions_subset_intents h b.frontendSteps_subset ?_
  rw [emissions_frontendSteps]
  exact List.mem_flatMap.2 ⟨e, he, appBranch_mem_deployedAppSteps htoken hroot hbranch⟩

/-- What only apps have in a plan is planned for one of the apps of the spec. -/
theorem exists_app_of_category (hi : i ∈ b.build.1.plan.intents)
    (hcategory : i.category ∈ appCategories) :
    ∃ e ∈ b.spec.appTable.entries, i ∈ emissions (b.deployedAppSteps e.1 e.2) := by
  have hother : ∀ c ∈ appCategories, c ∉ messagingCategories ∧ c ∉ gatewayCategories ∧
      c ∉ storageCategories ∧ c ∉ functionCategories ∧ c ∉ batchCategories := by decide
  obtain ⟨hmessaging, hgateway, hstorage, hfunctions, hbatch⟩ := hother _ hcategory
  obtain hi | hi | hi | hi | ⟨branch, -, hi | hi⟩ := mem_intents_cases h hi
  · exact absurd hi (emits_messagingSteps.not_mem_of_category rfl hmessaging)
  · rw [emissions_frontendSteps] at hi
    exact List.mem_flatMap.1 hi
  · exact absurd hi (emits_gatewaySteps.not_mem_of_category rfl hgateway)
  · exact absurd hi (emits_storageSteps.not_mem_of_category rfl hstorage)
  · exact absurd hi (emits_computeSteps.not_mem_of_category rfl hfunctions)
  · exact absurd hi (emits_batchSteps.not_mem_of_category rfl hbatch)

/-- The branch of an app in a plan is one of the spec. -/
theorem exists_of_appBranch (hi : i ∈ b.build.1.plan.intents)
    (hcategory : i.category = .appBranch) :
    b.token.isSome ∧ b.spec.repositoryRoot.isSome ∧ ∃ app ∈ b.spec.appTable.keys,
      ∃ e ∈ b.spec.branches.entries, i = b.appBranch app e.1 e.2 := by
  obtain ⟨⟨app, a⟩, ha, hi⟩ := exists_app_of_category h hi (by simp [hcategory, appCategories])
  obtain ⟨htoken, hroot, e, he, rfl⟩ := eq_appBranch_of_mem_deployedAppSteps hi hcategory
  exact ⟨htoken, hroot, app, Table.mem_keys_of_mem ha, e, he, rfl⟩

/-- So is a job, and then there is a network for all jobs. -/
theorem exists_of_jobDefinition (hi : i ∈ b.build.1.plan.intents)
    (hcategory : i.category = .jobDefinition) :
    ∃ network, b.references.network = some network ∧ network.subnets ≠ [] ∧
      ∃ branch ∈ b.spec.branchNames, ∃ e ∈ b.spec.jobTable.entries,
        i = b.jobDefinition branch e.1 e.2 := by
  obtain hi | hi | hi | hi | ⟨branch, hbranch, hi | hi⟩ := mem_intents_cases h hi
  · exact absurd hi (emits_messagingSteps.not_mem_of_category hcategory (by decide))
  · exact absurd hi (emits_frontendSteps.not_mem_of_category hcategory (by decide))
  · exact absurd hi (emits_gatewaySteps.not_mem_of_category hcategory (by decide))
  · exact absurd hi (emits_storageSteps.not_mem_of_category hcategory (by decide))
  · exact absurd hi (emits_computeSteps.not_mem_of_category hcategory (by decide))
  · rw [emissions_batchSteps] at hi
    obtain ⟨e, he, hi⟩ := List.mem_flatMap.1 hi
    obtain ⟨network, hnetwork, hi⟩ := List.mem_flatMap.1 hi
    by_cases hsubnets : network.subnets = []
    · simp [jobSteps, hsubnets] at hi
    · rw [emissions_jobSteps hsubnets] at hi
      exact ⟨network, Option.mem_toList.1 hnetwork, hsubnets, branch, hbranch, e, he,
        eq_jobDefinition_of_mem_jobIntents i hi hcategory⟩

end Plan

/-! ## Whole plans -/

/-- What runs by a category and a name, and what it is to see. -/
inductive Runs (b : Blueprint) : Category → String → List (String × String) → Prop
  /-- A function of a branch sees the environment of the branch, and its next queue besides. -/
  | function {branch key : String} {own : BranchSpec} {f : FunctionSpec}
      (hbranch : (branch, own) ∈ b.spec.branches.entries)
      (hf : (key, f) ∈ b.spec.functions.entries) :
      Runs b .function (b.naming.function key (some branch))
        (b.spec.branchEnvironment branch own ++ b.nextQueue f (some branch))
  /-- An app sees the environment of the branch that it is deployed on. -/
  | app {branch app : String} {own : BranchSpec}
      (hbranch : (branch, own) ∈ b.spec.branches.entries) (happ : app ∈ b.spec.appTable.keys) :
      Runs b .appBranch (app ++ "-" ++ branch) (b.spec.branchEnvironment branch own)
  /-- A job sees the environment of its branch. -/
  | job {branch key : String} {own : BranchSpec}
      (hbranch : (branch, own) ∈ b.spec.branches.entries) (hkey : key ∈ b.spec.jobTable.keys) :
      Runs b .jobDefinition (b.naming.jobNames key branch).jobDefinition
        (b.spec.branchEnvironment branch own)
  /-- A function of a topic sees what is common to all branches, and its next queue besides. -/
  | topicFunction {topic key : String} {t : TopicSpec} {f : FunctionSpec}
      (ht : (topic, t) ∈ b.spec.topicTable.entries) (hf : (key, f) ∈ t.functionTable.entries) :
      Runs b .function (b.naming.function key none)
        (b.spec.commonEnvironment ++ b.nextQueue f none)

theorem mem_branchNames (h : (branch, own) ∈ b.spec.branches.entries) :
    branch ∈ b.spec.branchNames :=
  Table.mem_keys_of_mem h

/-- The environment of a function that is built. -/
theorem Builds.sees (h : b.build.2 = none) (hf : b.Builds w key f)
    (hi : i ∈ b.build.1.plan.intents) (hcategory : i.category = .function)
    (hname : i.physicalName = b.functionName w key) :
    i.Sees ((b.environment w.branch).entries ++ b.nextQueue f w.branch) := by
  obtain ⟨w', key', f', runtime, layers, hf', rfl⟩ := exists_of_function h hi hcategory
  obtain ⟨rfl, rfl, rfl⟩ := hf'.inj h hf hname
  exact sees_functionIntent ..

/-- What runs sees what it is to see: a plan lists nothing else of the category and the name. -/
theorem Runs.sees {texts : List (String × String)} (h : b.build.2 = none)
    (hi : i ∈ b.build.1.plan.intents) (hruns : b.Runs i.category i.physicalName texts) :
    i.Sees texts := by
  have hplan := b.ordered_build
  generalize hcategory : i.category = category at hruns
  generalize hname : i.physicalName = name at hruns
  cases hruns with
  | function hbranch hf =>
    rw [← entries_environment_some hbranch]
    exact Builds.sees h (.inl ⟨_, mem_branchNames hbranch, rfl, hf⟩) hi hcategory hname
  | app hbranch happ =>
    obtain ⟨htoken, hroot, _, -, e, -, rfl⟩ := exists_of_appBranch h hi hcategory
    have hmem := appBranch_mem_intents h htoken hroot happ hbranch
    rw [hplan.eq_of_handle_eq hi hmem (Handle.of_inj.2 hname), ← entries_environment_some hbranch]
    exact sees_appBranch ..
  | @job branch _ _ hbranch hkey =>
    obtain ⟨network, hnetwork, hsubnets, _, -, e, -, rfl⟩ := exists_of_jobDefinition h hi hcategory
    obtain ⟨⟨key, j⟩, hj, rfl⟩ := List.mem_map.1 hkey
    have hgroup := isFor_jobGroup h hnetwork hsubnets (mem_branchNames hbranch) hj
    have hmem := hgroup.listed (b.jobDefinition branch key j) (by simp [JobGroup.intents, jobGroup])
    rw [hplan.eq_of_handle_eq hi hmem (Handle.of_inj.2 hname), ← entries_environment_some hbranch]
    exact sees_jobDefinition ..
  | topicFunction ht hf => exact Builds.sees h (.inr ⟨_, ht, rfl, hf⟩) hi hcategory hname

/-- All functions, deployed apps and jobs of a plan run for a branch or are fed by a topic. -/
theorem exists_runs (h : b.build.2 = none) (hi : i ∈ b.build.1.plan.intents)
    (hcategory : i.category ∈ [.function, .appBranch, .jobDefinition]) :
    ∃ texts, b.Runs i.category i.physicalName texts := by
  simp only [List.mem_cons, List.not_mem_nil, or_false] at hcategory
  obtain hfunction | happ | hjob := hcategory
  · obtain ⟨w, key, f, runtime, layers, hf, rfl⟩ := exists_of_function h hi hfunction
    obtain ⟨branch, hbranch, rfl, hf⟩ | ⟨e, he, rfl, hf⟩ := hf
    · obtain ⟨⟨branch, own⟩, hown, rfl⟩ := List.mem_map.1 hbranch
      exact ⟨_, .function hown hf⟩
    · exact ⟨_, .topicFunction he hf⟩
  · obtain ⟨-, -, app, hkey, e, he, rfl⟩ := exists_of_appBranch h hi happ
    exact ⟨_, .app he hkey⟩
  · obtain ⟨network, -, -, branch, hbranch, e, he, rfl⟩ := exists_of_jobDefinition h hi hjob
    obtain ⟨⟨branch, own⟩, hown, rfl⟩ := List.mem_map.1 hbranch
    exact ⟨_, .job hown (Table.mem_keys_of_mem he)⟩

/-- **What runs for a branch.**  Let a spec be built without a fault.  All functions of a branch,
all apps that are deployed on it and all of its jobs see the same texts: the names of the api, of
the service and of the branch, and the bucket and the place for notifications if the branch gives
them.  The functions of topics see the names of the api and of the service.  Besides, functions that
send their messages on see the name of the next queue.  There are no other functions, deployed apps
and jobs in the plan. -/
theorem sees_of_build (h : b.build.2 = none) :
    ∀ i ∈ b.build.1.plan.intents,
      (∀ texts, b.Runs i.category i.physicalName texts → i.Sees texts) ∧
      (i.category ∈ [.function, .appBranch, .jobDefinition] →
        ∃ texts, b.Runs i.category i.physicalName texts) :=
  fun _ hi => ⟨fun _ hruns => hruns.sees h hi, exists_runs h hi⟩

/-- The functions of the market see their branch, and the function of its topic sees none. -/
theorem sees_of_build_market :
    let texts := market.spec.branchEnvironment "test" { stage := some "test" }
    (texts = [("API", "market-api"), ("Branch", "test"), ("Service", "market")] ∧
      market.Runs .function "market-api-test-cart"
        (texts ++ [("NextSQS", "market-api-test-order_waiting")]) ∧
      market.Runs .appBranch "front-test" texts ∧
      market.Runs .jobDefinition "market-api-test-report-JobDef" texts ∧
      market.Runs .function "market-api-bill" [("API", "market-api"), ("Service", "market")]) ∧
    ∀ i ∈ market.build.1.plan.intents,
      (∀ texts, market.Runs i.category i.physicalName texts → i.Sees texts) ∧
      (i.category ∈ [.function, .appBranch, .jobDefinition] →
        ∃ texts, market.Runs i.category i.physicalName texts) := by
  intro texts
  have hbranch : ("test", { stage := some "test" }) ∈ market.spec.branches.entries :=
    Table.get?_eq_some_iff.1 rfl
  have hcart : ("cart", { layers := ["base"], queueNext := some "order" }) ∈
      market.spec.functions.entries := Table.get?_eq_some_iff.1 rfl
  have hsold : ("sold", { functions := some (.ofList [("bill", {})]) }) ∈
      market.spec.topicTable.entries := Table.get?_eq_some_iff.1 rfl
  have hbill : ("bill", {}) ∈
      (TopicSpec.functionTable { functions := some (.ofList [("bill", {})]) }).entries :=
    Table.get?_eq_some_iff.1 rfl
  have hfront : "front" ∈ market.spec.appTable.keys := Table.mem_keys_of_get? rfl
  have hreport : "report" ∈ market.spec.jobTable.keys := Table.mem_keys_of_get? rfl
  exact ⟨⟨rfl, .function hbranch hcart, .app hbranch hfront, .job hbranch hreport,
    .topicFunction hsold hbill⟩, sees_of_build build_market⟩

end Blueprint

end ServicePlan
