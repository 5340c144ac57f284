import ServicePlan.Proofs.Gateway

/-!
# Builds in order

The phases of a build follow each other in order, and so a build ends for a good reason if it ends
before its last step: the spec or its files are to blame, or two parts of the spec are given one
name.  A build goes through only if every reference of the spec leads somewhere; if every reference
does, no build ends for the sake of one.

* `Blueprint.arranged_steps`: the steps of a build are in order.
* `Blueprint.outcome_build`: what may come of a build.
* `Blueprint.kind_of_build`: the kinds of faults that end builds.
* `Blueprint.references_of_build`: builds and the references of specs.
-/

namespace ServicePlan.Blueprint

variable {b : Blueprint} {branch key : String} {j : JobSpec} {network : NetworkSpec}
  {seen : List Step}

/-! ## Storage and batch jobs -/

theorem arranged_storageSteps : b.Arranged seen b.storageSteps := by
  rw [storageSteps, arranged_append]
  refine ⟨arranged_emits fun e _ h hh => ?_, arranged_emits fun k _ h hh => ?_⟩
  · simp [bucket] at hh
  · simp [repository] at hh

/-- The repositories of all jobs are in the plan once storage is complete. -/
theorem available_storageSteps (hkey : key ∈ b.spec.jobTable.keys) :
    b.Available b.storageSteps (b.repositoryHandle key) :=
  ⟨.emit (b.repository key), List.mem_append_right _ (List.mem_map.2 ⟨key, hkey, rfl⟩), rfl⟩

/-- The steps for a job are in order behind its repository and the functions of its branch. -/
theorem arranged_jobSteps (hrepository : b.Available seen (b.repositoryHandle key))
    (hfunction : b.Closed → Registered seen ⟨.function, some branch, j.stateFunction⟩) :
    b.Arranged seen (b.jobSteps branch key j network) := by
  refine ⟨fun _ => ⟨by rintro _ ⟨⟩, hfunction⟩, ?_⟩
  split
  · simp [Fits]
  · simp [jobIntents, jobRoles, serviceRole, computeEnvironment, jobQueue, jobRule, permission,
      jobDefinition, Fits, Grants, hrepository]

/-- The steps for the jobs of a branch are in order behind the repositories and the functions of the
branch. -/
theorem arranged_batchSteps
    (hrepositories : ∀ key ∈ b.spec.jobTable.keys, b.Available seen (b.repositoryHandle key))
    (hfunctions : ∀ key ∈ b.spec.functions.keys, Registered seen ⟨.function, some branch, key⟩) :
    b.Arranged seen (b.batchSteps branch) := by
  rw [batchSteps]
  split
  · exact arranged_nil
  · split
    · simp [Fits]
    · rename_i network hnetwork
      refine ⟨fun _ => trivial, arranged_flatMap fun e he done => arranged_jobSteps ?_ fun hc => ?_⟩
      · simp [hrepositories e.1 (Table.mem_keys_of_mem he)]
      · have hn : b.references.catalog.network = true := by simp [References.catalog, hnetwork]
        exact (hfunctions _ (hc.jobs hn e he)).subset (by simp)

/-- If the steps for the jobs of a branch are made to the end and there is a network, the functions
that are told about the jobs are required. -/
theorem required_batchSteps (branch : String)
    (hnetwork : b.references.catalog.network = true)
    (he : (key, j) ∈ b.spec.jobTable.entries) :
    ∃ requestedBy, .require ⟨.function, some branch, j.stateFunction⟩ requestedBy ∈
      b.batchSteps branch := by
  rw [batchSteps]
  split
  · rename_i hnil
    have he' : (key, j) ∈ (b.spec.jobs.getD ∅).entries := he
    rw [hnil] at he'
    cases he'
  · split
    · rename_i hnone
      simp [References.catalog, hnone] at hnetwork
    · rename_i network _
      refine ⟨_, List.mem_cons_of_mem _ (List.mem_flatMap.2 ⟨_, he, List.mem_cons_self ..⟩)⟩

/-! ## Branches -/

/-- The steps for the functions of a branch are in order once the api is complete. -/
theorem arranged_computeSteps (hbranch : branch ∈ b.spec.branchNames)
    (hgateway : .complete .gateway ∈ seen)
    (hapi : b.spec.gateway.isSome → Registered seen b.apiKey) :
    b.Arranged seen (b.computeSteps branch) := by
  rw [computeSteps]
  split
  · simp [Fits, Step.info]
  · refine ⟨fun _ => trivial, arranged_functionsSteps (fun key hkey => ⟨hbranch, hkey⟩)
      (fun hclosed => hclosed.functions) (by rintro _ ⟨⟩) fun _ => ⟨?_, fun hsome => ?_⟩⟩
    · exact List.mem_append_left _ hgateway
    · exact (hapi hsome).subset (by simp)

/-- If the steps for the functions of a branch are made to the end, their references lead somewhere
and they are registered. -/
theorem closed_of_computeSteps (h : Clean (b.computeSteps branch)) :
    FunctionsClosed b.references.catalog b.spec.functions ∧
      ∀ key ∈ b.spec.functions.keys,
        Registered (b.computeSteps branch) ⟨.function, some branch, key⟩ := by
  rw [computeSteps] at h ⊢
  split at h
  · rename_i hempty
    have hentries : b.spec.functions.entries = [] := List.isEmpty_iff.1 hempty
    have hkeys : b.spec.functions.keys = [] := by simp [Table.keys, hentries]
    refine ⟨⟨⟨fun key f hf => ?_, fun key hcycle => ?_⟩, by simp [hentries]⟩, by simp [hkeys]⟩
    · simp [Table.get?, hentries] at hf
    · obtain ⟨next, hs, -⟩ := Relation.TransGen.head'_iff.1 hcycle
      simpa [hkeys] using hs.mem_keys
  · rename_i hfull
    rw [if_neg hfull]
    have hsubset : b.functionsSteps (branchWiring branch) b.spec.functions ⊆
        .info s!"Building compute of branch {branch}" ::
          b.functionsSteps (branchWiring branch) b.spec.functions :=
      List.subset_cons_self ..
    obtain ⟨hclosed, hregistered⟩ := closed_of_functionsSteps (h.subset hsubset)
    exact ⟨hclosed, fun key hkey => (hregistered key hkey).subset hsubset⟩

/-- The steps for a branch are in order once the api and the storage are complete. -/
theorem arranged_branchSteps (hbranch : branch ∈ b.spec.branchNames)
    (hgateway : .complete .gateway ∈ seen)
    (hapi : b.spec.gateway.isSome → Registered seen b.apiKey)
    (hrepositories : ∀ key ∈ b.spec.jobTable.keys, b.Available seen (b.repositoryHandle key)) :
    b.Arranged seen (b.branchSteps branch) := by
  rw [branchSteps, arranged_append]
  refine ⟨arranged_computeSteps hbranch hgateway hapi, arranged_of_clean fun hclean => ?_⟩
  refine arranged_batchSteps (fun key hkey => ?_) fun key hkey => ?_
  · exact available_append.2 (.inl (hrepositories key hkey))
  · obtain ⟨-, hregistered⟩ := closed_of_computeSteps (clean_append.1 hclean).2
    exact (hregistered key hkey).subset (by simp)

/-! ## The whole build -/

/-- The steps of a build are in order. -/
theorem arranged_steps (b : Blueprint) : b.Arranged [] b.steps := by
  simp only [steps, arranged_append]
  refine ⟨⟨⟨⟨⟨⟨⟨⟨⟨⟨?info, ?messaging⟩, ?_⟩, ?frontend⟩, ?_⟩, ?gateway⟩, ?_⟩, ?storage⟩, ?_⟩,
    ?branches⟩, ?_⟩
  case info => simp [Fits, Step.info]
  case messaging => exact arranged_messagingSteps
  case frontend =>
    refine arranged_frontendSteps (by simp) fun key hkey => ?_
    exact (registered_messagingSteps hkey).subset (by simp)
  case gateway =>
    refine arranged_of_clean fun hclean => arranged_gatewaySteps (by simp) fun app hlogin => ?_
    obtain ⟨a, ha, hsome⟩ := hlogin
    obtain ⟨user, huser⟩ := Option.isSome_iff_exists.1 hsome
    have hfrontend : Clean b.frontendSteps := hclean.subset fun s hs => by simp [hs]
    exact (login_of_frontendSteps hfrontend ha huser).2.subset fun s hs => by simp [hs]
  case storage => exact arranged_storageSteps
  case branches =>
    refine arranged_flatMap fun branch hbranch done => ?_
    refine arranged_branchSteps hbranch (by simp) (fun hsome => ?_) fun key hkey => ?_
    · exact (registered_gatewaySteps hsome).subset fun s hs => by simp [hs]
    · simp [available_storageSteps hkey]
  all_goals simp [Fits]

/-- Making all steps or meeting a fault decides what comes of a build. -/
theorem snd_build (b : Blueprint) : b.build.2 = (b.start.run b.steps).2 := by
  rw [build]
  split <;> rename_i h <;> rw [h]

/-- What may come of a build: all of its steps are made, or it ends for a good reason. -/
theorem outcome_build (b : Blueprint) : b.Outcome b.steps (b.start.run b.steps) :=
  traces_start.run (arranged_steps b)

/-- **Builds end for good reasons.**  A fault that ends a build is about the form of the spec or of
its files, a reference that leads nowhere, something that is missing outside of the spec, an unknown
name or a malformed document, or else the plan has refused a resource that it lists already.  So no
intent comes before what it depends on, no phase reads ahead and no key is registered twice. -/
theorem kind_of_build (b : Blueprint) {f : Fault} (h : b.build.2 = some f) :
    f.kind ∈ [.form, .reference, .prerequisite, .identifier, .yaml] ∨
      ∃ handle, f = .emittedTwice handle := by
  have houtcome := b.outcome_build
  rw [snd_build] at h
  cases hrun : b.start.run b.steps with
  | mk p fault =>
    rw [hrun] at h houtcome
    obtain rfl : fault = some f := h
    obtain (hkind | ⟨hkind, -⟩) | htwice := houtcome
    · have hsubset : [FaultKind.form, .prerequisite, .identifier, .yaml] ⊆
          [.form, .reference, .prerequisite, .identifier, .yaml] := by simp
      exact .inl (hsubset hkind)
    · exact .inl (by simp [hkind])
    · exact .inr htwice

/-- Two branches and two functions whose keys lead to one name. -/
def twins : Blueprint where
  spec := {
    serviceName := "shop"
    apiName := "shop-api"
    branches := .ofList [("a", {}), ("a-b", {})]
    handler := "index.handler"
    functions := .ofList [("c", {}), ("b-c", {})] }
  site := ⟨"123456789012", "us-east-1"⟩
  references := .empty
  files := fun _ => .error (.other "no such file")

set_option maxRecDepth 10000 in
/-- The one fault that is no matter of the spec alone occurs. -/
theorem kind_of_build_twins :
    twins.build.2 = some (.emittedTwice ⟨"Function/shop-api-a-b-c"⟩) ∧
      ((Fault.emittedTwice ⟨"Function/shop-api-a-b-c"⟩).kind ∈
        [.form, .reference, .prerequisite, .identifier, .yaml] ∨
        ∃ handle, Fault.emittedTwice ⟨"Function/shop-api-a-b-c"⟩ = .emittedTwice handle) :=
  ⟨rfl, kind_of_build twins rfl⟩

/-! ## References -/

/-- If all steps of a build are made, every reference of the spec leads somewhere. -/
theorem closed_of_traces {p : Progress} (hp : b.Traces b.steps p)
    (hbranches : b.spec.branchNames ≠ []) : b.Closed := by
  obtain ⟨branch, hbranch⟩ := List.exists_mem_of_ne_nil _ hbranches
  have hmessaging : b.messagingSteps ⊆ b.steps := fun s hs => by simp [steps, hs]
  have hfrontend : b.frontendSteps ⊆ b.steps := fun s hs => by simp [steps, hs]
  have hgateway : b.gatewaySteps ⊆ b.steps := fun s hs => by simp [steps, hs]
  have hown : b.computeSteps branch ++ b.batchSteps branch ⊆ b.steps := by
    intro s hs
    have hloop : s ∈ b.spec.branchNames.flatMap b.branchSteps :=
      List.mem_flatMap.2 ⟨branch, hbranch, hs⟩
    simp only [steps, List.mem_append, hloop, true_or, or_true]
  have hcompute : b.computeSteps branch ⊆ b.steps := fun s hs =>
    hown (List.mem_append_left _ hs)
  have hbatch : b.batchSteps branch ⊆ b.steps := fun s hs =>
    hown (List.mem_append_right _ hs)
  have hclean := hp.adds.clean
  -- what a step of the build requires is declared
  have hdeclared : ∀ {k requestedBy}, .require k requestedBy ∈ b.steps → b.spec.Declares k :=
    fun hk => (hp.backed _ (hp.required _ _ hk)).1
  constructor
  case functions => exact (closed_of_computeSteps (hclean.subset hcompute)).1
  case topicFunctions => exact closed_of_messagingSteps (hclean.subset hmessaging)
  case logins =>
    intro e he user huser
    exact (login_of_frontendSteps (hclean.subset hfrontend) he huser).1
  case notifications =>
    intro e he key htopic
    obtain ⟨_, hk⟩ := required_frontendSteps (hclean.subset hfrontend) he htopic
    exact hdeclared (hfrontend hk)
  case integrations =>
    intro g hg key hkey
    exact integration_of_gatewaySteps (hclean.subset hgateway) hg hkey
  case authorizations =>
    intro g hg e he auth hauth
    obtain ⟨huser, _, hk⟩ := authorization_of_gatewaySteps (hclean.subset hgateway) hg he hauth
    exact ⟨huser, hdeclared (hgateway hk)⟩
  case jobs =>
    intro hnetwork e he
    obtain ⟨_, hk⟩ := required_batchSteps branch hnetwork he
    exact (hdeclared (hbatch hk)).2

/-- **Builds and references.**  With at least one branch and the references resolved, a build goes
through only if every reference of the spec leads somewhere; and if every reference does, the build
does not end for the sake of one. -/
theorem references_of_build (b : Blueprint) (versions : LayerVersions)
    (hbranches : b.spec.branchNames ≠ [])
    (hreferences : (References.resolve b.spec.references b.site versions).2 = .ok b.references) :
    (b.build.2 = none → b.spec.Closed b.spec.catalog) ∧
      (b.spec.Closed b.spec.catalog → ∀ f, b.build.2 = some f → f.kind ≠ .reference) := by
  have houtcome := b.outcome_build
  rw [← References.catalog_of_resolve hreferences, snd_build]
  cases hrun : b.start.run b.steps with
  | mk p fault =>
    rw [hrun] at houtcome
    constructor
    · rintro rfl
      exact closed_of_traces houtcome hbranches
    · rintro hclosed f rfl hkind
      obtain (hother | ⟨-, hopen⟩) | ⟨handle, rfl⟩ := houtcome
      · simp [hkind] at hother
      · exact hopen hclosed
      · cases hkind

/-- A service with references of every kind. -/
def shop : Blueprint where
  spec := {
    serviceName := "shop"
    apiName := "shop-api"
    branches := .ofList [("main", {})]
    handler := "index.handler"
    references := some {
      layers := .ofList [("base", "arn:base")]
      pools := .ofList [("people", ⟨"pool", ∅⟩)]
      network := some ⟨["net"], "group"⟩ }
    repositoryRoot := some "https://repositories"
    functions := .ofList [("cart", { layers := ["base"], queueNext := some "order" }),
      ("order", { queue := some {} })]
    gateway := some {
      integrations := .ofList
        [("cart", { routes := some ["GET /cart"], authorization := some ⟨"people", "front"⟩ })] }
    topics := some (.ofList [("sold", {})])
    jobs := some (.ofList [("report", { maxProcessors := 1, stateFunction := "order" })])
    apps := some (.ofList
      [("front", { domain := "shop.test", user := some "people", topic := some "sold" })]) }
  site := ⟨"123456789012", "us-east-1"⟩
  references := {
    layers := .ofList [("base", "arn:base")]
    pools := .ofList
      [("people", ⟨"pool", "https://cognito-idp.us-east-1.amazonaws.com/pool", ∅⟩)]
    network := some ⟨["net"], "group"⟩ }
  token := some "token"
  files := fun _ => .error (.other "no such file")

set_option maxRecDepth 10000 in
/-- The references of the service lead somewhere, because it can be built. -/
theorem closed_shop : shop.spec.Closed shop.spec.catalog :=
  (references_of_build shop (fun _ _ => .ok 1) (List.cons_ne_nil "main" []) rfl).1 rfl

end ServicePlan.Blueprint
