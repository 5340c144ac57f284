import ServicePlan.Proofs.FunctionPlan

/-!
# Entries of a spec in a plan

Topics, apps, buckets, functions and batch jobs are entries of tables of the spec, and the phases go
through these tables entry by entry.  A table that the spec leaves out counts as empty.

* `Blueprint.emissions_messagingSteps`, `Blueprint.emissions_frontendSteps`,
  `Blueprint.emissions_storageSteps`: what the shared phases emit for topics, for apps, and for
  buckets and jobs.
* `Blueprint.emissions_functionsSteps`, `Blueprint.emissions_computeSteps`,
  `Blueprint.emissions_topicSteps`: what is emitted for the functions of one table, for those of a
  branch, and for a topic with those that it feeds.
* `Blueprint.emissions_batchSteps`: what is emitted for the jobs of a branch.
-/

namespace ServicePlan

/-- The buckets; a spec without the block has none. -/
def ServiceSpec.bucketTable (s : ServiceSpec) : Table BucketSpec := s.buckets.getD ∅

/-- The functions that a topic feeds; a topic without the block feeds none. -/
def TopicSpec.functionTable (t : TopicSpec) : Table FunctionSpec := t.functions.getD ∅

namespace Blueprint

variable {b : Blueprint} {w : Wiring} {branch key topic : String} {f : FunctionSpec}
  {t : TopicSpec} {functions : Table FunctionSpec}

/-! ## Shared phases -/

/-- Topics are planned one after another. -/
theorem emissions_messagingSteps (b : Blueprint) :
    emissions b.messagingSteps =
      b.spec.topicTable.entries.flatMap fun e => emissions (b.topicSteps e.1 e.2) := by
  rw [messagingSteps, ServiceSpec.topicTable]
  cases b.spec.topics with
  | none => simp [Step.info]
  | some topics => simp

/-- The steps for one app.  There are none without the token and the root of the repositories,
which every app needs. -/
def deployedAppSteps (b : Blueprint) (app : String) (a : AppSpec) : List Step :=
  match b.token, b.spec.repositoryRoot with
  | some token, some repositoryRoot =>
    b.appSteps app a repositoryRoot token ++ b.loginSteps app a ++ b.deploymentSteps app a
  | _, _ => []

/-- Apps are planned one after another. -/
theorem emissions_frontendSteps (b : Blueprint) :
    emissions b.frontendSteps =
      b.spec.appTable.entries.flatMap fun e => emissions (b.deployedAppSteps e.1 e.2) := by
  rw [frontendSteps, ServiceSpec.appTable]
  unfold deployedAppSteps
  cases b.spec.apps with
  | none => simp [Step.info]
  | some apps => cases b.token <;> cases b.spec.repositoryRoot <;> simp

/-- Buckets are planned before the repositories of the jobs. -/
theorem emissions_storageSteps (b : Blueprint) :
    emissions b.storageSteps =
      (b.spec.bucketTable.entries.map fun e => bucket e.1 e.2) ++
        b.spec.jobTable.entries.map fun e => b.repository e.1 := by
  simp [storageSteps, ServiceSpec.bucketTable, ServiceSpec.jobTable, Table.keys,
    Function.comp_def]

/-! ## Functions -/

/-- If the steps for the functions of a table are made to the end, so are those for each of them. -/
theorem functionSteps_subset_functionsSteps (h : Clean (b.functionsSteps w functions))
    (hf : (key, f) ∈ functions.entries) :
    b.functionSteps w key f ⊆ b.functionsSteps w functions := by
  obtain ⟨_, -, hsteps⟩ := h.exists_eq_ok
  rw [functionsSteps, hsteps]
  exact fun s hs => List.mem_flatMap.2 ⟨_, hf, hs⟩

/-- Then functions are planned one after another. -/
theorem emissions_functionsSteps (h : Clean (b.functionsSteps w functions)) :
    emissions (b.functionsSteps w functions) =
      functions.entries.flatMap fun e => emissions (b.functionSteps w e.1 e.2) := by
  obtain ⟨_, -, hsteps⟩ := h.exists_eq_ok
  rw [functionsSteps, hsteps, emissions_flatMap]

/-- The functions of a branch are planned one after another as well. -/
theorem emissions_computeSteps (h : Clean (b.computeSteps branch)) :
    emissions (b.computeSteps branch) = b.spec.functions.entries.flatMap fun e =>
      emissions (b.functionSteps (branchWiring branch) e.1 e.2) := by
  rw [computeSteps] at h ⊢
  split at h
  · rename_i hempty
    rw [if_pos hempty, List.isEmpty_iff.1 hempty]
    simp [Step.info]
  · rename_i hfull
    have hfunctions := h.subset (List.subset_cons_self ..)
    rw [if_neg hfull, ← emissions_functionsSteps hfunctions]
    simp [Step.info]

/-- If all steps of a build are made to the end, so are those for the functions of each branch. -/
theorem clean_computeSteps (h : Clean b.steps) (hbranch : branch ∈ b.spec.branchNames) :
    Clean (b.computeSteps branch) :=
  h.subset fun _ hs => branchSteps_subset hbranch (List.mem_append_left _ hs)

/-! ## Functions of topics -/

/-- For whom the functions of a topic are built. -/
def topicWiring (b : Blueprint) (topic : String) : Wiring :=
  ⟨none, some (b.topicHandle topic), .messaging⟩

/-- The intent to create a topic. -/
def topicIntent (b : Blueprint) (topic : String) (t : TopicSpec) : Intent :=
  .of .topic .messaging (b.naming.topic topic)
    (.object [("display_name", .stringOrNull t.description),
      ("topic_name", .string (b.naming.topic topic))])

/-- A topic comes with its functions. -/
theorem topicSteps_eq (b : Blueprint) (topic : String) (t : TopicSpec) :
    b.topicSteps topic t =
      [.emit (b.topicIntent topic t), .emit (b.topicPolicy topic)] ++
        (t.functions.toList.flatMap (b.functionsSteps (b.topicWiring topic))) ++
        [.register (topicKey topic) (b.topicHandle topic)] := by
  rw [topicSteps]
  cases t.functions with
  | none => rfl
  | some functions =>
    rw [Option.toList_some, List.flatMap_singleton]
    rfl

/-- The functions of a topic are planned behind the topic and its policy, one after another. -/
theorem emissions_topicSteps (h : Clean (b.topicSteps topic t)) :
    emissions (b.topicSteps topic t) =
      [b.topicIntent topic t, b.topicPolicy topic] ++
        t.functionTable.entries.flatMap fun e =>
          emissions (b.functionSteps (b.topicWiring topic) e.1 e.2) := by
  rw [topicSteps_eq, clean_append, clean_append, clean_flatMap] at h
  rw [topicSteps_eq, TopicSpec.functionTable]
  cases hf : t.functions with
  | none => simp
  | some functions =>
    have hfunctions := h.1.2 functions (by simp [hf])
    simp [emissions_functionsSteps hfunctions]

theorem messagingSteps_subset (b : Blueprint) : b.messagingSteps ⊆ b.steps := fun s hs => by
  simp [steps, hs]

/-- A build makes the steps for each topic. -/
theorem topicSteps_subset (ht : (topic, t) ∈ b.spec.topicTable.entries) :
    b.topicSteps topic t ⊆ b.steps := by
  refine List.Subset.trans (fun s hs => ?_) b.messagingSteps_subset
  rw [ServiceSpec.topicTable] at ht
  rw [messagingSteps]
  cases htopics : b.spec.topics with
  | none =>
    rw [htopics] at ht
    cases ht
  | some topics =>
    rw [htopics] at ht
    exact List.mem_flatMap.2 ⟨_, ht, hs⟩

/-- A build without a fault has made the steps for each function of each topic. -/
theorem topicFunctionSteps_subset (h : b.build.2 = none)
    (ht : (topic, t) ∈ b.spec.topicTable.entries) (hf : (key, f) ∈ t.functionTable.entries) :
    b.functionSteps (b.topicWiring topic) key f ⊆ b.steps := by
  have hsubset := topicSteps_subset ht
  have hclean := (clean_of_build h).subset hsubset
  rw [topicSteps_eq, clean_append, clean_append, clean_flatMap] at hclean
  rw [TopicSpec.functionTable] at hf
  cases hfunctions : t.functions with
  | none =>
    rw [hfunctions] at hf
    cases hf
  | some functions =>
    rw [hfunctions] at hf
    have hone : functions ∈ t.functions.toList := by simp [hfunctions]
    intro s hs
    have hmem := functionSteps_subset_functionsSteps (hclean.1.2 _ hone) hf hs
    have hloop : s ∈ t.functions.toList.flatMap (b.functionsSteps (b.topicWiring topic)) :=
      List.mem_flatMap.2 ⟨_, hone, hmem⟩
    exact hsubset (by simp [topicSteps_eq, hloop])

/-! ## Jobs -/

/-- The intents for the jobs of a branch, which run in the network if there is one. -/
theorem emissions_batchSteps (b : Blueprint) (branch : String) :
    emissions (b.batchSteps branch) = b.spec.jobTable.entries.flatMap fun e =>
      b.references.network.toList.flatMap fun network =>
        emissions (b.jobSteps branch e.1 e.2 network) := by
  rw [batchSteps, ServiceSpec.jobTable]
  split
  · rename_i hnone
    simp [hnone]
  · cases b.references.network with
    | none => simp
    | some network => simp [Step.info]

end Blueprint

end ServicePlan
