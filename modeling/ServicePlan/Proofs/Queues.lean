import ServicePlan.Proofs.Warnings

/-!
# Functions, queues and triggers in a plan

A build makes the steps for each function of each branch and for each function of a topic.  All
functions, queues and triggers of a plan come from there: a function stands for itself, and if it has
a queue, the plan lists the queue with a second one for what the function fails to handle, and the
trigger between the queue and the function.

* `Blueprint.Builds`: the functions of a spec with the wiring they are built for.
* `Blueprint.exists_builds_cases`: where a function, a queue or a trigger of a plan comes from.
* `Blueprint.exists_of_function`, `Blueprint.exists_of_queue`, `Blueprint.exists_of_trigger`: one
  category at a time.
* `Blueprint.Builds.function_mem_intents`, `Blueprint.Builds.queue_subset_intents`: what a plan
  lists for a function.
-/

namespace ServicePlan

namespace Blueprint

variable {b : Blueprint} {w : Wiring} {key : String} {f : FunctionSpec} {i : Intent}

/-! ## Where functions are built -/

/-- The functions that a build makes the steps for: those of the spec for each branch, and those of
each topic. -/
def Builds (b : Blueprint) (w : Wiring) (key : String) (f : FunctionSpec) : Prop :=
  (∃ branch ∈ b.spec.branchNames, w = branchWiring branch ∧ (key, f) ∈ b.spec.functions.entries) ∨
    ∃ e ∈ b.spec.topicTable.entries, w = b.topicWiring e.1 ∧ (key, f) ∈ e.2.functionTable.entries

theorem Builds.hasFunction (h : b.Builds w key f) : b.spec.HasFunction f := by
  obtain ⟨branch, -, -, hf⟩ | ⟨e, he, -, hf⟩ := h
  · exact .inl ⟨key, hf⟩
  · exact .inr ⟨e, he, key, hf⟩

theorem Builds.functionSteps_subset (h : b.Builds w key f) (hbuild : b.build.2 = none) :
    b.functionSteps w key f ⊆ b.steps := by
  obtain ⟨branch, hbranch, rfl, hf⟩ | ⟨⟨topic, t⟩, ht, rfl, hf⟩ := h
  · exact Blueprint.functionSteps_subset hbuild hbranch hf
  · exact topicFunctionSteps_subset hbuild ht hf

/-- The categories of which only functions plan anything. -/
def ownCategories : List Category := [.function, .queue, .eventSourceMapping]

/-- A function, a queue or a trigger of a plan comes from the steps for a function. -/
theorem exists_builds (hbuild : b.build.2 = none) (hi : i ∈ b.build.1.plan.intents)
    (hcategory : i.category ∈ ownCategories) :
    ∃ w key f, b.Builds w key f ∧ i ∈ emissions (b.functionSteps w key f) := by
  have hclean := clean_of_build hbuild
  obtain hi | hi | hi | hi | ⟨branch, hbranch, hi | hi⟩ := mem_intents_cases hbuild hi
  · rw [emissions_messagingSteps] at hi
    obtain ⟨e, he, hi⟩ := List.mem_flatMap.1 hi
    rw [emissions_topicSteps (hclean.subset (topicSteps_subset he))] at hi
    rcases List.mem_append.1 hi with hi | hi
    · rcases List.mem_pair.1 hi with rfl | rfl
      · exact absurd hcategory (by simp [topicIntent, ownCategories])
      · exact absurd hcategory (by simp [topicPolicy, ownCategories])
    · obtain ⟨⟨key, f⟩, hf, hi⟩ := List.mem_flatMap.1 hi
      exact ⟨_, key, f, .inr ⟨e, he, rfl, hf⟩, hi⟩
  · exact absurd hi (emits_frontendSteps.not_mem hcategory (by decide))
  · exact absurd hi (emits_gatewaySteps.not_mem hcategory (by decide))
  · exact absurd hi (emits_storageSteps.not_mem hcategory (by decide))
  · rw [emissions_computeSteps (clean_computeSteps hclean hbranch)] at hi
    obtain ⟨⟨key, f⟩, hf, hi⟩ := List.mem_flatMap.1 hi
    exact ⟨_, key, f, .inl ⟨branch, hbranch, rfl, hf⟩, hi⟩
  · exact absurd hi (emits_batchSteps.not_mem hcategory (by decide))

/-! ## The intents for a function -/

/-- The intent to create a function. -/
def functionIntent (b : Blueprint) (w : Wiring) (key : String) (f : FunctionSpec)
    (runtime : Runtime) (layers : List String) : Intent :=
  .of .function w.phase (b.functionName w key)
    (b.functionConfig w key f runtime layers).attributes

/-- The intent to create the queue of what a function fails to handle. -/
def deadQueue (b : Blueprint) (w : Wiring) (key : String) : Intent :=
  .of .queue w.phase (b.naming.deadQueue key w.branch)
    (.object [("queue_name", .string (b.naming.deadQueue key w.branch))])

/-- The intent to create the queue that feeds a function. -/
def waitingQueue (b : Blueprint) (w : Wiring) (key : String) (timeout : Int) : Intent :=
  .of .queue w.phase (b.naming.waitingQueue key w.branch)
    (.object [
      ("dead_letter_queue", .object [
        ("max_receive_count", .int Settings.maxReceiveCount),
        ("target_arn", .string (b.deadQueue w key).handle.arn)]),
      ("queue_name", .string (b.naming.waitingQueue key w.branch)),
      ("visibility_timeout", .int timeout)])
    [(b.deadQueue w key).handle]

/-- The intent to create the trigger between a queue and its function. -/
def trigger (b : Blueprint) (w : Wiring) (key : String) (timeout : Int) : Intent :=
  .of .eventSourceMapping w.phase (b.naming.waitingQueue key w.branch ++ "-trigger")
    (.object [
      ("batch_size", .int Settings.batchSize),
      ("event_source_arn", .string (b.waitingQueue w key timeout).handle.arn),
      ("function_name", .string (b.functionHandle w key).ref)])
    [(b.waitingQueue w key timeout).handle, b.functionHandle w key]

theorem emissions_queueSteps :
    emissions (b.queueSteps w key f) =
      match f.visibilityTimeout Settings.timeout with
      | .ok (some timeout) =>
        [b.deadQueue w key, b.waitingQueue w key timeout, b.trigger w key timeout]
      | _ => [] := by
  rw [queueSteps]
  cases f.visibilityTimeout Settings.timeout with
  | error fault => rfl
  | ok timeout? => cases timeout? <;> rfl

/-- What the queue steps emit is for a queue with a visibility timeout. -/
theorem exists_of_mem_queueSteps (hi : i ∈ emissions (b.queueSteps w key f)) :
    ∃ timeout, f.visibilityTimeout Settings.timeout = .ok (some timeout) ∧
      (i = b.deadQueue w key ∨ i = b.waitingQueue w key timeout ∨ i = b.trigger w key timeout) := by
  rw [emissions_queueSteps] at hi
  split at hi
  · rename_i timeout htimeout
    exact ⟨timeout, htimeout, by simpa using hi⟩
  · cases hi

/-- Of what comes with a function, the function, the queues and the trigger are told apart by their
categories. -/
theorem mem_functionSteps_cases (hclean : Clean (b.functionSteps w key f))
    (hi : i ∈ emissions (b.functionSteps w key f)) (hcategory : i.category ∈ ownCategories) :
    (∃ runtime layers, i = b.functionIntent w key f runtime layers) ∨
      i ∈ emissions (b.queueSteps w key f) := by
  obtain ⟨runtime, layers, -, -, hemissions⟩ := exists_emissions_functionSteps hclean
  rw [hemissions, List.mem_cons] at hi
  simp only [List.mem_append] at hi
  obtain rfl | ((hi | hi) | hi) | hi := hi
  · exact .inl ⟨runtime, layers, rfl⟩
  · exact absurd hi (emits_testSteps.not_mem hcategory (by decide))
  · exact absurd hi (emits_apiSteps.not_mem hcategory (by decide))
  · exact absurd hi (emits_senderSteps.not_mem hcategory (by decide))
  · exact .inr hi

/-! ## Reading a plan -/

section Plan

variable (hbuild : b.build.2 = none)
include hbuild

/-- A function, a queue or a trigger of a plan is that of a function of the spec. -/
theorem exists_builds_cases (hi : i ∈ b.build.1.plan.intents)
    (hcategory : i.category ∈ ownCategories) :
    ∃ w key f, b.Builds w key f ∧
      ((∃ runtime layers, i = b.functionIntent w key f runtime layers) ∨
        ∃ timeout, f.visibilityTimeout Settings.timeout = .ok (some timeout) ∧
          (i = b.deadQueue w key ∨ i = b.waitingQueue w key timeout ∨
            i = b.trigger w key timeout)) := by
  obtain ⟨w, key, f, hf, hi⟩ := exists_builds hbuild hi hcategory
  have hclean := (clean_of_build hbuild).subset (hf.functionSteps_subset hbuild)
  exact ⟨w, key, f, hf,
    (mem_functionSteps_cases hclean hi hcategory).imp_right exists_of_mem_queueSteps⟩

theorem exists_of_function (hi : i ∈ b.build.1.plan.intents) (hcategory : i.category = .function) :
    ∃ w key f runtime layers, b.Builds w key f ∧ i = b.functionIntent w key f runtime layers := by
  obtain ⟨w, key, f, hf, ⟨runtime, layers, rfl⟩ | ⟨timeout, -, rfl | rfl | rfl⟩⟩ :=
    exists_builds_cases hbuild hi (by simp [hcategory, ownCategories])
  · exact ⟨w, key, f, runtime, layers, hf, rfl⟩
  · cases hcategory
  · cases hcategory
  · cases hcategory

/-- A queue of a plan is one of the two queues of a function. -/
theorem exists_of_queue (hi : i ∈ b.build.1.plan.intents) (hcategory : i.category = .queue) :
    ∃ w key f timeout, b.Builds w key f ∧
      f.visibilityTimeout Settings.timeout = .ok (some timeout) ∧
      (i = b.deadQueue w key ∨ i = b.waitingQueue w key timeout) := by
  obtain ⟨w, key, f, hf, ⟨runtime, layers, rfl⟩ | ⟨timeout, htimeout, rfl | rfl | rfl⟩⟩ :=
    exists_builds_cases hbuild hi (by simp [hcategory, ownCategories])
  · cases hcategory
  · exact ⟨w, key, f, timeout, hf, htimeout, .inl rfl⟩
  · exact ⟨w, key, f, timeout, hf, htimeout, .inr rfl⟩
  · cases hcategory

theorem exists_of_trigger (hi : i ∈ b.build.1.plan.intents)
    (hcategory : i.category = .eventSourceMapping) :
    ∃ w key f timeout, b.Builds w key f ∧
      f.visibilityTimeout Settings.timeout = .ok (some timeout) ∧ i = b.trigger w key timeout := by
  obtain ⟨w, key, f, hf, ⟨runtime, layers, rfl⟩ | ⟨timeout, htimeout, rfl | rfl | rfl⟩⟩ :=
    exists_builds_cases hbuild hi (by simp [hcategory, ownCategories])
  · cases hcategory
  · cases hcategory
  · cases hcategory
  · exact ⟨w, key, f, timeout, hf, htimeout, rfl⟩

/-- Each function that is built is in the plan. -/
theorem Builds.function_mem_intents (hf : b.Builds w key f) :
    ∃ runtime layers, b.functionIntent w key f runtime layers ∈ b.build.1.plan.intents := by
  have hsubset := hf.functionSteps_subset hbuild
  obtain ⟨runtime, layers, -, -, hemissions⟩ :=
    exists_emissions_functionSteps ((clean_of_build hbuild).subset hsubset)
  refine ⟨runtime, layers, emissions_subset_intents hbuild hsubset ?_⟩
  rw [hemissions]
  exact List.mem_cons_self ..

/-- With a function that has a queue, the plan lists its queues and its trigger. -/
theorem Builds.queue_subset_intents {timeout : Int} (hf : b.Builds w key f)
    (htimeout : f.visibilityTimeout Settings.timeout = .ok (some timeout)) :
    [b.deadQueue w key, b.waitingQueue w key timeout, b.trigger w key timeout] ⊆
      b.build.1.plan.intents := by
  have hsubset := hf.functionSteps_subset hbuild
  obtain ⟨runtime, layers, -, -, hemissions⟩ :=
    exists_emissions_functionSteps ((clean_of_build hbuild).subset hsubset)
  refine List.Subset.trans ?_ (emissions_subset_intents hbuild hsubset)
  intro i hi
  have hqueue : i ∈ emissions (b.queueSteps w key f) := by
    rw [emissions_queueSteps, htimeout]
    exact hi
  rw [hemissions]
  exact List.mem_cons_of_mem _ (List.mem_append_right _ hqueue)

end Plan

end Blueprint

end ServicePlan
