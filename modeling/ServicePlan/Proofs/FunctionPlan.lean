import ServicePlan.Proofs.Api

/-!
# Functions in a plan

The steps for a function emit the function itself and then what feeds it.  Among that are its
permissions, which say who may call the function and on behalf of what.

* `Blueprint.exists_emissions_functionSteps`: what the steps for a function emit if they are made to
  the end.
* `Blueprint.exists_branchFunction`: the functions of the branches in a plan.
* `Intent.Admits`: the permission to call a function.
* `Blueprint.LetsApiIn`: steps let the api in only for functions that it calls.
* `Blueprint.exists_eq_apiPermission`: whom the api may call, in a whole plan.
-/

namespace ServicePlan

/-- Whether an intent lets a principal call a function. -/
structure Intent.Admits (i : Intent) (principal : String) (function : Handle) : Prop where
  /-- It is a permission. -/
  category : i.category = .permission
  /-- It is given to the principal. -/
  principal : i.text? "principal" = some principal
  /-- It is about the function. -/
  function : i.text? "function_name" = some function.ref

namespace Blueprint

variable {b : Blueprint} {w : Wiring} {key branch : String} {f : FunctionSpec}

/-! ## What comes with a function -/

/-- If the steps for a function are made to the end, they emit the function and then what feeds
it. -/
theorem exists_emissions_functionSteps (h : Clean (b.functionSteps w key f)) :
    ∃ runtime layers, Runtime.resolve f.runtime b.spec.defaultRuntime = .ok runtime ∧
      b.references.layerArns f.layers s!"layer_list of `{key}`" = .ok layers ∧
      emissions (b.functionSteps w key f) =
        .of .function w.phase (b.functionName w key)
            (b.functionConfig w key f runtime layers).attributes ::
          (emissions (b.testSteps w key f) ++ emissions (b.apiSteps w key) ++
            emissions (b.senderSteps w key) ++ emissions (b.queueSteps w key f)) := by
  obtain ⟨runtime, hruntime, hsteps⟩ := h.exists_eq_ok
  rw [functionSteps, hsteps] at h ⊢
  obtain ⟨layers, hlayers, hsteps⟩ := h.exists_eq_ok
  rw [hsteps]
  exact ⟨runtime, layers, hruntime, hlayers, by simp⟩

/-- A build without a fault has made the steps for each function of each branch. -/
theorem functionSteps_subset (h : b.build.2 = none) (hbranch : branch ∈ b.spec.branchNames)
    (hf : (key, f) ∈ b.spec.functions.entries) :
    b.functionSteps (branchWiring branch) key f ⊆ b.steps := by
  have hcompute : b.computeSteps branch ⊆ b.steps := fun _ hs =>
    branchSteps_subset hbranch (List.mem_append_left _ hs)
  have hclean := (clean_of_build h).subset hcompute
  refine List.Subset.trans ?_ hcompute
  rw [computeSteps] at hclean ⊢
  split at hclean
  · rename_i hempty
    rw [List.isEmpty_iff.1 hempty] at hf
    cases hf
  · rename_i hfull
    obtain ⟨_, -, hsteps⟩ := (hclean.subset (List.subset_cons_self ..)).exists_eq_ok
    rw [if_neg hfull, functionsSteps, hsteps]
    exact fun s hs => List.mem_cons_of_mem _ (List.mem_flatMap.2 ⟨_, hf, hs⟩)

/-- Each function of the spec is in the plan for each branch. -/
theorem exists_branchFunction (h : b.build.2 = none) (hbranch : branch ∈ b.spec.branchNames)
    (hkey : key ∈ b.spec.functions.keys) :
    ∃ i ∈ b.build.1.plan.byCategory .function,
      i.physicalName = b.naming.function key (some branch) ∧
      i.handle = b.functionHandle (branchWiring branch) key := by
  obtain ⟨⟨_, f⟩, hf, rfl⟩ := List.mem_map.1 hkey
  have hsubset := functionSteps_subset h hbranch hf
  have hplan := emissions_subset_intents h hsubset
  obtain ⟨runtime, layers, -, -, hemissions⟩ :=
    exists_emissions_functionSteps ((clean_of_build h).subset hsubset)
  rw [hemissions] at hplan
  exact ⟨_, Plan.mem_byCategory.2 ⟨hplan (List.mem_cons_self ..), rfl⟩, rfl, rfl⟩

/-! ## Functions and the api -/

/-- The permission that lets the api call a function. -/
def apiPermission (b : Blueprint) (w : Wiring) (key : String) : Intent :=
  permission w.phase (b.functionName w key ++ "-permission") (b.functionHandle w key)
    "apigateway.amazonaws.com" (b.naming.executeApiArn b.apiHandle.ref) b.apiHandle

theorem emissions_apiSteps :
    emissions (b.apiSteps w key) =
      if b.isIntegrated w key then [b.apiPermission w key] else [] := by
  rw [apiSteps]
  split <;> simp [apiPermission]

/-- The permission for a function of a branch that the api calls is in the plan. -/
theorem apiPermission_mem_intents (h : b.build.2 = none) (hbranch : branch ∈ b.spec.branchNames)
    (hkey : key ∈ b.spec.functions.keys) (hcalls : b.isIntegrated (branchWiring branch) key) :
    b.apiPermission (branchWiring branch) key ∈ b.build.1.plan.intents := by
  obtain ⟨⟨_, f⟩, hf, rfl⟩ := List.mem_map.1 hkey
  have hsubset := functionSteps_subset h hbranch hf
  obtain ⟨runtime, layers, -, -, hemissions⟩ :=
    exists_emissions_functionSteps ((clean_of_build h).subset hsubset)
  refine emissions_subset_intents h hsubset ?_
  rw [hemissions, emissions_apiSteps, if_pos hcalls]
  simp

/-- An intent lets the api in only as the permission for a function that the api calls. -/
def LetsApiIn (b : Blueprint) (w : Wiring) (i : Intent) : Prop :=
  ∀ function, i.Admits "apigateway.amazonaws.com" function →
    ∃ key, b.isIntegrated w key ∧ i = b.apiPermission w key

/-- Steps that emit no permission let nobody in. -/
theorem emits_letsApiIn {phase : Phase} {categories : List Category} {steps : List Step}
    (h : Emits (Intent.IsOf phase categories) steps) (hnot : .permission ∉ categories) :
    Emits (b.LetsApiIn w) steps :=
  h.mono fun _ hi _ hadmits => absurd (hadmits.category ▸ hi.2) hnot

theorem letsApiIn_permission {phase : Phase} {name principal sourceArn : String}
    {function source : Handle} (h : principal ≠ "apigateway.amazonaws.com") :
    b.LetsApiIn w (permission phase name function principal sourceArn source) :=
  fun _ hadmits => absurd (Option.some.inj hadmits.principal) h

theorem letsApiIn_of_category {i : Intent} (h : i.category ≠ .permission) : b.LetsApiIn w i :=
  fun _ hadmits => absurd hadmits.category h

/-- The steps for a function let the api in only if the api calls the function. -/
theorem emits_letsApiIn_functionSteps : Emits (b.LetsApiIn w) (b.functionSteps w key f) := by
  refine emits_functionSteps_of (fun _ => letsApiIn_of_category (by simp)) ?test ?api ?sender ?queue
  case test => exact emits_letsApiIn emits_testSteps (by decide)
  case api =>
    rw [Emits, emissions_apiSteps]
    split
    · rename_i hcalls
      exact List.forall_mem_singleton.2 fun _ _ => ⟨key, hcalls, rfl⟩
    · simp
  case sender =>
    rw [senderSteps]
    split
    · exact emits_nil
    · exact emits_emit.2 ⟨letsApiIn_of_category (by simp),
        emits_emit.2 ⟨letsApiIn_permission (by decide), emits_nil⟩⟩
  case queue => exact emits_letsApiIn emits_queueSteps (by decide)

theorem emits_letsApiIn_topicSteps {t : TopicSpec} :
    Emits (b.LetsApiIn ⟨none, some (b.topicHandle key), .messaging⟩) (b.topicSteps key t) :=
  emits_topicSteps_of (fun _ => letsApiIn_of_category (by simp))
    (letsApiIn_of_category (by simp [topicPolicy])) fun _ _ => emits_letsApiIn_functionSteps

/-- The functions of topics are not called by the api. -/
theorem not_admits_messagingSteps {i : Intent} {function : Handle}
    (hi : i ∈ emissions b.messagingSteps) : ¬ i.Admits "apigateway.amazonaws.com" function := by
  rw [messagingSteps] at hi
  split at hi
  · simp [Step.info] at hi
  · rw [emissions_flatMap] at hi
    obtain ⟨e, -, hi⟩ := List.mem_flatMap.1 hi
    intro hadmits
    obtain ⟨key, hcalls, -⟩ := emits_letsApiIn_topicSteps i hi function hadmits
    simp [isIntegrated] at hcalls

theorem emits_letsApiIn_computeSteps :
    Emits (b.LetsApiIn (branchWiring branch)) (b.computeSteps branch) :=
  emits_computeSteps_of fun _ _ => emits_letsApiIn_functionSteps

/-- Batch jobs let events in, and not the api. -/
theorem emits_letsApiIn_batchSteps : Emits (b.LetsApiIn w) (b.batchSteps branch) :=
  emits_batchSteps_of fun _ _ _ =>
    forall_jobIntents_of (fun _ _ _ => letsApiIn_of_category (by simp [serviceRole]))
      (letsApiIn_of_category (by simp [computeEnvironment]))
      (letsApiIn_of_category (by simp [jobQueue])) (letsApiIn_of_category (by simp [jobRule]))
      (fun _ _ => letsApiIn_permission (by decide)) (fun _ _ => letsApiIn_of_category (by simp))
      (letsApiIn_of_category (by simp [jobDefinition]))

/-- The api is let in by nothing in a plan but the permissions for the functions that it calls. -/
theorem exists_eq_apiPermission (h : b.build.2 = none) {i : Intent} {function : Handle}
    (hi : i ∈ b.build.1.plan.intents) (hadmits : i.Admits "apigateway.amazonaws.com" function) :
    ∃ branch ∈ b.spec.branchNames, ∃ key, b.isIntegrated (branchWiring branch) key ∧
      i = b.apiPermission (branchWiring branch) key := by
  obtain hi | hi | hi | hi | ⟨branch, hbranch, hi⟩ := mem_intents_cases h hi
  · exact absurd hadmits (not_admits_messagingSteps hi)
  · exact absurd hi (emits_frontendSteps.not_mem_of_category hadmits.category (by decide))
  · exact absurd hi (emits_gatewaySteps.not_mem_of_category hadmits.category (by decide))
  · exact absurd hi (emits_storageSteps.not_mem_of_category hadmits.category (by decide))
  · refine ⟨branch, hbranch, ?_⟩
    obtain hi | hi := hi
    · exact emits_letsApiIn_computeSteps i hi function hadmits
    · exact emits_letsApiIn_batchSteps i hi function hadmits

end Blueprint

end ServicePlan
