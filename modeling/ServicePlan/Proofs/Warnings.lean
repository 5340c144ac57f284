import ServicePlan.Proofs.Entries
import ServicePlan.Proofs.Locality

/-!
# Warnings of a build

Only the batch jobs of a branch come with warnings: there is no network, or the network has no
subnets.  All other phases go on without a word or end the build, and of the faults that they name
one is a matter of a single number: a visibility timeout that is too large to be expressed.

* `warningsOf`: the warnings of steps, and `Progress.warnings_run`.
* `ServiceSpec.HasFunction`: a function of the branches or of a topic.
* `Blueprint.Regular`: steps without a warning, in which the fault of a visibility timeout is that
  of a function of the spec.
* `Blueprint.regular_sharedSteps`, `Blueprint.regular_computeSteps`: the steps of all phases but
  the last.
* `Blueprint.warnings_build`: the warnings of a whole build.
-/

namespace ServicePlan

/-! ## Warnings of steps -/

/-- The warning that a step gives. -/
@[simp] def Step.warning? : Step → Option String
  | .warn text => some text
  | _ => none

/-- The warnings of steps, in order. -/
def warningsOf (steps : List Step) : List String := steps.filterMap Step.warning?

theorem warningsOf_append (first second : List Step) :
    warningsOf (first ++ second) = warningsOf first ++ warningsOf second :=
  List.filterMap_append

theorem warningsOf_cons (s : Step) (rest : List Step) :
    warningsOf (s :: rest) = s.warning?.toList ++ warningsOf rest := by
  cases s <;> rfl

theorem warningsOf_flatMap {α : Type} (l : List α) (g : α → List Step) :
    warningsOf (l.flatMap g) = l.flatMap fun a => warningsOf (g a) :=
  List.filterMap_flatMap

namespace Progress

variable {p q : Progress}

/-- A step without a fault has noted its warning. -/
theorem warnings_step {s : Step} (h : p.step s = (q, none)) :
    q.warnings = p.warnings ++ s.warning?.toList := by
  cases s with
  | note record =>
    cases h
    simp [note]
  | warn text =>
    cases h
    simp [warn]
  | complete phase =>
    cases h
    simp [complete]
  | fail f => cases h
  | emit i =>
    rcases p.plan.push_cases i with ⟨-, hpush⟩ | ⟨_, -, -, -, hpush⟩ | ⟨-, -, hpush⟩
    · simp [step, emit, settle, hpush] at h
    · simp [step, emit, settle, hpush] at h
    · simp only [step, emit, settle, hpush, Prod.mk.injEq, and_true] at h
      simp [← h]
  | register key handle =>
    cases hwrite : p.registry.write key handle with
    | error f => simp [step, register, settle, hwrite, bind, Except.bind] at h
    | ok registry =>
      simp only [step, register, settle, hwrite, bind, Except.bind, Prod.mk.injEq, and_true] at h
      simp [← h]
  | require key requestedBy =>
    cases hfind : p.registry.find key requestedBy with
    | error f => simp [step, read, Registry.read, hfind] at h
    | ok handle =>
      simp only [step, read, Registry.read, hfind, Prod.mk.injEq, and_true] at h
      simp [← h]

/-- Steps without a fault have noted their warnings. -/
theorem warnings_run {steps : List Step} (h : p.run steps = (q, none)) :
    q.warnings = p.warnings ++ warningsOf steps := by
  refine run_induction (P := fun seen r => r.warnings = p.warnings ++ warningsOf seen) h
    (by simp [warningsOf]) fun seen s r t hr hs => ?_
  rw [warnings_step hs, hr, warningsOf_append, warningsOf_cons, List.append_assoc]
  simp [warningsOf]

end Progress

/-! ## Regular steps -/

/-- A function of a spec: one of the branches, or one that a topic feeds. -/
def ServiceSpec.HasFunction (s : ServiceSpec) (f : FunctionSpec) : Prop :=
  (∃ key, (key, f) ∈ s.functions.entries) ∨
    ∃ e ∈ s.topicTable.entries, ∃ key, (key, f) ∈ e.2.functionTable.entries

namespace Blueprint

/-- A step that gives no warning.  If it ends the build because a visibility timeout cannot be
expressed, the timeout is that of a function of the spec. -/
def Regular (b : Blueprint) : Step → Prop
  | .warn _ => False
  | .fail (.timeoutOverflow timeout additional) =>
    ∃ f, b.spec.HasFunction f ∧
      f.visibilityTimeout Settings.timeout = .error (.timeoutOverflow timeout additional)
  | _ => True

variable {b : Blueprint} {w : Wiring} {key app branch topic : String} {f : FunctionSpec}
  {a : AppSpec} {g : GatewaySpec} {r : RouteSpec} {functions : Table FunctionSpec}

/-- A fault that is not about the form of a document is not about a timeout. -/
theorem regular_fail_of_kind {fault : Fault} (h : fault.kind ≠ .form) :
    b.Regular (.fail fault) := by
  cases fault with
  | timeoutOverflow timeout additional => exact absurd rfl h
  | _ => trivial

theorem regular_append {first second : List Step} (hfirst : ∀ s ∈ first, b.Regular s)
    (hsecond : ∀ s ∈ second, b.Regular s) : ∀ s ∈ first ++ second, b.Regular s :=
  List.forall_mem_append.2 ⟨hfirst, hsecond⟩

theorem regular_flatMap {α : Type} {l : List α} {next : α → List Step}
    (h : ∀ x ∈ l, ∀ s ∈ next x, b.Regular s) : ∀ s ∈ l.flatMap next, b.Regular s := by
  intro s hs
  obtain ⟨x, hx, hmem⟩ := List.mem_flatMap.1 hs
  exact h x hx s hmem

theorem regular_map_emit {α : Type} {l : List α} {next : α → Intent} :
    ∀ s ∈ l.map (fun x => Step.emit (next x)), b.Regular s := by
  intro s hs
  obtain ⟨x, -, rfl⟩ := List.mem_map.1 hs
  trivial

theorem regular_orFail {α : Type} {result : Except Fault α} {next : α → List Step}
    (hfail : ∀ fault, result = .error fault → b.Regular (.fail fault))
    (hok : ∀ x, result = .ok x → ∀ s ∈ next x, b.Regular s) :
    ∀ s ∈ Step.orFail result next, b.Regular s := by
  cases result with
  | ok x => exact hok x rfl
  | error fault => exact List.forall_mem_singleton.2 (hfail fault rfl)

/-! ## Functions -/

theorem regular_testSteps : ∀ s ∈ b.testSteps w key f, b.Regular s := by
  simp only [testSteps]
  split
  · simp
  · split <;> simp [Regular]

theorem regular_apiSteps : ∀ s ∈ b.apiSteps w key, b.Regular s := by
  rw [apiSteps]
  split <;> simp [Regular]

theorem regular_senderSteps : ∀ s ∈ b.senderSteps w key, b.Regular s := by
  rw [senderSteps]
  split <;> simp [Regular]

/-- What may go wrong with the queue of a function is its visibility timeout. -/
theorem regular_queueSteps (hf : b.spec.HasFunction f) :
    ∀ s ∈ b.queueSteps w key f, b.Regular s := by
  refine regular_orFail (fun fault hfault => ?_) fun timeout? _ => ?_
  · cases fault with
    | timeoutOverflow timeout additional => exact ⟨f, hf, hfault⟩
    | _ => trivial
  · cases timeout? <;> simp [Regular]

theorem regular_functionSteps (hf : b.spec.HasFunction f) :
    ∀ s ∈ b.functionSteps w key f, b.Regular s := by
  refine regular_orFail (fun fault hfault => ?_) fun runtime _ => ?_
  · exact regular_fail_of_kind (by simp [kind_of_resolve hfault])
  refine regular_orFail (fun fault hfault => ?_) fun layers _ => ?_
  · exact regular_fail_of_kind (by simp [(References.not_mem_layers_of_layerArns hfault).1])
  have hfirst : ∀ s ∈ [Step.emit (.of .function w.phase (b.functionName w key)
      (b.functionConfig w key f runtime layers).attributes)], b.Regular s := by
    simp [Regular]
  refine regular_append (regular_append (regular_append (regular_append (regular_append hfirst
    regular_testSteps) regular_apiSteps) regular_senderSteps) (regular_queueSteps hf)) ?_
  simp [Regular]

theorem regular_functionsSteps (h : ∀ e ∈ functions.entries, b.spec.HasFunction e.2) :
    ∀ s ∈ b.functionsSteps w functions, b.Regular s := by
  refine regular_orFail (fun fault hfault => ?_) fun _ _ => ?_
  · exact regular_fail_of_kind (by simp [QueueChain.kind_of_check hfault])
  · exact regular_flatMap fun e he => regular_functionSteps (h e he)

theorem regular_computeSteps : ∀ s ∈ b.computeSteps branch, b.Regular s := by
  rw [computeSteps]
  split
  · simp [Regular, Step.info]
  · refine List.forall_mem_cons.2 ⟨trivial, regular_functionsSteps fun e he => ?_⟩
    exact .inl ⟨e.1, he⟩

/-! ## The shared phases -/

theorem regular_messagingSteps : ∀ s ∈ b.messagingSteps, b.Regular s := by
  rw [messagingSteps]
  cases htopics : b.spec.topics with
  | none => simp [Regular, Step.info]
  | some topics =>
    refine regular_flatMap fun e he => ?_
    have htopic : e ∈ b.spec.topicTable.entries := by
      simpa [ServiceSpec.topicTable, htopics] using he
    rw [topicSteps_eq]
    refine regular_append (regular_append (by simp [Regular]) ?_) (by simp [Regular])
    refine regular_flatMap fun functions hfunctions => regular_functionsSteps fun f hf => ?_
    have htable : e.2.functionTable = functions := by
      simp [TopicSpec.functionTable, Option.mem_toList.1 hfunctions]
    exact .inr ⟨e, htopic, f.1, htable ▸ hf⟩

/-- A policy fragment that cannot be had is no matter of a timeout. -/
theorem regular_fragments {fault : Fault} (h : b.fragments a branch = .error fault) :
    b.Regular (.fail fault) := by
  obtain ⟨path, -, hpath⟩ := exists_eq_error_of_mapM h
  rw [PolicyFragment.load] at hpath
  split at hpath
  · rw [PolicyFragment.parse] at hpath
    split at hpath <;> cases hpath
    trivial
  · cases hpath
    trivial

theorem regular_loginSteps : ∀ s ∈ b.loginSteps app a, b.Regular s := by
  rw [loginSteps]
  split
  · simp
  · refine regular_orFail (fun fault hfault => ?_) fun pool _ => ?_
    · exact regular_fail_of_kind (by simp [(References.not_mem_users_of_userPool hfault).1])
    refine regular_append (regular_append (by simp [Regular]) ?_) (by simp [Regular])
    split
    · refine regular_flatMap fun branch _ => ?_
      exact regular_orFail (fun _ hfault => regular_fragments hfault) fun _ _ => by simp [Regular]
    · simp

theorem regular_deploymentSteps : ∀ s ∈ b.deploymentSteps app a, b.Regular s := by
  rw [deploymentSteps]
  split <;> simp [Regular]

theorem regular_appSteps {repositoryRoot token : String} :
    ∀ s ∈ b.appSteps app a repositoryRoot token, b.Regular s :=
  regular_append (regular_append (by simp [Regular]) regular_map_emit) (by simp [Regular])

theorem regular_frontendSteps : ∀ s ∈ b.frontendSteps, b.Regular s := by
  rw [frontendSteps]
  split
  · simp [Regular, Step.info]
  · split
    · simp [Regular]
    · simp [Regular]
    · refine regular_flatMap fun e _ => ?_
      exact regular_append (regular_append regular_appSteps regular_loginSteps)
        regular_deploymentSteps

/-- Routes that cannot be found out are no matter of a timeout. -/
theorem regular_ofPaths {paths : List (Yaml × Yaml)} {fault : Fault}
    (h : Route.ofPaths paths = .error fault) : b.Regular (.fail fault) := by
  induction paths with
  | nil => cases h
  | cons e rest ih =>
    obtain ⟨path, item⟩ := e
    rw [Route.ofPaths] at h
    split at h
    · cases h
      trivial
    · cases hrest : Route.ofPaths rest with
      | error other =>
        rw [hrest] at h
        cases h
        exact ih hrest
      | ok routes =>
        rw [hrest] at h
        cases h

theorem regular_routeKeys {fault : Fault} (h : b.routeKeys key r = .error fault) :
    b.Regular (.fail fault) := by
  rw [routeKeys] at h
  split at h
  · cases h
  · rw [Route.ofFile] at h
    split at h
    · rw [Route.ofText] at h
      split at h
      · rw [Route.ofYaml] at h
        split at h
        · exact regular_ofPaths h
        · cases h
          trivial
      · cases h
        trivial
    · cases h
      trivial
  · cases h
    trivial

theorem regular_routeSteps : ∀ s ∈ b.routeSteps key r, b.Regular s := by
  rw [routeSteps]
  split
  · refine regular_orFail (fun _ hfault => regular_routeKeys hfault) fun routes _ => ?_
    rw [routeNotes]
    split <;> simp [Regular, Step.info]
  · simp [Regular]

theorem regular_domainSteps : ∀ s ∈ b.domainSteps g, b.Regular s := by
  rw [domainSteps]
  split <;> simp [Regular]

theorem regular_stageSteps : ∀ s ∈ b.stageSteps g, b.Regular s :=
  regular_flatMap fun _ _ => List.forall_mem_cons.2 ⟨trivial, regular_map_emit⟩

theorem regular_authorizerSteps : ∀ s ∈ b.authorizerSteps g, b.Regular s := by
  refine regular_flatMap fun e _ => regular_orFail (fun fault hfault => ?_) fun pool _ => ?_
  · exact regular_fail_of_kind (by simp [(References.not_mem_users_of_userPool hfault).1])
  · simp [Regular]

theorem regular_integrationSteps : ∀ s ∈ b.integrationSteps g key r, b.Regular s :=
  List.forall_mem_cons.2 ⟨trivial,
    regular_orFail (fun _ hfault => regular_routeKeys hfault) fun _ _ => regular_map_emit⟩

theorem regular_gatewaySteps : ∀ s ∈ b.gatewaySteps, b.Regular s := by
  rw [gatewaySteps]
  split
  · simp [Regular, Step.info]
  · have hroutes := regular_flatMap (b := b) (l := ‹GatewaySpec›.integrations.entries)
      fun e _ => show ∀ s ∈ b.routeSteps e.1 e.2, b.Regular s from regular_routeSteps
    refine regular_append (regular_append (regular_append (regular_append (regular_append
      (regular_append hroutes ?_) regular_domainSteps) regular_stageSteps)
      regular_authorizerSteps) ?_) ?_
    · simp [Regular]
    · exact regular_flatMap fun _ _ => regular_integrationSteps
    · simp [Regular]

theorem regular_storageSteps : ∀ s ∈ b.storageSteps, b.Regular s :=
  regular_append regular_map_emit regular_map_emit

/-- The steps before those of the branches are regular. -/
theorem regular_sharedSteps : ∀ s ∈ b.sharedSteps, b.Regular s := by
  have hone : ∀ s : Step, b.Regular s → ∀ t ∈ [s], b.Regular t := fun s hs => by simpa using hs
  have hmessaging := regular_append (hone (.info s!"Building resource graph of {b.spec.apiName}")
    trivial) (regular_append regular_messagingSteps (hone (.complete .messaging) trivial))
  have hfrontend := regular_append regular_frontendSteps (hone (.complete .frontend) trivial)
  have hgateway := regular_append regular_gatewaySteps (hone (.complete .gateway) trivial)
  have hstorage := regular_append regular_storageSteps (hone (.complete .storage) trivial)
  have hall := regular_append hmessaging (regular_append hfrontend (regular_append hgateway
    hstorage))
  simpa only [sharedSteps, List.append_assoc] using hall

/-! ## Warnings -/

/-- Regular steps give no warning. -/
theorem warningsOf_eq_nil {steps : List Step} (h : ∀ s ∈ steps, b.Regular s) :
    warningsOf steps = [] := by
  refine List.filterMap_eq_nil_iff.2 fun s hs => ?_
  have hregular := h s hs
  cases s with
  | warn text => exact absurd hregular id
  | _ => rfl

/-- The record that ends a build is no warning. -/
theorem warnings_eq_run (b : Blueprint) :
    b.build.1.warnings = (b.start.run b.steps).1.warnings := by
  rw [build]
  split <;> rename_i h <;> rw [h]
  rfl

/-- The warnings of a build without a fault are about the batch jobs of its branches. -/
theorem warnings_build (h : b.build.2 = none) :
    b.build.1.warnings =
      b.spec.branchNames.flatMap fun branch => warningsOf (b.batchSteps branch) := by
  have hbranch (branch : String) :
      warningsOf (b.branchSteps branch) = warningsOf (b.batchSteps branch) := by
    rw [branchSteps, warningsOf_append, warningsOf_eq_nil regular_computeSteps, List.nil_append]
  rw [warnings_eq_run, Progress.warnings_run (run_of_build h), steps_eq_append, warningsOf_append,
    warningsOf_append, warningsOf_eq_nil regular_sharedSteps, warningsOf_flatMap]
  simp only [hbranch]
  simp [start, warningsOf]

end Blueprint

end ServicePlan
