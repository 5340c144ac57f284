import Mathlib.Data.List.Basic
import ServicePlan.Proofs.Entries
import ServicePlan.Proofs.Registry

/-!
# The journal of a build

The registry sees to it that nothing is read too early and nothing is written twice.  What it does
not see to is that a phase writes all that it should, and nothing after it is complete.  This shows
in the journal once the reads are left out: what remains of it is known from the spec alone.

* `milestones`: what steps have the registry note, apart from reads.
* `Blueprint.registryKeys`: the keys that a spec stands for.
* `Blueprint.milestones_steps`: the milestones of a build.
* `Blueprint.KeepsJournal`, `Blueprint.keepsJournal_of_build`: what comes of a build without a
  fault.
-/

namespace ServicePlan

open Registry (Event Key)

/-! ## Milestones -/

/-- Whether an event is a read. -/
def Registry.Event.isRead : Event → Bool
  | .read _ => true
  | .written _ | .completed _ => false

/-- What a step has the registry note, unless it reads. -/
@[simp] def Step.milestone? : Step → Option Event
  | .register key _ => some (.written key)
  | .complete phase => some (.completed phase)
  | .note _ | .warn _ | .emit _ | .require _ _ | .fail _ => none

/-- What steps have the registry note, apart from reads. -/
def milestones (steps : List Step) : List Event := steps.filterMap Step.milestone?

section Milestones

variable {α : Type} {first second : List Step}

/-- The milestones of a journal are all that it notes but the reads. -/
theorem filter_recorded (steps : List Step) :
    ((recorded steps).filter fun e => !e.isRead) = milestones steps := by
  rw [recorded, milestones, List.filter_filterMap]
  congr 1
  funext s
  cases s <;> rfl

/-- What does not look at reads finds the same in a journal and in its milestones. -/
theorem filterMap_recorded (steps : List Step) {look : Event → Option α}
    (hlook : ∀ key, look (.read key) = none) :
    (recorded steps).filterMap look = (milestones steps).filterMap look := by
  rw [recorded, milestones, List.filterMap_filterMap, List.filterMap_filterMap]
  congr 1
  funext s
  cases s with
  | require key requestedBy => exact hlook key
  | note record => rfl
  | warn text => rfl
  | emit i => rfl
  | register key handle => rfl
  | complete phase => rfl
  | fail f => rfl

@[simp] theorem milestones_nil : milestones [] = [] := rfl

@[simp] theorem milestones_cons (s : Step) (rest : List Step) :
    milestones (s :: rest) = s.milestone?.toList ++ milestones rest := by
  cases s <;> rfl

@[simp] theorem milestones_append :
    milestones (first ++ second) = milestones first ++ milestones second := by
  simp [milestones]

@[simp] theorem milestones_flatMap {l : List α} {g : α → List Step} :
    milestones (l.flatMap g) = l.flatMap fun a => milestones (g a) := by
  simp [milestones, List.filterMap_flatMap]

@[simp] theorem milestones_map_emit {l : List α} {g : α → Intent} :
    milestones (l.map fun a => .emit (g a)) = [] := by
  simp [milestones, List.filterMap_map, Function.comp_def]

/-- The end of a build is no milestone. -/
theorem milestones_orFail {r : Except Fault α} {next : α → List Step}
    (h : ∀ a, milestones (next a) = []) : milestones (Step.orFail r next) = [] := by
  cases r with
  | ok a => exact h a
  | error f => simp [Step.orFail]

theorem milestones_flatMap_eq_nil {l : List α} {g : α → List Step}
    (h : ∀ a ∈ l, milestones (g a) = []) : milestones (l.flatMap g) = [] := by
  rw [milestones_flatMap]
  exact List.flatMap_eq_nil_iff.2 h

end Milestones

namespace Blueprint

variable {b : Blueprint} {w : Wiring} {branch key topic app : String} {f : FunctionSpec}
  {t : TopicSpec} {a : AppSpec} {g : GatewaySpec} {functions : Table FunctionSpec}

/-! ## Keys of a spec -/

/-- The keys of the topics and of the functions that they feed. -/
def topicKeys (b : Blueprint) : List Key :=
  b.spec.topicTable.entries.flatMap fun e =>
    (e.2.functionTable.keys.map fun key => ⟨.function, none, key⟩) ++ [topicKey e.1]

/-- The keys of the login clients, one for each app whose users log in. -/
def loginKeys (b : Blueprint) : List Key :=
  b.spec.appTable.entries.filterMap fun e => e.2.user.map fun _ => clientKey e.1

/-- The key of the api, if there is one. -/
def gatewayKeys (b : Blueprint) : List Key := b.spec.gateway.toList.map fun _ => b.apiKey

/-- The keys of the functions of all branches. -/
def functionKeys (b : Blueprint) : List Key :=
  b.spec.branchNames.flatMap fun branch =>
    b.spec.functions.keys.map fun key => ⟨.function, some branch, key⟩

/-- The keys that a spec stands for, phase by phase. -/
def registryKeys (b : Blueprint) : List Key :=
  b.topicKeys ++ b.loginKeys ++ b.gatewayKeys ++ b.functionKeys

theorem kind_of_mem_loginKeys {k : Key} (hk : k ∈ b.loginKeys) : k.kind = .authClient := by
  simp only [loginKeys, List.mem_filterMap, Option.map_eq_some_iff] at hk
  obtain ⟨e, -, user, -, rfl⟩ := hk
  rfl

theorem kind_of_mem_gatewayKeys {k : Key} (hk : k ∈ b.gatewayKeys) : k.kind = .gateway := by
  obtain ⟨g, -, rfl⟩ := List.mem_map.1 hk
  rfl

theorem kind_of_mem_functionKeys {k : Key} (hk : k ∈ b.functionKeys) : k.kind = .function := by
  obtain ⟨branch, -, hk⟩ := List.mem_flatMap.1 hk
  obtain ⟨key, -, rfl⟩ := List.mem_map.1 hk
  rfl

/-! ## Functions -/

theorem milestones_testSteps : milestones (b.testSteps w key f) = [] := by
  simp only [testSteps]
  split
  · rfl
  · split <;> simp

theorem milestones_apiSteps : milestones (b.apiSteps w key) = [] := by
  rw [apiSteps]
  split <;> simp

theorem milestones_senderSteps : milestones (b.senderSteps w key) = [] := by
  rw [senderSteps]
  split <;> simp

theorem milestones_queueSteps : milestones (b.queueSteps w key f) = [] :=
  milestones_orFail fun timeout? => by cases timeout? <;> simp

/-- A function is written at the end of its steps. -/
theorem milestones_functionSteps (h : Clean (b.functionSteps w key f)) :
    milestones (b.functionSteps w key f) = [.written (w.functionKey key)] := by
  obtain ⟨runtime, -, hsteps⟩ := h.exists_eq_ok
  rw [functionSteps, hsteps] at h ⊢
  obtain ⟨layers, -, hsteps⟩ := h.exists_eq_ok
  rw [hsteps]
  simp [milestones_testSteps, milestones_apiSteps, milestones_senderSteps, milestones_queueSteps]

/-- The functions of a table are written in the order of their keys. -/
theorem milestones_functionsSteps (h : Clean (b.functionsSteps w functions)) :
    milestones (b.functionsSteps w functions) =
      (functions.keys.map w.functionKey).map .written := by
  obtain ⟨_, -, hsteps⟩ := h.exists_eq_ok
  rw [functionsSteps, hsteps] at h ⊢
  rw [milestones_flatMap, Table.keys, List.map_map, List.map_map, List.map_eq_flatMap]
  exact List.flatMap_congr fun e he => milestones_functionSteps (clean_flatMap.1 h e he)

/-- So are the functions of a branch. -/
theorem milestones_computeSteps (h : Clean (b.computeSteps branch)) :
    milestones (b.computeSteps branch) =
      (b.spec.functions.keys.map fun key => Key.mk .function (some branch) key).map .written := by
  rw [computeSteps] at h ⊢
  split at h
  · rename_i hempty
    rw [if_pos hempty, Table.keys, List.isEmpty_iff.1 hempty]
    simp [Step.info]
  · rename_i hfull
    have hfunctions := h.subset (List.subset_cons_self ..)
    rw [if_neg hfull, milestones_cons, milestones_functionsSteps hfunctions]
    rfl

/-! ## Topics -/

/-- The functions that a topic feeds are written before the topic. -/
theorem milestones_topicSteps (h : Clean (b.topicSteps topic t)) :
    milestones (b.topicSteps topic t) =
      ((t.functionTable.keys.map fun key => Key.mk .function none key) ++ [topicKey topic]).map
        .written := by
  rw [topicSteps_eq, clean_append, clean_append, clean_flatMap] at h
  rw [topicSteps_eq, TopicSpec.functionTable]
  cases hf : t.functions with
  | none => simp [Table.keys]
  | some functions =>
    have hfunctions := h.1.2 functions (by simp [hf])
    rw [milestones_append, milestones_append, Option.toList_some, List.flatMap_singleton,
      milestones_functionsSteps hfunctions]
    simp [topicWiring, Wiring.functionKey]

theorem milestones_messagingSteps (h : Clean b.messagingSteps) :
    milestones b.messagingSteps = b.topicKeys.map .written := by
  rw [messagingSteps] at h ⊢
  rw [topicKeys, ServiceSpec.topicTable]
  cases htopics : b.spec.topics with
  | none => simp [Step.info]
  | some topics =>
    rw [htopics, clean_flatMap] at h
    rw [milestones_flatMap, List.map_flatMap]
    exact List.flatMap_congr fun e he => milestones_topicSteps (h e he)

/-! ## Front-end apps -/

theorem milestones_identitySteps {pool : UserPool} : milestones (b.identitySteps app a pool) = [] :=
  milestones_flatMap_eq_nil fun _ _ => milestones_orFail fun _ => by simp

/-- The login client of an app is written if its users log in. -/
theorem milestones_loginSteps (h : Clean (b.loginSteps app a)) :
    milestones (b.loginSteps app a) =
      (a.user.map fun _ => Event.written (clientKey app)).toList := by
  rw [loginSteps] at h ⊢
  cases huser : a.user with
  | none => rfl
  | some user =>
    rw [huser] at h
    obtain ⟨pool, -, hsteps⟩ := h.exists_eq_ok
    simp only [hsteps]
    split <;> simp [milestones_identitySteps]

/-- The other steps for an app have no milestones. -/
theorem milestones_appSteps {repositoryRoot token : String} :
    milestones (b.appSteps app a repositoryRoot token) = [] := by
  have hbranches : milestones ((b.appBranches app).map .emit) = [] := milestones_map_emit
  simp [appSteps, hbranches]

theorem milestones_deploymentSteps : milestones (b.deploymentSteps app a) = [] := by
  rw [deploymentSteps]
  split <;> simp

theorem milestones_frontendSteps (h : Clean b.frontendSteps) :
    milestones b.frontendSteps = b.loginKeys.map .written := by
  rw [frontendSteps] at h ⊢
  rw [loginKeys, ServiceSpec.appTable]
  cases happs : b.spec.apps with
  | none => simp [Step.info]
  | some apps =>
    rw [happs] at h
    cases htoken : b.token with
    | none =>
      rw [htoken] at h
      exact absurd (List.mem_singleton_self _) (h _)
    | some token =>
      cases hroot : b.spec.repositoryRoot with
      | none =>
        rw [htoken, hroot] at h
        exact absurd (List.mem_singleton_self _) (h _)
      | some repositoryRoot =>
        rw [htoken, hroot, clean_flatMap] at h
        rw [milestones_flatMap, List.map_filterMap, List.filterMap_eq_flatMap_toList]
        refine List.flatMap_congr fun e he => ?_
        have hlogin : Clean (b.loginSteps e.1 e.2) := (h e he).subset fun s hs => by simp [hs]
        simp [milestones_appSteps, milestones_loginSteps hlogin, milestones_deploymentSteps,
          Function.comp_def]

/-! ## The api -/

theorem milestones_routeSteps {r : RouteSpec} : milestones (b.routeSteps key r) = [] := by
  rw [routeSteps]
  split
  · refine milestones_orFail fun routes => ?_
    rw [routeNotes]
    split <;> simp [Step.info]
  · simp

theorem milestones_domainSteps : milestones (b.domainSteps g) = [] := by
  rw [domainSteps]
  split <;> simp

theorem milestones_stageSteps : milestones (b.stageSteps g) = [] :=
  milestones_flatMap_eq_nil fun _ _ => by simp

/-- Authorizers read the login clients of their apps. -/
theorem milestones_authorizerSteps : milestones (b.authorizerSteps g) = [] :=
  milestones_flatMap_eq_nil fun _ _ => milestones_orFail fun _ => by simp

theorem milestones_integrationSteps {r : RouteSpec} :
    milestones (b.integrationSteps g key r) = [] := by
  rw [integrationSteps, milestones_cons, milestones_orFail fun routes => by simp]
  rfl

/-- The api is written at the end of its steps. -/
theorem milestones_gatewaySteps (b : Blueprint) :
    milestones b.gatewaySteps = b.gatewayKeys.map .written := by
  rw [gatewaySteps, gatewayKeys]
  cases b.spec.gateway with
  | none => simp [Step.info]
  | some g =>
    have hroutes : milestones (g.integrations.entries.flatMap fun e => b.routeSteps e.1 e.2) = [] :=
      milestones_flatMap_eq_nil fun _ _ => milestones_routeSteps
    have hintegrations :
        milestones (g.integrations.entries.flatMap fun e => b.integrationSteps g e.1 e.2) = [] :=
      milestones_flatMap_eq_nil fun _ _ => milestones_integrationSteps
    simp only [milestones_append, hroutes, milestones_domainSteps, milestones_stageSteps,
      milestones_authorizerSteps, hintegrations]
    rfl

/-! ## Storage and batch jobs -/

theorem milestones_storageSteps : milestones b.storageSteps = [] := by
  simp [storageSteps]

theorem milestones_batchSteps : milestones (b.batchSteps branch) = [] := by
  rw [batchSteps]
  split
  · rfl
  · split
    · simp
    · rw [milestones_cons, milestones_flatMap_eq_nil fun e _ => ?_]
      · rfl
      · rw [jobSteps, milestones_cons]
        split
        · simp
        · exact milestones_map_emit

/-! ## Whole builds -/

/-- The milestones of a build: each phase writes its keys and is complete, but for the last two,
which are complete together behind all branches. -/
theorem milestones_steps (h : Clean b.steps) :
    milestones b.steps =
      b.topicKeys.map Event.written ++ [Event.completed .messaging] ++
      b.loginKeys.map Event.written ++ [Event.completed .frontend] ++
      b.gatewayKeys.map Event.written ++ [Event.completed .gateway, Event.completed .storage] ++
      b.functionKeys.map Event.written ++ [Event.completed .compute, Event.completed .batch] := by
  have hbranches : milestones (b.spec.branchNames.flatMap b.branchSteps) =
      b.functionKeys.map .written := by
    rw [milestones_flatMap, functionKeys, List.map_flatMap]
    refine List.flatMap_congr fun branch hbranch => ?_
    rw [branchSteps, milestones_append, milestones_computeSteps (clean_computeSteps h hbranch),
      milestones_batchSteps, List.append_nil]
  have hmessaging := milestones_messagingSteps (h.subset b.messagingSteps_subset)
  have hfrontend := milestones_frontendSteps (h.subset b.frontendSteps_subset)
  simp [steps, Step.info, hmessaging, hfrontend, milestones_gatewaySteps, milestones_storageSteps,
    hbranches]

/-- The keys that a phase owns are not written once the phase is complete, because all later phases
write keys of other kinds. -/
theorem exists_milestones_completed (h : Clean b.steps) {k : Key} {owner : Phase}
    (howner : k.kind.owner? = some owner) :
    ∃ before after, milestones b.steps = before ++ .completed owner :: after ∧
      .written k ∉ after := by
  rw [milestones_steps h]
  obtain ⟨kind, branch, key⟩ := k
  cases kind <;> cases howner
  case topic.refl =>
    have hlogin : ⟨.topic, branch, key⟩ ∉ b.loginKeys := fun hk => nomatch kind_of_mem_loginKeys hk
    have hgateway : ⟨.topic, branch, key⟩ ∉ b.gatewayKeys := fun hk =>
      nomatch kind_of_mem_gatewayKeys hk
    have hfunction : ⟨.topic, branch, key⟩ ∉ b.functionKeys := fun hk =>
      nomatch kind_of_mem_functionKeys hk
    refine ⟨b.topicKeys.map Event.written, _, by simp only [List.append_assoc]; rfl, ?_⟩
    simp [hlogin, hgateway, hfunction]
  case authClient.refl =>
    have hgateway : ⟨.authClient, branch, key⟩ ∉ b.gatewayKeys := fun hk =>
      nomatch kind_of_mem_gatewayKeys hk
    have hfunction : ⟨.authClient, branch, key⟩ ∉ b.functionKeys := fun hk =>
      nomatch kind_of_mem_functionKeys hk
    refine ⟨b.topicKeys.map Event.written ++ [Event.completed .messaging] ++
      b.loginKeys.map Event.written, _, by simp only [List.append_assoc]; rfl, ?_⟩
    simp [hgateway, hfunction]
  case gateway.refl =>
    have hfunction : ⟨.gateway, branch, key⟩ ∉ b.functionKeys := fun hk =>
      nomatch kind_of_mem_functionKeys hk
    refine ⟨b.topicKeys.map Event.written ++ [Event.completed .messaging] ++
      b.loginKeys.map Event.written ++ [Event.completed .frontend] ++
      b.gatewayKeys.map Event.written, _, by simp only [List.append_assoc]; rfl, ?_⟩
    simp [hfunction]

variable (b) in
/-- What the journal of a build has to say. -/
structure KeepsJournal (journal : List Event) : Prop where
  /-- Each phase is completed once, in the order of the phases. -/
  phases : journal.filterMap Event.completed? =
    [.messaging, .frontend, .gateway, .storage, .compute, .batch]
  /-- The keys that are written are those that the spec stands for. -/
  written : journal.filterMap Event.written? = b.registryKeys
  /-- No key is written twice. -/
  once : (journal.filterMap Event.written?).Nodup
  /-- A key is read after it was written, and after the phase that owns it was completed; topics,
  login clients and the api are owned by a phase. -/
  reads : ∀ before k after, journal = before ++ .read k :: after →
    .written k ∈ before ∧ ∀ owner, k.kind.owner? = some owner → .completed owner ∈ before
  /-- A key is written before the phase that owns it is completed. -/
  writes : ∀ before k after, journal = before ++ .written k :: after →
    ∀ owner, k.kind.owner? = some owner → .completed owner ∈ after

/-- The record that ends a build is no matter of the registry. -/
theorem registry_build (b : Blueprint) : b.build.1.registry = (b.start.run b.steps).1.registry := by
  rw [build]
  split <;> rename_i h <;> rw [h]
  rfl

/-- What the registry has noted after a build without a fault is what the steps have it note. -/
theorem journal_build (h : b.build.2 = none) : b.build.1.registry.journal = recorded b.steps := by
  rw [registry_build, Progress.journal_run (run_of_build h)]
  rfl

theorem consistent_build (h : b.build.2 = none) : b.build.1.registry.Consistent := by
  rw [registry_build]
  exact Progress.consistent_run Registry.consistent_empty (run_of_build h)

/-- **The registry is used as it should be.**  If a spec is built without a fault, the journal has
the phases completed once each and in order.  Every key that the spec stands for is written once,
and no other key is.  A key is read only after it was written.  A topic, a login client or an api is
written before the phase that it belongs to is complete, and read after it. -/
theorem keepsJournal_of_build (h : b.build.2 = none) :
    b.KeepsJournal b.build.1.registry.journal := by
  have hconsistent := consistent_build h
  have hclean := clean_of_build h
  constructor
  case phases =>
    rw [journal_build h, filterMap_recorded _ fun _ => rfl, milestones_steps hclean]
    simp [List.filterMap_map, Function.comp_def]
  case written =>
    rw [journal_build h, filterMap_recorded _ fun _ => rfl, milestones_steps hclean]
    simp [registryKeys, List.filterMap_cons, List.filterMap_map, Function.comp_def]
  case once =>
    rw [hconsistent.written]
    exact hconsistent.once
  case reads => exact hconsistent.follows
  case writes =>
    intro before k after hsplit owner howner
    obtain ⟨first, second, hmilestones, hnot⟩ := exists_milestones_completed hclean howner
    -- without the reads, the write is in front of the completion, since it is not behind it
    have hfilter := filter_recorded b.steps
    rw [← journal_build h, hsplit, List.filter_append, hmilestones] at hfilter
    have hafter : .completed owner ∈ after.filter fun e => !e.isRead :=
      mem_of_append_cons_eq hfilter (by simp) hnot
    exact List.mem_of_mem_filter hafter

/-- The journal of the service with two branches. -/
theorem keepsJournal_market : market.KeepsJournal market.build.1.registry.journal :=
  keepsJournal_of_build build_market

end Blueprint

end ServicePlan
