import ServicePlan.Proofs.RootPath

/-!
# Empty blocks

A spec may leave out its topics, front-end apps, buckets and batch jobs, and a topic its functions.
Where such a block is written down but empty instead, a build makes the same, with one exception:
the block of front-end apps asks for the token and the root of the repositories even if there is no
app in it, and ends the build where one of them is missing.

* `Filling`, `ServiceSpec.filled`: blocks that are written as empty ones.
* `Blueprint.demand?`: what an empty block of apps asks for in vain.
* `Blueprint.effective_steps_filled`: the steps where nothing is asked for in vain.
* `Blueprint.build_filled`: what comes of empty blocks.
* `Blueprint.not_forall_build_filled`: an empty block may end a build.
-/

namespace ServicePlan

/-! ## Specs with empty blocks -/

/-- The blocks that are written as empty ones where a spec leaves them out. -/
structure Filling where
  /-- Whether the topics are. -/
  topics : Bool := false
  /-- Whether the front-end apps are. -/
  apps : Bool := false
  /-- Whether the buckets are. -/
  buckets : Bool := false
  /-- Whether the batch jobs are. -/
  jobs : Bool := false
  /-- Whether the functions of the topic with a key are. -/
  functions : String → Bool := fun _ => false

/-- A block that is written as an empty one if it is absent. -/
def Filling.block {α : Type} (fill : Bool) (block : Option (Table α)) : Option (Table α) :=
  if fill then some (block.getD ∅) else block

@[simp] theorem Filling.block_some {α : Type} (fill : Bool) (t : Table α) :
    block fill (some t) = some t := by
  cases fill <;> rfl

@[simp] theorem Filling.getD_block {α : Type} (fill : Bool) (block : Option (Table α)) :
    (Filling.block fill block).getD ∅ = block.getD ∅ := by
  cases fill <;> rfl

/-- A topic whose functions are written as an empty block if they are absent. -/
def TopicSpec.filled (fill : Bool) (t : TopicSpec) : TopicSpec :=
  { t with functions := Filling.block fill t.functions }

/-- A spec with empty blocks. -/
def ServiceSpec.filled (c : Filling) (s : ServiceSpec) : ServiceSpec :=
  { s with
    topics := Filling.block c.topics
      (s.topics.map fun topics => topics.map fun key t => t.filled (c.functions key))
    apps := Filling.block c.apps s.apps
    buckets := Filling.block c.buckets s.buckets
    jobs := Filling.block c.jobs s.jobs }

/-- What stands behind a fault is not made. -/
theorem Progress.run_append_of_fault {p : Progress} {first second : List Step} {f : Fault}
    (h : (p.run first).2 = some f) : p.run (first ++ second) = p.run first := by
  rw [run_append]
  generalize p.run first = x at h ⊢
  obtain ⟨q, fault⟩ := x
  obtain rfl : fault = some f := h
  rfl

namespace Blueprint

variable (b : Blueprint) (c : Filling)

/-- The same inputs, where the spec has empty blocks. -/
def filled (b : Blueprint) (c : Filling) : Blueprint := { b with spec := b.spec.filled c }

/-- What is missing for a block of apps, whatever apps are in it. -/
def missing? (b : Blueprint) : Option Fault :=
  match b.token, b.spec.repositoryRoot with
  | none, _ => some .noRepositoryToken
  | some _, none => some .noRepositoryRoot
  | some _, some _ => none

/-- What is missing for a block of apps that is written as an empty one. -/
def demand? (b : Blueprint) (c : Filling) : Option Fault :=
  if c.apps && b.spec.apps.isNone then b.missing? else none

/-! ## Phases -/

theorem functionsSteps_empty (w : Wiring) : b.functionsSteps w ∅ = [] := rfl

theorem topicSteps_filled (key : String) (t : TopicSpec) (fill : Bool) :
    (b.filled c).topicSteps key (t.filled fill) = b.topicSteps key t := by
  obtain ⟨description, functions⟩ := t
  rw [topicSteps, topicSteps, TopicSpec.filled]
  cases functions with
  | some functions => rw [Filling.block_some]; rfl
  | none =>
    cases fill with
    | false => rfl
    | true =>
      -- no function comes with no steps
      simp only [Filling.block, if_true, Option.getD_none, functionsSteps_empty]
      rfl

/-- Topics that are left out are noted, and no topic comes with no steps. -/
theorem effective_messagingSteps_filled :
    effective (b.filled c).messagingSteps = effective b.messagingSteps := by
  have htopics : (b.filled c).spec.topics = Filling.block c.topics
    (b.spec.topics.map fun topics => topics.map fun key t => t.filled (c.functions key)) := rfl
  rw [messagingSteps, messagingSteps, htopics]
  cases b.spec.topics with
  | some topics =>
    simp only [Option.map_some, Filling.block_some, Table.map, List.flatMap_map,
      topicSteps_filled]
  | none => cases c.topics <;> rfl

/-- A block without apps asks for the token and the root, and makes nothing else. -/
theorem frontendSteps_of_empty (h : b.spec.apps = some ∅) :
    b.frontendSteps = (b.missing?.map Step.fail).toList := by
  rw [frontendSteps, missing?, h]
  cases b.token <;> cases b.spec.repositoryRoot <;> rfl

theorem apps_filled : (b.filled c).spec.apps = Filling.block c.apps b.spec.apps := rfl

theorem missing?_filled : (b.filled c).missing? = b.missing? := rfl

/-- The apps are the same where the empty block asks for nothing in vain. -/
theorem effective_frontendSteps_filled (h : b.demand? c = none) :
    effective (b.filled c).frontendSteps = effective b.frontendSteps := by
  cases happs : b.spec.apps with
  | some apps =>
    have hfilled : (b.filled c).spec.apps = some apps := by
      rw [apps_filled, happs, Filling.block_some]
    rw [frontendSteps, frontendSteps, hfilled, happs]
    rfl
  | none =>
    rw [demand?, happs] at h
    have hskip : effective b.frontendSteps = [] := by
      rw [frontendSteps, happs]
      rfl
    rw [hskip]
    cases hfill : c.apps with
    | false =>
      rw [frontendSteps, apps_filled, happs, hfill]
      rfl
    | true =>
      have hmissing : b.missing? = none := by simpa [hfill] using h
      have hempty : (b.filled c).spec.apps = some ∅ := by
        rw [apps_filled, happs, hfill]
        rfl
      rw [frontendSteps_of_empty _ hempty, missing?_filled, hmissing]
      rfl

/-- An empty block that asks for something in vain ends the build. -/
theorem frontendSteps_filled_of_demand {f : Fault} (h : b.demand? c = some f) :
    (b.filled c).frontendSteps = [.fail f] := by
  obtain ⟨hwritten, hmissing⟩ := Option.ite_none_right_eq_some.1 h
  obtain ⟨hfill, hnone⟩ := Bool.and_eq_true_iff.1 hwritten
  have hempty : (b.filled c).spec.apps = some ∅ := by
    rw [apps_filled, hfill, Option.isNone_iff_eq_none.1 hnone]
    rfl
  rw [frontendSteps_of_empty _ hempty, missing?_filled, hmissing]
  rfl

theorem storageSteps_filled : (b.filled c).storageSteps = b.storageSteps := by
  have hbuckets : (b.filled c).spec.buckets.getD ∅ = b.spec.buckets.getD ∅ :=
    Filling.getD_block ..
  have hjobs : (b.filled c).spec.jobs.getD ∅ = b.spec.jobs.getD ∅ := Filling.getD_block ..
  rw [storageSteps, storageSteps, hbuckets, hjobs]
  rfl

theorem branchSteps_filled (branch : String) :
    (b.filled c).branchSteps branch = b.branchSteps branch := by
  have hjobs : (b.filled c).spec.jobs.getD ∅ = b.spec.jobs.getD ∅ := Filling.getD_block ..
  have hbatch : (b.filled c).batchSteps branch = b.batchSteps branch := by
    rw [batchSteps, batchSteps, hjobs]
    rfl
  rw [branchSteps, branchSteps, hbatch]
  rfl

/-! ## Builds -/

/-- Where nothing is asked for in vain, the steps are the same but for records. -/
theorem effective_steps_filled (h : b.demand? c = none) :
    effective (b.filled c).steps = effective b.steps := by
  have hgateway : (b.filled c).gatewaySteps = b.gatewaySteps := rfl
  have hbranches : (b.filled c).spec.branchNames = b.spec.branchNames := rfl
  have hname : (b.filled c).spec.apiName = b.spec.apiName := rfl
  simp only [steps, effective_append, effective_flatMap, effective_messagingSteps_filled,
    effective_frontendSteps_filled b c h, hgateway, storageSteps_filled, branchSteps_filled,
    hbranches, hname]

/-- What comes of a build whose block of apps is empty and asks for something in vain. -/
def stopped (b : Blueprint) (f : Fault) : Progress × Option Fault :=
  b.start.run (b.messagingSteps ++ [.complete .messaging, .fail f])

/-- What comes of a build with empty blocks. -/
def settled (b : Blueprint) (c : Filling) : Progress × Option Fault :=
  match b.demand? c with
  | none => b.build
  | some f => b.stopped f

/-- A build that is stopped ends with the fault of a topic, if there is one, and otherwise with the
one that it is stopped for. -/
theorem snd_stopped (f : Fault) :
    (b.stopped f).2 = some ((b.start.run b.messagingSteps).2.getD f) := by
  rw [stopped, Progress.run_append]
  generalize b.start.run b.messagingSteps = x
  obtain ⟨p, fault⟩ := x
  cases fault <;> rfl

/-- A build with empty blocks that ask for something in vain makes what the topics make. -/
theorem build_filled_of_demand {f : Fault} (h : b.demand? c = some f) :
    (b.filled c).build.2 = (b.stopped f).2 ∧
      (b.filled c).build.1.unlogged = (b.stopped f).1.unlogged := by
  obtain ⟨opening, rest, hsteps⟩ : ∃ opening rest, (b.filled c).steps =
      [.info opening] ++ ((b.filled c).messagingSteps ++
        ([.complete .messaging] ++ ([.fail f] ++ rest))) := by
    simp only [steps, List.append_assoc, frontendSteps_filled_of_demand b c h]
    exact ⟨_, _, rfl⟩
  have heffective : effective (b.filled c).steps =
      effective (b.messagingSteps ++ [.complete .messaging, .fail f] ++ rest) := by
    simp only [hsteps, effective_append, effective_messagingSteps_filled, List.append_assoc]
    rfl
  have hstop : b.start.run (b.messagingSteps ++ [.complete .messaging, .fail f] ++ rest) =
      b.stopped f := Progress.run_append_of_fault (snd_stopped b f)
  have hstart : (b.filled c).start = b.start := rfl
  obtain ⟨hbuild, hbuildfault⟩ := (b.filled c).unlogged_build
  obtain ⟨hmade, hfault⟩ := Progress.run_congr (congrArg Progress.unlogged hstart) heffective
  rw [hstop] at hmade hfault
  exact ⟨hbuildfault.trans hfault, hbuild.trans hmade⟩

/-- **Empty blocks.**  A build of a spec whose absent blocks are written as empty ones ends as the
build of the spec does and makes the same plan, registry and warnings, unless the block of apps is
among them and the token or the root is missing; then it ends behind the topics. -/
theorem build_filled :
    (b.filled c).build.2 = (b.settled c).2 ∧
    (b.filled c).build.1.plan = (b.settled c).1.plan ∧
    (b.filled c).build.1.registry = (b.settled c).1.registry ∧
    (b.filled c).build.1.warnings = (b.settled c).1.warnings := by
  have hmade : (b.filled c).build.2 = (b.settled c).2 ∧
      (b.filled c).build.1.unlogged = (b.settled c).1.unlogged := by
    rw [settled]
    cases h : b.demand? c with
    | none => exact ends_unlogged rfl (effective_steps_filled b c h)
    | some f => exact build_filled_of_demand b c h
  exact ⟨hmade.1, Progress.unlogged_eq_iff.1 hmade.2⟩

/-- A service of one function, without apps and with no token for repositories. -/
def stall : Blueprint where
  spec := {
    serviceName := "shop"
    apiName := "shop-api"
    branches := .ofList [("main", {})]
    handler := "index.handler"
    functions := .ofList [("cart", {})] }
  site := ⟨"123456789012", "us-east-1"⟩
  references := .empty
  files := fun _ => .error (.other "no such file")

set_option maxRecDepth 10000 in
/-- An empty block of apps may end a build that goes through without the block. -/
theorem not_forall_build_filled :
    ¬ ∀ (b : Blueprint) (c : Filling), (b.filled c).build.2 = b.build.2 := by
  intro h
  have hstall : (stall.filled { apps := true }).build.2 = stall.build.2 := h ..
  have hnone : stall.build.2 = none := by rfl
  have hsome : (stall.filled { apps := true }).build.2 = some .noRepositoryToken := by rfl
  rw [hnone, hsome] at hstall
  cases hstall

end Blueprint

end ServicePlan
