import ServicePlan.Proofs.Layout
import ServicePlan.Proofs.Limits
import ServicePlan.Proofs.QueueChain

/-!
# The wiring of queues

A function that has a queue comes with three intents: the queue that feeds it, a second one for the
messages that it fails to handle, and the trigger between the first queue and the function.  A
function that sends its messages on gets the name of the next queue in its environment, and nothing
else is said about that queue: neither is it among what the function depends on, nor need it be in
the plan by then.  That it comes, for the function that is meant, follows from the check of the
chains and from the names.

* `Blueprint.BuildsTable`: the tables of functions that are built, with the wiring of each.
* `Blueprint.Builds.inj`: functions are told apart by their names.
* `Plan.FeedsByQueue`, `Plan.FeedsByNone`: a function with a queue in a plan, and one without.
* `Plan.SendsOn`: a function sends its messages to the queue of another one.
* `Blueprint.wiresQueues_build`: all queues and triggers of a plan.
-/

namespace ServicePlan

/-! ## What a plan says about queues -/

namespace Intent

/-- A queue of a name. -/
structure IsQueue (i : Intent) (name : String) : Prop where
  category : i.category = .queue
  physicalName : i.physicalName = name
  queueName : i.text? "queue_name" = some name

/-- A trigger for a function. -/
structure IsTriggerOf (i : Intent) (function : Handle) : Prop where
  category : i.category = .eventSourceMapping
  target : i.text? "function_name" = some function.ref

/-- Where a queue leaves the messages that cannot be handled. -/
def deadLetters? (i : Intent) : Option String :=
  ((i.attributes.member? "dead_letter_queue").bind (·.member? "target_arn")).bind Json.string?

/-- A variable in the environment of a function. -/
def environment? (i : Intent) (name : String) : Option Json :=
  (i.attributes.member? "environment").bind (·.member? name)

end Intent

namespace Plan

/-- A function is fed from one queue, by one trigger, and what it fails to handle goes to one other
queue. -/
structure FeedsByQueue (p : Plan) (waiting dead : String) (function : Handle) : Prop where
  /-- There is the queue that feeds the function. -/
  listsWaiting : p.ListsOne (·.IsQueue waiting)
  /-- There is the queue for what the function fails to handle. -/
  listsDead : p.ListsOne (·.IsQueue dead)
  /-- There is the trigger. -/
  listsTrigger : p.ListsOne (·.IsTriggerOf function)
  /-- The first queue leaves to the second one what the function fails to handle. -/
  deadLetters : ∀ i ∈ p.intents, i.IsQueue waiting → ∀ j ∈ p.intents, j.IsQueue dead →
    i.deadLetters? = some j.handle.arn
  /-- The trigger takes its messages from the first queue. -/
  source : ∀ t ∈ p.intents, t.IsTriggerOf function → ∀ i ∈ p.intents, i.IsQueue waiting →
    t.text? "event_source_arn" = some i.handle.arn

/-- A function has no queues and no trigger. -/
structure FeedsByNone (p : Plan) (waiting dead : String) (function : Handle) : Prop where
  /-- No queue has the name of one of its queues. -/
  noQueue : ∀ i ∈ p.intents, i.category = .queue →
    i.physicalName ≠ waiting ∧ i.physicalName ≠ dead
  /-- No trigger is for the function. -/
  noTrigger : ∀ i ∈ p.intents, ¬ i.IsTriggerOf function

/-- A function knows the name of a queue, from which a trigger feeds another function. -/
def SendsOn (p : Plan) (function : Intent) (next : Handle) : Prop :=
  ∃ queue ∈ p.intents, ∃ trigger ∈ p.intents, ∃ target ∈ p.intents, ∃ name,
    function.environment? "NextSQS" = some (.string name) ∧ queue.IsQueue name ∧
      target.handle = next ∧ trigger.Triggers queue target

end Plan

namespace Blueprint

variable {b : Blueprint} {w : Wiring} {key : String} {f : FunctionSpec} {i : Intent}

/-! ## The tables of functions -/

/-- The tables of functions that a build makes the steps for: that of the spec for each branch, and
that of each topic. -/
def BuildsTable (b : Blueprint) (w : Wiring) (functions : Table FunctionSpec) : Prop :=
  (∃ branch ∈ b.spec.branchNames, w = branchWiring branch ∧ functions = b.spec.functions) ∨
    ∃ e ∈ b.spec.topicTable.entries, w = b.topicWiring e.1 ∧ functions = e.2.functionTable

theorem builds_iff_exists_table :
    b.Builds w key f ↔ ∃ functions, b.BuildsTable w functions ∧ (key, f) ∈ functions.entries := by
  constructor
  · rintro (⟨branch, hbranch, hw, hf⟩ | ⟨e, he, hw, hf⟩)
    · exact ⟨_, .inl ⟨branch, hbranch, hw, rfl⟩, hf⟩
    · exact ⟨_, .inr ⟨e, he, hw, rfl⟩, hf⟩
  · rintro ⟨_, ⟨branch, hbranch, hw, rfl⟩ | ⟨e, he, hw, rfl⟩, hf⟩
    · exact .inl ⟨branch, hbranch, hw, hf⟩
    · exact .inr ⟨e, he, hw, hf⟩

/-- All functions that are built. -/
def built (b : Blueprint) : List (Wiring × String × FunctionSpec) :=
  (b.spec.topicTable.entries.flatMap fun e =>
    e.2.functionTable.entries.map fun g => (b.topicWiring e.1, g)) ++
  b.spec.branchNames.flatMap fun branch =>
    b.spec.functions.entries.map fun g => (branchWiring branch, g)

theorem Builds.mem_built (h : b.Builds w key f) : (w, key, f) ∈ b.built := by
  obtain ⟨branch, hbranch, rfl, hf⟩ | ⟨e, he, rfl, hf⟩ := h
  · exact List.mem_append_right _
      (List.mem_flatMap.2 ⟨branch, hbranch, List.mem_map_of_mem hf⟩)
  · exact List.mem_append_left _ (List.mem_flatMap.2 ⟨e, he, List.mem_map_of_mem hf⟩)

theorem functionNames_built :
    (b.built.map fun g => b.functionName g.1 g.2.1) =
      b.topicFunctionNames ++ b.branchFunctionNames := by
  simp only [built, topicFunctionNames, branchFunctionNames, List.map_append, List.map_flatMap,
    List.map_map, Table.keys]
  rfl

section Plan

variable (hbuild : b.build.2 = none)
include hbuild

/-- Functions are told apart by their names, because a plan lists no handle twice. -/
theorem Builds.inj {w' : Wiring} {key' : String} {f' : FunctionSpec} (hf : b.Builds w key f)
    (hf' : b.Builds w' key' f') (hname : b.functionName w key = b.functionName w' key') :
    w = w' ∧ key = key' ∧ f = f' := by
  have hnodup := nodup_functionNames hbuild
  rw [← functionNames_built] at hnodup
  have hsame := List.inj_on_of_nodup_map hnodup hf.mem_built hf'.mem_built hname
  simpa using hsame

/-- The chains of a table with functions have been checked. -/
theorem BuildsTable.sound {functions : Table FunctionSpec} (h : b.BuildsTable w functions)
    (hf : (key, f) ∈ functions.entries) : QueueChain.Sound functions := by
  have hclean : Clean (b.functionsSteps w functions) := by
    obtain ⟨branch, hbranch, rfl, rfl⟩ | ⟨⟨topic, t⟩, ht, rfl, rfl⟩ := h
    · have hcompute := clean_computeSteps (clean_of_build hbuild) hbranch
      rw [computeSteps] at hcompute
      split at hcompute
      · rename_i hempty
        rw [List.isEmpty_iff.1 hempty] at hf
        cases hf
      · exact hcompute.subset (List.subset_cons_self ..)
    · have htopic := (clean_of_build hbuild).subset (topicSteps_subset ht)
      rw [topicSteps_eq, clean_append, clean_append, clean_flatMap] at htopic
      rw [TopicSpec.functionTable] at hf ⊢
      cases hfunctions : t.functions with
      | none =>
        rw [hfunctions] at hf
        cases hf
      | some functions => exact htopic.1.2 functions (by simp [hfunctions])
  obtain ⟨_, hcheck, -⟩ := hclean.exists_eq_ok
  exact QueueChain.check_eq_ok_iff.1 hcheck

/-- A function has a queue exactly if its queue has a visibility timeout. -/
theorem Builds.isSome_queue_iff (hf : b.Builds w key f) :
    f.queue.isSome ↔ ∃ timeout, f.visibilityTimeout Settings.timeout = .ok (some timeout) := by
  have hsteps := (clean_of_build hbuild).subset (hf.functionSteps_subset hbuild)
  obtain ⟨_, -, hruntime⟩ := hsteps.exists_eq_ok
  rw [functionSteps, hruntime] at hsteps
  obtain ⟨_, -, hlayers⟩ := hsteps.exists_eq_ok
  rw [hlayers, clean_append, clean_append] at hsteps
  obtain ⟨timeout?, htimeout, -⟩ := hsteps.1.2.exists_eq_ok
  rw [htimeout]
  rw [FunctionSpec.visibilityTimeout] at htimeout
  cases hqueue : f.queue with
  | none =>
    rw [hqueue] at htimeout
    cases htimeout
    simp
  | some queue =>
    simp only [hqueue] at htimeout
    split at htimeout
    · cases htimeout
      simp
    · cases htimeout

/-! ## Queues and triggers -/

/-- A plan lists a queue of a name once. -/
theorem eq_of_isQueue {j : Intent} {name : String} (hi : i ∈ b.build.1.plan.intents)
    (hiqueue : i.IsQueue name) (hj : j ∈ b.build.1.plan.intents) (hjqueue : j.IsQueue name) :
    i = j := by
  have hhandle : ∀ k ∈ b.build.1.plan.intents, k.IsQueue name → k.handle = .of .queue name := by
    rintro k hk ⟨hcategory, rfl, -⟩
    obtain ⟨w, key, f, timeout, -, -, rfl | rfl⟩ := exists_of_queue hbuild hk hcategory
    · rfl
    · rfl
  exact b.ordered_build.eq_of_handle_eq hi hj
    ((hhandle i hi hiqueue).trans (hhandle j hj hjqueue).symm)

/-- A trigger of a plan for a function is the one that comes with the queue of the function. -/
theorem Builds.exists_eq_trigger (hf : b.Builds w key f) (hi : i ∈ b.build.1.plan.intents)
    (htrigger : i.IsTriggerOf (b.functionHandle w key)) :
    ∃ timeout, f.visibilityTimeout Settings.timeout = .ok (some timeout) ∧
      i = b.trigger w key timeout := by
  obtain ⟨w', key', f', timeout, hf', htimeout, rfl⟩ :=
    exists_of_trigger hbuild hi htrigger.category
  have hname : b.functionName w key = b.functionName w' key' :=
    (Handle.of_inj.1 (Handle.ref_inj.1 (Option.some.inj htrigger.target))).symm
  obtain ⟨rfl, rfl, rfl⟩ := hf.inj hbuild hf' hname
  exact ⟨timeout, htimeout, rfl⟩

/-- A function that has a queue is fed from it. -/
theorem Builds.feedsByQueue (hf : b.Builds w key f) (hqueue : f.queue.isSome) :
    b.build.1.plan.FeedsByQueue (b.naming.waitingQueue key w.branch)
      (b.naming.deadQueue key w.branch) (b.functionHandle w key) := by
  have hp := b.ordered_build
  obtain ⟨timeout, htimeout⟩ := (hf.isSome_queue_iff hbuild).1 hqueue
  have hmem := hf.queue_subset_intents hbuild htimeout
  have hdead : b.deadQueue w key ∈ b.build.1.plan.intents := hmem (by simp)
  have hwaiting : b.waitingQueue w key timeout ∈ b.build.1.plan.intents := hmem (by simp)
  have htrigger : b.trigger w key timeout ∈ b.build.1.plan.intents := hmem (by simp)
  have hdeadQueue : (b.deadQueue w key).IsQueue (b.naming.deadQueue key w.branch) :=
    ⟨rfl, rfl, rfl⟩
  have hwaitingQueue :
      (b.waitingQueue w key timeout).IsQueue (b.naming.waitingQueue key w.branch) :=
    ⟨rfl, rfl, rfl⟩
  have honly : ∀ t ∈ b.build.1.plan.intents, t.IsTriggerOf (b.functionHandle w key) →
      t = b.trigger w key timeout := by
    intro t ht htriggers
    obtain ⟨timeout', htimeout', rfl⟩ := hf.exists_eq_trigger hbuild ht htriggers
    obtain rfl : timeout' = timeout := by simpa [htimeout] using htimeout'.symm
    rfl
  constructor
  case listsWaiting =>
    refine hp.listsOne hwaiting hwaitingQueue fun i hi h => ?_
    rw [eq_of_isQueue hbuild hi h hwaiting hwaitingQueue]
  case listsDead =>
    refine hp.listsOne hdead hdeadQueue fun i hi h => ?_
    rw [eq_of_isQueue hbuild hi h hdead hdeadQueue]
  case listsTrigger =>
    refine hp.listsOne htrigger ⟨rfl, rfl⟩ fun t ht h => ?_
    rw [honly t ht h]
  case deadLetters =>
    intro i hi hiqueue j hj hjqueue
    obtain rfl := eq_of_isQueue hbuild hi hiqueue hwaiting hwaitingQueue
    obtain rfl := eq_of_isQueue hbuild hj hjqueue hdead hdeadQueue
    rfl
  case source =>
    intro t ht htriggers i hi hiqueue
    obtain rfl := honly t ht htriggers
    obtain rfl := eq_of_isQueue hbuild hi hiqueue hwaiting hwaitingQueue
    rfl

/-- A function without a queue has none of the three intents: they would come with a function of the
same name. -/
theorem Builds.feedsByNone (hf : b.Builds w key f) (hqueue : f.queue = none) :
    b.build.1.plan.FeedsByNone (b.naming.waitingQueue key w.branch)
      (b.naming.deadQueue key w.branch) (b.functionHandle w key) := by
  have hnone : ∀ timeout, f.visibilityTimeout Settings.timeout ≠ .ok (some timeout) := by
    intro timeout htimeout
    have hsome := (hf.isSome_queue_iff hbuild).2 ⟨timeout, htimeout⟩
    simp [hqueue] at hsome
  have hother : ∀ {w' key' f' timeout}, b.Builds w' key' f' →
      f'.visibilityTimeout Settings.timeout = .ok (some timeout) →
      b.functionName w' key' ≠ b.functionName w key := by
    intro w' key' f' timeout hf' htimeout hname
    obtain ⟨rfl, rfl, rfl⟩ := hf'.inj hbuild hf hname
    exact hnone timeout htimeout
  constructor
  case noQueue =>
    intro i hi hcategory
    obtain ⟨w', key', f', timeout, hf', htimeout, rfl | rfl⟩ := exists_of_queue hbuild hi hcategory
    · refine ⟨fun h => b.naming.waitingQueue_ne_deadQueue _ _ _ _ h.symm, fun h => ?_⟩
      exact hother hf' htimeout ((b.naming.deadQueue_eq_iff ..).1 h)
    · refine ⟨fun h => ?_, b.naming.waitingQueue_ne_deadQueue _ _ _ _⟩
      exact hother hf' htimeout ((b.naming.waitingQueue_eq_iff ..).1 h)
  case noTrigger =>
    intro i hi htrigger
    obtain ⟨timeout, htimeout, -⟩ := hf.exists_eq_trigger hbuild hi htrigger
    exact hnone timeout htimeout

end Plan

/-! ## Environments -/

/-- The names of the variables that everything of a branch has in common. -/
def sharedVariables : List String := ["API", "Branch", "Bucket", "NotificationUrl", "Service"]

/-- Nothing else is in the environment of a branch. -/
theorem get?_environment_of_not_mem (b : Blueprint) (branch : Option String) {name : String}
    (h : name ∉ sharedVariables) : (b.environment branch).get? name = none := by
  have hempty : (Table.empty : Table String).get? name = none := rfl
  simp only [sharedVariables, List.mem_cons, List.not_mem_nil, or_false, not_or] at h
  obtain ⟨hapi, hbranch, hbucket, hurl, hservice⟩ := h
  cases branch with
  | none => simp [environment, Table.get?_insert, hempty, hapi, hservice]
  | some branch =>
    simp only [environment]
    split
    · simp [Table.get?_insert, hempty, hapi, hbranch, hservice]
    · split <;> split <;>
        simp [Table.get?_insert, hempty, hapi, hbranch, hbucket, hurl, hservice]

/-- Only a function that sends its messages on knows a next queue. -/
theorem get?_functionEnvironment_nextSQS (b : Blueprint) (w : Wiring) (f : FunctionSpec) :
    (b.functionEnvironment w f).get? "NextSQS" =
      f.queueNext.map fun next => b.naming.waitingQueue next w.branch := by
  simp only [functionEnvironment]
  cases f.queueNext with
  | none => exact b.get?_environment_of_not_mem w.branch (by decide)
  | some next => simp [Table.get?_insert]

/-- The environment of a function in a plan is that of its configuration. -/
theorem environment?_functionIntent (runtime : Runtime) (layers : List String) (name : String) :
    (b.functionIntent w key f runtime layers).environment? name =
      ((b.functionEnvironment w f).get? name).map .string := by
  rw [Intent.environment?, functionIntent, Intent.of, member?_environment, Option.bind_some,
    Json.member?_ofTable]

/-! ## The whole plan -/

/-- All queues and triggers of a plan are those of the functions of a spec, and all functions that
send messages on send them to queues of the plan. -/
structure WiresQueues (b : Blueprint) (p : Plan) : Prop where
  /-- Each function is in the plan once. -/
  listed : ∀ w key f, b.Builds w key f → p.ListsOne (·.handle = b.functionHandle w key)
  /-- A function that has a queue is fed from it. -/
  fed : ∀ w key f, b.Builds w key f → f.queue.isSome →
    p.FeedsByQueue (b.naming.waitingQueue key w.branch) (b.naming.deadQueue key w.branch)
      (b.functionHandle w key)
  /-- Any other function has no queues. -/
  unfed : ∀ w key f, b.Builds w key f → f.queue = none →
    p.FeedsByNone (b.naming.waitingQueue key w.branch) (b.naming.deadQueue key w.branch)
      (b.functionHandle w key)
  /-- There are no other queues. -/
  queues : ∀ i ∈ p.intents, i.category = .queue → ∃ w key f, b.Builds w key f ∧ f.queue.isSome ∧
    (i.IsQueue (b.naming.waitingQueue key w.branch) ∨ i.IsQueue (b.naming.deadQueue key w.branch))
  /-- There are no other triggers. -/
  triggers : ∀ i ∈ p.intents, i.category = .eventSourceMapping →
    ∃ w key f, b.Builds w key f ∧ f.queue.isSome ∧ i.IsTriggerOf (b.functionHandle w key)
  /-- A function that sends nothing on knows no next queue. -/
  ends : ∀ w key f, b.Builds w key f → f.queueNext = none →
    ∀ i ∈ p.intents, i.handle = b.functionHandle w key → i.environment? "NextSQS" = none
  /-- A function that sends its messages on knows the queue that feeds the function beside it. -/
  sends : ∀ w functions, b.BuildsTable w functions → ∀ key f, (key, f) ∈ functions.entries →
    ∀ next, f.queueNext = some next → next ∈ functions.keys ∧
      ∀ i ∈ p.intents, i.handle = b.functionHandle w key → p.SendsOn i (b.functionHandle w next)

section Plan

variable (hbuild : b.build.2 = none)
include hbuild

/-- The only intent for a function is the one with its configuration. -/
theorem Builds.exists_eq_functionIntent (hf : b.Builds w key f)
    (hi : i ∈ b.build.1.plan.intents) (hhandle : i.handle = b.functionHandle w key) :
    ∃ runtime layers, i = b.functionIntent w key f runtime layers := by
  obtain ⟨runtime, layers, hmem⟩ := hf.function_mem_intents hbuild
  exact ⟨runtime, layers, b.ordered_build.eq_of_handle_eq hi hmem hhandle⟩

/-- A function sends its messages to the queue of the function beside it. -/
theorem BuildsTable.sendsOn {functions : Table FunctionSpec} (h : b.BuildsTable w functions)
    (hf : (key, f) ∈ functions.entries) {next : String} (hnext : f.queueNext = some next)
    (hi : i ∈ b.build.1.plan.intents) (hhandle : i.handle = b.functionHandle w key) :
    next ∈ functions.keys ∧ b.build.1.plan.SendsOn i (b.functionHandle w next) := by
  -- the check of the chains has found the function of the next key, with a queue
  obtain ⟨g, hg, hqueue⟩ :=
    (h.sound hbuild hf).queued key f (Table.get?_eq_some_iff.2 hf) next hnext
  have hbuilds : b.Builds w key f := builds_iff_exists_table.2 ⟨functions, h, hf⟩
  have hbuildsNext : b.Builds w next g :=
    builds_iff_exists_table.2 ⟨functions, h, Table.get?_eq_some_iff.1 hg⟩
  obtain ⟨timeout, htimeout⟩ := (hbuildsNext.isSome_queue_iff hbuild).1 hqueue
  have hmem := hbuildsNext.queue_subset_intents hbuild htimeout
  obtain ⟨runtime, layers, rfl⟩ := hbuilds.exists_eq_functionIntent hbuild hi hhandle
  obtain ⟨_, _, htarget⟩ := hbuildsNext.function_mem_intents hbuild
  refine ⟨Table.mem_keys_of_get? hg, b.waitingQueue w next timeout, hmem (by simp),
    b.trigger w next timeout, hmem (by simp), _, htarget, b.naming.waitingQueue next w.branch,
    ?_, ⟨rfl, rfl, rfl⟩, rfl, ⟨rfl, rfl, rfl, rfl⟩⟩
  rw [environment?_functionIntent, get?_functionEnvironment_nextSQS, hnext]
  rfl

/-- **Queues are wired within a plan.**  If a spec is built without a fault, a function has its two
queues and its trigger exactly if the spec gives it a queue, and there are no others.  A function
knows a next queue exactly if it sends its messages on, and that is the queue of the function beside
it. -/
theorem wiresQueues_build : b.WiresQueues b.build.1.plan where
  listed w key f hf := by
    obtain ⟨runtime, layers, hmem⟩ := hf.function_mem_intents hbuild
    exact b.ordered_build.listsOne hmem rfl fun i _ hi => hi
  fed w key f hf hqueue := hf.feedsByQueue hbuild hqueue
  unfed w key f hf hqueue := hf.feedsByNone hbuild hqueue
  queues i hi hcategory := by
    obtain ⟨w, key, f, timeout, hf, htimeout, hqueue⟩ := exists_of_queue hbuild hi hcategory
    refine ⟨w, key, f, hf, (hf.isSome_queue_iff hbuild).2 ⟨timeout, htimeout⟩, ?_⟩
    obtain rfl | rfl := hqueue
    · exact .inr ⟨rfl, rfl, rfl⟩
    · exact .inl ⟨rfl, rfl, rfl⟩
  triggers i hi hcategory := by
    obtain ⟨w, key, f, timeout, hf, htimeout, rfl⟩ := exists_of_trigger hbuild hi hcategory
    exact ⟨w, key, f, hf, (hf.isSome_queue_iff hbuild).2 ⟨timeout, htimeout⟩, rfl, rfl⟩
  ends w key f hf hnext i hi hhandle := by
    obtain ⟨runtime, layers, rfl⟩ := hf.exists_eq_functionIntent hbuild hi hhandle
    rw [environment?_functionIntent, get?_functionEnvironment_nextSQS, hnext]
    rfl
  sends w functions h key f hf next hnext := by
    have hbuilds : b.Builds w key f := builds_iff_exists_table.2 ⟨functions, h, hf⟩
    obtain ⟨_, _, hmem⟩ := hbuilds.function_mem_intents hbuild
    have hkey := (h.sendsOn hbuild hf hnext hmem rfl).1
    exact ⟨hkey, fun i hi hhandle => (h.sendsOn hbuild hf hnext hi hhandle).2⟩

end Plan

/-- The carts of the service with two branches go to its orders, on each branch. -/
theorem wiresQueues_market : market.build.2 = none ∧ market.WiresQueues market.build.1.plan :=
  ⟨build_market, wiresQueues_build build_market⟩

end Blueprint

end ServicePlan
