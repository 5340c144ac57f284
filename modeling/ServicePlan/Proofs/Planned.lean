import Mathlib.Data.List.Flatten
import ServicePlan.Proofs.Service

/-!
# What a build plans

A build that meets no fault has made all of its steps, so its plan lists exactly the intents that
the steps emit.  Each phase emits intents of its own and of few categories, and what a plan lists of
a category is looked for in the phases that emit it.

* `emissions`, `Emits`: the intents of steps, with their phase and their categories.
* `Plan.ListsOne`: a plan lists exactly one intent with a property.
* `Blueprint.build_eq_none_iff`: when a build goes through.
* `Blueprint.intents_build`, `Blueprint.ordered_build`: what its plan lists.
* `Blueprint.read_of_build`: what the registry answers on the way.
* `Blueprint.emits_functionSteps_of`, `Blueprint.emits_messagingSteps_of`, …: a property of all that
  a phase emits, from its parts.
* `Blueprint.emits_messagingSteps`, …: the categories of each phase.
-/

namespace ServicePlan

attribute [simp] Step.intent?

/-! ## Emissions -/

/-- The intents that steps emit, in order. -/
def emissions (steps : List Step) : List Intent := steps.filterMap Step.intent?

section Emissions

variable {α : Type} {first second steps : List Step}

theorem mem_emissions {i : Intent} : i ∈ emissions steps ↔ .emit i ∈ steps := mem_intents

@[simp] theorem emissions_nil : emissions [] = [] := rfl

@[simp] theorem emissions_cons (s : Step) (rest : List Step) :
    emissions (s :: rest) = s.intent?.toList ++ emissions rest := by
  cases s <;> rfl

@[simp] theorem emissions_append :
    emissions (first ++ second) = emissions first ++ emissions second :=
  List.filterMap_append

@[simp] theorem emissions_flatMap {l : List α} {g : α → List Step} :
    emissions (l.flatMap g) = l.flatMap fun a => emissions (g a) :=
  List.filterMap_flatMap

@[simp] theorem emissions_map_emit {l : List α} {g : α → Intent} :
    emissions (l.map fun a => .emit (g a)) = l.map g := by
  simp [emissions, List.filterMap_map, Function.comp_def]

theorem emissions_emits (intents : List Intent) : emissions (intents.map .emit) = intents :=
  emissions_map_emit.trans (List.map_id intents)

/-- Steps all of whose intents have a property. -/
def Emits (P : Intent → Prop) (steps : List Step) : Prop := ∀ i ∈ emissions steps, P i

variable {P Q : Intent → Prop}

theorem emits_nil : Emits P [] := by simp [Emits]

theorem emits_cons {s : Step} {rest : List Step} :
    Emits P (s :: rest) ↔ (∀ i, s.intent? = some i → P i) ∧ Emits P rest := by
  simp only [Emits, emissions_cons, List.forall_mem_append, Option.mem_toList]

theorem emits_emit {i : Intent} {rest : List Step} :
    Emits P (.emit i :: rest) ↔ P i ∧ Emits P rest := by
  simp only [Emits, emissions_cons, Step.intent?, Option.toList_some, List.singleton_append,
    List.forall_mem_cons]

theorem emits_append : Emits P (first ++ second) ↔ Emits P first ∧ Emits P second := by
  simp only [Emits, emissions_append, List.forall_mem_append]

theorem emits_map_emit {l : List α} {g : α → Intent} :
    Emits P (l.map fun a => .emit (g a)) ↔ ∀ a ∈ l, P (g a) := by
  simp only [Emits, emissions_map_emit, List.forall_mem_map]

theorem emits_flatMap {l : List α} {g : α → List Step} (h : ∀ a ∈ l, Emits P (g a)) :
    Emits P (l.flatMap g) := by
  intro i hi
  rw [emissions_flatMap] at hi
  obtain ⟨a, ha, hi⟩ := List.mem_flatMap.1 hi
  exact h a ha i hi

/-- The end of a build emits nothing. -/
theorem emits_orFail {r : Except Fault α} {next : α → List Step} (h : ∀ a, Emits P (next a)) :
    Emits P (Step.orFail r next) := by
  cases r with
  | ok a => exact h a
  | error f => simp [Emits, Step.orFail]

theorem Emits.mono (h : Emits P steps) (himp : ∀ i, P i → Q i) : Emits Q steps :=
  fun i hi => himp i (h i hi)

/-- An intent of one phase and of one of some categories. -/
def Intent.IsOf (phase : Phase) (categories : List Category) (i : Intent) : Prop :=
  i.phase = phase ∧ i.category ∈ categories

@[simp] theorem Intent.isOf_of {phase : Phase} {categories : List Category} {c : Category}
    {own : Phase} {name : String} {attributes : Json} {dependsOn : List Handle} :
    (Intent.of c own name attributes dependsOn).IsOf phase categories ↔
      own = phase ∧ c ∈ categories :=
  Iff.rfl

variable {phase : Phase} {categories more : List Category}

theorem Emits.mono_categories (h : Emits (Intent.IsOf phase categories) steps)
    (hsubset : categories ⊆ more) : Emits (Intent.IsOf phase more) steps :=
  h.mono fun _ hi => ⟨hi.1, hsubset hi.2⟩

/-- Steps emit no intent of categories that are not theirs. -/
theorem Emits.not_mem {i : Intent} {other : List Category}
    (h : Emits (Intent.IsOf phase categories) steps) (hi : i.category ∈ other)
    (hother : ∀ c ∈ other, c ∉ categories) : i ∉ emissions steps :=
  fun hmem => hother i.category hi (h i hmem).2

theorem Emits.not_mem_of_category {i : Intent} {c : Category}
    (h : Emits (Intent.IsOf phase categories) steps) (hi : i.category = c) (hc : c ∉ categories) :
    i ∉ emissions steps :=
  h.not_mem (List.mem_singleton.2 hi) (List.forall_mem_singleton.2 hc)

theorem Emits.filter_category_eq_nil (h : Emits (Intent.IsOf phase categories) steps)
    {c : Category} (hc : c ∉ categories) :
    (emissions steps).filter (fun i => i.category = c) = [] := by
  refine List.filter_eq_nil_iff.2 fun i hi => ?_
  have hcategory := (h i hi).2
  simp only [decide_eq_true_eq]
  rintro rfl
  exact hc hcategory

end Emissions

/-! ## Plans -/

/-- The text of an attribute. -/
def Intent.text? (i : Intent) (name : String) : Option String :=
  (i.attributes.member? name).bind Json.string?

namespace Plan

/-- A plan lists exactly one intent with a property. -/
def ListsOne (p : Plan) (P : Intent → Prop) : Prop :=
  ∃ before i after, p.intents = before ++ i :: after ∧ P i ∧ ∀ j ∈ before ++ after, ¬ P j

variable {p : Plan} {i j : Intent}

/-- The intents of a plan are told apart by their handles. -/
theorem Ordered.eq_of_handle_eq (hp : p.Ordered) (hi : i ∈ p.intents) (hj : j ∈ p.intents)
    (h : i.handle = j.handle) : i = j :=
  List.inj_on_of_nodup_map hp.distinct hi hj h

/-- An intent is the only one with a property if all others with it would be for its resource. -/
theorem Ordered.listsOne (hp : p.Ordered) {P : Intent → Prop} (hi : i ∈ p.intents) (hP : P i)
    (honly : ∀ j ∈ p.intents, P j → j.handle = i.handle) : p.ListsOne P := by
  obtain ⟨before, after, hsplit⟩ := List.append_of_mem hi
  refine ⟨before, i, after, hsplit, hP, fun j hj hPj => ?_⟩
  have hdistinct := hp.distinct
  rw [handles, hsplit, List.map_append, List.map_cons, List.nodup_middle, List.nodup_cons,
    ← List.map_append] at hdistinct
  have hmem : j ∈ p.intents := by
    rw [hsplit]
    exact List.mem_append.2 ((List.mem_append.1 hj).imp_right (List.mem_cons_of_mem i))
  exact hdistinct.1 (List.mem_map.2 ⟨j, hj, honly j hmem hPj⟩)

/-- The intent for a resource is found by its category and its name. -/
theorem Ordered.find?_eq_some (hp : p.Ordered) {c : Category} {name : String}
    (hi : i ∈ p.intents) (hhandle : i.handle = .of c name) : p.find? c name = some i := by
  rw [find?]
  cases hfind : p.intents.find? fun i => i.handle == .of c name with
  | none =>
    have hnot := List.find?_eq_none.1 hfind i hi
    simp [hhandle] at hnot
  | some j =>
    have hj : j.handle = .of c name := by simpa using List.find?_some hfind
    rw [hp.eq_of_handle_eq (List.mem_of_find?_eq_some hfind) hi (hj.trans hhandle.symm)]

theorem mem_byCategory {c : Category} : i ∈ p.byCategory c ↔ i ∈ p.intents ∧ i.category = c := by
  simp [byCategory]

/-- The intents of a category are told apart by their handles as well. -/
theorem Ordered.nodup_byCategory (hp : p.Ordered) (c : Category) :
    ((p.byCategory c).map (·.handle)).Nodup :=
  hp.distinct.sublist (List.filter_sublist.map _)

end Plan

namespace Progress

variable {p : Progress}

/-- Emitting an intent pushes it, and a refused push leaves all as it was. -/
theorem plan_step_emit (p : Progress) (i : Intent) :
    (p.step (.emit i)).1.plan = (p.plan.push i).1 := by
  rcases p.plan.push_cases i with ⟨-, h⟩ | ⟨_, -, -, -, h⟩ | ⟨-, -, h⟩ <;>
    simp [step, emit, settle, h]

/-- Only what is emitted changes the plan. -/
theorem plan_step_of_intent?_eq_none (p : Progress) {s : Step} (hs : s.intent? = none) :
    (p.step s).1.plan = p.plan := by
  cases s with
  | emit i => cases hs
  | register key handle =>
    cases hwrite : p.registry.write key handle <;>
      simp [step, register, settle, hwrite, bind, Except.bind]
  | require key requestedBy =>
    cases hfind : p.registry.find key requestedBy <;> simp [step, read, Registry.read, hfind]
  | note record => rfl
  | warn text => rfl
  | complete phase => rfl
  | fail f => rfl

/-- A step without a fault has put what it emits at the end of the plan. -/
theorem intents_step {q : Progress} {s : Step} (h : p.step s = (q, none)) :
    q.plan.intents = p.plan.intents ++ s.intent?.toList := by
  have hq : q.plan = (p.step s).1.plan := by rw [h]
  cases hs : s.intent? with
  | none => simp [hq, plan_step_of_intent?_eq_none p hs]
  | some i =>
    obtain rfl := Step.intent?_eq_some_iff.1 hs
    obtain ⟨-, hfault⟩ | ⟨_, -, -, -, hfault⟩ | ⟨-, -, hadd⟩ := p.plan.push_cases i
    · simp [step, emit, settle, hfault] at h
    · simp [step, emit, settle, hfault] at h
    · simp [hq, plan_step_emit, hadd, Plan.add]

/-- Steps without a fault have put what they emit at the end of the plan. -/
theorem intents_run {q : Progress} {steps : List Step} (h : p.run steps = (q, none)) :
    q.plan.intents = p.plan.intents ++ emissions steps := by
  refine run_induction (P := fun seen r => r.plan.intents = p.plan.intents ++ emissions seen)
    h (by simp) fun seen s r t hr hs => ?_
  rw [intents_step hs, hr, emissions_append, emissions_cons, emissions_nil, List.append_nil,
    List.append_assoc]

/-- A run without a fault has come through its first part. -/
theorem exists_of_run_append {q : Progress} {first second : List Step}
    (h : p.run (first ++ second) = (q, none)) :
    ∃ r, p.run first = (r, none) ∧ r.run second = (q, none) := by
  rw [run_append] at h
  split at h
  · rename_i r hfirst
    exact ⟨r, hfirst, h⟩
  · cases h

/-- A step keeps the plan in order. -/
theorem ordered_step (hp : p.plan.Ordered) (s : Step) : (p.step s).1.plan.Ordered := by
  cases hs : s.intent? with
  | some i =>
    obtain rfl := Step.intent?_eq_some_iff.1 hs
    rw [plan_step_emit]
    exact hp.push i
  | none => rwa [plan_step_of_intent?_eq_none p hs]

/-- Steps keep the plan in order, whether they are all made or not. -/
theorem ordered_run (hp : p.plan.Ordered) (steps : List Step) :
    (p.run steps).1.plan.Ordered := by
  induction steps generalizing p with
  | nil => exact hp
  | cons s rest ih =>
    have hstep := ordered_step hp s
    rw [run]
    split
    · rename_i h
      rw [h] at hstep
      exact ih hstep
    · rename_i h
      rwa [h] at hstep

end Progress

/-! ## Builds -/

namespace Blueprint

variable {b : Blueprint}

/-- The record that ends a build is none of its plan. -/
theorem plan_build (b : Blueprint) : b.build.1.plan = (b.start.run b.steps).1.plan := by
  rw [build]
  split <;> rename_i h <;> rw [h]
  rfl

/-- Whatever comes of a build, its plan is in order. -/
theorem ordered_build (b : Blueprint) : b.build.1.plan.Ordered := by
  rw [plan_build]
  exact Progress.ordered_run (Plan.ordered_new b.spec.tags) b.steps

/-- A build without a fault is a run without a fault. -/
theorem run_of_build (h : b.build.2 = none) :
    b.start.run b.steps = ((b.start.run b.steps).1, none) :=
  Prod.ext rfl ((snd_build b).symm.trans h)

/-- A build without a fault has made all of its steps. -/
theorem traces_of_build (h : b.build.2 = none) : b.Traces b.steps (b.start.run b.steps).1 := by
  have houtcome := b.outcome_build
  rw [run_of_build h] at houtcome
  exact houtcome

theorem clean_of_build (h : b.build.2 = none) : Clean b.steps := (traces_of_build h).adds.clean

/-- **Answers of the registry.**  Wherever a build without a fault requires a key, the registry
answers with the resource that the key stands for, which is the one that the steps behind name. -/
theorem read_of_build (h : b.build.2 = none) {before after : List Step} {k : Registry.Key}
    {requestedBy : String} (hsteps : b.steps = before ++ .require k requestedBy :: after) :
    ∃ p, b.start.run before = (p, none) ∧ b.Traces before p ∧
      (p.read k requestedBy).2 = .ok (b.handleOf k) := by
  have hrun : (b.start.run (before ++ .require k requestedBy :: after)).2 = none := by
    rw [← hsteps, ← snd_build, h]
  have harranged := arranged_steps b
  rw [hsteps, arranged_append] at harranged
  rw [Progress.run_append] at hrun
  obtain ⟨p, hbefore, htraces⟩ | ⟨_, _, _, _, _, _, hbefore, -⟩ :=
    traces_start.run_cases harranged.1
  · rw [hbefore] at hrun
    refine ⟨p, hbefore, htraces, ?_⟩
    cases hfind : p.registry.find k requestedBy with
    | ok handle =>
      rw [← htraces.eq_handleOf_of_find hfind]
      exact hfind
    | error f =>
      -- a read that fails would end the build
      simp [Progress.run, Progress.step, Progress.read, Registry.read, hfind] at hrun
  · rw [hbefore] at hrun
    cases hrun

/-- The plan of a build without a fault lists what its steps emit. -/
theorem intents_build (h : b.build.2 = none) : b.build.1.plan.intents = emissions b.steps := by
  rw [plan_build, Progress.intents_run (run_of_build h)]
  rfl

/-- What the steps of a build without a fault emit is in its plan. -/
theorem emissions_subset_intents (h : b.build.2 = none) {steps : List Step}
    (hsubset : steps ⊆ b.steps) : emissions steps ⊆ b.build.1.plan.intents := by
  intro i hi
  rw [intents_build h]
  exact mem_emissions.2 (hsubset (mem_emissions.1 hi))

theorem frontendSteps_subset (b : Blueprint) : b.frontendSteps ⊆ b.steps := fun s hs => by
  simp [steps, hs]

theorem gatewaySteps_subset (b : Blueprint) : b.gatewaySteps ⊆ b.steps := fun s hs => by
  simp [steps, hs]

theorem branchSteps_subset {branch : String} (hbranch : branch ∈ b.spec.branchNames) :
    b.branchSteps branch ⊆ b.steps := by
  intro s hs
  have hloop : s ∈ b.spec.branchNames.flatMap b.branchSteps := List.mem_flatMap.2 ⟨_, hbranch, hs⟩
  simp only [steps, List.mem_append, hloop, true_or, or_true]

/-- The phases emit one after another, and the last two do so branch by branch. -/
theorem emissions_steps (b : Blueprint) :
    emissions b.steps =
      emissions b.messagingSteps ++ emissions b.frontendSteps ++ emissions b.gatewaySteps ++
        emissions b.storageSteps ++ b.spec.branchNames.flatMap fun branch =>
          emissions (b.computeSteps branch) ++ emissions (b.batchSteps branch) := by
  simp [steps, branchSteps, Step.info]

/-- An intent of a plan is emitted by one of the phases. -/
theorem mem_intents_cases (h : b.build.2 = none) {i : Intent} (hi : i ∈ b.build.1.plan.intents) :
    i ∈ emissions b.messagingSteps ∨ i ∈ emissions b.frontendSteps ∨
      i ∈ emissions b.gatewaySteps ∨ i ∈ emissions b.storageSteps ∨
      ∃ branch ∈ b.spec.branchNames,
        i ∈ emissions (b.computeSteps branch) ∨ i ∈ emissions (b.batchSteps branch) := by
  rw [intents_build h, emissions_steps] at hi
  simpa only [List.mem_append, List.mem_flatMap, or_assoc] using hi

/-- The resources of a build without a fault are told apart by their names. -/
theorem nodup_of_build (h : b.build.2 = none) :
    ((emissions b.steps).map (·.handle)).Nodup := by
  rw [← intents_build h]
  exact b.ordered_build.distinct

/-- **When builds go through.**  A build meets no fault exactly if none of its steps names one,
every reference of the spec leads somewhere, and no two resources have one name. -/
theorem build_eq_none_iff (b : Blueprint) (hbranches : b.spec.branchNames ≠ []) :
    b.build.2 = none ↔
      Clean b.steps ∧ b.Closed ∧ ((emissions b.steps).map (·.handle)).Nodup := by
  refine ⟨fun h => ⟨clean_of_build h, closed_of_traces (traces_of_build h) hbranches,
    nodup_of_build h⟩, fun ⟨hclean, hclosed, hnodup⟩ => ?_⟩
  rw [snd_build]
  obtain ⟨q, h, -⟩ | ⟨before, s, after, q, f, hsteps, -, hfits, hends⟩ :=
    traces_start.run_cases (arranged_steps b)
  · rw [h]
  · rw [List.nil_append] at hfits hends
    rw [hsteps] at hclean hnodup
    cases hends with
    | fail => exact absurd (List.mem_append_right _ (List.mem_cons_self ..)) (hclean f)
    | unregistered requestedBy hnot => exact absurd (hfits.2 hclosed) hnot
    | @emittedTwice i j hj hhandle =>
      rw [emissions_append, List.map_append, List.nodup_append] at hnodup
      have hbefore : i.handle ∈ (emissions before).map (·.handle) :=
        List.mem_map.2 ⟨j, mem_emissions.2 hj, hhandle⟩
      exact absurd rfl (hnodup.2.2 _ hbefore _ (by simp))

/-- A service with two branches, which share a topic, an app and an api. -/
def market : Blueprint where
  spec := {
    serviceName := "market"
    apiName := "market-api"
    branches := .ofList [("main", {}), ("test", { stage := some "test" })]
    handler := "index.handler"
    references := some {
      layers := .ofList [("base", "arn:base")]
      pools := .ofList [("people", ⟨"pool", ∅⟩)]
      network := some ⟨["net"], "group"⟩ }
    repositoryRoot := some "https://repositories"
    functions := .ofList [("cart", { layers := ["base"], queueNext := some "order" }),
      ("order", { queue := some {} }), ("stock", {})]
    gateway := some {
      integrations := .ofList
        [("cart", { routes := some ["GET /cart"], authorization := some ⟨"people", "front"⟩ }),
          ("stock", { routes := some ["GET /stock"] })] }
    topics := some (.ofList [("sold", { functions := some (.ofList [("bill", {})]) })])
    jobs := some (.ofList [("report", { maxProcessors := 1, stateFunction := "order" })])
    apps := some (.ofList
      [("front", { domain := "market.test", user := some "people", topic := some "sold" })]) }
  site := ⟨"123456789012", "us-east-1"⟩
  references := {
    layers := .ofList [("base", "arn:base")]
    pools := .ofList
      [("people", ⟨"pool", "https://cognito-idp.us-east-1.amazonaws.com/pool", ∅⟩)]
    network := some ⟨["net"], "group"⟩ }
  token := some "token"
  files := fun _ => .error (.other "no such file")

set_option maxRecDepth 20000 in
theorem build_market : market.build.2 = none := by rfl

/-! ## Parts of phases

What holds of all parts of a phase holds of all that the phase emits. -/

section Parts

variable {P : Intent → Prop} {w : Wiring} {key branch app topic : String} {f : FunctionSpec}
  {functions : Table FunctionSpec} {t : TopicSpec} {a : AppSpec} {j : JobSpec}
  {network : NetworkSpec}

/-- A function, and what feeds it. -/
theorem emits_functionSteps_of
    (hfunction : ∀ attributes, P (.of .function w.phase (b.functionName w key) attributes))
    (htest : Emits P (b.testSteps w key f)) (hapi : Emits P (b.apiSteps w key))
    (hsender : Emits P (b.senderSteps w key)) (hqueue : Emits P (b.queueSteps w key f)) :
    Emits P (b.functionSteps w key f) := by
  refine emits_orFail fun runtime => emits_orFail fun layers => ?_
  simp only [emits_append]
  refine ⟨⟨⟨⟨⟨?_, htest⟩, hapi⟩, hsender⟩, hqueue⟩, by simp [Emits]⟩
  exact emits_emit.2 ⟨hfunction _, emits_nil⟩

theorem emits_functionsSteps_of (h : ∀ key f, Emits P (b.functionSteps w key f)) :
    Emits P (b.functionsSteps w functions) :=
  emits_orFail fun _ => emits_flatMap fun e _ => h e.1 e.2

/-- A topic with its policy, and the functions that it feeds. -/
theorem emits_topicSteps_of
    (htopic : ∀ attributes, P (.of .topic .messaging (b.naming.topic topic) attributes))
    (hpolicy : P (b.topicPolicy topic))
    (hfunctions : ∀ key f,
      Emits P (b.functionSteps ⟨none, some (b.topicHandle topic), .messaging⟩ key f)) :
    Emits P (b.topicSteps topic t) := by
  simp only [topicSteps, emits_append]
  refine ⟨⟨?_, ?_⟩, by simp [Emits]⟩
  · exact emits_emit.2 ⟨htopic _, emits_emit.2 ⟨hpolicy, emits_nil⟩⟩
  · split
    · exact emits_functionsSteps_of hfunctions
    · exact emits_nil

theorem emits_messagingSteps_of (h : ∀ topic t, Emits P (b.topicSteps topic t)) :
    Emits P b.messagingSteps := by
  rw [messagingSteps]
  split
  · simp [Emits, Step.info]
  · exact emits_flatMap fun e _ => h e.1 e.2

/-- The login client of an app, and its identity pools with their roles. -/
theorem emits_loginSteps_of (hclient : ∀ pool, P (b.loginClient app a pool))
    (hpool : ∀ pool branch, P (b.identityPool app pool branch))
    (hrole : ∀ branch fragments, P (identityRole app a branch fragments))
    (hattachment : ∀ branch, P (roleAttachment app branch)) : Emits P (b.loginSteps app a) := by
  rw [loginSteps]
  split
  · exact emits_nil
  · refine emits_orFail fun pool => ?_
    simp only [emits_append]
    refine ⟨⟨emits_emit.2 ⟨hclient pool, emits_nil⟩, ?_⟩, by simp [Emits]⟩
    split
    · refine emits_flatMap fun branch _ => emits_orFail fun fragments => ?_
      exact emits_emit.2 ⟨hpool pool branch, emits_emit.2 ⟨hrole branch fragments,
        emits_emit.2 ⟨hattachment branch, emits_nil⟩⟩⟩
    · exact emits_nil

/-- Each app, its login and its notification. -/
theorem emits_frontendSteps_of
    (happ : ∀ app a repositoryRoot token, Emits P (b.appSteps app a repositoryRoot token))
    (hlogin : ∀ app a, Emits P (b.loginSteps app a))
    (hdeployment : ∀ app a, Emits P (b.deploymentSteps app a)) : Emits P b.frontendSteps := by
  rw [frontendSteps]
  split
  · simp [Emits, Step.info]
  · split
    · simp [Emits]
    · simp [Emits]
    · refine emits_flatMap fun e _ => ?_
      simp only [emits_append]
      exact ⟨⟨happ _ _ _ _, hlogin _ _⟩, hdeployment _ _⟩

theorem emits_computeSteps_of
    (h : ∀ key f, Emits P (b.functionSteps (branchWiring branch) key f)) :
    Emits P (b.computeSteps branch) := by
  rw [computeSteps]
  split
  · simp [Emits, Step.info]
  · exact emits_cons.2 ⟨by simp [Step.info], emits_functionsSteps_of h⟩

/-- The roles of a job, what runs it, and what tells about changes of its state. -/
theorem forall_jobIntents_of
    (hrole : ∀ name principal policies, P (serviceRole .batch name principal policies))
    (henvironment : P (b.computeEnvironment branch key j network))
    (hqueue : P (b.jobQueue branch key)) (hrule : P (b.jobRule branch key j))
    (hpermission : ∀ name (rule : Handle),
      P (permission .batch name (b.stateFunction branch j) "events.amazonaws.com" rule.arn rule))
    (hlog : ∀ name attributes, P (.of .logGroup .batch name attributes))
    (hdefinition : P (b.jobDefinition branch key j)) :
    ∀ i ∈ b.jobIntents branch key j network, P i := by
  simp only [jobIntents, jobRoles, List.cons_append, List.nil_append, List.forall_mem_cons]
  exact ⟨hrole _ _ _, hrole _ _ _, hrole _ _ _, henvironment, hqueue, hrule, hpermission _ _,
    hlog _ _, hdefinition, by simp⟩

theorem emits_batchSteps_of
    (h : ∀ key j network, ∀ i ∈ b.jobIntents branch key j network, P i) :
    Emits P (b.batchSteps branch) := by
  rw [batchSteps]
  split
  · exact emits_nil
  · split
    · simp [Emits]
    · refine emits_cons.2 ⟨by simp [Step.info], emits_flatMap fun e _ => ?_⟩
      rw [jobSteps, emits_cons]
      refine ⟨by simp, ?_⟩
      split
      · simp [Emits]
      · exact emits_map_emit.2 (h _ _ _)

end Parts

/-! ## Phases -/

/-- The categories that come with a function. -/
def functionCategories : List Category :=
  [.function, .eventSchema, .permission, .subscription, .queue, .eventSourceMapping]

/-- The categories that come with topics and with the functions that they feed. -/
def messagingCategories : List Category := .topic :: .topicPolicy :: functionCategories

/-- The categories that come with apps and with their logins. -/
def frontendCategories : List Category :=
  [.app, .appBranch, .appDomain, .userPoolClient, .identityPool, .role, .roleAttachment, .eventRule]

/-- The categories of what is stored. -/
def storageCategories : List Category := [.bucket, .repository]

/-- The categories that come with batch jobs. -/
def batchCategories : List Category :=
  [.role, .computeEnvironment, .jobQueue, .eventRule, .permission, .logGroup, .jobDefinition]

variable {w : Wiring} {key branch : String} {f : FunctionSpec} {functions : Table FunctionSpec}

theorem emits_testSteps : Emits (Intent.IsOf w.phase [.eventSchema]) (b.testSteps w key f) := by
  simp only [testSteps]
  split
  · exact emits_nil
  · split <;> simp [Emits]

theorem emits_apiSteps : Emits (Intent.IsOf w.phase [.permission]) (b.apiSteps w key) := by
  rw [apiSteps]
  split <;> simp [Emits, permission]

theorem emits_senderSteps :
    Emits (Intent.IsOf w.phase [.subscription, .permission]) (b.senderSteps w key) := by
  rw [senderSteps]
  split <;> simp [Emits, permission]

theorem emits_queueSteps :
    Emits (Intent.IsOf w.phase [.queue, .eventSourceMapping]) (b.queueSteps w key f) := by
  refine emits_orFail fun timeout? => ?_
  cases timeout? <;> simp [Emits]

theorem emits_functionSteps :
    Emits (Intent.IsOf w.phase functionCategories) (b.functionSteps w key f) :=
  emits_functionSteps_of (by simp [functionCategories])
    (emits_testSteps.mono_categories (by simp [functionCategories]))
    (emits_apiSteps.mono_categories (by simp [functionCategories]))
    (emits_senderSteps.mono_categories (by simp [functionCategories]))
    (emits_queueSteps.mono_categories (by simp [functionCategories]))

theorem emits_messagingSteps :
    Emits (Intent.IsOf .messaging messagingCategories) b.messagingSteps :=
  emits_messagingSteps_of fun _ _ =>
    emits_topicSteps_of (by simp [messagingCategories]) (by simp [topicPolicy, messagingCategories])
      fun _ _ => emits_functionSteps.mono_categories fun c hc => by simp [messagingCategories, hc]

theorem emits_frontendSteps :
    Emits (Intent.IsOf .frontend frontendCategories) b.frontendSteps := by
  refine emits_frontendSteps_of (fun app a repositoryRoot token => ?app) (fun app a => ?login)
    (fun app a => ?deployment)
  case app =>
    simp only [appSteps, emits_append]
    refine ⟨⟨by simp [Emits, frontendCategories], emits_map_emit.2 ?_⟩,
      by simp [Emits, frontendCategories]⟩
    exact List.forall_mem_map.2 fun e _ => by simp [appBranch, frontendCategories]
  case login =>
    exact emits_loginSteps_of (by simp [loginClient, frontendCategories])
      (by simp [identityPool, frontendCategories]) (by simp [identityRole, frontendCategories])
      (by simp [roleAttachment, frontendCategories])
  case deployment =>
    rw [deploymentSteps]
    split <;> simp [Emits, frontendCategories]

theorem emits_storageSteps : Emits (Intent.IsOf .storage storageCategories) b.storageSteps := by
  rw [storageSteps, emits_append]
  constructor
  · exact emits_map_emit.2 (by simp [bucket, storageCategories])
  · exact emits_map_emit.2 (by simp [repository, storageCategories])

theorem emits_computeSteps :
    Emits (Intent.IsOf .compute functionCategories) (b.computeSteps branch) :=
  emits_computeSteps_of fun _ _ => emits_functionSteps

theorem emits_batchSteps : Emits (Intent.IsOf .batch batchCategories) (b.batchSteps branch) :=
  emits_batchSteps_of fun _ _ _ =>
    forall_jobIntents_of (by simp [serviceRole, batchCategories])
      (by simp [computeEnvironment, batchCategories]) (by simp [jobQueue, batchCategories])
      (by simp [jobRule, batchCategories]) (by simp [permission, batchCategories])
      (by simp [batchCategories]) (by simp [jobDefinition, batchCategories])

end Blueprint

end ServicePlan
