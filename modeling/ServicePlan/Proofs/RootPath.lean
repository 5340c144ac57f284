import ServicePlan.Build.Service

/-!
# Roots of paths

A spec names files by paths, and a root says where relative paths start.  The root is put in front
of the paths and plays no other part: a build with a root does what a build without one does for the
spec whose paths have been joined with the root beforehand.  Only the log may differ, which names
documents of routes as the spec does.

* `ServiceSpec.under`: a spec whose paths start at a root.
* `effective`, `Progress.unlogged`: steps and what they have made, but for the log.
* `Progress.run_congr`: runs that differ in what they note.
* `Blueprint.ends_unlogged`: builds that differ in what they note.
* `Blueprint.effective_steps_under`: the steps with a root.
* `Blueprint.build_under`: what comes of them.
-/

namespace ServicePlan

/-! ## Specs under a root -/

/-- A function whose paths start at a root. -/
def FunctionSpec.under (root : String) (f : FunctionSpec) : FunctionSpec :=
  { f with code := f.code.map (Path.join root), test := f.test.map (Path.join root) }

/-- Functions whose paths start at a root. -/
def FunctionSpec.allUnder (root : String) (functions : Table FunctionSpec) : Table FunctionSpec :=
  functions.map fun _ f => f.under root

/-- A topic with functions whose paths start at a root. -/
def TopicSpec.under (root : String) (t : TopicSpec) : TopicSpec :=
  { t with functions := t.functions.map (FunctionSpec.allUnder root) }

/-- An app whose policies are found from a root. -/
def AppSpec.under (root : String) (a : AppSpec) : AppSpec :=
  { a with inlinePolicies := a.inlinePolicies.map (Path.join root) }

/-- Routes whose document is found from a root. -/
def RouteSpec.under (root : String) (r : RouteSpec) : RouteSpec :=
  { r with document := r.document.map (Path.join root) }

/-- An api whose documents are found from a root. -/
def GatewaySpec.under (root : String) (g : GatewaySpec) : GatewaySpec :=
  { g with integrations := g.integrations.map fun _ r => r.under root }

/-- A spec whose paths start at a root: relative paths are joined with it, and absolute ones are
kept. -/
def ServiceSpec.under (root : String) (s : ServiceSpec) : ServiceSpec :=
  { s with
    functions := FunctionSpec.allUnder root s.functions
    topics := s.topics.map fun topics => topics.map fun _ t => t.under root
    gateway := s.gateway.map (·.under root)
    apps := s.apps.map fun apps => apps.map fun _ a => a.under root }

/-- The code is found from the root, and the test stays where it is. -/
example : FunctionSpec.under "/srv/" { code := some "cart.zip", test := some "/tests/cart.json" } =
    { code := some "/srv/cart.zip", test := some "/tests/cart.json" } := by decide

/-! ## Records -/

/-- Whether a step does no more than add a record to the log. -/
def Step.isNote : Step → Bool
  | .note _ => true
  | _ => false

/-- The steps that do more than add a record. -/
def effective (steps : List Step) : List Step := steps.filter fun s => !s.isNote

@[simp] theorem effective_append (first second : List Step) :
    effective (first ++ second) = effective first ++ effective second := List.filter_append ..

@[simp] theorem effective_flatMap {α : Type} (l : List α) (g : α → List Step) :
    effective (l.flatMap g) = l.flatMap fun a => effective (g a) := List.filter_flatMap ..

theorem effective_orFail {α : Type} (r : Except Fault α) (steps : α → List Step) :
    effective (Step.orFail r steps) = Step.orFail r fun a => effective (steps a) := by
  cases r with
  | ok a => rfl
  | error f => rfl

namespace Progress

variable {p q : Progress}

/-- What has been built so far, without the log. -/
def unlogged (p : Progress) : Progress := { p with log := [] }

theorem unlogged_eq_iff : p.unlogged = q.unlogged ↔
    p.plan = q.plan ∧ p.registry = q.registry ∧ p.warnings = q.warnings := by
  obtain ⟨plan, registry, warnings, log⟩ := p
  obtain ⟨plan', registry', warnings', log'⟩ := q
  simp [unlogged]

/-- No step looks at the log. -/
theorem step_unlogged (h : p.unlogged = q.unlogged) (s : Step) :
    (p.step s).1.unlogged = (q.step s).1.unlogged ∧ (p.step s).2 = (q.step s).2 := by
  obtain ⟨plan, registry, warnings, log⟩ := p
  obtain ⟨plan', registry', warnings', log'⟩ := q
  cases h
  cases s with
  | note record => exact ⟨rfl, rfl⟩
  | warn text => exact ⟨rfl, rfl⟩
  | complete phase => exact ⟨rfl, rfl⟩
  | fail f => exact ⟨rfl, rfl⟩
  | emit i =>
    simp only [step, emit]
    generalize plan.push i = pushed
    obtain ⟨plan, answer⟩ := pushed
    cases answer with
    | ok handle => exact ⟨rfl, rfl⟩
    | error f => exact ⟨rfl, rfl⟩
  | register key handle =>
    simp only [step, register]
    cases registry.write key handle with
    | ok registry => exact ⟨rfl, rfl⟩
    | error f => exact ⟨rfl, rfl⟩
  | require key requestedBy =>
    simp only [step, read]
    cases (registry.read key requestedBy).2 with
    | ok handle => exact ⟨rfl, rfl⟩
    | error f => exact ⟨rfl, rfl⟩

/-- Records may be left out before the steps are made. -/
theorem run_effective (h : p.unlogged = q.unlogged) (steps : List Step) :
    (p.run steps).1.unlogged = (q.run (effective steps)).1.unlogged ∧
      (p.run steps).2 = (q.run (effective steps)).2 := by
  induction steps generalizing p q with
  | nil => exact ⟨h, rfl⟩
  | cons s rest ih =>
    by_cases hnote : s.isNote = true
    · cases s with
      | note record => exact ih h
      | _ => cases hnote
    · have hkeep : effective (s :: rest) = s :: effective rest :=
        List.filter_cons_of_pos (by simpa using hnote)
      obtain ⟨hmade, hfault⟩ := step_unlogged h s
      rw [hkeep, run, run]
      generalize p.step s = x at hmade hfault ⊢
      generalize q.step s = y at hmade hfault ⊢
      obtain ⟨p', fault⟩ := x
      obtain ⟨q', fault'⟩ := y
      obtain rfl : fault = fault' := hfault
      cases fault with
      | none => exact ih hmade
      | some f => exact ⟨hmade, rfl⟩

/-- Steps that differ in records only come to the same. -/
theorem run_congr {first second : List Step} (h : p.unlogged = q.unlogged)
    (hsteps : effective first = effective second) :
    (p.run first).1.unlogged = (q.run second).1.unlogged ∧ (p.run first).2 = (q.run second).2 := by
  obtain ⟨hmade, hfault⟩ := run_effective h first
  obtain ⟨hmade', hfault'⟩ := run_effective (rfl : q.unlogged = q.unlogged) second
  rw [hsteps] at hmade hfault
  exact ⟨hmade.trans hmade'.symm, hfault.trans hfault'.symm⟩

end Progress

namespace Blueprint

/-- What a build adds to the run of its steps is a record. -/
theorem unlogged_build (b : Blueprint) :
    b.build.1.unlogged = (b.start.run b.steps).1.unlogged ∧
      b.build.2 = (b.start.run b.steps).2 := by
  rw [build]
  generalize b.start.run b.steps = x
  obtain ⟨p, fault⟩ := x
  cases fault <;> exact ⟨rfl, rfl⟩

/-- Builds with the same steps but for records end with the same fault or both with none, and have
made the same but for the log. -/
theorem ends_unlogged {b c : Blueprint} (htags : b.spec.tags = c.spec.tags)
    (hsteps : effective b.steps = effective c.steps) :
    b.build.2 = c.build.2 ∧ b.build.1.unlogged = c.build.1.unlogged := by
  have hstart : b.start = c.start := by rw [start, start, htags]
  obtain ⟨hb, hbfault⟩ := b.unlogged_build
  obtain ⟨hc, hcfault⟩ := c.unlogged_build
  obtain ⟨hmade, hfault⟩ := Progress.run_congr (congrArg Progress.unlogged hstart) hsteps
  exact ⟨hbfault.trans (hfault.trans hcfault.symm), hb.trans (hmade.trans hc.symm)⟩

end Blueprint

/-! ## Chains of queues -/

namespace QueueChain

variable (root : String) (functions : Table FunctionSpec)

theorem next?_under : next? (FunctionSpec.allUnder root functions) = next? functions := by
  funext key
  rw [next?, next?, FunctionSpec.allUnder, Table.get?_map]
  cases functions.get? key <;> rfl

theorem edgeFault?_under (key : String) (f : FunctionSpec) :
    edgeFault? (FunctionSpec.allUnder root functions) key (f.under root) =
      edgeFault? functions key f := by
  have hnext : (f.under root).queueNext = f.queueNext := rfl
  rw [edgeFault?, edgeFault?, hnext]
  cases f.queueNext with
  | none => rfl
  | some next =>
    simp only [FunctionSpec.allUnder, Table.get?_map]
    cases functions.get? next <;> rfl

theorem badEdge?_under :
    badEdge? (FunctionSpec.allUnder root functions) = badEdge? functions := by
  have hentries : (FunctionSpec.allUnder root functions).entries =
      functions.entries.map fun e => (e.1, e.2.under root) := rfl
  rw [badEdge?, badEdge?, hentries, List.findSome?_map]
  congr 1
  funext e
  exact edgeFault?_under root functions e.1 e.2

/-- Walks look at nothing but where messages are sent on. -/
theorem walk_congr {functions other : Table FunctionSpec} (h : next? other = next? functions)
    (settled : List String) (fuel : Nat) (path : List String) (key : String) :
    walk other settled fuel path key = walk functions settled fuel path key := by
  induction fuel generalizing path key with
  | zero => rfl
  | succ fuel ih =>
    rw [walk, walk, h]
    split
    · rfl
    · split
      · rfl
      · cases next? functions key with
        | none => rfl
        | some next => exact ih _ next

theorem firstCycle?_congr {functions other : Table FunctionSpec}
    (h : next? other = next? functions) (hsize : other.size = functions.size)
    (settled keys : List String) :
    firstCycle? other settled keys = firstCycle? functions settled keys := by
  induction keys generalizing settled with
  | nil => rfl
  | cons key rest ih =>
    rw [firstCycle?, firstCycle?, walk_congr h, hsize]
    split
    · exact ih _
    · rfl

/-- The chains of functions do not depend on their paths. -/
theorem check_under : check (FunctionSpec.allUnder root functions) = check functions := by
  have hkeys : (FunctionSpec.allUnder root functions).keys = functions.keys :=
    Table.keys_map ..
  have hsize : (FunctionSpec.allUnder root functions).size = functions.size := List.length_map ..
  have hcycle : cycle? (FunctionSpec.allUnder root functions) = cycle? functions := by
    rw [cycle?, cycle?, hkeys, firstCycle?_congr (next?_under root functions) hsize]
  rw [check, check, fault?, fault?, badEdge?_under, hcycle]

end QueueChain

namespace Blueprint

variable (b : Blueprint) (root : String)

/-- The same inputs with a root. -/
def rooted (b : Blueprint) (root : String) : Blueprint := { b with root := some root }

/-- The same inputs without a root, where the paths of the spec start at the root. -/
def under (b : Blueprint) (root : String) : Blueprint :=
  { b with root := none, spec := b.spec.under root }

/-! ## Functions -/

section Functions

variable (w : Wiring) (key : String) (f : FunctionSpec)

theorem functionConfig_under (runtime : Runtime) (layers : List String) :
    (b.under root).functionConfig w key (f.under root) runtime layers =
      (b.rooted root).functionConfig w key f runtime layers := by
  obtain ⟨code, _⟩ := f
  cases code <;> rfl

theorem testSteps_under :
    (b.under root).testSteps w key (f.under root) = (b.rooted root).testSteps w key f := by
  rw [testSteps, testSteps, FunctionSpec.under]
  cases f.test <;> rfl

theorem apiSteps_under : (b.under root).apiSteps w key = (b.rooted root).apiSteps w key := by
  have hintegrated : (b.under root).isIntegrated w key = (b.rooted root).isIntegrated w key := by
    simp only [isIntegrated, under, rooted, ServiceSpec.under]
    cases b.spec.gateway with
    | none => rfl
    | some g => simp [GatewaySpec.under, Table.contains_map]
  rw [apiSteps, apiSteps, hintegrated]
  rfl

theorem functionSteps_under :
    (b.under root).functionSteps w key (f.under root) = (b.rooted root).functionSteps w key f := by
  rw [functionSteps, functionSteps, testSteps_under, apiSteps_under]
  simp only [functionConfig_under]
  rfl

theorem functionsSteps_under (functions : Table FunctionSpec) :
    (b.under root).functionsSteps w (FunctionSpec.allUnder root functions) =
      (b.rooted root).functionsSteps w functions := by
  have hentries : (FunctionSpec.allUnder root functions).entries =
      functions.entries.map fun e => (e.1, e.2.under root) := rfl
  rw [functionsSteps, functionsSteps, QueueChain.check_under, hentries]
  simp only [List.flatMap_map, functionSteps_under]

theorem computeSteps_under (branch : String) :
    (b.under root).computeSteps branch = (b.rooted root).computeSteps branch := by
  have hfunctions : (b.under root).spec.functions =
      FunctionSpec.allUnder root (b.rooted root).spec.functions := rfl
  have hempty : (b.under root).spec.functions.isEmpty =
      (b.rooted root).spec.functions.isEmpty := Table.isEmpty_map ..
  rw [computeSteps, computeSteps, hempty, hfunctions, functionsSteps_under]

end Functions

/-! ## Topics and apps -/

theorem topicSteps_under (key : String) (t : TopicSpec) :
    (b.under root).topicSteps key (t.under root) = (b.rooted root).topicSteps key t := by
  rw [topicSteps, topicSteps, TopicSpec.under]
  cases t.functions with
  | none => rfl
  | some functions =>
    simp only [Option.map_some, functionsSteps_under]
    rfl

theorem messagingSteps_under :
    (b.under root).messagingSteps = (b.rooted root).messagingSteps := by
  simp only [messagingSteps]
  have htopics : (b.under root).spec.topics = (b.rooted root).spec.topics.map fun topics =>
    topics.map fun _ t => t.under root := rfl
  rw [htopics]
  cases (b.rooted root).spec.topics with
  | none => rfl
  | some topics => simp [Table.map, List.flatMap_map, topicSteps_under]

/-- The policies of an app are read from the same files. -/
theorem fragments_under (a : AppSpec) (branch : String) :
    (b.under root).fragments (a.under root) branch = (b.rooted root).fragments a branch := by
  rw [fragments, fragments, AppSpec.under, List.mapM_map]
  rfl

theorem loginSteps_under (app : String) (a : AppSpec) :
    (b.under root).loginSteps app (a.under root) = (b.rooted root).loginSteps app a := by
  have hwants : (a.under root).wantsIdentityPool = a.wantsIdentityPool := by
    simp [AppSpec.wantsIdentityPool, AppSpec.under]
  have hidentity : ∀ pool, (b.under root).identitySteps app (a.under root) pool =
      (b.rooted root).identitySteps app a pool := by
    intro pool
    simp only [identitySteps, fragments_under]
    rfl
  simp only [loginSteps, hwants, hidentity]
  rfl

theorem frontendSteps_under : (b.under root).frontendSteps = (b.rooted root).frontendSteps := by
  simp only [frontendSteps]
  have happs : (b.under root).spec.apps = (b.rooted root).spec.apps.map fun apps =>
    apps.map fun _ a => a.under root := rfl
  rw [happs]
  cases (b.rooted root).spec.apps with
  | none => rfl
  | some apps =>
    simp only [Option.map_some, Table.map, List.flatMap_map, loginSteps_under]
    rfl

/-! ## The api -/

theorem routeKeys_under (key : String) (r : RouteSpec) :
    (b.under root).routeKeys key (r.under root) = (b.rooted root).routeKeys key r := by
  obtain ⟨routes, document, authorization⟩ := r
  cases routes <;> cases document <;> rfl

/-- The record of the routes of a document names it as the spec does, and is all that differs. -/
theorem effective_routeSteps_under (key : String) (r : RouteSpec) :
    effective ((b.under root).routeSteps key (r.under root)) =
      effective ((b.rooted root).routeSteps key r) := by
  have hfunctions : (b.under root).spec.functions.contains key =
      (b.rooted root).spec.functions.contains key := Table.contains_map ..
  have hnotes : ∀ r routes, effective (routeNotes key r routes) = [] := by
    intro r routes
    rw [routeNotes]
    split <;> rfl
  rw [routeSteps, routeSteps, hfunctions]
  split
  · rw [effective_orFail, effective_orFail, routeKeys_under]
    simp only [hnotes]
  · rfl

theorem firstUses_under (known : List AuthorizationSpec) (entries : List (String × RouteSpec)) :
    firstUses known (entries.map fun e => (e.1, e.2.under root)) = firstUses known entries := by
  induction entries generalizing known with
  | nil => rfl
  | cons e rest ih =>
    obtain ⟨key, r⟩ := e
    have hauthorization : (r.under root).authorization = r.authorization := rfl
    rw [List.map_cons, firstUses, firstUses, hauthorization]
    cases r.authorization with
    | none => exact ih known
    | some auth => simp only [ih]

theorem integrationSteps_under (g : GatewaySpec) (key : String) (r : RouteSpec) :
    (b.under root).integrationSteps (g.under root) key (r.under root) =
      (b.rooted root).integrationSteps g key r := by
  have hauthorizer : authorizer? (g.under root) (r.under root) = authorizer? g r := by
    have hauthorizers : authorizers (g.under root) = authorizers g := by
      rw [authorizers, authorizers]
      exact congrArg _ (firstUses_under root [] g.integrations.entries)
    rw [authorizer?, authorizer?, hauthorizers]
    rfl
  rw [integrationSteps, integrationSteps, routeKeys_under, hauthorizer]
  rfl

theorem authorizerSteps_under (g : GatewaySpec) :
    (b.under root).authorizerSteps (g.under root) = (b.rooted root).authorizerSteps g := by
  have hfirst : firstUses [] (g.under root).integrations.entries =
      firstUses [] g.integrations.entries := firstUses_under root [] g.integrations.entries
  rw [authorizerSteps, authorizerSteps, hfirst]
  rfl

theorem effective_gatewaySteps_under :
    effective (b.under root).gatewaySteps = effective (b.rooted root).gatewaySteps := by
  simp only [gatewaySteps]
  have hgateway : (b.under root).spec.gateway =
    (b.rooted root).spec.gateway.map (·.under root) := rfl
  rw [hgateway]
  cases (b.rooted root).spec.gateway with
  | none => rfl
  | some g =>
    have hentries : (g.under root).integrations.entries =
        g.integrations.entries.map fun e => (e.1, e.2.under root) := rfl
    simp only [Option.map_some, effective_append, effective_flatMap, hentries, List.flatMap_map,
      effective_routeSteps_under, authorizerSteps_under, integrationSteps_under]
    rfl

/-! ## Builds -/

/-- But for records, the steps are the same. -/
theorem effective_steps_under :
    effective (b.under root).steps = effective (b.rooted root).steps := by
  have hbranch : ∀ branch, (b.under root).branchSteps branch =
      (b.rooted root).branchSteps branch := by
    intro branch
    rw [branchSteps, branchSteps, computeSteps_under]
    rfl
  simp only [steps, effective_append, effective_flatMap, messagingSteps_under,
    frontendSteps_under, effective_gatewaySteps_under, hbranch]
  rfl

/-- **Roots are prefixes.**  A build with a root ends as a build without one does, where the root
has been put in front of all relative paths of the spec: with the same fault or with none.  Both
have made the same plan, have noted the same in the registry, and give the same warnings. -/
theorem build_under :
    (b.rooted root).build.2 = (b.under root).build.2 ∧
    (b.rooted root).build.1.plan = (b.under root).build.1.plan ∧
    (b.rooted root).build.1.registry = (b.under root).build.1.registry ∧
    (b.rooted root).build.1.warnings = (b.under root).build.1.warnings := by
  have htags : (b.rooted root).spec.tags = (b.under root).spec.tags := rfl
  obtain ⟨hfault, hmade⟩ := ends_unlogged htags (effective_steps_under b root).symm
  exact ⟨hfault, Progress.unlogged_eq_iff.1 hmade⟩

end Blueprint

end ServicePlan
