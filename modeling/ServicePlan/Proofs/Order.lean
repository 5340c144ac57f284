import ServicePlan.Proofs.Closed
import ServicePlan.Proofs.Registry
import ServicePlan.Proofs.Run

/-!
# Steps in order

The steps of a build have an order that keeps a run out of trouble.  Each intent depends on what was
emitted or required before; each registry key is registered after its own resource was emitted, and
required after the phase that registers it.  The order is a property of the steps alone.  A run of
steps in order can still end for a reason that the spec is to blame for, or because two parts of the
spec are given one name.

* `Blueprint.Available`, `Blueprint.Pending`: what is known before a step.
* `Blueprint.Fits`, `Blueprint.Arranged`: a step, and steps, in order behind those before.
* `Blueprint.Traces`: what holds after a run without a fault; `Traces.step_cases` and
  `Traces.run_cases` carry it over one step and over many, up to a fault of `Blueprint.Ends`.
* `Blueprint.handleOf`, `Traces.eq_handleOf_of_find`: the resource that a key stands for is what the
  registry answers.
-/

namespace ServicePlan

/-- Whether a spec declares what a registry key stands for. -/
def ServiceSpec.Declares (s : ServiceSpec) (k : Registry.Key) : Prop :=
  match k.kind, k.branch with
  | .topic, _ => k.key ∈ s.topicTable.keys
  | .authClient, _ => s.HasLogin k.key
  | .gateway, _ => s.gateway.isSome
  | .function, some branch => branch ∈ s.branchNames ∧ k.key ∈ s.functions.keys
  | .function, none => ∃ e ∈ s.topicTable.entries, ∃ functions, e.2.functions = some functions ∧
      k.key ∈ functions.keys

namespace Blueprint

variable (b : Blueprint)

/-- The resource that a registry key stands for. -/
def handleOf (k : Registry.Key) : Handle :=
  match k.kind with
  | .topic => b.topicHandle k.key
  | .authClient => clientHandle k.key
  | .gateway => b.apiHandle
  | .function => .of .function (b.naming.function k.key k.branch)

@[simp] theorem handleOf_topicKey (key : String) :
    b.handleOf (topicKey key) = b.topicHandle key := rfl

@[simp] theorem handleOf_clientKey (app : String) :
    b.handleOf (clientKey app) = clientHandle app := rfl

@[simp] theorem handleOf_apiKey : b.handleOf b.apiKey = b.apiHandle := rfl

@[simp] theorem handleOf_functionKey (w : Wiring) (key : String) :
    b.handleOf (w.functionKey key) = b.functionHandle w key := rfl

@[simp] theorem handleOf_stateFunction (branch : String) (j : JobSpec) :
    b.handleOf ⟨.function, some branch, j.stateFunction⟩ = b.stateFunction branch j := rfl

/-- Every reference of the spec leads somewhere. -/
def Closed : Prop := b.spec.Closed b.references.catalog

/-- Whether a fault is one that the spec or its files are to blame for; references are only to blame
if they are not closed. -/
def Blames (f : Fault) : Prop :=
  f.kind ∈ [.form, .prerequisite, .identifier, .yaml] ∨ (f.kind = .reference ∧ ¬ b.Closed)

/-! ## What is known before a step -/

/-- Whether a step makes sure that a resource is in the plan. -/
def Grants (h : Handle) : Step → Prop
  | .emit i => i.handle = h
  | .require k _ => b.handleOf k = h
  | .note _ | .warn _ | .register _ _ | .complete _ | .fail _ => False

/-- Steps after which a resource is in the plan. -/
def Available (seen : List Step) (h : Handle) : Prop := ∃ s ∈ seen, b.Grants h s

/-- Steps that have emitted the resource of a registry key and have not registered the key since. -/
def Pending (seen : List Step) (k : Registry.Key) : Prop :=
  ∃ before i after, seen = before ++ .emit i :: after ∧ i.handle = b.handleOf k ∧
    ¬ Registered after k

variable {b} {seen first second : List Step}

@[simp] theorem available_append {h : Handle} :
    b.Available (first ++ second) h ↔ b.Available first h ∨ b.Available second h := by
  simp only [Available, List.mem_append, or_and_right, exists_or]

@[simp] theorem available_cons {s : Step} {h : Handle} :
    b.Available (s :: seen) h ↔ b.Grants h s ∨ b.Available seen h := by
  simp only [Available, List.mem_cons, or_and_right, exists_or, exists_eq_left]

@[simp] theorem not_available_nil {h : Handle} : ¬ b.Available [] h := by
  simp [Available]

/-- An intent that has been emitted is in the plan. -/
theorem available_of_emit {i : Intent} (h : .emit i ∈ seen) : b.Available seen i.handle :=
  ⟨_, h, rfl⟩

/-- A key that is pending after a step was pending before, or the step has emitted its resource. -/
theorem Pending.snoc {s : Step} {k : Registry.Key} (h : b.Pending (seen ++ [s]) k) :
    (∃ i, s = .emit i ∧ i.handle = b.handleOf k) ∨ (b.Pending seen k ∧ ¬ Registered [s] k) := by
  obtain ⟨before, i, after, hsplit, hi, hafter⟩ := h
  obtain ⟨-, -, hlast⟩ | ⟨rest, rfl, rfl⟩ := append_singleton_eq_append_cons hsplit
  · exact .inl ⟨i, hlast, hi⟩
  · rw [registered_append, not_or] at hafter
    exact .inr ⟨⟨before, i, rest, rfl, hi, hafter.1⟩, hafter.2⟩

/-! ## Order -/

variable (b) in
/-- Whether a step is in order behind those before it. -/
def Fits (seen : List Step) : Step → Prop
  | .emit i => ∀ h ∈ i.dependsOn, b.Available seen h
  | .register k h => h = b.handleOf k ∧ b.spec.Declares k ∧ b.Pending seen k
  | .require k _ =>
    (∀ owner, k.kind.owner? = some owner → .complete owner ∈ seen) ∧ (b.Closed → Registered seen k)
  | .fail f => b.Blames f
  | .note _ | .warn _ | .complete _ => True

variable (b) in
/-- Whether all steps are in order behind those before them.  Nothing is asked of steps behind one
that ends the build, because they are not made. -/
def Arranged : List Step → List Step → Prop
  | _, [] => True
  | seen, s :: rest => (Clean seen → b.Fits seen s) ∧ Arranged (seen ++ [s]) rest

@[simp] theorem arranged_nil : b.Arranged seen [] := trivial

@[simp] theorem arranged_cons {s : Step} {rest : List Step} :
    b.Arranged seen (s :: rest) ↔ (Clean seen → b.Fits seen s) ∧ b.Arranged (seen ++ [s]) rest :=
  Iff.rfl

theorem arranged_append :
    b.Arranged seen (first ++ second) ↔
      b.Arranged seen first ∧ b.Arranged (seen ++ first) second := by
  induction first generalizing seen with
  | nil => simp
  | cons s rest ih => simp [ih, and_assoc]

/-- Steps that come behind the end of a build are in order. -/
theorem arranged_of_not_clean {steps : List Step} (h : ¬ Clean seen) : b.Arranged seen steps := by
  induction steps generalizing seen with
  | nil => exact arranged_nil
  | cons s rest ih =>
    exact ⟨fun hclean => absurd hclean h, ih fun hclean => h (clean_append.1 hclean).1⟩

/-- It is enough to look at steps that come before the end of a build. -/
theorem arranged_of_clean {steps : List Step} (h : Clean seen → b.Arranged seen steps) :
    b.Arranged seen steps := by
  by_cases hclean : Clean seen
  · exact h hclean
  · exact arranged_of_not_clean hclean

/-- The steps of a loop are in order if those of each round are, whatever rounds came before. -/
theorem arranged_flatMap {α : Type} {l : List α} {g : α → List Step}
    (h : ∀ a ∈ l, ∀ done, b.Arranged (seen ++ done) (g a)) : b.Arranged seen (l.flatMap g) := by
  induction l generalizing seen with
  | nil => exact arranged_nil
  | cons a rest ih =>
    rw [List.flatMap_cons, arranged_append]
    constructor
    · simpa using h a (List.mem_cons_self ..) []
    · refine ih fun x hx done => ?_
      rw [List.append_assoc]
      exact h x (List.mem_cons_of_mem a hx) (g a ++ done)

/-- Intents that depend on what is known before are in order. -/
theorem arranged_emits {α : Type} {l : List α} {g : α → Intent}
    (h : ∀ a ∈ l, ∀ d ∈ (g a).dependsOn, b.Available seen d) :
    b.Arranged seen (l.map fun a => .emit (g a)) := by
  induction l generalizing seen with
  | nil => exact arranged_nil
  | cons a rest ih =>
    refine ⟨fun _ => h a (List.mem_cons_self ..), ih fun x hx d hd => ?_⟩
    exact available_append.2 (.inl (h x (List.mem_cons_of_mem a hx) d hd))

/-- The steps behind a result are in order if its faults are to blame and all else leads to steps in
order. -/
theorem arranged_orFail {α : Type} {r : Except Fault α} {next : α → List Step}
    (hfail : ∀ f, r = .error f → b.Blames f) (hok : ∀ a, r = .ok a → b.Arranged seen (next a)) :
    b.Arranged seen (Step.orFail r next) := by
  cases r with
  | ok a => exact hok a rfl
  | error f => exact ⟨fun _ => hfail f rfl, arranged_nil⟩

/-! ## Runs -/

variable (b) in
/-- What holds after a run that has met no fault. -/
structure Traces (seen : List Step) (p : Progress) : Prop where
  /-- The run has added what the steps say. -/
  adds : b.start.Adds seen p
  /-- What is registered is declared by the spec, and it has been emitted. -/
  backed : ∀ k, Registered seen k →
    b.spec.Declares k ∧ ∃ i, .emit i ∈ seen ∧ i.handle = b.handleOf k
  /-- It is registered as the resource that its key stands for. -/
  handles : ∀ k h, .register k h ∈ seen → h = b.handleOf k
  /-- What is pending is not registered. -/
  fresh : ∀ k, b.Pending seen k → ¬ Registered seen k
  /-- What is required is registered. -/
  required : ∀ k requestedBy, .require k requestedBy ∈ seen → Registered seen k

theorem traces_start : b.Traces [] b.start where
  adds := .nil _
  backed k h := by simp [Registered] at h
  handles k h hmem := by cases hmem
  fresh k _ h := by simp [Registered] at h
  required k requestedBy h := by cases h

namespace Traces

variable {p q : Progress}

/-- The plan has what was emitted. -/
theorem contains_iff (hp : b.Traces seen p) {h : Handle} :
    p.plan.contains h = true ↔ ∃ i, .emit i ∈ seen ∧ i.handle = h := by
  rw [Plan.contains, hp.adds.emitted]
  simp [start, Plan.new, mem_intents, -List.mem_filterMap]

/-- The registry has what was registered. -/
theorem registry_contains_iff (hp : b.Traces seen p) {k : Registry.Key} :
    p.registry.contains k = true ↔ Registered seen k :=
  hp.adds.contains_iff rfl

/-- The phases that were completed are complete. -/
theorem isCompleted_iff (hp : b.Traces seen p) {phase : Phase} :
    p.registry.isCompleted phase = true ↔ .complete phase ∈ seen := by
  rw [Registry.isCompleted, hp.adds.completed]
  simp [start, Registry.empty, mem_phases, -List.mem_filterMap]

/-- What is available is in the plan: what was required was registered, and so it was emitted. -/
theorem contains_of_available (hp : b.Traces seen p) {h : Handle} (ha : b.Available seen h) :
    p.plan.contains h = true := by
  obtain ⟨s, hs, hgrants⟩ := ha
  cases s with
  | emit i => exact hp.contains_iff.2 ⟨i, hs, hgrants⟩
  | require k requestedBy =>
    obtain ⟨-, i, hi, hhandle⟩ := hp.backed k (hp.required k requestedBy hs)
    exact hp.contains_iff.2 ⟨i, hi, hhandle.trans hgrants⟩
  | note record => cases hgrants
  | warn text => cases hgrants
  | register k handle => cases hgrants
  | complete phase => cases hgrants
  | fail f => cases hgrants

/-- What the registry answers is the resource that the key stands for. -/
theorem eq_handleOf_of_find (hp : b.Traces seen p) {k : Registry.Key} {requestedBy : String}
    {h : Handle} (hfind : p.registry.find k requestedBy = .ok h) : h = b.handleOf k := by
  have hget : p.registry.entries.lookup k = some h := (Registry.find_eq_ok_iff.1 hfind).1
  have hentries : p.registry.entries = seen.filterMap Step.registration? := hp.adds.entries
  obtain ⟨before, after, hsplit, -⟩ := List.lookup_eq_some_iff.1 (hentries ▸ hget)
  have hmem : (k, h) ∈ seen.filterMap Step.registration? :=
    hsplit ▸ List.mem_append_right before (List.mem_cons_self ..)
  exact hp.handles k h (mem_entries.1 hmem)

/-- One more step keeps what holds, if it emits only what is new, registers only what is declared
and pending, as the resource of its key, and requires only what is registered.  A key that becomes
pending was not registered before, since its resource would have been emitted before. -/
theorem snoc (hp : b.Traces seen p) {s : Step} (hadds : p.Adds [s] q)
    (hemit : ∀ i, s = .emit i → p.plan.contains i.handle = false)
    (hregister : ∀ k h, s = .register k h →
      h = b.handleOf k ∧ b.spec.Declares k ∧ b.Pending seen k)
    (hrequire : ∀ k requestedBy, s = .require k requestedBy → Registered seen k) :
    b.Traces (seen ++ [s]) q where
  adds := hp.adds.trans hadds
  backed k hk := by
    obtain hk | hk := registered_append.1 hk
    · obtain ⟨hdeclared, i, hi, hhandle⟩ := hp.backed k hk
      exact ⟨hdeclared, i, List.mem_append_left _ hi, hhandle⟩
    · obtain ⟨h, hs⟩ := registered_singleton.1 hk
      obtain ⟨-, hdeclared, before, i, after, rfl, hhandle, -⟩ := hregister k h hs
      exact ⟨hdeclared, i, by simp, hhandle⟩
  handles k h hmem := by
    obtain hmem | hmem := List.mem_append.1 hmem
    · exact hp.handles k h hmem
    · exact (hregister k h (List.mem_singleton.1 hmem).symm).1
  fresh k hk hreg := by
    obtain ⟨i, rfl, hi⟩ | ⟨hpending, hnot⟩ := hk.snoc
    · obtain hreg | hreg := registered_append.1 hreg
      · obtain ⟨-, j, hj, hhandle⟩ := hp.backed k hreg
        have hold := hp.contains_iff.2 ⟨j, hj, hhandle.trans hi.symm⟩
        rw [hemit i rfl] at hold
        cases hold
      · obtain ⟨h, hs⟩ := registered_singleton.1 hreg
        cases hs
    · exact (registered_append.1 hreg).elim (hp.fresh k hpending) hnot
  required k requestedBy hk := by
    obtain hk | hk := List.mem_append.1 hk
    · exact registered_append.2 (.inl (hp.required k requestedBy hk))
    · exact registered_append.2 (.inl (hrequire k requestedBy (List.mem_singleton.1 hk).symm))

end Traces

/-- The faults that end a build at a step in order: the step names one, or something that it
requires is not registered, or its resource was emitted before. -/
inductive Ends (seen : List Step) : Step → Fault → Prop
  /-- The step names the fault. -/
  | fail (f : Fault) : Ends seen (.fail f) f
  /-- What is required is not registered. -/
  | unregistered {k : Registry.Key} (requestedBy : String) (h : ¬ Registered seen k) :
      Ends seen (.require k requestedBy) (.unregistered k requestedBy)
  /-- The resource was emitted before. -/
  | emittedTwice {i j : Intent} (hj : .emit j ∈ seen) (h : j.handle = i.handle) :
      Ends seen (.emit i) (.emittedTwice i.handle)

variable (b) in
/-- What may come of steps: all of them are made, or the spec is to blame, or a name is given
twice. -/
def Outcome (seen : List Step) : Progress × Option Fault → Prop
  | (p, none) => b.Traces seen p
  | (_, some f) => b.Blames f ∨ ∃ h, f = .emittedTwice h

/-- A fault that ends a build at a step in order is one to blame, or a name is given twice. -/
theorem Ends.blames {s : Step} {f : Fault} (h : Ends seen s f) (hs : b.Fits seen s) :
    b.Blames f ∨ ∃ handle, f = .emittedTwice handle := by
  cases h with
  | fail => exact .inl hs
  | unregistered requestedBy hnot => exact .inl (.inr ⟨rfl, fun hclosed => hnot (hs.2 hclosed)⟩)
  | emittedTwice hj hhandle => exact .inr ⟨_, rfl⟩

namespace Traces

variable {p : Progress}

/-- A step that only records something goes on. -/
theorem step_of_records (hp : b.Traces seen p) {s : Step} (hs : s.Records) :
    ∃ q, p.step s = (q, none) ∧ b.Traces (seen ++ [s]) q := by
  obtain ⟨q, h, hadds⟩ := p.step_of_records hs
  exact ⟨q, h, hp.snoc hadds (by rintro _ rfl; cases hs) (by rintro _ _ rfl; cases hs)
    (by rintro _ _ rfl; cases hs)⟩

/-- A step in order goes on, or it ends the build for one of the reasons there are. -/
theorem step_cases (hp : b.Traces seen p) {s : Step} (hs : b.Fits seen s) :
    (∃ q, p.step s = (q, none) ∧ b.Traces (seen ++ [s]) q) ∨
      ∃ q f, p.step s = (q, some f) ∧ Ends seen s f := by
  cases s with
  | emit i =>
    obtain ⟨hold, h⟩ | ⟨missing, hmem, hgone, -⟩ | ⟨hnew, q, h, hadds⟩ := p.step_emit_cases i
    · obtain ⟨j, hj, hhandle⟩ := hp.contains_iff.1 hold
      exact .inr ⟨p, _, h, .emittedTwice hj hhandle⟩
    · rw [hp.contains_of_available (hs missing hmem)] at hgone
      cases hgone
    · exact .inl ⟨q, h,
        hp.snoc hadds (by rintro _ ⟨⟩; exact hnew) (by rintro _ _ ⟨⟩) (by rintro _ _ ⟨⟩)⟩
  | register k handle =>
    obtain ⟨hhandle, hdeclared, hpending⟩ := hs
    obtain ⟨hold, -⟩ | ⟨q, h, hadds⟩ := p.step_register_cases k handle
    · exact absurd (hp.registry_contains_iff.1 hold) (hp.fresh k hpending)
    · exact .inl ⟨q, h, hp.snoc hadds (by rintro _ ⟨⟩)
        (by rintro _ _ ⟨⟩; exact ⟨hhandle, hdeclared, hpending⟩) (by rintro _ _ ⟨⟩)⟩
  | require k requestedBy =>
    have hread : ∀ owner, k.kind.owner? = some owner → p.registry.isCompleted owner = true :=
      fun owner ho => hp.isCompleted_iff.2 (hs.1 owner ho)
    obtain ⟨hnone, q, h⟩ | ⟨hsome, q, h, hadds⟩ := p.step_require_cases requestedBy hread
    · refine .inr ⟨q, _, h, .unregistered requestedBy fun hreg => ?_⟩
      rw [hp.registry_contains_iff.2 hreg] at hnone
      cases hnone
    · exact .inl ⟨q, h, hp.snoc hadds (by rintro _ ⟨⟩) (by rintro _ _ ⟨⟩)
        (by rintro _ _ ⟨⟩; exact hp.registry_contains_iff.1 hsome)⟩
  | fail f => exact .inr ⟨p, f, rfl, .fail f⟩
  | note record => exact .inl (hp.step_of_records trivial)
  | warn text => exact .inl (hp.step_of_records trivial)
  | complete phase => exact .inl (hp.step_of_records trivial)

/-- Steps in order are all made, or one of them ends the build for one of the reasons there are. -/
theorem run_cases (hp : b.Traces seen p) {steps : List Step} (hsteps : b.Arranged seen steps) :
    (∃ q, p.run steps = (q, none) ∧ b.Traces (seen ++ steps) q) ∨
      ∃ before s after q f, steps = before ++ s :: after ∧ p.run steps = (q, some f) ∧
        b.Fits (seen ++ before) s ∧ Ends (seen ++ before) s f := by
  induction steps generalizing seen p with
  | nil => exact .inl ⟨p, rfl, by rwa [List.append_nil]⟩
  | cons s rest ih =>
    have hs := hsteps.1 hp.adds.clean
    obtain ⟨q, h, hq⟩ | ⟨q, f, h, hends⟩ := hp.step_cases hs
    · have hrun : p.run (s :: rest) = q.run rest := by simp only [Progress.run, h]
      rw [hrun]
      obtain ⟨r, hr, htraces⟩ | ⟨before, t, after, r, f, rfl, hr, hfits, hends⟩ := ih hq hsteps.2
      · exact .inl ⟨r, hr, by rwa [List.append_assoc] at htraces⟩
      · rw [List.append_assoc] at hfits hends
        exact .inr ⟨s :: before, t, after, r, f, rfl, hr, hfits, hends⟩
    · refine .inr ⟨[], s, rest, q, f, rfl, by simp only [Progress.run, h], ?_, ?_⟩
      · rwa [List.append_nil]
      · rwa [List.append_nil]

/-- Steps in order are all made, or the build ends for a good reason. -/
theorem run (hp : b.Traces seen p) {steps : List Step} (hsteps : b.Arranged seen steps) :
    b.Outcome (seen ++ steps) (p.run steps) := by
  obtain ⟨q, h, hq⟩ | ⟨before, s, after, q, f, rfl, h, hfits, hends⟩ := hp.run_cases hsteps
  · rw [h]
    exact hq
  · rw [h]
    exact hends.blames hfits

end Traces

end Blueprint

end ServicePlan
