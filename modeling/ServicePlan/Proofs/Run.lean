import ServicePlan.Build.Step
import ServicePlan.Proofs.Plan

/-!
# What steps leave

A step that meets no fault leaves exactly what it says: the intent that it emits is at the end of
the plan, the entry that it registers at the end of the registry, and the phase that it completes
is complete.

* `Clean`, `Registered`: steps that name no fault, and steps that register a key.
* `Progress.Adds`: what steps have added to what was built before.
* `Progress.step_emit_cases`, `Progress.step_register_cases`, `Progress.step_require_cases`,
  `Progress.step_of_records`: all that a step can do.
-/

namespace ServicePlan

namespace Step

/-- The intent that a step emits. -/
def intent? : Step → Option Intent
  | .emit i => some i
  | _ => none

/-- The registry entry that a step makes. -/
def registration? : Step → Option (Registry.Key × Handle)
  | .register key handle => some (key, handle)
  | _ => none

/-- The phase that a step completes. -/
def phase? : Step → Option Phase
  | .complete phase => some phase
  | _ => none

/-- Whether a step only records that something happened. -/
def Records : Step → Prop
  | .note _ | .warn _ | .complete _ => True
  | .emit _ | .register _ _ | .require _ _ | .fail _ => False

theorem intent?_eq_some_iff {s : Step} {i : Intent} : s.intent? = some i ↔ s = .emit i := by
  cases s <;> simp [intent?]

theorem registration?_eq_some_iff {s : Step} {key : Registry.Key} {handle : Handle} :
    s.registration? = some (key, handle) ↔ s = .register key handle := by
  cases s <;> simp [registration?]

theorem phase?_eq_some_iff {s : Step} {phase : Phase} :
    s.phase? = some phase ↔ s = .complete phase := by
  cases s <;> simp [phase?]

end Step

variable {steps first second : List Step}

/-! ## Reading steps -/

/-- Steps none of which ends the build by itself. -/
def Clean (steps : List Step) : Prop := ∀ f, .fail f ∉ steps

theorem clean_append : Clean (first ++ second) ↔ Clean first ∧ Clean second := by
  simp only [Clean, List.mem_append, not_or, forall_and]

theorem Clean.subset (h : Clean second) (hsubset : first ⊆ second) : Clean first :=
  fun f hf => h f (hsubset hf)

/-- Steps that lead somewhere are those of a result. -/
theorem Clean.exists_eq_ok {α : Type} {r : Except Fault α} {next : α → List Step}
    (h : Clean (Step.orFail r next)) : ∃ a, r = .ok a ∧ Step.orFail r next = next a := by
  cases r with
  | ok a => exact ⟨a, rfl, rfl⟩
  | error f => exact absurd (List.mem_singleton.2 rfl) (h f)

/-- Steps that lead somewhere in a loop do so in each of its rounds. -/
theorem clean_flatMap {α : Type} {l : List α} {g : α → List Step} :
    Clean (l.flatMap g) ↔ ∀ a ∈ l, Clean (g a) := by
  simp only [Clean, List.mem_flatMap, not_exists, not_and]
  exact ⟨fun h a ha f hf => h f a ha hf, fun h f a ha hf => h a ha f hf⟩

/-- Steps among which there is one that registers a key. -/
def Registered (steps : List Step) (key : Registry.Key) : Prop := ∃ h, .register key h ∈ steps

theorem registered_append {key : Registry.Key} :
    Registered (first ++ second) key ↔ Registered first key ∨ Registered second key := by
  simp only [Registered, List.mem_append, exists_or]

theorem registered_singleton {s : Step} {key : Registry.Key} :
    Registered [s] key ↔ ∃ h, s = .register key h := by
  simp only [Registered, List.mem_singleton, eq_comm]

theorem Registered.subset {key : Registry.Key} (h : Registered first key)
    (hsubset : first ⊆ second) : Registered second key := by
  obtain ⟨handle, hmem⟩ := h
  exact ⟨handle, hsubset hmem⟩

/-- The end of a build registers nothing. -/
theorem Registered.exists_eq_ok {α : Type} {r : Except Fault α} {next : α → List Step}
    {key : Registry.Key} (h : Registered (Step.orFail r next) key) :
    ∃ a, r = .ok a ∧ Registered (next a) key := by
  cases r with
  | ok a => exact ⟨a, rfl, h⟩
  | error f =>
    obtain ⟨handle, hmem⟩ := h
    cases List.mem_singleton.1 hmem

theorem registered_flatMap {α : Type} {l : List α} {g : α → List Step} {key : Registry.Key} :
    Registered (l.flatMap g) key ↔ ∃ a ∈ l, Registered (g a) key := by
  simp only [Registered, List.mem_flatMap]
  constructor
  · rintro ⟨handle, a, ha, hmem⟩
    exact ⟨a, ha, handle, hmem⟩
  · rintro ⟨a, ha, handle, hmem⟩
    exact ⟨handle, a, ha, hmem⟩

/-- The intents of steps are those that they emit. -/
theorem mem_intents {i : Intent} : i ∈ steps.filterMap Step.intent? ↔ .emit i ∈ steps := by
  simp only [List.mem_filterMap, Step.intent?_eq_some_iff, exists_eq_right]

/-- The entries of steps are those that they register. -/
theorem mem_entries {key : Registry.Key} {handle : Handle} :
    (key, handle) ∈ steps.filterMap Step.registration? ↔ .register key handle ∈ steps := by
  simp only [List.mem_filterMap, Step.registration?_eq_some_iff, exists_eq_right]

/-- The phases of steps are those that they complete. -/
theorem mem_phases {phase : Phase} :
    phase ∈ steps.filterMap Step.phase? ↔ .complete phase ∈ steps := by
  simp only [List.mem_filterMap, Step.phase?_eq_some_iff, exists_eq_right]

namespace Progress

variable {p q r : Progress}

/-! ## Steps without a fault -/

/-- What steps have added to what was built before, when none of them has ended the build. -/
structure Adds (p : Progress) (steps : List Step) (q : Progress) : Prop where
  /-- The emitted intents are at the end of the plan. -/
  intents : q.plan.intents = p.plan.intents ++ steps.filterMap Step.intent?
  /-- The plan knows their resources. -/
  emitted : q.plan.emitted = p.plan.emitted ++ (steps.filterMap Step.intent?).map (·.handle)
  /-- The registered entries are at the end of the registry. -/
  entries : q.registry.entries = p.registry.entries ++ steps.filterMap Step.registration?
  /-- The completed phases are complete. -/
  completed : q.registry.completed = p.registry.completed ++ steps.filterMap Step.phase?
  /-- No step names a fault. -/
  clean : Clean steps

theorem Adds.nil (p : Progress) : p.Adds [] p := by
  constructor <;> simp [Clean]

theorem Adds.trans (hfirst : p.Adds first q) (hsecond : q.Adds second r) :
    p.Adds (first ++ second) r where
  intents := by rw [hsecond.intents, hfirst.intents, List.filterMap_append, List.append_assoc]
  emitted := by
    rw [hsecond.emitted, hfirst.emitted, List.filterMap_append, List.map_append,
      List.append_assoc]
  entries := by rw [hsecond.entries, hfirst.entries, List.filterMap_append, List.append_assoc]
  completed := by
    rw [hsecond.completed, hfirst.completed, List.filterMap_append, List.append_assoc]
  clean := clean_append.2 ⟨hfirst.clean, hsecond.clean⟩

/-- After steps from an empty registry, the keys with an entry are those that were registered. -/
theorem Adds.contains_iff (h : p.Adds steps q) (hempty : p.registry.entries = [])
    {key : Registry.Key} : q.registry.contains key = true ↔ Registered steps key := by
  rw [Registry.contains, Registry.get?, h.entries, hempty, List.nil_append,
    List.lookup_isSome_iff]
  constructor
  · rintro ⟨⟨k, handle⟩, hmem, heq⟩
    obtain rfl : key = k := eq_of_beq heq
    exact ⟨handle, mem_entries.1 hmem⟩
  · rintro ⟨handle, hmem⟩
    exact ⟨_, mem_entries.2 hmem, beq_self_eq_true key⟩

/-! ## Single steps -/

/-- Emitting an intent finds its resource in the plan, or finds that something it depends on is
missing there, or adds it. -/
theorem step_emit_cases (p : Progress) (i : Intent) :
    (p.plan.contains i.handle = true ∧ p.step (.emit i) = (p, some (.emittedTwice i.handle))) ∨
    (∃ missing ∈ i.dependsOn, p.plan.contains missing = false ∧
      p.step (.emit i) = (p, some (.missingDependency i.handle missing))) ∨
    (p.plan.contains i.handle = false ∧
      ∃ q, p.step (.emit i) = (q, none) ∧ p.Adds [.emit i] q) := by
  rcases p.plan.push_cases i with ⟨hc, h⟩ | ⟨missing, hm, -, hgone, h⟩ | ⟨hc, -, h⟩
  · exact .inl ⟨hc, by rw [step, emit, h]; rfl⟩
  · exact .inr (.inl ⟨missing, hm, hgone, by rw [step, emit, h]; rfl⟩)
  · refine .inr (.inr ⟨hc, _, by rw [step, emit, h]; rfl, ?_⟩)
    constructor <;> simp [Plan.add, Step.intent?, Step.registration?, Step.phase?, Clean]

/-- Registering a resource finds an entry for the key, or adds one. -/
theorem step_register_cases (p : Progress) (key : Registry.Key) (handle : Handle) :
    (p.registry.contains key = true ∧
      p.step (.register key handle) = (p, some (.registeredTwice key))) ∨
    (∃ q, p.step (.register key handle) = (q, none) ∧ p.Adds [.register key handle] q) := by
  cases hc : p.registry.contains key with
  | true => exact .inl ⟨rfl, by simp [step, register, Registry.write, hc, settle]; rfl⟩
  | false =>
    refine .inr ⟨_, by simp [step, register, Registry.write, hc, settle]; rfl, ?_⟩
    constructor <;> simp [Step.intent?, Step.registration?, Step.phase?, Clean]

/-- Requiring a key whose phase is complete finds that it has no entry, or goes on. -/
theorem step_require_cases (p : Progress) {key : Registry.Key} (requestedBy : String)
    (howner : ∀ owner, key.kind.owner? = some owner → p.registry.isCompleted owner = true) :
    (p.registry.contains key = false ∧
      ∃ q, p.step (.require key requestedBy) = (q, some (.unregistered key requestedBy))) ∨
    (p.registry.contains key = true ∧
      ∃ q, p.step (.require key requestedBy) = (q, none) ∧
        p.Adds [.require key requestedBy] q) := by
  -- the phase is complete or there is none to wait for, so the read finds what there is
  have hfind : p.registry.find key requestedBy =
      (p.registry.get? key).elim (.error (.unregistered key requestedBy)) .ok := by
    rw [Registry.find]
    cases hk : key.kind.owner? with
    | none => cases p.registry.get? key <;> rfl
    | some owner =>
      refine (if_pos (howner owner hk)).trans ?_
      cases p.registry.get? key <;> rfl
  cases hget : p.registry.get? key with
  | none =>
    rw [hget] at hfind
    exact .inl ⟨by simp [Registry.contains, hget],
      _, by rw [step, read, Registry.read, hfind]; rfl⟩
  | some handle =>
    rw [hget] at hfind
    refine .inr ⟨by simp [Registry.contains, hget],
      _, by rw [step, read, Registry.read, hfind]; rfl, ?_⟩
    constructor <;> simp [Registry.noteRead, Step.intent?, Step.registration?, Step.phase?, Clean]

/-- Nothing can go wrong in a step that only records something. -/
theorem step_of_records (p : Progress) {s : Step} (hs : s.Records) :
    ∃ q, p.step s = (q, none) ∧ p.Adds [s] q := by
  cases s with
  | note record =>
    refine ⟨_, rfl, ?_⟩
    constructor <;> simp [note, Step.intent?, Step.registration?, Step.phase?, Clean]
  | warn text =>
    refine ⟨_, rfl, ?_⟩
    constructor <;> simp [warn, Step.intent?, Step.registration?, Step.phase?, Clean]
  | complete phase =>
    refine ⟨_, rfl, ?_⟩
    constructor <;>
      simp [complete, Registry.complete, Step.intent?, Step.registration?, Step.phase?, Clean]
  | emit i => cases hs
  | register key handle => cases hs
  | require key requestedBy => cases hs
  | fail f => cases hs

end Progress

end ServicePlan
