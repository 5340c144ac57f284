import Mathlib.Data.List.Nodup
import ServicePlan.Build.Step
import ServicePlan.Splits

/-!
# What the registry sees to

The registry refuses a second entry for a key, and a read finds nothing before the phase that owns
the key is complete.  So there is an order in what the registry has noted after a run without a
fault, whatever the steps of the run are.

* `Registry.Follows`: the reads in a journal come behind what they need.
* `Registry.Consistent`: the journal tells what is in the registry, in such an order;
  `Progress.consistent_step` and `Progress.consistent_run` carry it over one step and over many.
* `Step.event?`, `recorded`: what steps have the registry note.
-/

namespace ServicePlan

namespace Registry

namespace Event

/-- The key that was written. -/
@[simp] def written? : Event → Option Key
  | .written key => some key
  | .read _ | .completed _ => none

/-- The phase that was completed. -/
@[simp] def completed? : Event → Option Phase
  | .completed phase => some phase
  | .written _ | .read _ => none

theorem written?_eq_some_iff {e : Event} {key : Key} :
    e.written? = some key ↔ e = .written key := by
  cases e <;> simp

theorem completed?_eq_some_iff {e : Event} {phase : Phase} :
    e.completed? = some phase ↔ e = .completed phase := by
  cases e <;> simp

end Event

variable {r s : Registry} {journal : List Event} {key : Key} {handle : Handle} {phase : Phase}

/-! ## Single operations -/

/-- There is an entry for a key if it is the key of one. -/
theorem contains_iff_mem_keys : r.contains key = true ↔ key ∈ r.entries.map (·.1) := by
  rw [contains, get?, List.lookup_isSome_iff, List.mem_map]
  constructor
  · rintro ⟨e, he, heq⟩
    exact ⟨e, he, (eq_of_beq heq).symm⟩
  · rintro ⟨e, he, rfl⟩
    exact ⟨e, he, beq_self_eq_true e.1⟩

/-- A write that succeeds has found no entry. -/
theorem write_eq_ok_iff : r.write key handle = .ok s ↔
    r.contains key = false ∧ s = { r with
      entries := r.entries ++ [(key, handle)], journal := r.journal ++ [.written key] } := by
  rw [write]
  cases r.contains key <;> simp [eq_comm]

/-- A read succeeds if it finds an entry, and the phase that owns the key complete. -/
theorem find_eq_ok_iff {requestedBy : String} : r.find key requestedBy = .ok handle ↔
    r.get? key = some handle ∧
      ∀ owner, key.kind.owner? = some owner → r.isCompleted owner = true := by
  rw [find]
  cases key.kind.owner? with
  | none => cases r.get? key <;> simp
  | some owner =>
    cases hcomplete : r.isCompleted owner with
    | false => simp [hcomplete]
    | true => cases r.get? key <;> simp [hcomplete]

/-! ## Journals in order -/

/-- What a journal has to say before a key is read: that it was written, and that its owner is
complete if it has one. -/
def Readable (journal : List Event) (key : Key) : Prop :=
  .written key ∈ journal ∧ ∀ owner, key.kind.owner? = some owner → .completed owner ∈ journal

/-- Whether each read in a journal comes behind what it needs. -/
def Follows (journal : List Event) : Prop :=
  ∀ before key after, journal = before ++ .read key :: after → Readable before key

theorem follows_nil : Follows [] := by
  intro before key after hsplit
  simp at hsplit

/-- One more event keeps the order, if it is not a read or comes behind what it needs. -/
theorem Follows.concat (h : Follows journal) {e : Event}
    (he : ∀ key, e = .read key → Readable journal key) : Follows (journal ++ [e]) := by
  intro before key after hsplit
  obtain ⟨-, rfl, hlast⟩ | ⟨rest, -, rfl⟩ := append_singleton_eq_append_cons hsplit
  · exact he key hlast
  · exact h before key rest rfl

/-! ## Consistency -/

/-- The journal tells what is in the registry, and it is in order. -/
structure Consistent (r : Registry) : Prop where
  /-- The keys with an entry are those that were written. -/
  written : r.journal.filterMap Event.written? = r.entries.map (·.1)
  /-- The complete phases are those that were completed. -/
  completed : r.journal.filterMap Event.completed? = r.completed
  /-- No key has two entries. -/
  once : (r.entries.map (·.1)).Nodup
  /-- Reads come behind what they need. -/
  follows : Follows r.journal

theorem consistent_empty : empty.Consistent where
  written := rfl
  completed := rfl
  once := List.nodup_nil
  follows := follows_nil

namespace Consistent

/-- There is an entry for what was written. -/
theorem contains_iff (hr : r.Consistent) : r.contains key = true ↔ .written key ∈ r.journal := by
  rw [contains_iff_mem_keys, ← hr.written, List.mem_filterMap]
  simp only [Event.written?_eq_some_iff, exists_eq_right]

/-- What was completed is complete. -/
theorem isCompleted_iff (hr : r.Consistent) :
    r.isCompleted phase = true ↔ .completed phase ∈ r.journal := by
  rw [isCompleted, List.contains_iff_mem, ← hr.completed, List.mem_filterMap]
  simp only [Event.completed?_eq_some_iff, exists_eq_right]

theorem write (hr : r.Consistent) (h : r.write key handle = .ok s) : s.Consistent := by
  obtain ⟨hnew, rfl⟩ := write_eq_ok_iff.1 h
  have hnot : key ∉ r.entries.map (·.1) := fun hold => by
    rw [contains_iff_mem_keys.2 hold] at hnew
    cases hnew
  constructor
  case written => simp [hr.written]
  case completed => simp [hr.completed]
  case once =>
    rw [List.map_append]
    exact hr.once.append (List.nodup_singleton key) (List.disjoint_singleton.2 hnot)
  case follows => exact hr.follows.concat (by rintro _ ⟨⟩)

theorem noteRead (hr : r.Consistent) {requestedBy : String}
    (h : r.find key requestedBy = .ok handle) : (r.noteRead key).Consistent := by
  obtain ⟨hget, howner⟩ := find_eq_ok_iff.1 h
  have hcontains : r.contains key = true := by rw [contains, hget, Option.isSome_some]
  constructor
  case written => simp [Registry.noteRead, hr.written]
  case completed => simp [Registry.noteRead, hr.completed]
  case once => exact hr.once
  case follows =>
    refine hr.follows.concat ?_
    rintro _ ⟨⟩
    exact ⟨hr.contains_iff.1 hcontains,
      fun owner hsome => hr.isCompleted_iff.1 (howner owner hsome)⟩

theorem complete (hr : r.Consistent) (phase : Phase) : (r.complete phase).Consistent where
  written := by simp [Registry.complete, hr.written]
  completed := by simp [Registry.complete, hr.completed]
  once := hr.once
  follows := hr.follows.concat (by rintro _ ⟨⟩)

end Consistent

end Registry

/-! ## Steps -/

/-- What a step has the registry note, unless it fails. -/
@[simp] def Step.event? : Step → Option Registry.Event
  | .register key _ => some (.written key)
  | .require key _ => some (.read key)
  | .complete phase => some (.completed phase)
  | .note _ | .warn _ | .emit _ | .fail _ => none

/-- What steps have the registry note. -/
def recorded (steps : List Step) : List Registry.Event := steps.filterMap Step.event?

namespace Progress

variable {p q : Progress} {s : Step} {steps : List Step}

/-- All that a step without a fault can do to the registry. -/
theorem registry_step_cases (h : p.step s = (q, none)) :
    (s.event? = none ∧ q.registry = p.registry) ∨
    (∃ key handle, s = .register key handle ∧ p.registry.write key handle = .ok q.registry) ∨
    (∃ key requestedBy handle, s = .require key requestedBy ∧
      p.registry.find key requestedBy = .ok handle ∧ q.registry = p.registry.noteRead key) ∨
    (∃ phase, s = .complete phase ∧ q.registry = p.registry.complete phase) := by
  cases s with
  | note record =>
    cases h
    exact .inl ⟨rfl, rfl⟩
  | warn text =>
    cases h
    exact .inl ⟨rfl, rfl⟩
  | emit i =>
    refine .inl ⟨rfl, ?_⟩
    rw [step, emit] at h
    split at h
    · cases h
      rfl
    · cases h
  | register key handle =>
    refine .inr (.inl ⟨key, handle, rfl, ?_⟩)
    cases hwrite : p.registry.write key handle with
    | error f => simp [step, register, settle, hwrite, bind, Except.bind] at h
    | ok r =>
      simp only [step, register, settle, hwrite, bind, Except.bind, Prod.mk.injEq] at h
      rw [← h.1]
  | require key requestedBy =>
    cases hfind : p.registry.find key requestedBy with
    | error f => simp [step, read, Registry.read, hfind] at h
    | ok handle =>
      refine .inr (.inr (.inl ⟨key, requestedBy, handle, rfl, hfind, ?_⟩))
      simp only [step, read, Registry.read, hfind, Prod.mk.injEq] at h
      rw [← h.1]
  | complete phase =>
    cases h
    exact .inr (.inr (.inr ⟨phase, rfl, rfl⟩))
  | fail f => cases h

/-- A step without a fault keeps the registry consistent. -/
theorem consistent_step (hp : p.registry.Consistent) (h : p.step s = (q, none)) :
    q.registry.Consistent := by
  obtain ⟨-, hq⟩ | ⟨key, handle, -, hwrite⟩ | ⟨key, _, handle, -, hfind, hq⟩ | ⟨phase, -, hq⟩ :=
    registry_step_cases h
  · rwa [hq]
  · exact hp.write hwrite
  · rw [hq]
    exact hp.noteRead hfind
  · rw [hq]
    exact hp.complete phase

/-- A run without a fault keeps the registry consistent. -/
theorem consistent_run (hp : p.registry.Consistent) (h : p.run steps = (q, none)) :
    q.registry.Consistent :=
  run_induction (P := fun _ r => r.registry.Consistent) h hp fun _ _ _ _ hr hs =>
    consistent_step hr hs

/-- A step without a fault has its event noted at the end of the journal. -/
theorem journal_step (h : p.step s = (q, none)) :
    q.registry.journal = p.registry.journal ++ s.event?.toList := by
  obtain ⟨hs, hq⟩ | ⟨key, handle, rfl, hwrite⟩ | ⟨key, _, _, rfl, -, hq⟩ | ⟨phase, rfl, hq⟩ :=
    registry_step_cases h
  · rw [hs, hq, Option.toList_none, List.append_nil]
  · simp [(Registry.write_eq_ok_iff.1 hwrite).2]
  · simp [hq, Registry.noteRead]
  · simp [hq, Registry.complete]

/-- A run without a fault has the events of its steps noted at the end of the journal. -/
theorem journal_run (h : p.run steps = (q, none)) :
    q.registry.journal = p.registry.journal ++ recorded steps := by
  refine run_induction (P := fun seen r => r.registry.journal = p.registry.journal ++ recorded seen)
    h (by simp [recorded]) fun seen s r t hr hs => ?_
  rw [journal_step hs, hr, recorded, recorded, List.filterMap_append, List.append_assoc]
  cases s <;> rfl

end Progress

end ServicePlan
