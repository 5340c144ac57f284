import ServicePlan.Log
import ServicePlan.Plan.Basic
import ServicePlan.Registry.Basic

/-!
# Steps of a build

Each phase of a build is a list of steps that the spec alone determines.  Running the steps fills
the plan, the registry, the warnings and the log, and ends at the first fault.

* `Step`: what a phase may do.
* `Progress`: what has been built so far, with its operations `emit`, `register`, `read` and
  `complete`.
* `Progress.run`: runs steps; `run_append` splits a run, and `run_induction` carries what every step
  keeps over a run without a fault.
-/

namespace ServicePlan

/-- A step of a build. -/
inductive Step
  /-- Adds a record to the log. -/
  | note (record : Record)
  /-- Adds a warning. -/
  | warn (text : String)
  /-- Adds an intent to the plan. -/
  | emit (intent : Intent)
  /-- Enters a resource in the registry. -/
  | register (key : Registry.Key) (handle : Handle)
  /-- Makes sure that the registry has an entry that may be read. -/
  | require (key : Registry.Key) (requestedBy : String)
  /-- Completes a phase. -/
  | complete (phase : Phase)
  /-- Ends the build. -/
  | fail (fault : Fault)

namespace Step

/-- Adds a text to the log. -/
def info (text : String) : Step := .note ⟨.info, text⟩

/-- The steps that a result leads to, or the end of the build where there is none. -/
def orFail {α : Type} (r : Except Fault α) (steps : α → List Step) : List Step :=
  match r with
  | .ok a => steps a
  | .error f => [.fail f]

end Step

/-- What has been built so far. -/
structure Progress where
  /-- The plan. -/
  plan : Plan
  /-- The registry. -/
  registry : Registry := .empty
  /-- The warnings. -/
  warnings : List String := []
  /-- The log. -/
  log : List Record := []

namespace Progress

/-- Adds a record to the log. -/
def note (p : Progress) (r : Record) : Progress := { p with log := p.log ++ [r] }

/-- Adds a warning, which the log gets too. -/
def warn (p : Progress) (text : String) : Progress :=
  { p with warnings := p.warnings ++ [text], log := p.log ++ [⟨.warn, text⟩] }

/-- Adds an intent to the plan. -/
def emit (p : Progress) (i : Intent) : Except Fault Progress :=
  match p.plan.push i with
  | (plan, .ok h) =>
    .ok { p with plan, log := p.log ++ [⟨.debug, "[" ++ i.phase.label ++ "] " ++ h.text⟩] }
  | (_, .error f) => .error f

/-- Enters a resource in the registry. -/
def register (p : Progress) (key : Registry.Key) (handle : Handle) : Except Fault Progress := do
  let registry ← p.registry.write key handle
  .ok { p with
    registry, log := p.log ++ [⟨.debug, "register " ++ key.describe ++ " -> " ++ handle.text⟩] }

/-- Reads an entry of the registry. -/
def read (p : Progress) (key : Registry.Key) (requestedBy : String) :
    Progress × Except Fault Handle :=
  let (registry, found) := p.registry.read key requestedBy
  ({ p with registry }, found)

/-- Completes a phase. -/
def complete (p : Progress) (phase : Phase) : Progress :=
  { p with
    registry := p.registry.complete phase
    log := p.log ++ [⟨.debug, phase.label ++ " phase completed"⟩] }

/-- What comes of a result: a fault leaves everything as it was. -/
def settle (p : Progress) : Except Fault Progress → Progress × Option Fault
  | .ok p => (p, none)
  | .error f => (p, some f)

/-- Makes a step. -/
def step (p : Progress) : Step → Progress × Option Fault
  | .note r => (p.note r, none)
  | .warn text => (p.warn text, none)
  | .emit i => p.settle (p.emit i)
  | .register key handle => p.settle (p.register key handle)
  | .require key requestedBy =>
    match p.read key requestedBy with
    | (p, .ok _) => (p, none)
    | (p, .error f) => (p, some f)
  | .complete phase => (p.complete phase, none)
  | .fail f => (p, some f)

/-- Makes steps up to the first fault. -/
def run (p : Progress) : List Step → Progress × Option Fault
  | [] => (p, none)
  | s :: rest =>
    match p.step s with
    | (p, none) => run p rest
    | (p, some f) => (p, some f)

/-- Running two lists of steps one after another. -/
theorem run_append (p : Progress) (first second : List Step) :
    p.run (first ++ second) =
      match p.run first with
      | (q, none) => q.run second
      | (q, some f) => (q, some f) := by
  induction first generalizing p with
  | nil => rfl
  | cons s rest ih =>
    simp only [List.cons_append, run]
    split
    · exact ih _
    · rfl

/-- What holds before a run and is kept by every step without a fault holds after a run without a
fault.  It may speak of the steps that have been made. -/
theorem run_induction {P : List Step → Progress → Prop} {p q : Progress} {steps : List Step}
    (h : p.run steps = (q, none)) (hstart : P [] p)
    (hstep : ∀ seen s r t, P seen r → r.step s = (t, none) → P (seen ++ [s]) t) : P steps q := by
  induction steps generalizing p P with
  | nil =>
    cases h
    exact hstart
  | cons s rest ih =>
    rw [run] at h
    split at h
    · rename_i r hs
      refine ih (P := fun seen => P (s :: seen)) h (hstep [] s p r hstart hs) ?_
      exact fun seen => hstep (s :: seen)
    · cases h

end Progress

end ServicePlan
