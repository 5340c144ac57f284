import ServicePlan.Build.Service

/-!
# What a build looks at

A build adds intents to its plan without a look at their attributes: an intent is refused for its
handle or for what it depends on, and the record of it tells its phase and its handle.  So the
attributes may be left out before the steps are made or afterwards, and steps that differ in the
attributes of intents only come to the same end.

* `Intent.outline`, `Step.outline`, `Plan.outline`, `Progress.outline`: all but the attributes.
* `Progress.step_outline`, `Progress.run_outline`: leaving them out before or afterwards.
* `Blueprint.ends_alike`: builds whose steps have one outline.
-/

namespace ServicePlan

/-! ## Outlines -/

/-- An intent without its attributes. -/
def Intent.outline (i : Intent) : Intent := { i with attributes := .null }

/-- A step that emits an intent without its attributes; all other steps stay as they are. -/
def Step.outline : Step → Step
  | .emit i => .emit i.outline
  | s => s

/-- A plan without the attributes of its intents. -/
def Plan.outline (p : Plan) : Plan := { p with intents := p.intents.map Intent.outline }

/-- What has been built so far, without the attributes. -/
def Progress.outline (p : Progress) : Progress := { p with plan := p.plan.outline }

theorem Progress.plan_outline (p : Progress) : p.outline.plan = p.plan.outline := rfl

/-! ## Steps without attributes -/

/-- Whether an intent may be added to a plan does not depend on any attributes. -/
theorem Plan.push_outline (p : Plan) (i : Intent) :
    p.outline.push i.outline = ((p.push i).1.outline, (p.push i).2) := by
  have hcontains : p.outline.contains = p.contains := rfl
  have hhandle : i.outline.handle = i.handle := rfl
  have hdependsOn : i.outline.dependsOn = i.dependsOn := rfl
  have hadd : p.outline.add i.outline = (p.add i).outline := by
    simp only [add, outline, List.map_append]
    rfl
  rw [push, push, hcontains, hhandle, hdependsOn, hadd]
  by_cases hagain : p.contains i.handle = true
  · rw [if_pos hagain, if_pos hagain]
  · rw [if_neg hagain, if_neg hagain]
    cases i.dependsOn.find? fun h => !p.contains h with
    | some missing => rfl
    | none => rfl

namespace Progress

theorem step_outline (p : Progress) (s : Step) :
    p.outline.step s.outline = ((p.step s).1.outline, (p.step s).2) := by
  cases s with
  | emit i =>
    have hpush : p.outline.plan.push i.outline = _ := p.plan.push_outline i
    simp only [Step.outline, step, emit, hpush]
    generalize p.plan.push i = pushed
    obtain ⟨plan, answer⟩ := pushed
    cases answer with
    | ok handle => rfl
    | error f => rfl
  | register key handle =>
    have hregistry : p.outline.registry = p.registry := rfl
    simp only [Step.outline, step, register, hregistry]
    cases p.registry.write key handle with
    | ok registry => rfl
    | error f => rfl
  | require key requestedBy =>
    have hregistry : p.outline.registry = p.registry := rfl
    simp only [Step.outline, step, read, hregistry]
    cases (p.registry.read key requestedBy).2 with
    | ok handle => rfl
    | error f => rfl
  | note record => rfl
  | warn text => rfl
  | complete phase => rfl
  | fail f => rfl

theorem run_outline (p : Progress) (steps : List Step) :
    p.outline.run (steps.map Step.outline) = ((p.run steps).1.outline, (p.run steps).2) := by
  induction steps generalizing p with
  | nil => rfl
  | cons s rest ih =>
    rw [List.map_cons, run, step_outline, run]
    cases hstep : p.step s with
    | mk q fault =>
      cases fault with
      | none => exact ih q
      | some f => rfl

end Progress

/-! ## Builds with one outline -/

namespace Blueprint

/-- The outlines of what results make of the steps that they lead to. -/
theorem map_outline_orFail {α : Type} (r : Except Fault α) (steps : α → List Step) :
    (Step.orFail r steps).map Step.outline =
      Step.orFail r fun a => (steps a).map Step.outline := by
  cases r with
  | ok a => rfl
  | error f => rfl

theorem summary_outline (b : Blueprint) (p : Progress) : b.summary p.outline = b.summary p := by
  have hsize : p.outline.plan.size = p.plan.size := List.length_map ..
  have hwarnings : p.outline.warnings = p.warnings := rfl
  rw [summary, summary, hsize, hwarnings]

/-- Builds with one outline of their steps end with the same fault or both with none, and what they
have made has one outline. -/
theorem ends_alike {b c : Blueprint} (htags : b.spec.tags = c.spec.tags)
    (hname : b.spec.apiName = c.spec.apiName)
    (hsteps : b.steps.map Step.outline = c.steps.map Step.outline) :
    b.build.2 = c.build.2 ∧ b.build.1.outline = c.build.1.outline := by
  have hstart : b.start.outline = c.start.outline := by rw [start, start, htags]
  have hrun : ((b.start.run b.steps).1.outline, (b.start.run b.steps).2) =
      ((c.start.run c.steps).1.outline, (c.start.run c.steps).2) := by
    rw [← Progress.run_outline, ← Progress.run_outline, hstart, hsteps]
  obtain ⟨hmade, hfault⟩ := Prod.mk.inj hrun
  rw [build, build]
  generalize b.start.run b.steps = x at hmade hfault ⊢
  generalize c.start.run c.steps = y at hmade hfault ⊢
  obtain ⟨p, fault⟩ := x
  obtain ⟨q, fault'⟩ := y
  obtain rfl : fault = fault' := hfault
  cases fault with
  | some f => exact ⟨rfl, hmade⟩
  | none =>
    -- the last record tells how many intents there are, not what they say
    refine ⟨rfl, ?_⟩
    calc (p.note (b.summary p)).outline
        = p.outline.note (b.summary p.outline) := by rw [summary_outline]; rfl
      _ = q.outline.note (c.summary q.outline) := by rw [hmade, summary, summary, hname]
      _ = (q.note (c.summary q)).outline := by rw [summary_outline]; rfl

end Blueprint

end ServicePlan
