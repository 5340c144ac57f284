import Mathlib.Data.List.Forall2
import ServicePlan.Build.Service

/-!
# The repository token is kept

A build gets a secret, the token that front-end apps fetch their code with, and has it at hand all
along.  Two builds that differ in the token only are compared: they make the same steps but for the
creation of apps, and what they have made after each step is the same but for the token of an app.
So nothing else can be learned about the token from a plan, a journal, a warning, a log or a fault.

* `Intent.SameButToken`, `Step.SameButToken`: what may differ.
* `Plan.SameButTokens`, `Progress.SameButTokens`: what two builds have made.
* `Progress.EndAlike`: how the steps of two builds end; `Progress.SameButTokens.step` for one step and
  `Progress.SameButTokens.run` for many.
* `Blueprint.build_withToken`: the two builds.
-/

namespace ServicePlan

/-! ## What may differ -/

/-- Two intents are the same, but for the token of an app. -/
inductive Intent.SameButToken : Intent → Intent → Prop
  /-- Nothing differs. -/
  | same (i : Intent) : SameButToken i i
  /-- One attribute of an app differs. -/
  | app {i j : Intent} (before after : List (String × Json)) (token token' : String)
    (happ : i.category = .app)
    (hi : i.attributes = .object (before ++ ("access_token", .string token) :: after))
    (hj : j = { i with
      attributes := .object (before ++ ("access_token", .string token') :: after) }) :
    SameButToken i j

/-- Two steps are the same, but for the token of an app. -/
inductive Step.SameButToken : Step → Step → Prop
  /-- Nothing differs. -/
  | same (s : Step) : SameButToken s s
  /-- Both steps add an intent. -/
  | emit {i j : Intent} (hij : i.SameButToken j) : SameButToken (.emit i) (.emit j)

instance : Std.Refl Step.SameButToken := ⟨.same⟩

/-- Two plans are the same, but for the tokens of apps. -/
structure Plan.SameButTokens (p q : Plan) : Prop where
  /-- The tags. -/
  tags : p.tags = q.tags
  /-- The resources that are known to be there. -/
  emitted : p.emitted = q.emitted
  /-- The intents, one by one. -/
  intents : List.Forall₂ Intent.SameButToken p.intents q.intents

/-- Two builds have come to the same, but for the tokens of apps. -/
structure Progress.SameButTokens (p q : Progress) : Prop where
  /-- The plans. -/
  plan : p.plan.SameButTokens q.plan
  /-- The registries, and with them all that was read and written. -/
  registry : p.registry = q.registry
  /-- The warnings. -/
  warnings : p.warnings = q.warnings
  /-- The logs. -/
  log : p.log = q.log

/-- Steps of two builds end with the same fault or both with none, and they have come to the same,
but for the tokens of apps. -/
def Progress.EndAlike (x y : Progress × Option Fault) : Prop :=
  ∃ p q fault, x = (p, fault) ∧ y = (q, fault) ∧ p.SameButTokens q

namespace Intent.SameButToken

variable {i j : Intent}

theorem handle_eq (h : i.SameButToken j) : i.handle = j.handle := by
  cases h with
  | same => rfl
  | app _ _ _ _ _ _ hj => rw [hj]

theorem phase_eq (h : i.SameButToken j) : i.phase = j.phase := by
  cases h with
  | same => rfl
  | app _ _ _ _ _ _ hj => rw [hj]

theorem dependsOn_eq (h : i.SameButToken j) : i.dependsOn = j.dependsOn := by
  cases h with
  | same => rfl
  | app _ _ _ _ _ _ hj => rw [hj]

end Intent.SameButToken

/-! ## One step -/

/-- Whether an intent may be added to a plan does not depend on any token. -/
theorem Plan.SameButTokens.push {p q : Plan} {i j : Intent} (h : p.SameButTokens q)
    (hij : i.SameButToken j) :
    (p.push i).2 = (q.push j).2 ∧ (p.push i).1.SameButTokens (q.push j).1 := by
  have hcontains : ∀ k, p.contains k = q.contains k := by
    intro k
    rw [Plan.contains, Plan.contains, h.emitted]
  have hadd : (p.add i).SameButTokens (q.add j) := by
    refine ⟨h.tags, ?_, List.rel_append h.intents (.cons hij .nil)⟩
    rw [Plan.add, Plan.add, h.emitted, hij.handle_eq]
  rw [Plan.push, Plan.push, hij.handle_eq, hij.dependsOn_eq, hcontains]
  simp only [hcontains]
  by_cases hagain : q.contains j.handle = true
  · rw [if_pos hagain, if_pos hagain]
    exact ⟨rfl, h⟩
  · rw [if_neg hagain, if_neg hagain]
    cases hmissing : j.dependsOn.find? fun k => !q.contains k with
    | some missing => exact ⟨rfl, h⟩
    | none => exact ⟨rfl, hadd⟩

namespace Progress.SameButTokens

variable {p q : Progress}

theorem emit {i j : Intent} (h : p.SameButTokens q) (hij : i.SameButToken j) :
    EndAlike (p.step (.emit i)) (q.step (.emit j)) := by
  obtain ⟨hanswer, hplan⟩ := h.plan.push hij
  rw [Progress.step, Progress.step, Progress.emit, Progress.emit]
  generalize p.plan.push i = pushed at hanswer hplan ⊢
  generalize q.plan.push j = pushed' at hanswer hplan ⊢
  obtain ⟨plan, answer⟩ := pushed
  obtain ⟨plan', answer'⟩ := pushed'
  obtain rfl : answer = answer' := hanswer
  cases answer with
  | error f => exact ⟨p, q, some f, rfl, rfl, h⟩
  | ok handle =>
    refine ⟨_, _, none, rfl, rfl, hplan, h.registry, h.warnings, ?_⟩
    rw [h.log, hij.phase_eq]

/-- Two builds that make the same step, but for a token, end it alike. -/
theorem step {s t : Step} (h : p.SameButTokens q) (hst : s.SameButToken t) :
    EndAlike (p.step s) (q.step t) := by
  cases hst with
  | emit hij => exact h.emit hij
  | same s =>
    -- apart from what adds intents, no step looks at the plan
    obtain ⟨plan, registry, warnings, log⟩ := p
    obtain ⟨plan', registry', warnings', log'⟩ := q
    obtain ⟨hplan, rfl, rfl, rfl⟩ := h
    cases s with
    | emit i => exact SameButTokens.emit ⟨hplan, rfl, rfl, rfl⟩ (.same i)
    | note r => exact ⟨_, _, none, rfl, rfl, hplan, rfl, rfl, rfl⟩
    | warn text => exact ⟨_, _, none, rfl, rfl, hplan, rfl, rfl, rfl⟩
    | complete phase => exact ⟨_, _, none, rfl, rfl, hplan, rfl, rfl, rfl⟩
    | fail f => exact ⟨_, _, some f, rfl, rfl, hplan, rfl, rfl, rfl⟩
    | register key handle =>
      rw [Progress.step, Progress.step, Progress.register, Progress.register]
      cases registry.write key handle with
      | error f => exact ⟨_, _, some f, rfl, rfl, hplan, rfl, rfl, rfl⟩
      | ok written => exact ⟨_, _, none, rfl, rfl, hplan, rfl, rfl, rfl⟩
    | require key requestedBy =>
      rw [Progress.step, Progress.step, Progress.read, Progress.read]
      obtain ⟨read, found⟩ := registry.read key requestedBy
      cases found with
      | error f => exact ⟨_, _, some f, rfl, rfl, hplan, rfl, rfl, rfl⟩
      | ok handle => exact ⟨_, _, none, rfl, rfl, hplan, rfl, rfl, rfl⟩

/-! ## Many steps -/

theorem run {steps steps' : List Step} (h : p.SameButTokens q)
    (hsteps : List.Forall₂ Step.SameButToken steps steps') :
    EndAlike (p.run steps) (q.run steps') := by
  induction hsteps generalizing p q with
  | nil => exact ⟨p, q, none, rfl, rfl, h⟩
  | @cons s t rest rest' hst _ ih =>
    obtain ⟨made, made', fault, hs, ht, hmade⟩ := h.step hst
    rw [Progress.run, Progress.run, hs, ht]
    cases fault with
    | none => exact ih hmade
    | some f => exact ⟨made, made', some f, rfl, rfl, hmade⟩

end Progress.SameButTokens

/-! ## Builds -/

namespace Blueprint

variable (b : Blueprint) (token token' : String)

/-- The same inputs with a token. -/
def withToken (token : String) : Blueprint := { b with token := some token }

/-- The steps for an app with one token and with another. -/
theorem appSteps_sameButToken (app : String) (a : AppSpec) (root : String) :
    List.Forall₂ Step.SameButToken (b.appSteps app a root token)
      (b.appSteps app a root token') := by
  have hothers : ∀ steps, List.Forall₂ Step.SameButToken steps steps :=
    fun steps => List.forall₂_refl steps
  refine List.rel_append (List.rel_append (.cons (.emit ?_) .nil) (hothers _)) (hothers _)
  exact Intent.SameButToken.app [] _ token token' rfl rfl rfl

theorem frontendSteps_sameButToken :
    List.Forall₂ Step.SameButToken (b.withToken token).frontendSteps
      (b.withToken token').frontendSteps := by
  have happs : (b.withToken token').spec.apps = (b.withToken token).spec.apps := rfl
  have hroot : (b.withToken token').spec.repositoryRoot =
    (b.withToken token).spec.repositoryRoot := rfl
  rw [frontendSteps, frontendSteps, happs, hroot]
  cases (b.withToken token).spec.apps with
  | none => exact List.forall₂_refl _
  | some apps =>
    cases (b.withToken token).spec.repositoryRoot with
    | none => exact List.forall₂_refl _
    | some root =>
      refine List.rel_flatMap (List.forall₂_eq_eq_eq ▸ rfl) ?_
      rintro e _ rfl
      have happ := b.appSteps_sameButToken token token' e.1 e.2 root
      exact List.rel_append (List.rel_append happ (List.forall₂_refl _)) (List.forall₂_refl _)

/-- The steps before and behind those for the apps are the same for all tokens. -/
theorem exists_steps_withToken :
    ∃ before after, ∀ token,
      (b.withToken token).steps = before ++ ((b.withToken token).frontendSteps ++ after) := by
  refine ⟨[.info s!"Building resource graph of {b.spec.apiName}"] ++
      b.messagingSteps ++ [.complete .messaging],
    [.complete .frontend] ++ b.gatewaySteps ++ [.complete .gateway] ++
      b.storageSteps ++ [.complete .storage] ++ b.spec.branchNames.flatMap b.branchSteps ++
      [.complete .compute, .complete .batch], fun token => ?_⟩
  simp only [steps, List.append_assoc]
  rfl

theorem steps_sameButToken :
    List.Forall₂ Step.SameButToken (b.withToken token).steps (b.withToken token').steps := by
  obtain ⟨before, after, hsteps⟩ := b.exists_steps_withToken
  have hfrontend := b.frontendSteps_sameButToken token token'
  rw [hsteps, hsteps]
  exact List.rel_append (List.forall₂_refl before)
    (List.rel_append hfrontend (List.forall₂_refl after))

/-- **The token is kept.**  Whatever the token is, a build with it ends with the same fault or with
none, and what it has made is the same but for the tokens of the apps. -/
theorem build_withToken :
    (b.withToken token).build.2 = (b.withToken token').build.2 ∧
      (b.withToken token).build.1.SameButTokens (b.withToken token').build.1 := by
  have hstart : (b.withToken token).start.SameButTokens (b.withToken token').start :=
    ⟨⟨rfl, rfl, .nil⟩, rfl, rfl, rfl⟩
  obtain ⟨made, made', fault, hrun, hrun', hmade⟩ :=
    hstart.run (b.steps_sameButToken token token')
  rw [build, build, hrun, hrun']
  cases fault with
  | some f => exact ⟨rfl, hmade⟩
  | none =>
    have hsize : made.plan.size = made'.plan.size := hmade.plan.intents.length_eq
    have hwarnings : made.warnings = made'.warnings := hmade.warnings
    refine ⟨rfl, hmade.plan, hmade.registry, hwarnings, ?_⟩
    change made.log ++ [(b.withToken token).summary made] =
      made'.log ++ [(b.withToken token').summary made']
    rw [hmade.log, summary, summary, hsize, hwarnings]
    rfl

end Blueprint

end ServicePlan
