import Mathlib.Data.List.Nodup
import Mathlib.Logic.Relation
import ServicePlan.Proofs.Sink
import ServicePlan.Splits

/-!
# Plans are in order

A plan keeps its intents in a list and the resources it knows in a set of their own.  Every push,
accepted or refused, keeps the two in step and keeps the intents in an order in which they can be
created; `Plan.Ordered` says so, and `Ordered.pushAll` carries it through any sequence of pushes.

* `push_cases`: all that a push can do, with the answer.
* `Ordered.push`: one push keeps the order.
* `Ordered.acyclic`: no resource depends on itself, however indirectly.
* `Ordered.answers`, `Ordered.supplies`: how a plan in order answers pushes and supplies a sink.
* `pushAll_new_in_order`: all of it, after any sequence of pushes on a new plan.
-/

namespace ServicePlan

namespace Plan

/-! ## What a push does -/

/-- A push finds the resource in the plan, or finds that something it depends on is missing, or adds
the intent. -/
theorem push_cases (p : Plan) (i : Intent) :
    (p.contains i.handle = true ∧ p.push i = (p, .error (.emittedTwice i.handle))) ∨
    (∃ missing ∈ i.dependsOn, p.contains i.handle = false ∧ p.contains missing = false ∧
      p.push i = (p, .error (.missingDependency i.handle missing))) ∨
    (p.contains i.handle = false ∧ (∀ h ∈ i.dependsOn, p.contains h = true) ∧
      p.push i = (p.add i, .ok i.handle)) := by
  cases hnew : p.contains i.handle with
  | true => exact .inl ⟨rfl, by simp [push, hnew]⟩
  | false =>
    cases hfind : i.dependsOn.find? fun h => !p.contains h with
    | some missing =>
      have hmem := List.mem_of_find?_eq_some hfind
      have hgone := List.find?_some hfind
      exact .inr (.inl ⟨missing, hmem, rfl, by simpa using hgone, by simp [push, hnew, hfind]⟩)
    | none =>
      have hall := List.find?_eq_none.1 hfind
      exact .inr (.inr ⟨rfl, fun h hh => by simpa using hall h hh, by simp [push, hnew, hfind]⟩)

@[simp] theorem handles_add (p : Plan) (i : Intent) :
    (p.add i).handles = p.handles ++ [i.handle] := by
  simp [handles, add]

@[simp] theorem contains_add (p : Plan) (i : Intent) (h : Handle) :
    (p.add i).contains h = true ↔ p.contains h = true ∨ h = i.handle := by
  simp [contains, add]

/-! ## The order of a plan -/

/-- A plan is in order: no resource is listed twice, the resources known are those listed, and
every intent depends on earlier ones only. -/
structure Ordered (p : Plan) : Prop where
  /-- No two intents are for one resource. -/
  distinct : p.handles.Nodup
  /-- The plan knows the resources that its intents are for. -/
  known : ∀ h, p.contains h = true ↔ h ∈ p.handles
  /-- What an intent depends on comes strictly before it. -/
  earlier : ∀ before i after, p.intents = before ++ i :: after →
    ∀ h ∈ i.dependsOn, h ∈ before.map (·.handle)

theorem ordered_new (tags : Table String) : (new tags).Ordered where
  distinct := List.nodup_nil
  known h := by simp [new, contains, handles]
  earlier before i after h := by simp [new] at h

/-- An intent for a new resource whose dependencies are all known goes to the end. -/
theorem Ordered.add {p : Plan} (hp : p.Ordered) {i : Intent} (hnew : p.contains i.handle = false)
    (hdeps : ∀ h ∈ i.dependsOn, p.contains h = true) : (p.add i).Ordered where
  distinct := by
    rw [handles_add]
    refine hp.distinct.append (List.nodup_singleton _) (List.disjoint_singleton.2 fun hmem => ?_)
    rw [(hp.known _).2 hmem] at hnew
    cases hnew
  known h := by simp [hp.known h]
  earlier before j after hsplit h hh := by
    obtain ⟨-, rfl, rfl⟩ | ⟨rest, -, hrest⟩ := append_singleton_eq_append_cons hsplit
    · -- the new intent itself: everything it depends on is known
      exact (hp.known h).1 (hdeps h hh)
    · exact hp.earlier before j rest hrest h hh

/-- A push keeps a plan in order, whether it is accepted or refused. -/
theorem Ordered.push {p : Plan} (hp : p.Ordered) (i : Intent) : (p.push i).1.Ordered := by
  rcases p.push_cases i with ⟨-, h⟩ | ⟨_, -, -, -, h⟩ | ⟨hnew, hdeps, h⟩
  · rwa [h]
  · rwa [h]
  · rw [h]
    exact hp.add hnew hdeps

/-- Pushes intents one after another, whatever becomes of each. -/
def pushAll (p : Plan) (attempts : List Intent) : Plan :=
  attempts.foldl (fun p i => (p.push i).1) p

/-- Any sequence of pushes keeps a plan in order. -/
theorem Ordered.pushAll {p : Plan} (hp : p.Ordered) (attempts : List Intent) :
    (p.pushAll attempts).Ordered := by
  induction attempts generalizing p with
  | nil => exact hp
  | cons i rest ih => exact ih (hp.push i)

/-! ## Dependencies -/

/-- Whether the resource of a handle depends on another one. -/
def DependsOn (p : Plan) (h dep : Handle) : Prop :=
  ∃ i ∈ p.intents, i.handle = h ∧ dep ∈ i.dependsOn

/-- What a resource depends on stands further to the front. -/
theorem Ordered.idxOf_lt {p : Plan} (hp : p.Ordered) {h dep : Handle} (hd : p.DependsOn h dep) :
    p.handles.idxOf dep < p.handles.idxOf h := by
  obtain ⟨i, hi, rfl, hdep⟩ := hd
  obtain ⟨before, after, hsplit⟩ := List.append_of_mem hi
  have hmem := hp.earlier before i after hsplit dep hdep
  have hhandles : p.handles = before.map (·.handle) ++ i.handle :: after.map (·.handle) := by
    simp [handles, hsplit]
  have hnot : i.handle ∉ before.map (·.handle) := by
    have hnodup := hp.distinct
    rw [hhandles, List.nodup_append] at hnodup
    exact fun hin => hnodup.2.2 _ hin _ (List.mem_cons_self ..) rfl
  rw [hhandles, List.idxOf_append_of_mem hmem, List.idxOf_append_of_notMem hnot]
  have := List.idxOf_lt_length_of_mem hmem
  omega

/-- So does what it depends on through other resources. -/
theorem Ordered.idxOf_lt_of_transGen {p : Plan} (hp : p.Ordered) {h dep : Handle}
    (hreach : Relation.TransGen p.DependsOn h dep) : p.handles.idxOf dep < p.handles.idxOf h := by
  induction hreach with
  | single hd => exact hp.idxOf_lt hd
  | tail _ hd ih => exact Nat.lt_trans (hp.idxOf_lt hd) ih

/-- No resource depends on itself, however indirectly. -/
theorem Ordered.acyclic {p : Plan} (hp : p.Ordered) (h : Handle) :
    ¬ Relation.TransGen p.DependsOn h h :=
  fun hcycle => Nat.lt_irrefl _ (hp.idxOf_lt_of_transGen hcycle)

/-- All that an intent depends on, however indirectly, comes strictly before it. -/
theorem Ordered.mem_before {p : Plan} (hp : p.Ordered) {before after : List Intent} {i : Intent}
    (hsplit : p.intents = before ++ i :: after) {dep : Handle}
    (hreach : Relation.TransGen p.DependsOn i.handle dep) : dep ∈ before.map (·.handle) := by
  have hlt := hp.idxOf_lt_of_transGen hreach
  have hhandles : p.handles = before.map (·.handle) ++ i.handle :: after.map (·.handle) := by
    simp [handles, hsplit]
  rw [hhandles, List.idxOf_append, List.idxOf_append, List.idxOf_cons_self] at hlt
  by_contra hnot
  rw [if_neg hnot] at hlt
  split at hlt
  · rename_i hmem
    have := List.idxOf_lt_length_of_mem hmem
    omega
  · omega

/-! ## Answers -/

/-- What a push has to answer, by what the plan lists. -/
structure Answers (p : Plan) (i : Intent) : Prop where
  /-- The resource is refused as emitted twice exactly if the plan lists it. -/
  duplicate : (∃ f, (p.push i).2 = .error f ∧ f.kind = .duplicate) ↔ i.handle ∈ p.handles
  /-- A new resource is refused as out of order exactly if something that it depends on is not
  listed.  It is not listed itself, so this covers a resource that depends on itself. -/
  internal : (∃ f, (p.push i).2 = .error f ∧ f.kind = .internal) ↔
    i.handle ∉ p.handles ∧ ∃ h ∈ i.dependsOn, h ∉ p.handles
  /-- There is no other refusal, and none changes the plan. -/
  refused : ∀ f, (p.push i).2 = .error f →
    (f.kind = .duplicate ∨ f.kind = .internal) ∧ (p.push i).1 = p
  /-- All else goes to the end of the plan. -/
  accepted : ∀ h, (p.push i).2 = .ok h →
    h = i.handle ∧ (p.push i).1.intents = p.intents ++ [i]

/-- A plan in order answers every push as it has to. -/
theorem Ordered.answers {p : Plan} (hp : p.Ordered) (i : Intent) : p.Answers i := by
  rcases p.push_cases i with ⟨hc, h⟩ | ⟨missing, hm, hc, hgone, h⟩ | ⟨hc, hdeps, h⟩
  · have hin : i.handle ∈ p.handles := (hp.known _).1 hc
    constructor <;> simp [h, hin, Fault.kind]
  · have hout : i.handle ∉ p.handles := fun hin => by simp [(hp.known _).2 hin] at hc
    have hlacks : ∃ d ∈ i.dependsOn, d ∉ p.handles :=
      ⟨missing, hm, fun hin => by simp [(hp.known _).2 hin] at hgone⟩
    constructor
    · simp [h, hout, Fault.kind]
    · exact ⟨fun _ => ⟨hout, hlacks⟩, fun _ => ⟨_, congrArg Prod.snd h, rfl⟩⟩
    · simp [h, Fault.kind]
    · simp [h]
  · have hout : i.handle ∉ p.handles := fun hin => by simp [(hp.known _).2 hin] at hc
    have hall : ∀ d ∈ i.dependsOn, d ∈ p.handles := fun d hd => (hp.known d).1 (hdeps d hd)
    constructor
    · simp [h, hout]
    · simpa [h, hout] using hall
    · simp [h]
    · simp [h, Plan.add]

/-! ## Handing over -/

/-- What happens when a plan is handed to a sink in some state. -/
structure Supplies (p : Plan) {σ : Type} (s : Sink σ) (state : σ) : Prop where
  /-- Either every intent is taken and the sink is finished once, at the end, or some intent is not
  taken and there is no further call.  The outcome is that of the last call. -/
  handover : p.Handover s state (p.calls s state) (p.handTo s state)
  /-- Noting the calls does not change the outcome. -/
  recorded : p.handTo s.recorded (state, []) =
    (((p.handTo s state).1, p.calls s state), (p.handTo s state).2)
  /-- Before an intent is asked for, all that it depends on has been asked for. -/
  provisioned : ∀ before i after, p.calls s state = before ++ .provision i :: after →
    ∀ h ∈ i.dependsOn, ∃ j, .provision j ∈ before ∧ j.handle = h
  /-- The fault of the outcome is what applying the plan ends in. -/
  fault : ∀ f, p.apply s state = .error f ↔ (p.handTo s state).2 = some f

/-- Applying a plan ends in the fault of the handover. -/
theorem apply_eq_error_iff (p : Plan) {σ : Type} (s : Sink σ) (state : σ) (f : Fault) :
    p.apply s state = .error f ↔ (p.handTo s state).2 = some f := by
  rcases h : p.handTo s state with ⟨last, _ | g⟩ <;> simp [apply, h]

/-- A plan in order supplies any sink. -/
theorem Ordered.supplies {p : Plan} (hp : p.Ordered) {σ : Type} (s : Sink σ) (state : σ) :
    p.Supplies s state where
  handover := p.handover s state
  recorded := p.handTo_recorded s state
  provisioned before i after hcalls h hh := by
    obtain ⟨earlier, later, hsplit, rfl⟩ := exists_split_of_call hcalls
    obtain ⟨j, hj, rfl⟩ := List.mem_map.1 (hp.earlier earlier i later hsplit h hh)
    exact ⟨j, List.mem_map.2 ⟨j, hj, rfl⟩, rfl⟩
  fault := p.apply_eq_error_iff s state

/-- **Plans stay in order.**  After any sequence of pushes on a new plan, accepted or refused, the
plan lists distinct resources and knows exactly these; every intent depends on strictly earlier
ones, so that no resource depends on itself, however indirectly; every further push is answered by
what the plan lists; and any sink is supplied in that order. -/
theorem pushAll_new_in_order (tags : Table String) (attempts : List Intent) :
    let p := (new tags).pushAll attempts
    p.Ordered ∧ (∀ h, ¬ Relation.TransGen p.DependsOn h h) ∧ (∀ i, p.Answers i) ∧
      ∀ {σ : Type} (s : Sink σ) (state : σ), p.Supplies s state := by
  intro p
  have hp : p.Ordered := (ordered_new tags).pushAll attempts
  exact ⟨hp, hp.acyclic, hp.answers, fun s state => hp.supplies s state⟩

end Plan

end ServicePlan
