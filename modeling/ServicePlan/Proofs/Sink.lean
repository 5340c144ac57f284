import ServicePlan.Plan.Sink

/-!
# What a sink is asked for

`Plan.handTo` drives a sink, and the sink may keep a state and may fail.  To say which calls it
gets, `Sink.recorded` puts a recorder in front of any sink: it notes each call and then makes it.
A recorder does not change what comes of a handover (`handTo_recorded`), and what it notes is the
subject of `handover`: there are only two ways for a handover to go.

* `Plan.Handover.finished`: the sink takes every intent, once each and in order, and is finished.
* `Plan.Handover.stopped`: the sink takes the intents before some intent, fails on that one, and
  gets no further call.
-/

namespace ServicePlan

namespace Sink

variable {σ : Type}

/-- What a sink is asked for. -/
inductive Call
  /-- Take an intent. -/
  | provision (intent : Intent)
  /-- There are no more intents. -/
  | finish (tags : Table String)

/-- A sink with a recorder in front: each call is noted and then made, with or without success. -/
def recorded (s : Sink σ) : Sink (σ × List Call) where
  provision i st :=
    let (state, fault) := s.provision i st.1
    ((state, st.2 ++ [.provision i]), fault)
  finish tags st :=
    let (state, fault) := s.finish tags st.1
    ((state, st.2 ++ [.finish tags]), fault)

@[simp] theorem recorded_provision (s : Sink σ) (i : Intent) (state : σ) (calls : List Call) :
    s.recorded.provision i (state, calls) =
      (((s.provision i state).1, calls ++ [.provision i]), (s.provision i state).2) := rfl

@[simp] theorem recorded_finish (s : Sink σ) (tags : Table String) (state : σ)
    (calls : List Call) :
    s.recorded.finish tags (state, calls) =
      (((s.finish tags state).1, calls ++ [.finish tags]), (s.finish tags state).2) := rfl

/-- The sink takes all intents of a list, one after another, without a fault. -/
inductive Takes (s : Sink σ) : List Intent → σ → σ → Prop
  | nil (state : σ) : Takes s [] state state
  | cons {i : Intent} {rest : List Intent} {first next last : σ}
      (head : s.provision i first = (next, none)) (tail : Takes s rest next last) :
      Takes s (i :: rest) first last

/-! ## Handing over a list -/

/-- The calls that hand over a list of intents are noted behind the earlier ones: all of them if
the sink takes the list, and those up to the first fault otherwise. -/
theorem provisionAll_recorded (s : Sink σ) (l : List Intent) (state : σ) (calls : List Call) :
    (∃ last, s.Takes l state last ∧ s.provisionAll l state = (last, none) ∧
      s.recorded.provisionAll l (state, calls) = ((last, calls ++ l.map .provision), none)) ∨
    (∃ before i after next last f, l = before ++ i :: after ∧ s.Takes before state next ∧
      s.provision i next = (last, some f) ∧ s.provisionAll l state = (last, some f) ∧
      s.recorded.provisionAll l (state, calls) =
        ((last, calls ++ (before ++ [i]).map .provision), some f)) := by
  induction l generalizing state calls with
  | nil => exact .inl ⟨state, .nil state, rfl, by simp [provisionAll]⟩
  | cons i rest ih =>
    rcases hi : s.provision i state with ⟨next, _ | f⟩
    · have hstep : s.provisionAll (i :: rest) state = s.provisionAll rest next := by
        simp [provisionAll, hi]
      have hrec : s.recorded.provisionAll (i :: rest) (state, calls) =
          s.recorded.provisionAll rest (next, calls ++ [.provision i]) := by
        simp [provisionAll, hi]
      rw [hstep, hrec]
      rcases ih next (calls ++ [.provision i]) with
        ⟨last, ht, hp, hr⟩ | ⟨before, j, after, mid, last, f, rfl, ht, hj, hp, hr⟩
      · exact .inl ⟨last, .cons hi ht, hp, by simpa using hr⟩
      · exact .inr ⟨i :: before, j, after, mid, last, f, rfl, .cons hi ht, hj, hp, by
          simpa using hr⟩
    · -- the first call fails, so nothing has been taken before it
      refine .inr ⟨[], i, rest, state, next, f, rfl, .nil state, hi, ?_, ?_⟩
      · simp [provisionAll, hi]
      · simp [provisionAll, hi]

end Sink

namespace Plan

variable {σ : Type}

/-- The two ways in which a plan can be handed to a sink: the calls that are made, the state that
is left and the fault, if there is one. -/
inductive Handover (p : Plan) (s : Sink σ) (state : σ) : List Sink.Call → σ × Option Fault → Prop
  /-- Every intent is taken, and the outcome is that of finishing. -/
  | finished {last : σ} (taken : s.Takes p.intents state last) :
      Handover p s state (p.intents.map .provision ++ [.finish p.tags]) (s.finish p.tags last)
  /-- Some intent is not taken, and the outcome is that of the call for it. -/
  | stopped {before after : List Intent} {i : Intent} {next last : σ} {f : Fault}
      (split : p.intents = before ++ i :: after) (taken : s.Takes before state next)
      (failed : s.provision i next = (last, some f)) :
      Handover p s state ((before ++ [i]).map .provision) (last, some f)

/-- The calls that are made to hand a plan to a sink. -/
def calls (p : Plan) (s : Sink σ) (state : σ) : List Sink.Call :=
  (p.handTo s.recorded (state, [])).1.2

/-- What comes of a handover in which every intent is taken. -/
theorem handTo_of_taken {p : Plan} {s : Sink σ} {state last : σ}
    (h : s.provisionAll p.intents state = (last, none)) :
    p.handTo s state = s.finish p.tags last := by
  simp only [handTo, h]

/-- What comes of a handover in which some intent is not taken. -/
theorem handTo_of_failed {p : Plan} {s : Sink σ} {state last : σ} {f : Fault}
    (h : s.provisionAll p.intents state = (last, some f)) :
    p.handTo s state = (last, some f) := by
  simp only [handTo, h]

/-- A recorder sees the same outcome. -/
theorem handTo_recorded (p : Plan) (s : Sink σ) (state : σ) :
    p.handTo s.recorded (state, []) =
      (((p.handTo s state).1, p.calls s state), (p.handTo s state).2) := by
  rcases s.provisionAll_recorded p.intents state [] with
    ⟨last, -, hp, hr⟩ | ⟨before, i, after, next, last, f, -, -, -, hp, hr⟩
  · rw [calls, handTo_of_taken hr, handTo_of_taken hp, Sink.recorded_finish]
  · rw [calls, handTo_of_failed hr, handTo_of_failed hp]

/-- A plan is handed to any sink in one of the two ways. -/
theorem handover (p : Plan) (s : Sink σ) (state : σ) :
    p.Handover s state (p.calls s state) (p.handTo s state) := by
  rcases s.provisionAll_recorded p.intents state [] with
    ⟨last, ht, hp, hr⟩ | ⟨before, i, after, next, last, f, hsplit, ht, hi, hp, hr⟩
  · rw [calls, handTo_of_taken hr, handTo_of_taken hp, Sink.recorded_finish]
    exact .finished ht
  · rw [calls, handTo_of_failed hr, handTo_of_failed hp]
    exact .stopped hsplit ht hi

/-- A call to take an intent comes behind such calls for all earlier intents of the list. -/
theorem exists_split_of_map_provision {l : List Intent} {before after : List Sink.Call} {i : Intent}
    (h : l.map Sink.Call.provision = before ++ .provision i :: after) :
    ∃ earlier later, l = earlier ++ i :: later ∧ before = earlier.map .provision := by
  obtain ⟨earlier, tail, rfl, rfl, htail⟩ := List.map_eq_append_iff.1 h
  obtain ⟨j, later, rfl, hj, -⟩ := List.map_eq_cons_iff.1 htail
  cases hj
  exact ⟨earlier, later, rfl, rfl⟩

/-- Whatever becomes of a handover, an intent is asked for behind all earlier intents of the
plan. -/
theorem exists_split_of_call {p : Plan} {s : Sink σ} {state : σ} {before after : List Sink.Call}
    {i : Intent} (h : p.calls s state = before ++ .provision i :: after) :
    ∃ earlier later, p.intents = earlier ++ i :: later ∧ before = earlier.map .provision := by
  have hover := p.handover s state
  rw [h] at hover
  generalize p.handTo s state = outcome at hover
  generalize hmade : before ++ .provision i :: after = made at hover
  cases hover with
  | finished taken =>
    -- the call is not the last one, which finishes the sink
    rcases List.eq_nil_or_concat after with rfl | ⟨rest, last, rfl⟩
    · have hlast := congrArg List.getLast? hmade
      simp at hlast
    · have hinit : p.intents.map Sink.Call.provision = before ++ .provision i :: rest := by
        rw [List.concat_eq_append, ← List.cons_append, ← List.append_assoc] at hmade
        exact (List.append_inj' hmade rfl).1.symm
      exact exists_split_of_map_provision hinit
  | @stopped taken rest j _ _ _ split _ _ =>
    obtain ⟨earlier, later, hp, hb⟩ := exists_split_of_map_provision hmade.symm
    refine ⟨earlier, later ++ rest, ?_, hb⟩
    rw [split, List.append_cons, hp, List.append_assoc, List.cons_append]

end Plan

end ServicePlan
