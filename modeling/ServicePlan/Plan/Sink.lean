import ServicePlan.Log
import ServicePlan.Plan.Basic

/-!
# Sinks

A sink takes the intents of a plan one by one and is told when there are no more.

* `Plan.handTo`, `Plan.apply`: hand a plan to a sink; the first fault ends it.
* `Sink.memory`: keeps what it gets.
* `Sink.document`: writes one document at the end, into a space that may be limited.
* `Sink.log`: records what it gets.
-/

namespace ServicePlan

/-- What takes a plan, with a state of type `σ`.  A call leaves the sink in some state, also if it
ends in a fault. -/
structure Sink (σ : Type) where
  /-- Takes an intent, after all those it depends on. -/
  provision : Intent → σ → σ × Option Fault
  /-- Is told the tags once all intents have been taken. -/
  finish : Table String → σ → σ × Option Fault

/-- Hands intents to a sink, in order, up to the first fault. -/
def Sink.provisionAll {σ : Type} (s : Sink σ) : List Intent → σ → σ × Option Fault
  | [], state => (state, none)
  | i :: rest, state =>
    match s.provision i state with
    | (state, none) => s.provisionAll rest state
    | (state, some f) => (state, some f)

/-- Hands all intents to a sink, in order, and then finishes it; the first fault ends it. -/
def Plan.handTo {σ : Type} (p : Plan) (s : Sink σ) (state : σ) : σ × Option Fault :=
  match s.provisionAll p.intents state with
  | (state, none) => s.finish p.tags state
  | (state, some f) => (state, some f)

/-- What a sink has made of a plan, unless there was a fault. -/
def Plan.apply {σ : Type} (p : Plan) (s : Sink σ) (state : σ) : Except Fault σ :=
  match p.handTo s state with
  | (state, none) => .ok state
  | (_, some f) => .error f

namespace Sink

/-- What the sink that keeps everything has got. -/
structure Kept where
  /-- The intents. -/
  intents : List Intent := []
  /-- The tags. -/
  tags : Table String := ∅
  /-- Whether the sink was finished. -/
  finished : Bool := false

/-- Keeps what it gets. -/
def memory : Sink Kept where
  provision i s := ({ s with intents := s.intents ++ [i] }, none)
  finish tags s := ({ s with tags, finished := true }, none)

/-- The state of the sink that writes a document. -/
structure Page where
  /-- The intents of the document. -/
  intents : List Intent := []
  /-- What has been written. -/
  written : String := ""

/-- The document of some intents and tags, with all members in the order of their names. -/
def documentText (intents : List Intent) (tags : Table String) : String :=
  (Plan.encodeDocument intents tags).pretty

/-- Why nothing more can be written. -/
def full : String := "writer is full"

/-- Writes the document and a line end.  If the space is limited to a number of bytes, a document
that does not fit and a line end that does not fit are different faults. -/
def document (room : Option Nat) : Sink Page where
  provision i s := ({ s with intents := s.intents ++ [i] }, none)
  finish tags s :=
    let text := documentText s.intents tags
    match room with
    | none => ({ s with written := s.written ++ text ++ "\n" }, none)
    | some room =>
      if room < text.utf8ByteSize then (s, some (.json ⟨.unsuitable full, 0, 0⟩))
      else if room < text.utf8ByteSize + 1 then (s, some (.file (.other full)))
      else ({ s with written := s.written ++ text ++ "\n" }, none)

/-- The state of the sink that records. -/
structure Tally where
  /-- Number of intents so far. -/
  count : Nat := 0
  /-- The records so far. -/
  log : List Record := []

/-- The record of an intent: its phase, its handle and what it depends on. -/
def recordOf (i : Intent) : Record :=
  let start := "[" ++ i.phase.label ++ "] " ++ i.handle.text
  match i.dependsOn with
  | [] => ⟨.info, start⟩
  | handles => ⟨.info, start ++ " <- " ++ ", ".intercalate (handles.map (·.text))⟩

/-- Records what it gets. -/
def log : Sink Tally where
  provision i s := (⟨s.count + 1, s.log ++ [recordOf i]⟩, none)
  finish tags s :=
    ({ s with log := s.log ++ [⟨.info,
      s!"{s.count} resources planned, {tags.size} stack tags"⟩] }, none)

end Sink

end ServicePlan
