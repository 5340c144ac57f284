import ServicePlan.Pattern.Basic

/-!
# Automata

A pattern whose matches can be found without going back becomes an automaton.  All its possible states
at a position are followed at the same time, those of preferred matches first, so a text is read once.

* `Automaton.ofPattern`: the automaton of a pattern.
* `Automaton.matchEnd?`: where the preferred match that begins at a position ends.
* `Automaton.occursIn`: whether there is a match anywhere.
-/

namespace ServicePlan.Pattern

open Unicode (CodeSet)

/-- A state of an automaton. -/
inductive Automaton.State
  /-- A character of a set is read. -/
  | read (s : CodeSet) (next : Nat)
  /-- The position has to be a place. -/
  | here (a : Anchor) (next : Nat)
  /-- Several states are possible, the preferred ones first. -/
  | fork (next : List Nat)
  /-- A match ends. -/
  | accept

/-- An automaton. -/
structure Automaton where
  /-- The states. -/
  states : Array Automaton.State
  /-- The first state. -/
  start : Nat
  /-- Number of links between states, and of states. -/
  room : Nat

namespace Automaton

instance : Inhabited State := ⟨.accept⟩

/-! ## Building -/

/-- Building adds states; the result is often the state to begin with. -/
abbrev Builder := StateM (Array State)

/-- Adds a state. -/
def add (s : State) : Builder Nat := modifyGet fun states => (states.size, states.push s)

/-- Replaces a state. -/
def fill (i : Nat) (s : State) : Builder Unit := modify fun states => states.setIfInBounds i s

/-- A fork into a repetition and what follows it. -/
def forkTo (greedy : Bool) (inside behind : Nat) : State :=
  .fork (if greedy then [inside, behind] else [behind, inside])

/-- Adds what reads a pattern at least once and goes on with a state. -/
def addLoop (inside : Nat → Builder Nat) (greedy : Bool) (next : Nat) : Builder (Nat × Nat) := do
  let loop ← add (.fork [])
  let entry ← inside loop
  fill loop (forkTo greedy entry next)
  pure (loop, entry)

/-- Adds what reads a pattern a number of times and goes on with a state. -/
def addCopies (inside : Nat → Builder Nat) : Nat → Nat → Builder Nat
  | 0, next => pure next
  | count + 1, next => do addCopies inside count (← inside next)

/-- Adds what reads a pattern at most a number of times and goes on with a state. -/
def addOptional (inside : Nat → Builder Nat) (greedy : Bool) (next : Nat) :
    Nat → Nat → Builder Nat
  | 0, entry => pure entry
  | count + 1, entry => do
    addOptional inside greedy next count (← add (forkTo greedy (← inside entry) next))

/-- Adds what repeats a pattern and goes on with a state. -/
def addRepeated (inside : Nat → Builder Nat) (mayBeEmpty : Bool) (least : Nat) (most : Option Nat)
    (greedy : Bool) (next : Nat) : Builder Nat :=
  match most, least with
  | some most, least => do
    addCopies inside least (← addOptional inside greedy next (most - least) next)
  | none, 0 => do
    let (loop, entry) ← addLoop inside greedy next
    if mayBeEmpty then add (forkTo greedy entry next) else pure loop
  | none, least + 1 => do
    let (_, entry) ← addLoop inside greedy next
    addCopies inside least entry

mutual

/-- Adds what reads a pattern and goes on with a state. -/
def addPattern : Pattern → Nat → Builder Nat
  | .empty, next => pure next
  | .place a, next => add (.here a next)
  | .seq parts, next => addAll parts next
  | .alt options, next => do add (.fork (← addAny options next))
  | .group _ p, next => addPattern p next
  | .repeated p least most greedy, next =>
    addRepeated (addPattern p) (p.shortest == 0) least most greedy next
  | p, next => add (p.setOf?.elim (.fork []) (.read · next))

/-- Adds what reads patterns one after the other. -/
def addAll : List Pattern → Nat → Builder Nat
  | [], next => pure next
  | p :: rest, next => do addPattern p (← addAll rest next)

/-- Adds what reads one of several patterns. -/
def addAny : List Pattern → Nat → Builder (List Nat)
  | [], _ => pure []
  | p :: rest, next => do
    let entry ← addPattern p next
    pure (entry :: (← addAny rest next))

end

/-- Number of links of a state, counting the state. -/
def State.links : State → Nat
  | .fork next => next.length + 1
  | _ => 2

/-- The automaton of a pattern. -/
def ofPattern (p : Pattern) : Automaton :=
  let (start, states) := (addPattern p 0).run #[.accept]
  ⟨states, start, states.foldl (fun n s => n + s.links) 1⟩

/-! ## Running -/

/-- The states that are possible at a position. -/
structure Threads where
  /-- For each state, the number of the last position where it was possible. -/
  stamps : Array Nat
  /-- The states that read a character or end a match, the preferred ones first. -/
  order : Array Nat := #[]
  /-- Whether a match ends here; states behind are not followed. -/
  isDone : Bool := false

/-- Adds states and those that they lead to without reading; `links` bounds how many there are. -/
def spread (m : Automaton) (text : Array Char) (i : Nat) : Nat → List Nat → Threads → Threads
  | 0, _, t => t
  | _, [], t => t
  | links + 1, s :: rest, t =>
    if t.isDone || t.stamps[s]? == some (i + 1) then spread m text i links rest t
    else
      let t := { t with stamps := t.stamps.setIfInBounds s (i + 1) }
      match m.states[s]? with
      | some (.fork next) => spread m text i links (next ++ rest) t
      | some (.here a next) =>
        spread m text i links (if a.holds text i then next :: rest else rest) t
      | some (.read _ _) => spread m text i links rest { t with order := t.order.push s }
      | some .accept => spread m text i links rest { t with isDone := true }
      | none => spread m text i links rest t

/-- The states behind a character. -/
def step (m : Automaton) (text : Array Char) (i : Nat) (c : Char) (t : Threads) : Threads :=
  t.order.foldl (fun (t : Threads) (s : Nat) =>
    match m.states[s]? with
    | some (.read chars next) =>
      if chars.contains c then spread m text (i + 1) m.room [next] t else t
    | _ => t) ⟨t.stamps, #[], false⟩

/-- The possible states at the beginning of a match. -/
def initial (m : Automaton) (text : Array Char) (i : Nat) : Threads :=
  spread m text i m.room [m.start] ⟨Array.replicate m.states.size 0, #[], false⟩

/-- The end of the preferred match among some states, or else the one known already. -/
def follow (m : Automaton) (text : Array Char) : Nat → Nat → Option Nat → Threads → Option Nat
  | 0, _, best, _ => best
  | fuel + 1, i, best, t =>
    let best := if t.isDone then some i else best
    match t.order.isEmpty, text[i]? with
    | false, some c => follow m text fuel (i + 1) best (step m text i c t)
    | _, _ => best

/-- The end of the preferred match that begins at a position. -/
def matchEnd? (m : Automaton) (text : Array Char) (i : Nat) : Option Nat :=
  follow m text (text.size + 1 - i) i none (initial m text i)

/-- Whether a match ends at one of the states or later, where matches may begin anywhere. -/
def search (m : Automaton) (text : Array Char) : Nat → Nat → Threads → Bool
  | 0, _, _ => false
  | fuel + 1, i, t =>
    let t := spread m text i m.room [m.start] t
    if t.isDone then true
    else
      match text[i]? with
      | some c => search m text fuel (i + 1) (step m text i c t)
      | none => false

/-- Whether there is a match anywhere in a text. -/
def occursIn (m : Automaton) (text : Array Char) : Bool :=
  search m text (text.size + 1) 0 ⟨Array.replicate m.states.size 0, #[], false⟩

end Automaton

end ServicePlan.Pattern
