import ServicePlan.Pattern.Automaton
import ServicePlan.Pattern.Reader
import ServicePlan.Pattern.Weight

/-!
# Searching with going back

Patterns that look around or ask for what groups have matched are turned into instructions.  Where
several ways are possible the preferred one is taken first, and the others are kept as branches to
which a failure goes back.  Parts that need no going back are left to automata.

* `Machine.Instruction`: instructions.
* `Machine.ofPattern?`: the instructions of a pattern.
* `Machine.occursIn?`: whether there is a match, or that the search has been given up.
-/

namespace ServicePlan.Pattern

/-- An instruction. -/
inductive Machine.Instruction
  /-- A text follows. -/
  | text (chars : List Char)
  /-- The preferred match of an automaton follows. -/
  | match_ (m : Automaton)
  /-- A character follows, which may be the end of a line. -/
  | any (newline : Bool)
  /-- The position is a place. -/
  | place (a : Anchor)
  /-- One of two instructions comes next; the first one is preferred. -/
  | fork (first second : Nat)
  /-- Another instruction comes next. -/
  | jump (target : Nat)
  /-- The position is kept in a slot. -/
  | keep (slot : Nat)
  /-- A slot is set to zero. -/
  | clear (slot : Nat)
  /-- The position of a slot becomes the position. -/
  | restore (slot : Nat)
  /-- A part is repeated; a slot holds the number of times. -/
  | repeated (least : Nat) (most : Option Nat) (greedy : Bool) (counter behind : Nat)
  /-- A part that may be empty is repeated, as long as it is not; a second slot holds the position
  of the last time. -/
  | repeatedAhead (least : Nat) (greedy : Bool) (counter last behind : Nat)
  /-- The position goes back by a number of characters. -/
  | back (count : Nat)
  /-- A place where nothing may match has a match: all branches since then are given up. -/
  | refuse
  /-- What a group has matched follows. -/
  | again (number : Nat)
  /-- A group has matched. -/
  | matched (number : Nat)
  /-- Notes how many branches there are. -/
  | atomicStart
  /-- Gives up all branches since they have been noted. -/
  | atomicEnd
  /-- The position is the one where the search has started. -/
  | searchStart
  /-- There is a match. -/
  | done

/-- Instructions with the number of slots they use. -/
structure Machine where
  /-- The instructions. -/
  code : Array Machine.Instruction
  /-- Number of slots. -/
  slots : Nat

namespace Machine

/-! ## Building -/

/-- Building adds instructions and slots, and may fail. -/
abbrev Builder := StateT Machine Option

/-- The position of the next instruction. -/
def here : Builder Nat := do return (← get).code.size

/-- Adds an instruction. -/
def add (i : Instruction) : Builder Nat := do
  let at_ ← here
  modify fun m => { m with code := m.code.push i }
  pure at_

/-- Adds an instruction whose position does not matter. -/
def emit (i : Instruction) : Builder Unit := do
  let _ ← add i

/-- Replaces an instruction. -/
def fill (at_ : Nat) (i : Instruction) : Builder Unit :=
  modify fun m => { m with code := m.code.setIfInBounds at_ i }

/-- Adds a slot. -/
def newSlot : Builder Nat := modifyGet fun m => (m.slots, { m with slots := m.slots + 1 })

/-- A fork that goes on with the next instruction or with a later one. -/
def forkOver (at_ behind : Nat) (greedy : Bool) : Instruction :=
  if greedy then .fork (at_ + 1) behind else .fork behind (at_ + 1)

/-- The character of a pattern that is one. -/
def literal? : Pattern → Option Char
  | .char c false => some c
  | _ => none

/-- Adds parts that need no going back; their automaton must not be too large. -/
def addRegular (parts : List Pattern) : Builder Unit :=
  match parts.mapM literal? with
  | some [] => pure ()
  | some chars => emit (.text chars)
  | none =>
    if (Pattern.seq parts).isLight then emit (.match_ (.ofPattern (.seq parts))) else failure

/-- Adds the instructions of a repetition around those of its part. -/
def addRepeated (inside : Builder Unit) (mayBeEmpty : Bool) (least : Nat) (most : Option Nat)
    (greedy : Bool) : Builder Unit :=
  match least, most, mayBeEmpty with
  | 0, some 1, _ => do
    let start ← add (.fork 0 0)
    inside
    fill start (forkOver start (← here) greedy)
  | least, none, true => do
    let counter ← newSlot
    let last ← newSlot
    emit (.clear counter)
    let start ← add (.jump 0)
    inside
    emit (.jump start)
    fill start (.repeatedAhead least greedy counter last (← here))
  | 0, none, false => do
    let start ← add (.fork 0 0)
    inside
    emit (.jump start)
    fill start (forkOver start (← here) greedy)
  | 1, none, false => do
    let start ← here
    inside
    let behind := (← here) + 1
    emit (if greedy then .fork start behind else .fork behind start)
  | least, most, _ => do
    let counter ← newSlot
    emit (.clear counter)
    let start ← add (.jump 0)
    inside
    emit (.jump start)
    fill start (.repeated least most greedy counter (← here))

/-- Adds the instructions of one of several options and the jump behind all of them; the results are
the positions of the jumps. -/
def addOption (inside : Builder Unit) (others : Builder (List Nat)) : Builder (List Nat) := do
  let start ← add (.fork 0 0)
  inside
  let jump ← add (.jump 0)
  fill start (.fork (start + 1) (← here))
  pure (jump :: (← others))

/-- Lets jumps lead behind all instructions so far. -/
def land (jumps : List Nat) : Builder Unit := do
  let target ← here
  jumps.forM fun j => fill j (.jump target)

/-- Adds the instructions of looking around; a match behind the position has to have a known
length. -/
def addLook (behind negated : Bool) (p : Pattern) (inside : Builder Unit) : Builder Unit := do
  let around : Builder Unit := do
    if behind then
      if p.isRigid then emit (.back p.shortest) else failure
    inside
  if negated then
    let start ← add (.fork 0 0)
    around
    emit .refuse
    fill start (.fork (start + 1) (← here))
  else
    let slot ← newSlot
    emit (.keep slot)
    around
    emit (.restore slot)

/-- Adds the instructions of a condition and its branches. -/
def addChoice (test yes no : Builder Unit) : Builder Unit := do
  emit .atomicStart
  let start ← add (.fork 0 0)
  test
  emit .atomicEnd
  yes
  let jump ← add (.jump 0)
  fill start (.fork (start + 1) (← here))
  no
  land [jump]

/-- How many parts at the beginning of a sequence are left to an automaton. -/
def regularStart (used : List Nat) (parts : List Pattern) : Nat :=
  (parts.takeWhile fun p => p.isRigid && p.isRegular used).length

/-- How many parts at the end of a sequence are left to an automaton.  If what follows the sequence
may go back, their length has to be known. -/
def regularEnd (used : List Nat) (inner : Bool) (parts : List Pattern) : Nat :=
  ((parts.drop (regularStart used parts)).reverse.takeWhile fun p =>
    (!inner || p.isRigid) && p.isRegular used).length

mutual

/-- Adds the instructions of a pattern; `inner` says that what follows may go back into it. -/
def addPattern (used : List Nat) (inner : Bool) : Pattern → Builder Unit
  | .empty => pure ()
  | .seq parts =>
    if !inner && areRegular used parts then addRegular parts
    else do
      let start := regularStart used parts
      let count := parts.length - start - regularEnd used inner parts
      addRegular (parts.take start)
      addMiddle used start count parts
      addRegular (parts.drop (start + count))
  | .alt options =>
    if !inner && areRegular used options then addRegular [.alt options]
    else do land (← addOptions used inner options)
  | .group number p =>
    if !inner && (Pattern.group number p).isRegular used then addRegular [p]
    else do
      emit (.keep (2 * number))
      addPattern used inner p
      emit (.keep (2 * number + 1))
  | .repeated p least most greedy =>
    if !inner && p.isRegular used then addRegular [.repeated p least most greedy]
    else
      let inner := if least = 0 ∧ most = some 1 then inner else inner || !p.isRegular used
      addRepeated (addPattern used inner p) (p.shortest == 0) least most greedy
  | .look true true (.alt options) => addLooks used options
  | .look true false (.alt options) => do land (← addLookOptions used options)
  | .look behind negated p => addLook behind negated p (addPattern used false p)
  | .atomic p => do
    emit .atomicStart
    addPattern used false p
    emit .atomicEnd
  | .again number => emit (.again number)
  | .matched number => emit (.matched number)
  | .startHere => emit (.keep 0)
  | .searchStart => emit .searchStart
  | .choice test yes no =>
    addChoice (addPattern used inner test) (addPattern used inner yes) (addPattern used inner no)
  | .place a => emit (.place a)
  | .any newline => emit (.any newline)
  | p => addRegular [p]

/-- Adds the instructions of some parts of a sequence, skipping the first ones. -/
def addMiddle (used : List Nat) : Nat → Nat → List Pattern → Builder Unit
  | _, _, [] => pure ()
  | start + 1, count, _ :: rest => addMiddle used start count rest
  | 0, 0, _ => pure ()
  | 0, count + 1, p :: rest => do
    addPattern used true p
    addMiddle used 0 count rest

/-- Adds the instructions of one of several patterns. -/
def addOptions (used : List Nat) (inner : Bool) : List Pattern → Builder (List Nat)
  | [] => pure []
  | [p] => do
    addPattern used inner p
    pure []
  | p :: rest => addOption (addPattern used inner p) (addOptions used inner rest)

/-- Adds the instructions of looking for one of several patterns behind a position. -/
def addLookOptions (used : List Nat) : List Pattern → Builder (List Nat)
  | [] => pure []
  | [p] => do
    addLook true false p (addPattern used false p)
    pure []
  | p :: rest =>
    addOption (addLook true false p (addPattern used false p)) (addLookOptions used rest)

/-- Adds the instructions of making sure that none of several patterns stands behind a position. -/
def addLooks (used : List Nat) : List Pattern → Builder Unit
  | [] => pure ()
  | p :: rest => do
    addLook true true p (addPattern used false p)
    addLooks used rest

end

/-- The instructions of a search: any number of characters is skipped, as few as possible, and then
the pattern follows. -/
def ofPattern? (g : Grouped) : Option Machine := do
  let build : Builder Unit := do
    addRepeated (emit (.any true)) false 0 none false
    addPattern g.used true (.group 0 g.pattern)
    emit .done
  let (_, m) ← build.run ⟨#[], 2 * (g.groups + 1)⟩
  some m

/-! ## Running -/

/-- A way to go on. -/
structure Branch where
  /-- The next instruction. -/
  next : Nat
  /-- The position in the text. -/
  position : Nat
  /-- What the slots hold. -/
  slots : Array (Option Nat)
  /-- Numbers of branches that have been noted. -/
  noted : List Nat := []

/-- A run: the way that is followed, and those that are left. -/
structure Run where
  /-- The way that is followed. -/
  current : Branch
  /-- The ways that are left, the preferred ones first. -/
  left : List Branch := []
  /-- How many of them there are. -/
  count : Nat := 0
  /-- How often a failure has gone back. -/
  failures : Nat := 0

/-- A search is given up after so many failures. -/
def maxFailures : Nat := 1000000

/-- Number of steps after which a search is given up in any case. -/
def maxSteps : Nat := 9223372036854775807

/-- What comes of a step. -/
inductive Outcome
  | running (r : Run)
  | ended (found : Bool)
  | givenUp

/-- Goes back to the preferred way that is left. -/
def Run.fail (r : Run) : Outcome :=
  match r.left with
  | [] => .ended false
  | b :: rest =>
    if maxFailures ≤ r.failures then .givenUp
    else .running ⟨b, rest, r.count - 1, r.failures + 1⟩

/-- Goes on with the next instruction, after a change. -/
def Run.goOn (r : Run) (change : Branch → Branch) : Outcome :=
  .running { r with current := change { r.current with next := r.current.next + 1 } }

/-- Goes on with the next instruction if a condition holds. -/
def Run.check (r : Run) (ok : Bool) : Outcome := if ok then r.goOn id else r.fail

/-- Goes on with the next instruction at a position, if there is one. -/
def Run.moveTo (r : Run) (position : Option Nat) : Outcome :=
  match position with
  | some i => r.goOn fun b => { b with position := i }
  | none => r.fail

/-- Goes on with one instruction and keeps the way that goes on with another one. -/
def Run.split (r : Run) (first second : Nat) : Outcome :=
  .running { r with
    current := { r.current with next := first }
    left := { r.current with next := second } :: r.left
    count := r.count + 1 }

/-- A branch with a changed slot. -/
def Branch.put (b : Branch) (slot value : Nat) : Branch :=
  { b with slots := b.slots.setIfInBounds slot (some value) }

/-- What a slot holds. -/
def Branch.slot? (b : Branch) (slot : Nat) : Option Nat := (b.slots[slot]?).join

/-- The position behind a text, if it follows a position. -/
def behind? (text : Array Char) : List Char → Nat → Option Nat
  | [], i => some i
  | c :: rest, i => if text[i]? = some c then behind? text rest (i + 1) else none

/-- The text that a group has matched. -/
def Branch.matched? (b : Branch) (text : Array Char) (number : Nat) : Option (List Char) := do
  let first ← b.slot? (2 * number)
  let last ← b.slot? (2 * number + 1)
  if first ≤ last then some (text.extract first last).toList else none

/-- What an instruction does. -/
def Instruction.run (text : Array Char) (r : Run) : Instruction → Outcome
  | .text chars => r.moveTo (behind? text chars r.current.position)
  | .match_ m => r.moveTo (m.matchEnd? text r.current.position)
  | .any newline =>
    r.moveTo <| match text[r.current.position]? with
      | some c => if newline || c != '\n' then some (r.current.position + 1) else none
      | none => none
  | .place a => r.check (a.holds text r.current.position)
  | .fork first second => r.split first second
  | .jump target => .running { r with current := { r.current with next := target } }
  | .keep slot => r.goOn fun b => b.put slot b.position
  | .clear slot => r.goOn fun b => b.put slot 0
  | .restore slot => r.moveTo (r.current.slot? slot)
  | .repeated least most greedy counter behind =>
    let b := r.current
    let times := (b.slot? counter).getD 0
    if most = some times then .running { r with current := { b with next := behind } }
    else
      let r := { r with current := b.put counter (times + 1) }
      if times < least then r.goOn id
      else if greedy then r.split (b.next + 1) behind
      else r.split behind (b.next + 1)
  | .repeatedAhead least greedy counter last behind =>
    let b := r.current
    let times := (b.slot? counter).getD 0
    if least < times ∧ b.slot? last = some b.position then r.fail
    else
      let b := b.put counter (times + 1)
      if times < least then { r with current := b }.goOn id
      else
        let r := { r with current := b.put last b.position }
        if greedy then r.split (b.next + 1) behind else r.split behind (b.next + 1)
  | .back count =>
    r.moveTo (if count ≤ r.current.position then some (r.current.position - count) else none)
  | .refuse =>
    let rest := r.left.dropWhile fun b => b.next != r.current.next + 1
    { r with left := rest.drop 1, count := rest.length - 1 }.fail
  | .again number =>
    match r.current.matched? text number with
    | some chars => r.moveTo (behind? text chars r.current.position)
    | none => r.fail
  | .matched number => r.check (r.current.slot? (2 * number)).isSome
  | .atomicStart => r.goOn fun b => { b with noted := r.count :: b.noted }
  | .atomicEnd =>
    match r.current.noted with
    | [] => r.goOn id
    | count :: noted =>
      { r with left := r.left.drop (r.count - count), count }.goOn fun b => { b with noted }
  | .searchStart => r.check (r.current.position == 0)
  | .done => .ended true

/-- Runs a search to its end. -/
def run (m : Machine) (text : Array Char) : Nat → Run → Option Bool
  | 0, _ => none
  | steps + 1, r =>
    match m.code[r.current.next]? with
    | none => some false
    | some i =>
      match i.run text r with
      | .running r => run m text steps r
      | .ended found => some found
      | .givenUp => none

/-- Whether there is a match in a text, unless the search is given up. -/
def occursIn? (m : Machine) (text : Array Char) : Option Bool :=
  run m text maxSteps ⟨⟨0, 0, Array.replicate m.slots none, []⟩, [], 0, 0⟩

end Machine

end ServicePlan.Pattern
