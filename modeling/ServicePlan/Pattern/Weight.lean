import ServicePlan.Pattern.Basic

/-!
# The size of automata

Patterns are refused whose automata would be too large.  The size is that of an automaton which reads
the bytes of a text from behind: a state for each byte of a character, and as many copies of a
repeated part as it is counted.

* `Pattern.weight`: the number of bytes that an automaton takes.
* `Pattern.isLight`: whether a pattern is not refused.
-/

namespace ServicePlan.Pattern

open Unicode (CodeSet)

/-! ## Bytes of characters -/

/-- The largest code points with one, two, three and four bytes. -/
def lastCodes : List Nat := [0x7F, 0x7FF, 0xFFFF, 0x10FFFF]

/-- Number of bytes of a code point. -/
def byteCount (n : Nat) : Nat := (lastCodes.filter (· < n)).length + 1

/-- The ranges of bytes of code points with the same number of bytes, from the first byte on. -/
def byteRanges (first last : Nat) : Nat → List (Nat × Nat)
  | 0 => []
  | 1 => [(first, last)]
  | count + 1 =>
    byteRanges (first / 64) (last / 64) count ++ [(first % 64, last % 64)]

/-- Splits a range of code points with `count` bytes so that the ranges of bytes are independent of
each other. -/
def sequences (count : Nat) : Nat → Nat → Nat → List (List (Nat × Nat))
  | 0, _, _ => []
  | fuel + 1, first, last =>
    let cut := ([64, 64 * 64, 64 * 64 * 64].take (count - 1)).findSome? fun m =>
      if first / m = last / m then none
      else if first % m ≠ 0 then some ((first / m + 1) * m)
      else if last % m ≠ m - 1 then some (last / m * m)
      else none
    match cut with
    | some middle => sequences count fuel first (middle - 1) ++ sequences count fuel middle last
    | none => [byteRanges first last count]

/-- The parts of a range of code points that have the same number of bytes, without those between
0xD800 and 0xDFFF. -/
def evenRanges (first last : Nat) : List (Nat × Nat) :=
  [(0, 0x7F), (0x80, 0x7FF), (0x800, 0xD7FF), (0xE000, 0xFFFF), (0x10000, 0x10FFFF)].filterMap
    fun r => if max first r.1 ≤ min last r.2 then some (max first r.1, min last r.2) else none

/-- The sequences of ranges of bytes of a set. -/
def CodeSet.sequences (s : CodeSet) : List (List (Nat × Nat)) :=
  s.ranges.toList.flatMap fun r =>
    (evenRanges r.1 r.2).flatMap fun r => Pattern.sequences (byteCount r.1) 8 r.1 r.2

/-- Number of first bytes, and of the bytes behind them, that a sequence does not share with the one
in front of it. -/
def newBytes : List (Nat × Nat) → List (Nat × Nat) → Nat
  | a :: rest, b :: others => if a = b then newBytes rest others else (a :: rest).length
  | rest, _ => rest.length

/-- Number of states for the bytes of sequences in order. -/
def byteStates : List (Nat × Nat) → List (List (Nat × Nat)) → Nat
  | _, [] => 0
  | previous, s :: rest => newBytes s previous + byteStates s rest

/-! ## Weights -/

/-- Bytes of a state. -/
def stateWeight : Nat := 32

/-- Bytes of a fork into a number of states. -/
def forkWeight (count : Nat) : Nat := stateWeight + 4 * count

/-- Bytes of the states for the characters of a set. -/
def setWeight (s : CodeSet) : Nat :=
  match s.ranges.toList with
  | [(first, last)] =>
    if first = last then stateWeight * byteCount first else wideWeight [(first, last)]
  | ranges => wideWeight ranges
where
  /-- Bytes of the states for several characters. -/
  wideWeight (ranges : List (Nat × Nat)) : Nat :=
    if ranges.all fun r => r.2 < 128 then 2 * stateWeight + 8 * ranges.length
    else
      let sequences := CodeSet.sequences s
      stateWeight * (1 + byteStates [] sequences) + forkWeight sequences.length

/-- Bytes of the states for a repetition of a part. -/
def repeatedWeight (inside : Nat) (mayBeEmpty : Bool) (least : Nat) (most : Option Nat) : Nat :=
  match most with
  | some most =>
    inside * least +
      (if least < most then (inside + forkWeight 2) * (most - least) + stateWeight else 0)
  | none =>
    if least = 0 then
      inside + forkWeight 2 + (if mayBeEmpty then forkWeight 2 + stateWeight else 0)
    else inside * least + forkWeight 2

mutual

/-- Number of bytes that the automaton of a pattern takes. -/
def weight : Pattern → Nat
  | .place _ => stateWeight
  | .seq parts => weightAll parts
  | .alt options => weightAll options + forkWeight options.length + stateWeight
  | .group _ p => p.weight
  | .repeated p least most _ => repeatedWeight p.weight (p.shortest == 0) least most
  | p => p.setOf?.elim stateWeight setWeight

/-- Number of bytes for all patterns of a list. -/
def weightAll : List Pattern → Nat
  | [] => 0
  | p :: rest => p.weight + weightAll rest

end

/-- Number of bytes that an automaton may take. -/
def maxWeight : Nat := 10485760

/-- Whether the automaton of a pattern is not too large. -/
def isLight (p : Pattern) : Bool := p.weight ≤ maxWeight

end ServicePlan.Pattern
