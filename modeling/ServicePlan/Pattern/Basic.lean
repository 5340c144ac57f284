import ServicePlan.Unicode.ClassName

/-!
# Patterns

A pattern says what a part of a text looks like: characters and sets of characters, sequences,
alternatives, repetitions, places, and what stands before or behind a place or has been met already.

* `Pattern`: patterns, and `Pattern.Anchor`: places.
* `Pattern.shortest`, `Pattern.isRigid`: how many characters a match has.
* `Pattern.isRegular`: whether matches can be found without going back.
-/

namespace ServicePlan

/-- A kind of place in a text. -/
inductive Pattern.Anchor
  | textStart
  | textEnd
  | lineStart
  | lineEnd
  | wordEdge
  | noWordEdge
  | wordStart
  | wordEnd
  deriving DecidableEq, Repr

/-- A pattern. -/
inductive Pattern
  /-- Nothing. -/
  | empty
  /-- Any character, or any but the end of a line. -/
  | any (newline : Bool)
  /-- A character, or one that differs from it in case only. -/
  | char (c : Char) (anyCase : Bool)
  /-- A character of a set. -/
  | set (s : Unicode.CodeSet)
  /-- A place of a kind. -/
  | place (a : Pattern.Anchor)
  /-- One pattern after the other. -/
  | seq (parts : List Pattern)
  /-- One of several patterns; earlier ones are preferred. -/
  | alt (options : List Pattern)
  /-- A pattern whose match is remembered under a number. -/
  | group (number : Nat) (p : Pattern)
  /-- A pattern repeated between two numbers of times; without the second one, any larger number of
  times.  Greedy repetitions prefer large numbers. -/
  | repeated (p : Pattern) (least : Nat) (most : Option Nat) (greedy : Bool)
  /-- A place where a pattern matches, or does not match, in front or behind. -/
  | look (behind negated : Bool) (p : Pattern)
  /-- The preferred match of a pattern only. -/
  | atomic (p : Pattern)
  /-- The text that a group has matched. -/
  | again (number : Nat)
  /-- Any place once a group has matched. -/
  | matched (number : Nat)
  /-- Any place, where the match starts anew. -/
  | startHere
  /-- The place where the search has started. -/
  | searchStart
  /-- The second pattern behind a match of the first one, or else the third. -/
  | choice (test yes no : Pattern)

namespace Pattern

instance : Inhabited Pattern := ⟨empty⟩

/-! ## Places -/

/-- The character in front of a position. -/
def charBefore? (text : Array Char) (i : Nat) : Option Char :=
  match i with
  | 0 => none
  | i + 1 => text[i]?

/-- Whether a position of a text is a place of a kind. -/
def Anchor.holds (a : Anchor) (text : Array Char) (i : Nat) : Bool :=
  let before := (charBefore? text i).any Unicode.isWordChar
  let behind := text[i]?.any Unicode.isWordChar
  match a with
  | textStart => i == 0
  | textEnd => text.size ≤ i
  | lineStart => (charBefore? text i).all (· == '\n')
  | lineEnd => text[i]?.all (· == '\n')
  | wordEdge => before != behind
  | noWordEdge => before == behind
  | wordStart => !before && behind
  | wordEnd => before && !behind

/-- Whether a kind of place depends on words. -/
def Anchor.isAboutWords : Anchor → Bool
  | wordEdge | noWordEdge | wordStart | wordEnd => true
  | _ => false

/-! ## Sizes -/

mutual

/-- Number of characters of the shortest matches, as far as it can be told without a text. -/
def shortest : Pattern → Nat
  | any _ | char _ _ | set _ => 1
  | seq parts => shortestAll parts
  | alt options => shortestAny options
  | group _ p | atomic p => p.shortest
  | repeated p least _ _ => p.shortest * least
  | choice test yes no => test.shortest + min yes.shortest no.shortest
  | _ => 0

/-- Number of characters of the shortest matches of a sequence. -/
def shortestAll : List Pattern → Nat
  | [] => 0
  | p :: rest => p.shortest + shortestAll rest

/-- Number of characters of the shortest matches of several patterns. -/
def shortestAny : List Pattern → Nat
  | [] => 0
  | [p] => p.shortest
  | p :: rest => min p.shortest (shortestAny rest)

end

mutual

/-- Whether all matches have the same number of characters, as far as it can be told without a
text. -/
def isRigid : Pattern → Bool
  | seq parts => areRigid parts
  | alt options => areRigid options && options.all fun p => p.shortest == shortestAny options
  | group _ p | atomic p => p.isRigid
  | repeated p least most _ => p.isRigid && most == some least
  | again _ => false
  | choice test yes no =>
    test.isRigid && yes.isRigid && no.isRigid && test.shortest + yes.shortest == no.shortest
  | _ => true

/-- Whether this holds for all patterns of a list. -/
def areRigid : List Pattern → Bool
  | [] => true
  | p :: rest => p.isRigid && areRigid rest

end

mutual

/-- Whether matches of a pattern can be found without going back; `used` holds the numbers of the
groups whose matches are asked for. -/
def isRegular (used : List Nat) : Pattern → Bool
  | empty | any _ | char _ _ | set _ => true
  | place a => !a.isAboutWords
  | seq parts => areRegular used parts
  | alt options => areRegular used options
  | group number p => !used.contains number && p.isRegular used
  | repeated p _ _ _ => p.isRegular used
  | _ => false

/-- Whether this holds for all patterns of a list. -/
def areRegular (used : List Nat) : List Pattern → Bool
  | [] => true
  | p :: rest => p.isRegular used && areRegular used rest

end

/-! ## Sets -/

/-- The characters that a pattern of one character allows. -/
def setOf? : Pattern → Option Unicode.CodeSet
  | any true => some .all
  | any false => some (Unicode.CodeSet.ofChar '\n').complement
  | char c anyCase =>
    some (if anyCase then (Unicode.CodeSet.ofChar c).folded else .ofChar c)
  | set s => some s
  | _ => none

end Pattern

end ServicePlan
