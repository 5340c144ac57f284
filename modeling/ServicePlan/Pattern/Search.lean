import ServicePlan.Pattern.Machine
import ServicePlan.Pattern.Plain

/-!
# Searching texts for patterns

A pattern matches a text if it matches somewhere inside of it.  Patterns that need no going back are
searched for by an automaton, and all others by a machine, which may give up.

* `Search.ofSource?`: the search for the pattern of a source text, if the text is well formed.
* `Search.occursIn?`, `Search.occursIn`: whether a text contains a match.
-/

namespace ServicePlan.Pattern

/-- A way to search texts for a pattern. -/
inductive Search
  | automaton (m : Automaton)
  | machine (m : Machine)

namespace Search

/-- The search for a pattern, if it is not too large. -/
def ofPattern? (g : Grouped) : Option Search :=
  if g.pattern.isRegular g.used then
    if g.pattern.isLight then some (automaton (.ofPattern g.pattern)) else none
  else (Machine.ofPattern? g).map machine

/-- The search for the pattern of a source text. -/
def ofSource? (source : String) : Option Search := do
  let text ← Plain.spelledOut? (source.length + 1) source.toList
  ofPattern? (← ofText? text)

/-- Whether a text contains a match, unless the search is given up. -/
def occursIn? (s : Search) (text : String) : Option Bool :=
  match s with
  | automaton m => some (m.occursIn text.toList.toArray)
  | machine m => m.occursIn? text.toList.toArray

/-- Whether a text contains a match, as far as the search goes. -/
def occursIn (s : Search) (text : String) : Bool := (s.occursIn? text).getD false

end Search

end ServicePlan.Pattern
