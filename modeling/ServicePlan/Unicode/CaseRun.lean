/-!
# Runs of letters

The letters of most scripts come in runs that are mapped to other letters alike: either each letter
of a run is moved by the same distance, or every other one is.

* `CaseRun`: a run of letters with what they are mapped to.
* `CaseRun.pairs`: the letters of a run one by one.
-/

namespace ServicePlan.Unicode

/-- Code points from `first` to `last` in steps of `step`, of which the first is mapped to `image`
and the others are mapped by the same distance. -/
structure CaseRun where
  /-- The first code point. -/
  first : Nat
  /-- The last code point. -/
  last : Nat
  /-- The distance from one code point to the next. -/
  step : Nat
  /-- What the first code point is mapped to. -/
  image : Nat

namespace CaseRun

/-- The image of a code point of a run. -/
def map? (r : CaseRun) (n : Nat) : Option Nat :=
  if r.first ≤ n ∧ n ≤ r.last ∧ (n - r.first) % r.step = 0 then some (n - r.first + r.image)
  else none

/-- The code points of a run with their images. -/
def pairs (r : CaseRun) : List (Nat × Nat) :=
  (List.range ((r.last - r.first) / r.step + 1)).map fun i =>
    (r.first + i * r.step, r.image + i * r.step)

end CaseRun

end ServicePlan.Unicode
