import ServicePlan.Decimal.Binary64

/-!
# The shortest decimal of a floating-point number

Every `Binary64` is written with the fewest decimal digits that round back to it, and of these
with the nearest.  The numbers that round to `x` form an interval whose ends belong to it exactly
if the significand is even; for each number of digits it is enough to test the two neighbours of
`x` on that decimal grid.

* `shortest`: the digits and the power of ten they are scaled by.
* `positional`, `Layout.render`: the two ways the digits are laid out as text.
-/

namespace ServicePlan.Decimal

/-- A decimal number `digits * 10 ^ exponent`. -/
structure Scientific where
  /-- All digits, read as one number. -/
  digits : Nat
  /-- The power of ten of the last digit. -/
  exponent : Int
  deriving DecidableEq, Repr

namespace Binary64

/-- Four times the magnitude in units, and the lower and the upper end of the interval of numbers
that round to it.  Below a power of two the neighbour is half as far away. -/
def interval (x : Binary64) : Nat × Nat × Nat :=
  let gap := Nat.pow 2 x.scale
  let below := if x.significand = Nat.pow 2 52 ∧ 0 < x.scale then gap else 2 * gap
  (4 * x.units - below, 4 * x.units, 4 * x.units + 2 * gap)

/-- Four times `x` in units of `10 ^ k`, as a quotient: the factor of the numerators and the
denominator. -/
def gridFactors (k : Int) : Nat × Nat :=
  match k with
  | .ofNat k => (1, 4 * unitsPerOne * Nat.pow 10 k)
  | .negSucc k => (Nat.pow 10 (k + 1), 4 * unitsPerOne)

/-- The multiple of `10 ^ k` that is nearest to `x` among its two neighbours on that grid, if one
of them rounds to `x`. -/
def onGrid? (x : Binary64) (k : Int) : Option Nat :=
  let (lower, value, upper) := x.interval
  let (factor, den) := gridFactors k
  let closed := x.significand % 2 == 0
  let inside (d : Nat) : Bool :=
    if closed then lower * factor ≤ d * den && d * den ≤ upper * factor
    else lower * factor < d * den && d * den < upper * factor
  let d := value * factor / den
  let rest := value * factor % den
  match inside d, inside (d + 1) with
  | true, true =>
    if 2 * rest < den then some d
    else if den < 2 * rest then some (d + 1)
    else some (d + d % 2)
  | true, false => some d
  | false, true => some (d + 1)
  | false, false => none

/-- The decimal exponent of the first digit of a magnitude below one that needs `k` or more
leading places, found by moving the point. -/
def leadingPlaces (units : Nat) : Nat → Nat → Nat
  | 0, k => k
  | fuel + 1, k => if unitsPerOne ≤ units * Nat.pow 10 k then k else leadingPlaces units fuel (k + 1)

/-- The power of ten of the first decimal digit of a magnitude other than zero. -/
def leadingExponent (x : Binary64) : Int :=
  if unitsPerOne ≤ x.units then
    ((Nat.toDigits 10 (x.units / unitsPerOne)).length : Int) - 1
  else
    -(leadingPlaces x.units 324 1 : Int)

/-- The first grid with at most `fuel` more digits on which a neighbour of `x` rounds to it. -/
def searchGrid (x : Binary64) : Nat → Int → Scientific
  | 0, k => ⟨(x.onGrid? k).getD 0, k⟩
  | fuel + 1, k =>
    match x.onGrid? k with
    | some d => ⟨d, k⟩
    | none => searchGrid x fuel (k - 1)

/-- Removes the zeros at the end. -/
def trimZeros : Nat → Scientific → Scientific
  | 0, s => s
  | fuel + 1, s =>
    if s.digits % 10 = 0 then trimZeros fuel ⟨s.digits / 10, s.exponent + 1⟩ else s

/-- The fewest decimal digits that round back to the magnitude of `x`, and of these the nearest.
Seventeen digits always suffice. -/
def shortest (x : Binary64) : Scientific :=
  if x.isZero then ⟨0, 0⟩
  else trimZeros 17 (searchGrid x 16 x.leadingExponent)

end Binary64

/-! ## Text -/

/-- The digits of a natural number, most significant first. -/
def natDigits (n : Nat) : List Char := Nat.toDigits 10 n

/-- How the digits of a number become text. -/
structure Layout where
  /-- The smallest exponent of the first digit that is written positionally. -/
  minPositional : Int
  /-- The largest exponent of the first digit that is written positionally. -/
  maxPositional : Int
  /-- Whether a positive exponent has a sign. -/
  plusSign : Bool

/-- The digits of a positive number written with a point, and with `.0` behind a whole number if
`point` is set. -/
def positional (point : Bool) (s : Scientific) : List Char :=
  let digits := natDigits s.digits
  match s.exponent with
  | .ofNat k =>
    digits ++ List.replicate k '0' ++ (if point then ['.', '0'] else [])
  | .negSucc k =>
    let places := k + 1
    if places < digits.length then
      digits.take (digits.length - places) ++ ['.'] ++ digits.drop (digits.length - places)
    else
      ['0', '.'] ++ List.replicate (places - digits.length) '0' ++ digits

/-- The digits with a point behind the first one and an exponent. -/
def exponential (plusSign : Bool) (s : Scientific) : List Char :=
  let digits := natDigits s.digits
  let first := s.exponent + (digits.length : Int) - 1
  let mantissa := match digits with
    | [] => []
    | [d] => [d]
    | d :: rest => d :: '.' :: rest
  let power := match first with
    | .ofNat k => (if plusSign then ['+'] else []) ++ natDigits k
    | .negSucc k => '-' :: natDigits (k + 1)
  mantissa ++ ['e'] ++ power

/-- The text of a number: positional if its first digit stands within the bounds of the layout,
with an exponent otherwise. -/
def Layout.render (l : Layout) (x : Binary64) : List Char :=
  let s := x.shortest
  let first := s.exponent + ((natDigits s.digits).length : Int) - 1
  let body :=
    if l.minPositional ≤ first ∧ first ≤ l.maxPositional then positional true s
    else exponential l.plusSign s
  if x.negative then '-' :: body else body

/-- The text of a number without an exponent, and without a point if it is whole. -/
def plain (x : Binary64) : List Char :=
  let body := positional false x.shortest
  if x.negative then '-' :: body else body

end ServicePlan.Decimal
