/-!
# Finite binary floating-point numbers

A `Binary64` is a finite number of the 64-bit binary format: a sign and a magnitude of
`significand * 2 ^ scale` units, where the unit is the smallest positive number of the format,
`2 ^ -1074`.  All arithmetic is exact arithmetic on natural numbers followed by one rounding to
the nearest number of the format, a tie going to the even significand.

* `roundHalfEven`: the quotient of two natural numbers, rounded.
* `Binary64.ofRatio?`: the nearest number to a quotient, unless it is too large.
* `Binary64.mul?`, `Binary64.div?`: the operations, rounded once.
* `Binary64.ofScaled?`: a decimal number as a product or quotient of two rounded factors.
* `Binary64.ofDecimal?`: a decimal number, rounded once.
-/

namespace ServicePlan.Decimal

/-- `num / den` rounded to the nearest natural number, a tie to the even one. -/
def roundHalfEven (num den : Nat) : Nat :=
  let q := num / den
  let r := num % den
  if 2 * r < den then q
  else if den < 2 * r then q + 1
  else q + q % 2

/-- A finite number of the 64-bit binary format. -/
structure Binary64 where
  /-- The sign; zero has two signs. -/
  negative : Bool
  /-- The significand, below `2 ^ 53`. -/
  significand : Nat
  /-- The exponent, counted from that of the smallest positive number. -/
  scale : Nat
  deriving DecidableEq, Repr

namespace Binary64

/-- Number of units in one. -/
def unitsPerOne : Nat := Nat.pow 2 1074

/-- The largest exponent of a finite number. -/
def maxScale : Nat := 2045

/-- The magnitude, in units of the smallest positive number. -/
def units (x : Binary64) : Nat := x.significand * Nat.pow 2 x.scale

/-- Whether the number is a zero of either sign. -/
def isZero (x : Binary64) : Bool := x.significand == 0

/-- The zero of a sign. -/
def zero (negative : Bool) : Binary64 := ⟨negative, 0, 0⟩

/-- The number of the format that is nearest to `num / den`, unless that is beyond the largest
one. -/
def ofRatio? (negative : Bool) (num den : Nat) : Option Binary64 :=
  let units := num * unitsPerOne
  let scale := (units / den).log2 + 1 - 53
  let significand := roundHalfEven units (den * Nat.pow 2 scale)
  let (significand, scale) :=
    if significand = Nat.pow 2 53 then (Nat.pow 2 52, scale + 1) else (significand, scale)
  if scale ≤ maxScale then some ⟨negative, significand, scale⟩ else none

/-- The nearest number to a natural number, unless that is too large. -/
def ofNat? (negative : Bool) (n : Nat) : Option Binary64 := ofRatio? negative n 1

/-- The rounded product, unless it is too large. -/
def mul? (x y : Binary64) : Option Binary64 :=
  ofRatio? (x.negative != y.negative) (x.units * y.units) (unitsPerOne * unitsPerOne)

/-- The rounded quotient by a number other than zero, unless it is too large. -/
def div? (x y : Binary64) : Option Binary64 :=
  ofRatio? (x.negative != y.negative) x.units y.units

/-- The nearest number to a power of ten, unless that is too large. -/
def powTen? (k : Nat) : Option Binary64 := ofNat? false (Nat.pow 10 k)

/-- The largest power of ten that one factor may hold. -/
def maxPowTen : Nat := 308

/-- Divides by `10 ^ k`, at most `maxPowTen` decimal places at a time.  Once the quotient is zero
nothing more happens. -/
def divPowTen? (x : Binary64) (k : Nat) : Option Binary64 :=
  if k ≤ maxPowTen then (powTen? k).bind x.div?
  else if x.isZero then some x
  else do
    let y ← (powTen? maxPowTen).bind x.div?
    divPowTen? y (k - maxPowTen)
termination_by k
decreasing_by simp only [maxPowTen] at *; omega

/-- The number `significand * 10 ^ exponent`, computed with one rounding of the significand and
one of each product or quotient, so it may differ from the nearest number in its last place.
There is no result beyond the largest number. -/
def ofScaled? (negative : Bool) (significand : Nat) (exponent : Int) : Option Binary64 := do
  let x ← ofNat? negative significand
  match exponent with
  | .ofNat k =>
    if k ≤ maxPowTen then (powTen? k).bind x.mul?
    else if x.isZero then some x
    else none
  | .negSucc k => x.divPowTen? (k + 1)

/-- Beyond so many places before the point a decimal number is too large, and with so many zeros
behind the point it is zero. -/
def maxPlaces : Int := 400

/-- The number of the format that is nearest to `digits * 10 ^ exponent`, unless that is beyond
the largest one. -/
def ofDecimal? (negative : Bool) (digits : Nat) (exponent : Int) : Option Binary64 :=
  let places := exponent + ((Nat.toDigits 10 digits).length : Int)
  if digits = 0 ∨ places < -maxPlaces then some (zero negative)
  else if maxPlaces < places then none
  else
    match exponent with
    | .ofNat k => ofRatio? negative (digits * Nat.pow 10 k) 1
    | .negSucc k => ofRatio? negative digits (Nat.pow 10 (k + 1))

/-- Whether the number is a whole one. -/
def isWhole (x : Binary64) : Bool := x.units % unitsPerOne == 0

/-- The number in units, with its sign; it orders the numbers and identifies the two zeros. -/
def signedUnits (x : Binary64) : Int :=
  if x.negative then -(x.units : Int) else (x.units : Int)

end Binary64

end ServicePlan.Decimal
