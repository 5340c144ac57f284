import ServicePlan.Yaml.Basic

/-!
# Scalars of YAML documents

A plain scalar stands for null, a truth value or a number if it is written like one, and for a
string otherwise.

* `Scalar.integer?`: decimal integers without leading zeros, and hexadecimal, octal and binary
  ones.
* `Scalar.float?`: floating-point numbers.
* `Scalar.ofPlain`: the value of a plain scalar; integers beyond 64 bits are refused.
* `Scalar.ofTag`: the value of a scalar with a tag of the format.
-/

namespace ServicePlan.Yaml.Scalar

open Decimal (Binary64)

/-- Whether a text is one of the words for null. -/
def isNull (text : List Char) : Bool :=
  ["null", "Null", "NULL", "~"].contains (String.ofList text)

/-- The truth value that a word stands for. -/
def bool? (text : List Char) : Option Bool :=
  let word := String.ofList text
  if ["true", "True", "TRUE"].contains word then some true
  else if ["false", "False", "FALSE"].contains word then some false
  else none

/-- The value of a digit in a base. -/
def digit? (base : Nat) (c : Char) : Option Nat :=
  let value :=
    if '0' ≤ c ∧ c ≤ '9' then some (c.toNat - 48)
    else if 'a' ≤ c ∧ c ≤ 'z' then some (c.toNat - 87)
    else if 'A' ≤ c ∧ c ≤ 'Z' then some (c.toNat - 55)
    else none
  value.filter (· < base)

/-- The number of one or more digits in a base. -/
def natural? (base : Nat) (text : List Char) : Option Nat :=
  if text.isEmpty then none
  else text.foldlM (fun n c => (digit? base c).map (n * base + ·)) 0

/-- A text without one sign in front. -/
def unsigned : List Char → List Char
  | '+' :: rest => rest
  | '-' :: rest => rest
  | text => text

/-- Whether a text is made of two or more digits with a zero in front, which is a string. -/
def isPadded (text : List Char) : Bool :=
  match unsigned text with
  | '0' :: c :: rest => (c :: rest).all Char.isDigit
  | _ => false

/-- The magnitude of an integer, in a base that its start tells. -/
def magnitude? : List Char → Option Nat
  | '0' :: 'x' :: rest => natural? 16 rest
  | '0' :: 'o' :: rest => natural? 8 rest
  | '0' :: 'b' :: rest => natural? 2 rest
  | text => natural? 10 text

/-- The integer that a text is written like. -/
def integer? (text : List Char) : Option Int :=
  if isPadded text then none
  else
    match text with
    | '-' :: rest => (magnitude? rest).map fun n => -(n : Int)
    | '+' :: rest => (magnitude? rest).map Int.ofNat
    | text => (magnitude? text).map Int.ofNat

/-- The exponent behind a number, which is zero if there is none. -/
def exponent? : List Char → Option Int
  | [] => some 0
  | c :: rest =>
    if c = 'e' ∨ c = 'E' then
      match rest with
      | '-' :: digits => (natural? 10 digits).map fun n => -(n : Int)
      | '+' :: digits => (natural? 10 digits).map Int.ofNat
      | digits => (natural? 10 digits).map Int.ofNat
    else none

/-- The finite number that digits, a point and an exponent stand for.  At least one digit is
needed before or behind the point. -/
def finite? (negative : Bool) (text : List Char) : Option Binary64 := do
  let whole := text.takeWhile Char.isDigit
  let rest := text.dropWhile Char.isDigit
  let (fraction, rest) := match rest with
    | '.' :: rest => (rest.takeWhile Char.isDigit, rest.dropWhile Char.isDigit)
    | rest => ([], rest)
  let digits ← natural? 10 (whole ++ fraction)
  let exponent ← exponent? rest
  Binary64.ofDecimal? negative digits (exponent - (fraction.length : Int))

/-- The words for infinity. -/
def infinities : List String := [".inf", ".Inf", ".INF"]

/-- The words for what is no number. -/
def notNumbers : List String := [".nan", ".NaN", ".NAN"]

/-- The floating-point number that a text is written like. -/
def float? (text : List Char) : Option YamlNumber :=
  if infinities.contains (String.ofList text) then some (.infinite false)
  else if notNumbers.contains (String.ofList text) then some .notANumber
  else
    match text with
    | '+' :: rest =>
      if infinities.contains (String.ofList rest) then some (.infinite false)
      else (finite? false rest).map .float
    | '-' :: rest =>
      if infinities.contains (String.ofList rest) then some (.infinite true)
      else (finite? true rest).map .float
    | text => (finite? false text).map .float

/-- The smallest integer of 64 bits with a sign. -/
def minWord : Int := -9223372036854775808

/-- Number of words of 64 bits. -/
def wordCount : Int := 18446744073709551616

/-- The smallest integer of 128 bits with a sign. -/
def minLong : Int := -170141183460469231731687303715884105728

/-- Number of words of 128 bits. -/
def longCount : Int := 340282366920938463463374607431768211456

/-- Whether an integer is one of 64 bits, with or without a sign. -/
def isWord (i : Int) : Bool := minWord ≤ i ∧ i < wordCount

/-- Whether an integer is one of 128 bits, with or without a sign. -/
def isLong (i : Int) : Bool := minLong ≤ i ∧ i < longCount

/-- The value of a scalar that is not an integer of 128 bits. -/
def ofOther (text : List Char) : Yaml :=
  if isPadded text then .string (String.ofList text)
  else
    match float? text with
    | some n => .number n
    | none => .string (String.ofList text)

/-- The value of a plain scalar. -/
def ofPlain (text : List Char) : Option Yaml :=
  if text.isEmpty ∨ isNull text then some .null
  else
    match bool? text with
    | some b => some (.bool b)
    | none =>
      match integer? text with
      | some i =>
        if isWord i then some (.number (.integer i))
        else if isLong i then none
        else some (ofOther text)
      | none => some (ofOther text)

/-- What the tags of the format start with. -/
def tagStart : String := "tag:yaml.org,2002:"

/-- The value of a scalar with a tag of the format; other tags of this form stand for strings. -/
def ofTag (tag : String) (text : List Char) : Option Yaml :=
  if tag = tagStart ++ "bool" then (bool? text).map .bool
  else if tag = tagStart ++ "int" then
    ((integer? text).filter fun i => isWord i).map fun i => .number (.integer i)
  else if tag = tagStart ++ "float" then (float? text).map .number
  else if tag = tagStart ++ "null" then if isNull text then some .null else none
  else some (.string (String.ofList text))

end ServicePlan.Yaml.Scalar
