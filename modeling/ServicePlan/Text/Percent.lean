/-!
# Hexadecimal digits and percent escapes

A byte may be written as a percent sign with two hexadecimal digits.

* `Text.hexDigit?`, `Text.hexNumber?`: the values of hexadecimal digits.
* `Text.percentBytes?`: the bytes of a text with percent escapes.
* `Text.unescapePercent?`: the text they make up.
-/

namespace ServicePlan.Text

/-- The value of a hexadecimal digit. -/
def hexDigit? (c : Char) : Option Nat :=
  if '0' ≤ c ∧ c ≤ '9' then some (c.toNat - 48)
  else if 'a' ≤ c ∧ c ≤ 'f' then some (c.toNat - 87)
  else if 'A' ≤ c ∧ c ≤ 'F' then some (c.toNat - 55)
  else none

/-- The number of some hexadecimal digits. -/
def hexNumber? (digits : List Char) : Option Nat :=
  digits.foldlM (fun n c => (hexDigit? c).map fun d => n * 16 + d) 0

/-- The bytes of a character. -/
def bytesOf (c : Char) : List UInt8 := (String.singleton c).toUTF8.toList

/-- The bytes of a text with percent escapes.  A percent sign that starts no escape is refused if
`strict` is set, and stands for itself otherwise. -/
def percentBytes? (strict : Bool) : List Char → Option (List UInt8)
  | [] => some []
  | '%' :: a :: b :: rest =>
    match hexNumber? [a, b] with
    | some n => (percentBytes? strict rest).map (n.toUInt8 :: ·)
    | none =>
      if strict then none else (percentBytes? strict (a :: b :: rest)).map (bytesOf '%' ++ ·)
  | c :: rest =>
    if strict && c == '%' then none else (percentBytes? strict rest).map (bytesOf c ++ ·)

/-- A text without its percent escapes, if the bytes make up a text. -/
def unescapePercent? (strict : Bool) (text : List Char) : Option String := do
  let bytes ← percentBytes? strict text
  String.fromUTF8? ⟨bytes.toArray⟩

end ServicePlan.Text
