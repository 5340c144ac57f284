import ServicePlan.Text.Percent

/-!
# Addresses of hosts

A host is named by four decimal numbers, or by eight hexadecimal ones, of which one row of zeros may
be left out.

* `Address.isFour`: whether a text is an address of four numbers.
* `Address.isEight`: whether a text is an address of eight numbers.
-/

namespace ServicePlan.Address

/-- The parts between the separators of a text; there is at least one. -/
def split (separator : Char) : List Char → List (List Char)
  | [] => [[]]
  | c :: rest =>
    if c = separator then [] :: split separator rest
    else
      match split separator rest with
      | first :: others => (c :: first) :: others
      | [] => [[c]]

/-- Whether a text is a number below 256 without leading zeros. -/
def isByte (text : List Char) : Bool :=
  !text.isEmpty && text.length ≤ 3 && text.all Char.isDigit &&
    (text.length == 1 || text.head? != some '0') &&
    text.foldl (fun n c => n * 10 + (c.toNat - 48)) 0 < 256

/-- Whether a text is an address of four numbers. -/
def isFour (text : List Char) : Bool :=
  let parts := split '.' text
  parts.length == 4 && parts.all isByte

/-- Whether a text is one of the hexadecimal numbers of an address. -/
def isWord (text : List Char) : Bool :=
  !text.isEmpty && text.length ≤ 4 && text.all fun c => (Text.hexDigit? c).isSome

/-- How many numbers parts stand for, if all of them are numbers; the last one may be an address of
four numbers, which stands for two. -/
def words? (parts : List (List Char)) : Option Nat :=
  match parts.getLast? with
  | none => some 0
  | some last =>
    let front := parts.dropLast
    if !front.all isWord then none
    else if isWord last then some parts.length
    else if isFour last then some (parts.length + 1)
    else none

/-- The text in front of the first two colons in a row, and the text behind them. -/
def atGap? : List Char → Option (List Char × List Char)
  | ':' :: ':' :: rest => some ([], rest)
  | c :: rest => (atGap? rest).map fun (front, behind) => (c :: front, behind)
  | [] => none

/-- The parts between the colons of a text; an empty text has none. -/
def colonParts (text : List Char) : List (List Char) :=
  if text.isEmpty then [] else split ':' text

/-- Whether a text is an address of eight numbers. -/
def isEight (text : List Char) : Bool :=
  match atGap? text with
  | none => words? (colonParts text) == some 8
  | some (front, behind) =>
    (colonParts front).all isWord &&
      (words? (colonParts behind)).any fun n => (colonParts front).length + n < 8

end ServicePlan.Address
