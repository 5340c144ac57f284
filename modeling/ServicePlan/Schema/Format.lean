import ServicePlan.Pattern.Search
import ServicePlan.Unicode.Category
import ServicePlan.Uri.Address
import ServicePlan.Uri.Reader

/-!
# Formats of strings

A format names what a string is written like: a date, an address, an identifier.

* `Format`: the formats, and `Format.ofName?`.
* `Format.accepts`: whether a string is written like a format says.
-/

namespace ServicePlan.Schema

/-- A format of strings. -/
inductive Format
  | date
  | dateTime
  | email
  | hostname
  | idnEmail
  | idnHostname
  | ipv4
  | ipv6
  | iri
  | iriReference
  | jsonPointer
  | regex
  | relativeJsonPointer
  | time
  | uri
  | uriReference
  | uriTemplate
  deriving DecidableEq, Repr

namespace Format

/-- The formats with their names, in the order of the names. -/
def names : List (String × Format) :=
  [("date", date), ("date-time", dateTime), ("email", email), ("hostname", hostname),
    ("idn-email", idnEmail), ("idn-hostname", idnHostname), ("ipv4", ipv4), ("ipv6", ipv6),
    ("iri", iri), ("iri-reference", iriReference), ("json-pointer", jsonPointer),
    ("regex", regex), ("relative-json-pointer", relativeJsonPointer), ("time", time),
    ("uri", uri), ("uri-reference", uriReference), ("uri-template", uriTemplate)]

/-- The format of a name. -/
def ofName? (name : String) : Option Format := names.lookup name

/-- The name of a format. -/
def name (f : Format) : String :=
  ((names.find? fun e => e.2 = f).map (·.1)).getD ""

/-! ## Dates and times -/

/-- The number of exactly `count` digits. -/
def digits? (count : Nat) (text : List Char) : Option Nat :=
  if text.length = count ∧ text.all Char.isDigit then
    some (text.foldl (fun n c => n * 10 + (c.toNat - 48)) 0)
  else none

/-- Number of days of a month. -/
def daysOf (year month : Nat) : Nat :=
  if month = 2 then
    if year % 4 = 0 ∧ (year % 100 ≠ 0 ∨ year % 400 = 0) then 29 else 28
  else if [4, 6, 9, 11].contains month then 30
  else 31

/-- Whether a text is a date. -/
def isDate (text : List Char) : Bool :=
  match digits? 4 (text.take 4), digits? 2 ((text.drop 5).take 2), digits? 2 (text.drop 8) with
  | some year, some month, some day =>
    text[4]? == some '-' && text[7]? == some '-' && 1 ≤ month && month ≤ 12 && 1 ≤ day &&
      day ≤ daysOf year month
  | _, _, _ => false

/-- The minutes that a difference from universal time stands for. -/
def offset? : List Char → Option Int
  | ['Z'] | ['z'] => some 0
  | sign :: rest =>
    match digits? 2 (rest.take 2), digits? 2 (rest.drop 3) with
    | some hours, some minutes =>
      if rest[2]? == some ':' && hours ≤ 23 && minutes ≤ 59 && (sign == '+' || sign == '-') then
        let n : Int := hours * 60 + minutes
        some (if sign = '-' then -n else n)
      else none
    | _, _ => none
  | [] => none

/-- What follows a fraction of a second, if there is one. -/
def afterFraction? : List Char → Option (List Char)
  | '.' :: rest => if rest.head?.any Char.isDigit then some (rest.dropWhile Char.isDigit) else none
  | text => some text

/-- Whether a text is a time.  The last minute of a day of universal time may have a leap
second. -/
def isTime (text : List Char) : Bool :=
  match digits? 2 (text.take 2), digits? 2 ((text.drop 3).take 2),
      digits? 2 ((text.drop 6).take 2) with
  | some hour, some minute, some second =>
    let offset := (afterFraction? (text.drop 8)).bind offset?
    text[2]? == some ':' && text[5]? == some ':' && hour ≤ 23 && minute ≤ 59 && second ≤ 60 &&
      offset.any fun minutes =>
        second ≠ 60 || (((hour * 60 + minute : Nat) : Int) - minutes) % 1440 == 1439
  | _, _, _ => false

/-- Whether a text is a date and a time. -/
def isDateTime (text : List Char) : Bool :=
  match text.findIdx? fun c => c == 'T' || c == 't' with
  | some i => isDate (text.take i) && isTime (text.drop (i + 1))
  | none => false

/-! ## Hosts and mail addresses -/

/-- A text without dots at its end. -/
def trimDots (text : List Char) : List Char := (text.reverse.dropWhile (· == '.')).reverse

/-- Whether a text is the name of a host, where `letter` tells what a name is made of besides
hyphens. -/
def isHost (letter : Char → Bool) (text : List Char) : Bool :=
  let name := trimDots text
  name.length ≤ 253 && (Address.split '.' name).all fun part =>
    !part.isEmpty && part.length ≤ 63 && part.head? != some '-' && part.getLast? != some '-' &&
      part.all fun c => letter c || c == '-'

/-- Whether a character is a letter, a mark or a digit of any script. -/
def isWordLetter (c : Char) : Bool :=
  c.isAlphanum || ["l", "m", "nd"].any fun name => (Unicode.category? name).any (·.contains c)

/-- Characters that stand for themselves in mail addresses, apart from letters and digits. -/
def mailMarks : List Char :=
  ['!', '#', '$', '%', '&', '\'', '*', '+', '-', '/', '=', '?', '^', '_', '`', '{', '|', '}', '~']

/-- Whether a text is the part of a mail address in front of the at sign. -/
def isMailbox (text : List Char) : Bool :=
  if text.length > 64 then false
  else if text.length ≥ 2 ∧ text.head? = some '"' ∧ text.getLast? = some '"' then
    !((text.drop 1).dropLast.any fun c => c == '"' || c.toNat < 32)
  else
    (Address.split '.' text).all fun part =>
      !part.isEmpty && part.all fun c => c.isAlphanum || mailMarks.contains c || 127 < c.toNat

/-- Whether a text is the part of a mail address behind the at sign. -/
def isMailHost (letter : Char → Bool) (text : List Char) : Bool :=
  match text with
  | '[' :: 'I' :: 'P' :: 'v' :: '6' :: ':' :: rest =>
    rest.getLast? == some ']' && Address.isEight rest.dropLast
  | '[' :: rest => rest.getLast? == some ']' && Address.isFour rest.dropLast
  | _ => isHost letter text

/-- Whether a text is a mail address. -/
def isMail (letter : Char → Bool) (text : List Char) : Bool :=
  match text.reverse.idxOf? '@' with
  | some i =>
    isMailbox (text.take (text.length - 1 - i)) && isMailHost letter (text.drop (text.length - i))
  | none => false

/-! ## Identifiers and pointers -/

/-- A text whose characters beyond ASCII have been replaced by a letter. -/
def plainLetters (text : String) : String :=
  String.ofList (text.toList.map fun c => if c.toNat < 128 then c else 'a')

/-- Whether a text is an identifier; `whole` asks for one with a scheme. -/
def isUri (whole : Bool) (text : String) : Bool :=
  match Uri.read text with
  | .ok u => !whole || u.scheme.isSome
  | .error _ => false

/-- Whether all tildes of a text start an escape. -/
def hasPointerEscapes : List Char → Bool
  | '~' :: c :: rest => (c == '0' || c == '1') && hasPointerEscapes rest
  | '~' :: [] => false
  | _ :: rest => hasPointerEscapes rest
  | [] => true

/-- Whether a text is a pointer. -/
def isPointer (text : List Char) : Bool :=
  text.isEmpty || (text.head? == some '/' && hasPointerEscapes text)

/-- Whether a text is a pointer that starts with a number of steps upwards. -/
def isRelativePointer (text : List Char) : Bool :=
  let digits := text.takeWhile Char.isDigit
  let rest := text.dropWhile Char.isDigit
  !digits.isEmpty && (digits.length == 1 || digits.head? != some '0') &&
    (rest == ['#'] || isPointer rest)

/-- Whether the braces of a text are balanced and not nested. -/
def hasBraces (open_ : Bool) : List Char → Bool
  | '{' :: rest => !open_ && hasBraces true rest
  | '}' :: rest => open_ && hasBraces false rest
  | _ :: rest => hasBraces open_ rest
  | [] => !open_

/-- Whether a string is written like a format says. -/
def accepts (f : Format) (s : String) : Bool :=
  let text := s.toList
  match f with
  | date => isDate text
  | dateTime => isDateTime text
  | email => isMail Char.isAlphanum text
  | hostname => isHost Char.isAlphanum text
  | idnEmail => isMail isWordLetter text
  | idnHostname => isHost isWordLetter text
  | ipv4 => Address.isFour text
  | ipv6 => Address.isEight text
  | iri => isUri true (plainLetters s)
  | iriReference => isUri false (plainLetters s)
  | jsonPointer => isPointer text
  | regex => (Pattern.Search.ofSource? s).isSome
  | relativeJsonPointer => isRelativePointer text
  | time => isTime text
  | uri => isUri true s
  | uriReference => isUri false s
  | uriTemplate => hasBraces false text

end Format

end ServicePlan.Schema
