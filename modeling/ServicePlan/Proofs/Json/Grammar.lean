import ServicePlan.Json.Reader

/-!
# The grammar of JSON texts

The reader works its way along a cursor and counts bytes and fuel on the way.  What it reads is a
matter of the characters alone, and the grammar says which characters stand for what.  In its strings
every character is written as itself or as a backslash with one letter, and a control character may
have a hexadecimal escape.  So it covers what is written, and all texts without hexadecimal escapes.

* `Json.hexFree`: a text without hexadecimal escapes.
* `Json.Content`: the characters of a string, up to and including the closing quote.
* `Json.Numeral`: the characters of a number; the character behind them is looked at as well.
* `Json.Part`, `Json.Reads`: values, and what is left of an array or an object.
-/

namespace ServicePlan.Json

/-! ## Strings -/

/-- The character that a backslash with one letter stands for. -/
def escaped? : Char → Option Char
  | '"' => some '"'
  | '\\' => some '\\'
  | '/' => some '/'
  | 'b' => some '\x08'
  | 'f' => some '\x0c'
  | 'n' => some '\n'
  | 'r' => some '\r'
  | 't' => some '\t'
  | _ => none

/-- Whether a text has no hexadecimal escape.  A backslash goes with the character behind it, so the
second one of two backslashes begins no escape. -/
def hexFree : List Char → Bool
  | [] => true
  | [_] => true
  | c :: e :: rest => if c = '\\' then e ≠ 'u' && hexFree rest else hexFree (e :: rest)

/-- A character that may stand for itself in a string. -/
def IsPlain (c : Char) : Prop := c ≠ '"' ∧ c ≠ '\\' ∧ 32 ≤ c.toNat

instance : DecidablePred IsPlain := fun c =>
  inferInstanceAs (Decidable (c ≠ '"' ∧ c ≠ '\\' ∧ 32 ≤ c.toNat))

/-- A text that needs no escape in a string. -/
def IsPlainText (s : String) : Prop := ∀ c ∈ s.toList, IsPlain c

instance : DecidablePred IsPlainText := fun s =>
  List.decidableBAll IsPlain s.toList

/-- The characters that a text behind an opening quote stands for, and what is left behind the
closing quote. -/
inductive Content : List Char → List Char → List Char → Prop
  /-- The string ends. -/
  | close (rest : List Char) : Content [] ('"' :: rest) rest
  /-- A character stands for itself. -/
  | plain {c : Char} {chars text rest : List Char} (hc : IsPlain c) (h : Content chars text rest) :
      Content (c :: chars) (c :: text) rest
  /-- A backslash and a letter stand for a character. -/
  | escape {c e : Char} {chars text rest : List Char} (hc : escaped? e = some c)
      (h : Content chars text rest) : Content (c :: chars) ('\\' :: e :: text) rest
  /-- A hexadecimal escape stands for a control character. -/
  | control {c x y : Char} {chars text rest : List Char} (hc : c.toNat < 32)
      (hx : Text.hexDigit? x = some (c.toNat / 16)) (hy : Text.hexDigit? y = some (c.toNat % 16))
      (h : Content chars text rest) :
      Content (c :: chars) ('\\' :: 'u' :: '0' :: '0' :: x :: y :: text) rest

/-! ## Numbers -/

/-- A scan ends with a result in front of a rest. -/
def Yields {α : Type} (s : Scan (α × Cursor)) (a : α) (rest : List Char) : Prop :=
  ∃ offset, s = .ok (a, ⟨rest, offset⟩)

/-- A character that numbers are made of. -/
def isNumeric (c : Char) : Bool :=
  c.isDigit || c == '.' || c == 'e' || c == 'E' || c == '+' || c == '-'

/-- A scan reads exactly the characters of `part` in front of `rest`.  It has to look at the first
character of the rest to know where to stop, but not beyond. -/
structure Numeral {α : Type} (scan : Cursor → Scan (α × Cursor)) (a : α)
    (part rest : List Char) : Prop where
  /-- What is read is written with the characters of numbers. -/
  numeric : ∀ c ∈ part, isNumeric c
  /-- Any rest with the same first character will do. -/
  yields : ∀ rest' offset, rest'.head? = rest.head? →
    Yields (scan ⟨part ++ rest', offset⟩) a rest'

/-! ## Values -/

/-- A text without the blanks at its start. -/
def dropBlanks (text : List Char) : List Char := text.dropWhile isBlank

/-- Where the next item or member of a container starts: behind a comma, unless it is the first. -/
def nextStart? (first : Bool) (text : List Char) : Option (List Char) :=
  if first then some (dropBlanks text)
  else
    match dropBlanks text with
    | ',' :: rest => some (dropBlanks rest)
    | _ => none

/-- The words that are values, by their spelling. -/
def words : List (List Char × Json) :=
  [(['n', 'u', 'l', 'l'], .null), (['t', 'r', 'u', 'e'], .bool true),
    (['f', 'a', 'l', 's', 'e'], .bool false)]

/-- A part of a JSON text: a value, or the items of an array or the members of an object from the
first one on or from some later one on. -/
inductive Part
  /-- A value. -/
  | value (v : Json)
  /-- The items up to the closing bracket, which is not one of them. -/
  | items (first : Bool) (items : List Json)
  /-- The members up to the closing brace, which is not one of them. -/
  | members (first : Bool) (members : List (String × Json))

/-- `Reads depth part text rest`: a text begins with a part, and the rest is behind it.  At most
`depth` containers are open inside the part at once. -/
inductive Reads : Nat → Part → List Char → List Char → Prop
  /-- A word. -/
  | word {depth : Nat} {text word rest : List Char} {v : Json} (hword : (word, v) ∈ words)
      (htext : dropBlanks text = word ++ rest) : Reads depth (.value v) text rest
  /-- A number below zero, or zero with a sign. -/
  | negative {depth : Nat} {text part rest : List Char} {n : Number}
      (htext : dropBlanks text = '-' :: (part ++ rest))
      (hn : Numeral (readNumber true) n part rest) : Reads depth (.value (.number n)) text rest
  /-- A number without a sign. -/
  | number {depth : Nat} {text part rest : List Char} {digit : Char} {n : Number}
      (htext : dropBlanks text = digit :: (part ++ rest)) (hdigit : digit.isDigit)
      (hn : Numeral (readNumber false) n (digit :: part) rest) :
      Reads depth (.value (.number n)) text rest
  /-- A string. -/
  | string {depth : Nat} {text body chars rest : List Char}
      (htext : dropBlanks text = '"' :: body) (hbody : Content chars body rest) :
      Reads depth (.value (.string (.ofList chars))) text rest
  /-- An array. -/
  | array {depth : Nat} {text body close rest : List Char} {items : List Json}
      (htext : dropBlanks text = '[' :: body) (hitems : Reads depth (.items true items) body close)
      (hclose : dropBlanks close = ']' :: rest) :
      Reads (depth + 1) (.value (.array items)) text rest
  /-- An object; the last member of a name counts. -/
  | object {depth : Nat} {text body close rest : List Char} {members : List (String × Json)}
      (htext : dropBlanks text = '{' :: body)
      (hmembers : Reads depth (.members true members) body close)
      (hclose : dropBlanks close = '}' :: rest) :
      Reads (depth + 1) (.value (ofMembers members)) text rest
  /-- There are no more items. -/
  | noItem {depth : Nat} {first : Bool} {text rest : List Char}
      (htext : dropBlanks text = ']' :: rest) : Reads depth (.items first []) text text
  /-- One more item. -/
  | item {depth : Nat} {first : Bool} {text start behind rest : List Char} {v : Json}
      {items : List Json} (hstart : nextStart? first text = some start)
      (hv : Reads depth (.value v) start behind)
      (hitems : Reads depth (.items false items) behind rest) :
      Reads depth (.items first (v :: items)) text rest
  /-- There are no more members. -/
  | noMember {depth : Nat} {first : Bool} {text rest : List Char}
      (htext : dropBlanks text = '}' :: rest) : Reads depth (.members first []) text text
  /-- One more member. -/
  | member {depth : Nat} {first : Bool} {text body name colon value behind rest : List Char}
      {v : Json} {members : List (String × Json)}
      (hstart : nextStart? first text = some ('"' :: body)) (hname : Content name body colon)
      (hcolon : dropBlanks colon = ':' :: value) (hv : Reads depth (.value v) value behind)
      (hmembers : Reads depth (.members false members) behind rest) :
      Reads depth (.members first ((.ofList name, v) :: members)) text rest

end ServicePlan.Json
