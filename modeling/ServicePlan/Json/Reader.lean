import ServicePlan.Json.Basic
import ServicePlan.Text.Percent

/-!
# Reading JSON

The reader goes through the characters of a text once and stops at the first flaw.  A flaw is
reported with its line and with its column in bytes, both counted up to and including the
character that shows it, or up to the end of the text.

* `Cursor`: what is left of a text and how many bytes lie before it.
* `Json.readNumber`: integers of 64 bits, and floating-point numbers as `Binary64.ofScaled?`
  computes them from the digits that fit 64 bits.
* `Json.readText`: the string behind an opening quote, with its escapes.
* `Json.readValue`: a value; containers nest at most `maxDepth` deep.
* `Json.read`: a whole text.
-/

namespace ServicePlan

open Decimal (Binary64)

namespace Json

/-- What is wrong with a text. -/
inductive Flaw
  | eofInArray
  | eofInObject
  | eofInString
  | eofInValue
  | expectedColon
  | expectedCommaOrBracket
  | expectedCommaOrBrace
  | expectedWord
  | expectedValue
  | invalidEscape
  | invalidNumber
  | numberOutOfRange
  | controlCharacter
  | keyNotString
  | loneSurrogate
  | trailingComma
  | trailingCharacters
  | endOfHexEscape
  | tooDeep
  /-- The text is well formed but does not hold what is asked for. -/
  | unsuitable (message : String)
  deriving DecidableEq, Repr

/-- The description of a flaw. -/
def Flaw.message : Flaw → String
  | eofInArray => "EOF while parsing a list"
  | eofInObject => "EOF while parsing an object"
  | eofInString => "EOF while parsing a string"
  | eofInValue => "EOF while parsing a value"
  | expectedColon => "expected `:`"
  | expectedCommaOrBracket => "expected `,` or `]`"
  | expectedCommaOrBrace => "expected `,` or `\x7d`"
  | expectedWord => "expected ident"
  | expectedValue => "expected value"
  | invalidEscape => "invalid escape"
  | invalidNumber => "invalid number"
  | numberOutOfRange => "number out of range"
  | controlCharacter => "control character (\\u0000-\\u001F) found while parsing a string"
  | keyNotString => "key must be a string"
  | loneSurrogate => "lone leading surrogate in hex escape"
  | trailingComma => "trailing comma"
  | trailingCharacters => "trailing characters"
  | endOfHexEscape => "unexpected end of hex escape"
  | tooDeep => "recursion limit exceeded"
  | unsuitable message => message

/-- A flaw and where it shows.  Line and column are zero for a flaw of a value that was not read
from a text. -/
structure ReadError where
  /-- What is wrong. -/
  flaw : Flaw
  /-- The line, counted from one. -/
  line : Nat
  /-- The column, in bytes. -/
  column : Nat
  deriving DecidableEq, Repr

/-- The description with its place. -/
def ReadError.message (e : ReadError) : String :=
  if e.line = 0 then e.flaw.message
  else s!"{e.flaw.message} at line {e.line} column {e.column}"

/-! ## Positions -/

/-- What is left of a text. -/
structure Cursor where
  /-- The characters that are left. -/
  rest : List Char
  /-- Number of bytes before them. -/
  offset : Nat
  deriving DecidableEq, Repr

/-- The start of a text. -/
def Cursor.ofText (text : List Char) : Cursor := ⟨text, 0⟩

/-- Line and column of the place that lies `offset` bytes into a text, where `line` lines and
`column` bytes have been counted before the text. -/
def placeFrom (line column : Nat) : List Char → Nat → Nat × Nat
  | [], offset => (line, column + offset)
  | c :: rest, offset =>
    if offset = 0 then (line, column)
    else if c = '\n' then placeFrom (line + 1) 0 rest (offset - 1)
    else if offset < c.utf8Size then (line, column + offset)
    else placeFrom line (column + c.utf8Size) rest (offset - c.utf8Size)

/-- A flaw with the number of bytes up to its place. -/
abbrev FlawAt := Flaw × Nat

/-- The report of a flaw of a text. -/
def ReadError.of (text : List Char) (f : FlawAt) : ReadError :=
  let (line, column) := placeFrom 1 0 text f.2
  ⟨f.1, line, column⟩

/-- What a reading step may end with: a flaw, or a result. -/
abbrev Scan := Except FlawAt

/-- A flaw that shows right before the next character. -/
def Cursor.flawBefore {α : Type} (c : Cursor) (f : Flaw) : Scan α :=
  .error (f, c.offset)

/-- A flaw that shows in the next byte, or at the end of the text. -/
def Cursor.flawAt {α : Type} (c : Cursor) (f : Flaw) : Scan α :=
  match c.rest with
  | [] => .error (f, c.offset)
  | _ :: _ => .error (f, c.offset + 1)

/-- Steps over the first character, which is `x`. -/
def Cursor.next (x : Char) (rest : List Char) (offset : Nat) : Cursor :=
  ⟨rest, offset + x.utf8Size⟩

/-- Whether a character is a blank between tokens. -/
def isBlank (c : Char) : Bool := c == ' ' || c == '\n' || c == '\t' || c == '\r'

/-- The characters behind the blanks at the start, and the offset there. -/
def skipBlanksFrom : List Char → Nat → Cursor
  | [], offset => ⟨[], offset⟩
  | c :: rest, offset =>
    if isBlank c then skipBlanksFrom rest (offset + 1) else ⟨c :: rest, offset⟩

/-- Steps over blanks. -/
def Cursor.skipBlanks (c : Cursor) : Cursor := skipBlanksFrom c.rest c.offset

/-! ## Words and numbers -/

/-- Reads the letters of a word that has begun. -/
def readWord {α : Type} (value : α) : List Char → Cursor → Scan (α × Cursor)
  | [], c => .ok (value, c)
  | w :: word, c =>
    match c.rest with
    | [] => c.flawBefore .eofInValue
    | x :: rest =>
      if x = w then readWord value word (.next x rest c.offset)
      else .error (.expectedWord, c.offset + 1)

/-- The value of a digit. -/
def digitValue (c : Char) : Nat := c.toNat - 48

/-- The largest significand that is kept exactly. -/
def maxSignificand : Nat := 18446744073709551615

/-- Appends digits to a significand as long as the result stays below `2 ^ 64`; the result is the
significand and the number of digits taken. -/
def absorb : Nat → Nat → List Char → Nat × Nat
  | significand, taken, [] => (significand, taken)
  | significand, taken, d :: rest =>
    if significand * 10 + digitValue d ≤ maxSignificand then
      absorb (significand * 10 + digitValue d) (taken + 1) rest
    else (significand, taken)

/-- The largest exponent that is read. -/
def maxExponent : Nat := 2147483647

/-- The value of the digits of an exponent, or the number of digits after which it is too
large. -/
def exponentValue : Nat → Nat → List Char → Except Nat Nat
  | value, _, [] => .ok value
  | value, taken, d :: rest =>
    if value * 10 + digitValue d ≤ maxExponent then
      exponentValue (value * 10 + digitValue d) (taken + 1) rest
    else .error (taken + 1)

/-- The floating-point number of a significand and an exponent, which ends at `c`. -/
def floatAt (negative : Bool) (significand : Nat) (exponent : Int) (c : Cursor) :
    Scan (Number × Cursor) :=
  match Binary64.ofScaled? negative significand exponent with
  | some x => .ok (.float x, c)
  | none => c.flawBefore .numberOutOfRange

/-- Reads the digits of the exponent, whose sign has been read. -/
def readExponentDigits (negative : Bool) (significand : Nat) (exponent : Int)
    (down : Bool) (c : Cursor) : Scan (Number × Cursor) :=
  match c.rest with
  | [] => c.flawBefore .eofInValue
  | x :: _ =>
    if x.isDigit then
      let digits := c.rest.takeWhile Char.isDigit
      let behind : Cursor := ⟨c.rest.dropWhile Char.isDigit, c.offset + digits.length⟩
      match exponentValue 0 0 digits with
      | .ok value =>
        floatAt negative significand (if down then exponent - value else exponent + value) behind
      | .error taken =>
        if significand ≠ 0 ∧ !down then .error (.numberOutOfRange, c.offset + taken)
        else .ok (.float (.zero negative), behind)
    else .error (.invalidNumber, c.offset + 1)

/-- Reads the exponent, if there is one, and computes the number. -/
def readExponent (negative : Bool) (significand : Nat) (exponent : Int) (c : Cursor) :
    Scan (Number × Cursor) :=
  match c.rest with
  | x :: rest =>
    if x = 'e' ∨ x = 'E' then
      match rest with
      | '+' :: rest => readExponentDigits negative significand exponent false ⟨rest, c.offset + 2⟩
      | '-' :: rest => readExponentDigits negative significand exponent true ⟨rest, c.offset + 2⟩
      | rest => readExponentDigits negative significand exponent false ⟨rest, c.offset + 1⟩
    else floatAt negative significand exponent c
  | [] => floatAt negative significand exponent c

/-- Reads the digits behind the point, which has been read. -/
def readFraction (negative : Bool) (significand : Nat) (exponent : Int) (c : Cursor) :
    Scan (Number × Cursor) :=
  let digits := c.rest.takeWhile Char.isDigit
  match digits with
  | [] =>
    match c.rest with
    | [] => c.flawBefore .eofInValue
    | _ :: _ => c.flawAt .invalidNumber
  | _ :: _ =>
    let (significand', taken) := absorb significand 0 digits
    let behind : Cursor := ⟨c.rest.dropWhile Char.isDigit, c.offset + digits.length⟩
    readExponent negative significand' (exponent - taken) behind

/-- The largest magnitude of a negative integer. -/
def maxNegative : Nat := 9223372036854775808

/-- The number of an integer part without fraction and exponent. -/
def wholeNumber (negative : Bool) (significand : Nat) : Option Number :=
  if negative then
    if significand = 0 ∨ maxNegative < significand then
      (Binary64.ofNat? true significand).map .float
    else some (.integer (-(significand : Int)))
  else some (.integer significand)

/-- Reads what may follow the integer part: a fraction, an exponent or nothing. -/
def readTail (negative : Bool) (significand : Nat) (exponent : Nat) (c : Cursor) :
    Scan (Number × Cursor) :=
  match c.rest with
  | '.' :: rest => readFraction negative significand exponent ⟨rest, c.offset + 1⟩
  | x :: _ =>
    if x = 'e' ∨ x = 'E' then readExponent negative significand exponent c
    else whole
  | [] => whole
where
  /-- The integer part is the number. -/
  whole : Scan (Number × Cursor) :=
    if exponent = 0 then
      match wholeNumber negative significand with
      | some n => .ok (n, c)
      | none => c.flawBefore .numberOutOfRange
    else floatAt negative significand exponent c

/-- Reads a number whose sign has been read. -/
def readNumber (negative : Bool) (c : Cursor) : Scan (Number × Cursor) :=
  match c.rest with
  | [] => c.flawBefore .eofInValue
  | '0' :: rest =>
    let behind : Cursor := ⟨rest, c.offset + 1⟩
    match rest with
    | d :: _ =>
      if d.isDigit then behind.flawAt .invalidNumber else readTail negative 0 0 behind
    | [] => readTail negative 0 0 behind
  | x :: _ =>
    if x.isDigit then
      let digits := c.rest.takeWhile Char.isDigit
      let (significand, taken) := absorb 0 0 digits
      readTail negative significand (digits.length - taken)
        ⟨c.rest.dropWhile Char.isDigit, c.offset + digits.length⟩
    else .error (.invalidNumber, c.offset + 1)

/-! ## Strings -/

/-- Number of bytes of a text. -/
def byteLength (text : List Char) : Nat := text.foldl (fun n c => n + c.utf8Size) 0

/-- Reads the four digits of a hexadecimal escape. -/
def readHex (c : Cursor) : Scan (Nat × Cursor) :=
  if byteLength c.rest < 4 then .error (.eofInString, c.offset + byteLength c.rest)
  else
    match c.rest with
    | a :: b :: d :: e :: rest =>
      match Text.hexDigit? a, Text.hexDigit? b, Text.hexDigit? d, Text.hexDigit? e with
      | some a, some b, some d, some e =>
        .ok (a * 4096 + b * 256 + d * 16 + e, ⟨rest, c.offset + 4⟩)
      | _, _, _, _ => .error (.invalidEscape, c.offset + 4)
    | _ => .error (.invalidEscape, c.offset + 4)

/-- Reads the character of a hexadecimal escape, whose letter has been read.  A character beyond
the first 65536 takes two escapes. -/
def readUnicode (c : Cursor) : Scan (Char × Cursor) := do
  let (n, c) ← readHex c
  if 0xDC00 ≤ n ∧ n ≤ 0xDFFF then c.flawBefore .loneSurrogate
  else if n < 0xD800 ∨ 0xDBFF < n then .ok (Char.ofNat n, c)
  else
    match c.rest with
    | [] => c.flawBefore .eofInString
    | '\\' :: rest =>
      match rest with
      | [] => .error (.eofInString, c.offset + 1)
      | 'u' :: rest => do
        let (low, c) ← readHex ⟨rest, c.offset + 2⟩
        if low < 0xDC00 ∨ 0xDFFF < low then c.flawBefore .loneSurrogate
        else .ok (Char.ofNat ((n - 0xD800) * 1024 + (low - 0xDC00) + 0x10000), c)
      | _ :: _ => .error (.endOfHexEscape, c.offset + 2)
    | _ :: _ => .error (.endOfHexEscape, c.offset + 1)

/-- Reads the character of an escape, whose backslash has been read. -/
def readEscape (c : Cursor) : Scan (Char × Cursor) :=
  match c.rest with
  | [] => c.flawBefore .eofInString
  | x :: rest =>
    let behind := Cursor.next x rest c.offset
    match x with
    | '"' => .ok ('"', behind)
    | '\\' => .ok ('\\', behind)
    | '/' => .ok ('/', behind)
    | 'b' => .ok ('\x08', behind)
    | 'f' => .ok ('\x0c', behind)
    | 'n' => .ok ('\n', behind)
    | 'r' => .ok ('\r', behind)
    | 't' => .ok ('\t', behind)
    | 'u' => readUnicode behind
    | _ => .error (.invalidEscape, c.offset + 1)

/-- Reads the characters of a string up to and including the closing quote, with one unit of
fuel a character. -/
def readChars : Nat → Cursor → Scan ((List Char) × Cursor)
  | 0, c => c.flawBefore .eofInString
  | fuel + 1, c =>
    match c.rest with
    | [] => c.flawBefore .eofInString
    | x :: rest =>
      if x = '"' then .ok ([], .next x rest c.offset)
      else if x = '\\' then do
        let (y, c) ← readEscape (.next x rest c.offset)
        let (ys, c) ← readChars fuel c
        .ok (y :: ys, c)
      else if x.toNat < 32 then .error (.controlCharacter, c.offset + 1)
      else do
        let (ys, c) ← readChars fuel (.next x rest c.offset)
        .ok (x :: ys, c)

/-- Reads a string, whose opening quote has been read. -/
def readText (c : Cursor) : Scan (String × Cursor) := do
  let (chars, c) ← readChars (c.rest.length + 1) c
  .ok (String.ofList chars, c)

/-! ## Values -/

/-- Number of containers that may be nested. -/
def maxDepth : Nat := 127

/-- Reads the colon behind a member name. -/
def readColon (c : Cursor) : Scan Cursor :=
  let c := c.skipBlanks
  match c.rest with
  | [] => c.flawBefore .eofInObject
  | ':' :: rest => .ok ⟨rest, c.offset + 1⟩
  | _ :: _ => c.flawAt .expectedColon

/-- Steps to the next item of an array: `none` at the closing bracket, which is left. -/
def nextItem (first : Bool) (c : Cursor) : Scan (Option Cursor) :=
  let c := c.skipBlanks
  match c.rest with
  | [] => c.flawBefore .eofInArray
  | ']' :: _ => .ok none
  | ',' :: rest =>
    if first then .ok (some c)
    else
      let c := Cursor.skipBlanks ⟨rest, c.offset + 1⟩
      match c.rest with
      | [] => c.flawBefore .eofInValue
      | ']' :: _ => c.flawAt .trailingComma
      | _ :: _ => .ok (some c)
  | _ :: _ => if first then .ok (some c) else c.flawAt .expectedCommaOrBracket

/-- Steps behind the opening quote of the next member name of an object: `none` at the closing
brace, which is left. -/
def nextMember (first : Bool) (c : Cursor) : Scan (Option Cursor) :=
  let c := c.skipBlanks
  match c.rest with
  | [] => c.flawBefore .eofInObject
  | '}' :: _ => .ok none
  | '"' :: rest =>
    if first then .ok (some ⟨rest, c.offset + 1⟩) else c.flawAt .expectedCommaOrBrace
  | ',' :: rest =>
    if first then c.flawAt .keyNotString
    else
      let c := Cursor.skipBlanks ⟨rest, c.offset + 1⟩
      match c.rest with
      | [] => c.flawBefore .eofInValue
      | '"' :: rest => .ok (some ⟨rest, c.offset + 1⟩)
      | '}' :: _ => c.flawAt .trailingComma
      | _ :: _ => c.flawAt .keyNotString
  | _ :: _ => if first then c.flawAt .keyNotString else c.flawAt .expectedCommaOrBrace

/-- Steps over the closing bracket or brace that comes next. -/
def closeContainer (c : Cursor) : Cursor :=
  let c := c.skipBlanks
  ⟨c.rest.drop 1, c.offset + 1⟩

mutual

/-- Reads a value.  `depth` is the number of containers that may still be opened, and there is
one unit of fuel for each character that is left. -/
def readValue : Nat → Nat → Cursor → Scan (Json × Cursor)
  | 0, _, c => c.flawBefore .eofInValue
  | fuel + 1, depth, c =>
    let c := c.skipBlanks
    match c.rest with
    | [] => c.flawBefore .eofInValue
    | x :: rest =>
      let behind := Cursor.next x rest c.offset
      match x with
      | 'n' => readWord .null ['u', 'l', 'l'] behind
      | 't' => readWord (.bool true) ['r', 'u', 'e'] behind
      | 'f' => readWord (.bool false) ['a', 'l', 's', 'e'] behind
      | '-' => do
        let (n, c) ← readNumber true behind
        .ok (.number n, c)
      | '"' => do
        let (s, c) ← readText behind
        .ok (.string s, c)
      | '[' =>
        match depth with
        | 0 => c.flawAt .tooDeep
        | depth + 1 => do
          let (items, c) ← readItems fuel depth true behind
          .ok (.array items, closeContainer c)
      | '{' =>
        match depth with
        | 0 => c.flawAt .tooDeep
        | depth + 1 => do
          let (members, c) ← readMembers fuel depth true behind
          .ok (ofMembers members, closeContainer c)
      | _ =>
        if x.isDigit then do
          let (n, c) ← readNumber false c
          .ok (.number n, c)
        else c.flawAt .expectedValue

/-- Reads the items of an array up to the closing bracket. -/
def readItems : Nat → Nat → Bool → Cursor → Scan ((List Json) × Cursor)
  | 0, _, _, c => c.flawBefore .eofInArray
  | fuel + 1, depth, first, c => do
    match ← nextItem first c with
    | none => .ok ([], c)
    | some c =>
      let (v, c) ← readValue fuel depth c
      let (vs, c) ← readItems fuel depth false c
      .ok (v :: vs, c)

/-- Reads the members of an object up to the closing brace. -/
def readMembers : Nat → Nat → Bool → Cursor → Scan ((List (String × Json)) × Cursor)
  | 0, _, _, c => c.flawBefore .eofInObject
  | fuel + 1, depth, first, c => do
    match ← nextMember first c with
    | none => .ok ([], c)
    | some c =>
      let (k, c) ← readText c
      let c ← readColon c
      let (v, c) ← readValue fuel depth c
      let (rest, c) ← readMembers fuel depth false c
      .ok ((k, v) :: rest, c)

end

/-- Makes sure that only blanks are left. -/
def readEnd (c : Cursor) : Scan Unit :=
  let c := c.skipBlanks
  match c.rest with
  | [] => .ok ()
  | _ :: _ => c.flawAt .trailingCharacters

/-- Reads the value of a whole text. -/
def readChars? (text : List Char) : Except ReadError Json :=
  let result : Scan Json := do
    let (v, c) ← readValue (2 * text.length + 2) maxDepth (.ofText text)
    readEnd c
    .ok v
  result.mapError (ReadError.of text)

/-- Reads the value of a whole text. -/
def read (text : String) : Except ReadError Json := readChars? text.toList

end Json

end ServicePlan
