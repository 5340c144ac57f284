import ServicePlan.Json.Decode
import ServicePlan.Json.Reader

/-!
# Reading records from text

A record may be decoded while its text is read.  Then a fault shows at a place of the text, a field
that is given twice is refused, and members that are not asked for are stepped over without a look
at their numbers, their depth or the characters that they escape.

* `skipValue`: steps over a value.
* `Form`: what a field has to hold, and `Form.read`.
* `Fields.readText`: the record of a text.
-/

namespace ServicePlan

namespace Json

/-! ## Stepping over values -/

/-- Steps over digits. -/
def Cursor.skipDigits (c : Cursor) : Cursor :=
  ⟨c.rest.dropWhile Char.isDigit, c.offset + (c.rest.takeWhile Char.isDigit).length⟩

/-- Steps over the digits of an exponent, of which there has to be one. -/
def skipExponentDigits (c : Cursor) : Scan Cursor :=
  match c.rest with
  | [] => c.flawBefore .invalidNumber
  | x :: _ => if x.isDigit then .ok c.skipDigits else .error (.invalidNumber, c.offset + 1)

/-- Steps over an exponent, if there is one. -/
def skipExponent (c : Cursor) : Scan Cursor :=
  match c.rest with
  | [] => .ok c
  | x :: rest =>
    if x = 'e' ∨ x = 'E' then
      match rest with
      | '+' :: rest => skipExponentDigits ⟨rest, c.offset + 2⟩
      | '-' :: rest => skipExponentDigits ⟨rest, c.offset + 2⟩
      | rest => skipExponentDigits ⟨rest, c.offset + 1⟩
    else .ok c

/-- Steps over what follows the integer part of a number. -/
def skipTail (c : Cursor) : Scan Cursor :=
  match c.rest with
  | '.' :: rest =>
    let c : Cursor := ⟨rest, c.offset + 1⟩
    match rest with
    | [] => c.flawBefore .invalidNumber
    | x :: _ => if x.isDigit then skipExponent c.skipDigits else c.flawAt .invalidNumber
  | _ => skipExponent c

/-- Steps over a number whose sign has been read. -/
def skipNumber (c : Cursor) : Scan Cursor :=
  match c.rest with
  | [] => c.flawBefore .invalidNumber
  | '0' :: rest =>
    let behind : Cursor := ⟨rest, c.offset + 1⟩
    match rest with
    | d :: _ => if d.isDigit then behind.flawAt .invalidNumber else skipTail behind
    | [] => skipTail behind
  | x :: _ => if x.isDigit then skipTail c.skipDigits else .error (.invalidNumber, c.offset + 1)

/-- Steps over an escape, whose backslash has been read. -/
def skipEscape (c : Cursor) : Scan Cursor :=
  match c.rest with
  | 'u' :: rest => do
    let (_, c) ← readHex ⟨rest, c.offset + 1⟩
    .ok c
  | _ => do
    let (_, c) ← readEscape c
    .ok c

/-- Steps over a string up to and including the closing quote, with one unit of fuel a
character. -/
def skipChars : Nat → Cursor → Scan Cursor
  | 0, c => c.flawBefore .eofInString
  | fuel + 1, c =>
    match c.rest with
    | [] => c.flawBefore .eofInString
    | x :: rest =>
      if x = '"' then .ok (.next x rest c.offset)
      else if x = '\\' then do
        let c ← skipEscape (.next x rest c.offset)
        skipChars fuel c
      else if x.toNat < 32 then c.flawBefore .controlCharacter
      else skipChars fuel (.next x rest c.offset)

/-- Steps over a member name and the colon behind it. -/
def skipName (c : Cursor) : Scan Cursor :=
  let c := c.skipBlanks
  match c.rest with
  | [] => c.flawBefore .eofInObject
  | '"' :: rest => do
    let c ← skipChars (rest.length + 1) ⟨rest, c.offset + 1⟩
    readColon c
  | _ :: _ => c.flawAt .keyNotString

mutual

/-- Steps over a value, with one unit of fuel for each character that is left. -/
def skipValue : Nat → Cursor → Scan Cursor
  | 0, c => c.flawBefore .eofInValue
  | fuel + 1, c =>
    let c := c.skipBlanks
    match c.rest with
    | [] => c.flawBefore .eofInValue
    | x :: rest =>
      let behind := Cursor.next x rest c.offset
      match x with
      | 'n' => do
        let (_, c) ← readWord () ['u', 'l', 'l'] behind
        .ok c
      | 't' => do
        let (_, c) ← readWord () ['r', 'u', 'e'] behind
        .ok c
      | 'f' => do
        let (_, c) ← readWord () ['a', 'l', 's', 'e'] behind
        .ok c
      | '-' => skipNumber behind
      | '"' => skipChars (rest.length + 1) behind
      | '[' => skipItems fuel true behind
      | '{' => skipMembers fuel true behind
      | _ => if x.isDigit then skipNumber c else c.flawAt .expectedValue

/-- Steps over items up to and including the closing bracket. -/
def skipItems : Nat → Bool → Cursor → Scan Cursor
  | 0, _, c => c.flawBefore .eofInArray
  | fuel + 1, first, c =>
    let c := c.skipBlanks
    match c.rest, first with
    | [], _ => c.flawBefore .eofInArray
    | ']' :: rest, _ => .ok ⟨rest, c.offset + 1⟩
    | _ :: _, true => do
      let c ← skipValue fuel c
      skipItems fuel false c
    | ',' :: rest, false => do
      let c ← skipValue fuel ⟨rest, c.offset + 1⟩
      skipItems fuel false c
    | _ :: _, false => c.flawAt .expectedCommaOrBracket

/-- Steps over members up to and including the closing brace. -/
def skipMembers : Nat → Bool → Cursor → Scan Cursor
  | 0, _, c => c.flawBefore .eofInObject
  | fuel + 1, first, c =>
    let c := c.skipBlanks
    match c.rest, first with
    | [], _ => c.flawBefore .eofInObject
    | '}' :: rest, _ => .ok ⟨rest, c.offset + 1⟩
    | _ :: _, true => do
      let c ← skipName c
      let c ← skipValue fuel c
      skipMembers fuel false c
    | ',' :: rest, false => do
      let c ← skipName ⟨rest, c.offset + 1⟩
      let c ← skipValue fuel c
      skipMembers fuel false c
    | _ :: _, false => c.flawAt .expectedCommaOrBrace

end

/-- Fuel enough to go over the rest of a text. -/
def Cursor.fuel (c : Cursor) : Nat := 2 * c.rest.length + 2

/-! ## Forms -/

/-- A value that does not decode, with the number of bytes up to its place. -/
def unfit {α : Type} (e : DecodeError) (offset : Nat) : Scan α :=
  .error (.unsuitable e.message, offset)

/-- Reads a value that has another shape than expected.  A container is not entered. -/
def readMisfit {α : Type} (expected : String) (c : Cursor) : Scan α :=
  let stop (shape : Shape) (c : Cursor) : Scan α := unfit (.invalidType shape expected) c.offset
  match c.rest with
  | [] => c.flawBefore .eofInValue
  | x :: rest =>
    let behind := Cursor.next x rest c.offset
    match x with
    | 'n' => do
      let (_, c) ← readWord () ['u', 'l', 'l'] behind
      stop .null c
    | 't' => do
      let (_, c) ← readWord () ['r', 'u', 'e'] behind
      stop (.bool true) c
    | 'f' => do
      let (_, c) ← readWord () ['a', 'l', 's', 'e'] behind
      stop (.bool false) c
    | '-' => do
      let (n, c) ← readNumber true behind
      stop (.number n) c
    | '"' => do
      let (s, c) ← readText behind
      stop (.string s) c
    | '[' => stop .sequence c
    | '{' => stop .map c
    | _ =>
      if x.isDigit then do
        let (n, c) ← readNumber false c
        stop (.number n) c
      else c.flawAt .expectedValue

/-- Reads a string. -/
def readString (expected : String) (c : Cursor) : Scan (String × Cursor) :=
  let c := c.skipBlanks
  match c.rest with
  | '"' :: rest => readText ⟨rest, c.offset + 1⟩
  | _ => readMisfit expected c

/-- Reads one of some names. -/
def readName (names : List String) (c : Cursor) : Scan (String × Cursor) := do
  let (s, c) ← readString "variant identifier" c
  if names.contains s then .ok (s, c) else unfit (.unknownVariant s names) c.offset

/-- Reads null. -/
def readNull (c : Cursor) : Scan Cursor :=
  let c := c.skipBlanks
  match c.rest with
  | 'n' :: rest => do
    let (_, c) ← readWord () ['u', 'l', 'l'] ⟨rest, c.offset + 1⟩
    .ok c
  | _ => readMisfit "unit" c

/-- Steps over the brace that closes an object with one member. -/
def closeSingle (c : Cursor) : Scan Cursor :=
  let c := c.skipBlanks
  match c.rest with
  | [] => c.flawBefore .eofInObject
  | '}' :: rest => .ok ⟨rest, c.offset + 1⟩
  | _ :: _ => c.flawBefore .expectedValue

/-- What a field has to hold. -/
inductive Form
  /-- A string. -/
  | text
  /-- One of some names, or an object with that one member, which is null. -/
  | oneOf (names : List String)
  /-- A list of strings. -/
  | texts
  /-- Any value. -/
  | any

/-- Reads strings up to the closing bracket, which is left. -/
def readStrings : Nat → Bool → Cursor → Scan (List String × Cursor)
  | 0, _, c => c.flawBefore .eofInArray
  | fuel + 1, first, c => do
    match ← nextItem first c with
    | none => .ok ([], c.skipBlanks)
    | some c =>
      let (s, c) ← readString "a string" c
      let (rest, c) ← readStrings fuel false c
      .ok (s :: rest, c)

/-- Reads a value of a form.  `depth` is the number of containers that may still be opened. -/
def Form.read (depth : Nat) (c : Cursor) : Form → Scan (Json × Cursor)
  | text => do
    let (s, c) ← readString "a string" c
    .ok (.string s, c)
  | any => readValue c.fuel depth c
  | texts =>
    let c := c.skipBlanks
    match c.rest, depth with
    | '[' :: _, 0 => c.flawAt .tooDeep
    | '[' :: rest, _ => do
      let (list, c) ← readStrings c.fuel true ⟨rest, c.offset + 1⟩
      .ok (.strings list, closeContainer c)
    | _, _ => readMisfit "a sequence" c
  | oneOf names =>
    let c := c.skipBlanks
    match c.rest, depth with
    | '{' :: _, 0 => c.flawAt .tooDeep
    | '{' :: rest, _ => do
      let (s, c) ← readName names ⟨rest, c.offset + 1⟩
      let c ← readColon c
      let c ← readNull c
      let c ← closeSingle c
      .ok (.string s, c)
    | '"' :: _, _ => do
      let (s, c) ← readName names c
      .ok (.string s, c)
    | [], _ => c.flawBefore .eofInValue
    | _ :: _, _ => c.flawAt .expectedValue

end Json

/-! ## Records -/

namespace Fields

open Json

/-- The fields of a record with the forms of their values. -/
abbrev Forms := List (String × Form)

/-- The offset at which a fault of the members read so far shows: behind a closing brace, if one
comes next. -/
def endOffset (c : Cursor) : Nat :=
  let c := c.skipBlanks
  match c.rest with
  | '}' :: _ => c.offset + 1
  | _ => c.offset

/-- Reads members up to the closing brace, which is left. -/
def readGiven (forms : Forms) (depth : Nat) :
    Nat → Bool → List (String × Json) → Cursor → Scan (List (String × Json) × Cursor)
  | 0, _, _, c => c.flawBefore .eofInObject
  | fuel + 1, first, given, c => do
    match ← nextMember first c with
    | none => .ok (given, c.skipBlanks)
    | some c =>
      let (name, c) ← Json.readText c
      match forms.lookup name with
      | none =>
        let c ← readColon c
        let c ← skipValue c.fuel c
        readGiven forms depth fuel false given c
      | some form =>
        if (given.lookup name).isSome then unfit (.duplicateField name) (endOffset c)
        else
          let c ← readColon c
          let (v, c) ← form.read depth c
          readGiven forms depth fuel false (given ++ [(name, v)]) c

/-- Reads one item for each field up to the closing bracket, which is left.  `all` is the number
of fields. -/
def readListed (shape : String) (all depth : Nat) :
    Forms → Bool → Cursor → Scan (List (String × Json) × Cursor)
  | [], _, c => .ok ([], c)
  | (name, form) :: forms, first, c => do
    match ← nextItem first c with
    | none =>
      unfit (.invalidLength (all - (forms.length + 1)) (describe shape all)) (c.skipBlanks.offset + 1)
    | some c =>
      let (v, c) ← form.read depth c
      let (rest, c) ← readListed shape all depth forms false c
      .ok ((name, v) :: rest, c)

/-- Steps over the bracket that closes a list of fields. -/
def closeListed (c : Cursor) : Scan Cursor :=
  let c := c.skipBlanks
  match c.rest with
  | [] => c.flawBefore .eofInArray
  | ']' :: rest => .ok ⟨rest, c.offset + 1⟩
  | ',' :: rest =>
    let c := Cursor.skipBlanks ⟨rest, c.offset + 1⟩
    match c.rest with
    | ']' :: _ => c.flawAt .trailingComma
    | _ => c.flawAt .trailingCharacters
  | _ :: _ => c.flawAt .trailingCharacters

variable {α : Type}

/-- The record that given values make up, if none of its fields is missing. -/
def assemble (f : Fields α) (given : List (String × Json)) (offset : Nat) : Scan α :=
  match f.build fun name => given.lookup name with
  | .ok a => .ok a
  | .error e => unfit e offset

/-- Reads a record, called `shape` in messages, all of whose fields have to be given. -/
def readRecord (shape : String) (f : Fields α) (forms : Forms) (c : Cursor) : Scan (α × Cursor) :=
  let c := c.skipBlanks
  match c.rest with
  | '{' :: rest => do
    let (given, c) ← readGiven forms (maxDepth - 1) c.fuel true [] ⟨rest, c.offset + 1⟩
    let a ← assemble f given (endOffset c)
    .ok (a, closeContainer c)
  | '[' :: rest => do
    let (given, c) ← readListed shape forms.length (maxDepth - 1) forms true ⟨rest, c.offset + 1⟩
    let a ← assemble f given c.offset
    let c ← closeListed c
    .ok (a, c)
  | _ => readMisfit ("struct " ++ shape) c

/-- Reads the record of a whole text. -/
def readText (shape : String) (f : Fields α) (forms : Forms) (text : String) :
    Except ReadError α :=
  let chars := text.toList
  let result : Scan α := do
    let (a, c) ← readRecord shape f forms (.ofText chars)
    readEnd c
    .ok a
  result.mapError (ReadError.of chars)

end Fields

end ServicePlan
