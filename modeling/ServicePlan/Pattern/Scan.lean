import ServicePlan.Pattern.Basic
import ServicePlan.Text.Percent

/-!
# Reading plain patterns

Plain patterns are those without looking around and without asking for what groups have matched.
They are read character by character; this module holds what has been read and what is left, and
the escapes.

* `Scan.Fault`: why a text is no plain pattern.
* `Scan`: what is left to read, with the shorthands met so far.
* `Scan.Atom`: what an escape stands for, and `Scan.escape`.
-/

namespace ServicePlan.Pattern

/-- A shorthand for a class of characters inside a text. -/
structure Shorthand where
  /-- Number of characters from the backslash on to the end of the text. -/
  left : Nat
  /-- The letter of the shorthand. -/
  letter : Char
  deriving DecidableEq, Repr

/-- The part of a pattern that an operator for repetition is about. -/
inductive Scan.Latest
  | nothing
  | flags
  | part
  deriving DecidableEq, Repr

/-- What is left to read of a plain pattern, and what is remembered of the rest. -/
structure Scan where
  /-- The characters that are left. -/
  rest : List Char
  /-- Whether blanks and comments are skipped. -/
  skips : Bool := false
  /-- The shorthands met so far, the latest first. -/
  shorthands : List Shorthand := []
  /-- The names of groups. -/
  names : List String := []
  /-- For each open group, whether blanks are skipped behind it. -/
  opened : List Bool := []
  /-- What has been read last. -/
  latest : Scan.Latest := .nothing

namespace Scan

/-- Why a text is no plain pattern. -/
inductive Fault
  /-- It is not well formed. -/
  | malformed
  /-- It looks around, or asks for what a group has matched. -/
  | notPlain
  /-- A letter stands for a control character; so many characters are left from the backslash
  on. -/
  | control (left : Nat)
  deriving DecidableEq, Repr

/-- A step of reading. -/
abbrev Scanner := StateT Scan (Except Fault)

/-- The text is not well formed. -/
def fail {α : Type} : Scanner α := throw .malformed

/-- The next character. -/
def peek : Scanner (Option Char) := do return (← get).rest.head?

/-- The next character, which has to be there. -/
def current : Scanner Char := do
  match (← get).rest with
  | c :: _ => pure c
  | [] => fail

/-- Drops characters. -/
def drop (count : Nat) : Scanner Unit := modify fun s => { s with rest := s.rest.drop count }

/-- Whether a character is a blank. -/
def isBlank (c : Char) : Bool := Unicode.blanks.contains c

/-- What is left behind blanks and comments. -/
def behindBlanks : Bool → List Char → List Char
  | false, c :: rest =>
    if isBlank c then behindBlanks false rest
    else if c = '#' then behindBlanks true rest
    else c :: rest
  | true, c :: rest => behindBlanks (c != '\n') rest
  | _, [] => []

/-- Skips blanks and comments where they are skipped at all. -/
def skipBlanks : Scanner Unit :=
  modify fun s => if s.skips then { s with rest := behindBlanks false s.rest } else s

/-- Drops a character and the blanks behind it. -/
def next : Scanner Unit := do
  drop 1
  skipBlanks

/-- Drops a character if it is the given one. -/
def dropIf (c : Char) : Scanner Bool := do
  if (← peek) = some c then
    drop 1
    pure true
  else pure false

/-- Drops a text if it comes next. -/
def dropText (text : String) : Scanner Bool := do
  if text.toList.isPrefixOf (← get).rest then
    drop text.length
    pure true
  else pure false

/-! ## Escapes -/

/-- A single part of a pattern or of a bracket. -/
inductive Atom
  /-- A character; the bell is not allowed. -/
  | char (c : Char)
  /-- A shorthand. -/
  | shorthand (letter : Char)
  /-- A named class, or all other characters. -/
  | named (negated : Bool) (name : Unicode.ClassName)
  /-- A place. -/
  | place

/-- Characters with a meaning of their own. -/
def marks : List Char :=
  ['\\', '.', '+', '*', '?', '(', ')', '|', '[', ']', '\x7b', '\x7d', '^', '$', '#', '&', '-', '~']

/-- The character with a number. -/
def charOf? (n : Nat) : Option Char := if n.isValidChar then some (Char.ofNat n) else none

/-- Reads a number of hexadecimal digits, with blanks between them. -/
def hexDigits : Nat → Nat → Scanner Nat
  | 0, n => pure n
  | count + 1, n => do
    match Text.hexDigit? (← current) with
    | some d => do
      next
      hexDigits count (n * 16 + d)
    | none => fail

/-- Reads hexadecimal digits up to a closing brace; `any` says whether there has been one. -/
def hexBraced : Nat → Bool → Nat → Scanner Nat
  | 0, _, _ => fail
  | fuel + 1, some?, n => do
    let c ← current
    if c = '\x7d' then
      if some? then do
        next
        pure n
      else fail
    else
      match Text.hexDigit? c with
      | some d => do
        next
        hexBraced fuel true (n * 16 + d)
      | none => fail

/-- Reads a character with a number in hexadecimal digits: a fixed number of them, or any number
between braces. -/
def hexChar (count : Nat) : Scanner Atom := do
  let n ←
    if (← current) = '\x7b' then do
      next
      hexBraced ((← get).rest.length + 1) false 0
    else hexDigits count 0
  match charOf? n with
  | some c => pure (.char c)
  | none => fail

/-- Where a text stands first in another one. -/
def find? (part : List Char) : List Char → Option Nat
  | [] => if part.isEmpty then some 0 else none
  | c :: rest =>
    if part.isPrefixOf (c :: rest) then some 0 else (find? part rest).map (· + 1)

/-- The class that a text between braces names, and whether all other characters are meant. -/
def className (text : List Char) : Bool × Unicode.ClassName :=
  let split (mark : String) : Option Unicode.ClassName :=
    (find? mark.toList text).map fun i =>
      ⟨String.ofList (text.take i), some (String.ofList (text.drop (i + mark.length)))⟩
  match split "!=" with
  | some n => (true, n)
  | none => (false, ((split ":").or (split "=")).getD ⟨String.ofList text, none⟩)

/-- Reads characters up to a closing brace. -/
def upToBrace : Nat → List Char → Scanner (List Char)
  | 0, _ => fail
  | fuel + 1, read => do
    let c ← current
    next
    if c = '\x7d' then pure read.reverse else upToBrace fuel (c :: read)

/-- Reads the name of a class: one letter, or a text between braces. -/
def classAtom (letter : Char) : Scanner Atom := do
  let c ← current
  if c = '\\' then fail
  else if c = '\x7b' then do
    next
    let (other, name) := className (← upToBrace ((← get).rest.length + 1) [])
    pure (.named ((letter == 'P') != other) name)
  else do
    next
    pure (.named (letter == 'P') ⟨String.singleton c, none⟩)

/-- What an escape of one letter stands for. -/
def letterAtom? (c : Char) : Option Atom :=
  match c with
  | 'f' => some (.char '\x0c')
  | 'n' => some (.char '\n')
  | 'r' => some (.char '\r')
  | 't' => some (.char '\t')
  | 'v' => some (.char '\x0b')
  | 'A' | 'z' | 'b' | 'B' | '<' | '>' => some .place
  | c =>
    if marks.contains c || (c.toNat < 128 && !c.isAlphanum) then some (.char c) else none

/-- Reads an escape from the backslash on.  The letter for the bell is refused. -/
def escape : Scanner Atom := do
  let left := (← get).rest.length
  drop 1
  let c ← current
  if c.isDigit then throw .notPlain
  else if c = 'x' ∨ c = 'u' ∨ c = 'U' then do
    next
    hexChar (if c = 'x' then 2 else if c = 'u' then 4 else 8)
  else if c = 'p' ∨ c = 'P' then do
    next
    classAtom c
  else if ['d', 's', 'w', 'D', 'S', 'W'].contains c then do
    drop 1
    modify fun s => { s with shorthands := ⟨left, c⟩ :: s.shorthands }
    pure (.shorthand c)
  else do
    drop 1
    match letterAtom? c with
    | some atom => pure atom
    | none =>
      if c = 'c' && (← peek).any Char.isAlpha then throw (.control left) else fail

end Scan

end ServicePlan.Pattern
