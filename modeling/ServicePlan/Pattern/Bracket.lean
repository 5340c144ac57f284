import ServicePlan.Pattern.Scan

/-!
# Brackets

A bracket holds characters, ranges of characters, classes and further brackets.  Two marks of the same
kind between them stand for an operation on what is left and right of them.

* `Bracket`: what brackets hold, and `Bracket.set?`: the set of characters.
* `Bracket.read`: reads a bracket.
* `Bracket.ofText?`: the set of a text that is a bracket.
-/

namespace ServicePlan.Pattern

open Unicode (CodeSet)

/-- An operation on two sets. -/
inductive Bracket.Operation
  | common
  | without
  | either
  deriving DecidableEq, Repr

/-- What a bracket holds. -/
inductive Bracket
  | nothing
  | range (first last : Char)
  | shorthand (letter : Char)
  | named (negated : Bool) (name : Unicode.ClassName)
  | ascii (negated : Bool) (name : String)
  | inner (negated : Bool) (b : Bracket)
  | both (a b : Bracket)
  | combined (op : Bracket.Operation) (a b : Bracket)

namespace Bracket

/-! ## Sets -/

/-- A range of ASCII characters. -/
def span (first last : Char) : Nat × Nat := (first.toNat, last.toNat)

/-- The letters of ASCII. -/
def letters : List (Nat × Nat) := [span 'A' 'Z', span 'a' 'z']

/-- The classes of ASCII characters. -/
def asciiClasses : List (String × List (Nat × Nat)) :=
  [("alnum", span '0' '9' :: letters), ("alpha", letters), ("ascii", [(0, 127)]),
    ("blank", [span '\t' '\t', span ' ' ' ']), ("cntrl", [(0, 31), (127, 127)]),
    ("digit", [span '0' '9']), ("graph", [(33, 126)]), ("lower", [span 'a' 'z']),
    ("print", [(32, 126)]),
    ("punct", [(33, 47), (58, 64), (91, 96), (123, 126)]), ("space", [(9, 13), (32, 32)]),
    ("upper", [span 'A' 'Z']), ("word", span '0' '9' :: span '_' '_' :: letters),
    ("xdigit", [span '0' '9', span 'A' 'F', span 'a' 'f'])]

/-- A set with all letters that differ in case only, if case does not matter, or what is not in
it. -/
def foldAndNegate (anyCase negated : Bool) (s : CodeSet) : CodeSet :=
  let s := if anyCase then s.folded else s
  if negated then s.complement else s

/-- The set of a shorthand. -/
def shorthandSet (letter : Char) : CodeSet :=
  let s :=
    match letter.toLower with
    | 'd' => Unicode.digits
    | 's' => Unicode.blanks
    | _ => Unicode.wordChars
  if letter.isUpper then s.complement else s

/-- The result of an operation. -/
def Operation.apply : Operation → CodeSet → CodeSet → CodeSet
  | common, s, t => s.inter t
  | without, s, t => s.diff t
  | either, s, t => s.symmDiff t

/-- The set of characters of a bracket, if all names in it are those of classes. -/
def set? (anyCase : Bool) : Bracket → Option CodeSet
  | nothing => some .empty
  | range first last => some (.ofRange first.toNat last.toNat)
  | shorthand letter => some (shorthandSet letter)
  | named negated name => name.set?.map (foldAndNegate anyCase negated)
  | ascii negated name =>
    (asciiClasses.lookup name).map fun ranges => foldAndNegate anyCase negated (.ofRanges ranges)
  | inner negated b => (set? anyCase b).map (foldAndNegate anyCase negated)
  | both a b => do some ((← set? anyCase a).union (← set? anyCase b))
  | combined op a b => do
    let s ← set? anyCase a
    let t ← set? anyCase b
    some (op.apply (foldAndNegate anyCase false s) (foldAndNegate anyCase false t))

/-! ## Reading -/

open Scan (Scanner Atom)

/-- How deep brackets may be nested. -/
def maxDepth : Nat := 250

/-- What is on the left of an operation. -/
abbrev Left := Option (Operation × Bracket)

/-- What stands on both sides of an operation, if there has been one. -/
def join : Left → Bracket → Bracket
  | some (op, a), b => combined op a b
  | none, b => b

/-- The operation of a mark. -/
def operation? : Char → Option Operation
  | '&' => some .common
  | '-' => some .without
  | '~' => some .either
  | _ => none

/-- Reads a class of ASCII characters from the inner bracket on, if there is one. -/
def asciiClass : Scanner (Option Bracket) := do
  match (← get).rest with
  | '[' :: ':' :: rest =>
    let negated := rest.head? == some '^'
    let rest := if negated then rest.drop 1 else rest
    let name := String.ofList (rest.takeWhile (· != ':'))
    match rest.dropWhile (· != ':') with
    | ':' :: ']' :: behind =>
      if (asciiClasses.lookup name).isSome then do
        modify fun s => { s with rest := behind }
        pure (some (ascii negated name))
      else pure none
    | _ => pure none
  | _ => pure none

/-- Reads a character or an escape. -/
def atom : Scanner Atom := do
  let c ← Scan.current
  if c = '\\' then Scan.escape
  else do
    Scan.drop 1
    pure (.char c)

/-- The bracket of a single part; places are refused. -/
def ofAtom : Atom → Scanner Bracket
  | .char c => pure (range c c)
  | .shorthand letter => pure (shorthand letter)
  | .named negated name => pure (named negated name)
  | .place => Scan.fail

/-- The character behind the next one, past blanks. -/
def second? (s : Scan) : Option Char :=
  (if s.skips then Scan.behindBlanks false (s.rest.drop 1) else s.rest.drop 1).head?

/-- Reads a single part or a range. -/
def part : Scanner Bracket := do
  let first ← atom
  Scan.skipBlanks
  let c ← Scan.current
  let behind := second? (← get)
  if c ≠ '-' ∨ behind = some ']' ∨ behind = some '-' then ofAtom first
  else do
    Scan.next
    match first, ← atom with
    | .char a, .char b => if a ≤ b then pure (range a b) else Scan.fail
    | _, _ => Scan.fail

/-- Reads hyphens at the beginning of a bracket. -/
def hyphens : Nat → Bracket → Scanner Bracket
  | 0, b => pure b
  | fuel + 1, b => do
    if (← Scan.peek) = some '-' then do
      Scan.next
      hyphens fuel (both b (range '-' '-'))
    else pure b

/-- Reads the beginning of a bracket: whether it is negated, and the characters that stand for
themselves only there. -/
def opening : Scanner (Bool × Bracket) := do
  Scan.next
  let negated := (← Scan.current) == '^'
  if negated then Scan.next
  let b ← hyphens ((← get).rest.length + 1) nothing
  match b, ← Scan.current with
  | nothing, ']' => do
    Scan.next
    pure (negated, range ']' ']')
  | b, _ => pure (negated, b)

/-- Reads the parts of a bracket up to its end; `depth` says how deep it is nested. -/
def parts : Nat → Nat → Left → Bracket → Scanner Bracket
  | 0, _, _, _ => Scan.fail
  | fuel + 1, depth, left, b => do
    Scan.skipBlanks
    let c ← Scan.current
    if c = '[' then
      match ← asciiClass with
      | some a => parts fuel depth left (both b a)
      | none =>
        if maxDepth ≤ depth then Scan.fail
        else do
          let (negated, start) ← opening
          let a ← parts fuel (depth + 1) none start
          parts fuel depth left (both b (inner negated a))
    else if c = ']' then do
      Scan.drop 1
      pure (join left b)
    else
      match operation? c, (← get).rest with
      | some op, _ :: d :: _ =>
        if d = c then do
          Scan.drop 2
          parts fuel depth (some (op, join left b)) nothing
        else do
          let a ← part
          parts fuel depth left (both b a)
      | _, _ => do
        let a ← part
        parts fuel depth left (both b a)

/-- Reads a bracket. -/
def read : Scanner Bracket := do
  let (negated, start) ← opening
  let b ← parts ((← get).rest.length + 1) 1 none start
  pure (inner negated b)

/-- The set of a text that is a bracket. -/
def ofText? (anyCase : Bool) (text : List Char) : Option CodeSet :=
  match read.run { rest := text } with
  | .ok (b, s) => if s.rest.isEmpty then b.set? anyCase else none
  | .error _ => none

end Bracket

end ServicePlan.Pattern
