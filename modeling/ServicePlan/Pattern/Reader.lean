import ServicePlan.Pattern.Bracket

/-!
# Reading patterns

Patterns are read from texts whose shorthands mean classes of all scripts.  Besides what plain patterns
have, they look around, ask for what groups have matched, keep the preferred match of a part only, and
depend on conditions.

* `Reading`: what is left to read, with the flags and the groups so far.
* `Reading.pattern`: reads alternatives.
* `Pattern.ofText?`: the pattern of a text.
-/

namespace ServicePlan.Pattern

open Unicode (CodeSet)

/-- How a part of a text is read. -/
structure Flags where
  /-- Case does not matter. -/
  anyCase : Bool := false
  /-- Lines have starts and ends of their own. -/
  byLine : Bool := false
  /-- The dot stands for ends of lines as well. -/
  newline : Bool := false
  /-- Repetitions prefer few matches unless marked. -/
  swapped : Bool := false
  /-- Blanks and comments are skipped. -/
  skips : Bool := false

/-- What is left to read of a pattern, and what is remembered of the rest. -/
structure Reading where
  /-- The characters that are left. -/
  rest : List Char
  /-- Numbers of groups have to be below. -/
  limit : Nat
  /-- The flags. -/
  flags : Flags := {}
  /-- Number of groups so far. -/
  groups : Nat := 0
  /-- The numbers of named groups, the latest first. -/
  names : List (String × Nat) := []
  /-- The numbers of groups that are asked for. -/
  used : List Nat := []
  /-- Whether a group is asked for by its number. -/
  byNumber : Bool := false

namespace Reading

/-- A step of reading, which may fail. -/
abbrev Reader := StateT Reading Option

/-- The characters that are left. -/
def rest? : Reader (List Char) := do return (← get).rest

/-- Goes on with other characters. -/
def goOn (rest : List Char) : Reader Unit := modify fun s => { s with rest }

/-- Drops characters. -/
def drop (count : Nat) : Reader Unit := do goOn ((← rest?).drop count)

/-- Drops a text, which has to come next. -/
def expect (text : List Char) : Reader Unit := do
  let rest ← rest?
  if text.isPrefixOf rest then goOn (rest.drop text.length) else failure

/-! ## Blanks and comments -/

/-- What follows a comment in parentheses. -/
def behindComment? : List Char → Option (List Char)
  | ')' :: rest => some rest
  | '\\' :: _ :: rest => behindComment? rest
  | _ :: rest => behindComment? rest
  | [] => none

/-- What follows blanks and comments. -/
def behindBlanks? (skips : Bool) : Nat → List Char → Option (List Char)
  | 0, rest => some rest
  | fuel + 1, text =>
    match text with
    | '(' :: '?' :: '#' :: rest => do behindBlanks? skips fuel (← behindComment? rest)
    | c :: rest =>
      if skips && c == '#' then
        behindBlanks? skips fuel ((rest.dropWhile (· != '\n')).drop 1)
      else if skips && [' ', '\r', '\n', '\t'].contains c then behindBlanks? skips fuel rest
      else some (c :: rest)
    | [] => some []

/-- Skips blanks and comments. -/
def skip : Reader Unit := do
  let s ← get
  goOn (← behindBlanks? s.flags.skips (s.rest.length + 1) s.rest)

/-! ## Numbers and names -/

/-- The number that a text starts with, and what follows. -/
def number? (text : List Char) : Option (Nat × List Char) :=
  let digits := text.takeWhile Char.isDigit
  if digits.isEmpty then none
  else
    some (digits.foldl (fun n c => n * 10 + (c.toNat - 48)) 0, text.dropWhile Char.isDigit)

/-- The numbers of times of a counted repetition, from its brace on, and what follows. -/
def times? (skips : Bool) (text : List Char) : Option ((Nat × Option Nat) × List Char) := do
  let skipped (text : List Char) : Option (List Char) :=
    behindBlanks? skips (text.length + 1) text
  let text ← skipped (text.drop 1)
  let (least, rest) ← if text.head? = some ',' then some (0, text) else number? text
  let rest ← skipped rest
  let (most, rest) ←
    match rest with
    | ',' :: rest => do
      let rest ← skipped rest
      match number? rest with
      | some (most, rest) => some (some most, rest)
      | none => some (none, rest)
    | rest => some (some least, rest)
  match ← skipped rest with
  | '\x7d' :: rest => some ((least, most), rest)
  | _ => none

/-- Whether a character may be part of the name of a group. -/
def isNameChar (c : Char) : Bool :=
  c == '_' || Unicode.letters.contains c || Unicode.numbers.contains c

/-- Reads a name between two texts. -/
def name (start close : List Char) : Reader String := do
  expect start
  let rest ← rest?
  let text := rest.takeWhile isNameChar
  if text.isEmpty then failure
  goOn (rest.dropWhile isNameChar)
  expect close
  pure (String.ofList text)

/-- Asks for what a group has matched, which has been opened before. -/
def useGroup (number : Nat) : Reader Nat := do
  let s ← get
  if s.groups < number then failure
  modify fun s => { s with used := number :: s.used }
  pure number

/-- Reads the number of a group. -/
def groupNumber : Reader Nat := do
  let s ← get
  match number? s.rest with
  | some (n, rest) => do
    if s.limit ≤ n then failure
    modify fun s => { s with rest, byNumber := true }
    useGroup n
  | none => failure

/-- Reads the number of a group counted backwards from the latest one, between two texts. -/
def groupBefore (start close : List Char) : Reader Nat := do
  expect start
  expect ['-']
  match number? (← rest?) with
  | some (n, rest) => do
    goOn rest
    expect close
    let groups := (← get).groups
    if groups + 1 < n then failure
    useGroup (groups + 1 - n)
  | none => failure

/-- Reads the name of a group between two texts. -/
def groupByName (start close : List Char) : Reader Nat := do
  let text ← name start close
  match (← get).names.lookup text, number? text.toList with
  | some n, _ => useGroup n
  | none, some (n, []) => useGroup n
  | none, _ => failure

/-! ## Escapes -/

/-- Reads a character with a number in hexadecimal digits. -/
def hexChar (count : Nat) : Reader Char := do
  let rest ← rest?
  let digits := rest.take count
  let (digits, rest) ←
    if digits.length = count && digits.all fun c => (Text.hexDigit? c).isSome then
      pure (digits, rest.drop count)
    else do
      expect ['\x7b']
      let inside := (rest.drop 1).takeWhile (· != '\x7d')
      if inside.isEmpty ∨ 8 < inside.length then failure
      pure (inside, rest.drop (inside.length + 2))
  goOn rest
  match (Text.hexNumber? digits).bind Scan.charOf? with
  | some c => pure c
  | none => failure

/-- The text of a named class behind its letter: one character, or a text between braces. -/
def classText : Reader (List Char) := do
  let rest ← rest?
  let text :=
    if rest.head? = some '\x7b' then
      rest.takeWhile (· != '\x7d') ++ (rest.dropWhile (· != '\x7d')).take 1
    else rest.take 1
  if text.isEmpty ∨ (text.head? = some '\x7b' ∧ text.getLast? ≠ some '\x7d') then failure
  drop text.length
  pure text

/-- The set of a named class. -/
def classSet? (anyCase : Bool) (letter : Char) (text : List Char) : Option CodeSet :=
  let (other, name) :=
    match text with
    | '\x7b' :: inside => Scan.className inside.dropLast
    | text => (false, ⟨String.ofList text, none⟩)
  if text = ['\\'] then none
  else name.set?.map (Bracket.foldAndNegate anyCase ((letter == 'P') != other))

/-- Letters that stand for classes when escaped. -/
def shorthands : List Char := ['d', 's', 'w', 'D', 'S', 'W']

/-- The hexadecimal digits as a bracket. -/
def hexBracket (negated : Bool) : List Char :=
  '[' :: ((if negated then ['^'] else []) ++
    ['0', '-', '9', 'A', '-', 'F', 'a', '-', 'f', ']'])

/-- The character that an escaped letter stands for.  All other characters stand for themselves. -/
def letterChar? (c : Char) : Option Char :=
  match c with
  | 'a' => some '\x07'
  | 'b' => some '\x08'
  | 'e' => some '\x1b'
  | 'f' => some '\x0c'
  | 'n' => some '\n'
  | 'r' => some '\r'
  | 't' => some '\t'
  | 'v' => some '\x0b'
  | c => if c.isAlpha && c ∉ ['k', 'A', 'z', 'B', 'G', 'K'] then none else some c

/-- Number of digits of a character behind an escaped letter. -/
def hexCount? : Char → Option Nat
  | 'x' => some 2
  | 'u' => some 4
  | 'U' => some 8
  | _ => none

/-- A character as a part of a bracket. -/
def quoted (c : Char) : List Char := if Scan.marks.contains c then ['\\', c] else [c]

/-- Reads an escape inside a bracket behind its backslash. -/
def escapeInside : Reader (List Char) := do
  match ← rest? with
  | [] => failure
  | c :: rest => do
    goOn rest
    if c.isDigit then failure
    else if shorthands.contains c then pure ['\\', c]
    else if c = 'h' ∨ c = 'H' then pure (hexBracket (c == 'H'))
    else if (c = 'p' ∨ c = 'P') ∧ !rest.isEmpty then do
      pure ('\\' :: c :: (← classText))
    else
      match hexCount? c with
      | some count => do pure (quoted (← hexChar count))
      | none =>
        match letterChar? c with
        | some c => pure (quoted c)
        | none => failure

/-- Reads the rest of a bracket that holds further brackets; the result is its text. -/
def bracketText : Nat → Nat → List (List Char) → Reader (List Char)
  | 0, _, _ => failure
  | fuel + 1, depth, read => do
    match ← rest? with
    | [] => failure
    | c :: rest => do
      goOn rest
      match c with
      | '\\' => bracketText fuel depth ((← escapeInside) :: read)
      | '[' => bracketText fuel (depth + 1) (['['] :: read)
      | ']' =>
        if depth = 0 then pure ([']'] :: read).reverse.flatten
        else bracketText fuel (depth - 1) ([']'] :: read)
      | c => bracketText fuel depth ([c] :: read)

/-- Reads a bracket. -/
def bracket : Reader Pattern := do
  let text ← rest?
  let start := if text[1]? = some '^' then ['[', '^'] else ['[']
  let start := if text[start.length]? = some ']' then start ++ [']'] else start
  drop start.length
  let text ← bracketText (text.length + 1) 0 [start]
  match Bracket.ofText? (← get).flags.anyCase text with
  | some s => pure (set s)
  | none => failure

/-- Reads an escape outside of brackets behind its backslash. -/
def escape : Reader Pattern := do
  let anyCase := (← get).flags.anyCase
  match ← rest? with
  | [] => failure
  | c :: rest => do
    if c.isDigit then pure (again (← groupNumber))
    else do
      goOn rest
      match c with
      | 'k' =>
        let (start, close) := if rest.head? = some '\'' then (['\''], ['\'']) else (['<'], ['>'])
        let find := if rest[1]? = some '-' then groupBefore else groupByName
        pure (again (← find start close))
      | 'A' => pure (place .textStart)
      | 'z' => pure (place .textEnd)
      | 'b' | 'B' =>
        if rest.head? = some '\x7b' then failure
        else pure (place (if c = 'b' then .wordEdge else .noWordEdge))
      | '<' => pure (place .wordStart)
      | '>' => pure (place .wordEnd)
      | 'K' => pure startHere
      | 'G' => pure searchStart
      | 'h' | 'H' =>
        match Bracket.ofText? false (hexBracket (c == 'H')) with
        | some s => pure (set s)
        | none => failure
      | c =>
        if shorthands.contains c then pure (set (Bracket.shorthandSet c))
        else if (c = 'p' ∨ c = 'P') ∧ !rest.isEmpty then do
          match classSet? anyCase c (← classText) with
          | some s => pure (set s)
          | none => failure
        else
          match hexCount? c with
          | some count => do pure (char (← hexChar count) anyCase)
          | none =>
            match letterChar? c with
            | some c => pure (char c anyCase)
            | none => failure

/-! ## Patterns -/

/-- Whether a pattern may be repeated. -/
def isRepeatable : Pattern → Bool
  | .empty | .look _ _ _ | .place _ => false
  | _ => true

/-- The sequence of patterns. -/
def sequenceOf : List Pattern → Pattern
  | [] => .empty
  | [p] => p
  | parts => .seq parts

/-- How deep groups may be nested. -/
def maxDepth : Nat := 63

/-- Applies the repetition that follows a pattern, if there is one. -/
def repetition (p : Pattern) : Reader Pattern := do
  skip
  let s ← get
  let found : Option ((Nat × Option Nat) × List Char) :=
    match s.rest with
    | '?' :: rest => some ((0, some 1), rest)
    | '*' :: rest => some ((0, none), rest)
    | '+' :: rest => some ((1, none), rest)
    | '\x7b' :: _ => times? s.flags.skips s.rest
    | _ => none
  match found with
  | none => pure p
  | some ((least, most), rest) => do
    if !isRepeatable p then failure
    goOn rest
    skip
    let rest ← rest?
    let isLazy := rest.head? == some '?'
    let rest := if isLazy then rest.drop 1 else rest
    let p := Pattern.repeated p least most (isLazy == s.flags.swapped)
    if rest.head? = some '+' then do
      goOn (rest.drop 1)
      pure (.atomic p)
    else do
      goOn rest
      pure p

/-- Changes a flag; the letter of the flag may have no meaning. -/
def setFlag? (letter : Char) (on : Bool) (f : Flags) : Option Flags :=
  match letter with
  | 'i' => some { f with anyCase := on }
  | 'm' => some { f with byLine := on }
  | 's' => some { f with newline := on }
  | 'U' => some { f with swapped := on }
  | 'x' => some { f with skips := on }
  | 'u' => if on then some f else none
  | _ => none

/-- Reads flags up to a colon or a closing parenthesis, which is the result. -/
def flagList : Nat → Bool → Bool → Reader Char
  | 0, _, _ => failure
  | fuel + 1, on, isFirst => do
    skip
    match ← rest? with
    | [] => failure
    | c :: rest => do
      goOn rest
      if c = ')' ∨ c = ':' then
        if isFirst ∧ (c = ')' ∨ !on) then failure else pure c
      else if c = '-' then
        if on then flagList fuel false isFirst else failure
      else
        match setFlag? c on (← get).flags with
        | some f => do
          modify fun s => { s with flags := f }
          flagList fuel on false
        | none => failure

/-- Opens a group, which may have a name. -/
def openGroup (name : Option String) : Reader Nat := do
  let n := (← get).groups + 1
  modify fun s => { s with groups := n, names := (name.toList.map fun t => (t, n)) ++ s.names }
  pure n

/-- The branches of a condition: the alternatives behind the first one belong to the second
branch. -/
def branches : Pattern → Pattern × Pattern
  | .alt [yes, no] => (yes, no)
  | .alt (yes :: no) => (yes, .alt no)
  | p => (p, .empty)

/-- A condition; asking for what a group has matched becomes asking whether it has. -/
def condition : Pattern → Pattern
  | .again n => .matched n
  | p => p

/-- The choice of a condition and its branches, which may both be missing. -/
def choiceOf (test : Pattern) : Pattern × Pattern → Pattern
  | (.empty, .empty) => test
  | (yes, no) => .choice test yes no

mutual

/-- Reads alternatives up to the end of the text or of the group.  Groups that are asked for by
number have no names. -/
def pattern : Nat → Nat → Reader Pattern
  | 0, _ => failure
  | fuel + 1, depth => do
    let first ← sequence fuel depth []
    skip
    if (← rest?).head? = some '|' then do
      pure (.alt (first :: (← others fuel depth)))
    else do
      let s ← get
      if s.byNumber && !s.names.isEmpty then failure
      pure first

/-- Reads the alternatives behind the first one. -/
def others : Nat → Nat → Reader (List Pattern)
  | 0, _ => failure
  | fuel + 1, depth => do
    if (← rest?).head? = some '|' then do
      drop 1
      let p ← sequence fuel depth []
      skip
      pure (p :: (← others fuel depth))
    else pure []

/-- Reads patterns that follow each other. -/
def sequence : Nat → Nat → List Pattern → Reader Pattern
  | 0, _, _ => failure
  | fuel + 1, depth, read => do
    let before := (← rest?).length
    if before = 0 then pure (sequenceOf read.reverse)
    else do
      let p ← repetition (← part fuel depth)
      if (← rest?).length = before then pure (sequenceOf read.reverse)
      else
        match p with
        | .empty => sequence fuel depth read
        | p => sequence fuel depth (p :: read)

/-- Reads one pattern without its repetition. -/
def part : Nat → Nat → Reader Pattern
  | 0, _ => failure
  | fuel + 1, depth => do
    skip
    let s ← get
    match s.rest with
    | [] => pure .empty
    | c :: rest =>
      match c with
      | '.' => do
        goOn rest
        pure (any s.flags.newline)
      | '^' => do
        goOn rest
        pure (place (if s.flags.byLine then .lineStart else .textStart))
      | '$' => do
        goOn rest
        pure (place (if s.flags.byLine then .lineEnd else .textEnd))
      | '(' =>
        if maxDepth ≤ depth then failure
        else do
          goOn rest
          skip
          groupBody fuel (depth + 1)
      | '\\' => do
        goOn rest
        escape
      | '+' | '*' | '?' | '|' | ')' => pure .empty
      | '[' => bracket
      | c => do
        goOn rest
        pure (char c s.flags.anyCase)

/-- Reads a group behind its opening parenthesis. -/
def groupBody : Nat → Nat → Reader Pattern
  | 0, _ => failure
  | fuel + 1, depth => do
    match ← rest? with
    | '?' :: '=' :: rest => enclosed fuel depth rest (look false false)
    | '?' :: '!' :: rest => enclosed fuel depth rest (look false true)
    | '?' :: '<' :: '=' :: rest => enclosed fuel depth rest (look true false)
    | '?' :: '<' :: '!' :: rest => enclosed fuel depth rest (look true true)
    | '?' :: '<' :: _ => do
      drop 1
      let n ← openGroup (some (← name ['<'] ['>']))
      enclosed fuel depth (← rest?) (group n)
    | '?' :: 'P' :: '<' :: _ => do
      drop 2
      let n ← openGroup (some (← name ['<'] ['>']))
      enclosed fuel depth (← rest?) (group n)
    | '?' :: 'P' :: '=' :: rest => do
      goOn rest
      pure (again (← groupByName [] [')']))
    | '?' :: '>' :: rest => enclosed fuel depth rest atomic
    | '?' :: '(' :: rest => do
      goOn rest
      conditional fuel depth
    | '?' :: rest => do
      let before := (← get).flags
      goOn rest
      match ← flagList (rest.length + 1) true true with
      | ':' => do
        let p ← pattern fuel depth
        expect [')']
        modify fun s => { s with flags := before }
        pure p
      | _ => pure .empty
    | rest => do
      let n ← openGroup none
      enclosed fuel depth rest (group n)

/-- Reads alternatives and a closing parenthesis. -/
def enclosed : Nat → Nat → List Char → (Pattern → Pattern) → Reader Pattern
  | 0, _, _, _ => failure
  | fuel + 1, depth, rest, wrap => do
    goOn rest
    let p ← pattern fuel depth
    skip
    expect [')']
    pure (wrap p)

/-- Reads a condition and its branches. -/
def conditional : Nat → Nat → Reader Pattern
  | 0, _ => failure
  | fuel + 1, depth => do
    let test ←
      match ← rest? with
      | [] => failure
      | '\'' :: _ => do pure (again (← groupByName ['\''] ['\'']))
      | '<' :: _ => do pure (again (← groupByName ['<'] ['>']))
      | c :: _ => if c.isDigit then do pure (again (← groupNumber)) else pattern fuel depth
    skip
    expect [')']
    let before := (← rest?).length
    let p ← pattern fuel depth
    if (← rest?).length = before then
      match test with
      | .again n => do
        skip
        expect [')']
        pure (matched n)
      | _ => failure
    else do
      skip
      expect [')']
      pure (choiceOf (condition test) (branches p))

end

end Reading

/-- A pattern with its groups. -/
structure Grouped where
  /-- The pattern. -/
  pattern : Pattern
  /-- Number of groups. -/
  groups : Nat
  /-- The numbers of the groups that are asked for. -/
  used : List Nat

/-- The pattern of a text. -/
def ofText? (text : List Char) : Option Grouped :=
  let start : Reading := { rest := text, limit := (String.ofList text).utf8ByteSize / 2 }
  match (Reading.pattern (8 * text.length + 16) 0).run start with
  | some (p, s) => if s.rest.isEmpty then some ⟨p, s.groups, s.used⟩ else none
  | none => none

end ServicePlan.Pattern
