import ServicePlan.Text.Percent
import ServicePlan.Yaml.Cursor

/-!
# Texts of YAML scalars

A scalar is written plain, between quotes, or as a block of lines.  In plain and quoted scalars a
line end with its surrounding blanks is folded: a single one stands for a space, and of several
the first is dropped.

* `readQuoted`, `readPlain`, `readBlock`: the three ways, which give the text and the place behind
  it, or nothing where the text is not well formed.
-/

namespace ServicePlan.Yaml

/-! ## Folding -/

/-- What stands between two words of a scalar. -/
structure Gap where
  /-- Whether there is a line end. -/
  broken : Bool := false
  /-- The blanks before the first line end. -/
  blanks : List Char := []
  /-- The first line end. -/
  first : List Char := []
  /-- All further line ends. -/
  more : List Char := []

/-- The characters that a gap stands for. -/
def Gap.folded (g : Gap) : List Char :=
  if g.broken then
    if g.first = ['\n'] then (if g.more.isEmpty then [' '] else g.more) else g.first ++ g.more
  else g.blanks

/-- Reads a gap.  Behind a line end no tab may stand before the column `margin`. -/
def readGap (margin : Nat) : Nat → Cursor → Gap → Option (Gap × Cursor)
  | 0, c, g => some (g, c)
  | fuel + 1, c, g =>
    match c.rest with
    | [] => some (g, c)
    | x :: _ =>
      if isBlank x then
        if g.broken then
          if x = '\t' ∧ c.column < margin then none else readGap margin fuel c.skip g
        else readGap margin fuel c.skip { g with blanks := g.blanks ++ [x] }
      else if isBreak x then
        if g.broken then readGap margin fuel c.skipLine { g with more := g.more ++ c.breakText }
        else
          readGap margin fuel c.skipLine { g with broken := true, blanks := [], first := c.breakText }
      else some (g, c)

/-! ## Quoted scalars -/

/-- The character with a code point, if there is one. -/
def charOf? (n : Nat) : Option Char :=
  if (0xD800 ≤ n ∧ n ≤ 0xDFFF) ∨ 0x10FFFF < n then none else some (Char.ofNat n)

/-- Reads the character of an escape with a number of hexadecimal digits. -/
def readCode (count : Nat) (c : Cursor) : Option (Char × Cursor) := do
  let digits := c.rest.take count
  if digits.length < count then none
  else do
    let n ← Text.hexNumber? digits
    let x ← charOf? n
    some (x, c.advance count)

/-- Reads the character of an escape, whose backslash has been read. -/
def readEscape (c : Cursor) : Option (Char × Cursor) :=
  match c.rest with
  | [] => none
  | x :: _ =>
    let c := c.skip
    match x with
    | '0' => some ('\x00', c)
    | 'a' => some ('\x07', c)
    | 'b' => some ('\x08', c)
    | 't' => some ('\t', c)
    | '\t' => some ('\t', c)
    | 'n' => some ('\n', c)
    | 'v' => some ('\x0b', c)
    | 'f' => some ('\x0c', c)
    | 'r' => some ('\r', c)
    | 'e' => some ('\x1b', c)
    | ' ' => some (' ', c)
    | '"' => some ('"', c)
    | '/' => some ('/', c)
    | '\\' => some ('\\', c)
    | 'N' => some ('\u0085', c)
    | '_' => some ('\u00a0', c)
    | 'L' => some ('\u2028', c)
    | 'P' => some ('\u2029', c)
    | 'x' => readCode 2 c
    | 'u' => readCode 4 c
    | 'U' => readCode 8 c
    | _ => none

/-- Reads a word of a quoted scalar up to a blank, a line end or the closing quote; `done` holds
what has been read, in reverse order.  An escaped line end ends the word and starts a gap. -/
def readQuotedWord (single : Bool) :
    Nat → Cursor → List Char → Option ((List Char) × Gap × Cursor)
  | 0, c, done => some (done, {}, c)
  | fuel + 1, c, done =>
    match c.rest with
    | [] => some (done, {}, c)
    | x :: rest =>
      if endsHere c.rest then some (done, {}, c)
      else if single then
        match x, rest with
        | '\'', '\'' :: _ => readQuotedWord single fuel (c.advance 2) ('\'' :: done)
        | '\'', _ => some (done, {}, c)
        | x, _ => readQuotedWord single fuel c.skip (x :: done)
      else if x = '"' then some (done, {}, c)
      else if x = '\\' then
        match rest with
        | [] => none
        | y :: _ =>
          if isBreak y then some (done, { broken := true }, c.skip.skipLine)
          else do
            let (y, c) ← readEscape c.skip
            readQuotedWord single fuel c (y :: done)
      else readQuotedWord single fuel c.skip (x :: done)

/-- Reads a quoted scalar up to and including the closing quote. -/
def readQuotedFrom (single : Bool) :
    Nat → Cursor → List Char → Option ((List Char) × Cursor)
  | 0, _, _ => none
  | fuel + 1, c, done =>
    if c.atMarker then none
    else do
      let (done, gap, c) ← readQuotedWord single (c.rest.length + 1) c done
      match c.rest with
      | [] => none
      | x :: _ =>
        if x = (if single then '\'' else '"') then some (done.reverse, c.skip)
        else do
          let (gap, c) ← readGap 0 (c.rest.length + 1) c gap
          readQuotedFrom single fuel c (gap.folded.reverse ++ done)

/-- Reads a quoted scalar, whose opening quote has been read. -/
def readQuoted (single : Bool) (c : Cursor) : Option ((List Char) × Cursor) :=
  readQuotedFrom single (c.rest.length + 1) c []

/-! ## Plain scalars -/

/-- Whether a character has a meaning of its own inside flow collections. -/
def isFlowMark (c : Char) : Bool := c == ',' || c == '[' || c == ']' || c == '{' || c == '}'

/-- Reads a word of a plain scalar; `gap` is put before it unless it is empty. -/
def readPlainWord (flow : Bool) :
    Nat → Cursor → List Char → List Char → Option ((List Char) × Cursor)
  | 0, c, done, _ => some (done, c)
  | fuel + 1, c, done, gap =>
    match c.rest with
    | [] => some (done, c)
    | x :: rest =>
      if endsHere c.rest then some (done, c)
      else if flow && x == ':' && (rest.head?.any fun y => isFlowMark y || y == '?') then none
      else if (x == ':' && endsHere rest) || (flow && isFlowMark x) then some (done, c)
      else readPlainWord flow fuel c.skip (x :: (gap.reverse ++ done)) []

/-- Reads a plain scalar that may go on in lines from the column `margin` on; the result tells
also whether it ends behind a line end. -/
def readPlainFrom (flow : Bool) (margin : Nat) :
    Nat → Cursor → List Char → Gap → Option ((List Char) × Bool × Cursor)
  | 0, c, done, gap => some (done.reverse, gap.broken, c)
  | fuel + 1, c, done, gap =>
    if c.atMarker || c.startsWith '#' then some (done.reverse, gap.broken, c)
    else do
      let (word, behind) ← readPlainWord flow (c.rest.length + 1) c done gap.folded
      let broken := gap.broken && behind.index == c.index
      match behind.rest with
      | [] => some (word.reverse, broken, behind)
      | x :: _ =>
        if !(isBlank x || isBreak x) then some (word.reverse, broken, behind)
        else do
          let (gap, c) ← readGap margin (behind.rest.length + 1) behind {}
          if !flow ∧ c.column < margin then some (word.reverse, gap.broken, c)
          else readPlainFrom flow margin fuel c word gap

/-- Reads a plain scalar. -/
def readPlain (flow : Bool) (margin : Nat) (c : Cursor) : Option ((List Char) × Bool × Cursor) :=
  readPlainFrom flow margin (c.rest.length + 1) c [] {}

/-! ## Block scalars -/

/-- What becomes of the line ends at the end of a block. -/
inductive Chomping
  /-- None is kept. -/
  | strip
  /-- The first is kept. -/
  | clip
  /-- All are kept. -/
  | keep
  deriving DecidableEq

/-- Reads the sign of the chomping, if there is one. -/
def readChomping (c : Cursor) : Option Chomping × Cursor :=
  match c.rest with
  | '+' :: _ => (some .keep, c.skip)
  | '-' :: _ => (some .strip, c.skip)
  | _ => (none, c)

/-- Reads the digit of the indentation, if there is one; zero is refused. -/
def readIncrement (c : Cursor) : Option (Option Nat × Cursor) :=
  match c.rest with
  | x :: _ =>
    if x = '0' then none
    else if x.isDigit then some (some (x.toNat - 48), c.skip)
    else some (none, c)
  | [] => some (none, c)

/-- Reads the sign and the digit, in any order. -/
def readHeader (c : Cursor) : Option (Chomping × Option Nat × Cursor) :=
  match readChomping c with
  | (some chomping, c) => do
    let (increment, c) ← readIncrement c
    some (chomping, increment, c)
  | (none, c) => do
    match ← readIncrement c with
    | (some n, c) =>
      let (chomping, c) := readChomping c
      some (chomping.getD .clip, some n, c)
    | (none, c) => some (.clip, none, c)

/-- Steps over blanks and a comment up to the line end, which has to come next. -/
def readLineEnd (c : Cursor) : Option Cursor :=
  let c := c.skipWhile isBlank
  let c := if c.startsWith '#' then c.skipWhile (fun x => !isBreak x) else c
  if lineEndsHere c.rest then some c.skipLine else none

/-- Reads line ends with the indentation behind them; `indent` is the column where the text of the
block starts, if it is known.  The result holds the line ends and the largest column reached. -/
def readBreaks (indent : Option Nat) :
    Nat → Cursor → Nat → List Char → Option ((List Char) × Nat × Cursor)
  | 0, c, deepest, breaks => some (breaks, deepest, c)
  | fuel + 1, c, deepest, breaks =>
    let room := match indent with
      | some n => n - c.column
      | none => c.rest.length
    let spaces := ((c.rest.takeWhile (· == ' ')).take room).length
    let c := c.advance spaces
    let deepest := max deepest c.column
    if (indent.all fun n => c.column < n) && c.startsWith '\t' then none
    else
      match c.rest with
      | x :: _ =>
        if isBreak x then readBreaks indent fuel c.skipLine deepest (breaks ++ c.breakText)
        else some (breaks, deepest, c)
      | [] => some (breaks, deepest, c)

/-- Reads the lines of a block; `last` is the line end before the next line, `breaks` are empty
lines behind it, and `blank` tells whether the line before starts with a blank. -/
def readLines (folded : Bool) (indent : Nat) :
    Nat → Cursor → List Char → List Char → List Char → Bool →
      Option ((List Char) × (List Char) × (List Char) × Cursor)
  | 0, c, done, last, breaks, _ => some (done, last, breaks, c)
  | fuel + 1, c, done, last, breaks, blank =>
    if c.column ≠ indent ∨ c.rest.isEmpty then some (done, last, breaks, c)
    else do
      let starts := c.rest.head?.any isBlank
      let lead :=
        if folded ∧ last = ['\n'] ∧ !blank ∧ !starts then
          if breaks.isEmpty then [' '] else []
        else last
      let (text, c) := c.take fun x => !isBreak x
      let done := text.reverse ++ (breaks.reverse ++ (lead.reverse ++ done))
      let last := c.breakText
      let (breaks, _, c) ← readBreaks (some indent) (c.rest.length + 1) c.skipLine 0 []
      readLines folded indent fuel c done last breaks starts

/-- Reads a block scalar, whose indicator has been read, inside a collection at the column
`outer`, if there is one. -/
def readBlock (folded : Bool) (outer : Option Nat) (c : Cursor) : Option ((List Char) × Cursor) := do
  let (chomping, increment, c) ← readHeader c
  let c ← readLineEnd c
  let given := increment.map fun n => n + outer.getD 0
  let (breaks, deepest, c) ← readBreaks given (c.rest.length + 1) c 0 []
  let least := match outer with
    | some n => n + 1
    | none => 1
  let indent := given.getD (max deepest least)
  let (done, last, breaks, c) ← readLines folded indent (c.rest.length + 1) c [] [] breaks false
  let tail := match chomping with
    | .strip => []
    | .clip => last
    | .keep => last ++ breaks
  some (done.reverse ++ tail, c)

end ServicePlan.Yaml
