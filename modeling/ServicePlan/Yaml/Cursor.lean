/-!
# Places in YAML texts

A YAML text is read from the left.  Where a line ends and in which column a token stands decides
what the token means, so the place is counted while reading.

* `Cursor`: what is left of a text, with the number of characters before it, its line and its
  column.
* `Cursor.skip`, `Cursor.skipLine`, `Cursor.skipWhile`: moving on.
-/

namespace ServicePlan.Yaml

/-- Whether a character ends a line. -/
def isBreak (c : Char) : Bool :=
  c == '\r' || c == '\n' || c == '\u0085' || c == '\u2028' || c == '\u2029'

/-- Whether a character is a space or a tab. -/
def isBlank (c : Char) : Bool := c == ' ' || c == '\t'

/-- Whether a text starts with a blank or a line end, or is at its end. -/
def endsHere : List Char → Bool
  | [] => true
  | c :: _ => isBlank c || isBreak c

/-- Whether a text starts with a line end or is at its end. -/
def lineEndsHere : List Char → Bool
  | [] => true
  | c :: _ => isBreak c

/-- Whether a character may be part of an anchor or a tag handle. -/
def isWordChar (c : Char) : Bool := c.isAlphanum || c == '_' || c == '-'

/-- What is left of a text. -/
structure Cursor where
  /-- The characters that are left. -/
  rest : List Char
  /-- Number of characters before them. -/
  index : Nat
  /-- Number of line ends before them. -/
  line : Nat
  /-- Number of characters since the last line end. -/
  column : Nat

namespace Cursor

/-- The start of a text. -/
def ofText (text : List Char) : Cursor := ⟨text, 0, 0, 0⟩

/-- Behind the next `n` characters, which end no line. -/
def advance (c : Cursor) (n : Nat) : Cursor :=
  { c with rest := c.rest.drop n, index := c.index + n, column := c.column + n }

/-- Behind the next character, which ends no line. -/
def skip (c : Cursor) : Cursor := c.advance 1

/-- Behind the line end that comes next, if one does. -/
def skipLine (c : Cursor) : Cursor :=
  match c.rest with
  | '\r' :: '\n' :: rest => ⟨rest, c.index + 2, c.line + 1, 0⟩
  | x :: rest => if isBreak x then ⟨rest, c.index + 1, c.line + 1, 0⟩ else c
  | [] => c

/-- The characters that the line end that comes next stands for. -/
def breakText (c : Cursor) : List Char :=
  match c.rest with
  | x :: _ => if x = '\u2028' ∨ x = '\u2029' then [x] else if isBreak x then ['\n'] else []
  | [] => []

/-- Behind the next characters that are like `p`, none of which ends a line. -/
def skipWhile (c : Cursor) (p : Char → Bool) : Cursor := c.advance (c.rest.takeWhile p).length

/-- The next characters that are like `p`, and the place behind them. -/
def take (c : Cursor) (p : Char → Bool) : List Char × Cursor := (c.rest.takeWhile p, c.skipWhile p)

/-- Whether the next character is `x`. -/
def startsWith (c : Cursor) (x : Char) : Bool := c.rest.head? == some x

/-- Whether a marker between documents comes next: three hyphens or dots at the start of a line,
with nothing directly behind them. -/
def atMarker (c : Cursor) : Bool :=
  c.column == 0 &&
    match c.rest with
    | '-' :: '-' :: '-' :: rest => endsHere rest
    | '.' :: '.' :: '.' :: rest => endsHere rest
    | _ => false

end Cursor

end ServicePlan.Yaml
