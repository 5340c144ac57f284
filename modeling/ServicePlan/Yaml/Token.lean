import ServicePlan.Yaml.Text

/-!
# Tokens of YAML texts

A text is cut into tokens.  In block style the indentation of lines opens and closes collections,
which shows as tokens of their own.  A value in front of a colon becomes a key only when the colon
is reached, so the place of each possible key is kept until then.

* `Token`: the tokens.
* `Lexer`: how far a text has been cut.
* `Lexer.token`, `Lexer.run`: one more token, and all that are left.
* `Token.ofText?`: all tokens of a text, if it is well formed so far.
-/

namespace ServicePlan.Yaml

/-- A token. -/
inductive Token
  /-- The version of the format. -/
  | version (major minor : Nat)
  /-- What a tag handle stands for. -/
  | handle (name start : String)
  | documentStart
  | documentEnd
  | blockSequenceStart
  | blockMappingStart
  | blockEnd
  | flowSequenceStart
  | flowSequenceEnd
  | flowMappingStart
  | flowMappingEnd
  | blockEntry
  | flowEntry
  | key
  | value
  /-- A reference to an anchored node. -/
  | reference (name : String)
  | anchor (name : String)
  /-- A tag, as a handle and what follows it. -/
  | tag (handle suffix : String)
  /-- A scalar, plain or not. -/
  | scalar (text : String) (plain : Bool)
  deriving DecidableEq, Repr

/-- A place where a key may have started. -/
structure PossibleKey where
  /-- Whether there is one. -/
  possible : Bool := false
  /-- Whether a colon has to follow. -/
  required : Bool := false
  /-- The number of tokens before it. -/
  number : Nat := 0
  /-- The number of characters before it. -/
  index : Nat := 0
  /-- Its line. -/
  line : Nat := 0
  /-- Its column. -/
  column : Nat := 0

/-- How far a text has been cut. -/
structure Lexer where
  /-- What is left. -/
  cursor : Cursor
  /-- The tokens so far, in reverse order. -/
  tokens : List Token := []
  /-- Number of tokens. -/
  count : Nat := 0
  /-- The columns of the open block collections, the innermost first. -/
  columns : List Nat := []
  /-- Whether a key may start here. -/
  keyAllowed : Bool := true
  /-- The possible key of the innermost level. -/
  key : PossibleKey := {}
  /-- The possible keys of the levels around each open flow collection, the innermost first. -/
  outerKeys : List PossibleKey := []

/-- A step of the lexer, which fails where the text is not well formed. -/
abbrev Lexing := Lexer → Option Lexer

namespace Lexer

/-- Whether a flow collection is open. -/
def inFlow (l : Lexer) : Bool := !l.outerKeys.isEmpty

/-- Adds a token. -/
def push (l : Lexer) (t : Token) : Lexer := { l with tokens := t :: l.tokens, count := l.count + 1 }

/-- Puts a token behind the first `number` ones. -/
def insertAt (l : Lexer) (number : Nat) (t : Token) : Lexer :=
  let behind := l.count - number
  { l with tokens := l.tokens.take behind ++ t :: l.tokens.drop behind, count := l.count + 1 }

/-- Moves on. -/
def moveTo (l : Lexer) (c : Cursor) : Lexer := { l with cursor := c }

/-! ## Indentation -/

/-- Closes the block collections that start behind a column. -/
def closeBlocks (l : Lexer) (column : Option Nat) : Lexer :=
  if l.inFlow then l
  else
    let isOpen (n : Nat) : Bool := column.any fun c => n ≤ c
    let closed := (l.columns.takeWhile fun n => !isOpen n).length
    { l with
      tokens := List.replicate closed .blockEnd ++ l.tokens
      count := l.count + closed
      columns := l.columns.drop closed }

/-- Opens a block collection at a column unless one is open there; its token goes behind the first
`number` ones. -/
def openBlock (l : Lexer) (column number : Nat) (t : Token) : Lexer :=
  if l.inFlow then l
  else if l.columns.head?.all fun n => n < column then
    { l.insertAt number t with columns := column :: l.columns }
  else l

/-! ## Possible keys -/

/-- Gives up the possible key of the innermost level, which must not need a colon. -/
def dropKey : Lexing := fun l =>
  if l.key.possible && l.key.required then none
  else some { l with key := { l.key with possible := false } }

/-- Notes that a key may start here. -/
def noteKey : Lexing := fun l =>
  if l.keyAllowed then do
    let l ← l.dropKey
    let c := l.cursor
    let required := !l.inFlow && l.columns.head? == some c.column
    some { l with key := ⟨true, required, l.count, c.index, c.line, c.column⟩ }
  else some l

/-- The largest number of characters of a key. -/
def maxKeyLength : Nat := 1024

/-- Whether the possible key of the innermost level can still become a key: it stands in the same
line and is short. -/
def keyIsFresh (l : Lexer) : Bool :=
  l.key.possible && l.key.line == l.cursor.line &&
    decide (l.cursor.index ≤ l.key.index + maxKeyLength)

/-- Allows or forbids a key to start here. -/
def allowKey (l : Lexer) (allowed : Bool) : Lexer := { l with keyAllowed := allowed }

/-! ## Blanks, comments and markers -/

/-- Steps over blanks, comments and line ends to the next token.  A mark of the byte order may
start a line and takes up a column.  Behind a line end of a block a key may start. -/
def toToken : Nat → Lexer → Lexer
  | 0, l => l
  | fuel + 1, l =>
    let c := l.cursor
    let c := if c.column == 0 && c.startsWith '\ufeff' then c.skip else c
    let c := c.skipWhile fun x => x == ' ' || ((l.inFlow || !l.keyAllowed) && x == '\t')
    let c := if c.startsWith '#' then c.skipWhile fun x => !isBreak x else c
    if c.rest.head?.any isBreak then
      toToken fuel { l with cursor := c.skipLine, keyAllowed := l.keyAllowed || !l.inFlow }
    else { l with cursor := c }

/-- The end of the text: all block collections are closed. -/
def finish : Lexing := fun l => (l.closeBlocks none).dropKey

/-- Puts a marker between documents. -/
def marker (t : Token) : Lexing := fun l => do
  let l ← (l.closeBlocks none).dropKey
  some ((l.moveTo (l.cursor.advance 3)).allowKey false |>.push t)

/-! ## Directives -/

/-- Reads a number of a version. -/
def versionNumber (c : Cursor) : Option (Nat × Cursor) :=
  let (digits, c) := c.take Char.isDigit
  if digits.isEmpty ∨ 9 < digits.length then none
  else some (digits.foldl (fun n d => n * 10 + (d.toNat - 48)) 0, c)

/-- Reads a tag handle: a name between exclamation marks, or a part of a tag that starts like
one. -/
def tagHandle (directive : Bool) (c : Cursor) : Option ((List Char) × Cursor) :=
  match c.rest with
  | '!' :: _ =>
    let (name, c) := c.skip.take isWordChar
    if c.startsWith '!' then some ('!' :: (name ++ ['!']), c.skip)
    else if directive && !name.isEmpty then none
    else some ('!' :: name, c)
  | _ => none

/-- The characters that tags consist of, apart from letters, digits, hyphens and lines. -/
def tagChars : List Char :=
  [';', '/', '?', ':', '@', '&', '=', '+', '$', '.', '%', '!', '~', '*', '\'', '(', ')']

/-- Whether a character may be part of a tag; between angle brackets a few more are allowed. -/
def isTagChar (bracketed : Bool) (c : Char) : Bool :=
  isWordChar c || tagChars.contains c || (bracketed && (c == ',' || c == '[' || c == ']'))

/-- Reads the part of a tag behind its handle; `start` counts as a part of it. -/
def tagRest (bracketed : Bool) (start : List Char) (c : Cursor) : Option (String × Cursor) := do
  let (text, c) := c.take (isTagChar bracketed)
  if start.isEmpty ∧ text.isEmpty then none
  else do
    let text ← Text.unescapePercent? true (start.drop 1 ++ text)
    some (text, c)

/-- Reads a directive, whose percent sign comes next. -/
def directive : Lexing := fun l => do
  let l ← (l.closeBlocks none).dropKey
  let (name, c) := l.cursor.skip.take isWordChar
  if !endsHere c.rest then none
  else do
    let c := c.skipWhile isBlank
    let (t, c) ←
      if name = ['Y', 'A', 'M', 'L'] then do
        let (major, c) ← versionNumber c
        if !c.startsWith '.' then none
        else do
          let (minor, c) ← versionNumber c.skip
          some (Token.version major minor, c)
      else if name = ['T', 'A', 'G'] then do
        let (handle, c) ← tagHandle true c
        if !c.rest.head?.any isBlank then none
        else do
          let (start, c) ← tagRest true [] (c.skipWhile isBlank)
          if !endsHere c.rest then none
          else some (Token.handle (String.ofList handle) start, c)
      else none
    let c ← readLineEnd c
    some ((l.moveTo c).allowKey false |>.push t)

/-! ## Collections -/

/-- Opens a flow collection. -/
def openFlow (t : Token) : Lexing := fun l => do
  let l ← l.noteKey
  some { (l.moveTo l.cursor.skip).push t with
    outerKeys := l.key :: l.outerKeys, key := {}, keyAllowed := true }

/-- Closes a flow collection. -/
def closeFlow (t : Token) : Lexing := fun l => do
  let l ← l.dropKey
  let l := match l.outerKeys with
    | outer :: rest => { l with key := outer, outerKeys := rest }
    | [] => l
  some ((l.moveTo l.cursor.skip).allowKey false |>.push t)

/-- Separates entries of a flow collection. -/
def flowEntry : Lexing := fun l => do
  let l ← l.dropKey
  some ((l.moveTo l.cursor.skip).allowKey true |>.push .flowEntry)

/-- Opens a block collection for an indicator, which may stand only where a key may start. -/
def openForIndicator (t : Token) : Lexing := fun l =>
  if l.inFlow then some l
  else if l.keyAllowed then some (l.openBlock l.cursor.column l.count t)
  else none

/-- Starts an entry of a block sequence. -/
def blockEntry : Lexing := fun l => do
  let l ← l.openForIndicator .blockSequenceStart
  let l ← l.dropKey
  some ((l.moveTo l.cursor.skip).allowKey true |>.push .blockEntry)

/-- Starts a key by its indicator. -/
def keyIndicator : Lexing := fun l => do
  let l ← l.openForIndicator .blockMappingStart
  let l ← l.dropKey
  some ((l.moveTo l.cursor.skip).allowKey (!l.inFlow) |>.push .key)

/-- Starts a value: what stands in front of the colon becomes a key if it can. -/
def valueIndicator : Lexing := fun l =>
  if l.keyIsFresh then
    let k := l.key
    let l := (l.insertAt k.number .key).openBlock k.column k.number .blockMappingStart
    let l := { l with key := { k with possible := false } }
    some ((l.moveTo l.cursor.skip).allowKey false |>.push .value)
  else if l.key.possible && l.key.required then none
  else do
    let l ← l.openForIndicator .blockMappingStart
    let l := { l with key := { l.key with possible := false } }
    some ((l.moveTo l.cursor.skip).allowKey (!l.inFlow) |>.push .value)

/-! ## Nodes -/

/-- Reads the name of an anchor or a reference, whose indicator comes next. -/
def anchor (t : String → Token) : Lexing := fun l => do
  let l ← l.noteKey
  let (name, c) := l.cursor.skip.take isWordChar
  let ends := endsHere c.rest ||
    c.rest.head?.any fun x => ['?', ':', ',', ']', '}', '%', '@', '`'].contains x
  if name.isEmpty || !ends then none
  else some ((l.moveTo c).allowKey false |>.push (t (String.ofList name)))

/-- Reads the parts of a tag, whose exclamation mark comes next. -/
def tagParts (c : Cursor) : Option (String × String × Cursor) :=
  match c.rest with
  | '!' :: '<' :: _ => do
    let (suffix, c) ← tagRest true [] (c.advance 2)
    if c.startsWith '>' then some ("", suffix, c.skip) else none
  | _ => do
    let (handle, c) ← tagHandle false c
    if handle.length ≥ 2 ∧ handle.getLast? = some '!' then do
      let (suffix, c) ← tagRest false [] c
      some (String.ofList handle, suffix, c)
    else do
      let (suffix, c) ← tagRest false handle c
      if suffix = "" then some ("", "!", c) else some ("!", suffix, c)

/-- Reads a tag. -/
def tag : Lexing := fun l => do
  let l ← l.noteKey
  let (handle, suffix, c) ← tagParts l.cursor
  if endsHere c.rest || (l.inFlow && c.startsWith ',') then
    some ((l.moveTo c).allowKey false |>.push (.tag handle suffix))
  else none

/-- Reads a block scalar. -/
def blockScalar (folded : Bool) : Lexing := fun l => do
  let l ← l.dropKey
  let (text, c) ← readBlock folded l.columns.head? l.cursor.skip
  some ((l.moveTo c).allowKey true |>.push (.scalar (String.ofList text) false))

/-- Reads a quoted scalar. -/
def quotedScalar (single : Bool) : Lexing := fun l => do
  let l ← l.noteKey
  let (text, c) ← readQuoted single l.cursor.skip
  some ((l.moveTo c).allowKey false |>.push (.scalar (String.ofList text) false))

/-- Reads a plain scalar; if it ends behind a line end, a key may start. -/
def plainScalar : Lexing := fun l => do
  let l ← l.noteKey
  let margin := match l.columns.head? with
    | some n => n + 1
    | none => 0
  let (text, broken, c) ← readPlain l.inFlow margin l.cursor
  some ((l.moveTo c).allowKey broken |>.push (.scalar (String.ofList text) true))

/-- Characters that no plain scalar starts with. -/
def indicators : List Char :=
  ['-', '?', ':', ',', '[', ']', '{', '}', '#', '&', '*', '!', '|', '>', '\'', '"', '%', '@', '`']

/-- Whether a plain scalar starts with `x` and goes on with `rest`. -/
def startsPlain (flow : Bool) (x : Char) (rest : List Char) : Bool :=
  (!indicators.contains x && !isBlank x) || (x == '-' && !rest.head?.any isBlank) ||
    (!flow && (x == '?' || x == ':') && !endsHere rest)

/-- Reads the token that comes next, which starts with `x` and goes on with `rest`. -/
def token (x : Char) (rest : List Char) : Lexing := fun l =>
  let flow := l.inFlow
  if l.cursor.column == 0 && x == '%' then l.directive
  else if l.cursor.atMarker then
    l.marker (if x = '-' then .documentStart else .documentEnd)
  else if x = '[' then l.openFlow .flowSequenceStart
  else if x = '{' then l.openFlow .flowMappingStart
  else if x = ']' then l.closeFlow .flowSequenceEnd
  else if x = '}' then l.closeFlow .flowMappingEnd
  else if x = ',' then l.flowEntry
  else if x = '-' ∧ endsHere rest then l.blockEntry
  else if x = '?' ∧ (flow ∨ endsHere rest) then l.keyIndicator
  else if x = ':' ∧ (flow ∨ endsHere rest) then l.valueIndicator
  else if x = '*' then l.anchor .reference
  else if x = '&' then l.anchor .anchor
  else if x = '!' then l.tag
  else if x = '|' ∧ !flow then l.blockScalar false
  else if x = '>' ∧ !flow then l.blockScalar true
  else if x = '\'' then l.quotedScalar true
  else if x = '"' then l.quotedScalar false
  else if startsPlain flow x rest then l.plainScalar
  else none

/-- Reads all tokens that are left. -/
def run : Nat → Lexing
  | 0, _ => none
  | fuel + 1, l =>
    let l := l.toToken (l.cursor.rest.length + 1)
    match l.cursor.rest with
    | [] => l.finish
    | x :: rest => do
      let l ← (l.closeBlocks (some l.cursor.column)).token x rest
      run fuel l

end Lexer

/-- Whether a character may occur in a text. -/
def isAllowed (c : Char) : Bool :=
  let n := c.toNat
  n == 0x09 || n == 0x0A || n == 0x0D || (0x20 ≤ n && n ≤ 0x7E) || n == 0x85 ||
    (0xA0 ≤ n && n ≤ 0xD7FF) || (0xE000 ≤ n && n ≤ 0xFFFD) || 0x10000 ≤ n

/-- All tokens of a text. -/
def Token.ofText? (text : List Char) : Option (List Token) :=
  if text.all isAllowed then
    ((Lexer.mk (.ofText text) [] 0 [] true {} []).run (text.length + 1)).map (·.tokens.reverse)
  else none

end ServicePlan.Yaml
