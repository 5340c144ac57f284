import ServicePlan.Pattern.Bracket

/-!
# Plain patterns

Shorthands for classes mean ASCII classes in plain patterns, and classes of all scripts in others.  So
a text is first read as a plain pattern, and if it is one, its shorthands are spelled out as brackets.

* `Plain.read`: the shorthands of a plain pattern.
* `Plain.spelledOut?`: a pattern whose shorthands mean classes of all scripts.
-/

namespace ServicePlan.Pattern.Plain

open Scan (Scanner Latest)

/-- Remembers what has been read last. -/
def setLatest (l : Latest) : Scanner Unit := modify fun s => { s with latest := l }

/-! ## Repetitions -/

/-- The part that an operator for repetition is about has to be there. -/
def needPart : Scanner Unit := do
  if (← get).latest ≠ .part then Scan.fail

/-- Skips blanks of all kinds. -/
def skipAllBlanks : Scanner Unit :=
  modify fun s => { s with rest := s.rest.dropWhile Scan.isBlank }

/-- Reads decimal digits. -/
def digits : Nat → List Char → Scanner (List Char)
  | 0, read => pure read.reverse
  | fuel + 1, read => do
    match ← Scan.peek with
    | some c =>
      if c.isDigit then do
        Scan.next
        digits fuel (c :: read)
      else pure read.reverse
    | none => pure read.reverse

/-- The largest number of times that can be counted. -/
def maxTimes : Nat := 4294967295

/-- Reads a number of times. -/
def times : Scanner Nat := do
  skipAllBlanks
  let ds ← digits ((← get).rest.length + 1) []
  skipAllBlanks
  let n := ds.foldl (fun n c => n * 10 + (c.toNat - 48)) 0
  if ds.isEmpty ∨ maxTimes < n then Scan.fail else pure n

/-- Reads the mark of a repetition that prefers few matches, if there is one. -/
def lazyMark : Scanner Unit := do
  let _ ← Scan.dropIf '?'

/-- Reads a counted repetition from its brace on. -/
def counted : Scanner Unit := do
  needPart
  Scan.next
  let least ← times
  let isOrdered ←
    if (← Scan.current) = ',' then do
      Scan.next
      if (← Scan.current) = '\x7d' then pure true
      else do
        let most ← times
        pure (least ≤ most)
    else pure true
  if (← Scan.current) ≠ '\x7d' then Scan.fail
  Scan.next
  lazyMark
  if !isOrdered then Scan.fail
  setLatest .part

/-! ## Groups -/

/-- Whether a character may be part of the name of a group. -/
def isNameChar (first : Bool) (c : Char) : Bool :=
  c == '_' || Unicode.letters.contains c ||
    (!first && (c == '.' || c == '[' || c == ']' || Unicode.numbers.contains c))

/-- Reads the name of a group up to the closing angle bracket. -/
def groupName : Scanner Unit := do
  let s ← get
  let name := s.rest.takeWhile (· != '>')
  let isName := (name.take 1).all (isNameChar true) && (name.drop 1).all (isNameChar false)
  let text := String.ofList name
  if name.isEmpty || !isName || s.names.contains text || name.length = s.rest.length then Scan.fail
  else modify fun s => { s with rest := s.rest.drop (name.length + 1), names := text :: s.names }

/-- The letters of flags. -/
def flagLetters : List Char := ['i', 'm', 's', 'u', 'U', 'R', 'x']

/-- Whether flags are well formed: each occurs once, and one hyphen may stand between two of
them. -/
def areFlags (flags : List Char) : Bool :=
  flags.all (fun c => c == '-' || flagLetters.contains c) && flags.eraseDups.length == flags.length &&
    flags.getLast? != some '-'

/-- Opens a group, inside of which blanks may be skipped. -/
def openGroup (skips : Bool) : Scanner Unit :=
  modify fun s =>
    { s with skips, opened := s.skips :: s.opened, latest := .nothing }

/-- The beginnings of groups that look around. -/
def lookingStarts : List (List Char) := [['?', '='], ['?', '!'], ['?', '<', '='], ['?', '<', '!']]

/-- Reads the beginning of a group, or flags for the rest of the group around. -/
def groupStart : Scanner Unit := do
  Scan.next
  let ⟨text, skips, _, _, _, _⟩ ← get
  if lookingStarts.any (·.isPrefixOf text) then throw .notPlain
  else if (← Scan.dropText "?P<") || (← Scan.dropText "?<") then do
    groupName
    openGroup skips
  else if ← Scan.dropText "?" then do
    let rest := (← get).rest
    let flags := rest.takeWhile fun c => c != ':' && c != ')'
    let skips :=
      if flags.contains 'x' then !(flags.takeWhile (· != 'x')).contains '-' else skips
    if !areFlags flags then Scan.fail
    Scan.drop flags.length
    if (← Scan.current) = ')' then do
      if flags.isEmpty then Scan.fail
      Scan.drop 1
      modify fun s => { s with skips, latest := .flags }
    else do
      Scan.drop 1
      openGroup skips
  else openGroup skips

/-- Reads the end of a group. -/
def groupEnd : Scanner Unit := do
  let s ← get
  match s.opened with
  | skips :: opened =>
    modify fun s => { s with rest := s.rest.drop 1, skips, opened, latest := .part }
  | [] => Scan.fail

/-! ## Whole patterns -/

/-- Reads the parts of a pattern up to the end of the text. -/
def parts : Nat → Scanner Unit
  | 0 => Scan.fail
  | fuel + 1 => do
    Scan.skipBlanks
    match ← Scan.peek with
    | none => do
      if !(← get).opened.isEmpty then Scan.fail
    | some c => do
      match c with
      | '(' => groupStart
      | ')' => groupEnd
      | '|' => do
        Scan.drop 1
        setLatest .nothing
      | '[' => do
        let _ ← Bracket.read
        setLatest .part
      | '?' | '*' | '+' => do
        needPart
        Scan.drop 1
        lazyMark
        setLatest .part
      | '\x7b' => counted
      | '\\' => do
        let _ ← Scan.escape
        setLatest .part
      | _ => do
        Scan.drop 1
        setLatest .part
      parts fuel

/-- The shorthands of a plain pattern. -/
def read (text : List Char) : Except Scan.Fault (List Shorthand) :=
  match (parts (text.length + 1)).run { rest := text } with
  | .ok (_, s) => .ok s.shorthands
  | .error f => .error f

/-! ## Shorthands -/

/-- The bracket of a shorthand. -/
def spelling (letter : Char) : List Char :=
  let members :=
    match letter.toLower with
    | 'd' => ['0', '-', '9']
    | 's' =>
      [' ', '\t', '\n', '\r', '\x0b', '\x0c', '\u00a0', '\ufeff', '\u2003', '\u2029']
    | _ => ['A', '-', 'Z', 'a', '-', 'z', '0', '-', '9', '_']
  '[' :: ((if letter.isUpper then ['^'] else []) ++ members ++ [']'])

/-- A text whose shorthands are spelled out. -/
def spellOut (shorthands : List Shorthand) : List Char → List Char
  | [] => []
  | [c] => [c]
  | c :: d :: rest =>
    if shorthands.any fun s => s.left = rest.length + 2 then
      spelling d ++ spellOut shorthands rest
    else c :: spellOut shorthands (d :: rest)

/-- The control character of a letter. -/
def controlChar (letter : Char) : Char := Char.ofNat (letter.toNat % 32)

/-- A text whose escape for a control character is replaced by it. -/
def withControl (left : Nat) (text : List Char) : List Char :=
  let front := text.take (text.length - left)
  match text.drop (text.length - left) with
  | _ :: _ :: letter :: rest => front ++ controlChar letter :: rest
  | _ => text

/-- A pattern whose shorthands mean classes of all scripts, unless the text is not well formed; all
escapes for control characters are replaced. -/
def spelledOut? : Nat → List Char → Option (List Char)
  | 0, _ => none
  | fuel + 1, text =>
    match read text with
    | .ok shorthands => some (spellOut shorthands text)
    | .error .notPlain => some text
    | .error (.control left) => spelledOut? fuel (withControl left text)
    | .error .malformed => none

end ServicePlan.Pattern.Plain
