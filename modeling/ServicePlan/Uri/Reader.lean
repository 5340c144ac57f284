import ServicePlan.Uri.Address
import ServicePlan.Uri.Basic

/-!
# Reading identifiers

An identifier is read from the left.  Each part has its own characters; others have to be written as
percent escapes.  What is wrong is reported with its position.

* `Uri.Fault`: what is wrong with a text.
* `Uri.read`: the identifier of a text.
-/

namespace ServicePlan.Uri

/-- What is wrong with a text that should be an identifier, with the position of it. -/
inductive Fault
  | unexpected (index : Nat)
  | badEscape (index : Nat)
  | badAddress (index : Nat)
  deriving DecidableEq, Repr

/-- The wording of a fault. -/
def Fault.message : Fault → String
  | unexpected index => s!"unexpected character at index {index}"
  | badEscape index => s!"invalid percent-encoded octet at index {index}"
  | badAddress index => s!"invalid IPv6 address at index {index}"

/-- What is left of a text, with the number of characters before it. -/
structure Position where
  /-- The characters that are left. -/
  rest : List Char
  /-- Number of characters before them. -/
  index : Nat

namespace Position

/-- Behind the next `n` characters. -/
def advance (p : Position) (n : Nat) : Position := ⟨p.rest.drop n, p.index + n⟩

/-- Whether the next character is `c`. -/
def startsWith (p : Position) (c : Char) : Bool := p.rest.head? == some c

/-- Number of characters at the start of a text that belong to a class or to a percent escape. -/
def span (allowed : Char → Bool) (index : Nat) : List Char → Except Fault Nat
  | '%' :: a :: b :: rest =>
    if (Text.hexDigit? a).isSome && (Text.hexDigit? b).isSome then
      (span allowed (index + 3) rest).map (· + 3)
    else .error (.badEscape index)
  | '%' :: _ => .error (.badEscape index)
  | c :: rest => if allowed c then (span allowed (index + 1) rest).map (· + 1) else .ok 0
  | [] => .ok 0

/-- The next characters that belong to a class or to a percent escape, and the place behind
them. -/
def take (p : Position) (allowed : Char → Bool) : Except Fault (List Char × Position) := do
  let n ← span allowed p.index p.rest
  .ok (p.rest.take n, p.advance n)

/-- The next characters that belong to a class without escapes, and the place behind them. -/
def takePlain (p : Position) (allowed : Char → Bool) : List Char × Position :=
  let taken := p.rest.takeWhile allowed
  (taken, p.advance taken.length)

end Position

/-- Reads a query and a fragment, and makes sure that nothing is left. -/
def readTail (p : Position) : Except Fault (Option String × Option String) := do
  let (query, p) ←
    if p.startsWith '?' then do
      let (text, p) ← (p.advance 1).take isQueryChar
      pure (some (String.ofList text), p)
    else pure (none, p)
  let (fragment, p) ←
    if p.startsWith '#' then do
      let (text, p) ← (p.advance 1).take isQueryChar
      pure (some (String.ofList text), p)
    else pure (none, p)
  if p.rest.isEmpty then .ok (query, fragment) else .error (.unexpected p.index)

/-- Reads at least one character of a class. -/
def readSome (p : Position) (allowed : Char → Bool) : Except Fault (List Char × Position) :=
  let (taken, behind) := p.takePlain allowed
  if taken.isEmpty then .error (.unexpected p.index) else .ok (taken, behind)

/-- Reads the address behind an opening bracket, with the closing bracket. -/
def readBracketed (p : Position) : Except Fault (String × Position) := do
  let close (text : List Char) (p : Position) : Except Fault (String × Position) :=
    if p.startsWith ']' then .ok (String.ofList ('[' :: (text ++ [']'])), p.advance 1)
    else .error (.unexpected p.index)
  if p.startsWith 'v' || p.startsWith 'V' then
    let (version, q) ← readSome (p.advance 1) fun c => (Text.hexDigit? c).isSome
    if !q.startsWith '.' then .error (.unexpected q.index)
    else do
      let (address, r) ← readSome (q.advance 1) isUserChar
      close (p.rest.take 1 ++ version ++ ['.'] ++ address) r
  else
    let (address, behind) := p.takePlain fun c => (Text.hexDigit? c).isSome || c == ':' || c == '.'
    if Address.isEight address then close address behind else .error (.badAddress p.index)

/-- Reads a port behind a colon, if there is one. -/
def readPort (p : Position) : Option String × Position :=
  if p.startsWith ':' then
    let (digits, behind) := (p.advance 1).takePlain Char.isDigit
    (some (String.ofList digits), behind)
  else (none, p)

/-- The host and the port of a text that holds nothing else; `index` is the position of the
text. -/
def splitPort (index : Nat) (text : List Char) : Except Fault (String × Option String) :=
  match text.idxOf? ':' with
  | none => .ok (String.ofList text, none)
  | some colon =>
    let host := text.take colon
    let port := text.drop (colon + 1)
    match port.reverse.idxOf? ':' with
    | some fromEnd => .error (.unexpected (index + text.length - 1 - fromEnd))
    | none =>
      match port.findIdx? (!·.isDigit) with
      | some i => .error (.unexpected (index + colon + 1 + i))
      | none => .ok (String.ofList host, some (String.ofList port))

/-- Reads a host: a bracketed address or a name. -/
def readHost (p : Position) : Except Fault (String × Position) :=
  if p.startsWith '[' then readBracketed (p.advance 1)
  else do
    let (name, p) ← p.take isNameChar
    .ok (String.ofList name, p)

/-- Reads an authority. -/
def readAuthority (p : Position) : Except Fault (Authority × Position) := do
  let (text, behind) ← p.take isUserChar
  if behind.startsWith '@' then do
    let (host, q) ← readHost (behind.advance 1)
    let (port, q) := readPort q
    .ok (⟨some (String.ofList text), host, port⟩, q)
  else if text.isEmpty then
    if p.startsWith '[' then do
      let (host, q) ← readBracketed (p.advance 1)
      let (port, q) := readPort q
      .ok (⟨none, host, port⟩, q)
    else .ok (⟨none, "", none⟩, p)
  else do
    let (host, port) ← splitPort p.index text
    .ok (⟨none, host, port⟩, behind)

/-- Reads what follows two slashes. -/
def readFromAuthority (scheme : Option String) (p : Position) : Except Fault Uri := do
  let (authority, p) ← readAuthority p
  let (path, behind) ← p.take isPathChar
  if !path.isEmpty && path.head? != some '/' then .error (.unexpected p.index)
  else do
    let (query, fragment) ← readTail behind
    .ok ⟨scheme, some authority, String.ofList path, query, fragment⟩

/-- Reads what follows a scheme. -/
def readFromPath (scheme : Option String) (p : Position) : Except Fault Uri := do
  let (path, p) ← p.take isPathChar
  let (query, fragment) ← readTail p
  .ok ⟨scheme, none, String.ofList path, query, fragment⟩

/-- Reads an identifier without a scheme; `start` holds the characters read so far. -/
def readRelative (start : List Char) (p : Position) : Except Fault Uri := do
  let (first, p) ← p.take isFirstSegmentChar
  if p.startsWith ':' then .error (.unexpected p.index)
  else do
    let (path, p) ← p.take isPathChar
    let (query, fragment) ← readTail p
    .ok ⟨none, none, String.ofList (start ++ first ++ path), query, fragment⟩

/-- The identifier of a text. -/
def read (text : String) : Except Fault Uri :=
  let p : Position := ⟨text.toList, 0⟩
  let (start, behind) := p.takePlain isSchemeChar
  if behind.startsWith ':' then
    if start.head?.any Char.isAlpha then
      let scheme := some (String.ofList start)
      match behind.rest with
      | ':' :: '/' :: '/' :: _ => readFromAuthority scheme (behind.advance 3)
      | _ => readFromPath scheme (behind.advance 1)
    else .error (.unexpected 0)
  else if start.isEmpty then
    match p.rest with
    | '/' :: '/' :: _ => readFromAuthority none (p.advance 2)
    | _ => readRelative [] p
  else readRelative start behind

end ServicePlan.Uri
