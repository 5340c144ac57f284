import ServicePlan.CommandLine.Parameter

/-!
# Words of a command line

A word that starts with two hyphens is the long name of a parameter, and its value may follow
behind an equals sign; a word that starts with one hyphen lists letters of parameters, and the
value of the last one may follow at once.  A value that is not attached is the next word, unless
that word starts with a hyphen itself.

* `Mention`: a parameter as it is given.
* `readLong`, `readLetters`: the two ways to name parameters.
* `readWords`: the mentions before the command, or behind it.
-/

namespace ServicePlan.CommandLine

/-- A parameter that is given. -/
structure Mention where
  /-- The parameter. -/
  parameter : Parameter
  /-- The value given with it. -/
  value : Option String
  deriving DecidableEq, Repr

/-- Why a command line asks for no work. -/
inductive Stop
  /-- It cannot be understood. -/
  | misuse
  /-- It asks for help. -/
  | help
  /-- It asks for the version. -/
  | version
  /-- It gives parameters only. -/
  | noCommand
  deriving DecidableEq, Repr

/-- What a word with hyphens gives: mentions, and the parameter whose value is still to come. -/
abbrev Given := List Mention × Option Parameter

/-- Mentions a parameter that takes no value.  To ask for help or for the version ends the
reading. -/
def mention (p : Parameter) : Except Stop Mention :=
  match p with
  | .help => .error .help
  | .version => .error .version
  | p => .ok ⟨p, none⟩

/-- Reads a word behind its two hyphens. -/
def readLong (known : List Parameter) (body : List Char) : Except Stop Given :=
  let name := String.ofList (body.takeWhile (· != '='))
  let value? := (body.dropWhile (· != '=')).tail?.map String.ofList
  match known.find? fun p => p.long == name with
  | none => .error .misuse
  | some p =>
    match p.takesValue, value? with
    | true, some v => .ok ([⟨p, some v⟩], none)
    | true, none => .ok ([], some p)
    | false, some _ => .error .misuse
    | false, none => do .ok ([← mention p], none)

/-- A value that is attached to a letter, which may be set off by an equals sign. -/
def attached : List Char → String
  | '=' :: value => String.ofList value
  | value => String.ofList value

/-- Reads a word behind its one hyphen. -/
def readLetters (known : List Parameter) : List Char → Except Stop Given
  | [] => .ok ([], none)
  | c :: rest =>
    match known.find? fun p => p.letter? == some c with
    | none => .error .misuse
    | some p =>
      if p.takesValue then
        match rest with
        | [] => .ok ([], some p)
        | _ :: _ => .ok ([⟨p, some (attached rest)⟩], none)
      else do
        let m ← mention p
        let (mentions, pending) ← readLetters known rest
        .ok (m :: mentions, pending)

/-- The mention of a parameter whose value did not come. -/
def unmet : Option Parameter → List Mention
  | some p => [⟨p, none⟩]
  | none => []

/-- Reads the mentions of known parameters up to a command, which is returned with the words
behind it.  A lone pair of hyphens lets only positional words follow, and none is allowed. -/
def readWords (known : List Parameter) (isCommand : String → Bool) :
    Option Parameter → List String → Except Stop (List Mention × Option (String × List String))
  | pending, [] => .ok (unmet pending, none)
  | pending, word :: rest =>
    if pending.isNone && isCommand word then .ok ([], some (word, rest))
    else
      match word.toList, pending with
      | ['-', '-'], _ => if rest = [] then .ok (unmet pending, none) else .error .misuse
      | '-' :: '-' :: body, _ => do
        let (mentions, next) ← readLong known body
        let (more, behind) ← readWords known isCommand next rest
        .ok (unmet pending ++ mentions ++ more, behind)
      | '-' :: c :: body, _ => do
        let (mentions, next) ← readLetters known (c :: body)
        let (more, behind) ← readWords known isCommand next rest
        .ok (unmet pending ++ mentions ++ more, behind)
      | _, some p => do
        let (more, behind) ← readWords known isCommand none rest
        .ok (⟨p, some word⟩ :: more, behind)
      | _, none => .error .misuse

end ServicePlan.CommandLine
