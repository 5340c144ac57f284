import ServicePlan.CommandLine.Words
import ServicePlan.Log

/-!
# Requests

A request is what a command line asks for, with the environment in place of parameters that are
not given.

* `Task`: a command with all that it needs to know.
* `Request.ofWords`: the request of a command line.  It is refused if a parameter is given twice
  at one place, lacks its value or has an impossible one, or if a command lacks a parameter.
-/

namespace ServicePlan.CommandLine

/-- How much of the log is shown. -/
inductive Verbosity
  /-- Nothing. -/
  | quiet
  /-- All records down to a level. -/
  | upTo (level : Level)
  deriving DecidableEq, Repr

/-- Whether records of a level are shown. -/
def Verbosity.shows : Verbosity → Level → Bool
  | quiet, _ => false
  | upTo lowest, level => level.rank ≤ lowest.rank

/-- The word that stands for no records at all. -/
def Verbosity.quietWord : String := "off"

/-- The verbosity of a word. -/
def Verbosity.ofWord? (word : String) : Option Verbosity :=
  if word = quietWord then some quiet else (Level.ofLabel? word).map upTo

/-- Where to deploy, as far as it is given. -/
structure Target where
  /-- The account. -/
  account : Option String
  /-- The region. -/
  region : Option String
  /-- The branch that placeholders stand for. -/
  branch : Option String
  deriving DecidableEq, Repr

/-- A spec that is to be read. -/
structure Subject where
  /-- The path of the spec. -/
  spec : String
  /-- The path of a schema in place of the one for service specs. -/
  schema : Option String
  /-- Where to deploy. -/
  target : Target
  deriving DecidableEq, Repr

/-- Where a plan goes. -/
inductive Destination
  /-- To the standard output. -/
  | screen
  /-- To a file. -/
  | file (path : String)
  /-- To the log, as a list of what there is to do. -/
  | log
  deriving DecidableEq, Repr

/-- A command with all that it needs to know. -/
inductive Task
  /-- Writes the plan of a spec, for paths below a root and with a repository token. -/
  | synth (subject : Subject) (destination : Destination) (root token : Option String)
  /-- Checks a spec. -/
  | validate (subject : Subject)
  /-- Looks up a layer. -/
  | layer (name : String) (target : Target)
  deriving DecidableEq, Repr

/-- What a command line asks for. -/
structure Request where
  /-- How much of the log is shown. -/
  verbosity : Verbosity
  /-- What is to be done. -/
  task : Task
  deriving DecidableEq, Repr

/-! ## Mentions -/

/-- Whether a mention is complete, with a value that is possible. -/
def Mention.isSound (m : Mention) : Bool :=
  match m.parameter, m.value with
  | .logLevel, some word => (Verbosity.ofWord? word).isSome
  | p, value => value.isSome == p.takesValue

/-- Whether mentions at one place are sound and no parameter is given twice. -/
def isSound (mentions : List Mention) : Bool :=
  mentions.all Mention.isSound && decide (mentions.map Mention.parameter).Nodup

/-- Whether a parameter is given. -/
def gives (mentions : List Mention) (p : Parameter) : Bool := mentions.any fun m => m.parameter == p

/-- The value given for a parameter, or else that of its environment variable. -/
def value? (environment : List (String × String)) (mentions : List Mention) (p : Parameter) :
    Option String :=
  match (mentions.find? fun m => m.parameter == p).bind Mention.value with
  | some v => some v
  | none => p.fallback?.bind fun name => environment.lookup name

/-! ## Requests -/

/-- How much of the log is shown, where parameters behind the command count more than those
before it. -/
def verbosityOf (before behind : List Mention) : Verbosity :=
  if gives (before ++ behind) .trace then .upTo .trace
  else if gives (before ++ behind) .silent then .quiet
  else ((value? [] (behind ++ before) .logLevel).bind Verbosity.ofWord?).getD (.upTo .info)

/-- Where to deploy. -/
def targetOf (value : Parameter → Option String) : Target :=
  ⟨value .account, value .region, value .branch⟩

/-- The spec that is to be read. -/
def subjectOf (value : Parameter → Option String) : Option Subject :=
  (value .spec).map fun spec => ⟨spec, value .schema, targetOf value⟩

/-- Where a plan goes, unless two places are given. -/
def destinationOf (mentions : List Mention) (value : Parameter → Option String) :
    Option Destination :=
  match value .output, gives mentions .dryRun with
  | none, false => some .screen
  | some path, false => some (.file path)
  | none, true => some .log
  | some _, true => none

/-- The task of a command. -/
def taskOf (environment : List (String × String)) (mentions : List Mention) (c : Command) :
    Option Task :=
  let value := value? environment mentions
  match c with
  | .synth => do
    let subject ← subjectOf value
    let destination ← destinationOf mentions value
    some (.synth subject destination (value .root) (value .token))
  | .validate => (subjectOf value).map .validate
  | .layer => (value .layerName).map fun name => .layer name (targetOf value)

/-- The word that asks for help. -/
def helpWord : String := "help"

/-- Whether a word ends the leading parameters. -/
def isCommandWord (word : String) : Bool := word == helpWord || (Command.ofWord? word).isSome

/-- What words behind the request for help come to. -/
def helpOn : List String → Stop
  | [] => .help
  | [word] => if isCommandWord word then .help else .misuse
  | _ => .misuse

/-- What a command line without a command comes to. -/
def withoutCommand (mentions : List Mention) : Stop :=
  if mentions = [] ∨ isSound mentions = false then .misuse else .noCommand

/-- The request of a command line. -/
def Request.ofWords (environment : List (String × String)) (words : List String) :
    Except Stop Request := do
  let (before, command) ← readWords leading isCommandWord none words
  match command with
  | none => .error (withoutCommand before)
  | some (word, rest) =>
    match Command.ofWord? word with
    | none => .error (helpOn rest)
    | some c =>
      let (behind, _) ← readWords c.parameters (fun _ => false) none rest
      if isSound before && isSound behind then
        match taskOf environment behind c with
        | some task => .ok ⟨verbosityOf before behind, task⟩
        | none => .error .misuse
      else .error .misuse

end ServicePlan.CommandLine
