/-!
# Commands and their parameters

* `Command`: what can be done.
* `Parameter`: what can be said about how to do it, with the ways to write it.
* `Command.parameters`, `Parameter.general`: which parameters go with which command.
-/

namespace ServicePlan.CommandLine

/-- The commands. -/
inductive Command
  /-- Writes the plan of a spec. -/
  | synth
  /-- Checks a spec. -/
  | validate
  /-- Looks up a layer. -/
  | layer
  deriving DecidableEq, Repr

/-- The word for a command. -/
def Command.word : Command → String
  | synth => "synth"
  | validate => "validate"
  | layer => "layer"

/-- All commands. -/
def Command.all : List Command := [.synth, .validate, .layer]

/-- The command of a word. -/
def Command.ofWord? (word : String) : Option Command := Command.all.find? fun c => c.word == word

/-- The parameters of all commands. -/
inductive Parameter
  | spec
  | schema
  | account
  | region
  | branch
  | output
  | dryRun
  | root
  | token
  | layerName
  | logLevel
  | trace
  | silent
  | help
  | version
  deriving DecidableEq, Repr

namespace Parameter

/-- The long name of a parameter. -/
def long : Parameter → String
  | spec => "spec"
  | schema => "schema"
  | account => "account"
  | region => "region"
  | branch => "branch"
  | output => "output"
  | dryRun => "dry-run"
  | root => "root-path"
  | token => "repository-token"
  | layerName => "name"
  | logLevel => "log-level"
  | trace => "trace"
  | silent => "silent"
  | help => "help"
  | version => "version"

/-- The letter that stands for a parameter. -/
def letter? : Parameter → Option Char
  | spec => some 's'
  | branch => some 'b'
  | output => some 'o'
  | root => some 'r'
  | layerName => some 'n'
  | logLevel => some 'L'
  | help => some 'h'
  | version => some 'V'
  | _ => none

/-- Whether a value goes with a parameter. -/
def takesValue : Parameter → Bool
  | dryRun | trace | silent | help | version => false
  | _ => true

/-- The environment variable whose value counts where a parameter is not given. -/
def fallback? : Parameter → Option String
  | account => some "CDK_DEFAULT_ACCOUNT"
  | region => some "CDK_DEFAULT_REGION"
  | token => some "WEBSYS_REPOSITORY_TOKEN"
  | _ => none

/-- The environment variables that parameters fall back on. -/
def withFallback : List String := [account, region, token].filterMap fallback?

/-- The parameters that may stand before a command and behind it. -/
def general : List Parameter := [logLevel, trace, silent, help]

/-- The parameters that say where to deploy. -/
def target : List Parameter := [account, region, branch]

end Parameter

/-- The parameters that may stand behind a command. -/
def Command.parameters (c : Command) : List Parameter :=
  (match c with
    | synth => [.spec, .schema, .output, .dryRun, .root, .token]
    | validate => [.spec, .schema]
    | layer => [.layerName]) ++ Parameter.target ++ Parameter.general

/-- The parameters that may stand before the command. -/
def leading : List Parameter := Parameter.general ++ [.version]

end ServicePlan.CommandLine
