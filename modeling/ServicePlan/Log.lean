/-!
# Log records

What is done for a spec is recorded in a log.  A record has a level and a text.
-/

namespace ServicePlan

/-- The levels of log records, from the gravest on. -/
inductive Level
  | error
  | warn
  | info
  | debug
  | trace
  deriving DecidableEq, Repr

/-- How far a level is from the gravest. -/
def Level.rank : Level → Nat
  | error => 0
  | warn => 1
  | info => 2
  | debug => 3
  | trace => 4

/-- The word for a level. -/
def Level.label : Level → String
  | error => "error"
  | warn => "warn"
  | info => "info"
  | debug => "debug"
  | trace => "trace"

/-- All levels, from the gravest on. -/
def Level.all : List Level := [error, warn, info, debug, trace]

/-- The level of a word. -/
def Level.ofLabel? (label : String) : Option Level := Level.all.find? fun l => l.label == label

/-- A record of the log. -/
structure Record where
  /-- How grave it is. -/
  level : Level
  /-- What happened. -/
  text : String
  deriving DecidableEq, Repr

end ServicePlan
