import ServicePlan.Resource

/-!
# Registry keys

Phases hand resources on to later phases through a registry.  An entry has a kind, belongs to one
branch or to all of them, and has a logical key.  Entries of most kinds may only be read once the
phase that writes them is complete.
-/

namespace ServicePlan.Registry

/-- The kinds of entries. -/
inductive Kind
  /-- A topic, by its topic key. -/
  | topic
  /-- The login client of an app, by the app name. -/
  | authClient
  /-- The HTTP api, by the api name. -/
  | gateway
  /-- A function, by its key. -/
  | function
  deriving DecidableEq, Repr

namespace Kind

/-- The phase that has to be complete before entries of a kind are read.  The functions of a
branch are read by the batch jobs of the same branch while other branches are still to come, so
they wait for no phase. -/
def owner? : Kind → Option Phase
  | topic => some .messaging
  | authClient => some .frontend
  | gateway => some .gateway
  | function => none

/-- What an entry of a kind is called. -/
def noun : Kind → String
  | topic => "topic"
  | authClient => "auth client of app"
  | gateway => "gateway"
  | function => "lambda"

/-- The label of a kind. -/
def label : Kind → String
  | topic => "Topic"
  | authClient => "AuthClient"
  | gateway => "Gateway"
  | function => "Function"

/-- All kinds. -/
def all : List Kind := [topic, authClient, gateway, function]

/-- The kind of a label. -/
def ofLabel? (label : String) : Option Kind := (all.map fun k => (k.label, k)).lookup label

end Kind

/-- What a registry entry is found by. -/
structure Key where
  /-- The kind of the entry. -/
  kind : Kind
  /-- The branch it belongs to; all branches share an entry without one. -/
  branch : Option String
  /-- The logical key. -/
  key : String
  deriving DecidableEq, Repr

/-- The key as messages show it. -/
def Key.describe (k : Key) : String :=
  match k.branch with
  | none => k.kind.noun ++ " '" ++ k.key ++ "'"
  | some branch => k.kind.noun ++ " '" ++ k.key ++ "' of branch '" ++ branch ++ "'"

end ServicePlan.Registry
