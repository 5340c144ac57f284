import ServicePlan.Fault
import ServicePlan.Placeholder

/-!
# Policy fragments

A policy fragment is a JSON document with placeholders, which are replaced before the text is
read.  A fragment is named after its file.
-/

namespace ServicePlan

/-- What is known about the files that a spec refers to. -/
abbrev Files := String → Except FileFailure String

/-- A policy document of one branch. -/
structure PolicyFragment where
  /-- The name of the policy. -/
  name : String
  /-- The document. -/
  document : Json

namespace PolicyFragment

/-- Reads a fragment from its text, in which placeholders are replaced first. -/
def parse (name text : String) (b : Bindings) : Except Fault PolicyFragment :=
  match Json.read (b.substitute text) with
  | .ok document => .ok ⟨name, document⟩
  | .error e => .error (.policyText name e)

/-- The name of the fragment at a path. -/
def nameOf (path : String) : String := (Path.fileName? path).getD path

/-- Reads a fragment from a file. -/
def load (files : Files) (path : String) (b : Bindings) : Except Fault PolicyFragment :=
  match files path with
  | .ok text => parse (nameOf path) text b
  | .error f => .error (.unreadablePolicy path f)

end PolicyFragment

end ServicePlan
