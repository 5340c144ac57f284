import ServicePlan.CommandLine.Run
import ServicePlan.Spec.Paths

/-!
# Files that a request reads

A request names the spec and the schema, and the spec names all other files.  So the files can be
fetched in two rounds before the request runs.
-/

namespace ServicePlan.CommandLine

/-- The files that a request names itself. -/
def Request.named (r : Request) : List String :=
  match r.task with
  | .synth subject _ _ _ | .validate subject => subject.spec :: subject.schema.toList
  | .layer _ _ => []

/-- The files that the spec of a request names, once the spec and the schema are known. -/
def Request.referred (r : Request) (files : Files) : List String :=
  match r.task with
  | .synth subject _ root _ =>
    match subject.read files with
    | .error _ => []
    | .ok (raw, o) =>
      match (prepare raw o).result with
      | .error _ => []
      | .ok spec => spec.paths.map (Path.resolve root)
  | .validate _ | .layer _ _ => []

/-- What is known about files after some of them have been fetched. -/
def filesOf (fetched : List (String × Except FileFailure String)) : Files := fun path =>
  (fetched.lookup path).getD (.error .notFound)

end ServicePlan.CommandLine
