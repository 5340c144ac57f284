/-!
# File paths

Paths are texts with components between slashes.  A path that starts with a slash is absolute;
any other path is relative and may be resolved against a root.

* `Path.join`: a path as seen from a directory.
* `Path.fileName?`: the last component, if it names an entry of a directory.
* `Path.components`: the steps of a walk along the path.
-/

namespace ServicePlan.Path

/-- Whether a path does not depend on where it is looked up. -/
def isAbsolute (path : String) : Bool := path.toList.head? == some '/'

/-- A path as seen from a directory: an absolute path is kept, and a relative one is put behind
the directory, with a slash between them unless the directory ends in one or is empty. -/
def join (dir path : String) : String :=
  if isAbsolute path then path
  else if dir.toList.getLast? = some '/' ∨ dir = "" then dir ++ path
  else dir ++ "/" ++ path

/-- A path of a spec, resolved against the root if there is one. -/
def resolve (root : Option String) (path : String) : String :=
  match root with
  | some root => join root path
  | none => path

/-- The texts between the slashes of a path, in reverse order, where `current` holds the
characters of the one being collected, in reverse order. -/
def splitFrom (current : List Char) (done : List String) : List Char → List String
  | [] => String.ofList current.reverse :: done
  | c :: rest =>
    if c = '/' then splitFrom [] (String.ofList current.reverse :: done) rest
    else splitFrom (c :: current) done rest

/-- The components of a path, without empty ones and without those that stay where they are. -/
def components (path : String) : List String :=
  (splitFrom [] [] path.toList).reverse.filter fun c => c != "" && c != "."

/-- The name that a path ends in, unless it ends in a step upwards or has no component. -/
def fileName? (path : String) : Option String :=
  match (components path).getLast? with
  | some name => if name = ".." then none else some name
  | none => none

end ServicePlan.Path
