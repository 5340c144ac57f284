import ServicePlan.Policy
import ServicePlan.Yaml.Reader

/-!
# Routes of api documents

An api document maps paths to items, and an item maps methods to operations.  Each operation is a
route, known by its method and its path.

* `Route.methods`: the names of operations; other names of an item are not routes.
* `Route.ofYaml`, `Route.ofText`, `Route.ofFile`: the route keys of a document, in its order.
-/

namespace ServicePlan.Route

/-- The methods of operations. -/
def methods : List String := ["GET", "PUT", "POST", "DELETE", "OPTIONS", "HEAD", "PATCH", "TRACE"]

/-- The method that a member of an item is about, however its letters are cased. -/
def method? (name : String) : Option String :=
  let upper := String.ofList (name.toList.map Char.toUpper)
  if methods.contains upper then some upper else none

/-- The key of a route. -/
def key (method path : String) : String := method ++ " " ++ path

/-- The routes of an item, in the order of its members. -/
def ofItem (path : String) (item : Yaml) : List String :=
  match item.entries? with
  | some members => (members.filterMap fun e => e.1.text?.bind method?).map fun m => key m path
  | none => []

/-- The routes of paths, in their order; a path has to be a string. -/
def ofPaths : List (Yaml × Yaml) → Except Fault (List String)
  | [] => .ok []
  | (path, item) :: rest =>
    match path.text? with
    | none => .error (.pathKey path.shown)
    | some text => (ofPaths rest).map fun routes => ofItem text item ++ routes

/-- The routes of a document. -/
def ofYaml (document : Yaml) : Except Fault (List String) :=
  match (document.get? "paths").bind Yaml.entries? with
  | some paths => ofPaths paths
  | none => .error .noPaths

/-- The routes of the document that a text holds. -/
def ofText (text : String) : Except Fault (List String) :=
  match Yaml.read text with
  | some document => ofYaml document
  | none => .error .yaml

/-- The routes of the document in a file. -/
def ofFile (files : Files) (path : String) : Except Fault (List String) :=
  match files path with
  | .ok text => ofText text
  | .error f => .error (.unreadableRoutes path f)

end ServicePlan.Route
