import ServicePlan.Path

/-!
# Files

A `FileTree` is a root directory with all that is below it, and the place of the working directory
in it.  Reading and writing walk along the components of a path, from the root if the path is
absolute and from the working directory if it is not; a walk fails where a component is missing or
is not a directory.

* `FileFailure`: why a file cannot be read or written, and its text.
* `FileTree.read`: the text of a file.
* `FileTree.write`: the tree in which a file has a new text.
-/

namespace ServicePlan

/-- Why a file cannot be read or written. -/
inductive FileFailure
  | notFound
  | notDirectory
  | isDirectory
  | nameTooLong
  | denied
  | nulInPath
  | notText
  /-- A failure with a text of its own. -/
  | other (message : String)
  deriving DecidableEq, Repr

/-- The text of a failure. -/
def FileFailure.message : FileFailure → String
  | notFound => "No such file or directory (os error 2)"
  | notDirectory => "Not a directory (os error 20)"
  | isDirectory => "Is a directory (os error 21)"
  | nameTooLong => "File name too long (os error 36)"
  | denied => "Permission denied (os error 13)"
  | nulInPath => "file name contained an unexpected NUL byte"
  | notText => "stream did not contain valid UTF-8"
  | other message => message

/-- What a directory entry holds. -/
inductive FileNode
  /-- A file that holds a text. -/
  | text (content : String)
  /-- A file whose bytes are not a text. -/
  | bytes (content : List UInt8)
  /-- A directory. -/
  | directory (entries : List (String × FileNode))
  deriving Inhabited

/-- What is at a place below a node; a place is a list of names, the topmost first. -/
def FileNode.below? : FileNode → List String → Option FileNode
  | node, [] => some node
  | directory entries, name :: names => (entries.lookup name).bind fun node => node.below? names
  | _, _ :: _ => none

/-- All files and directories, as a command sees them that runs in one of the directories. -/
structure FileTree where
  /-- The entries of the root directory. -/
  entries : List (String × FileNode)
  /-- The place of the working directory. -/
  home : List String
  /-- The places that must not be changed: no file can be made in such a directory, and no text put
  into such a file. -/
  locked : List (List String) := []

namespace FileTree

/-- An empty working directory below a root directory in which no file can be made. -/
def empty : FileTree where
  entries := [("home", .directory [("work", .directory [])])]
  home := ["home", "work"]
  locked := [[]]

/-- What is at a place. -/
def node? (t : FileTree) (place : List String) : Option FileNode :=
  (FileNode.directory t.entries).below? place

/-- The node of some bytes, which hold a text if they are valid UTF-8. -/
def nodeOfBytes (content : List UInt8) : FileNode :=
  match String.fromUTF8? ⟨content.toArray⟩ with
  | some s => .text s
  | none => .bytes content

/-- The entries in which `node` is at a place; directories on the way are made. -/
def place (node : FileNode) : List String → List (String × FileNode) → List (String × FileNode)
  | [], entries => entries
  | [name], entries => entries.filter (·.1 != name) ++ [(name, node)]
  | name :: names, entries =>
    let inner := match entries.lookup name with
      | some (.directory inner) => inner
      | _ => []
    entries.filter (·.1 != name) ++ [(name, .directory (place node names inner))]

/-! ## Walks -/

/-- Where a walk ends: at a file, or at a directory with the directories above it, the nearest
first. -/
inductive Spot
  | file (node : FileNode)
  | directory (entries : List (String × FileNode)) (above : List (List (String × FileNode)))

/-- Number of bytes that a component may have. -/
def maxNameLength : Nat := 255

/-- Number of bytes that a path may have. -/
def maxPathLength : Nat := 4095

/-- Walks along the components of a path.  Above the root directory is the root directory itself. -/
def walk : List String → Spot → Except FileFailure Spot
  | [], spot => .ok spot
  | _ :: _, .file _ => .error .notDirectory
  | name :: steps, .directory entries above =>
    if name = ".." then
      match above with
      | [] => walk steps (.directory entries [])
      | outer :: above => walk steps (.directory outer above)
    else if maxNameLength < name.utf8ByteSize then .error .nameTooLong
    else
      match entries.lookup name with
      | none => .error .notFound
      | some (.directory inner) => walk steps (.directory inner (entries :: above))
      | some node => walk steps (.file node)

/-- The root directory, where all walks start. -/
def root (t : FileTree) : Spot := .directory t.entries []

/-- The steps of a walk along a path: one that is not absolute is looked up in the working
directory. -/
def steps (t : FileTree) (path : String) : List String :=
  if Path.isAbsolute path then Path.components path else t.home ++ Path.components path

/-- The tree with one more file or directory; the directories on the way are made. -/
def add (t : FileTree) (path : String) (node : FileNode) : FileTree :=
  match node, t.node? (t.steps path) with
  | .directory _, some _ => t
  | _, _ => { t with entries := place node (t.steps path) t.entries }

/-- Whether a path names a directory by its form. -/
def namesDirectory (path : String) : Bool :=
  match (Path.splitFrom [] [] path.toList).head? with
  | some last => last == "" || last == "." || last == ".."
  | none => true

/-- Whether a path ends in a step that stays where it is, which only directories have. -/
def endsInPlace (path : String) : Bool :=
  ((Path.splitFrom [] [] path.toList).find? (· != "")) == some "."

/-- Why a path cannot be walked along at all, if so. -/
def refused? (path : String) : Option FileFailure :=
  if path.toList.contains '\x00' then some .nulInPath
  else if maxPathLength < path.utf8ByteSize then some .nameTooLong
  else if path = "" then some .notFound
  else none

/-! ## Reading -/

/-- What a path leads to. -/
def find (t : FileTree) (path : String) : Except FileFailure Spot :=
  match refused? path with
  | some failure => .error failure
  | none => do
    match ← walk (t.steps path) t.root with
    | .file node => if namesDirectory path then .error .notDirectory else .ok (.file node)
    | spot => .ok spot

/-- The text of the file at a path. -/
def read (t : FileTree) (path : String) : Except FileFailure String := do
  match ← t.find path with
  | .file (.text s) => .ok s
  | .file _ => .error .notText
  | .directory _ _ => .error .isDirectory

/-! ## Writing -/

/-- The entries in which the file at a place holds a text.  A file is made if its directory is
there. -/
def writeIn (content : String) :
    List String → List (String × FileNode) → Except FileFailure (List (String × FileNode))
  | [], _ => .error .isDirectory
  | [name], entries =>
    if maxNameLength < name.utf8ByteSize then .error .nameTooLong
    else
      match entries.lookup name with
      | some (.directory _) => .error .isDirectory
      | _ => .ok (place (.text content) [name] entries)
  | name :: names, entries =>
    if maxNameLength < name.utf8ByteSize then .error .nameTooLong
    else
      match entries.lookup name with
      | none => .error .notFound
      | some (.directory inner) => do
        let inner ← writeIn content names inner
        .ok (place (.directory inner) [name] entries)
      | some _ => .error .notDirectory

/-- The place that steps lead to from the root.  A step upwards undoes the step before it, which has
to lead to a directory; at the root there is none to undo. -/
def straighten (t : FileTree) : List String → List String → Except FileFailure (List String)
  | done, [] => .ok done.reverse
  | done, name :: steps =>
    if name = ".." then do
      match ← walk done.reverse t.root with
      | .directory _ _ => straighten t (done.drop 1) steps
      | .file _ => .error .notDirectory
    else straighten t (name :: done) steps

/-- Whether the file at a place may get a text: one that is there must not be locked itself, and one
that is new must not be in a locked directory. -/
def permits (t : FileTree) (place : List String) : Bool :=
  match t.node? place with
  | some _ => !t.locked.contains place
  | none => !t.locked.contains place.dropLast

/-- The tree in which the file at a path holds a text.  A path that names a directory by its form
is refused. -/
def write (t : FileTree) (path content : String) : Except FileFailure FileTree :=
  match refused? path with
  | some failure => .error failure
  | none => do
    let place ← t.straighten [] (t.steps path)
    if namesDirectory path then
      match ← walk (if endsInPlace path then place else place.dropLast) t.root with
      | .directory _ _ => .error .isDirectory
      | .file _ => .error .notDirectory
    else do
      let entries ← writeIn content place t.entries
      if t.permits place then .ok { t with entries } else .error .denied

end FileTree

end ServicePlan
