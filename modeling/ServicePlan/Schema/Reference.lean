import ServicePlan.Schema.Draft
import ServicePlan.Uri.Resolve

/-!
# References in schema documents

A reference names a resource and, behind a hash sign, a part of it: by the steps that lead there or
by an anchor.  A name without a scheme counts from the base of the place where it stands.

* `ReferenceFault`: why a reference leads nowhere.
* `completeReference`: the full name of a reference, as seen from a base.
* `Pointer.steps`, `Pointer.step`: the steps of a pointer.
-/

namespace ServicePlan.Schema

/-- Why a reference leads nowhere. -/
inductive ReferenceFault
  /-- The resource has no such part. -/
  | noPart (pointer : String)
  /-- An item is not named by its position. -/
  | badIndex (step pointer : String)
  /-- The percent escapes do not make up a text. -/
  | badEscape (pointer : String)
  /-- The resource has no such anchor. -/
  | noAnchor (name : String)
  /-- A name cannot be that of an anchor. -/
  | badAnchor (name : String)
  /-- The resource is none of the document, and none of those that are always known. -/
  | notKnown (resource : Uri)
  /-- The resource has not been looked for when all resources were gathered. -/
  | notGathered (resource : Uri)
  /-- The text is no name of a resource. -/
  | malformed (text : String) (fault : Uri.Fault)
  /-- Relative names cannot be seen from the base. -/
  | opaqueBase (text : String) (base : Uri)
  deriving DecidableEq, Repr

/-- The name under which a resource is asked for over a network. -/
def requestName (resource : Uri) : String :=
  (if resource.path = "" then { resource with path := "/" } else resource).text

/-- Why a resource outside of the document is not looked up: nothing is fetched over a network. -/
def refusal (resource : Uri) : String :=
  match resource.scheme with
  | some "http" | some "https" => s!"error sending request for url ({requestName resource})"
  | some "file" => "No such file or directory (os error 2)"
  | some scheme => s!"Unknown scheme {scheme}"
  | none => "Unknown scheme"

/-- What is said of a resource that is not there. -/
def absence (resource : Uri) (reason : String) : String :=
  "Resource '" ++ resource.text ++ "' is not present in a registry and retrieving it failed: " ++
    reason

/-- The wording of a fault. -/
def ReferenceFault.message : ReferenceFault → String
  | noPart pointer => "Pointer '" ++ pointer ++ "' does not exist"
  | badIndex step pointer =>
    "Failed to parse array index '" ++ step ++ "' in pointer '" ++ pointer ++ "'"
  | badEscape pointer =>
    "Invalid percent encoding in pointer '" ++ pointer ++
      "': the decoded bytes do not represent valid UTF-8"
  | noAnchor name => "Anchor '" ++ name ++ "' does not exist"
  | badAnchor name => "Anchor '" ++ name ++ "' is invalid"
  | notKnown resource => absence resource (refusal resource)
  | notGathered resource =>
    absence resource "Retrieving external resources is not supported once the registry is populated"
  | malformed text fault => "Invalid URI reference '" ++ text ++ "': " ++ fault.message
  | opaqueBase text base =>
    "Failed to resolve '" ++ text ++ "' against '" ++ base.text ++
      "': relative reference must be empty or start with '#' when resolved against " ++
      "authority-less base URI/IRI with rootless path"

/-! ## Names -/

/-- The base of documents without a name. -/
def defaultBase : Uri := ⟨some "json-schema", some ⟨none, "", none⟩, "/", none, none⟩

/-- The full name of a reference, as seen from a base. -/
def completeReference (base : Uri) (text : String) : Except ReferenceFault Uri :=
  if text.toList.head? = some '#' ∧ text.toList.isSuffixOf base.text.toList then .ok base
  else
    match Uri.read text with
    | .error fault => .error (.malformed text fault)
    | .ok u =>
      match base.complete? u with
      | some u => .ok u.normal
      | none => .error (.opaqueBase text base)

/-- The full name that a document gives itself. -/
def completeName (text : String) : Except ReferenceFault Uri :=
  match Uri.read text with
  | .error fault => .error (.malformed text fault)
  | .ok u => .ok (if u.scheme.isSome then u.normal else (defaultBase.complete? u.normal).getD u)

/-- A reference cut at its last hash sign. -/
def splitReference (text : String) : String × String :=
  let chars := text.toList.reverse
  match chars.idxOf? '#' with
  | some i =>
    (String.ofList (chars.drop (i + 1)).reverse, String.ofList (chars.take i).reverse)
  | none => (text, "")

/-! ## Pointers -/

namespace Pointer

/-- A step of a pointer without its escapes. -/
def unescape : List Char → List Char
  | '~' :: '1' :: rest => '/' :: unescape rest
  | '~' :: '0' :: rest => '~' :: unescape rest
  | c :: rest => c :: unescape rest
  | [] => []

/-- The steps behind the first slash of a pointer. -/
def steps (pointer : String) : List String := (Uri.segments pointer).drop 1

/-- Number of positions that can be told apart. -/
def positions : Nat := 18446744073709551616

/-- The position that a step names. -/
def position? (step : String) : Option Nat :=
  let digits := if step.toList.head? = some '+' then step.toList.drop 1 else step.toList
  if digits.isEmpty || !digits.all Char.isDigit then none
  else
    let n := digits.foldl (fun n c => n * 10 + (c.toNat - 48)) 0
    if n < positions then some n else none

/-- The part of a value that a step leads to; `pointer` is the whole pointer. -/
def step (pointer step : String) : Json → Except ReferenceFault Json
  | .array a =>
    match position? step with
    | none => .error (.badIndex step pointer)
    | some n =>
      match a[n]? with
      | some v => .ok v
      | none => .error (.noPart pointer)
  | v =>
    match v.member? (String.ofList (unescape step.toList)) with
    | some v => .ok v
    | none => .error (.noPart pointer)

/-- The part of a value that a pointer leads to, if there is one. -/
def find? (pointer : String) (v : Json) : Option Json :=
  if pointer.toList.head? = some '/' then
    (steps pointer).foldlM (fun v s => (step pointer s v).toOption) v
  else none

end Pointer

end ServicePlan.Schema
