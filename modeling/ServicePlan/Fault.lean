import ServicePlan.FileTree
import ServicePlan.Json.Decode
import ServicePlan.Json.Reader
import ServicePlan.Registry.Key
import ServicePlan.Schema.Document
import ServicePlan.Text.LowerCase

/-!
# Faults

Everything that can end the work on a spec is a `Fault`: one constructor for each cause, with the
names that the cause is about.  Causes are grouped into kinds, and the wording of a fault starts
with a text for its kind.

* `Fault.kind`: the kind of a cause.
* `Fault.detail`, `Fault.message`: the wording, without and with the text for the kind.
-/

namespace ServicePlan

/-- The kinds of faults. -/
inductive FaultKind
  /-- A document does not have the form it has to have. -/
  | form
  /-- A name refers to something that is not there. -/
  | reference
  /-- Something outside of the spec is needed and missing. -/
  | prerequisite
  /-- A service outside has no answer. -/
  | lookup
  /-- A name is none of a fixed set of names. -/
  | identifier
  /-- An entry is read before its phase is complete. -/
  | order
  /-- Two things have one name. -/
  | duplicate
  /-- A file cannot be written. -/
  | file
  /-- A JSON text or value does not hold what it should. -/
  | json
  /-- A YAML text is not well formed. -/
  | yaml
  /-- A plan would not be in order. -/
  | internal
  deriving DecidableEq, Repr

/-- Why there is no result. -/
inductive Fault
  /-- The text of a spec is not JSON. -/
  | specText (error : Json.ReadError)
  /-- A name that has to be known before anything else is missing or empty. -/
  | blankName (field : String)
  /-- A document that keeps the schema is no spec all the same. -/
  | specShape (error : DecodeError)
  /-- A spec has an empty name. -/
  | emptyName (field : String)
  /-- A spec has no branches. -/
  | noBranch
  /-- The schema itself cannot be used. -/
  | schemaDocument (fault : Schema.DocumentFault)
  /-- A document breaks the schema. -/
  | violations (violations : List Schema.Violation)
  /-- The text of a policy fragment is not JSON. -/
  | policyText (name : String) (error : Json.ReadError)
  /-- An api document lists no paths. -/
  | noPaths
  /-- An api document has a path, shown as a value, that is not a string. -/
  | pathKey (shown : String)
  /-- An integration has no routes. -/
  | noRoutes (key : String)
  /-- A visibility timeout is too large. -/
  | timeoutOverflow (timeout additional : Int)
  /-- A function is named that the spec does not have. -/
  | unknownFunction (key requestedBy : String)
  /-- Messages are sent on to a function without a queue. -/
  | noQueue (key sender : String)
  /-- Messages are sent on in a circle. -/
  | queueCycle (keys : List String)
  /-- A layer is named that the spec does not have. -/
  | unknownLayer (id requestedBy : String)
  /-- A user pool is named that the spec does not have. -/
  | unknownUser (user requestedBy : String)
  /-- A registry entry is missing. -/
  | unregistered (key : Registry.Key) (requestedBy : String)
  /-- Front-end apps need a repository token. -/
  | noRepositoryToken
  /-- Front-end apps need a repository root. -/
  | noRepositoryRoot
  /-- An api document cannot be read. -/
  | unreadableRoutes (path : String) (failure : FileFailure)
  /-- A policy fragment cannot be read. -/
  | unreadablePolicy (path : String) (failure : FileFailure)
  /-- The schema of the test events of a function cannot be read. -/
  | unreadableTest (path function : String) (failure : FileFailure)
  /-- A layer has no version. -/
  | unpublishedLayer (name : String)
  /-- Asking for a layer fails. -/
  | lookupFailed (name reason : String)
  /-- A region does not exist. -/
  | unknownRegion (name : String)
  /-- A runtime does not exist. -/
  | unknownRuntime (name : String)
  /-- A registry entry is read before its phase is complete. -/
  | readTooEarly (key : Registry.Key) (owner : Phase) (requestedBy : String)
  /-- A plan lists a resource already. -/
  | emittedTwice (handle : Handle)
  /-- The registry has an entry already. -/
  | registeredTwice (key : Registry.Key)
  /-- A resource depends on one that the plan does not list yet. -/
  | missingDependency (handle missing : Handle)
  /-- A file cannot be written. -/
  | file (failure : FileFailure)
  /-- A JSON text or value does not hold what it should. -/
  | json (error : Json.ReadError)
  /-- A YAML text is not well formed. -/
  | yaml

/-- The text that starts the messages of a kind. -/
def FaultKind.heading : FaultKind → String
  | form => "Schema error: "
  | reference => "Referential integrity error: "
  | prerequisite => "Missing prerequisite: "
  | lookup => "External lookup error: "
  | identifier => "Unknown identifier: "
  | order => "Phase order violation: "
  | duplicate => "Duplicate resource: "
  | file => "IO error: "
  | json => "serde_json error: "
  | yaml => "serde_yaml error: "
  | internal => "Internal error: "

/-- The text that ends the messages of a kind. -/
def FaultKind.closing : FaultKind → String
  | internal =>
    ". This was likely caused by a bug in Websys's code and we would welcome that you file an " ++
      "bug report in our issue tracker"
  | _ => ""

namespace Fault

/-- The kind of a fault. -/
def kind : Fault → FaultKind
  | specText _ | blankName _ | specShape _ | emptyName _ | noBranch | schemaDocument _
  | violations _ | policyText _ _ | noPaths | pathKey _ | noRoutes _ | timeoutOverflow _ _ => .form
  | unknownFunction _ _ | noQueue _ _ | queueCycle _ | unknownLayer _ _ | unknownUser _ _
  | unregistered _ _ => .reference
  | noRepositoryToken | noRepositoryRoot | unreadableRoutes _ _ | unreadablePolicy _ _
  | unreadableTest _ _ _ => .prerequisite
  | unpublishedLayer _ | lookupFailed _ _ | unknownRegion _ => .lookup
  | unknownRuntime _ => .identifier
  | readTooEarly _ _ _ => .order
  | emittedTwice _ | registeredTwice _ => .duplicate
  | missingDependency _ _ => .internal
  | file _ => .file
  | json _ => .json
  | yaml => .yaml

/-- The wording of a fault without the text for its kind. -/
def detail : Fault → String
  | specText e => "spec is not valid JSON: " ++ e.message
  | blankName field => s!"`{field}` must be a non-empty string"
  | specShape e => "malformed service spec: " ++ e.message
  | emptyName field => s!"`{field}` is empty"
  | noBranch => "`branch` must declare at least one branch"
  | schemaDocument f => "invalid schema document: " ++ f.message
  | violations list => "\n".intercalate (list.map (·.message))
  | policyText name e => s!"policy fragment '{name}' is not valid JSON: " ++ e.message
  | noPaths => "openapi document has no `paths` map"
  | pathKey shown => s!"openapi path {shown} is not a string"
  | noRoutes key => s!"integration `{key}` needs `route` or `route_openapi`"
  | timeoutOverflow timeout additional =>
    s!"visibility timeout overflows: timeout {timeout} + additional_timeout {additional}"
  | unknownFunction key requestedBy => s!"lambda '{key}' spec not found: requested by {requestedBy}"
  | noQueue key sender =>
    s!"lambda '{key}' spec should have `queue` key: requested by queue_next of `{sender}`"
  | queueCycle keys => "queue_next chain forms a cycle: " ++ " -> ".intercalate keys
  | unknownLayer id requestedBy =>
    s!"layer '{id}' is not declared in ref.lambda_layer: requested by {requestedBy}"
  | unknownUser user requestedBy =>
    s!"cognito user '{user}' is not declared in ref.cognito: requested by {requestedBy}"
  | unregistered key requestedBy => s!"{key.describe} not found: requested by {requestedBy}"
  | noRepositoryToken => "need repository_token of github for amplify"
  | noRepositoryRoot => "need repository_root of github for amplify"
  | unreadableRoutes path f => s!"cannot read openapi document {path}: {f.message}"
  | unreadablePolicy path f => s!"cannot read policy fragment {path}: {f.message}"
  | unreadableTest path function f =>
    s!"cannot read test event schema {path} of {function}: {f.message}"
  | unpublishedLayer name => s!"layer '{name}' has no published version"
  | lookupFailed name reason => s!"layer '{name}': {reason}"
  | unknownRegion name =>
    s!"region '{name}': Not a valid AWS region: " ++ Text.lower name
  | unknownRuntime name => s!"runtime '{name}'"
  | readTooEarly key owner requestedBy =>
    s!"{key.describe} read before the {owner.label} phase completed: requested by {requestedBy}"
  | emittedTwice h => s!"{h.text} is emitted twice"
  | registeredTwice key => s!"{key.describe} is registered twice"
  | missingDependency h missing => s!"{h.text} depends on {missing.text} which is not emitted yet"
  | file f => f.message
  | json e => "Error(" ++ Text.quote e.flaw.message ++ s!", line: {e.line}, column: {e.column})"
  | yaml => "the document is not well formed"

/-- The wording of a fault. -/
def message (f : Fault) : String := f.kind.heading ++ f.detail ++ f.kind.closing

/-- A value that does not decode, as a fault without a place. -/
def ofDecode (e : DecodeError) : Fault := json ⟨.unsuitable e.message, 0, 0⟩

end Fault

end ServicePlan
