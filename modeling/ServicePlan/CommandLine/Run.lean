import ServicePlan.CommandLine.Request
import ServicePlan.Plan.Sink
import ServicePlan.Region
import ServicePlan.Synthesis

/-!
# Running requests

A request reads files, works on what it read and leaves a text: on the standard output, or in one
file.  Nothing is written before the work is done, so a request that fails leaves no text behind.

* `Failure`: why a request fails, and its text.
* `planOf`, `verdict`, `layerArnOf`: the work of the commands.
* `Request.run`: a run, where `write` stands for writing a file.
* `runIn`: a run in a working directory.
-/

namespace ServicePlan.CommandLine

/-! ## Failures -/

/-- Why a request fails. -/
inductive Failure
  /-- The spec cannot be read. -/
  | unreadableSpec (path : String) (failure : FileFailure)
  /-- The schema cannot be read. -/
  | unreadableSchema (path : String) (failure : FileFailure)
  /-- The text of the schema is not JSON. -/
  | schemaText (error : Json.ReadError)
  /-- No account is given. -/
  | noAccount
  /-- The file for the plan cannot be made. -/
  | uncreated (path : String) (failure : FileFailure)
  /-- The work itself fails. -/
  | fault (fault : Fault)

namespace Failure

/-- The wording of a failure. -/
def message : Failure → String
  | unreadableSpec path _ => s!"failed to read spec {path}"
  | unreadableSchema path _ => s!"failed to read schema {path}"
  | schemaText e => e.message
  | noAccount => "no AWS account: pass --account or set CDK_DEFAULT_ACCOUNT"
  | uncreated path _ => s!"failed to create {path}"
  | fault f => f.message

/-- What is behind a failure. -/
def cause? : Failure → Option String
  | unreadableSpec _ f | unreadableSchema _ f | uncreated _ f => some f.message
  | schemaText _ | noAccount | fault _ => none

/-- The lines that tell of a failure. -/
def text (f : Failure) : String :=
  match f.cause? with
  | none => s!"Error: {f.message}\n"
  | some cause => s!"Error: {f.message}\n\nCaused by:\n    {cause}\n"

end Failure

/-! ## The work -/

/-- The account and the region to deploy to; the region has a default. -/
def Target.site (t : Target) : Except Failure Deployment :=
  match t.account with
  | some account => .ok ⟨account, t.region.getD Settings.region⟩
  | none => .error .noAccount

/-- The schema at a path. -/
def readSchema (files : Files) (path : String) : Except Failure Json := do
  let text ← (files path).mapError (.unreadableSchema path)
  (Json.read text).mapError .schemaText

/-- The text of the spec with what else is known. -/
def Subject.read (s : Subject) (files : Files) : Except Failure (String × Options) := do
  let raw ← (files s.spec).mapError (.unreadableSpec s.spec)
  let site ← s.target.site
  let schema ← s.schema.mapM (readSchema files)
  .ok (raw, { site, branch := s.target.branch, schema })

/-- What the work ends with, and the log. -/
abbrev Worked (α : Type) := Except Failure α × List Record

/-- The output for a spec.  The region has to be one that exists. -/
def planOf (files : Files) (versions : LayerVersions) (s : Subject) (root token : Option String) :
    Worked Output :=
  let ready : Except Failure (String × Options) := do
    let (raw, o) ← s.read files
    (Region.check o.site.region).mapError .fault
    .ok (raw, { o with root, token })
  match ready with
  | .error f => (.error f, [])
  | .ok (raw, o) =>
    let synthesis := synthesize raw o versions files
    (synthesis.result.mapError .fault, synthesis.log)

/-- The line that tells that a spec is in order. -/
def approval (s : ServiceSpec) (warnings : List String) : String :=
  s!"[OK] {s.apiName} is valid: {s.branches.size} branches, {s.functions.size} functions, " ++
    s!"{warnings.length} warnings\n"

/-- The approval of a spec. -/
def verdict (files : Files) (s : Subject) : Worked String :=
  match s.read files with
  | .error f => (.error f, [])
  | .ok (raw, o) =>
    let prepared := prepare raw o
    match prepared.result with
    | .error f => (.error (.fault f), prepared.log)
    | .ok spec => (.ok (approval spec prepared.warnings), prepared.log)

/-- The line with the resource name of the latest version of a layer. -/
def layerArnOf (versions : LayerVersions) (name : String) (t : Target) : Except Failure String := do
  let site ← t.site
  (Region.check site.region).mapError .fault
  let version ← (versions [] name).mapError .fault
  .ok ((Naming.mk "" site).layerVersionArn name version ++ "\n")

/-! ## Reports -/

/-- What a run leaves. -/
structure Report where
  /-- The exit code. -/
  code : Nat
  /-- The text on the standard output. -/
  stdout : String
  /-- The text on the standard error output. -/
  stderr : String
  deriving DecidableEq, Repr

/-- The line of a record. -/
def line (r : Record) : String := s!"[{r.level.label}] {r.text}\n"

/-- The lines of the records that are shown. -/
def lines (v : Verbosity) (log : List Record) : String :=
  String.join ((log.filter fun r => v.shows r.level).map line)

/-- The report of a success, with a text for the standard output. -/
def success (v : Verbosity) (log : List Record) (stdout : String) : Report :=
  ⟨0, stdout, lines v log⟩

/-- The report of a failure. -/
def failed (v : Verbosity) (log : List Record) (f : Failure) : Report :=
  ⟨1, "", lines v log ++ f.text⟩

/-- The record that ends the log of a plan that has been written. -/
def closing (o : Output) : Record :=
  ⟨.info, s!"[OK] synthesized {o.plan.size} resources ({o.warnings.length} warnings)"⟩

/-- The text of a plan, as the sink for documents writes it. -/
def planText (p : Plan) : Except Fault String :=
  (p.apply (Sink.document none) {}).map (·.written)

section

variable {m : Type → Type} [Monad m] (write : String → String → m (Except FileFailure Unit))

/-- Brings a plan to where it goes. -/
def deliver (v : Verbosity) (log : List Record) (o : Output) : Destination → m Report
  | .screen =>
    match planText o.plan with
    | .ok text => pure (success v (log ++ [closing o]) text)
    | .error f => pure (failed v log (.fault f))
  | .file path =>
    match planText o.plan with
    | .ok text => do
      match ← write path text with
      | .ok () => pure (success v (log ++ [closing o]) "")
      | .error f => pure (failed v log (.uncreated path f))
    | .error f => pure (failed v log (.fault f))
  | .log =>
    match o.plan.apply Sink.log {} with
    | .ok tally => pure (success v (log ++ tally.log) "")
    | .error f => pure (failed v log (.fault f))

/-- Runs a request. -/
def Request.run (files : Files) (versions : LayerVersions) (r : Request) : m Report :=
  match r.task with
  | .synth subject destination root token =>
    match planOf files versions subject root token with
    | (.ok output, log) => deliver write r.verbosity log output destination
    | (.error f, log) => pure (failed r.verbosity log f)
  | .validate subject =>
    match verdict files subject with
    | (.ok text, log) => pure (success r.verbosity log text)
    | (.error f, log) => pure (failed r.verbosity log f)
  | .layer name target =>
    match layerArnOf versions name target with
    | .ok text => pure (success r.verbosity [] text)
    | .error f => pure (failed r.verbosity [] f)

end

/-! ## Whole command lines -/

/-- The line that tells the version. -/
def versionText : String := "websys 0.3.0\n"

/-- A line of the help text for a parameter. -/
def parameterText (p : Parameter) : String :=
  let letter := match p.letter? with
    | some c => "-" ++ String.singleton c ++ ", "
    | none => ""
  "    " ++ letter ++ "--" ++ p.long ++ (if p.takesValue then " VALUE" else "") ++ "\n"

/-- The help text: the parameters before a command, and the commands with theirs. -/
def helpText : String :=
  "websys COMMAND\n" ++ String.join (leading.map parameterText) ++
    String.join (Command.all.map fun c =>
      "\n" ++ c.word ++ "\n" ++ String.join (c.parameters.map parameterText))

/-- The report of a command line that asks for no work. -/
def Stop.report : Stop → Report
  | misuse => ⟨2, "", helpText⟩
  | help => ⟨0, helpText, ""⟩
  | version => ⟨0, versionText, ""⟩
  | noCommand => ⟨101, "", "a command is required\n"⟩

/-- Runs a command line. -/
def run {m : Type → Type} [Monad m] (write : String → String → m (Except FileFailure Unit))
    (files : Files) (versions : LayerVersions) (environment : List (String × String))
    (words : List String) : m Report :=
  match Request.ofWords environment words with
  | .ok request => request.run write files versions
  | .error stop => pure stop.report

/-- Writes a file of a working directory; one that cannot be written stays as it is. -/
def writeIn (path text : String) : StateM FileTree (Except FileFailure Unit) := fun tree =>
  match tree.write path text with
  | .ok tree => (.ok (), tree)
  | .error f => (.error f, tree)

/-- Runs a command line in a working directory. -/
def runIn (tree : FileTree) (versions : LayerVersions) (environment : List (String × String))
    (words : List String) : Report × FileTree :=
  Id.run ((run writeIn tree.read versions environment words).run tree)

end ServicePlan.CommandLine
