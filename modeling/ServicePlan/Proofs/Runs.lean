import ServicePlan.CommandLine.Run
import ServicePlan.Proofs.FileTree
import ServicePlan.Proofs.PlanText

/-!
# What a run leaves

A run leaves a text on the standard output or in a file, and only if its work is done.  A run that
fails leaves no text and no file changed, whatever it was asked for.

* `planOf_eq_ok_iff`: when there is a plan.
* `mentionsOf?`: what a command line says behind its command.
* `Ends`: the ways for a run of `synth` to end.
* `runIn_synth`: every run of `synth` ends in one of them.
* `no_trace_of_failure`: what any run leaves that fails.
-/

namespace ServicePlan

/-! ## Sinks -/

/-- The sink that records takes all intents. -/
theorem Sink.provisionAll_log (intents : List Intent) (tally : Sink.Tally) :
    ∃ last, Sink.log.provisionAll intents tally = (last, none) := by
  induction intents generalizing tally with
  | nil => exact ⟨tally, rfl⟩
  | cons i rest ih => exact ih _

theorem Plan.exists_apply_log (p : Plan) (tally : Sink.Tally) :
    ∃ last, p.apply Sink.log tally = .ok last := by
  obtain ⟨last, hlast⟩ := Sink.provisionAll_log p.intents tally
  rw [apply, handTo, hlast]
  exact ⟨_, rfl⟩

namespace CommandLine

variable {tree : FileTree} {versions : LayerVersions} {environment : List (String × String)}
  {words : List String}

/-- The text of a plan is its document and a line end. -/
theorem planText_eq (p : Plan) : planText p = .ok (p.encode.pretty ++ "\n") := by
  obtain ⟨page, hpage⟩ := p.exists_apply_document
  rw [planText, hpage, ← Plan.written_of_apply hpage]
  rfl

/-! ## The work -/

/-- There is a plan exactly if the spec can be read, an account is given, the schema can be read,
the region is one that exists and the synthesis goes through. -/
theorem planOf_eq_ok_iff {files : Files} {subject : Subject} {root token : Option String}
    {o : Output} : (planOf files versions subject root token).1 = .ok o ↔
      ∃ raw account schema, files subject.spec = .ok raw ∧ subject.target.account = some account ∧
        subject.schema.mapM (readSchema files) = .ok schema ∧
        Region.check (subject.target.region.getD Settings.region) = .ok () ∧
        (synthesize raw
          { site := ⟨account, subject.target.region.getD Settings.region⟩
            branch := subject.target.branch, root, token, schema } versions files).result =
          .ok o := by
  rw [planOf, Subject.read, Target.site]
  cases hraw : files subject.spec with
  | error f => simp [bind, Except.bind, Except.mapError]
  | ok raw =>
    cases haccount : subject.target.account with
    | none => simp [bind, Except.bind, Except.mapError]
    | some account =>
      cases hschema : subject.schema.mapM (readSchema files) with
      | error f => simp [bind, Except.bind, Except.mapError]
      | ok schema =>
        cases hregion : Region.check (subject.target.region.getD Settings.region) with
        | error f => simp [bind, Except.bind, Except.mapError, hregion]
        | ok _ =>
          simp [bind, Except.bind, Except.mapError.eq_2, hregion, Json.mapError_eq_ok_iff]

/-! ## Command lines -/

/-- What a command line says behind its command. -/
def mentionsOf? (words : List String) : Option (Command × List Mention) :=
  match readWords leading isCommandWord none words with
  | .ok (_, some (word, rest)) =>
    (Command.ofWord? word).bind fun c =>
      match readWords c.parameters (fun _ => false) none rest with
      | .ok (mentions, _) => some (c, mentions)
      | .error _ => none
  | _ => none

theorem exists_mentions {verbosity : Verbosity} {subject : Subject} {destination : Destination}
    {root token : Option String} (h : Request.ofWords environment words =
      .ok ⟨verbosity, .synth subject destination root token⟩) :
    ∃ mentions, mentionsOf? words = some (.synth, mentions) ∧
      subjectOf (value? environment mentions) = some subject ∧
      destinationOf mentions (value? environment mentions) = some destination ∧
      value? environment mentions .root = root ∧ value? environment mentions .token = token := by
  rw [Request.ofWords] at h
  obtain ⟨⟨before, command⟩, hbefore, h⟩ := Json.exists_of_bind_eq_ok h
  rw [mentionsOf?, hbefore]
  cases command with
  | none => cases h
  | some found =>
    obtain ⟨word, rest⟩ := found
    dsimp only at h ⊢
    cases hcommand : Command.ofWord? word with
    | none => rw [hcommand] at h; cases h
    | some c =>
      rw [hcommand] at h
      obtain ⟨⟨mentions, last⟩, hbehind, h⟩ := Json.exists_of_bind_eq_ok h
      dsimp only at h
      rw [Option.bind_some, hbehind]
      split at h
      · split at h
        · rename_i task htask
          cases h
          cases c with
          | synth =>
            simp only [taskOf, Option.bind_eq_bind, Option.bind_eq_some_iff] at htask
            obtain ⟨subject, hsubject, destination, hdestination, htask⟩ := htask
            cases htask
            exact ⟨mentions, rfl, hsubject, hdestination, rfl, rfl⟩
          | validate =>
            obtain ⟨_, -, htask⟩ := Option.map_eq_some_iff.1 htask
            cases htask
          | layer =>
            obtain ⟨_, -, htask⟩ := Option.map_eq_some_iff.1 htask
            cases htask
        · cases h
      · cases h

/-! ## Runs -/

/-- The ways for a run of `synth` to end, given the file that it is to write, if there is one,
whether it is only to list the plan, and what its work ends with. -/
inductive Ends (tree : FileTree) (output : Option String) (dryRun : Bool) :
    Except Failure Output → Report × FileTree → Prop
  /-- There is no plan, and nothing is left. -/
  | idle {f : Failure} {report : Report} (code : report.code = 1) (silent : report.stdout = "") :
      Ends tree output dryRun (.error f) (report, tree)
  /-- The plan is on the standard output. -/
  | shown {o : Output} {report : Report} (noFile : output = none) (inEarnest : dryRun = false)
      (code : report.code = 0) (text : report.stdout = o.plan.encode.pretty ++ "\n") :
      Ends tree output dryRun (.ok o) (report, tree)
  /-- The plan is in the file. -/
  | stored {o : Output} {report : Report} {path : String} {place : List String} {after : FileTree}
      (toFile : output = some path) (inEarnest : dryRun = false) (code : report.code = 0)
      (silent : report.stdout = "")
      (stored : tree.Stored path (o.plan.encode.pretty ++ "\n") place after) :
      Ends tree output dryRun (.ok o) (report, after)
  /-- The file cannot be written, and nothing is left. -/
  | refused {o : Output} {report : Report} {path : String} {failure : FileFailure}
      (toFile : output = some path) (inEarnest : dryRun = false) (code : report.code = 1)
      (silent : report.stdout = "")
      (failed : tree.write path (o.plan.encode.pretty ++ "\n") = .error failure) :
      Ends tree output dryRun (.ok o) (report, tree)
  /-- The plan is in the log. -/
  | listed {o : Output} {report : Report} (noFile : output = none) (dry : dryRun = true)
      (code : report.code = 0) (silent : report.stdout = "") :
      Ends tree output dryRun (.ok o) (report, tree)

/-- A run that fails leaves nothing. -/
theorem Ends.no_trace {output : Option String} {dryRun : Bool} {result : Except Failure Output}
    {left : Report × FileTree} (h : Ends tree output dryRun result left) (hcode : left.1.code ≠ 0) :
    left.1.stdout = "" ∧ left.2 = tree := by
  cases h with
  | idle code silent => exact ⟨silent, rfl⟩
  | shown noFile inEarnest code text => exact absurd code hcode
  | stored toFile inEarnest code silent stored => exact absurd code hcode
  | refused toFile inEarnest code silent failed => exact ⟨silent, rfl⟩
  | listed noFile dry code silent => exact absurd code hcode

/-- A plan is written to a file, or the file stays as it is. -/
theorem deliver_file (verbosity : Verbosity) (log : List Record) (o : Output) (path : String) :
    (deliver writeIn verbosity log o (.file path)).run tree =
      match tree.write path (o.plan.encode.pretty ++ "\n") with
      | .ok after => (success verbosity (log ++ [closing o]) "", after)
      | .error f => (failed verbosity log (.uncreated path f), tree) := by
  rw [deliver, planText_eq]
  dsimp only [bind, StateT.bind, StateT.run, writeIn]
  cases tree.write path (o.plan.encode.pretty ++ "\n") <;> rfl

/-- A plan ends up where it is to go. -/
theorem ends_deliver {mentions : List Mention} {value : Parameter → Option String}
    {destination : Destination} (h : destinationOf mentions value = some destination)
    (verbosity : Verbosity) (log : List Record) (o : Output) :
    Ends tree (value .output) (gives mentions .dryRun) (.ok o)
      ((deliver writeIn verbosity log o destination).run tree) := by
  rw [destinationOf] at h
  cases hfile : value .output with
  | none =>
    rw [hfile] at h
    cases hdry : gives mentions .dryRun with
    | false =>
      rw [hdry] at h
      cases h
      rw [deliver, planText_eq]
      exact .shown rfl rfl rfl rfl
    | true =>
      rw [hdry] at h
      cases h
      obtain ⟨last, hlast⟩ := o.plan.exists_apply_log {}
      rw [deliver, hlast]
      exact .listed rfl rfl rfl rfl
  | some path =>
    rw [hfile] at h
    cases hdry : gives mentions .dryRun with
    | false =>
      rw [hdry] at h
      cases h
      rw [deliver_file]
      cases hwrite : tree.write path (o.plan.encode.pretty ++ "\n") with
      | error failure => exact .refused rfl rfl rfl rfl hwrite
      | ok after =>
        obtain ⟨place, hstored⟩ := FileTree.stored_of_write hwrite
        exact .stored rfl rfl rfl rfl hstored
    | true =>
      rw [hdry] at h
      cases h

theorem runIn_of_ok {r : Request} (h : Request.ofWords environment words = .ok r) :
    runIn tree versions environment words = (r.run writeIn tree.read versions).run tree := by
  rw [runIn, run, h]
  rfl

/-- A run without a plan leaves nothing, and one with a plan leaves it where it is to go. -/
theorem ends_run {mentions : List Mention} {value : Parameter → Option String}
    {destination : Destination} (h : destinationOf mentions value = some destination)
    (verbosity : Verbosity) (subject : Subject) (root token : Option String) :
    Ends tree (value .output) (gives mentions .dryRun)
      (planOf tree.read versions subject root token).1
      ((Request.run writeIn tree.read versions
        ⟨verbosity, .synth subject destination root token⟩).run tree) := by
  rw [Request.run]
  dsimp only
  cases hplan : planOf tree.read versions subject root token with
  | mk result log =>
    cases result with
    | error f => exact .idle rfl rfl
    | ok o => exact ends_deliver h verbosity log o

/-- **Runs leave a plan or nothing.**  A run of `synth` without a plan leaves nothing on the
standard output and all files as they were.  One with a plan leaves its document on the standard
output or in the file that was named, and changes no other file; if it is only to list the plan, it
leaves nothing. -/
theorem runIn_synth (tree : FileTree) (versions : LayerVersions) {verbosity : Verbosity}
    {subject : Subject} {destination : Destination} {root token : Option String}
    (h : Request.ofWords environment words =
      .ok ⟨verbosity, .synth subject destination root token⟩) :
    ∃ mentions, mentionsOf? words = some (.synth, mentions) ∧
      subjectOf (value? environment mentions) = some subject ∧
      value? environment mentions .root = root ∧ value? environment mentions .token = token ∧
      Ends tree (value? environment mentions .output) (gives mentions .dryRun)
        (planOf tree.read versions subject root token).1
        (runIn tree versions environment words) := by
  obtain ⟨mentions, hmentions, hsubject, hdestination, hroot, htoken⟩ := exists_mentions h
  refine ⟨mentions, hmentions, hsubject, hroot, htoken, ?_⟩
  rw [runIn_of_ok h]
  exact ends_run hdestination verbosity subject root token

/-- The text of a spec with one function. -/
def deskText : String :=
  "\x7b\"service_name\":\"shop\",\"api_name\":\"shop-api\",\"branch\":\x7b\"main\":\x7b\x7d\x7d,\"lambda_handler\":\"run\",\"lambda_func\":\x7b\"cart\":\x7b\x7d\x7d\x7d"

/-- A working directory with the spec, and elsewhere an earlier plan. -/
def desk : FileTree where
  entries := [("desk", .directory [("service.json", .text deskText)]),
    ("plans", .directory [("plan.json", .text "old")])]
  home := ["desk"]

/-- A command line that asks for the plan of the spec in place of the earlier one. -/
def deskWords : List String :=
  ["synth", "--spec", "service.json", "--account", "123456789012", "-o/plans/plan.json"]

/-- The spec that the command line names, and where to deploy. -/
def deskSubject : Subject := ⟨"service.json", none, ⟨some "123456789012", none, none⟩⟩

set_option maxRecDepth 10000 in
/-- The plan of the spec replaces the earlier one. -/
theorem runIn_synth_desk :
    Request.ofWords [] deskWords =
        .ok ⟨.upTo .info, .synth deskSubject (.file "/plans/plan.json") none none⟩ ∧
      ∃ o place, (planOf desk.read (fun _ _ => .ok 1) deskSubject none none).1 = .ok o ∧
        (runIn desk (fun _ _ => .ok 1) [] deskWords).1.stdout = "" ∧
        desk.Stored "/plans/plan.json" (o.plan.encode.pretty ++ "\n") place
          (runIn desk (fun _ _ => .ok 1) [] deskWords).2 := by
  have hwords : Request.ofWords [] deskWords =
      .ok ⟨.upTo .info, .synth deskSubject (.file "/plans/plan.json") none none⟩ := by rfl
  have hplan : (planOf desk.read (fun _ _ => .ok 1) deskSubject none none).1.toOption.isSome =
      true := by decide +kernel
  have hsaid : mentionsOf? deskWords = some (.synth, [⟨.spec, some "service.json"⟩,
      ⟨.account, some "123456789012"⟩, ⟨.output, some "/plans/plan.json"⟩]) := by decide +kernel
  refine ⟨hwords, ?_⟩
  obtain ⟨mentions, hmentions, -, -, -, hends⟩ := runIn_synth desk (fun _ _ => .ok 1) hwords
  rw [hsaid] at hmentions
  cases hmentions
  generalize runIn desk (fun _ _ => .ok 1) [] deskWords = left at hends ⊢
  generalize (planOf desk.read (fun _ _ => .ok 1) deskSubject none none).1 = result at hends hplan ⊢
  cases hends with
  | idle code silent => cases hplan
  | shown noFile inEarnest code text => cases noFile
  | @stored o report path place after toFile inEarnest code silent stored =>
    cases toFile
    exact ⟨o, place, rfl, silent, stored⟩
  | @refused o report path failure toFile inEarnest code silent failed =>
    cases toFile
    cases failed
  | listed noFile dry code silent => cases noFile

/-- A run that fails leaves nothing on the standard output and all files as they were, whatever the
command line asks for. -/
theorem no_trace_of_failure (tree : FileTree) (versions : LayerVersions)
    (h : (runIn tree versions environment words).1.code ≠ 0) :
    (runIn tree versions environment words).1.stdout = "" ∧
      (runIn tree versions environment words).2 = tree := by
  cases hrequest : Request.ofWords environment words with
  | error stop =>
    have hrun : runIn tree versions environment words = (stop.report, tree) := by
      rw [runIn, run, hrequest]
      rfl
    rw [hrun] at h ⊢
    cases stop with
    | misuse => exact ⟨rfl, rfl⟩
    | help => exact absurd rfl h
    | version => exact absurd rfl h
    | noCommand => exact ⟨rfl, rfl⟩
  | ok r =>
    obtain ⟨verbosity, task⟩ := r
    rw [runIn_of_ok hrequest] at h ⊢
    cases task with
    | synth subject destination root token =>
      obtain ⟨mentions, -, -, hdestination, -, -⟩ := exists_mentions hrequest
      exact (ends_run hdestination verbosity subject root token).no_trace h
    | validate subject =>
      rw [Request.run] at h ⊢
      dsimp only at h ⊢
      cases hverdict : verdict tree.read subject with
      | mk result log =>
        rw [hverdict] at h
        cases result with
        | error f => exact ⟨rfl, rfl⟩
        | ok text => exact absurd rfl h
    | layer name target =>
      rw [Request.run] at h ⊢
      dsimp only at h ⊢
      cases harn : layerArnOf versions name target with
      | error f => exact ⟨rfl, rfl⟩
      | ok text =>
        rw [harn] at h
        exact absurd rfl h

end CommandLine

end ServicePlan
