import ServicePlan.Proofs.Naming
import ServicePlan.Proofs.Network
import ServicePlan.Proofs.Preparation
import ServicePlan.Proofs.Queues
import ServicePlan.Proofs.Schema.Services

/-!
# The limits of the provider

The provider has limits for the numbers of a function, and a message must stay hidden for as long as
the function handles it.  The schema keeps the numbers of a spec within bounds, and with the settings
for what is left out their sums stay within bounds too, so a plan built from a prepared spec keeps
all limits.

* `FunctionSpec.InLimits`: the bounds of the schema for the numbers of a function.
* `ServiceSpec.inLimits_of_accepts`: the functions of a spec that keeps the schema are within them.
* `Intent.FunctionInLimits`, `Plan.QueueInLimits`: a function and a waiting queue of a plan.
* `Blueprint.keepsLimits_of_prepare`: whatever is built from a prepared spec keeps the limits.
-/

namespace ServicePlan

open Fields (Given)

/-! ## Functions of specs -/

/-- The numbers of a function are within the bounds of the schema. -/
structure FunctionSpec.InLimits (f : FunctionSpec) : Prop where
  /-- The timeout is at most a quarter of an hour. -/
  timeout : ∀ t, f.timeout = some t → 1 ≤ t ∧ t ≤ 900
  /-- The memory is between an eighth of a gigabyte and ten gigabytes. -/
  memorySize : ∀ m, f.memorySize = some m → 128 ≤ m ∧ m ≤ 10240
  /-- The temporary storage is between half a gigabyte and ten gigabytes. -/
  storageSize : ∀ m, f.storageSize = some m → 512 ≤ m ∧ m ≤ 10240
  /-- What the queue adds to the timeout is at most twelve hours less the largest timeout. -/
  additionalTimeout : ∀ q, f.queue = some q → ∀ a, q.additionalTimeout = some a →
    0 ≤ a ∧ a ≤ 42300

namespace Schema

variable {r : Resolver} {needed : List String} {named : List (String × Schema)}
  {members : List (String × Json)}

/-- An integer that was decoded from a member is within the bounds of the member. -/
theorem RecordOf.between (hmembers : RecordOf r needed named members) {name : String}
    {least most i : Int} (hs : named.lookup name = some (Service.between least most))
    (hi : Given (fun name => members.lookup name) name Decode.int i) : least ≤ i ∧ i ≤ most := by
  obtain ⟨v, hv, hdecode⟩ := hi
  obtain rfl := Decode.eq_of_int_eq_ok hdecode
  obtain ⟨n, hn, hbounds⟩ := Service.exists_of_accepts_between (hmembers.kept name _ _ hs hv)
  cases hn
  exact hbounds i rfl

end Schema

namespace FunctionSpec

variable {f : FunctionSpec} {r : Schema.Resolver}

/-- The members that the numbers of a function were decoded from. -/
structure IsFrom (f : FunctionSpec) (members : List (String × Json)) : Prop where
  timeout : ∀ t, f.timeout = some t →
    Given (fun name => members.lookup name) "timeout" Decode.int t
  memorySize : ∀ m, f.memorySize = some m →
    Given (fun name => members.lookup name) "memory_size" Decode.int m
  storageSize : ∀ m, f.storageSize = some m →
    Given (fun name => members.lookup name) "storage_size" Decode.int m
  queue : ∀ q, f.queue = some q →
    Given (fun name => members.lookup name) "queue" QueueSpec.decode q

theorem isFrom_of_decode {members : List (String × Json)}
    (h : decode (.object members) = .ok f) : f.IsFrom members := by
  obtain ⟨look, hbuild, hlook⟩ := Fields.exists_build_of_decode (by decide) h
  suffices hall : ∀ f, fields.build look = .ok f → f.IsFrom members from hall f hbuild
  unfold fields
  iterate 9 refine Fields.of_build_seq ?_
  intro _ hcode runtime _ timeout htimeout memory hmemory storage hstorage layers _ policies _
    queue hqueue next _ test _
  obtain ⟨code, -, rfl⟩ := Fields.exists_of_build_map hcode
  exact {
    timeout := fun _ ht =>
      (Fields.given_of_build_optional htimeout _ ht).of_eq (hlook _ (by decide))
    memorySize := fun _ hm =>
      (Fields.given_of_build_optional hmemory _ hm).of_eq (hlook _ (by decide))
    storageSize := fun _ hs =>
      (Fields.given_of_build_optional hstorage _ hs).of_eq (hlook _ (by decide))
    queue := fun _ hq => (Fields.given_of_build_optional hqueue _ hq).of_eq (hlook _ (by decide)) }

theorem queue_between {v : Json} {q : QueueSpec} {least most : Int}
    (hv : Schema.Accepts r
      (Schema.Service.record [("additional_timeout", Schema.Service.between least most)]) v)
    (h : QueueSpec.decode v = .ok q) :
    ∀ a, q.additionalTimeout = some a → least ≤ a ∧ a ≤ most := by
  obtain ⟨members, rfl, hmembers⟩ := Schema.isRecord_record v hv
  obtain ⟨look, hbuild, hlook⟩ := Fields.exists_build_of_decode (by decide) h
  obtain ⟨additional, hadditional, rfl⟩ := Fields.exists_of_build_map hbuild
  intro a ha
  exact hmembers.between rfl
    ((Fields.given_of_build_optional hadditional a ha).of_eq (hlook _ (by decide)))

/-- A function that keeps the schema of functions is within its bounds. -/
theorem inLimits_of_accepts {v : Json} (hv : Schema.Accepts r Schema.Service.function v)
    (h : decode v = .ok f) : f.InLimits := by
  obtain ⟨members, rfl, hmembers⟩ := Schema.isRecord_record v hv
  have hfrom := isFrom_of_decode h
  exact {
    timeout := fun t ht => hmembers.between rfl (hfrom.timeout t ht)
    memorySize := fun m hm => hmembers.between rfl (hfrom.memorySize m hm)
    storageSize := fun m hm => hmembers.between rfl (hfrom.storageSize m hm)
    additionalTimeout := fun q hq => by
      obtain ⟨w, hw, hqueue⟩ := hfrom.queue q hq
      exact queue_between (hmembers.kept "queue" _ w rfl hw) hqueue }

/-- So are all functions of a block. -/
theorem inLimits_of_accepts_block {links : Nat} {v : Json} {functions : Table FunctionSpec}
    (hv : Schema.Accepts (Schema.ofServices.resolver (links + 2))
      (Schema.Service.block "lambda_map") v)
    (h : Decode.table decode v = .ok functions) : ∀ e ∈ functions.entries, e.2.InLimits := by
  intro e he
  obtain ⟨members, rfl, hmembers⟩ :=
    Schema.Service.exists_of_accepts_mapOf (Schema.accepts_of_reference hv rfl)
  obtain ⟨w, hw, hdecode⟩ := Decode.exists_mem_of_table_eq_ok h he
  exact inLimits_of_accepts (Schema.accepts_of_reference (hmembers _ hw) rfl) hdecode

end FunctionSpec

/-! ## Specs -/

/-- The functions of a topic that keeps the schema of topics are within the bounds. -/
theorem TopicSpec.inLimits_of_accepts {links : Nat} {v : Json} {t : TopicSpec}
    (hv : Schema.Accepts (Schema.ofServices.resolver (links + 2)) Schema.Service.topic v)
    (h : decode v = .ok t) : ∀ e ∈ t.functionTable.entries, e.2.InLimits := by
  obtain ⟨members, rfl, hmembers⟩ := Schema.isRecord_record v hv
  obtain ⟨look, hbuild, hlook⟩ := Fields.exists_build_of_decode (by decide) h
  obtain ⟨make, functions, hmake, hfunctions, rfl⟩ := Fields.exists_of_build_seq hbuild
  obtain ⟨description, -, rfl⟩ := Fields.exists_of_build_map hmake
  cases functions with
  | none =>
    intro e he
    cases he
  | some functions =>
    have hgiven : Given (fun name => members.lookup name) "lambda_func"
        (Decode.table FunctionSpec.decode) functions :=
      (Fields.given_of_build_optional hfunctions _ rfl).of_eq (hlook _ (by decide))
    obtain ⟨w, hw, htable⟩ := hgiven
    exact FunctionSpec.inLimits_of_accepts_block (hmembers.kept "lambda_func" _ w rfl hw) htable

/-- The functions of a spec that keeps the schema are within the bounds, those of its topics
included. -/
theorem ServiceSpec.inLimits_of_accepts {links : Nat} {v : Json} {s : ServiceSpec}
    (hv : Schema.Accepts (Schema.ofServices.resolver (links + 4)) Schema.Service.root v)
    (h : decode v = .ok s) : ∀ f, s.HasFunction f → f.InLimits := by
  obtain ⟨members, rfl, hmembers⟩ := Schema.isRecord_root v hv
  have hfrom := isFrom_of_decode h
  rintro f (⟨key, hf⟩ | ⟨e, he, key, hf⟩)
  · obtain ⟨w, hw, htable⟩ | hnone := hfrom.functions
    · exact FunctionSpec.inLimits_of_accepts_block (hmembers.kept "lambda_func" _ w rfl hw) htable
        _ hf
    · rw [hnone] at hf
      cases hf
  · rw [topicTable] at he
    cases htopics : s.topics with
    | none =>
      rw [htopics] at he
      cases he
    | some topics =>
      rw [htopics] at he
      obtain ⟨w, hw, htable⟩ := hfrom.topics topics htopics
      obtain ⟨entries, rfl, hentries⟩ :=
        Schema.Service.exists_of_accepts_mapOf (hmembers.kept "sns" _ w rfl hw)
      obtain ⟨t, ht, hdecode⟩ := Decode.exists_mem_of_table_eq_ok htable he
      exact TopicSpec.inLimits_of_accepts (Schema.accepts_of_reference (hentries _ ht) rfl) hdecode
        _ hf

/-- The functions of a prepared spec are within the bounds. -/
theorem ServiceSpec.inLimits_of_prepare {raw : String} {o : Options} {spec : ServiceSpec}
    (hschema : o.schema = none) (hspec : (prepare raw o).result = .ok spec) :
    ∀ f, spec.HasFunction f → f.InLimits := by
  obtain ⟨-, decoded, -, -, hvalid, hofJson⟩ := exists_of_prepare hspec
  have haccepts : Schema.ofServices.accepts decoded = true := by
    rw [hschema] at hvalid
    rw [Schema.Document.accepts, List.isEmpty_iff]
    unfold validate at hvalid
    obtain ⟨schema, hdocument, hreport⟩ := Json.exists_of_bind_eq_ok hvalid
    cases hdocument
    split at hreport
    · assumption
    · cases hreport
  obtain ⟨links, hv⟩ := Schema.accepts_root haccepts
  obtain ⟨s, hs, hcheck⟩ := Json.exists_of_bind_eq_ok hofJson
  obtain ⟨_, -, hsame⟩ := Json.exists_of_bind_eq_ok hcheck
  cases hsame
  exact ServiceSpec.inLimits_of_accepts hv (Json.mapError_eq_ok_iff.1 hs)

/-! ## Timeouts -/

namespace FunctionSpec.InLimits

variable {f : FunctionSpec}

theorem effectiveTimeout (h : f.InLimits) :
    1 ≤ f.effectiveTimeout Settings.timeout ∧ f.effectiveTimeout Settings.timeout ≤ 900 := by
  rw [FunctionSpec.effectiveTimeout]
  cases htimeout : f.timeout with
  | none => decide
  | some t => exact h.timeout t htimeout

/-- What is added to the timeout of a function, whether its queue says so or not. -/
theorem addition (h : f.InLimits) {q : QueueSpec} (hq : f.queue = some q) :
    0 ≤ q.additionalTimeout.getD Settings.additionalTimeout ∧
      q.additionalTimeout.getD Settings.additionalTimeout ≤ 42300 := by
  cases hadditional : q.additionalTimeout with
  | none => decide
  | some a => exact h.additionalTimeout q hq a hadditional

/-- The sum of the timeouts can be expressed. -/
theorem visibilityTimeout_eq (h : f.InLimits) :
    f.visibilityTimeout Settings.timeout = .ok (f.queue.map fun q =>
      f.effectiveTimeout Settings.timeout +
        q.additionalTimeout.getD Settings.additionalTimeout) := by
  rw [visibilityTimeout]
  cases hq : f.queue with
  | none => rfl
  | some q =>
    have htimeout := h.effectiveTimeout
    have haddition := h.addition hq
    exact if_pos (by unfold minTimeout maxTimeout; omega)

/-- A message stays hidden for at least as long as the function runs, and for twelve hours at
most. -/
theorem le_visibilityTimeout (h : f.InLimits) {timeout : Int}
    (htimeout : f.visibilityTimeout Settings.timeout = .ok (some timeout)) :
    f.effectiveTimeout Settings.timeout ≤ timeout ∧ timeout ≤ 43200 := by
  rw [h.visibilityTimeout_eq] at htimeout
  obtain ⟨q, hq, rfl⟩ := Option.map_eq_some_iff.1 (Except.ok.inj htimeout)
  have heffective := h.effectiveTimeout
  have haddition := h.addition hq
  constructor <;> omega

end FunctionSpec.InLimits

/-! ## Plans -/

namespace Intent

/-- The integer of an attribute. -/
def int? (i : Intent) (name : String) : Option Int :=
  match i.attributes.member? name with
  | some (.number (.integer n)) => some n
  | _ => none

/-- An attribute is an integer between two bounds. -/
def Between (i : Intent) (name : String) (least most : Int) : Prop :=
  ∃ n, i.int? name = some n ∧ least ≤ n ∧ n ≤ most

/-- An attribute is left to the provider, or it is an integer between two bounds. -/
def BetweenOrNull (i : Intent) (name : String) (least most : Int) : Prop :=
  i.attributes.member? name = some .null ∨ i.Between name least most

/-- A function keeps the limits of the provider. -/
structure FunctionInLimits (i : Intent) : Prop where
  timeout : i.Between "timeout" 1 900
  memorySize : i.BetweenOrNull "memory_size" 128 10240
  storageSize : i.BetweenOrNull "storage_size" 512 10240

/-- A trigger feeds a function from a queue. -/
structure Triggers (trigger queue function : Intent) : Prop where
  isTrigger : trigger.category = .eventSourceMapping
  source : trigger.text? "event_source_arn" = some queue.handle.arn
  isFunction : function.category = .function
  target : trigger.text? "function_name" = some function.handle.ref

/-- A queue is one that feeds a function, by its name. -/
def IsWaitingQueue (n : Naming) (i : Intent) : Prop :=
  i.category = .queue ∧ ∃ key branch, i.physicalName = n.waitingQueue key branch

end Intent

/-- A queue has a visibility timeout of twelve hours at most, a trigger feeds a function from it, and
no function that is fed from it has a larger timeout. -/
def Plan.QueueInLimits (p : Plan) (queue : Intent) : Prop :=
  ∃ visibility, queue.int? "visibility_timeout" = some visibility ∧ visibility ≤ 43200 ∧
    (∃ trigger ∈ p.intents, ∃ function ∈ p.intents, trigger.Triggers queue function) ∧
    ∀ trigger ∈ p.intents, ∀ function ∈ p.intents, trigger.Triggers queue function →
      ∃ timeout, function.int? "timeout" = some timeout ∧ timeout ≤ visibility

/-- All functions and all waiting queues of a plan keep the limits of the provider. -/
structure Plan.InLimits (n : Naming) (p : Plan) : Prop where
  functions : ∀ i ∈ p.intents, i.category = .function → i.FunctionInLimits
  queues : ∀ i ∈ p.intents, i.IsWaitingQueue n → p.QueueInLimits i

theorem Naming.waitingQueue_ne_deadQueue (n : Naming) (key key' : String)
    (branch branch' : Option String) : n.waitingQueue key branch ≠ n.deadQueue key' branch' := by
  intro h
  -- the names differ in their last characters
  have hlast := congrArg (fun name => name.toList.getLast?) h
  simp [waitingQueue, deadQueue] at hlast

namespace Blueprint

variable {b : Blueprint} {w : Wiring} {key : String} {f : FunctionSpec} {i : Intent}

/-- The numbers of a function in a plan are those of the spec, with the setting for the timeout. -/
theorem functionConfig_eq (w : Wiring) (key : String) (f : FunctionSpec) (runtime : Runtime)
    (layers : List String) :
    (b.functionConfig w key f runtime layers).timeout = f.effectiveTimeout Settings.timeout ∧
      (b.functionConfig w key f runtime layers).memorySize = f.memorySize ∧
      (b.functionConfig w key f runtime layers).storageSize = f.storageSize := by
  unfold functionConfig
  dsimp only
  split <;> exact ⟨rfl, rfl, rfl⟩

theorem timeout_functionIntent (runtime : Runtime) (layers : List String) :
    (b.functionIntent w key f runtime layers).int? "timeout" =
      some (f.effectiveTimeout Settings.timeout) := by
  rw [← (b.functionConfig_eq w key f runtime layers).1]
  rfl

/-- A function within its bounds keeps the limits in the plan. -/
theorem functionInLimits (h : f.InLimits) (runtime : Runtime) (layers : List String) :
    (b.functionIntent w key f runtime layers).FunctionInLimits := by
  obtain ⟨-, hmemory, hstorage⟩ := b.functionConfig_eq w key f runtime layers
  have hsize : ∀ {size : Option Int} {name : String} {least most : Int},
      (b.functionIntent w key f runtime layers).attributes.member? name = some (.intOrNull size) →
      (∀ n, size = some n → least ≤ n ∧ n ≤ most) →
      (b.functionIntent w key f runtime layers).BetweenOrNull name least most := by
    intro size name least most hmember hbounds
    cases size with
    | none => exact .inl hmember
    | some n => exact .inr ⟨n, by rw [Intent.int?, hmember]; rfl, hbounds n rfl⟩
  exact {
    timeout := ⟨_, timeout_functionIntent runtime layers, h.effectiveTimeout⟩
    memorySize := hsize (hmemory ▸ rfl) h.memorySize
    storageSize := hsize (hstorage ▸ rfl) h.storageSize }

/-- No build ends because a visibility timeout cannot be expressed, if the functions are within their
bounds. -/
theorem build_ne_timeoutOverflow (hlimits : ∀ f, b.spec.HasFunction f → f.InLimits)
    (timeout additional : Int) : b.build.2 ≠ some (.timeoutOverflow timeout additional) := by
  intro hbuild
  rw [snd_build] at hbuild
  have hoverflow : .fail (.timeoutOverflow timeout additional) ∈ b.steps := by
    obtain ⟨q, h, -⟩ | ⟨before, s, after, q, fault, hsteps, h, -, hends⟩ :=
      b.traces_start.run_cases (arranged_steps b)
    · rw [h] at hbuild
      cases hbuild
    · rw [h] at hbuild
      cases hbuild
      cases hends
      rw [hsteps]
      simp
  have hregular : b.Regular (.fail (.timeoutOverflow timeout additional)) := by
    rw [steps_eq_append] at hoverflow
    simp only [List.mem_append, List.mem_flatMap, branchSteps] at hoverflow
    obtain (hshared | ⟨branch, -, hcompute | hbatch⟩) | hlast := hoverflow
    · exact regular_sharedSteps _ hshared
    · exact regular_computeSteps _ hcompute
    · exact absurd hbatch (clean_batchSteps b branch _)
    · simp at hlast
  obtain ⟨f, hf, herror⟩ := hregular
  rw [(hlimits f hf).visibilityTimeout_eq] at herror
  cases herror

section Plan

variable (hbuild : b.build.2 = none)
include hbuild

/-- The queue of a function within its bounds keeps the limits in the plan. -/
theorem Builds.queueInLimits (hf : b.Builds w key f) (hlimits : f.InLimits) {timeout : Int}
    (htimeout : f.visibilityTimeout Settings.timeout = .ok (some timeout)) :
    b.build.1.plan.QueueInLimits (b.waitingQueue w key timeout) := by
  obtain ⟨hcovers, hmost⟩ := hlimits.le_visibilityTimeout htimeout
  obtain ⟨runtime, layers, hfunction⟩ := hf.function_mem_intents hbuild
  have htrigger : b.trigger w key timeout ∈ b.build.1.plan.intents :=
    hf.queue_subset_intents hbuild htimeout (by simp)
  refine ⟨timeout, rfl, hmost, ⟨_, htrigger, _, hfunction, rfl, rfl, rfl, rfl⟩, ?_⟩
  intro trigger hmem function hother htriggers
  -- another trigger of the queue feeds the function of the same name, which the plan lists once
  obtain ⟨w', key', f', timeout', hf', -, rfl⟩ :=
    exists_of_trigger hbuild hmem htriggers.isTrigger
  have hqueue : b.naming.waitingQueue key' w'.branch = b.naming.waitingQueue key w.branch :=
    Handle.of_inj.1 (Handle.arn_inj.1 (Option.some.inj htriggers.source))
  have hname : b.functionName w' key' = b.functionName w key :=
    (b.naming.waitingQueue_eq_iff ..).1 hqueue
  have hhandle : function.handle = b.functionHandle w key := by
    rw [functionHandle, ← hname]
    exact (Handle.ref_inj.1 (Option.some.inj htriggers.target)).symm
  obtain rfl := b.ordered_build.eq_of_handle_eq hother hfunction hhandle
  exact ⟨_, timeout_functionIntent runtime layers, hcovers⟩

/-- **A plan keeps the limits.**  If the functions of a spec are within their bounds, all functions
and all waiting queues of its plan keep the limits. -/
theorem inLimits_build (hlimits : ∀ f, b.spec.HasFunction f → f.InLimits) :
    b.build.1.plan.InLimits b.naming where
  functions i hi hcategory := by
    obtain ⟨w, key, f, runtime, layers, hf, rfl⟩ := exists_of_function hbuild hi hcategory
    exact functionInLimits (hlimits f hf.hasFunction) runtime layers
  queues i hi hwaiting := by
    obtain ⟨hcategory, key', branch, hname⟩ := hwaiting
    obtain ⟨w, key, f, timeout, hf, htimeout, rfl | rfl⟩ := exists_of_queue hbuild hi hcategory
    · exact absurd hname.symm (b.naming.waitingQueue_ne_deadQueue key' key branch w.branch)
    · exact hf.queueInLimits hbuild (hlimits f hf.hasFunction) htimeout

end Plan

/-- **The limits of the provider are kept.**  A build from a spec that was prepared with the schema of
service specs never ends because a visibility timeout cannot be expressed.  If it meets no fault, all
functions of the plan keep the limits for their numbers, and from each waiting queue a trigger feeds
a function, which runs no longer than a message of the queue stays hidden. -/
theorem keepsLimits_of_prepare {raw : String} {o : Options} {spec : ServiceSpec}
    (hschema : o.schema = none) (hspec : (prepare raw o).result = .ok spec) (b : Blueprint)
    (hb : b.spec = spec) :
    (∀ timeout additional, b.build.2 ≠ some (.timeoutOverflow timeout additional)) ∧
      (b.build.2 = none → b.build.1.plan.InLimits b.naming) := by
  subst hb
  have hlimits := ServiceSpec.inLimits_of_prepare hschema hspec
  exact ⟨build_ne_timeoutOverflow hlimits, fun hbuild => inLimits_build hbuild hlimits⟩

/-- The text of a spec with a queue on a branch and one behind a topic. -/
def queuesText : String :=
  "\x7b\"service_name\":\"shop\",\"api_name\":\"api\",\"branch\":\x7b\"dev\":\x7b\x7d\x7d,\"lambda_handler\":\"run\",\"lambda_func\":\x7b\"order\":\x7b\"timeout\":900,\"queue\":\x7b\"additional_timeout\":42300\x7d\x7d\x7d,\"sns\":\x7b\"sold\":\x7b\"lambda_func\":\x7b\"bill\":\x7b\"queue\":\x7b\x7d\x7d\x7d\x7d\x7d\x7d"

/-- A site for the spec. -/
def queuesOptions : Options := { site := ⟨"123456789012", "us-east-1"⟩ }

/-- The blueprint of a spec without references. -/
def ofPrepared (spec : ServiceSpec) : Blueprint where
  spec := spec
  site := queuesOptions.site
  references := .empty
  files := fun _ => .error (.other "no such file")

/-- With the largest numbers a message stays hidden for twelve hours, and with the settings for
thirteen seconds. -/
theorem keepsLimits_of_prepare_queuesText :
    ∃ spec, queuesOptions.schema = none ∧ (prepare queuesText queuesOptions).result = .ok spec ∧
      (ofPrepared spec).build.2 = none ∧
      (ofPrepared spec).build.1.plan.InLimits (ofPrepared spec).naming ∧
      ((ofPrepared spec).build.1.plan.byCategory .queue).map (fun i =>
          (i.physicalName, i.int? "visibility_timeout")) =
        [("api-bill_dead", none), ("api-bill_waiting", some 13),
          ("api-dev-order_dead", none), ("api-dev-order_waiting", some 43200)] := by
  have hbuilt : ((prepare queuesText queuesOptions).result.toOption.map fun spec =>
      ((ofPrepared spec).build.2.isNone,
        ((ofPrepared spec).build.1.plan.byCategory .queue).map (fun i =>
          (i.physicalName, i.int? "visibility_timeout")))) =
      some (true, [("api-bill_dead", none), ("api-bill_waiting", some 13),
          ("api-dev-order_dead", none), ("api-dev-order_waiting", some 43200)]) := by
    decide +kernel
  cases hspec : (prepare queuesText queuesOptions).result with
  | error fault =>
    rw [hspec] at hbuilt
    cases hbuilt
  | ok spec =>
    rw [hspec] at hbuilt
    obtain ⟨hbuild, hqueues⟩ := Prod.mk.inj (Option.some.inj hbuilt)
    have hbuild : (ofPrepared spec).build.2 = none := Option.isNone_iff_eq_none.1 hbuild
    exact ⟨spec, rfl, rfl, hbuild, (keepsLimits_of_prepare rfl hspec _ rfl).2 hbuild, hqueues⟩

end Blueprint

end ServicePlan
