import ServicePlan.Proofs.Schema.Agreement
import ServicePlan.Synthesis

/-!
# Specs that keep the schema can be decoded

The schema of service specs and the decoders of specs describe the same documents twice, block by
block.  They agree on all but the numbers that specs hold as integers of 64 bits: the schema takes
whole numbers however they are written and however large they are.

* `Schema.integerPlaces`: where specs hold such integers.
* `Schema.agrees_function`, `Schema.agrees_service`, …: the blocks of a spec agree one by one.
* `ServiceSpec.check_of_accepts`: what a spec is checked for beyond its form follows from the
  schema.
* `ServiceSpec.exists_ofJson_iff`: which documents that keep the schema are specs.
-/

namespace ServicePlan

open Json (Place Segment)

namespace Schema

/-- Where a function holds integers. -/
def functionPlaces : List Place :=
  [[.member "timeout"], [.member "memory_size"], [.member "storage_size"],
    [.member "queue", .member "additional_timeout"]]

/-- Where a batch job holds integers. -/
def jobPlaces : List Place := [[.member "maxv_cpus"], [.member "memory"]]

/-- Where a spec holds integers: in the functions of the branches, in those of the topics, and in
the batch jobs. -/
def integerPlaces : List Place :=
  functionPlaces.map ([.member "lambda_func", .each] ++ ·) ++
  functionPlaces.map ([.member "sns", .each, .member "lambda_func", .each] ++ ·) ++
  jobPlaces.map ([.member "batch_func", .each] ++ ·)

variable {r : Resolver} {links : Nat}

/-! ## Single values -/

theorem agrees_text : Agrees r Service.text Decode.string [] := by
  refine agrees_of_forall fun v hv => ?_
  obtain ⟨s, rfl⟩ := Service.exists_of_accepts_text hv
  exact ⟨s, rfl⟩

theorem agrees_name : Agrees r Service.name Decode.string [] := by
  refine agrees_of_forall fun v hv => ?_
  obtain ⟨s, rfl, -⟩ := Service.exists_of_accepts_name hv
  exact ⟨s, rfl⟩

theorem agrees_flag : Agrees r Service.flag Decode.bool [] := by
  refine agrees_of_forall fun v hv => ?_
  obtain ⟨b, rfl⟩ := Service.exists_of_accepts_flag hv
  exact ⟨b, rfl⟩

theorem agrees_between (least most : Int) :
    Agrees r (Service.between least most) Decode.int [[]] :=
  agrees_of_number fun _ hv => (Service.exists_of_accepts_between hv).imp fun _ h => h.1

theorem agrees_atLeast (least : Int) : Agrees r (Service.atLeast least) Decode.int [[]] :=
  agrees_of_number fun _ hv => Service.exists_of_accepts_atLeast hv

theorem agrees_texts :
    Agrees (ofServices.resolver (links + 1)) Service.texts (Decode.list Decode.string) [] := by
  refine agrees_of_forall fun v hv => ?_
  obtain ⟨items, rfl⟩ := Service.exists_of_accepts_texts hv
  exact ⟨items.map id, Decode.list_map fun _ _ => rfl⟩

/-! ## Functions -/

theorem agrees_queue :
    Agrees r (Service.record [("additional_timeout", Service.between 0 42300)]) QueueSpec.decode
      [[.member "additional_timeout"]] :=
  agrees_record_of_plain isRecord_record
    ((matches_optional rfl (agrees_between 0 42300)).map _) (by decide) (by decide) (by decide)

theorem agrees_function :
    Agrees (ofServices.resolver (links + 1)) Service.function FunctionSpec.decode
      functionPlaces := by
  refine agrees_record_of_plain isRecord_record ?_ (by decide) (by decide) (by decide)
  refine .seq (.seq (.seq (.seq (.seq (.seq (.seq (.seq (.seq (.map ?code _) ?runtime) ?timeout)
    ?memory) ?storage) ?layers) ?policies) ?queue) ?next) ?test
  case code => exact matches_optional rfl agrees_text
  case runtime => exact matches_optional rfl agrees_text
  case timeout => exact matches_optional rfl (agrees_between 1 900)
  case memory => exact matches_optional rfl (agrees_between 128 10240)
  case storage => exact matches_optional rfl (agrees_between 512 10240)
  case layers => exact matches_default rfl agrees_texts
  case policies => exact matches_default rfl agrees_texts
  case queue => exact matches_optional rfl agrees_queue
  case next => exact matches_optional rfl agrees_text
  case test => exact matches_optional rfl agrees_text

/-! ## What is outside of a spec -/

theorem agrees_pool :
    Agrees r (Service.openRecord ["user_pool_id"] [("user_pool_id", Service.name)])
      UserPoolSpec.decode [] := by
  refine agrees_of_forall fun v hv => ?_
  obtain ⟨members, rfl, hmembers⟩ := isRecord_openRecord v hv
  obtain ⟨w, hw⟩ := Option.isSome_iff_exists.1 (hmembers.given "user_pool_id" (by simp))
  obtain ⟨id, rfl, -⟩ := Service.exists_of_accepts_name (hmembers.kept _ _ w rfl hw)
  simp only [UserPoolSpec.decode, UserPoolSpec.idName, hw]
  exact ⟨_, Json.bind_eq_ok rfl rfl⟩

theorem agrees_network :
    Agrees (ofServices.resolver (links + 1))
      (Service.openRecord ["subnet_id_list", "security_group_id"]
        [("security_group_id", Service.text), ("subnet_id_list", Service.texts)])
      NetworkSpec.decode [] := by
  refine agrees_record_of_plain isRecord_openRecord ?_ (by decide) (by decide) (by decide)
  refine .seq (.map ?subnets _) ?group
  case subnets => exact matches_required (by decide) rfl agrees_texts
  case group => exact matches_required (by decide) rfl agrees_text

theorem agrees_references :
    Agrees (ofServices.resolver (links + 1)) Service.references ReferenceSpec.decode [] := by
  refine agrees_record_of_plain isRecord_record ?_ (by decide) (by decide) (by decide)
  refine .seq (.seq (.map ?layers _) ?pools) ?network
  case layers =>
    exact matches_default rfl (agrees_name.table fun _ => Service.exists_of_accepts_mapOf)
  case pools =>
    exact matches_default rfl (agrees_pool.table fun _ => Service.exists_of_accepts_mapOf)
  case network => exact matches_optional rfl agrees_network

/-! ## Branches, topics, buckets and jobs -/

theorem agrees_appStage :
    Agrees r (.rules [.enum [
      .string "PRODUCTION", .string "BETA", .string "DEVELOPMENT", .string "EXPERIMENTAL",
      .string "PULL_REQUEST"]]) Decode.string [] := by
  refine agrees_of_forall fun v hv => ?_
  have hstage : Keeps r (.enum (["PRODUCTION", "BETA", "DEVELOPMENT", "EXPERIMENTAL",
      "PULL_REQUEST"].map .string)) v := hv.keeps (List.mem_cons_self ..)
  obtain ⟨s, -, rfl⟩ := hstage.exists_option
  exact ⟨s, rfl⟩

theorem agrees_branch : Agrees r Service.branch BranchSpec.decode [] := by
  refine agrees_record_of_plain isRecord_record ?_ (by decide) (by decide) (by decide)
  refine .seq (.seq (.seq (.map ?stage _) ?appStage) ?bucket) ?url
  case stage => exact matches_optional rfl agrees_text
  case appStage => exact matches_optional rfl agrees_appStage
  case bucket => exact matches_optional rfl agrees_text
  case url => exact matches_optional rfl agrees_text

theorem agrees_functions :
    Agrees (ofServices.resolver (links + 3)) (Service.block "lambda_map")
      (Decode.table FunctionSpec.decode) (functionPlaces.map (.each :: ·)) :=
  ((agrees_function.reference rfl).table fun _ => Service.exists_of_accepts_mapOf).reference rfl

theorem agrees_topic :
    Agrees (ofServices.resolver (links + 3)) Service.topic TopicSpec.decode
      (functionPlaces.map ([.member "lambda_func", .each] ++ ·)) := by
  refine agrees_record_of_plain isRecord_record ?_ (by decide) (by decide) (by decide)
  refine .seq (.map ?description _) ?functions
  case description => exact matches_optional rfl agrees_text
  case functions => exact matches_optional rfl agrees_functions

theorem agrees_bucket : Agrees r Service.bucket BucketSpec.decode [] := by
  refine agrees_record_of_plain isRecord_record ?_ (by decide) (by decide) (by decide)
  exact .seq (.map (matches_default rfl agrees_flag) _) (matches_default rfl agrees_flag)

theorem agrees_job : Agrees r Service.job JobSpec.decode jobPlaces := by
  refine agrees_record_of_plain isRecord_recordWith ?_ (by decide) (by decide) (by decide)
  refine .seq (.seq (.seq (.map ?most _) ?memory) ?processors) ?function
  case most => exact matches_required (by decide) rfl (agrees_atLeast 1)
  case memory => exact matches_optional rfl (agrees_atLeast 512)
  case processors =>
    refine matches_optional rfl (agrees_of_forall fun v hv => ?_)
    obtain ⟨n, rfl⟩ := (hv.keeps (show Rule.types [.number] ∈ _ by simp)).exists_number
    exact ⟨n, rfl⟩
  case function => exact matches_required (by decide) rfl agrees_text

/-! ## Apps and the api -/

theorem agrees_app :
    Agrees (ofServices.resolver (links + 1)) Service.app AppSpec.decode [] := by
  refine agrees_record_of_plain isRecord_recordWith ?_ (by decide) (by decide) (by decide)
  refine .seq (.seq (.seq (.seq (.seq (.map ?domain _) ?description) ?user) ?topic) ?inline)
    ?managed
  case domain => exact matches_required (by decide) rfl agrees_text
  case description => exact matches_optional rfl agrees_text
  case user => exact matches_optional rfl agrees_text
  case topic => exact matches_optional rfl agrees_text
  case inline => exact matches_default rfl agrees_texts
  case managed => exact matches_default rfl agrees_texts

theorem agrees_authorization :
    Agrees r (Service.recordWith ["user", "app"] [("app", Service.text), ("user", Service.text)])
      AuthorizationSpec.decode [] := by
  refine agrees_record_of_plain isRecord_recordWith ?_ (by decide) (by decide) (by decide)
  exact .seq (.map (matches_required (by decide) rfl agrees_text) _)
    (matches_required (by decide) rfl agrees_text)

theorem isEmpty_report_required {members : List (String × Json)} {name : String} :
    (report r [] (.rules [.required [name]]) (.object members)).isEmpty = true ↔
      (members.lookup name).isSome := by
  have hreport : report r [] (.rules [.required [name]]) (.object members) =
      missing [] [name] members ++ [] := rfl
  rw [hreport, List.append_nil, missing, List.isEmpty_iff, List.map_eq_nil_iff,
    List.filter_eq_nil_iff, List.forall_mem_singleton]
  cases members.lookup name <;> simp

/-- The document of an integration is given under one name only. -/
theorem not_both_of_accepts_route {members : List (String × Json)}
    (h : Accepts r Service.route (.object members)) :
    ¬ ((members.lookup "route_openapi").isSome ∧ (members.lookup "openapi_yaml").isSome) := by
  rintro ⟨hnew, hold⟩
  have hone := (h.keeps (List.mem_cons_of_mem _ (List.mem_cons_self ..))).oneOf
  rw [countValid_cons, countValid_cons, countValid_cons, if_pos (isEmpty_report_required.2 hnew),
    if_pos (isEmpty_report_required.2 hold)] at hone
  omega

theorem agrees_route :
    Agrees (ofServices.resolver (links + 1)) Service.route RouteSpec.decode [] := by
  refine agrees_record (isRecord_of_members (List.mem_cons_self ..) (by simp) (.inl rfl)) ?_
    (by decide) (by decide) ?_
  · refine .seq (.seq (.map ?routes _) ?document) ?authorization
    case routes => exact matches_optional rfl agrees_texts
    case document =>
      exact matches_withDefault (List.forall_mem_cons.2 ⟨⟨_, rfl, agrees_text.optional⟩,
        List.forall_mem_singleton.2 ⟨_, rfl, agrees_text.optional⟩⟩)
    case authorization => exact matches_optional rfl agrees_authorization
  · have hdocument : ∀ fld ∈ RouteSpec.fields.fields, ∀ m ∈ fld.names, ∀ n ∈ fld.names, m ≠ n →
        m = "route_openapi" ∧ n = "openapi_yaml" ∨ m = "openapi_yaml" ∧ n = "route_openapi" := by
      decide
    intro fld hfld m hm n hn hne members h
    obtain ⟨rfl, rfl⟩ | ⟨rfl, rfl⟩ := hdocument fld hfld m hm n hn hne
    · exact not_both_of_accepts_route h
    · exact fun hboth => not_both_of_accepts_route h hboth.symm

theorem agrees_gateway :
    Agrees (ofServices.resolver (links + 2)) Service.gateway GatewaySpec.decode [] := by
  refine agrees_record_of_plain isRecord_recordWith ?_ (by decide) (by decide) (by decide)
  refine .seq (.seq (.seq (.seq (.map ?description _) ?domain) ?zone) ?certificate) ?integrations
  case description => exact matches_optional rfl agrees_text
  case domain => exact matches_optional rfl agrees_text
  case zone => exact matches_optional rfl agrees_text
  case certificate => exact matches_optional rfl agrees_text
  case integrations =>
    exact matches_default rfl
      ((agrees_route.reference rfl).table fun _ => Service.exists_of_accepts_mapOf)

/-! ## Services -/

/-- The branches of a spec. -/
theorem exists_of_accepts_branches {v : Json}
    (h : Accepts r (.rules [.members [] [] (Service.block "branch"), .minProperties 1,
      .types [.object]]) v) :
    ∃ members, v = .object members ∧ (∀ e ∈ members, Accepts r (Service.block "branch") e.2) ∧
      members ≠ [] := by
  obtain ⟨members, rfl⟩ := (h.keeps (show Rule.types [.object] ∈ _ by simp)).exists_object
  refine ⟨members, rfl, (h.keeps (List.mem_cons_self ..)).members_others, ?_⟩
  rintro rfl
  have hlength := (h.keeps (show Rule.minProperties 1 ∈ _ by simp)).minProperties
  simp at hlength

/-- The schemas of the blocks of a spec. -/
def rootMembers : List (String × Schema) :=
  match Service.root with
  | .rules (.members named _ _ :: _) => named
  | _ => []

theorem isRecord_root :
    IsRecord r Service.root ["service_name", "api_name", "branch", "lambda_handler"] rootMembers :=
  isRecord_of_members (List.mem_cons_self ..) (by simp)
    (.inr (List.mem_cons_of_mem _ (List.mem_cons_self ..)))

/-- Whole specs agree with their schema. -/
theorem agrees_service :
    Agrees (ofServices.resolver (links + 4)) Service.root ServiceSpec.decode integerPlaces := by
  have hbranch : Agrees (ofServices.resolver (links + 4)) (Service.block "branch")
      BranchSpec.decode [] := agrees_branch.reference rfl
  refine agrees_record_of_plain isRecord_root ?_ (by decide) (by decide) (by decide)
  refine .seq (.seq (.seq (.seq (.seq (.seq (.seq (.seq (.seq (.seq (.seq (.seq (.seq (.seq
    (.map ?service _) ?api) ?branches) ?handler) ?policies) ?references) ?tags) ?runtime)
    ?repository) ?functions) ?gateway) ?buckets) ?topics) ?jobs) ?apps
  case service => exact matches_required (by decide) rfl agrees_name
  case api => exact matches_required (by decide) rfl agrees_name
  case branches =>
    refine matches_required (by decide) rfl (hbranch.table fun v hv => ?_)
    obtain ⟨members, rfl, hmembers, -⟩ := exists_of_accepts_branches hv
    exact ⟨members, rfl, hmembers⟩
  case handler => exact matches_required (by decide) rfl agrees_name
  case policies => exact matches_default rfl agrees_texts
  case references => exact matches_optional rfl (agrees_references.reference rfl)
  case tags =>
    exact matches_default rfl (agrees_text.table fun _ => Service.exists_of_accepts_mapOf)
  case runtime => exact matches_optional rfl agrees_text
  case repository => exact matches_optional rfl agrees_text
  case functions => exact matches_default rfl agrees_functions
  case gateway => exact matches_optional rfl (agrees_gateway.reference rfl)
  case buckets =>
    exact matches_optional rfl
      ((agrees_bucket.reference rfl).table fun _ => Service.exists_of_accepts_mapOf)
  case topics =>
    exact matches_optional rfl
      ((agrees_topic.reference rfl).table fun _ => Service.exists_of_accepts_mapOf)
  case jobs =>
    exact matches_optional rfl
      ((agrees_job.reference rfl).table fun _ => Service.exists_of_accepts_mapOf)
  case apps =>
    exact matches_optional rfl
      ((agrees_app.reference rfl).table fun _ => Service.exists_of_accepts_mapOf)

/-- There are links enough for the longest chain of references. -/
theorem accepts_root {v : Json} (h : ofServices.accepts v = true) :
    ∃ links, Accepts (ofServices.resolver (links + 4)) Service.root v := by
  have hhops : ofServices.hops v = 11 * depth v + 7 + 4 := by
    simp only [Document.hops, ofServices, List.length_cons, List.length_nil]
    omega
  rw [Document.accepts, List.isEmpty_iff, Document.report, hhops] at h
  exact ⟨_, _, h⟩

end Schema

/-! ## Checks beyond the form -/

namespace ServiceSpec

open Fields (Given)

/-- The members that a spec was decoded from. -/
structure IsFrom (s : ServiceSpec) (members : List (String × Json)) : Prop where
  serviceName : Given (fun name => members.lookup name) "service_name" Decode.string s.serviceName
  apiName : Given (fun name => members.lookup name) "api_name" Decode.string s.apiName
  branches : Given (fun name => members.lookup name) "branch" (Decode.table BranchSpec.decode)
    s.branches
  functions : Given (fun name => members.lookup name) "lambda_func"
    (Decode.table FunctionSpec.decode) s.functions ∨ s.functions = ∅
  topics : ∀ topics, s.topics = some topics →
    Given (fun name => members.lookup name) "sns" (Decode.table TopicSpec.decode) topics

theorem isFrom_of_decode {members : List (String × Json)} {s : ServiceSpec}
    (h : decode (.object members) = .ok s) : s.IsFrom members := by
  obtain ⟨look, hbuild, hlook⟩ := Fields.exists_build_of_decode (by decide) h
  suffices hall : ∀ s, fields.build look = .ok s → s.IsFrom members from hall s hbuild
  unfold fields
  iterate 14 refine Fields.of_build_seq ?_
  intro _ hfirst apiName hapi branches hbranches handler _ policies _ references _ tags _ runtime _
    root _ functions hfunctions gateway _ buckets _ topics htopics jobs _ apps _
  obtain ⟨serviceName, hservice, rfl⟩ := Fields.exists_of_build_map hfirst
  exact {
    serviceName := (Fields.given_of_build_required hservice).of_eq (hlook _ (by decide))
    apiName := (Fields.given_of_build_required hapi).of_eq (hlook _ (by decide))
    branches := (Fields.given_of_build_required hbranches).of_eq (hlook _ (by decide))
    functions := (Fields.given_of_build_withDefault hfunctions).imp_left
      (Given.of_eq · (hlook _ (by decide)))
    topics := fun _ ht =>
      (Fields.given_of_build_optional htopics _ ht).of_eq (hlook _ (by decide)) }

/-- A table that is decoded from members has entries if there are any. -/
theorem entries_ne_nil_of_decode {α : Type} {d : Decoder α} {members : List (String × Json)}
    {t : Table α} (h : Decode.table d (.object members) = .ok t) (hmembers : members ≠ []) :
    t.entries ≠ [] := by
  obtain ⟨entries, hentries, rfl⟩ := Fields.exists_of_map_eq_ok h
  cases members with
  | nil => exact absurd rfl hmembers
  | cons e rest =>
    obtain ⟨k, v⟩ := e
    obtain ⟨a, -, hentries⟩ := Json.exists_of_bind_eq_ok hentries
    obtain ⟨more, -, hentries⟩ := Json.exists_of_bind_eq_ok hentries
    cases hentries
    intro hempty
    have hfound : (Table.ofList ((k, a) :: more)).get? k = none := by
      rw [Table.get?, hempty, List.lookup_nil]
    rw [Table.get?_ofList, List.lookup_eq_none_iff] at hfound
    exact absurd (hfound (k, a) (by simp)) (by simp)

/-- What a spec is checked for beyond its form follows from the schema. -/
theorem check_of_accepts {r : Schema.Resolver} {v : Json} {s : ServiceSpec}
    (hv : Schema.Accepts r Schema.Service.root v) (h : decode v = .ok s) : s.check = .ok () := by
  obtain ⟨members, rfl, hmembers⟩ := Schema.isRecord_root v hv
  have hfrom := isFrom_of_decode h
  have hname : ∀ {field text : String},
      Given (fun name => members.lookup name) field Decode.string text →
      Schema.rootMembers.lookup field = some Schema.Service.name → text ≠ "" := by
    rintro field text ⟨w, hw, htext⟩ hs
    obtain ⟨t, rfl, hne⟩ := Schema.Service.exists_of_accepts_name (hmembers.kept field _ w hs hw)
    cases htext
    exact hne
  have hbranches : s.branches.entries ≠ [] := by
    obtain ⟨w, hw, htable⟩ := hfrom.branches
    obtain ⟨branches, rfl, -, hsome⟩ :=
      Schema.exists_of_accepts_branches (hmembers.kept "branch" _ w rfl hw)
    exact entries_ne_nil_of_decode htable hsome
  rw [check, if_neg (hname hfrom.serviceName rfl), if_neg (hname hfrom.apiName rfl), Table.isEmpty,
    if_neg (by simpa using hbranches)]

/-- Numbers fail to be integers of 64 bits in one of two ways. -/
theorem holdsIntegers_iff_not_exists {places : List Place} {v : Json} :
    v.HoldsIntegers places ↔
      ¬ ∃ place ∈ places, ∃ n, .number n ∈ v.parts place ∧
        ((∃ x, n = .float x) ∨ ∃ i, n = .integer i ∧ Decode.maxInt < i) := by
  have hfits : ∀ n : Number, n.FitsInt ↔
      ¬ ((∃ x, n = .float x) ∨ ∃ i, n = .integer i ∧ Decode.maxInt < i) := by
    intro n
    cases n with
    | integer i => simp [Number.FitsInt]
    | float x => simp [Number.FitsInt]
  simp only [Json.HoldsIntegers, hfits, not_exists, not_and]

/-- **Which documents are specs.**  A document that keeps the schema is a spec, unless one of the
places for integers of 64 bits has a number that is stored as a floating-point number, or an integer
that is too large. -/
theorem exists_ofJson_iff {v : Json} (hordered : v.Ordered)
    (hvalid : Schema.ofServices.accepts v = true) :
    (∃ s, ofJson v = .ok s) ↔
      ¬ ∃ place ∈ Schema.integerPlaces, ∃ n, .number n ∈ v.parts place ∧
        ((∃ x, n = .float x) ∨ ∃ i, n = .integer i ∧ Decode.maxInt < i) := by
  obtain ⟨links, hv⟩ := Schema.accepts_root hvalid
  rw [← holdsIntegers_iff_not_exists, ← Schema.agrees_service v hordered hv]
  constructor
  · rintro ⟨s, h⟩
    obtain ⟨s, hs, -⟩ := Json.exists_of_bind_eq_ok h
    exact ⟨s, Json.mapError_eq_ok_iff.1 hs⟩
  · rintro ⟨s, hs⟩
    exact ⟨s, Json.bind_eq_ok (Json.mapError_eq_ok_iff.2 hs)
      (Json.bind_eq_ok (check_of_accepts hv hs) rfl)⟩

/-- A document with one function, whose timeout is some number. -/
def timedDocument (timeout : Number) : Json :=
  .object [
    ("api_name", .string "api"), ("branch", .object [("dev", .object [])]),
    ("lambda_func", .object [("run", .object [("timeout", .number timeout)])]),
    ("lambda_handler", .string "run"), ("service_name", .string "shop")]

/-- The timeout may be written as three, but not as three and no tenths. -/
theorem exists_ofJson_iff_timedDocument :
    let whole := timedDocument (.integer 3)
    let written := timedDocument (.float ⟨false, 6755399441055744, 1023⟩)
    (whole.Ordered ∧ Schema.ofServices.accepts whole = true ∧ ∃ s, ofJson whole = .ok s) ∧
      written.Ordered ∧ Schema.ofServices.accepts written = true ∧
        ¬ ∃ s, ofJson written = .ok s := by
  intro whole written
  have hnames : ["api_name", "branch", "lambda_func", "lambda_handler", "service_name"].Pairwise
      (· < ·) := by decide
  have hordered (n : Number) : (timedDocument n).Ordered := by
    refine Json.ordered_object hnames ?_
    simp [Json.Ordered, Json.OrderedMembers]
  have hwhole : Schema.ofServices.accepts whole = true := by decide +kernel
  have hwritten : Schema.ofServices.accepts written = true := by decide +kernel
  refine ⟨⟨hordered _, hwhole, (exists_ofJson_iff (hordered _) hwhole).2 ?_⟩, hordered _, hwritten,
    fun hspec => (exists_ofJson_iff (hordered _) hwritten).1 hspec ?_⟩
  · rintro ⟨place, hplace, n, hn, hunfit⟩
    have hthree : ∀ place ∈ Schema.integerPlaces, ∀ v ∈ whole.parts place,
        v = .number (.integer 3) := by
      simp [Schema.integerPlaces, Schema.functionPlaces, Schema.jobPlaces, whole, timedDocument,
        Json.parts, Json.member?, Json.memberValues, Table.lookup_cons_eq_ite]
    obtain ⟨_, hfloat⟩ | ⟨i, hi, hlarge⟩ := hunfit
    · cases hfloat ▸ hthree place hplace _ hn
    · cases hi ▸ hthree place hplace _ hn
      exact absurd hlarge (by decide)
  · exact ⟨[.member "lambda_func", .each, .member "timeout"], by decide, _,
      List.mem_singleton.2 rfl, .inl ⟨_, rfl⟩⟩

end ServiceSpec

end ServicePlan
