import ServicePlan.Proofs.Preparation

/-!
# The api name of a prepared spec

The api name of the raw text goes two ways.  As a string of the document it meets the replacements
of all placeholders.  What its own token stands for has met those of the account, the region and
the service name before, and meets the rest once it is in the place of the token.  The two ways make
the same replacements in the same order, except that the name in the document meets the replacement
of the api name as well, which finds nothing if the completed name does not have its own token.

* `Bindings.early`: the placeholders that are replaced before the api name.
* `specBindings_agree`: on the way to the api name, the bindings of a spec are those it is completed
  with.
* `substitute_token_api`, `substitute_apiName`: the two ways.
* `prepare_apiName`: the name of a prepared spec and the strings that are its token.
-/

namespace ServicePlan

namespace Bindings

variable {b c : Bindings} {text : List Char}

/-- The placeholders that are replaced before the api name. -/
def early : List Placeholder := [.account, .region, .serviceName, .service]

theorem all_eq : Placeholder.all = early ++ [.api, .branch] := rfl

/-- Bindings that agree on some placeholders replace them alike. -/
theorem foldl_congr {ps : List Placeholder} (h : ∀ p ∈ ps, b.value? p = c.value? p) :
    ps.foldl b.replaceToken text = ps.foldl c.replaceToken text := by
  induction ps generalizing text with
  | nil => rfl
  | cons p ps ih =>
    obtain ⟨hp, hps⟩ := List.forall_mem_cons.1 h
    have hfirst : b.replaceToken text p = c.replaceToken text p := by
      rw [replaceToken, replaceToken, hp]
    rw [List.foldl_cons, List.foldl_cons, hfirst, ih hps]

/-- What is not bound is not replaced. -/
theorem replaceToken_of_unbound {p : Placeholder} (h : b.value? p = .none) :
    b.replaceToken text p = text := by
  rw [replaceToken, h]

/-- The characters of the tokens up to that of the api name.  Deciding whether one text occurs in
another needs them spelled out. -/
theorem toList_token_api :
    Placeholder.service.token.toList = ['{', '$', 's', 'e', 'r', 'v', 'i', 'c', 'e', '}'] ∧
    Placeholder.api.token.toList = ['{', '$', 'a', 'p', 'i', '}'] := by
  decide

/-- The earlier tokens do not occur in the token of the api name. -/
theorem not_infix_token_api : ∀ p ∈ early, ¬ p.token.toList <:+: Placeholder.api.token.toList := by
  obtain ⟨haccount, hregion, hname⟩ := toList_token
  obtain ⟨hservice, hapi⟩ := toList_token_api
  simp only [early, List.forall_mem_cons, haccount, hregion, hname, hservice, hapi]
  decide

/-- What has none of the tokens of some placeholders is kept by their replacements. -/
theorem foldl_of_not_infix {ps : List Placeholder} (h : ∀ p ∈ ps, ¬ p.token.toList <:+: text) :
    ps.foldl b.replaceToken text = text := by
  induction ps with
  | nil => rfl
  | cons p ps ih =>
    obtain ⟨hp, hps⟩ := List.forall_mem_cons.1 h
    rw [List.foldl_cons, replaceToken_of_not_infix hp, ih hps]

end Bindings

/-! ## The two ways of the api name -/

variable {raw : String} {o : Options} {spec : ServiceSpec} {serviceName apiName : String}

/-- The api name with the placeholders replaced that it may refer to. -/
def completedApiName (o : Options) (serviceName apiName : String) : String :=
  (Bindings.ofApiName o.site serviceName).substitute apiName

/-- On the way to the api name, the bindings of a spec are those it is completed with. -/
theorem specBindings_agree (o : Options) (serviceName apiName : String) :
    ∀ p ∈ Bindings.early, (specBindings o serviceName apiName).value? p =
      (Bindings.ofApiName o.site serviceName).value? p := by
  intro p hp
  unfold specBindings Bindings.ofSpec
  cases o.branch <;> revert p <;> simp [Bindings.early, Bindings.ofApiName, Bindings.bind]

theorem value?_api_specBindings (o : Options) (serviceName apiName : String) :
    (specBindings o serviceName apiName).value? .api =
      some (completedApiName o serviceName apiName) := by
  unfold specBindings Bindings.ofSpec
  cases o.branch <;> rfl

/-- The replacements before the api name complete it. -/
theorem foldl_early_apiName (o : Options) (serviceName apiName : String) :
    Bindings.early.foldl (specBindings o serviceName apiName).replaceToken apiName.toList =
      (completedApiName o serviceName apiName).toList := by
  have hapi : (Bindings.ofApiName o.site serviceName).value? .api = none := rfl
  have hbranch : (Bindings.ofApiName o.site serviceName).value? .branch = none := rfl
  rw [Bindings.foldl_congr (specBindings_agree o serviceName apiName), completedApiName,
    Bindings.substitute, String.toList_ofList, Bindings.all_eq, List.foldl_append, List.foldl_cons,
    Bindings.replaceToken_of_unbound hapi, List.foldl_cons,
    Bindings.replaceToken_of_unbound hbranch, List.foldl_nil]

/-- The token of the api name stands for the completed name, in which the branch is replaced. -/
theorem substitute_token_api (o : Options) (serviceName apiName : String) :
    (specBindings o serviceName apiName).substitute Placeholder.api.token =
      String.ofList ((specBindings o serviceName apiName).replaceToken
        (completedApiName o serviceName apiName).toList .branch) := by
  have hearly : Bindings.early.foldl (specBindings o serviceName apiName).replaceToken
      Placeholder.api.token.toList = Placeholder.api.token.toList :=
    Bindings.foldl_of_not_infix Bindings.not_infix_token_api
  have hself : (specBindings o serviceName apiName).replaceToken Placeholder.api.token.toList .api =
      (completedApiName o serviceName apiName).toList := by
    rw [Bindings.replaceToken, value?_api_specBindings]
    exact Text.replace_self _ (by decide)
  rw [Bindings.substitute, Bindings.all_eq, List.foldl_append, hearly, List.foldl_cons, hself,
    List.foldl_cons, List.foldl_nil]

/-- In the document the api name becomes the same, if the completed name does not have its own
token. -/
theorem substitute_apiName
    (h : ¬ Placeholder.api.token.toList <:+: (completedApiName o serviceName apiName).toList) :
    (specBindings o serviceName apiName).substitute apiName =
      (specBindings o serviceName apiName).substitute Placeholder.api.token := by
  rw [substitute_token_api, Bindings.substitute, Bindings.all_eq, List.foldl_append,
    foldl_early_apiName, List.foldl_cons, Bindings.replaceToken_of_not_infix h, List.foldl_cons,
    List.foldl_nil]

/-! ## The name of a decoded spec -/

namespace ServiceSpec

/-- A service that has been built from its fields has the api name that it was given. -/
theorem look_apiName_of_build {look : String → Option Json} :
    ∀ spec, fields.build look = .ok spec → look "api_name" = some (.string spec.apiName) := by
  unfold fields
  -- one field after another is taken off, down to the second
  iterate 13 refine Fields.of_build_seq ?_
  intro _ h
  obtain ⟨_, name, hmake, hname, rfl⟩ := Fields.exists_of_build_seq h
  obtain ⟨_, -, rfl⟩ := Fields.exists_of_build_map hmake
  obtain ⟨v, hv, hname⟩ := Fields.given_of_build_required hname
  rw [hv]
  cases v with
  | string s =>
    cases hname
    intros
    rfl
  | null | bool | number | array | object => cases hname

/-- The api name of a spec is the member of that name of its document. -/
theorem apiName_of_ofJson {v w : Json} (h : ofJson v = .ok spec)
    (hw : v.member? "api_name" = some w) : w = .string spec.apiName := by
  obtain ⟨s, hs, h⟩ := Json.exists_of_bind_eq_ok h
  obtain ⟨_, -, h⟩ := Json.exists_of_bind_eq_ok h
  cases h
  rw [Json.mapError_eq_ok_iff] at hs
  cases v with
  | object members =>
    obtain ⟨look, hbuild, hlook⟩ := Fields.exists_build_of_decode alternative_fields hs
    have hname := look_apiName_of_build _ hbuild
    rw [hlook "api_name" (by decide)] at hname
    exact Option.some.inj (hw.symm.trans hname)
  | null | bool | number | string | array => cases hw

end ServiceSpec

/-! ## What a text goes through -/

/-- A name that a document gives is there if it is not blank. -/
theorem requiredName_of_member? {document : Json} {field name : String}
    (h : document.member? field = some (.string name)) (hname : name ≠ "") :
    requiredName document field = .ok name := by
  rw [requiredName, h, Option.bind_some]
  exact if_neg hname

/-- The api name is a member of the raw document. -/
theorem member?_apiName_of_peekNames {document : Json}
    (h : peekNames raw = .ok (serviceName, apiName)) (hread : Json.read raw = .ok document) :
    document.member? "api_name" = some (.string apiName) := by
  obtain ⟨document', hparse, h⟩ := Json.exists_of_bind_eq_ok h
  obtain ⟨_, -, h⟩ := Json.exists_of_bind_eq_ok h
  obtain ⟨_, ha, h⟩ := Json.exists_of_bind_eq_ok h
  cases h
  cases hread.symm.trans (Json.mapError_eq_ok_iff.1 hparse)
  exact member?_of_requiredName ha

/-- The spec of a text is that of the raw document with the placeholders replaced in its strings and
names. -/
theorem ofJson_mapText_of_prepare {document : Json} (haccepted : (prepare raw o).result = .ok spec)
    (hread : Json.read raw = .ok document) (hfree : Json.hexFree raw.toList)
    (hnames : peekNames raw = .ok (serviceName, apiName))
    (hplain : (specBindings o serviceName apiName).IsPlain)
    (hapart : document.NamesApart (specBindings o serviceName apiName).substitute) :
    ∃ text, complete raw o = .ok text ∧
      Json.read text = .ok (document.mapText (specBindings o serviceName apiName).substitute) ∧
      ServiceSpec.ofJson (document.mapText (specBindings o serviceName apiName).substitute) =
        .ok spec := by
  obtain ⟨text, decoded, hcomplete, hdecoded, -, hspec⟩ := exists_of_prepare haccepted
  have htext := Except.ok.inj ((complete_eq_ok hnames).symm.trans hcomplete)
  have hmapped := Bindings.read_substitute hplain hread hfree hapart
  rw [htext] at hmapped
  obtain rfl := Except.ok.inj (hmapped.symm.trans hdecoded)
  exact ⟨text, hcomplete, hdecoded, hspec⟩

/-- **One api name.**  If the completed api name does not have its own token, the name of a spec and
what its token becomes are the same, in the strings of the document and in the names on the way to
them, whatever other tokens the api name is written with. -/
theorem prepare_apiName {document : Json} (haccepted : (prepare raw o).result = .ok spec)
    (hread : Json.read raw = .ok document) (hfree : Json.hexFree raw.toList)
    (hnames : peekNames raw = .ok (serviceName, apiName))
    (haccount : Json.IsPlainText o.site.account) (hregion : Json.IsPlainText o.site.region)
    (hbranch : ∀ branch, o.branch = some branch → Json.IsPlainText branch)
    (hservice : Json.IsPlainText serviceName) (hapi : Json.IsPlainText apiName)
    (hapart : document.NamesApart (specBindings o serviceName apiName).substitute)
    (htoken : ¬ Placeholder.api.token.toList <:+:
      ((Bindings.ofApiName o.site serviceName).substitute apiName).toList) :
    ∃ text decoded, complete raw o = .ok text ∧ Json.read text = .ok decoded ∧
      ServiceSpec.ofJson decoded = .ok spec ∧
      decoded.member? "api_name" = some (.string spec.apiName) ∧
      (specBindings o serviceName apiName).substitute Placeholder.api.token = spec.apiName ∧
      ∀ path, document.get? path = some (.string Placeholder.api.token) →
        decoded.get? (path.map (·.map (specBindings o serviceName apiName).substitute)) =
          some (.string spec.apiName) := by
  have hplain := isPlain_specBindings haccount hregion hbranch hservice hapi
  obtain ⟨text, hcomplete, hdecoded, hspec⟩ :=
    ofJson_mapText_of_prepare haccepted hread hfree hnames hplain hapart
  have hsame := substitute_apiName htoken
  generalize specBindings o serviceName apiName = b at hapart hsame hdecoded hspec ⊢
  -- the field of the name has met all replacements
  have hmember := (Json.member?_mapText hapart (member?_apiName_of_peekNames hnames hread)).1
  rw [Bindings.substitute_of_not_mem (by decide), Json.mapText, hsame] at hmember
  have hname : b.substitute Placeholder.api.token = spec.apiName :=
    Json.string.inj (ServiceSpec.apiName_of_ofJson hspec hmember)
  rw [hname] at hmember
  refine ⟨text, _, hcomplete, hdecoded, hspec, hmember, hname, fun path hpath => ?_⟩
  rw [Json.get?_mapText hapart hpath, Json.mapText, hname]

/-- The text of a small spec whose api name has tokens of the service name, of the branch, of the
account and one that nothing is bound to.  A tag and its value are the token of the api name. -/
def apiNameText : String :=
  "\x7b\"service_name\":\"shop\",\"api_name\":\"\x7b$service_name\x7d-\x7b$branch\x7d-\x7b$zone\x7d-\x7b$account\x7d\",\"branch\":\x7b\"dev\":\x7b\x7d\x7d,\"lambda_handler\":\"run\",\"tags\":\x7b\"\x7b$api\x7d\":\"\x7b$api\x7d\"\x7d\x7d"

/-- The api name of the spec as it is written. -/
def writtenApiName : String :=
  "\x7b$service_name\x7d-\x7b$branch\x7d-\x7b$zone\x7d-\x7b$account\x7d"

/-- The value of the raw text. -/
def apiNameValue : Json :=
  .object [("api_name", .string writtenApiName), ("branch", .object [("dev", .object [])]),
    ("lambda_handler", .string "run"), ("service_name", .string "shop"),
    ("tags", .object [("\x7b$api\x7d", .string "\x7b$api\x7d")])]

theorem namesApart_apiNameValue (b : Bindings) : apiNameValue.NamesApart b.substitute := by
  have hkeep : ∀ name ∈ ["api_name", "branch", "dev", "lambda_handler", "service_name", "tags"],
      b.substitute name = name := by
    intro name hname
    refine Bindings.substitute_of_not_mem ?_
    revert name
    decide
  simp [apiNameValue, Json.NamesApart, Json.MembersApart, hkeep]

/-- The tag of the spec is its api name. -/
theorem prepare_apiName_apiNameText :
    ∃ spec, (prepare apiNameText taggedOptions).result = .ok spec ∧
      Json.hexFree apiNameText.toList ∧ spec.apiName = "shop-dev-\x7b$zone\x7d-123456789012" ∧
      ∃ text decoded, complete apiNameText taggedOptions = .ok text ∧
        Json.read text = .ok decoded ∧
        decoded.get? [.member "tags", .member spec.apiName] = some (.string spec.apiName) := by
  have haccepted : ∃ spec, (prepare apiNameText taggedOptions).result = .ok spec := by
    have hsome : (prepare apiNameText taggedOptions).result.isOk = true := by
      decide +kernel
    cases hresult : (prepare apiNameText taggedOptions).result with
    | ok spec => exact ⟨spec, rfl⟩
    | error f =>
      rw [hresult] at hsome
      cases hsome
  obtain ⟨spec, hspec⟩ := haccepted
  have hread : Json.read apiNameText = .ok apiNameValue := by cbv
  have hfree : Json.hexFree apiNameText.toList := by decide +kernel
  have hnames : peekNames apiNameText = .ok ("shop", writtenApiName) := by
    have hparse : parseSpec apiNameText = .ok apiNameValue := Json.mapError_eq_ok_iff.2 hread
    have hservice := requiredName_of_member? (show apiNameValue.member? "service_name" = _ from rfl)
      (show "shop" ≠ "" by decide)
    have hapi := requiredName_of_member? (show apiNameValue.member? "api_name" = _ from rfl)
      (show writtenApiName ≠ "" by decide)
    exact Json.bind_eq_ok hparse (Json.bind_eq_ok hservice (Json.bind_eq_ok hapi rfl))
  have htoken : ¬ Placeholder.api.token.toList <:+:
      ((Bindings.ofApiName taggedOptions.site "shop").substitute writtenApiName).toList := by
    decide +kernel
  obtain ⟨text, decoded, htext, hdecoded, -, -, hname, htag⟩ :=
    prepare_apiName hspec hread hfree hnames (by decide) (by decide)
      (by
        rintro branch hbranch
        cases hbranch
        decide) (by decide) (by decide) (namesApart_apiNameValue _) htoken
  have hvalue : spec.apiName = "shop-dev-\x7b$zone\x7d-123456789012" := by
    rw [← hname]
    decide +kernel
  have hpath := htag [.member "tags", .member Placeholder.api.token] (by rfl)
  rw [List.map_cons, List.map_cons, List.map_nil, Json.Step.map, Json.Step.map, hname,
    Bindings.substitute_of_not_mem (by decide)] at hpath
  exact ⟨spec, hspec, hfree, hvalue, text, decoded, htext, hdecoded, hpath⟩

end ServicePlan
