import ServicePlan.Proofs.Json.Path
import ServicePlan.Proofs.Json.Substitution
import ServicePlan.Proofs.Records
import ServicePlan.Synthesis

/-!
# The service name of a prepared spec

The service name is read from the raw text and then stands for its token everywhere in that text.
The placeholders are replaced one after another, so a name that has tokens of its own may come out
differently in the field of the name, which goes through all of them, and in the place of the token,
where only the later ones are still to come.

* `Bindings.substitute_token_serviceName`: what becomes of the token of the service name.
* `ServiceSpec.eq_of_ofJson`: the name of a spec is a member of its document.
* `prepare_serviceName`: the name and the strings that are its token agree if the name has no token
  of the account, of the region or of the service name.
* `prepare_serviceName_region`: a name with the token of the region, where they do not.
-/

namespace ServicePlan

/-! ## Plain texts stay plain -/

namespace Text

/-- What is in a text after a replacement was in it before or is in the value. -/
theorem mem_replace {pattern value text : List Char} {c : Char}
    (h : c ∈ replace pattern value text) : c ∈ value ∨ c ∈ text := by
  suffices hgen : ∀ skip, c ∈ replaceFrom pattern value skip text → c ∈ value ∨ c ∈ text from
    hgen 0 h
  clear h
  induction text with
  | nil =>
    intro skip h
    rw [replaceFrom_nil] at h
    exact .inr h
  | cons x rest ih =>
    have hrest : ∀ skip, c ∈ replaceFrom pattern value skip rest → c ∈ value ∨ c ∈ x :: rest :=
      fun skip h => (ih skip h).imp_right (List.mem_cons_of_mem x)
    intro skip h
    cases skip with
    | succ skip => exact hrest skip h
    | zero =>
      rw [replaceFrom] at h
      split at h
      · exact (List.mem_append.1 h).elim .inl (hrest _)
      · rcases List.mem_cons.1 h with rfl | h
        · exact .inr (List.mem_cons_self ..)
        · exact hrest _ h

end Text

namespace Bindings

variable {b : Bindings}

theorem isPlain_none : none.IsPlain := fun _ _ h => by cases h

theorem IsPlain.bind (hb : b.IsPlain) (p : Placeholder) {value : String}
    (hvalue : Json.IsPlainText value) : (b.bind p value).IsPlain := by
  intro q w hw
  by_cases hq : q = p
  · subst hq
    rw [value?_bind_self] at hw
    cases hw
    exact hvalue
  · rw [value?_bind_of_ne b value hq] at hw
    exact hb q w hw

theorem isPlainText_substitute (hb : b.IsPlain) {text : String} (htext : Json.IsPlainText text) :
    Json.IsPlainText (b.substitute text) := by
  have hfold : ∀ (ps : List Placeholder) (chars : List Char), (∀ c ∈ chars, Json.IsPlain c) →
      ∀ c ∈ ps.foldl b.replaceToken chars, Json.IsPlain c := by
    intro ps
    induction ps with
    | nil => exact fun _ h => h
    | cons p ps ih =>
      intro chars hchars
      refine ih _ fun c hc => ?_
      rw [replaceToken] at hc
      split at hc
      · rename_i value hvalue
        exact (Text.mem_replace hc).elim (hb p value hvalue c) (hchars c)
      · exact hchars c hc
  intro c hc
  rw [substitute, String.toList_ofList] at hc
  exact hfold Placeholder.all text.toList htext c hc

end Bindings

/-- The placeholders of a spec stand for plain texts if the site, the branch and the names are
plain. -/
theorem isPlain_specBindings {o : Options} {serviceName apiName : String}
    (haccount : Json.IsPlainText o.site.account) (hregion : Json.IsPlainText o.site.region)
    (hbranch : ∀ branch, o.branch = some branch → Json.IsPlainText branch)
    (hservice : Json.IsPlainText serviceName) (hapi : Json.IsPlainText apiName) :
    (specBindings o serviceName apiName).IsPlain := by
  have hshared := ((Bindings.isPlain_none.bind .account haccount).bind .region hregion).bind
    .serviceName hservice
  have hnamed := hshared.bind .api (Bindings.isPlainText_substitute hshared hapi)
  unfold specBindings Bindings.ofSpec
  cases hcase : o.branch with
  | none => exact hnamed
  | some branch => exact hnamed.bind .branch (hbranch branch hcase)

/-! ## The passes over the service name -/

namespace Bindings

variable {b : Bindings}

theorem replaceToken_of_not_infix {text : List Char} {p : Placeholder}
    (h : ¬ p.token.toList <:+: text) : b.replaceToken text p = text := by
  unfold replaceToken
  split
  · exact Text.replace_of_not_infix h
  · rfl

/-- A text in which only the placeholders behind the service name are replaced. -/
def substituteLate (b : Bindings) (text : String) : String :=
  String.ofList ([Placeholder.service, .api, .branch].foldl b.replaceToken text.toList)

theorem substitute_eq (text : String) : b.substitute text =
    b.substituteLate (String.ofList
      ([Placeholder.account, .region, .serviceName].foldl b.replaceToken text.toList)) := by
  rw [substitute, substituteLate, String.toList_ofList, ← List.foldl_append]
  rfl

/-- The characters of the earlier tokens and of the token of the service name.  Deciding whether one
text occurs in another needs them spelled out. -/
theorem toList_token :
    Placeholder.account.token.toList = ['{', '$', 'a', 'c', 'c', 'o', 'u', 'n', 't', '}'] ∧
    Placeholder.region.token.toList = ['{', '$', 'r', 'e', 'g', 'i', 'o', 'n', '}'] ∧
    Placeholder.serviceName.token.toList =
      ['{', '$', 's', 'e', 'r', 'v', 'i', 'c', 'e', '_', 'n', 'a', 'm', 'e', '}'] := by
  decide

/-- The earlier tokens do not occur in the token of the service name. -/
theorem not_infix_token_serviceName :
    ∀ p ∈ [Placeholder.account, .region],
      ¬ p.token.toList <:+: Placeholder.serviceName.token.toList := by
  obtain ⟨haccount, hregion, hname⟩ := toList_token
  simp only [List.forall_mem_cons, haccount, hregion, hname]
  decide

/-- The token of the service name stands for the name as it is written, in which only the later
placeholders are replaced. -/
theorem substitute_token_serviceName {serviceName : String}
    (h : b.value? .serviceName = some serviceName) :
    b.substitute Placeholder.serviceName.token = b.substituteLate serviceName := by
  have haccount : b.replaceToken Placeholder.serviceName.token.toList .account =
      Placeholder.serviceName.token.toList :=
    replaceToken_of_not_infix (not_infix_token_serviceName _ (by simp))
  have hregion : b.replaceToken Placeholder.serviceName.token.toList .region =
      Placeholder.serviceName.token.toList :=
    replaceToken_of_not_infix (not_infix_token_serviceName _ (by simp))
  have hself : b.replaceToken Placeholder.serviceName.token.toList .serviceName =
      serviceName.toList := by
    rw [replaceToken, h]
    exact Text.replace_self _ (by decide)
  rw [substitute_eq, List.foldl_cons, haccount, List.foldl_cons, hregion, List.foldl_cons, hself,
    List.foldl_nil, String.ofList_toList]

/-- A text without the tokens of the earlier placeholders is left to the later ones. -/
theorem substitute_eq_substituteLate {text : String}
    (h : ∀ p ∈ [Placeholder.account, .region, .serviceName], ¬ p.token.toList <:+: text.toList) :
    b.substitute text = b.substituteLate text := by
  have hkeep : ∀ p ∈ [Placeholder.account, .region, .serviceName],
      b.replaceToken text.toList p = text.toList := fun p hp => replaceToken_of_not_infix (h p hp)
  rw [substitute_eq, List.foldl_cons, hkeep _ (by simp), List.foldl_cons, hkeep _ (by simp),
    List.foldl_cons, hkeep _ (by simp), List.foldl_nil, String.ofList_toList]

/-- A text without an opening brace has no tokens. -/
theorem substitute_of_not_mem {text : String} (h : '{' ∉ text.toList) :
    b.substitute text = text := by
  have hkeep : ∀ p : Placeholder, b.replaceToken text.toList p = text.toList := fun p =>
    replaceToken_of_not_infix fun hinside => h (hinside.subset (by cases p <;> decide))
  rw [substitute, List.foldl_fixed' hkeep, String.ofList_toList]

end Bindings

theorem value?_serviceName_specBindings (o : Options) (serviceName apiName : String) :
    (specBindings o serviceName apiName).value? .serviceName = some serviceName := by
  unfold specBindings Bindings.ofSpec
  cases o.branch <;> rfl

/-! ## The name of a decoded spec -/

namespace ServiceSpec

/-- The fields of a service go by one name each. -/
theorem alternative_fields : ∀ f ∈ fields.fields, f.alternative = none := by
  decide

/-- A service that has been built from its fields has the name that it was given. -/
theorem look_of_build {look : String → Option Json} : ∀ spec, fields.build look = .ok spec →
    look "service_name" = some (.string spec.serviceName) := by
  unfold fields
  -- one field after another is taken off, down to the first
  iterate 14 refine Fields.of_build_seq ?_
  intro _ h
  obtain ⟨name, hname, rfl⟩ := Fields.exists_of_build_map h
  obtain ⟨v, hv, hname⟩ := Fields.given_of_build_required hname
  rw [hv]
  cases v with
  | string s =>
    cases hname
    intros
    rfl
  | null | bool | number | array | object => cases hname

/-- The name of a spec is the member of that name of its document. -/
theorem eq_of_ofJson {v w : Json} {spec : ServiceSpec} (h : ofJson v = .ok spec)
    (hw : v.member? "service_name" = some w) : w = .string spec.serviceName := by
  obtain ⟨s, hs, h⟩ := Json.exists_of_bind_eq_ok h
  obtain ⟨_, -, h⟩ := Json.exists_of_bind_eq_ok h
  cases h
  rw [Json.mapError_eq_ok_iff] at hs
  cases v with
  | object members =>
    obtain ⟨given, hgiven, hbuild⟩ := Json.exists_of_bind_eq_ok hs
    have hlookup : given.lookup "service_name" =
        (List.lookup "service_name" []).or (members.lookup "service_name") :=
      Fields.lookup_fromMembers alternative_fields ⟨_, List.mem_cons_self .., rfl⟩ hgiven
    rw [look_of_build _ hbuild, List.lookup_nil, Option.none_or] at hlookup
    exact Option.some.inj (hw.symm.trans hlookup.symm)
  | null | bool | number | string | array => cases hw

end ServiceSpec

/-! ## What a text goes through -/

variable {raw : String} {o : Options} {spec : ServiceSpec}

theorem exists_of_prepare (h : (prepare raw o).result = .ok spec) :
    ∃ text decoded, complete raw o = .ok text ∧ Json.read text = .ok decoded ∧
      validate decoded o.schema = .ok () ∧ ServiceSpec.ofJson decoded = .ok spec := by
  unfold prepare at h
  split at h
  · cases h
  · rename_i text hcomplete
    dsimp only at h
    split at h
    · cases h
    · rename_i spec' hdecode
      cases h
      obtain ⟨decoded, hread, hdecode⟩ := Json.exists_of_bind_eq_ok hdecode
      obtain ⟨_, hvalid, hspec⟩ := Json.exists_of_bind_eq_ok hdecode
      exact ⟨text, decoded, hcomplete, Json.mapError_eq_ok_iff.1 hread, hvalid, hspec⟩

theorem member?_of_requiredName {document : Json} {field name : String}
    (h : requiredName document field = .ok name) :
    document.member? field = some (.string name) := by
  unfold requiredName at h
  split at h
  · rename_i s hs
    split at h
    · cases h
    · cases h
      obtain ⟨v, hv, hs⟩ := Option.bind_eq_some_iff.1 hs
      cases v <;> cases hs
      exact hv
  · cases h

/-- The names are members of the raw document. -/
theorem member?_of_peekNames {document : Json} {serviceName apiName : String}
    (h : peekNames raw = .ok (serviceName, apiName)) (hread : Json.read raw = .ok document) :
    document.member? "service_name" = some (.string serviceName) := by
  obtain ⟨document', hparse, h⟩ := Json.exists_of_bind_eq_ok h
  obtain ⟨s, hs, h⟩ := Json.exists_of_bind_eq_ok h
  obtain ⟨a, -, h⟩ := Json.exists_of_bind_eq_ok h
  cases h
  cases hread.symm.trans (Json.mapError_eq_ok_iff.1 hparse)
  exact member?_of_requiredName hs

theorem complete_eq_ok {serviceName apiName : String}
    (h : peekNames raw = .ok (serviceName, apiName)) :
    complete raw o = .ok ((specBindings o serviceName apiName).substitute raw) :=
  Json.bind_eq_ok h rfl

/-- The name of a spec is the name that its raw text gives, with all placeholders replaced.  A
string that is the token of the service name becomes the name with only the later placeholders
replaced.  The two agree if the name has no token of an earlier placeholder and none of its own. -/
theorem prepare_serviceName {document : Json} {serviceName apiName : String}
    (haccepted : (prepare raw o).result = .ok spec) (hread : Json.read raw = .ok document)
    (hfree : Json.hexFree raw.toList) (hnames : peekNames raw = .ok (serviceName, apiName))
    (haccount : Json.IsPlainText o.site.account) (hregion : Json.IsPlainText o.site.region)
    (hbranch : ∀ branch, o.branch = some branch → Json.IsPlainText branch)
    (hservice : Json.IsPlainText serviceName) (hapi : Json.IsPlainText apiName)
    (hapart : document.NamesApart (specBindings o serviceName apiName).substitute) :
    ∃ text decoded, complete raw o = .ok text ∧ Json.read text = .ok decoded ∧
      decoded.member? "service_name" = some (.string spec.serviceName) ∧
      spec.serviceName = (specBindings o serviceName apiName).substitute serviceName ∧
      (∀ path, document.get? path = some (.string Placeholder.serviceName.token) →
        decoded.get? (path.map (·.map (specBindings o serviceName apiName).substitute)) =
          some (.string ((specBindings o serviceName apiName).substituteLate serviceName))) ∧
      ((∀ p ∈ [Placeholder.account, .region, .serviceName],
          ¬ p.token.toList <:+: serviceName.toList) →
        (specBindings o serviceName apiName).substituteLate serviceName = spec.serviceName) := by
  obtain ⟨text, decoded, hcomplete, hdecoded, -, hspec⟩ := exists_of_prepare haccepted
  have hvalue := value?_serviceName_specBindings o serviceName apiName
  have hplain := isPlain_specBindings haccount hregion hbranch hservice hapi
  have htext := Except.ok.inj ((complete_eq_ok hnames).symm.trans hcomplete)
  generalize specBindings o serviceName apiName = b at hapart hvalue hplain htext ⊢
  subst htext
  -- the completed text reads as the raw one, with its strings and names replaced
  have hmapped : Json.read (b.substitute raw) = .ok (document.mapText b.substitute) :=
    Json.read_onStrings (Bindings.actsInStrings_foldl hplain Placeholder.all) hread hfree hapart
  obtain rfl := Except.ok.inj (hmapped.symm.trans hdecoded)
  have hmember := (Json.member?_mapText hapart (member?_of_peekNames hnames hread)).1
  rw [Bindings.substitute_of_not_mem (by decide), Json.mapText] at hmember
  have hname := ServiceSpec.eq_of_ofJson hspec hmember
  have hsame : spec.serviceName = b.substitute serviceName := (Json.string.inj hname).symm
  refine ⟨_, _, hcomplete, hdecoded, hname ▸ hmember, hsame, fun path hpath => ?_,
    fun htokens => ?_⟩
  · rw [Json.get?_mapText hapart hpath, Json.mapText, Bindings.substitute_token_serviceName hvalue]
  · rw [hsame, Bindings.substitute_eq_substituteLate htokens]

/-- The value of a small spec in which a tag is the token of the service name. -/
def taggedValue (serviceName : String) : Json :=
  .object [("api_name", .string "api"), ("branch", .object [("dev", .object [])]),
    ("lambda_handler", .string "run"), ("service_name", .string serviceName),
    ("tags", .object [("service", .string "\x7b$service_name\x7d")])]

/-- The names of the spec stay apart, since none of them has a token. -/
theorem namesApart_taggedValue (b : Bindings) (serviceName : String) :
    (taggedValue serviceName).NamesApart b.substitute := by
  have hkeep : ∀ name ∈ ["api_name", "branch", "dev", "lambda_handler", "service_name", "tags",
      "service"], b.substitute name = name := by
    intro name hname
    refine Bindings.substitute_of_not_mem ?_
    revert name
    decide
  simp [taggedValue, Json.NamesApart, Json.MembersApart, hkeep]

/-- The names that are read first from the text of the spec. -/
theorem peekNames_of_read_taggedValue {serviceName : String} (hne : serviceName ≠ "")
    (h : Json.read raw = .ok (taggedValue serviceName)) :
    peekNames raw = .ok (serviceName, "api") := by
  have hservice : requiredName (taggedValue serviceName) "service_name" = .ok serviceName :=
    if_neg hne
  have hparse : parseSpec raw = .ok (taggedValue serviceName) := Json.mapError_eq_ok_iff.2 h
  exact Json.bind_eq_ok hparse (Json.bind_eq_ok hservice rfl)

/-- A site and a branch for the spec. -/
def taggedOptions : Options := { site := ⟨"123456789012", "us-east-1"⟩, branch := some "dev" }

/-- The text of the spec with the token of the branch in the service name. -/
def branchNameText : String :=
  "\x7b\"service_name\":\"shop-\x7b$branch\x7d\",\"api_name\":\"api\",\"branch\":\x7b\"dev\":\x7b\x7d\x7d,\"lambda_handler\":\"run\",\"tags\":\x7b\"service\":\"\x7b$service_name\x7d\"\x7d\x7d"

/-- A service name with the token of the branch, which is replaced last. -/
theorem prepare_serviceName_branch :
    ∃ spec, (prepare branchNameText taggedOptions).result = .ok spec ∧
      Json.hexFree branchNameText.toList ∧ spec.serviceName = "shop-dev" ∧
      ∃ text decoded, complete branchNameText taggedOptions = .ok text ∧
        Json.read text = .ok decoded ∧
        decoded.get? [.member "tags", .member "service"] = some (.string "shop-dev") := by
  have haccepted : ∃ spec, (prepare branchNameText taggedOptions).result = .ok spec := by
    have hsome : (prepare branchNameText taggedOptions).result.isOk = true := by
      decide +kernel
    cases hresult : (prepare branchNameText taggedOptions).result with
    | ok spec => exact ⟨spec, rfl⟩
    | error f =>
      rw [hresult] at hsome
      cases hsome
  obtain ⟨spec, hspec⟩ := haccepted
  have hread : Json.read branchNameText = .ok (taggedValue "shop-\x7b$branch\x7d") := by cbv
  have hfree : Json.hexFree branchNameText.toList := by decide +kernel
  have hnames := peekNames_of_read_taggedValue (by decide) hread
  have htokens : ∀ p ∈ [Placeholder.account, .region, .serviceName],
      ¬ p.token.toList <:+: "shop-\x7b$branch\x7d".toList := by
    obtain ⟨haccount, hregion, hservice⟩ := Bindings.toList_token
    have hname : "shop-\x7b$branch\x7d".toList =
        ['s', 'h', 'o', 'p', '-', '{', '$', 'b', 'r', 'a', 'n', 'c', 'h', '}'] := by decide
    simp only [List.forall_mem_cons, haccount, hregion, hservice, hname]
    decide
  obtain ⟨text, decoded, htext, hdecoded, -, hname, htags, hsame⟩ :=
    prepare_serviceName hspec hread hfree hnames (by decide) (by decide)
      (by
        rintro branch hbranch
        cases hbranch
        decide) (by decide) (by decide) (namesApart_taggedValue _ _)
  have hdev : spec.serviceName = "shop-dev" := by
    rw [hname]
    decide +kernel
  have htag := htags [.member "tags", .member "service"] (by rfl)
  rw [hsame htokens, hdev, List.map_cons, List.map_cons, List.map_nil, Json.Step.map, Json.Step.map,
    Bindings.substitute_of_not_mem (by decide), Bindings.substitute_of_not_mem (by decide)] at htag
  exact ⟨spec, hspec, hfree, hdev, text, decoded, htext, hdecoded, htag⟩

/-- The text of the spec with the token of the region in the service name. -/
def regionNameText : String :=
  "\x7b\"service_name\":\"shop-\x7b$region\x7d\",\"api_name\":\"api\",\"branch\":\x7b\"dev\":\x7b\x7d\x7d,\"lambda_handler\":\"run\",\"tags\":\x7b\"service\":\"\x7b$service_name\x7d\"\x7d\x7d"

/-- A service name with the token of the region, which is replaced before the token of the name: the
tag keeps a token that is bound. -/
theorem prepare_serviceName_region :
    Json.read regionNameText = .ok (taggedValue "shop-\x7b$region\x7d") ∧
      Json.hexFree regionNameText.toList ∧
      (∀ b : Bindings, (taggedValue "shop-\x7b$region\x7d").NamesApart b.substitute) ∧
      (prepare regionNameText taggedOptions).result.toOption.map
          (fun spec => (spec.serviceName, spec.tags.get? "service")) =
        some ("shop-us-east-1", some "shop-\x7b$region\x7d") :=
  ⟨by cbv, by decide +kernel, fun b => namesApart_taggedValue b _, by decide +kernel⟩

end ServicePlan
