import ServicePlan.Proofs.Authorization
import ServicePlan.Proofs.Outline

/-!
# Issuers and login clients

An authorizer trusts the issuer of one user pool and takes tokens for one login client.  The user
pool is the one that the integration names, and the login client is that of the app that it names;
which user pool the login client is in is said by the app.  The two may be different, and then no
token of the login client is trusted: a build compares the names of user pools with those that the
spec declares, and never one user pool with another.

* `Intent.Takes`, `Intent.TrustsPoolOf`: an authorizer and a login client.
* `Plan.Agrees`: what a plan in which all authorizers fit their login clients keeps; `club` is a
  service whose plan does not.
* `Blueprint.Joins`: where an authorizer has its issuer and its login client from.
* `Blueprint.build_withPools`: a build with other user pools of the same names.
* `Blueprint.keepsPools_of_build`: what comes of a build without a fault.
-/

namespace ServicePlan

/-! ## Authorizers and login clients -/

namespace Intent

/-- An authorizer takes the tokens that are for a login client. -/
def Takes (i client : Intent) : Prop := i.jwt? "audience" = some (.strings [client.handle.ref])

/-- An authorizer trusts the issuer of the user pool that a login client is in. -/
def TrustsPoolOf (n : Naming) (i client : Intent) : Prop :=
  ∃ id, client.text? "user_pool_id" = some id ∧
    i.jwt? "issuer" = some (.string (n.userPoolUrl id))

/-- An authorizer takes the tokens of one login client. -/
theorem Takes.handle_eq {i client other : Intent} (h : i.Takes client) (hother : i.Takes other) :
    client.handle = other.handle := by
  have hjson : Json.strings [client.handle.ref] = .strings [other.handle.ref] :=
    Option.some.inj (h.symm.trans hother)
  simp only [Json.strings, List.map_cons, List.map_nil, Json.array.injEq, List.cons.injEq,
    Json.string.injEq, and_true] at hjson
  exact Handle.ref_inj.1 hjson

end Intent

/-- All authorizers of a plan trust the issuers of the user pools that their login clients are
in. -/
def Plan.Agrees (n : Naming) (p : Plan) : Prop :=
  ∀ i ∈ p.byCategory .authorizer, ∀ client ∈ p.byCategory .userPoolClient,
    i.Takes client → i.TrustsPoolOf n client

/-- The issuers of two user pools are one exactly if the user pools are. -/
theorem Naming.userPoolUrl_inj {n : Naming} {id other : String} :
    n.userPoolUrl id = n.userPoolUrl other ↔ id = other :=
  String.append_right_inj _

/-! ## User pools of a spec -/

/-- The user pool that a spec declares under a name. -/
def ServiceSpec.pool? (s : ServiceSpec) (user : String) : Option UserPoolSpec :=
  s.references.bind fun r => r.pools.get? user

/-- Wherever an integration names a user pool and an app, the app names a user pool of the same
id. -/
def ServiceSpec.PoolsMatch (s : ServiceSpec) : Prop :=
  ∀ e ∈ s.integrationTable.entries, ∀ auth, e.2.authorization = some auth →
    ∀ a user, (auth.app, a) ∈ s.appTable.entries → a.user = some user →
      (s.pool? auth.user).map (·.id) = (s.pool? user).map (·.id)

/-- References to other user pools. -/
def ReferenceSpec.withPools (r : ReferenceSpec) (pools : Table UserPoolSpec) : ReferenceSpec :=
  { r with pools }

namespace References

variable {spec : ReferenceSpec} {site : Deployment} {versions : LayerVersions} {r : References}

/-- Resolved references with other user pools. -/
def withPools (r : References) (n : Naming) (pools : Table UserPoolSpec) : References :=
  { r with pools := pools.map fun _ p => poolOf n p }

/-- Whether references are resolved, and to which layers, does not depend on the user pools. -/
theorem resolve_withPools (h : (resolve (some spec) site versions).2 = .ok r)
    (pools : Table UserPoolSpec) (apiName : String) :
    (resolve (some (spec.withPools pools)) site versions).2 =
      .ok (r.withPools ⟨apiName, site⟩ pools) := by
  have hlayers : (spec.withPools pools).layers = spec.layers := rfl
  rw [resolve] at h ⊢
  rw [hlayers]
  cases hrun : Resolver.run versions ⟨"", site⟩ spec.layers.entries {} with
  | mk s fault =>
    rw [hrun] at h
    cases fault with
    | some f => cases h
    | none =>
      cases h
      rfl

end References

namespace Blueprint

variable {b : Blueprint} {auth : AuthorizationSpec} {i : Intent} {versions : LayerVersions}

/-- The user pools of the resolved references are those that the spec declares. -/
theorem references_eq_withPools {spec : ReferenceSpec} (hspec : b.spec.references = some spec)
    (hreferences : (References.resolve b.spec.references b.site versions).2 = .ok b.references) :
    b.references = b.references.withPools b.naming spec.pools := by
  rw [hspec] at hreferences
  exact Except.ok.inj <| hreferences.symm.trans <|
    References.resolve_withPools hreferences spec.pools b.spec.apiName

/-- A user pool of the resolved references is one that the spec declares. -/
theorem exists_pool? {user : String} {pool : UserPool}
    (hreferences : (References.resolve b.spec.references b.site versions).2 = .ok b.references)
    (hpool : b.references.pools.get? user = some pool) :
    ∃ declared, b.spec.pool? user = some declared ∧ pool = References.poolOf b.naming declared := by
  cases hspec : b.spec.references with
  | none =>
    rw [hspec] at hreferences
    rw [← Except.ok.inj hreferences] at hpool
    cases hpool
  | some spec =>
    rw [references_eq_withPools hspec hreferences] at hpool
    obtain ⟨⟨_, declared⟩, he, heq⟩ := List.mem_map.1 (Table.get?_eq_some_iff.1 hpool)
    cases heq
    refine ⟨declared, ?_, rfl⟩
    rw [ServiceSpec.pool?, hspec]
    exact Table.get?_eq_some_iff.2 he

/-! ## Where issuers and login clients come from -/

/-- An authorizer of a plan is for the user pool and the app that an integration names.  It trusts
the issuer of that user pool, and it takes tokens for the login client of that app, which is in the
user pool that the app names. -/
structure Joins (b : Blueprint) (p : Plan) (auth : AuthorizationSpec) (trusted own : UserPoolSpec)
    (i client : Intent) : Prop where
  /-- An integration asks for it. -/
  asked : ∃ e ∈ b.spec.integrationTable.entries, e.2.authorization = some auth
  /-- The integration names a user pool. -/
  named : b.spec.pool? auth.user = some trusted
  /-- The app names a user pool of its own. -/
  login : ∃ a user, (auth.app, a) ∈ b.spec.appTable.entries ∧ a.user = some user ∧
    b.spec.pool? user = some own
  /-- It is the authorizer of this user pool and this app. -/
  ofPair : i.handle = authorizerHandle auth
  /-- The login client is that of the app. -/
  ofApp : client.handle = clientHandle auth.app
  /-- The issuer is that of the user pool of the integration. -/
  issuer : i.jwt? "issuer" = some (.string (b.naming.userPoolUrl trusted.id))
  /-- The login client is in the user pool of the app. -/
  created : client.text? "user_pool_id" = some own.id
  /-- The login client is listed. -/
  listed : client ∈ p.byCategory .userPoolClient
  /-- It is the login client that tokens are taken for. -/
  takes : i.Takes client
  /-- Tokens are taken for nothing else of the plan. -/
  only : ∀ other ∈ p.intents, i.Takes other → other = client

/-- An authorizer and its login client fit together exactly if the integration and the app name user
pools of one id. -/
theorem Joins.trustsPoolOf_iff {p : Plan} {trusted own : UserPoolSpec} {client : Intent}
    (h : b.Joins p auth trusted own i client) :
    i.TrustsPoolOf b.naming client ↔ trusted.id = own.id := by
  constructor
  · rintro ⟨id, hid, hissuer⟩
    have hurl : b.naming.userPoolUrl trusted.id = b.naming.userPoolUrl id :=
      Json.string.inj (Option.some.inj (h.issuer.symm.trans hissuer))
    have hown : id = own.id := Option.some.inj (hid.symm.trans h.created)
    rw [Naming.userPoolUrl_inj.1 hurl, hown]
  · intro heq
    refine ⟨own.id, h.created, ?_⟩
    rw [h.issuer, heq]

/-- The authorizer of a user pool and an app that an integration names. -/
theorem joins_authorizer {g : GatewaySpec} {pool : UserPool} (h : b.build.2 = none)
    (hreferences : (References.resolve b.spec.references b.site versions).2 = .ok b.references)
    (hg : b.spec.gateway = some g) (hauth : auth ∈ authorizations g)
    (hpool : b.references.pools.get? auth.user = some pool) :
    ∃ trusted own client,
      b.Joins b.build.1.plan auth trusted own (b.authorizer auth pool) client := by
  obtain ⟨trusted, htrusted, rfl⟩ := exists_pool? hreferences hpool
  obtain ⟨a, ha, hsome⟩ := (authorization_of_build h hg hauth).2
  obtain ⟨user, huser⟩ := Option.isSome_iff_exists.1 hsome
  obtain ⟨pool', hpool', hclient⟩ := loginClient_mem_byCategory h ha huser
  obtain ⟨own, hown, rfl⟩ := exists_pool? hreferences hpool'
  exact ⟨trusted, own, _, {
    asked := by
      rw [ServiceSpec.integrationTable_eq hg]
      exact mem_authorizations.1 hauth
    named := htrusted
    login := ⟨a, user, ha, huser, hown⟩
    ofPair := rfl
    ofApp := rfl
    issuer := rfl
    created := rfl
    listed := hclient
    takes := rfl
    only := fun other hother htakes => by
      refine b.ordered_build.eq_of_handle_eq hother (Plan.mem_byCategory.1 hclient).1 ?_
      exact htakes.handle_eq rfl }⟩

/-- Every authorizer of a plan is one of these. -/
theorem exists_joins (h : b.build.2 = none)
    (hreferences : (References.resolve b.spec.references b.site versions).2 = .ok b.references)
    (hi : i ∈ b.build.1.plan.byCategory .authorizer) :
    ∃ auth trusted own client, b.Joins b.build.1.plan auth trusted own i client := by
  cases hg : b.spec.gateway with
  | none =>
    rw [byCategory_of_gateway_eq_none h hg (by decide)] at hi
    cases hi
  | some g =>
    rw [byCategory_authorizer h hg] at hi
    obtain ⟨⟨key, auth⟩, he, hi⟩ := List.mem_flatMap.1 hi
    obtain ⟨pool, hpool, rfl⟩ := List.mem_map.1 hi
    exact ⟨auth, joins_authorizer h hreferences hg (List.mem_map.2 ⟨_, he, rfl⟩)
      (Option.mem_toList.1 hpool)⟩

/-- The authorizers of a plan trust the user pools of their login clients exactly if the spec names
user pools that match. -/
theorem agrees_iff (h : b.build.2 = none)
    (hreferences : (References.resolve b.spec.references b.site versions).2 = .ok b.references) :
    b.build.1.plan.Agrees b.naming ↔ b.spec.PoolsMatch := by
  constructor
  · intro hagrees e he auth hauth a user ha huser
    cases hg : b.spec.gateway with
    | none =>
      rw [ServiceSpec.integrationTable_eq_empty hg] at he
      cases he
    | some g =>
      rw [ServiceSpec.integrationTable_eq hg] at he
      have hmem : auth ∈ authorizations g := mem_authorizations.2 ⟨e, he, hauth⟩
      obtain ⟨pool, hpool⟩ := (authorization_of_build h hg hmem).1
      obtain ⟨trusted, own, client, hjoins⟩ := joins_authorizer h hreferences hg hmem hpool
      have hlisted := (isAuthorizer_authorizer h hg hmem hpool).listed
      have hid : trusted.id = own.id :=
        hjoins.trustsPoolOf_iff.1 (hagrees _ hlisted client hjoins.listed hjoins.takes)
      -- there is one app of the name, and it names one user pool
      obtain ⟨a', user', ha', huser', hown⟩ := hjoins.login
      obtain rfl : a = a' := Table.eq_of_mem ha ha'
      obtain rfl : user = user' := Option.some.inj (huser.symm.trans huser')
      rw [hjoins.named, hown, Option.map_some, Option.map_some, hid]
  · intro hmatch i hi client hclient htakes
    obtain ⟨auth, trusted, own, client', hjoins⟩ := exists_joins h hreferences hi
    obtain rfl : client = client' := hjoins.only client (Plan.mem_byCategory.1 hclient).1 htakes
    obtain ⟨e, he, hauth⟩ := hjoins.asked
    obtain ⟨a, user, ha, huser, hown⟩ := hjoins.login
    have hids := hmatch e he auth hauth a user ha huser
    rw [hjoins.named, hown, Option.map_some, Option.map_some] at hids
    exact hjoins.trustsPoolOf_iff.2 (Option.some.inj hids)

/-! ## Other user pools of the same names -/

/-- The blueprint with other user pools, which are issuers of tokens in the same way. -/
def withPools (b : Blueprint) (pools : Table UserPoolSpec) : Blueprint :=
  { b with
    spec := { b.spec with references := b.spec.references.map (·.withPools pools) }
    references := b.references.withPools b.naming pools }

section WithPools

variable {spec : ReferenceSpec} {pools : Table UserPoolSpec}

/-- What follows a user pool differs in attributes only, and a user pool that is missing is
missing from the others too. -/
theorem map_outline_userPool {r : References} {n : Naming} {user requestedBy : String}
    {next next' : UserPool → List Step} (hkeys : pools.keys = r.pools.keys)
    (hnext : ∀ pool pool',
      (next pool).map Step.outline = (next' pool').map Step.outline) :
    (Step.orFail ((r.withPools n pools).userPool user requestedBy) next).map Step.outline =
      (Step.orFail (r.userPool user requestedBy) next').map Step.outline := by
  have hiff : user ∈ (r.withPools n pools).pools.keys ↔ user ∈ r.pools.keys := by
    rw [References.withPools, Table.keys_map, hkeys]
  rw [References.userPool, References.userPool]
  cases hpool : r.pools.get? user with
  | none =>
    have hnone := Table.get?_eq_none_iff.2 (mt hiff.1 (Table.get?_eq_none_iff.1 hpool))
    rw [hnone]
    rfl
  | some pool =>
    obtain ⟨pool', hpool'⟩ := Table.mem_keys_iff.1 (hiff.2 (Table.mem_keys_of_get? hpool))
    rw [hpool']
    exact hnext pool' pool

variable (hkeys : pools.keys = b.references.pools.keys)

include hkeys

theorem outline_loginSteps_withPools (app : String) (a : AppSpec) :
    ((b.withPools pools).loginSteps app a).map Step.outline =
      (b.loginSteps app a).map Step.outline := by
  rw [loginSteps, loginSteps]
  cases a.user with
  | none => rfl
  | some user =>
    refine map_outline_userPool hkeys fun pool pool' => ?_
    have hidentity : ((b.withPools pools).identitySteps app a pool).map Step.outline =
        (b.identitySteps app a pool').map Step.outline := by
      rw [identitySteps, identitySteps, List.map_flatMap, List.map_flatMap]
      simp only [map_outline_orFail]
      rfl
    simp only [List.map_append]
    by_cases hwants : a.wantsIdentityPool = true
    · rw [if_pos hwants, if_pos hwants, hidentity]
      rfl
    · rw [if_neg hwants, if_neg hwants]
      rfl

theorem outline_authorizerSteps_withPools (g : GatewaySpec) :
    ((b.withPools pools).authorizerSteps g).map Step.outline =
      (b.authorizerSteps g).map Step.outline := by
  rw [authorizerSteps, authorizerSteps, List.map_flatMap, List.map_flatMap]
  congr 1
  funext e
  exact map_outline_userPool hkeys fun _ _ => rfl

theorem outline_frontendSteps_withPools :
    (b.withPools pools).frontendSteps.map Step.outline = b.frontendSteps.map Step.outline := by
  have happs : (b.withPools pools).spec.apps = b.spec.apps := rfl
  have htoken : (b.withPools pools).token = b.token := rfl
  have hroot : (b.withPools pools).spec.repositoryRoot = b.spec.repositoryRoot := rfl
  rw [frontendSteps, frontendSteps, happs, htoken, hroot]
  cases b.spec.apps with
  | none => rfl
  | some apps =>
    cases b.token with
    | none => rfl
    | some token =>
      cases b.spec.repositoryRoot with
      | none => rfl
      | some root =>
        simp only [List.map_flatMap, List.map_append, outline_loginSteps_withPools hkeys]
        rfl

theorem outline_gatewaySteps_withPools :
    (b.withPools pools).gatewaySteps.map Step.outline = b.gatewaySteps.map Step.outline := by
  have hgateway : (b.withPools pools).spec.gateway = b.spec.gateway := rfl
  rw [gatewaySteps, gatewaySteps, hgateway]
  cases b.spec.gateway with
  | none => rfl
  | some g =>
    simp only [List.map_append, outline_authorizerSteps_withPools hkeys]
    rfl

/-- A build with other user pools of the same names ends alike, and has made the same but for
attributes. -/
theorem build_withPools :
    (b.withPools pools).build.2 = b.build.2 ∧
      (b.withPools pools).build.1.outline = b.build.1.outline := by
  refine ends_alike rfl rfl ?_
  rw [steps, steps]
  simp only [List.map_append, outline_frontendSteps_withPools hkeys,
    outline_gatewaySteps_withPools hkeys]
  rfl

end WithPools

/-! ## Builds -/

/-- What a build makes of user pools. -/
structure KeepsPools (b : Blueprint) (versions : LayerVersions) : Prop where
  /-- Every authorizer has its issuer from the user pool that an integration names, and takes tokens
  for the login client of the app that it names, which is in the user pool of the app. -/
  joins : ∀ i ∈ b.build.1.plan.byCategory .authorizer, ∃ auth trusted own client,
    b.Joins b.build.1.plan auth trusted own i client ∧
      (i.TrustsPoolOf b.naming client ↔ trusted.id = own.id)
  /-- So all of them fit together exactly if the spec names user pools that match. -/
  agrees : b.build.1.plan.Agrees b.naming ↔ b.spec.PoolsMatch
  /-- Whether they do makes no difference to the build: whatever user pools there are under the same
  names, it meets no fault, and it plans the same but for attributes. -/
  indifferent : ∀ spec, b.spec.references = some spec →
    ∀ pools : Table UserPoolSpec, pools.keys = spec.pools.keys →
      (References.resolve (b.withPools pools).spec.references b.site versions).2 =
          .ok (b.withPools pools).references ∧
        (b.withPools pools).build.2 = none ∧
        (b.withPools pools).build.1.plan.outline = b.build.1.plan.outline

/-- **Issuers and login clients.**  In the plan of a build without a fault an authorizer trusts the
user pool that an integration names, and takes tokens for the login client of the app that it names,
which is in the user pool of the app.  It is for the spec to name user pools of one id: no build
ends because they are different. -/
theorem keepsPools_of_build (h : b.build.2 = none)
    (hreferences : (References.resolve b.spec.references b.site versions).2 = .ok b.references) :
    b.KeepsPools versions where
  joins i hi := by
    obtain ⟨auth, trusted, own, client, hjoins⟩ := exists_joins h hreferences hi
    exact ⟨auth, trusted, own, client, hjoins, hjoins.trustsPoolOf_iff⟩
  agrees := agrees_iff h hreferences
  indifferent spec hspec pools hkeys := by
    have hkept : pools.keys = b.references.pools.keys := by
      rw [references_eq_withPools hspec hreferences, References.withPools, Table.keys_map, hkeys]
    obtain ⟨hfault, hmade⟩ := build_withPools hkept
    refine ⟨?_, hfault.trans h, ?_⟩
    · rw [hspec] at hreferences
      rw [withPools, hspec]
      exact References.resolve_withPools hreferences pools b.spec.apiName
    · rw [← Progress.plan_outline, ← Progress.plan_outline, hmade]

/-- A service whose cart asks for guests, while the users of its app are the staff. -/
def club : Blueprint where
  spec := {
    serviceName := "club"
    apiName := "club-api"
    branches := .ofList [("main", {})]
    handler := "index.handler"
    references := some {
      pools := .ofList
        [("guests", ⟨"us-east-1_guests", ∅⟩), ("staff", ⟨"us-east-1_staff", ∅⟩)] }
    repositoryRoot := some "https://repositories"
    functions := .ofList [("cart", {})]
    gateway := some {
      integrations := .ofList
        [("cart", { routes := some ["GET /cart"], authorization := some ⟨"guests", "front"⟩ })] }
    apps := some (.ofList [("front", { domain := "club.test", user := some "staff" })]) }
  site := ⟨"123456789012", "us-east-1"⟩
  references := {
    layers := ∅
    pools := .ofList
      [("guests", ⟨"us-east-1_guests",
          "https://cognito-idp.us-east-1.amazonaws.com/us-east-1_guests", ∅⟩),
        ("staff", ⟨"us-east-1_staff",
          "https://cognito-idp.us-east-1.amazonaws.com/us-east-1_staff", ∅⟩)]
    network := none }
  token := some "token"
  files := fun _ => .error (.other "no such file")

set_option maxRecDepth 10000 in
theorem build_club : club.build.2 = none := by rfl

theorem resolve_club (versions : LayerVersions) :
    (References.resolve club.spec.references club.site versions).2 = .ok club.references := by rfl

/-- The service is built, whatever guests have to do with staff. -/
theorem keepsPools_club :
    let versions : LayerVersions := fun _ _ => .ok 1
    (club.build.2 = none ∧
      (References.resolve club.spec.references club.site versions).2 = .ok club.references) ∧
    club.KeepsPools versions :=
  ⟨⟨build_club, resolve_club _⟩, keepsPools_of_build build_club (resolve_club _)⟩

/-- Its authorizer does not trust the user pool of the staff, for whose tokens it is made. -/
theorem not_agrees_club :
    let versions : LayerVersions := fun _ _ => .ok 1
    (club.build.2 = none ∧
      (References.resolve club.spec.references club.site versions).2 = .ok club.references) ∧
    ¬ club.build.1.plan.Agrees club.naming := by
  intro versions
  refine ⟨⟨build_club, resolve_club versions⟩, fun hagrees => ?_⟩
  have hmatch := (agrees_iff build_club (resolve_club versions)).1 hagrees
  have hids := hmatch _ (List.mem_singleton_self _) _ rfl _ _ (List.mem_singleton_self _) rfl
  have hne : "us-east-1_guests" ≠ "us-east-1_staff" := by decide
  exact hne (Option.some.inj hids)

end Blueprint

end ServicePlan
