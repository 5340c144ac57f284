import ServicePlan.Proofs.Api

/-!
# Authorization of requests

An integration may ask for authorized requests, by a user pool and an app.  Integrations that ask
for the same have one authorizer in common, which is made before them.  Each integration then looks
its authorizer up, and a lookup that found nothing would leave its routes open without a word.

* `Blueprint.nodup_firstUses`, `Blueprint.authorizer?_of_mem`: each authorization in use has one
  authorizer, which is found.
* `Blueprint.IsAuthorizer`: the authorizer of a user pool and an app.
* `Blueprint.IsProtected`, `Blueprint.IsOpen`: routes with and without an authorizer.
* `Blueprint.KeepsAuthorizations`: a plan protects what the spec asks to protect, and as it asks.
* `Blueprint.keepsAuthorizations_of_build`: what comes of a build without a fault.
-/

namespace ServicePlan

/-- What an authorizer says about the tokens that it takes. -/
def Intent.jwt? (i : Intent) (name : String) : Option Json :=
  (i.attributes.member? "jwt_configuration").bind (·.member? name)

/-- Whether a route leads to an integration. -/
def Intent.LeadsTo (i : Intent) (integration : Handle) : Prop :=
  i.text? "target" = some ("integrations/" ++ integration.ref)

/-- A user pool that is there once the references are resolved is declared, and its issuer goes by
its id. -/
theorem References.exists_declared {spec : Option ReferenceSpec} {site : Deployment}
    {versions : LayerVersions} {r : References} (h : (resolve spec site versions).2 = .ok r)
    {user : String} {pool : UserPool} (hpool : r.pools.get? user = some pool) :
    ∃ references declared, spec = some references ∧
      references.pools.get? user = some declared ∧
      ∀ apiName, pool.url = (Naming.mk apiName site).userPoolUrl declared.id := by
  cases spec with
  | none =>
    cases h
    cases hpool
  | some references =>
    rw [resolve] at h
    cases hrun : Resolver.run versions ⟨"", site⟩ references.layers.entries {} with
    | mk s fault =>
      rw [hrun] at h
      cases fault with
      | some f => cases h
      | none =>
        cases h
        obtain ⟨⟨_, declared⟩, he, heq⟩ := List.mem_map.1 (Table.get?_eq_some_iff.1 hpool)
        cases heq
        exact ⟨references, declared, rfl, Table.get?_eq_some_iff.2 he, fun _ => rfl⟩

namespace Blueprint

variable {b : Blueprint} {g : GatewaySpec} {key : String} {r : RouteSpec}
  {auth : AuthorizationSpec}

/-! ## First uses -/

/-- What is known already is not used for the first time. -/
theorem not_mem_of_firstUses {known : List AuthorizationSpec} {entries : List (String × RouteSpec)}
    (h : (key, auth) ∈ firstUses known entries) : auth ∉ known := by
  induction entries generalizing known with
  | nil => cases h
  | cons e rest ih =>
    obtain ⟨k, s⟩ := e
    rw [firstUses] at h
    cases hs : s.authorization with
    | none =>
      rw [hs] at h
      exact ih h
    | some other =>
      rw [hs] at h
      dsimp only at h
      split at h
      · exact ih h
      · rename_i hnew
        obtain h | h := List.mem_cons.1 h
        · cases h
          exact hnew
        · exact fun hmem => ih h (List.mem_append_left _ hmem)

/-- No authorization is used for the first time twice. -/
theorem nodup_firstUses (known : List AuthorizationSpec) (entries : List (String × RouteSpec)) :
    ((firstUses known entries).map (·.2)).Nodup := by
  induction entries generalizing known with
  | nil => exact List.nodup_nil
  | cons e rest ih =>
    obtain ⟨k, s⟩ := e
    rw [firstUses]
    cases hs : s.authorization with
    | none => exact ih known
    | some other =>
      dsimp only
      split
      · exact ih known
      · refine List.nodup_cons.2 ⟨fun hmem => ?_, ih _⟩
        obtain ⟨⟨_, _⟩, he, rfl⟩ := List.mem_map.1 hmem
        exact not_mem_of_firstUses he (by simp)

/-- The authorizations that integrations ask for, in the order of their first uses. -/
def authorizations (g : GatewaySpec) : List AuthorizationSpec :=
  (firstUses [] g.integrations.entries).map (·.2)

theorem mem_authorizations :
    auth ∈ authorizations g ↔ ∃ e ∈ g.integrations.entries, e.2.authorization = some auth := by
  constructor
  · intro h
    obtain ⟨⟨key, _⟩, he, rfl⟩ := List.mem_map.1 h
    obtain ⟨r, hr, hauth⟩ := mem_of_firstUses he
    exact ⟨(key, r), hr, hauth⟩
  · rintro ⟨⟨key, r⟩, he, hauth⟩
    obtain hknown | ⟨first, hfirst⟩ := exists_firstUses [] he hauth
    · cases hknown
    · exact List.mem_map.2 ⟨_, hfirst, rfl⟩

/-- **Every authorizer is found.**  An integration that asks for authorized requests finds the
authorizer that was made for just that. -/
theorem authorizer?_of_mem (he : (key, r) ∈ g.integrations.entries)
    (hauth : r.authorization = some auth) : authorizer? g r = some (authorizerHandle auth) := by
  have hmem : auth ∈ authorizations g := mem_authorizations.2 ⟨_, he, hauth⟩
  have hauthorizers : authorizers g = (authorizations g).map fun a => (a, authorizerHandle a) := by
    simp [authorizers, authorizations]
  rw [authorizer?, hauth, Option.bind_some, hauthorizers]
  exact List.lookup_graph authorizerHandle hmem

/-! ## Authorizers and routes of a plan -/

/-- An intent of a plan that is the authorizer of a user pool and an app. -/
structure IsAuthorizer (b : Blueprint) (p : Plan) (auth : AuthorizationSpec) (i : Intent) :
    Prop where
  /-- It is listed as an authorizer. -/
  listed : i ∈ p.byCategory .authorizer
  /-- It has the name of the two. -/
  handle : i.handle = authorizerHandle auth
  /-- It trusts the issuer of the user pool. -/
  issuer : ∃ pool, b.references.pools.get? auth.user = some pool ∧
    i.jwt? "issuer" = some (.string pool.url)
  /-- It takes tokens for the login client of the app, which the plan lists. -/
  audience : ∃ client ∈ p.byCategory .userPoolClient,
    client.physicalName = Naming.client auth.app ∧
      i.jwt? "audience" = some (.strings [client.handle.ref])

/-- A route whose requests an authorizer checks. -/
structure IsProtected (b : Blueprint) (p : Plan) (auth : AuthorizationSpec) (route : Intent) :
    Prop where
  /-- Requests carry tokens. -/
  type : route.text? "authorization_type" = some "JWT"
  /-- The authorizer of the user pool and the app checks them, and it is there before the route. -/
  authorizer : ∃ i, b.IsAuthorizer p auth i ∧ route.text? "authorizer_id" = some i.handle.ref ∧
    i.handle ∈ route.dependsOn

/-- A route that anybody may use. -/
structure IsOpen (route : Intent) : Prop where
  /-- Requests carry no tokens. -/
  type : route.attributes.member? "authorization_type" = some .null
  /-- No authorizer checks them. -/
  authorizer : route.attributes.member? "authorizer_id" = some .null

/-- A plan has the authorizers that the spec asks for, and each route has the one that its
integration asks for. -/
structure KeepsAuthorizations (b : Blueprint) (p : Plan) : Prop where
  /-- There is one authorizer for each authorization that integrations ask for, and no other. -/
  authorizers : ∃ auths : List AuthorizationSpec, auths.Nodup ∧
    (∀ auth, auth ∈ auths ↔
      ∃ e ∈ b.spec.integrationTable.entries, e.2.authorization = some auth) ∧
    List.Forall₂ (b.IsAuthorizer p) auths (p.byCategory .authorizer)
  /-- Different authorizers have different names. -/
  distinct : ((p.byCategory .authorizer).map (·.handle)).Nodup
  /-- If the references are those of the spec, the issuers are those of the user pools that the spec
  declares. -/
  issuers : ∀ versions, (References.resolve b.spec.references b.site versions).2 =
      .ok b.references → ∀ auth i, b.IsAuthorizer p auth i →
    ∃ references declared, b.spec.references = some references ∧
      references.pools.get? auth.user = some declared ∧
      i.jwt? "issuer" = some (.string (b.naming.userPoolUrl declared.id))
  /-- Every route leads to an integration. -/
  routes : ∀ route ∈ p.byCategory .route, ∃ e ∈ b.spec.integrationTable.entries,
    route.LeadsTo (b.integrationHandle e.1)
  /-- The routes of an integration that asks for authorized requests are protected as it asks. -/
  protects : ∀ e ∈ b.spec.integrationTable.entries, ∀ auth, e.2.authorization = some auth →
    ∀ route ∈ p.byCategory .route, route.LeadsTo (b.integrationHandle e.1) →
      b.IsProtected p auth route
  /-- The routes of all other integrations are open. -/
  opens : ∀ e ∈ b.spec.integrationTable.entries, e.2.authorization = none →
    ∀ route ∈ p.byCategory .route, route.LeadsTo (b.integrationHandle e.1) → IsOpen route

/-! ## What a build authorizes -/

/-- An app whose users log in has its login client in the user pool that it names. -/
theorem loginClient_mem_byCategory {app user : String} {a : AppSpec} (h : b.build.2 = none)
    (ha : (app, a) ∈ b.spec.appTable.entries) (huser : a.user = some user) :
    ∃ pool, b.references.pools.get? user = some pool ∧
      b.loginClient app a pool ∈ b.build.1.plan.byCategory .userPoolClient := by
  have hfrontend : Clean b.frontendSteps := (clean_of_build h).subset b.frontendSteps_subset
  have hlogin : b.loginSteps app a ⊆ b.frontendSteps := fun s hs =>
    subset_frontendSteps hfrontend ha (List.mem_append_left _ hs)
  have hclean := hfrontend.subset hlogin
  simp only [loginSteps, huser] at hlogin hclean
  obtain ⟨pool, hpool, hsteps⟩ := hclean.exists_eq_ok
  rw [hsteps] at hlogin
  refine ⟨pool, References.userPool_eq_ok_iff.1 hpool, Plan.mem_byCategory.2 ⟨?_, rfl⟩⟩
  refine emissions_subset_intents h b.frontendSteps_subset ?_
  exact mem_emissions.2 (hlogin (by simp))

/-- The login client of an app whose users log in is in the plan. -/
theorem exists_loginClient {app : String} (h : b.build.2 = none) (happ : b.spec.HasLogin app) :
    ∃ client ∈ b.build.1.plan.byCategory .userPoolClient,
      client.physicalName = Naming.client app ∧ client.handle = clientHandle app := by
  obtain ⟨a, ha, hsome⟩ := happ
  obtain ⟨user, huser⟩ := Option.isSome_iff_exists.1 hsome
  obtain ⟨pool, -, hclient⟩ := loginClient_mem_byCategory h ha huser
  exact ⟨b.loginClient app a pool, hclient, rfl, rfl⟩

/-- Whoever authorizes requests has a user pool and an app whose users log in. -/
theorem authorization_of_build (h : b.build.2 = none) (hg : b.spec.gateway = some g)
    (hauth : auth ∈ authorizations g) :
    (∃ pool, b.references.pools.get? auth.user = some pool) ∧ b.spec.HasLogin auth.app := by
  obtain ⟨⟨key, r⟩, he, hr⟩ := mem_authorizations.1 hauth
  obtain ⟨huser, requestedBy, hrequire⟩ :=
    authorization_of_gatewaySteps ((clean_of_build h).subset b.gatewaySteps_subset) hg he hr
  have htraces := traces_of_build h
  exact ⟨Table.mem_keys_iff.1 huser,
    (htraces.backed _ (htraces.required _ _ (b.gatewaySteps_subset hrequire))).1⟩

/-- The authorizer of a user pool and an app that integrations ask for is in the plan. -/
theorem isAuthorizer_authorizer (h : b.build.2 = none) (hg : b.spec.gateway = some g)
    (hauth : auth ∈ authorizations g) {pool : UserPool}
    (hpool : b.references.pools.get? auth.user = some pool) :
    b.IsAuthorizer b.build.1.plan auth (b.authorizer auth pool) where
  listed := by
    obtain ⟨e, he, rfl⟩ := List.mem_map.1 hauth
    rw [byCategory_authorizer h hg]
    exact List.mem_flatMap.2 ⟨e, he, by simp [hpool]⟩
  handle := rfl
  issuer := ⟨pool, hpool, rfl⟩
  audience := by
    obtain ⟨client, hclient, hname, hhandle⟩ :=
      exists_loginClient h (authorization_of_build h hg hauth).2
    exact ⟨client, hclient, hname, by rw [hhandle]; rfl⟩

/-- What a loop finds for its elements, one by one. -/
theorem forall₂_flatMap {α β : Type} {P : α → β → Prop} {l : List α} {f : α → List β}
    (h : ∀ a ∈ l, ∃ x, f a = [x] ∧ P a x) : List.Forall₂ P l (l.flatMap f) := by
  induction l with
  | nil => exact .nil
  | cons a rest ih =>
    obtain ⟨x, hx, hP⟩ := h a (List.mem_cons_self ..)
    rw [List.flatMap_cons, hx]
    exact .cons hP (ih fun y hy => h y (List.mem_cons_of_mem a hy))

/-- There is one authorizer for each authorization that integrations ask for. -/
theorem forall₂_authorizers (h : b.build.2 = none) (hg : b.spec.gateway = some g) :
    List.Forall₂ (b.IsAuthorizer b.build.1.plan) (authorizations g)
      (b.build.1.plan.byCategory .authorizer) := by
  have heach : ∀ e ∈ firstUses [] g.integrations.entries, ∃ i,
      (b.references.pools.get? e.2.user).toList.map (b.authorizer e.2) = [i] ∧
        b.IsAuthorizer b.build.1.plan e.2 i := by
    intro e he
    have hauth : e.2 ∈ authorizations g := List.mem_map.2 ⟨e, he, rfl⟩
    obtain ⟨pool, hpool⟩ := (authorization_of_build h hg hauth).1
    exact ⟨b.authorizer e.2 pool, by simp [hpool], isAuthorizer_authorizer h hg hauth hpool⟩
  have hloop := forall₂_flatMap heach
  rw [← byCategory_authorizer h hg] at hloop
  exact List.forall₂_map_left_iff.2 hloop

/-- A route leads to an integration exactly if it is one of its routes. -/
theorem exists_of_leadsTo (h : b.build.2 = none) (hg : b.spec.gateway = some g) {route : Intent}
    (hroute : route ∈ b.build.1.plan.byCategory .route) (he : (key, r) ∈ g.integrations.entries)
    (hleads : route.LeadsTo (b.integrationHandle key)) :
    ∃ routeKey, route = b.route key (authorizer? g r) routeKey := by
  rw [byCategory_route h hg] at hroute
  obtain ⟨⟨other, s⟩, hs, hroute⟩ := List.mem_flatMap.1 hroute
  obtain ⟨routeKey, -, rfl⟩ := List.mem_map.1 hroute
  have htarget : "integrations/" ++ (b.integrationHandle other).ref =
      "integrations/" ++ (b.integrationHandle key).ref := Option.some.inj hleads
  obtain rfl : other = key := integrationName_inj.1 <|
    Handle.of_inj.1 (Handle.ref_inj.1 ((String.append_right_inj _).1 htarget))
  exact ⟨routeKey, by rw [Table.eq_of_mem hs he]⟩

/-- The issuer of an authorizer is that of the user pool that the spec declares. -/
theorem issuer_of_isAuthorizer {p : Plan} {i : Intent} {versions : LayerVersions}
    (hreferences : (References.resolve b.spec.references b.site versions).2 = .ok b.references)
    (hi : b.IsAuthorizer p auth i) :
    ∃ references declared, b.spec.references = some references ∧
      references.pools.get? auth.user = some declared ∧
      i.jwt? "issuer" = some (.string (b.naming.userPoolUrl declared.id)) := by
  obtain ⟨pool, hpool, hissuer⟩ := hi.issuer
  obtain ⟨references, declared, hspec, hdeclared, hurl⟩ :=
    References.exists_declared hreferences hpool
  refine ⟨references, declared, hspec, hdeclared, ?_⟩
  rw [hissuer, hurl b.spec.apiName]
  rfl

/-- **Authorizations are kept.**  The plan of a build without a fault has one authorizer for each
authorization that integrations ask for, with the issuer of the user pool and the login client of
the app; the routes of an integration that asks for authorized requests have just this authorizer,
and those of all other integrations have none. -/
theorem keepsAuthorizations_of_build (h : b.build.2 = none) :
    b.KeepsAuthorizations b.build.1.plan := by
  cases hg : b.spec.gateway with
  | none =>
    have htable := ServiceSpec.integrationTable_eq_empty hg
    have hauthorizers := byCategory_of_gateway_eq_none h hg (c := .authorizer) (by decide)
    have hroutes := byCategory_of_gateway_eq_none h hg (c := .route) (by decide)
    constructor
    case authorizers => exact ⟨[], by simp [htable, hauthorizers]⟩
    case issuers => exact fun _ hreferences _ _ hi => issuer_of_isAuthorizer hreferences hi
    all_goals simp [htable, hauthorizers, hroutes]
  | some g =>
    have htable := ServiceSpec.integrationTable_eq hg
    constructor
    case authorizers =>
      rw [htable]
      exact ⟨authorizations g, nodup_firstUses .., fun _ => mem_authorizations,
        forall₂_authorizers h hg⟩
    case distinct => exact b.ordered_build.nodup_byCategory .authorizer
    case issuers => exact fun _ hreferences _ _ hi => issuer_of_isAuthorizer hreferences hi
    case routes =>
      rw [htable]
      intro route hroute
      rw [byCategory_route h hg] at hroute
      obtain ⟨e, he, hroute⟩ := List.mem_flatMap.1 hroute
      obtain ⟨routeKey, -, rfl⟩ := List.mem_map.1 hroute
      exact ⟨e, he, rfl⟩
    case protects =>
      rw [htable]
      intro e he auth hauth route hroute hleads
      obtain ⟨routeKey, rfl⟩ := exists_of_leadsTo h hg hroute he hleads
      have hmem : auth ∈ authorizations g := mem_authorizations.2 ⟨e, he, hauth⟩
      obtain ⟨pool, hpool⟩ := (authorization_of_build h hg hmem).1
      rw [authorizer?_of_mem he hauth]
      refine ⟨rfl, b.authorizer auth pool, isAuthorizer_authorizer h hg hmem hpool, rfl, ?_⟩
      simp [route, authorizer, authorizerHandle]
    case opens =>
      rw [htable]
      intro e he hauth route hroute hleads
      obtain ⟨routeKey, rfl⟩ := exists_of_leadsTo h hg hroute he hleads
      have hnone : authorizer? g e.2 = none := by rw [authorizer?, hauth, Option.bind_none]
      rw [hnone]
      exact ⟨rfl, rfl⟩

/-- What the service with two branches authorizes. -/
theorem keepsAuthorizations_market : market.KeepsAuthorizations market.build.1.plan :=
  keepsAuthorizations_of_build build_market

end Blueprint

end ServicePlan
