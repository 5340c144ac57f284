import ServicePlan.Proofs.Frontend

/-!
# The HTTP api in order

The steps for the api come in order once the apps are complete.  Every part of it depends on the
api; an authorizer also on the login client of its app, and a route on the authorizer of its
integration, which the first integration that uses it has brought about.

* `Blueprint.exists_firstUses`, `Blueprint.mem_of_firstUses`: the authorizers are those in use.
* `Blueprint.arranged_gatewaySteps`: the order of the phase.
* `Blueprint.integration_of_gatewaySteps`, `Blueprint.authorization_of_gatewaySteps`: what is there
  if the phase is made to the end.
-/

namespace ServicePlan.Blueprint

variable {b : Blueprint} {g : GatewaySpec} {key : String} {r : RouteSpec}
  {auth : AuthorizationSpec} {seen : List Step}

/-! ## Routes -/

/-- A path that is not a string is a matter of form. -/
theorem kind_of_ofPaths {paths : List (Yaml × Yaml)} {fault : Fault}
    (h : Route.ofPaths paths = .error fault) : fault.kind = .form := by
  induction paths with
  | nil => cases h
  | cons e rest ih =>
    obtain ⟨path, item⟩ := e
    rw [Route.ofPaths] at h
    split at h
    · cases h
      rfl
    · cases hrest : Route.ofPaths rest with
      | error other =>
        rw [hrest] at h
        cases h
        exact ih hrest
      | ok routes =>
        rw [hrest] at h
        cases h

/-- Routes that cannot be found out are to blame. -/
theorem blames_of_routeKeys {fault : Fault} (h : b.routeKeys key r = .error fault) :
    b.Blames fault := by
  rw [routeKeys] at h
  split at h
  · cases h
  · rw [Route.ofFile] at h
    split at h
    · rw [Route.ofText] at h
      split at h
      · rw [Route.ofYaml] at h
        split at h
        · exact .inl (by simp [kind_of_ofPaths h])
        · cases h
          exact .inl (by simp [Fault.kind])
      · cases h
        exact .inl (by simp [Fault.kind])
    · cases h
      exact .inl (by simp [Fault.kind])
  · cases h
    exact .inl (by simp [Fault.kind])

/-- The checks of an integration are in order wherever they stand. -/
theorem arranged_routeSteps (hg : b.spec.gateway = some g) (hkey : key ∈ g.integrations.keys) :
    b.Arranged seen (b.routeSteps key r) := by
  rw [routeSteps]
  split
  · refine arranged_orFail (fun fault hf => blames_of_routeKeys hf) fun routes _ => ?_
    simp only [routeNotes]
    split
    · simp [Fits, Step.info]
    · exact arranged_nil
  · rename_i hnot
    refine ⟨fun _ => .inr ⟨rfl, fun hclosed => hnot ?_⟩, arranged_nil⟩
    exact Table.contains_iff.2 (hclosed.integrations g hg key hkey)

/-! ## The api and its stages -/

/-- The custom domain is in the plan after its steps. -/
theorem available_domainSteps {domain : Handle} (h : b.domainHandle? g = some domain) :
    b.Available (b.domainSteps g) domain := by
  rw [domainHandle?] at h
  cases hd : b.customDomain? g with
  | none =>
    rw [hd] at h
    cases h
  | some d =>
    obtain ⟨zoneId, zone, name⟩ := d
    rw [hd] at h
    cases h
    simp [domainSteps, hd, Grants]

theorem arranged_domainSteps (hapi : b.Available seen b.apiHandle) :
    b.Arranged seen (b.domainSteps g) := by
  rw [domainSteps]
  cases b.customDomain? g with
  | none => exact arranged_nil
  | some d => simp [Fits, Grants, hapi]

theorem arranged_stageSteps (hapi : b.Available seen b.apiHandle)
    (hdomain : ∀ domain, b.domainHandle? g = some domain → b.Available seen domain) :
    b.Arranged seen (b.stageSteps g) := by
  refine arranged_flatMap fun e _ done => ⟨fun _ => ?_, ?_⟩
  · simp [Fits, stage, hapi]
  · cases hd : b.domainHandle? g with
    | none => exact arranged_nil
    | some domain =>
      have := hdomain domain hd
      simp [Fits, mapping, stage, Grants, this]

/-! ## Authorizers -/

/-- Every authorization that is in use was known before or is among the first uses. -/
theorem exists_firstUses (known : List AuthorizationSpec) {entries : List (String × RouteSpec)}
    (he : (key, r) ∈ entries) (hauth : r.authorization = some auth) :
    auth ∈ known ∨ ∃ first, (first, auth) ∈ firstUses known entries := by
  induction entries generalizing known with
  | nil => cases he
  | cons e rest ih =>
    obtain ⟨k, s⟩ := e
    rw [firstUses]
    cases hs : s.authorization with
    | none =>
      obtain he | he := List.mem_cons.1 he
      · cases he
        rw [hauth] at hs
        cases hs
      · exact ih known he
    | some other =>
      dsimp only
      obtain he | he := List.mem_cons.1 he
      · cases he
        obtain rfl : auth = other := Option.some.inj (hauth.symm.trans hs)
        split
        · rename_i hknown
          exact .inl hknown
        · exact .inr ⟨key, List.mem_cons_self ..⟩
      · split
        · exact ih known he
        · obtain hmem | ⟨first, hfirst⟩ := ih (known ++ [other]) he
          · obtain hmem | hmem := List.mem_append.1 hmem
            · exact .inl hmem
            · cases List.mem_singleton.1 hmem
              exact .inr ⟨k, List.mem_cons_self ..⟩
          · exact .inr ⟨first, List.mem_cons_of_mem _ hfirst⟩

/-- The first uses are uses. -/
theorem mem_of_firstUses {known : List AuthorizationSpec} {entries : List (String × RouteSpec)}
    (h : (key, auth) ∈ firstUses known entries) :
    ∃ r, (key, r) ∈ entries ∧ r.authorization = some auth := by
  induction entries generalizing known with
  | nil => cases h
  | cons e rest ih =>
    obtain ⟨k, s⟩ := e
    have hrest : ∀ known, (key, auth) ∈ firstUses known rest →
        ∃ r, (key, r) ∈ (k, s) :: rest ∧ r.authorization = some auth := by
      intro known h
      obtain ⟨r, hr, hauth⟩ := ih h
      exact ⟨r, List.mem_cons_of_mem _ hr, hauth⟩
    rw [firstUses] at h
    cases hs : s.authorization with
    | none =>
      rw [hs] at h
      exact hrest known h
    | some other =>
      rw [hs] at h
      dsimp only at h
      split at h
      · exact hrest known h
      · obtain h | h := List.mem_cons.1 h
        · cases h
          exact ⟨s, List.mem_cons_self .., hs⟩
        · exact hrest _ h

/-- The steps for the authorizers are in order behind the api and all login clients. -/
theorem arranged_authorizerSteps (hg : b.spec.gateway = some g)
    (hapi : b.Available seen b.apiHandle) (hfrontend : .complete .frontend ∈ seen)
    (hclients : ∀ app, b.spec.HasLogin app → Registered seen (clientKey app)) :
    b.Arranged seen (b.authorizerSteps g) := by
  refine arranged_flatMap fun ⟨key, auth⟩ he done => ?_
  obtain ⟨r, hr, hauth⟩ := mem_of_firstUses he
  refine arranged_orFail (fun fault hf => ?_) fun pool _ => ?_
  · obtain ⟨hkind, hnot⟩ := References.not_mem_users_of_userPool hf
    exact .inr ⟨hkind, fun hclosed => hnot (hclosed.authorizations g hg _ hr auth hauth).1⟩
  · refine ⟨fun _ => ⟨?_, fun hclosed => ?_⟩, fun _ => ?_, arranged_nil⟩
    · rintro _ ⟨⟩
      exact List.mem_append_left _ hfrontend
    · exact (hclients auth.app (hclosed.authorizations g hg _ hr auth hauth).2).subset (by simp)
    · simp [Fits, authorizer, Grants, hapi]

/-- If the steps for the authorizers are made to the end, each authorization in use has its user
pool and its authorizer, and the login client of its app is required. -/
theorem authorizer_of_authorizerSteps (h : Clean (b.authorizerSteps g))
    (he : (key, r) ∈ g.integrations.entries) (hauth : r.authorization = some auth) :
    auth.user ∈ b.references.catalog.users ∧
      b.Available (b.authorizerSteps g) (authorizerHandle auth) ∧
      ∃ requestedBy, .require (clientKey auth.app) requestedBy ∈ b.authorizerSteps g := by
  obtain hnone | ⟨first, hfirst⟩ := exists_firstUses [] he hauth
  · cases hnone
  · have hround := clean_flatMap.1 h _ hfirst
    obtain ⟨pool, hpool, hsteps⟩ := hround.exists_eq_ok
    have hsubset : ∀ s, s ∈ [Step.require (clientKey auth.app)
        s!"cognito_auth of integration `{first}`", .emit (b.authorizer auth pool)] →
        s ∈ b.authorizerSteps g := by
      intro s hs
      refine List.mem_flatMap.2 ⟨_, hfirst, ?_⟩
      dsimp only
      rw [hsteps]
      exact hs
    refine ⟨References.mem_users_of_userPool hpool, ?_, _, hsubset _ (List.mem_cons_self ..)⟩
    exact ⟨.emit (b.authorizer auth pool), hsubset _ (by simp), rfl⟩

/-! ## Integrations -/

/-- The authorizer of an integration is the one for its authorization. -/
theorem exists_of_authorizer? {h : Handle} (hh : authorizer? g r = some h) :
    ∃ auth, r.authorization = some auth ∧ h = authorizerHandle auth := by
  obtain ⟨auth, hauth, hlookup⟩ := Option.bind_eq_some_iff.1 hh
  obtain ⟨before, after, hsplit, -⟩ := List.lookup_eq_some_iff.1 hlookup
  have hmem : (auth, h) ∈ authorizers g := by simp [hsplit]
  obtain ⟨e, -, he⟩ := List.mem_map.1 hmem
  cases he
  exact ⟨e.2, hauth, rfl⟩

/-- The steps for an integration are in order behind the api and its authorizer. -/
theorem arranged_integrationSteps (hapi : b.Available seen b.apiHandle)
    (hauthorizer : ∀ auth, r.authorization = some auth →
      b.Available seen (authorizerHandle auth)) :
    b.Arranged seen (b.integrationSteps g key r) := by
  refine ⟨fun _ => by simp [Fits, integration, hapi], ?_⟩
  refine arranged_orFail (fun fault hf => blames_of_routeKeys hf) fun routes _ => ?_
  refine arranged_emits fun routeKey _ h hh => ?_
  simp only [route, Intent.mem_dependsOn_of, List.mem_append, List.mem_cons, List.not_mem_nil,
    or_false, Option.mem_toList] at hh
  obtain (rfl | rfl) | hh := hh
  · simp [hapi]
  · simp [Grants, integration, integrationHandle]
  · obtain ⟨auth, hauth, rfl⟩ := exists_of_authorizer? hh
    exact available_append.2 (.inl (hauthorizer auth hauth))

/-! ## The phase -/

/-- The parts of the api register nothing. -/
theorem not_registered_gatewayParts (b : Blueprint) (g : GatewaySpec) (k : Registry.Key) :
    ¬ Registered (b.domainSteps g ++ b.stageSteps g ++ b.authorizerSteps g ++
      g.integrations.entries.flatMap fun e => b.integrationSteps g e.1 e.2) k := by
  have hdomain : ¬ Registered (b.domainSteps g) k := by
    rw [domainSteps]
    split <;> simp [Registered]
  have hstage : ¬ Registered (b.stageSteps g) k := by
    intro h
    obtain ⟨e, -, h⟩ := registered_flatMap.1 h
    simp [Registered] at h
  have hauthorizer : ¬ Registered (b.authorizerSteps g) k := by
    intro h
    obtain ⟨e, -, h⟩ := registered_flatMap.1 h
    obtain ⟨pool, -, h⟩ := h.exists_eq_ok
    simp [Registered] at h
  have hintegration : ¬ Registered
      (g.integrations.entries.flatMap fun e => b.integrationSteps g e.1 e.2) k := by
    intro h
    obtain ⟨e, -, handle, h⟩ := registered_flatMap.1 h
    obtain h | h := List.mem_cons.1 h
    · cases h
    · obtain ⟨routes, -, h⟩ := Registered.exists_eq_ok ⟨handle, h⟩
      simp [Registered] at h
  simp only [registered_append, hdomain, hstage, hauthorizer, hintegration, or_self,
    not_false_eq_true]

/-- The steps for the api are in order once the apps are complete. -/
theorem arranged_gatewaySteps (hfrontend : .complete .frontend ∈ seen)
    (hclients : ∀ app, b.spec.HasLogin app → Registered seen (clientKey app)) :
    b.Arranged seen b.gatewaySteps := by
  rw [gatewaySteps]
  cases hg : b.spec.gateway with
  | none => simp [Fits, Step.info]
  | some g =>
    simp only [arranged_append]
    refine ⟨⟨⟨⟨⟨⟨?_, by simp [Fits, api]⟩, ?_⟩, ?_⟩, ?_⟩, ?_⟩,
      fun _ => ⟨rfl, by simp [ServiceSpec.Declares, apiKey, hg], ?_⟩, arranged_nil⟩
    · exact arranged_flatMap fun e he done => arranged_routeSteps hg (Table.mem_keys_of_mem he)
    · exact arranged_domainSteps (by simp [Grants, api, apiHandle])
    · refine arranged_stageSteps (by simp [Grants, api, apiHandle]) fun domain hd => ?_
      exact available_append.2 (.inr (available_append.2 (.inr (available_domainSteps hd))))
    · refine arranged_authorizerSteps hg (by simp [Grants, api, apiHandle]) ?_ fun app ha => ?_
      · exact List.mem_append_left _ hfrontend
      · exact (hclients app ha).subset (by simp)
    · -- the authorizers of the routes are there, or else the build has ended before
      refine arranged_of_clean fun hclean => arranged_flatMap fun e he done => ?_
      refine arranged_integrationSteps (by simp [Grants, api, apiHandle]) fun auth hauth => ?_
      have hauthorizers : Clean (b.authorizerSteps g) := by
        simp only [clean_append] at hclean
        exact hclean.2.2
      have := (authorizer_of_authorizerSteps hauthorizers he hauth).2.1
      simp [this]
    · refine ⟨seen ++ g.integrations.entries.flatMap fun e => b.routeSteps e.1 e.2, b.api g, _, ?_,
        rfl, not_registered_gatewayParts b g _⟩
      simp

/-- The api is registered if there is one. -/
theorem registered_gatewaySteps (h : b.spec.gateway.isSome) :
    Registered b.gatewaySteps b.apiKey := by
  obtain ⟨g, hg⟩ := Option.isSome_iff_exists.1 h
  exact ⟨b.apiHandle, by simp [gatewaySteps, hg]⟩

/-- If the steps for the api are made to the end, the functions that it calls are declared. -/
theorem integration_of_gatewaySteps (h : Clean b.gatewaySteps) (hg : b.spec.gateway = some g)
    (hkey : key ∈ g.integrations.keys) : key ∈ b.spec.functions.keys := by
  obtain ⟨e, he, rfl⟩ := List.mem_map.1 hkey
  simp only [gatewaySteps, hg, clean_append] at h
  have hround := clean_flatMap.1 h.1.1.1.1.1.1 e he
  rw [routeSteps] at hround
  split at hround
  · rename_i hcontains
    exact Table.contains_iff.1 hcontains
  · exact absurd (List.mem_singleton_self _) (hround _)

/-- If the steps for the api are made to the end, the user pools that authorize requests are there,
and the login clients of their apps are required. -/
theorem authorization_of_gatewaySteps (h : Clean b.gatewaySteps) (hg : b.spec.gateway = some g)
    (he : (key, r) ∈ g.integrations.entries) (hauth : r.authorization = some auth) :
    auth.user ∈ b.references.catalog.users ∧
      ∃ requestedBy, .require (clientKey auth.app) requestedBy ∈ b.gatewaySteps := by
  simp only [gatewaySteps, hg, clean_append] at h ⊢
  obtain ⟨huser, -, requestedBy, hmem⟩ := authorizer_of_authorizerSteps h.1.1.2 he hauth
  exact ⟨huser, requestedBy, by simp [hmem]⟩

end ServicePlan.Blueprint
