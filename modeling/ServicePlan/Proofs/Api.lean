import ServicePlan.Proofs.Planned

/-!
# The api in a plan

The steps for the api emit the api itself, its custom domain, its stages, its authorizers and its
integrations with their routes.  No other phase emits any of these, so what a plan lists of them is
what these steps emit.

* `Blueprint.emissions_gatewaySteps`: the parts of the api, in order.
* `Blueprint.byCategory_gateway`: where the parts of the api come from.
* `Blueprint.byCategory_api`, `Blueprint.byCategory_stage`, `Blueprint.byCategory_authorizer`,
  `Blueprint.byCategory_integration`, `Blueprint.byCategory_route`: what a plan lists of each part.
-/

namespace ServicePlan

/-- The integrations of the api; a spec without an api has none. -/
def ServiceSpec.integrationTable (s : ServiceSpec) : Table RouteSpec :=
  (s.gateway.map (·.integrations)).getD ∅

theorem ServiceSpec.integrationTable_eq {s : ServiceSpec} {g : GatewaySpec}
    (hg : s.gateway = some g) : s.integrationTable = g.integrations := by
  simp [integrationTable, hg]

theorem ServiceSpec.integrationTable_eq_empty {s : ServiceSpec} (hg : s.gateway = none) :
    s.integrationTable = ∅ := by
  simp [integrationTable, hg]

namespace Blueprint

variable {b : Blueprint} {g : GatewaySpec} {key : String} {r : RouteSpec}

/-! ## Parts of the api -/

/-- The categories of the parts of the api. -/
def gatewayCategories : List Category :=
  [.api, .domainName, .dnsRecord, .stage, .apiMapping, .authorizer, .integration, .route]

theorem emits_domainSteps :
    Emits (Intent.IsOf .gateway [.domainName, .dnsRecord]) (b.domainSteps g) := by
  rw [domainSteps]
  split <;> simp [Emits]

theorem emits_stageSteps : Emits (Intent.IsOf .gateway [.stage, .apiMapping]) (b.stageSteps g) := by
  refine emits_flatMap fun e _ => emits_cons.2 ⟨by simp [stage], emits_map_emit.2 ?_⟩
  simp [mapping]

theorem emits_authorizerSteps : Emits (Intent.IsOf .gateway [.authorizer]) (b.authorizerSteps g) :=
  emits_flatMap fun _ _ => emits_orFail fun _ => by simp [Emits, authorizer]

/-- The steps for all integrations. -/
def integrationsSteps (b : Blueprint) (g : GatewaySpec) : List Step :=
  g.integrations.entries.flatMap fun e => b.integrationSteps g e.1 e.2

theorem emits_integrationsSteps :
    Emits (Intent.IsOf .gateway [.integration, .route]) (b.integrationsSteps g) := by
  refine emits_flatMap fun e _ => emits_cons.2 ⟨by simp [integration], ?_⟩
  exact emits_orFail fun routes => emits_map_emit.2 (by simp [route])

/-- Integrations are told apart by the functions that they call. -/
theorem integrationName_inj {other : String} :
    b.integrationName key = b.integrationName other ↔ key = other :=
  String.append_right_inj _

/-- The route keys of an integration, or none if they cannot be found out. -/
def routesOf (b : Blueprint) (key : String) (r : RouteSpec) : List String :=
  match b.routeKeys key r with
  | .ok routes => routes
  | .error _ => []

/-- An integration comes with a route for each of its route keys. -/
theorem emissions_integrationSteps :
    emissions (b.integrationSteps g key r) =
      b.integration key :: (b.routesOf key r).map (b.route key (authorizer? g r)) := by
  rw [integrationSteps, routesOf]
  cases b.routeKeys key r with
  | ok routes => simp [Step.orFail]
  | error f => simp [Step.orFail]

/-- There is an authorizer for each pair in use whose user pool is known. -/
theorem emissions_authorizerSteps :
    emissions (b.authorizerSteps g) =
      (firstUses [] g.integrations.entries).flatMap fun e =>
        (b.references.pools.get? e.2.user).toList.map (b.authorizer e.2) := by
  rw [authorizerSteps, emissions_flatMap]
  congr 1
  funext e
  simp only [References.userPool]
  cases b.references.pools.get? e.2.user with
  | some pool => simp [Step.orFail]
  | none => simp [Step.orFail]

/-- Looking at the routes of an integration emits nothing. -/
theorem emissions_routeSteps : emissions (b.routeSteps key r) = [] := by
  rw [routeSteps]
  split
  · cases b.routeKeys key r with
    | ok routes =>
      simp only [Step.orFail, routeNotes]
      split <;> simp [Step.info]
    | error f => simp [Step.orFail]
  · simp

/-- The parts of the api, in order. -/
theorem emissions_gatewaySteps (hg : b.spec.gateway = some g) :
    emissions b.gatewaySteps =
      b.api g :: (emissions (b.domainSteps g) ++ emissions (b.stageSteps g) ++
        emissions (b.authorizerSteps g) ++ emissions (b.integrationsSteps g)) := by
  simp [gatewaySteps, hg, emissions_routeSteps, integrationsSteps]

theorem emits_gatewaySteps : Emits (Intent.IsOf .gateway gatewayCategories) b.gatewaySteps := by
  cases hg : b.spec.gateway with
  | none => simp [gatewaySteps, hg, Emits, Step.info]
  | some g =>
    rw [Emits, emissions_gatewaySteps hg]
    simp only [List.forall_mem_cons, List.forall_mem_append]
    refine ⟨by simp [api, gatewayCategories], ⟨⟨?domain, ?stage⟩, ?authorizer⟩, ?integration⟩
    case domain => exact emits_domainSteps.mono_categories (by simp [gatewayCategories])
    case stage => exact emits_stageSteps.mono_categories (by simp [gatewayCategories])
    case authorizer => exact emits_authorizerSteps.mono_categories (by simp [gatewayCategories])
    case integration => exact emits_integrationsSteps.mono_categories (by simp [gatewayCategories])

/-! ## What a plan lists of the api -/

/-- What a plan lists of the parts of the api comes from the steps for the api. -/
theorem byCategory_gateway (h : b.build.2 = none) {c : Category} (hc : c ∈ gatewayCategories) :
    b.build.1.plan.byCategory c =
      (emissions b.gatewaySteps).filter fun i => i.category = c := by
  have hothers : ∀ c ∈ gatewayCategories, c ∉ messagingCategories ∧ c ∉ frontendCategories ∧
      c ∉ storageCategories ∧ c ∉ functionCategories ∧ c ∉ batchCategories := by decide
  obtain ⟨hmessaging, hfrontend, hstorage, hfunctions, hbatch⟩ := hothers c hc
  rw [Plan.byCategory, intents_build h, emissions_steps]
  simp only [List.filter_append, List.filter_flatMap,
    emits_messagingSteps.filter_category_eq_nil hmessaging,
    emits_frontendSteps.filter_category_eq_nil hfrontend,
    emits_storageSteps.filter_category_eq_nil hstorage,
    emits_computeSteps.filter_category_eq_nil hfunctions,
    emits_batchSteps.filter_category_eq_nil hbatch]
  simp

/-- Without an api a plan lists none of its parts. -/
theorem byCategory_of_gateway_eq_none (h : b.build.2 = none) (hg : b.spec.gateway = none)
    {c : Category} (hc : c ∈ gatewayCategories) : b.build.1.plan.byCategory c = [] := by
  rw [byCategory_gateway h hc, gatewaySteps, hg]
  simp [Step.info]

/-- What a plan lists of the api comes from the api itself and from its parts, in order. -/
theorem byCategory_parts (h : b.build.2 = none) (hg : b.spec.gateway = some g) {c : Category}
    (hc : c ∈ gatewayCategories) :
    b.build.1.plan.byCategory c =
      [b.api g].filter (fun i => i.category = c) ++
      ((emissions (b.domainSteps g)).filter (fun i => i.category = c) ++
        (emissions (b.stageSteps g)).filter (fun i => i.category = c) ++
        (emissions (b.authorizerSteps g)).filter (fun i => i.category = c) ++
        (emissions (b.integrationsSteps g)).filter (fun i => i.category = c)) := by
  rw [byCategory_gateway h hc, emissions_gatewaySteps hg, ← List.singleton_append]
  simp only [List.filter_append]

/-- There is one api. -/
theorem byCategory_api (h : b.build.2 = none) (hg : b.spec.gateway = some g) :
    b.build.1.plan.byCategory .api = [b.api g] := by
  rw [byCategory_parts h hg (by decide)]
  simp (disch := decide) only [emits_domainSteps.filter_category_eq_nil,
    emits_stageSteps.filter_category_eq_nil, emits_authorizerSteps.filter_category_eq_nil,
    emits_integrationsSteps.filter_category_eq_nil]
  simp [api]

/-- There is one stage for each branch, in the order of the branches. -/
theorem byCategory_stage (h : b.build.2 = none) (hg : b.spec.gateway = some g) :
    b.build.1.plan.byCategory .stage = b.spec.branches.entries.map fun e => b.stage e.1 e.2 := by
  have hstages : (emissions (b.stageSteps g)).filter (fun i => i.category = .stage) =
      b.spec.branches.entries.map fun e => b.stage e.1 e.2 := by
    rw [stageSteps, emissions_flatMap, List.filter_flatMap, List.map_eq_flatMap]
    congr 1
    funext e
    cases b.domainHandle? g <;> simp [stage, mapping]
  rw [byCategory_parts h hg (by decide), hstages]
  simp (disch := decide) only [emits_domainSteps.filter_category_eq_nil,
    emits_authorizerSteps.filter_category_eq_nil, emits_integrationsSteps.filter_category_eq_nil]
  simp [api]

/-- The authorizers are those of the pairs in use, in the order of their first uses. -/
theorem byCategory_authorizer (h : b.build.2 = none) (hg : b.spec.gateway = some g) :
    b.build.1.plan.byCategory .authorizer =
      (firstUses [] g.integrations.entries).flatMap fun e =>
        (b.references.pools.get? e.2.user).toList.map (b.authorizer e.2) := by
  have hauthorizers : (emissions (b.authorizerSteps g)).filter
      (fun i => i.category = .authorizer) = emissions (b.authorizerSteps g) :=
    List.filter_eq_self.2 fun i hi => by simpa using (emits_authorizerSteps i hi).2
  rw [byCategory_parts h hg (by decide), hauthorizers]
  simp (disch := decide) only [emits_domainSteps.filter_category_eq_nil,
    emits_stageSteps.filter_category_eq_nil, emits_integrationsSteps.filter_category_eq_nil]
  simp [api, emissions_authorizerSteps]

/-- There is one integration for each function that the api calls. -/
theorem byCategory_integration (h : b.build.2 = none) (hg : b.spec.gateway = some g) :
    b.build.1.plan.byCategory .integration = g.integrations.keys.map b.integration := by
  have hintegrations : (emissions (b.integrationsSteps g)).filter
      (fun i => i.category = .integration) = g.integrations.keys.map b.integration := by
    rw [integrationsSteps, emissions_flatMap, List.filter_flatMap, Table.keys, List.map_map,
      List.map_eq_flatMap]
    congr 1
    funext e
    simp [emissions_integrationSteps, integration, route]
  rw [byCategory_parts h hg (by decide), hintegrations]
  simp (disch := decide) only [emits_domainSteps.filter_category_eq_nil,
    emits_stageSteps.filter_category_eq_nil, emits_authorizerSteps.filter_category_eq_nil]
  simp [api]

/-- There is one route for each route key of each integration. -/
theorem byCategory_route (h : b.build.2 = none) (hg : b.spec.gateway = some g) :
    b.build.1.plan.byCategory .route = g.integrations.entries.flatMap fun e =>
      (b.routesOf e.1 e.2).map (b.route e.1 (authorizer? g e.2)) := by
  have hroutes : (emissions (b.integrationsSteps g)).filter (fun i => i.category = .route) =
      g.integrations.entries.flatMap fun e =>
        (b.routesOf e.1 e.2).map (b.route e.1 (authorizer? g e.2)) := by
    rw [integrationsSteps, emissions_flatMap, List.filter_flatMap]
    congr 1
    funext e
    rw [emissions_integrationSteps]
    simp [integration, route]
  rw [byCategory_parts h hg (by decide), hroutes]
  simp (disch := decide) only [emits_domainSteps.filter_category_eq_nil,
    emits_stageSteps.filter_category_eq_nil, emits_authorizerSteps.filter_category_eq_nil]
  simp [api]

end Blueprint

end ServicePlan
