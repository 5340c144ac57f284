import Mathlib.Data.List.Pairwise
import ServicePlan.Proofs.Api

/-!
# Route keys of the api

All routes belong to one api, and requests are told apart by route keys.  The name of a route is
made from the function that it calls and its route key, so a plan refuses an integration that claims
a route key twice, but not two integrations that claim the same one.

* `Blueprint.RoutesApart`: no two integrations claim one route key.
* `Blueprint.routeKeys_of_build`: the route keys of a plan are distinct exactly if the integrations
  keep apart.
* `Blueprint.not_forall_nodup_routeKeys`: not all do.
-/

namespace ServicePlan.Blueprint

variable {b : Blueprint} {g : GatewaySpec} {key : String} {r : RouteSpec}

/-- No two integrations claim one route key. -/
def RoutesApart (b : Blueprint) : Prop :=
  ∀ e ∈ b.spec.integrationTable.entries, ∀ e' ∈ b.spec.integrationTable.entries, e.1 ≠ e'.1 →
    (b.routesOf e.1 e.2).Disjoint (b.routesOf e'.1 e'.2)

/-- The route keys of the integrations of a build without a fault are known. -/
theorem routeKeys_eq_ok (h : b.build.2 = none) (hg : b.spec.gateway = some g)
    (he : (key, r) ∈ g.integrations.entries) : b.routeKeys key r = .ok (b.routesOf key r) := by
  have hintegration : b.integrationSteps g key r ⊆ b.gatewaySteps := by
    intro s hs
    have hloop : s ∈ g.integrations.entries.flatMap fun e => b.integrationSteps g e.1 e.2 :=
      List.mem_flatMap.2 ⟨_, he, hs⟩
    simp only [gatewaySteps, hg, List.mem_append, hloop, true_or, or_true]
  have hclean := ((clean_of_build h).subset b.gatewaySteps_subset).subset hintegration
  obtain ⟨routes, hroutes, -⟩ := (hclean.subset (List.subset_cons_self ..)).exists_eq_ok
  rw [routesOf, hroutes]

/-- The route keys of a plan are those of the integrations. -/
theorem map_routeKey_byCategory (h : b.build.2 = none) (hg : b.spec.gateway = some g) :
    (b.build.1.plan.byCategory .route).map (·.text? "route_key") =
      (g.integrations.entries.flatMap fun e => b.routesOf e.1 e.2).map some := by
  have hkey : ∀ (key : String) (authorizer : Option Handle) (routeKey : String),
      (b.route key authorizer routeKey).text? "route_key" = some routeKey :=
    fun _ _ _ => rfl
  rw [byCategory_route h hg, List.map_flatMap, List.map_flatMap]
  simp only [List.map_map, Function.comp_def, hkey]

/-- An integration of a plan claims no route key twice, because the two routes would have one
name. -/
theorem nodup_routesOf (h : b.build.2 = none) (hg : b.spec.gateway = some g)
    (he : (key, r) ∈ g.integrations.entries) : (b.routesOf key r).Nodup := by
  have hdistinct := b.ordered_build.nodup_byCategory .route
  rw [byCategory_route h hg, List.map_flatMap, List.nodup_flatMap] at hdistinct
  have hown := hdistinct.1 _ he
  rw [List.map_map] at hown
  exact hown.of_map

/-- The integrations keep apart exactly if no route key occurs twice among theirs. -/
theorem routesApart_iff (h : b.build.2 = none) (hg : b.spec.gateway = some g) :
    b.RoutesApart ↔ (g.integrations.entries.flatMap fun e => b.routesOf e.1 e.2).Nodup := by
  rw [RoutesApart, ServiceSpec.integrationTable_eq hg, List.nodup_flatMap]
  constructor
  · intro hapart
    refine ⟨fun e he => nodup_routesOf h hg he, ?_⟩
    refine g.integrations.ascending.imp_of_mem fun {e e'} he he' hlt => hapart e he e' he' ?_
    rintro heq
    exact String.lt_irrefl _ (heq ▸ hlt)
  · rintro ⟨-, hpairwise⟩ e he e' he' hne
    have hsymm : Std.Symm (Function.onFun List.Disjoint fun e : String × RouteSpec =>
        b.routesOf e.1 e.2) := ⟨fun _ _ hdisjoint => List.disjoint_symm hdisjoint⟩
    exact hpairwise.forall he he' fun heq => hne (congrArg _ heq)

/-- **Route keys.**  All routes of a plan belong to its api, and their keys are those that the
integrations claim, each of which claims no key twice.  They are all distinct exactly if no two
integrations claim the same one. -/
theorem routeKeys_of_build (h : b.build.2 = none) :
    (∀ route ∈ b.build.1.plan.byCategory .route, route.text? "api_id" = some b.apiHandle.ref) ∧
    (∀ e ∈ b.spec.integrationTable.entries,
      b.routeKeys e.1 e.2 = .ok (b.routesOf e.1 e.2) ∧ (b.routesOf e.1 e.2).Nodup) ∧
    (b.build.1.plan.byCategory .route).map (·.text? "route_key") =
      (b.spec.integrationTable.entries.flatMap fun e => b.routesOf e.1 e.2).map some ∧
    (((b.build.1.plan.byCategory .route).map (·.text? "route_key")).Nodup ↔ b.RoutesApart) := by
  cases hg : b.spec.gateway with
  | none =>
    have htable := ServiceSpec.integrationTable_eq_empty hg
    have hroutes := byCategory_of_gateway_eq_none h hg (c := .route) (by decide)
    simp [RoutesApart, htable, hroutes]
  | some g =>
    have htable := ServiceSpec.integrationTable_eq hg
    have hkeys := map_routeKey_byCategory h hg
    refine ⟨?_, ?_, by rw [hkeys, htable], ?_⟩
    · intro route hroute
      rw [byCategory_route h hg] at hroute
      obtain ⟨e, -, hroute⟩ := List.mem_flatMap.1 hroute
      obtain ⟨routeKey, -, rfl⟩ := List.mem_map.1 hroute
      rfl
    · rw [htable]
      exact fun e he => ⟨routeKeys_eq_ok h hg he, nodup_routesOf h hg he⟩
    · rw [hkeys, routesApart_iff h hg]
      exact List.nodup_map_iff fun _ _ heq => Option.some.inj heq

/-- The integrations of the service with two branches keep apart. -/
theorem routesApart_market : market.RoutesApart :=
  (routeKeys_of_build build_market).2.2.2.1 (by decide +kernel)

/-- Two functions that the api calls for the same requests. -/
def rivals : Blueprint where
  spec := {
    serviceName := "shop"
    apiName := "shop-api"
    branches := .ofList [("main", {})]
    handler := "index.handler"
    functions := .ofList [("cart", {}), ("stock", {})]
    gateway := some {
      integrations := .ofList
        [("cart", { routes := some ["GET /items"] }),
          ("stock", { routes := some ["GET /items"] })] } }
  site := ⟨"123456789012", "us-east-1"⟩
  references := .empty
  files := fun _ => .error (.other "no such file")

set_option maxRecDepth 20000 in
/-- Two integrations may claim one route key. -/
theorem not_forall_nodup_routeKeys :
    ¬ ∀ b : Blueprint, b.build.2 = none →
      ((b.build.1.plan.byCategory .route).map (·.text? "route_key")).Nodup := by
  intro h
  have hrivals := h rivals (by rfl)
  have htwice : (rivals.build.1.plan.byCategory .route).map (·.text? "route_key") =
      [some "GET /items", some "GET /items"] := by rfl
  rw [htwice] at hrivals
  simp at hrivals

end ServicePlan.Blueprint
