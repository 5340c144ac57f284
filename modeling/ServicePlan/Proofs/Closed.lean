import ServicePlan.Build.Service
import ServicePlan.Proofs.QueueChain

/-!
# Specs whose references lead somewhere

A spec refers to its own parts by their keys, and to what is outside of it by the ids and names of
its references.

* `Catalog`: the ids and names that a spec gives to what is outside of it.
* `ServiceSpec.Closed`: every reference leads to something that is declared.
* `References.catalog_of_resolve`: resolving the references keeps the catalog.
-/

namespace ServicePlan

/-- The ids and names that a spec gives to what is outside of it. -/
structure Catalog where
  /-- The ids of the layers. -/
  layers : List String
  /-- The names of the user pools. -/
  users : List String
  /-- Whether there is a network for batch jobs. -/
  network : Bool

/-! ## Closed specs -/

/-- The references of the functions of one table lead somewhere. -/
structure FunctionsClosed (c : Catalog) (functions : Table FunctionSpec) : Prop where
  /-- Messages are sent on to functions of the table that have a queue, and never in a circle. -/
  chains : QueueChain.Sound functions
  /-- The layers are those of the catalog. -/
  layers : ∀ e ∈ functions.entries, ∀ id ∈ e.2.layers, id ∈ c.layers

namespace ServiceSpec

variable (s : ServiceSpec)

/-- The apps; a spec without the block has none. -/
def appTable : Table AppSpec := s.apps.getD ∅

/-- The topics; a spec without the block has none. -/
def topicTable : Table TopicSpec := s.topics.getD ∅

/-- The batch jobs; a spec without the block has none. -/
def jobTable : Table JobSpec := s.jobs.getD ∅

/-- An app whose users log in. -/
def HasLogin (app : String) : Prop := ∃ a, (app, a) ∈ s.appTable.entries ∧ a.user.isSome

/-- Every reference of a spec leads to something that the spec declares, or that the catalog
lists. -/
structure Closed (c : Catalog) : Prop where
  /-- The references of the functions of the branches. -/
  functions : FunctionsClosed c s.functions
  /-- The references of the functions that a topic feeds, which see only each other. -/
  topicFunctions : ∀ e ∈ s.topicTable.entries, ∀ functions, e.2.functions = some functions →
    FunctionsClosed c functions
  /-- The user pools that apps log in with. -/
  logins : ∀ e ∈ s.appTable.entries, ∀ user, e.2.user = some user → user ∈ c.users
  /-- The topics that are told about the deployment of apps. -/
  notifications : ∀ e ∈ s.appTable.entries, ∀ key, e.2.topic = some key → key ∈ s.topicTable.keys
  /-- The functions that the api calls. -/
  integrations : ∀ g, s.gateway = some g → ∀ key ∈ g.integrations.keys, key ∈ s.functions.keys
  /-- The user pools and the apps that authorize requests. -/
  authorizations : ∀ g, s.gateway = some g → ∀ e ∈ g.integrations.entries,
    ∀ auth, e.2.authorization = some auth → auth.user ∈ c.users ∧ s.HasLogin auth.app
  /-- The functions that are told about batch jobs, which only run where there is a network. -/
  jobs : c.network = true → ∀ e ∈ s.jobTable.entries, e.2.stateFunction ∈ s.functions.keys

/-! ## Catalogs -/

/-- What a spec lists of what is outside of it. -/
def catalog : Catalog :=
  match s.references with
  | some r => ⟨r.layers.keys, r.pools.keys, r.network.isSome⟩
  | none => ⟨[], [], false⟩

end ServiceSpec

/-- What has been found of what is outside of a spec. -/
def References.catalog (r : References) : Catalog := ⟨r.layers.keys, r.pools.keys, r.network.isSome⟩

namespace Resolver

variable {versions : LayerVersions} {n : Naming} {s t : Resolver}

/-- A layer that is resolved is entered under its id. -/
theorem layers_of_step {id value : String} (h : s.step versions n id value = (t, none)) :
    ∃ arn, t.layers = s.layers.insert id arn := by
  rw [step] at h
  split at h
  · cases h
    exact ⟨_, rfl⟩
  · split at h
    · cases h
      exact ⟨_, rfl⟩
    · rw [ask] at h
      cases hv : versions s.asked value with
      | error f =>
        rw [hv] at h
        cases h
      | ok version =>
        rw [hv] at h
        cases h
        exact ⟨_, rfl⟩

/-- If all layers are resolved, their ids are entered in the order they come in. -/
theorem keys_of_run {layers : List (String × String)} (h : run versions n layers s = (t, none))
    (hascending : (s.layers.keys ++ layers.map (·.1)).Pairwise (· < ·)) :
    t.layers.keys = s.layers.keys ++ layers.map (·.1) := by
  induction layers generalizing s with
  | nil =>
    cases h
    simp
  | cons e rest ih =>
    obtain ⟨id, value⟩ := e
    rw [run] at h
    cases hstep : s.step versions n id value with
    | mk u fault =>
      rw [hstep] at h
      cases fault with
      | some f => cases h
      | none =>
        obtain ⟨arn, hlayers⟩ := layers_of_step hstep
        have hlast : ∀ k ∈ s.layers.keys, k < id := fun k hk =>
          (List.pairwise_append.1 hascending).2.2 k hk id (List.mem_cons_self ..)
        have hkeys : u.layers.keys = s.layers.keys ++ [id] := by
          rw [hlayers, Table.keys_insert_of_forall_lt hlast]
        have hmore : s.layers.keys ++ ((id, value) :: rest).map (·.1) =
            u.layers.keys ++ rest.map (·.1) := by
          rw [hkeys, List.append_assoc]
          rfl
        rw [hmore] at hascending ⊢
        exact ih h hascending

end Resolver

/-- References that are resolved are those that the spec lists. -/
theorem References.catalog_of_resolve {s : ServiceSpec} {site : Deployment}
    {versions : LayerVersions} {r : References}
    (h : (References.resolve s.references site versions).2 = .ok r) : r.catalog = s.catalog := by
  rw [ServiceSpec.catalog]
  cases hreferences : s.references with
  | none =>
    rw [hreferences] at h
    cases h
    rfl
  | some spec =>
    simp only [References.resolve, hreferences] at h
    cases hrun : Resolver.run versions ⟨"", site⟩ spec.layers.entries {} with
    | mk t fault =>
      rw [hrun] at h
      cases fault with
      | some f => cases h
      | none =>
        cases h
        have hkeys : t.layers.keys = spec.layers.keys :=
          Resolver.keys_of_run hrun spec.layers.pairwise_keys
        simp [References.catalog, hkeys]

/-! ## Lookups -/

section MapM

variable {ε α β : Type} {f : α → Except ε β} {l : List α}

/-- If a list is converted, each of its elements is. -/
theorem exists_eq_ok_of_mapM {result : List β} (h : l.mapM f = .ok result) :
    ∀ a ∈ l, ∃ y, f a = .ok y := by
  induction l generalizing result with
  | nil => simp
  | cons a rest ih =>
    rw [List.mapM_cons] at h
    cases hfirst : f a with
    | error e =>
      rw [hfirst] at h
      cases h
    | ok y =>
      cases hrest : rest.mapM f with
      | error e =>
        rw [hfirst, hrest] at h
        cases h
      | ok ys => exact List.forall_mem_cons.2 ⟨⟨y, hfirst⟩, ih hrest⟩

/-- If a list is not converted, the fault is that of one of its elements. -/
theorem exists_eq_error_of_mapM {e : ε} (h : l.mapM f = .error e) : ∃ a ∈ l, f a = .error e := by
  induction l with
  | nil => cases h
  | cons a rest ih =>
    rw [List.mapM_cons] at h
    cases hfirst : f a with
    | error e' =>
      rw [hfirst] at h
      cases h
      exact ⟨a, List.mem_cons_self .., hfirst⟩
    | ok y =>
      cases hrest : rest.mapM f with
      | error e' =>
        rw [hfirst, hrest] at h
        cases h
        obtain ⟨x, hx, hfx⟩ := ih hrest
        exact ⟨x, List.mem_cons_of_mem a hx, hfx⟩
      | ok ys =>
        rw [hfirst, hrest] at h
        cases h

/-- Converting a list converts its elements one by one. -/
theorem forall₂_of_mapM {result : List β}
    (h : l.mapM f = .ok result) : List.Forall₂ (fun x y => f x = .ok y) l result := by
  induction l generalizing result with
  | nil =>
    cases h
    exact .nil
  | cons x rest ih =>
    rw [List.mapM_cons] at h
    cases hfirst : f x with
    | error e =>
      rw [hfirst] at h
      cases h
    | ok y =>
      cases hrest : rest.mapM f with
      | error e =>
        rw [hfirst, hrest] at h
        cases h
      | ok ys =>
        rw [hfirst, hrest] at h
        cases h
        exact .cons hfirst (ih hrest)

/-- A list is converted exactly if its elements are, one by one. -/
theorem mapM_eq_ok_iff {result : List β} :
    l.mapM f = .ok result ↔ List.Forall₂ (fun x y => f x = .ok y) l result := by
  constructor
  · exact forall₂_of_mapM
  · intro h
    induction h with
    | nil => rfl
    | cons hfirst _ ih => rw [List.mapM_cons, hfirst, ih]; rfl

/-- The first element that is not converted decides. -/
theorem mapM_eq_error {before after : List α} {a : α} {e : ε}
    (hbefore : ∀ x ∈ before, ∃ y, f x = .ok y) (ha : f a = .error e) :
    (before ++ a :: after).mapM f = .error e := by
  induction before with
  | nil =>
    rw [List.nil_append, List.mapM_cons, ha]
    rfl
  | cons x before ih =>
    obtain ⟨⟨y, hy⟩, hmore⟩ := List.forall_mem_cons.1 hbefore
    rw [List.cons_append, List.mapM_cons, hy, ih hmore]
    rfl

end MapM

namespace References

variable {r : References} {requestedBy : String}

/-- Layers that are found are those of the catalog. -/
theorem mem_layers_of_layerArns {ids arns : List String}
    (h : r.layerArns ids requestedBy = .ok arns) : ∀ id ∈ ids, id ∈ r.catalog.layers := by
  intro id hid
  obtain ⟨arn, harn⟩ := exists_eq_ok_of_mapM h id hid
  rw [layerArn] at harn
  cases hget : r.layers.get? id with
  | some found => exact Table.mem_keys_of_get? hget
  | none =>
    rw [hget] at harn
    cases harn

/-- If layers are not found, the catalog lacks one of them. -/
theorem not_mem_layers_of_layerArns {ids : List String} {f : Fault}
    (h : r.layerArns ids requestedBy = .error f) :
    f.kind = .reference ∧ ∃ id ∈ ids, id ∉ r.catalog.layers := by
  obtain ⟨id, hid, hf⟩ := exists_eq_error_of_mapM h
  rw [layerArn] at hf
  cases hget : r.layers.get? id with
  | some found =>
    rw [hget] at hf
    cases hf
  | none =>
    rw [hget] at hf
    cases hf
    exact ⟨rfl, id, hid, Table.get?_eq_none_iff.1 hget⟩

theorem userPool_eq_ok_iff {user : String} {pool : UserPool} :
    r.userPool user requestedBy = .ok pool ↔ r.pools.get? user = some pool := by
  rw [userPool]
  cases r.pools.get? user with
  | some found => simp only [Except.ok.injEq, Option.some.injEq]
  | none => simp only [reduceCtorEq]

/-- A user pool that is found is one of the catalog. -/
theorem mem_users_of_userPool {user : String} {pool : UserPool}
    (h : r.userPool user requestedBy = .ok pool) : user ∈ r.catalog.users :=
  Table.mem_keys_of_get? (userPool_eq_ok_iff.1 h)

/-- A user pool that is not found is not one of the catalog. -/
theorem not_mem_users_of_userPool {user : String} {f : Fault}
    (h : r.userPool user requestedBy = .error f) :
    f.kind = .reference ∧ user ∉ r.catalog.users := by
  rw [userPool] at h
  cases hget : r.pools.get? user with
  | some found =>
    rw [hget] at h
    cases h
  | none =>
    rw [hget] at h
    cases h
    exact ⟨rfl, Table.get?_eq_none_iff.1 hget⟩

end References

end ServicePlan
