import ServicePlan.Proofs.Json.Members

/-!
# Places inside a value

A path leads from a value to one inside it, through members and items.

* `Json.get?`: the value at the end of a path.
* `Json.get?_mapText`: where the text of a value is mapped, what a path leads to is mapped too, and
  the names on the path are.
-/

namespace ServicePlan.Json

/-- A step into a value. -/
inductive Step
  /-- To the member of a name. -/
  | member (name : String)
  /-- To an item, counted from zero. -/
  | item (index : Nat)
  deriving DecidableEq, Repr

namespace Step

/-- The step with its name mapped. -/
def map (f : String → String) : Step → Step
  | .member name => .member (f name)
  | .item index => .item index

end Step

/-- The items of an array. -/
def items? : Json → Option (List Json)
  | .array items => some items
  | _ => none

/-- What one step leads to. -/
def step? (v : Json) : Step → Option Json
  | .member name => v.member? name
  | .item index => v.items?.bind (·[index]?)

/-- What a path leads to. -/
def get? (v : Json) : List Step → Option Json
  | [] => some v
  | s :: path => (v.step? s).bind (·.get? path)

variable {f : String → String}

theorem member?_mapText {v w : Json} (hapart : v.NamesApart f) {name : String}
    (h : v.member? name = some w) :
    (v.mapText f).member? (f name) = some (w.mapText f) ∧ w.NamesApart f := by
  cases v with
  | object members =>
    obtain ⟨hnodup, hvalues⟩ := hapart
    rw [membersApart_iff] at hvalues
    have hmem : (name, w) ∈ members := by
      obtain ⟨l₁, l₂, hsplit, -⟩ := List.lookup_eq_some_iff.1 h
      rw [hsplit]
      exact List.mem_append_right _ (List.mem_cons_self ..)
    refine ⟨?_, hvalues _ hmem⟩
    rw [mapText, member?_ofMembers, mapMembers_eq_map]
    have hnames : ((members.map fun e => (f e.1, e.2.mapText f)).reverse.map (·.1)).Nodup := by
      rw [List.map_reverse, List.nodup_reverse, List.map_map]
      exact hnodup
    exact lookup_of_mem_of_nodup hnames (List.mem_reverse.2 (List.mem_map_of_mem hmem))
  | null | bool | number | string | array => cases h

theorem step?_mapText {v w : Json} (hapart : v.NamesApart f) {s : Step} (h : v.step? s = some w) :
    (v.mapText f).step? (s.map f) = some (w.mapText f) ∧ w.NamesApart f := by
  cases s with
  | member name => exact member?_mapText hapart h
  | item index =>
    obtain ⟨items, hitems, hw⟩ := Option.bind_eq_some_iff.1 h
    cases v with
    | array vs =>
      cases hitems
      refine ⟨?_, itemsApart_iff.1 hapart w (List.mem_of_getElem? hw)⟩
      show (mapItems f items)[index]? = some (w.mapText f)
      rw [mapItems_eq_map, List.getElem?_map, hw]
      rfl
    | null | bool | number | string | object => cases hitems

/-- What a path leads to is found again where the text has been mapped. -/
theorem get?_mapText {v w : Json} (hapart : v.NamesApart f) {path : List Step}
    (h : v.get? path = some w) : (v.mapText f).get? (path.map (·.map f)) = some (w.mapText f) := by
  induction path generalizing v with
  | nil =>
    cases h
    rfl
  | cons s path ih =>
    obtain ⟨u, hu, hw⟩ := Option.bind_eq_some_iff.1 h
    obtain ⟨hstep, hu'⟩ := step?_mapText hapart hu
    rw [List.map_cons, get?, hstep]
    exact ih hu' hw

end ServicePlan.Json
