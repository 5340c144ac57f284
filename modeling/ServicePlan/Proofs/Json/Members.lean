import Mathlib.Data.List.Induction
import Mathlib.Data.List.Sort
import ServicePlan.Json.Basic

/-!
# The members of an object

An object keeps its members in ascending order of their names, so it is known by what is found under
every name, and what is found is the last member of that name in the list it was made of.

* `Table.get?_ofList`, `Json.member?_ofMembers`: the last entry of a key counts.
* `Table.ext_get?`: two tables in which the same is found are one.
* `Json.mapText`: a function applied to all strings of a value and to all names in it.
* `Json.NamesApart`: the function keeps the names of every object apart.
* `Json.ofMembers_eq_mapText`: members whose names and values have been mapped one by one make up
  the mapped object.
-/

namespace ServicePlan

namespace Table

variable {α : Type}

theorem ofList_concat (l : List (String × α)) (e : String × α) :
    ofList (l ++ [e]) = (ofList l).insert e.1 e.2 := by
  rw [ofList, List.foldl_append]
  rfl

/-- The last of several entries with one key counts. -/
theorem get?_ofList (l : List (String × α)) (key : String) :
    (ofList l).get? key = l.reverse.lookup key := by
  induction l using List.reverseRecOn with
  | nil => rfl
  | append_singleton l e ih =>
    obtain ⟨k, v⟩ := e
    rw [ofList_concat, get?_insert, ih, List.reverse_append]
    exact (lookup_cons_eq_ite k v l.reverse key).symm

/-- What is found under a key is an entry of it. -/
theorem mem_of_lookup {l : List (String × α)} {key : String} {value : α}
    (h : l.lookup key = some value) : (key, value) ∈ l := by
  obtain ⟨before, after, rfl, -⟩ := List.lookup_eq_some_iff.1 h
  exact List.mem_append_right _ (List.mem_cons_self ..)

/-- A table has no keys but those of the list that it was filled from. -/
theorem mem_map_of_mem_keys_ofList {l : List (String × α)} {key : String}
    (h : key ∈ (ofList l).keys) : key ∈ l.map (·.1) := by
  obtain ⟨v, hv⟩ := mem_keys_iff.1 h
  rw [get?_ofList] at hv
  exact List.mem_map.2 ⟨_, List.mem_reverse.1 (mem_of_lookup hv), rfl⟩

/-- A table is known by what is found in it. -/
theorem ext_get? {s t : Table α} (h : ∀ key, s.get? key = t.get? key) : s = t := by
  have hirrefl : Std.Irrefl fun a b : String × α => a.1 < b.1 := ⟨fun _ => String.lt_irrefl _⟩
  have hantisymm : Std.Antisymm fun a b : String × α => a.1 < b.1 :=
    ⟨fun _ _ hab hba => absurd (String.lt_trans hab hba) (String.lt_irrefl _)⟩
  refine Table.ext (s.ascending.eq_of_mem_iff t.ascending fun e => ?_)
  rw [← get?_eq_some_iff, ← get?_eq_some_iff, h]

end Table

namespace Json

theorem ofMembers_eq (members : List (String × Json)) :
    ofMembers members = .object (Table.ofList members).entries := by
  induction members using List.reverseRecOn with
  | nil => rfl
  | append_singleton l e ih =>
    rw [ofMembers, object.injEq] at ih ⊢
    rw [List.foldl_append, ih, Table.ofList_concat]
    rfl

/-- The last member of a name counts. -/
theorem member?_ofMembers (members : List (String × Json)) (name : String) :
    (ofMembers members).member? name = members.reverse.lookup name := by
  rw [ofMembers_eq, ← Table.get?_ofList]
  rfl

/-! ## Ordered values -/

theorem orderedItems_iff {items : List Json} : OrderedItems items ↔ ∀ v ∈ items, v.Ordered := by
  induction items with
  | nil => simp [OrderedItems]
  | cons v rest ih => rw [OrderedItems, ih, List.forall_mem_cons]

theorem orderedMembers_iff {members : List (String × Json)} :
    OrderedMembers members ↔ ∀ e ∈ members, e.2.Ordered := by
  induction members with
  | nil => simp [OrderedMembers]
  | cons e rest ih =>
    obtain ⟨name, v⟩ := e
    rw [OrderedMembers, ih, List.forall_mem_cons]

theorem ordered_object {members : List (String × Json)}
    (hnames : (members.map (·.1)).Pairwise (· < ·)) (h : ∀ e ∈ members, e.2.Ordered) :
    (object members).Ordered :=
  ⟨List.pairwise_map.1 hnames, orderedMembers_iff.2 h⟩

/-- The names of the members are distinct. -/
theorem Ordered.nodup {members : List (String × Json)} (h : (object members).Ordered) :
    (members.map (·.1)).Nodup := by
  rw [Ordered] at h
  refine List.pairwise_map.2 (h.1.imp fun hlt heq => ?_)
  rw [heq] at hlt
  exact String.lt_irrefl _ hlt

theorem Ordered.of_mem {members : List (String × Json)} (h : (object members).Ordered)
    {e : String × Json} (he : e ∈ members) : e.2.Ordered := by
  rw [Ordered] at h
  exact orderedMembers_iff.1 h.2 e he

/-! ## Mapping the text of a value -/

mutual

/-- The value with `f` applied to every string in it and to every name. -/
def mapText (f : String → String) : Json → Json
  | .string s => .string (f s)
  | .array items => .array (mapItems f items)
  | .object members => ofMembers (mapMembers f members)
  | v => v

/-- The items with `f` applied to every string in them and to every name. -/
def mapItems (f : String → String) : List Json → List Json
  | [] => []
  | v :: rest => mapText f v :: mapItems f rest

/-- The members with `f` applied to their names and to every string and name in their values. -/
def mapMembers (f : String → String) : List (String × Json) → List (String × Json)
  | [] => []
  | (name, v) :: rest => (f name, mapText f v) :: mapMembers f rest

end

mutual

/-- No two members of an object inside the value have names that `f` makes equal. -/
def NamesApart (f : String → String) : Json → Prop
  | .array items => ItemsApart f items
  | .object members => (members.map fun e => f e.1).Nodup ∧ MembersApart f members
  | _ => True

/-- No two members of an object inside the items have names that `f` makes equal. -/
def ItemsApart (f : String → String) : List Json → Prop
  | [] => True
  | v :: rest => NamesApart f v ∧ ItemsApart f rest

/-- No two members of an object inside the values of the members have names that `f` makes equal. -/
def MembersApart (f : String → String) : List (String × Json) → Prop
  | [] => True
  | (_, v) :: rest => NamesApart f v ∧ MembersApart f rest

end

variable {f : String → String}

theorem mapItems_eq_map (items : List Json) : mapItems f items = items.map (mapText f) := by
  induction items with
  | nil => rfl
  | cons v rest ih => rw [mapItems, ih, List.map_cons]

theorem itemsApart_iff {items : List Json} : ItemsApart f items ↔ ∀ v ∈ items, v.NamesApart f := by
  induction items with
  | nil => simp [ItemsApart]
  | cons v rest ih => rw [ItemsApart, ih, List.forall_mem_cons]

theorem mapMembers_eq_map (members : List (String × Json)) :
    mapMembers f members = members.map fun e => (f e.1, e.2.mapText f) := by
  induction members with
  | nil => rfl
  | cons e rest ih =>
    obtain ⟨name, v⟩ := e
    rw [mapMembers, ih]
    rfl

theorem membersApart_iff {members : List (String × Json)} :
    MembersApart f members ↔ ∀ e ∈ members, e.2.NamesApart f := by
  induction members with
  | nil => simp [MembersApart]
  | cons e rest ih =>
    obtain ⟨name, v⟩ := e
    rw [MembersApart, ih, List.forall_mem_cons]

/-- Items that have been mapped one by one. -/
theorem eq_mapItems {vs vs' : List Json}
    (h : List.Forall₂ (fun v v' => v.NamesApart f → v' = v.mapText f) vs vs')
    (hapart : ItemsApart f vs) : vs' = mapItems f vs := by
  induction h with
  | nil => rfl
  | cons hv _ ih =>
    obtain ⟨hv', hrest⟩ := hapart
    rw [mapItems, hv hv', ih hrest]

/-- In a list with distinct keys every entry is found. -/
theorem lookup_of_mem_of_nodup {l : List (String × Json)} (hnodup : (l.map (·.1)).Nodup)
    {e : String × Json} (he : e ∈ l) : l.lookup e.1 = some e.2 := by
  induction l with
  | nil => cases he
  | cons first rest ih =>
    obtain ⟨hfirst, hrest⟩ := List.nodup_cons.1 hnodup
    rw [Table.lookup_cons_eq_ite]
    rcases List.mem_cons.1 he with rfl | he
    · exact if_pos rfl
    · have hne : e.1 ≠ first.1 := fun h => hfirst (List.mem_map.2 ⟨e, he, h⟩)
      rw [if_neg hne, ih hrest he]

/-- A member that has been mapped: the name always, and the value where `f` keeps names apart. -/
def IsMapped (f : String → String) (e e' : String × Json) : Prop :=
  e'.1 = f e.1 ∧ (e.2.NamesApart f → e'.2 = e.2.mapText f)

/-- What is found under a name among mapped members is the first member whose name is mapped to
it. -/
theorem lookup_forall₂_isMapped {es es' : List (String × Json)}
    (h : List.Forall₂ (IsMapped f) es es') (name : String) :
    (es'.lookup name = none ∧ ∀ e ∈ es, f e.1 ≠ name) ∨
    ∃ e e', es'.lookup name = some e'.2 ∧ es.lookup e.1 = some e.2 ∧ e'.1 = name ∧
      IsMapped f e e' := by
  induction h with
  | nil => exact .inl ⟨rfl, by simp⟩
  | @cons first first' es es' hfirst _ ih =>
    rw [Table.lookup_cons_eq_ite]
    by_cases hname : name = first'.1
    · refine .inr ⟨first, first', if_pos hname, ?_, hname.symm, hfirst⟩
      rw [Table.lookup_cons_eq_ite, if_pos rfl]
    · rw [if_neg hname]
      rcases ih with ⟨hnone, hes⟩ | ⟨e, e', hfound, he, hname', hmapped⟩
      · refine .inl ⟨hnone, List.forall_mem_cons.2 ⟨fun h => hname ?_, hes⟩⟩
        rw [hfirst.1, h]
      · refine .inr ⟨e, e', hfound, ?_, hname', hmapped⟩
        have hne : e.1 ≠ first.1 := by
          intro h
          rw [← hname', hmapped.1, h, ← hfirst.1] at hname
          exact hname rfl
        rw [Table.lookup_cons_eq_ite, if_neg hne, he]

/-- Members that have been mapped one by one make up the mapped object.  A member that is not the
last of its name does not count, and its value need not keep names apart. -/
theorem ofMembers_eq_mapText {es es' : List (String × Json)}
    (h : List.Forall₂ (IsMapped f) es es') (hapart : (ofMembers es).NamesApart f) :
    ofMembers es' = (ofMembers es).mapText f := by
  rw [ofMembers_eq es] at hapart ⊢
  obtain ⟨hnodup, hvalues⟩ := hapart
  rw [membersApart_iff] at hvalues
  have hmem : ∀ e : String × Json, es.reverse.lookup e.1 = some e.2 ↔
      e ∈ (Table.ofList es).entries := fun e => by
    rw [← Table.get?_ofList, Table.get?_eq_some_iff]
  rw [mapText, mapMembers_eq_map, ofMembers_eq, ofMembers_eq, object.injEq]
  refine congrArg Table.entries (Table.ext_get? fun name => ?_)
  rw [Table.get?_ofList, Table.get?_ofList]
  have hnames : ((((Table.ofList es).entries.map fun e => (f e.1, e.2.mapText f)).reverse).map
      (·.1)).Nodup := by
    rw [List.map_reverse, List.nodup_reverse, List.map_map]
    exact hnodup
  rcases lookup_forall₂_isMapped (List.forall₂_reverse_iff.2 h) name with
    ⟨hnone, hes⟩ | ⟨e, e', hfound, he, rfl, hname, hvalue⟩
  · rw [hnone, eq_comm, List.lookup_eq_none_iff]
    rintro _ hp
    obtain ⟨e, he, rfl⟩ := List.mem_map.1 (List.mem_reverse.1 hp)
    rw [← hmem, List.lookup_eq_some_iff] at he
    obtain ⟨l₁, l₂, hsplit, -⟩ := he
    have hmem' : e ∈ es.reverse := hsplit ▸ List.mem_append_right _ (List.mem_cons_self ..)
    exact bne_iff_ne.2 (Ne.symm (hes e hmem'))
  · rw [hmem] at he
    rw [hfound, hname, hvalue (hvalues e he), eq_comm]
    exact lookup_of_mem_of_nodup hnames (List.mem_reverse.2 (List.mem_map_of_mem he))

end Json

end ServicePlan
