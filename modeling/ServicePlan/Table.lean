/-!
# Tables keyed by text

A `Table` maps text keys to values.  Its entries are kept in ascending order of the keys, so a
table has one form, whatever order it was filled in, and every walk over it goes in key order:
branches, functions, topics and jobs are all visited that way.

* `Table.insert`: adds or replaces one entry.
* `Table.get?`, `Table.contains`, `Table.keys`: reading.
* `Table.get?_eq_some_iff`, `Table.mem_keys_iff`: what is found, and under which keys.
* `Table.get?_insert`, `Table.sublist_entries_insert`: what an insertion changes, and what it keeps.
* `Table.get?_map`: what is found in a converted table.
* `Table.ofList`: the last of several entries with one key counts.
* `Table.ext`: a table is its list of entries.
-/

namespace ServicePlan

universe u v

/-- A map from text keys, with its entries in ascending key order. -/
structure Table (α : Type u) where
  /-- The entries, in key order. -/
  entries : List (String × α)
  /-- Keys ascend strictly, so no key occurs twice. -/
  ascending : entries.Pairwise fun a b => a.1 < b.1

namespace Table

variable {α : Type u} {β : Type v}

@[ext] theorem ext {s t : Table α} (h : s.entries = t.entries) : s = t := by
  cases s; cases t; cases h; rfl

instance [DecidableEq α] : DecidableEq (Table α) := fun s t =>
  if h : s.entries = t.entries then isTrue (Table.ext h)
  else isFalse fun e => h (e ▸ rfl)

/-- The table without entries. -/
def empty : Table α := ⟨[], .nil⟩

instance : EmptyCollection (Table α) := ⟨empty⟩

instance : Inhabited (Table α) := ⟨empty⟩

@[simp] theorem entries_empty : (∅ : Table α).entries = [] := rfl

/-- The keys, in order. -/
def keys (t : Table α) : List String := t.entries.map (·.1)

/-- The values, in the order of their keys. -/
def values (t : Table α) : List α := t.entries.map (·.2)

/-- Number of entries. -/
def size (t : Table α) : Nat := t.entries.length

/-- Whether there is no entry. -/
def isEmpty (t : Table α) : Bool := t.entries.isEmpty

/-- The value stored under a key. -/
def get? (t : Table α) (key : String) : Option α := t.entries.lookup key

/-- Whether a key has an entry. -/
def contains (t : Table α) (key : String) : Bool := (t.get? key).isSome

/-- The list in which `key` holds `value`; a list in ascending order stays in order. -/
def insertEntry (key : String) (value : α) : List (String × α) → List (String × α)
  | [] => [(key, value)]
  | (k, v) :: rest =>
    if key < k then (key, value) :: (k, v) :: rest
    else if key = k then (key, value) :: rest
    else (k, v) :: insertEntry key value rest

theorem mem_insertEntry {key : String} {value : α} {l : List (String × α)}
    {e : String × α} (h : e ∈ insertEntry key value l) : e = (key, value) ∨ e ∈ l := by
  induction l with
  | nil => simpa [insertEntry] using h
  | cons p rest ih =>
    obtain ⟨k, v⟩ := p
    unfold insertEntry at h
    split at h
    · simpa using h
    · split at h
      · rcases List.mem_cons.1 h with h | h
        · exact .inl h
        · exact .inr (List.mem_cons_of_mem _ h)
      · rcases List.mem_cons.1 h with h | h
        · exact .inr (h ▸ List.mem_cons_self ..)
        · exact (ih h).imp_right (List.mem_cons_of_mem _)

theorem ascending_insertEntry (key : String) (value : α) {l : List (String × α)}
    (h : l.Pairwise fun a b => a.1 < b.1) :
    (insertEntry key value l).Pairwise fun a b => a.1 < b.1 := by
  induction l with
  | nil => simp [insertEntry]
  | cons p rest ih =>
    obtain ⟨k, v⟩ := p
    obtain ⟨hk, hrest⟩ := List.pairwise_cons.1 h
    unfold insertEntry
    split
    · rename_i hlt
      refine List.pairwise_cons.2 ⟨fun e he => ?_, h⟩
      rcases List.mem_cons.1 he with rfl | he
      · exact hlt
      · exact String.lt_trans hlt (hk e he)
    · split
      · rename_i _ heq
        subst heq
        exact List.pairwise_cons.2 ⟨hk, hrest⟩
      · rename_i hlt hne
        refine List.pairwise_cons.2 ⟨fun e he => ?_, ih hrest⟩
        rcases mem_insertEntry he with rfl | he
        · exact Decidable.byContradiction fun hnot =>
            hne (String.le_antisymm (String.not_lt.1 hnot) (String.not_lt.1 hlt))
        · exact hk e he

/-- The table in which `key` holds `value`, and all else is as before. -/
def insert (t : Table α) (key : String) (value : α) : Table α :=
  ⟨insertEntry key value t.entries, ascending_insertEntry key value t.ascending⟩

/-- The table of a list of entries; of several entries with one key the last counts. -/
def ofList (l : List (String × α)) : Table α :=
  l.foldl (fun t e => t.insert e.1 e.2) ∅

/-- The same keys with converted values. -/
def map (f : String → α → β) (t : Table α) : Table β :=
  ⟨t.entries.map fun e => (e.1, f e.1 e.2), by
    rw [List.pairwise_map]; exact t.ascending⟩

@[simp] theorem keys_map (f : String → α → β) (t : Table α) : (t.map f).keys = t.keys := by
  simp [keys, map]

/-! ## Looking up -/

/-- The keys ascend. -/
theorem pairwise_keys (t : Table α) : t.keys.Pairwise (· < ·) := List.pairwise_map.2 t.ascending

/-- A value is found under a key exactly if the two are an entry. -/
theorem get?_eq_some_iff {t : Table α} {key : String} {value : α} :
    t.get? key = some value ↔ (key, value) ∈ t.entries := by
  unfold get?
  have hascending := t.ascending
  generalize t.entries = l at hascending
  induction l with
  | nil => simp
  | cons e rest ih =>
    obtain ⟨k, v⟩ := e
    obtain ⟨hk, hrest⟩ := List.pairwise_cons.1 hascending
    rw [List.lookup_cons, List.mem_cons]
    by_cases heq : key = k
    · subst heq
      have hnot : (key, value) ∉ rest := fun hmem => String.lt_irrefl key (hk _ hmem)
      simp [hnot, eq_comm]
    · have hk' : (key == k) = false := beq_eq_false_iff_ne.mpr heq
      simp [hk', heq, ih hrest]

/-- A key has one value. -/
theorem eq_of_mem {t : Table α} {key : String} {value other : α} (h : (key, value) ∈ t.entries)
    (hother : (key, other) ∈ t.entries) : value = other :=
  Option.some.inj ((get?_eq_some_iff.2 h).symm.trans (get?_eq_some_iff.2 hother))

/-- A key is one of a table exactly if something is found under it. -/
theorem mem_keys_iff {t : Table α} {key : String} :
    key ∈ t.keys ↔ ∃ value, t.get? key = some value := by
  simp only [get?_eq_some_iff, keys, List.mem_map]
  constructor
  · rintro ⟨⟨k, value⟩, h, rfl⟩
    exact ⟨value, h⟩
  · rintro ⟨value, h⟩
    exact ⟨(key, value), h, rfl⟩

/-- Nothing is found exactly under the keys that a table does not have. -/
theorem get?_eq_none_iff {t : Table α} {key : String} : t.get? key = none ↔ key ∉ t.keys := by
  rw [mem_keys_iff, Option.eq_none_iff_forall_ne_some, not_exists]

/-- A table has a key exactly if the key is among its keys. -/
theorem contains_iff {t : Table α} {key : String} : t.contains key = true ↔ key ∈ t.keys := by
  rw [contains, Option.isSome_iff_exists, mem_keys_iff]

/-- The key of an entry is among the keys. -/
theorem mem_keys_of_mem {t : Table α} {e : String × α} (h : e ∈ t.entries) : e.1 ∈ t.keys :=
  List.mem_map.2 ⟨e, h, rfl⟩

/-- What is found is found under a key of the table. -/
theorem mem_keys_of_get? {t : Table α} {key : String} {value : α} (h : t.get? key = some value) :
    key ∈ t.keys :=
  mem_keys_iff.2 ⟨value, h⟩

/-! ## Filling -/

/-- Inserting behind every key appends. -/
theorem insertEntry_of_forall_lt {key : String} {value : α} {l : List (String × α)}
    (h : ∀ e ∈ l, e.1 < key) : insertEntry key value l = l ++ [(key, value)] := by
  induction l with
  | nil => rfl
  | cons p rest ih =>
    obtain ⟨k, v⟩ := p
    have hk : k < key := h (k, v) (by simp)
    have hnot : ¬ key < k := String.lt_asymm hk
    have hne : key ≠ k := fun e => String.lt_irrefl k (e ▸ hk)
    rw [insertEntry, if_neg hnot, if_neg hne, ih fun e he => h e (by simp [he])]
    rfl

/-- Looking up goes by the first entry of a key. -/
theorem lookup_cons_eq_ite (first : String) (v : α) (rest : List (String × α)) (k : String) :
    ((first, v) :: rest).lookup k = if k = first then some v else rest.lookup k := by
  rw [List.lookup_cons]
  by_cases hk : k = first
  · simp [hk]
  · have hne : (k == first) = false := beq_eq_false_iff_ne.mpr hk
    simp [hk, hne]

/-- What was found under other keys is still found. -/
theorem lookup_insertEntry (key : String) (value : α) (l : List (String × α)) (k : String) :
    (insertEntry key value l).lookup k = if k = key then some value else l.lookup k := by
  induction l with
  | nil => rw [insertEntry, lookup_cons_eq_ite]
  | cons e rest ih =>
    obtain ⟨first, v⟩ := e
    unfold insertEntry
    split
    · rw [lookup_cons_eq_ite]
    · split
      · rename_i _ heq
        subst heq
        by_cases hk : k = key <;> simp [lookup_cons_eq_ite, hk]
      · rename_i _ hne
        rw [lookup_cons_eq_ite, ih, lookup_cons_eq_ite]
        by_cases hk : k = first
        · have hkey : first ≠ key := fun h => hne h.symm
          simp [hk, hkey]
        · simp [hk]

/-- What is found after an insertion. -/
theorem get?_insert (t : Table α) (key : String) (value : α) (k : String) :
    (t.insert key value).get? k = if k = key then some value else t.get? k :=
  lookup_insertEntry key value t.entries k

/-- Under a new key nothing is replaced. -/
theorem sublist_insertEntry {key : String} (value : α) {l : List (String × α)}
    (h : key ∉ l.map (·.1)) : l.Sublist (insertEntry key value l) := by
  induction l with
  | nil => exact List.nil_sublist _
  | cons e rest ih =>
    obtain ⟨first, v⟩ := e
    rw [List.map_cons, List.mem_cons, not_or] at h
    unfold insertEntry
    split
    · exact List.sublist_cons_self ..
    · rw [if_neg h.1]
      exact (ih h.2).cons_cons _

/-- Under a new key, what is inserted is all that is added. -/
theorem perm_insertEntry {key : String} (value : α) {l : List (String × α)}
    (h : key ∉ l.map (·.1)) : (insertEntry key value l).Perm ((key, value) :: l) := by
  induction l with
  | nil => exact .refl _
  | cons e rest ih =>
    obtain ⟨first, v⟩ := e
    rw [List.map_cons, List.mem_cons, not_or] at h
    unfold insertEntry
    split
    · exact .refl _
    · rw [if_neg h.1]
      exact ((ih h.2).cons _).trans (.swap ..)

/-- What is inserted under a new key can be taken out again. -/
theorem filter_insertEntry {key : String} {value : α} {l : List (String × α)}
    (h : key ∉ l.map (·.1)) : (insertEntry key value l).filter (·.1 ≠ key) = l := by
  induction l with
  | nil => simp [insertEntry]
  | cons e rest ih =>
    obtain ⟨first, v⟩ := e
    have hall : ((first, v) :: rest).filter (·.1 ≠ key) = (first, v) :: rest :=
      List.filter_eq_self.2 fun e he => by
        simpa using fun heq : e.1 = key => h (heq ▸ List.mem_map_of_mem he)
    rw [List.map_cons, List.mem_cons, not_or] at h
    unfold insertEntry
    split
    · rw [List.filter_cons_of_neg (by simp), hall]
    · rw [if_neg h.1, List.filter_cons_of_pos (by simpa using Ne.symm h.1), ih h.2]

/-- The entries of a table stay among those of a table with a new key, in their order. -/
theorem sublist_entries_insert {t : Table α} {key : String} (value : α) (h : key ∉ t.keys) :
    t.entries.Sublist (t.insert key value).entries :=
  sublist_insertEntry value h

/-- A key behind all others is the last one. -/
theorem keys_insert_of_forall_lt {t : Table α} {key : String} {value : α}
    (h : ∀ k ∈ t.keys, k < key) : (t.insert key value).keys = t.keys ++ [key] := by
  have hentries : (t.insert key value).entries = t.entries ++ [(key, value)] :=
    insertEntry_of_forall_lt fun e he => h e.1 (mem_keys_of_mem he)
  simp [keys, hentries]

/-- Filling a table from ascending entries gives exactly these entries. -/
theorem entries_ofList {l : List (String × α)} (h : l.Pairwise fun a b => a.1 < b.1) :
    (ofList l).entries = l := by
  suffices hgen : ∀ (t : Table α),
      (t.entries ++ l).Pairwise (fun a b => a.1 < b.1) →
        (l.foldl (fun t e => t.insert e.1 e.2) t).entries = t.entries ++ l by
    exact (hgen ∅ (by simpa using h)).trans (by simp)
  induction l with
  | nil => intro t _; simp
  | cons e rest ih =>
    intro t ht
    rw [List.foldl_cons]
    have hlt : ∀ x ∈ t.entries, x.1 < e.1 := fun x hx =>
      (List.pairwise_append.1 ht).2.2 x hx e (by simp)
    have hins : (t.insert e.1 e.2).entries = t.entries ++ [e] :=
      insertEntry_of_forall_lt hlt
    have hrest := (List.pairwise_cons.1 h).2
    rw [ih hrest (t.insert e.1 e.2) (by rw [hins]; simpa using ht), hins]
    simp

/-! ## Converting -/

/-- What is found in a converted table is what was found before, converted. -/
theorem get?_map (f : String → α → β) (t : Table α) (key : String) :
    (t.map f).get? key = (t.get? key).map (f key) := by
  change (t.entries.map fun e => (e.1, f e.1 e.2)).lookup key = (t.entries.lookup key).map (f key)
  induction t.entries with
  | nil => rfl
  | cons e rest ih =>
    obtain ⟨k, v⟩ := e
    rw [List.map_cons, lookup_cons_eq_ite, lookup_cons_eq_ite, ih]
    by_cases hk : key = k
    · subst hk
      simp
    · simp [hk]

theorem contains_map (f : String → α → β) (t : Table α) (key : String) :
    (t.map f).contains key = t.contains key := by
  rw [contains, contains, get?_map, Option.isSome_map]

theorem isEmpty_map (f : String → α → β) (t : Table α) : (t.map f).isEmpty = t.isEmpty :=
  List.isEmpty_map

end Table

end ServicePlan
