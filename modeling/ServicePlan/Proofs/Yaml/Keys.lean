import Mathlib.Data.List.Pairwise
import ServicePlan.Yaml.Reader

/-!
# The keys of mappings

A document is refused if a mapping in it has one key twice, so in a value that has been read every
key of a mapping leads to one entry.  References do not change this: the value of a node that they
lead to has been read the same way.

* `Yaml.KeysApart`: no mapping inside a value has two entries with one key.
* `Yaml.keysApart_of_read`: values that are read keep their keys apart.
* `Yaml.KeysDiffer.eq_of_mem`: a string is the key of at most one entry.
* `Yaml.isUntagged`: nothing inside a value has a tag, so nothing is looked through.
-/

namespace ServicePlan.Yaml

/-- Entries of which no two have one key. -/
def KeysDiffer (entries : List (Yaml × Yaml)) : Prop :=
  entries.Pairwise fun e e' => same e.1 e'.1 = false

/-- No mapping inside a value has two entries with one key. -/
inductive KeysApart : Yaml → Prop
  | null : KeysApart .null
  | bool (b : Bool) : KeysApart (.bool b)
  | number (n : YamlNumber) : KeysApart (.number n)
  | string (s : String) : KeysApart (.string s)
  | sequence {items : List Yaml} (hitems : ∀ v ∈ items, KeysApart v) : KeysApart (.sequence items)
  | mapping {entries : List (Yaml × Yaml)} (hdiffer : KeysDiffer entries)
      (hkeys : ∀ e ∈ entries, KeysApart e.1) (hvalues : ∀ e ∈ entries, KeysApart e.2) :
      KeysApart (.mapping entries)
  | tagged (tag : String) {v : Yaml} (hv : KeysApart v) : KeysApart (.tagged tag v)

/-! ## Reading -/

/-- A new entry whose key none of the others has keeps the keys different. -/
theorem KeysDiffer.concat {entries : List (Yaml × Yaml)} {key : Yaml} (h : KeysDiffer entries)
    (hkey : hasKey entries key = false) (v : Yaml) : KeysDiffer (entries ++ [(key, v)]) := by
  refine List.pairwise_append.2 ⟨h, List.pairwise_singleton .., fun e he e' he' => ?_⟩
  obtain rfl := List.mem_singleton.1 he'
  exact Bool.eq_false_iff.2 (List.any_eq_false.1 hkey e he)

theorem keysApart_ofOther (text : List Char) : (Scalar.ofOther text).KeysApart := by
  rw [Scalar.ofOther]
  split
  · exact .string _
  · split
    · exact .number _
    · exact .string _

theorem keysApart_ofPlain {text : List Char} {v : Yaml} (h : Scalar.ofPlain text = some v) :
    v.KeysApart := by
  rw [Scalar.ofPlain] at h
  split at h
  · cases h
    exact .null
  · split at h
    · cases h
      exact .bool _
    · split at h
      · split at h
        · cases h
          exact .number _
        · split at h
          · cases h
          · cases h
            exact keysApart_ofOther text
      · cases h
        exact keysApart_ofOther text

theorem keysApart_ofTag {tag : String} {text : List Char} {v : Yaml}
    (h : Scalar.ofTag tag text = some v) : v.KeysApart := by
  rw [Scalar.ofTag] at h
  split at h
  · obtain ⟨b, -, rfl⟩ := Option.map_eq_some_iff.1 h
    exact .bool b
  · split at h
    · obtain ⟨i, -, rfl⟩ := Option.map_eq_some_iff.1 h
      exact .number _
    · split at h
      · obtain ⟨n, -, rfl⟩ := Option.map_eq_some_iff.1 h
        exact .number n
      · split at h
        · split at h
          · cases h
            exact .null
          · cases h
        · cases h
          exact .string _

/-- A scalar is no mapping. -/
theorem keysApart_ofScalar {tag : Option String} {below plain : Bool} {text : String} {v : Yaml}
    (h : ofScalar tag below text plain = some v) : v.KeysApart := by
  unfold ofScalar at h
  split at h
  · exact keysApart_ofTag h
  · split at h
    · exact keysApart_ofPlain h
    · cases h
      exact .string text

/-- What is read with some fuel keeps its keys apart. -/
structure ReadsApart (d : Linked) (fuel : Nat) : Prop where
  node {depth place followed : Nat} {below : Bool} {v : Yaml} {next : Nat × Nat} :
    nodeAt d fuel depth below place followed = some (v, next) → v.KeysApart
  items {depth place followed : Nat} {vs : List Yaml} {next : Nat × Nat} :
    itemsAt d fuel depth place followed = some (vs, next) → ∀ v ∈ vs, v.KeysApart
  entries {depth place followed : Nat} {done es : List (Yaml × Yaml)} {next : Nat × Nat} :
    entriesAt d fuel depth place followed done = some (es, next) →
      (mapping done).KeysApart → (mapping es).KeysApart

variable {d : Linked} {fuel depth place followed : Nat} {next : Nat × Nat}

theorem ReadsApart.node_succ (ih : ReadsApart d fuel) {below : Bool} {v : Yaml}
    (h : nodeAt d (fuel + 1) depth below place followed = some (v, next)) : v.KeysApart := by
  rw [nodeAt] at h
  split at h
  · cases h
  · split at h
    · -- a tag
      obtain ⟨⟨w, n⟩, hw, h⟩ := Option.bind_eq_some_iff.1 h
      cases h
      exact .tagged _ (ih.node hw)
    · split at h
      · -- a reference
        split at h
        · cases h
        · obtain ⟨target, -, h⟩ := Option.bind_eq_some_iff.1 h
          obtain ⟨⟨w, n⟩, hw, h⟩ := Option.bind_eq_some_iff.1 h
          cases h
          exact ih.node hw
      · obtain ⟨w, hw, h⟩ := Option.bind_eq_some_iff.1 h
        cases h
        exact keysApart_ofScalar hw
      · obtain ⟨⟨vs, n⟩, hvs, h⟩ := Option.bind_eq_some_iff.1 h
        cases h
        exact .sequence (ih.items hvs)
      · obtain ⟨⟨es, n⟩, hes, h⟩ := Option.bind_eq_some_iff.1 h
        cases h
        exact ih.entries hes (.mapping .nil (by simp) (by simp))
      · cases h

theorem ReadsApart.items_succ (ih : ReadsApart d fuel) {vs : List Yaml}
    (h : itemsAt d (fuel + 1) depth place followed = some (vs, next)) :
    ∀ v ∈ vs, v.KeysApart := by
  rw [itemsAt] at h
  split at h
  · cases h
    exact fun _ hv => absurd hv List.not_mem_nil
  · obtain ⟨⟨w, n⟩, hw, h⟩ := Option.bind_eq_some_iff.1 h
    obtain ⟨⟨rest, n'⟩, hrest, h⟩ := Option.bind_eq_some_iff.1 h
    cases h
    exact List.forall_mem_cons.2 ⟨ih.node hw, ih.items hrest⟩

theorem ReadsApart.entries_succ (ih : ReadsApart d fuel) {done es : List (Yaml × Yaml)}
    (h : entriesAt d (fuel + 1) depth place followed done = some (es, next))
    (hdone : (mapping done).KeysApart) : (mapping es).KeysApart := by
  rw [entriesAt] at h
  split at h
  · cases h
    exact hdone
  · obtain ⟨⟨key, n⟩, hkey, h⟩ := Option.bind_eq_some_iff.1 h
    dsimp only at h
    split at h
    · cases h
    · rename_i hnew
      -- the entries so far are those of a mapping that keeps its keys apart, and so are the next
      obtain ⟨⟨w, n'⟩, hw, h⟩ := Option.bind_eq_some_iff.1 h
      cases hdone with
      | mapping hdiffer hkeys hvalues =>
        refine ih.entries h (.mapping (hdiffer.concat (Bool.eq_false_iff.2 hnew) w) ?_ ?_)
        · exact List.forall_mem_append.2 ⟨hkeys, List.forall_mem_singleton.2 (ih.node hkey)⟩
        · exact List.forall_mem_append.2 ⟨hvalues, List.forall_mem_singleton.2 (ih.node hw)⟩

theorem readsApart (d : Linked) (fuel : Nat) : ReadsApart d fuel := by
  induction fuel with
  | zero => constructor <;> simp [nodeAt, itemsAt, entriesAt]
  | succ fuel ih => exact ⟨ih.node_succ, ih.items_succ, ih.entries_succ⟩

/-- A text that reads as a value gives no key of a mapping twice. -/
theorem keysApart_of_read {text : String} {v : Yaml} (h : read text = some v) : v.KeysApart := by
  obtain ⟨tokens, -, h⟩ := Option.bind_eq_some_iff.1 h
  obtain ⟨events, -, h⟩ := Option.bind_eq_some_iff.1 h
  unfold ofEvents? at h
  split at h
  · cases h
    exact .null
  · obtain ⟨anchors, -, h⟩ := Option.bind_eq_some_iff.1 h
    obtain ⟨⟨w, n⟩, hw, h⟩ := Option.bind_eq_some_iff.1 h
    cases h
    exact (readsApart _ _).node hw

/-! ## Strings as keys -/

variable {entries : List (Yaml × Yaml)} {key : String} {v v' : Yaml}

/-- No string is the key of two entries. -/
theorem KeysDiffer.strings (h : KeysDiffer entries) :
    entries.Pairwise fun e e' => ∀ key, e.1 = .string key → e'.1 ≠ .string key := by
  refine h.imp fun {e e'} hsame key he he' => ?_
  rw [he, he', same, beq_self_eq_true] at hsame
  cases hsame

theorem KeysDiffer.eq_of_mem (h : KeysDiffer entries) (he : (.string key, v) ∈ entries)
    (he' : (.string key, v') ∈ entries) : v = v' := by
  have hsymm : Std.Symm fun e e' : Yaml × Yaml => ∀ key, e.1 = .string key → e'.1 ≠ .string key :=
    ⟨fun _ _ hne key he' he => hne key he he'⟩
  by_contra hne
  have hentries : ((.string key, v) : Yaml × Yaml) ≠ (.string key, v') := by simpa using hne
  exact h.strings.forall he he' hentries key rfl rfl

/-- What is found under a string is its only entry. -/
theorem KeysDiffer.get?_eq (h : KeysDiffer entries) (he : (.string key, v) ∈ entries) :
    (mapping entries).get? key = some v := by
  have hsome : (entries.find? fun e => e.1.isText key).isSome :=
    List.find?_isSome.2 ⟨_, he, beq_self_eq_true key⟩
  obtain ⟨⟨k, w⟩, hfind⟩ := Option.isSome_iff_exists.1 hsome
  have hkey : k = .string key := by
    have htext := List.find?_some hfind
    cases k with
    | string s => rw [eq_of_beq htext]
    | _ => cases htext
  obtain rfl := h.eq_of_mem he (hkey ▸ List.mem_of_find?_eq_some hfind)
  simp only [get?, entries?, untagged, Option.bind_some, hfind, Option.map_some]

/-! ## Values without tags -/

mutual

/-- Whether nothing inside a value has a tag. -/
def isUntagged : Yaml → Bool
  | .tagged _ _ => false
  | .sequence items => untaggedItems items
  | .mapping entries => untaggedEntries entries
  | _ => true

/-- Whether no item has a tag inside. -/
def untaggedItems : List Yaml → Bool
  | [] => true
  | v :: rest => v.isUntagged && untaggedItems rest

/-- Whether no entry has a tag inside. -/
def untaggedEntries : List (Yaml × Yaml) → Bool
  | [] => true
  | (k, v) :: rest => k.isUntagged && v.isUntagged && untaggedEntries rest

end

theorem isUntagged_mapping :
    (mapping entries).isUntagged = true ↔
      ∀ e ∈ entries, e.1.isUntagged = true ∧ e.2.isUntagged = true := by
  rw [isUntagged]
  induction entries with
  | nil => simp [untaggedEntries]
  | cons e rest ih =>
    obtain ⟨k, w⟩ := e
    rw [untaggedEntries, Bool.and_eq_true, Bool.and_eq_true, ih, List.forall_mem_cons]

theorem untagged_eq (h : v.isUntagged = true) : v.untagged = v := by
  cases v with
  | tagged => cases h
  | _ => rfl

theorem text?_eq_some_iff (h : v.isUntagged = true) {s : String} :
    v.text? = some s ↔ v = .string s := by
  rw [text?, untagged_eq h]
  cases v <;> simp

end ServicePlan.Yaml
