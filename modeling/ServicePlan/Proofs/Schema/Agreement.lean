import ServicePlan.Proofs.Json.Places
import ServicePlan.Proofs.Records
import ServicePlan.Proofs.Schema.Acceptance

/-!
# Where a schema and a decoder agree

Of the values that keep a schema, a decoder takes those in which all numbers at some places are
integers of 64 bits.  Schemas and decoders are put together alike, from texts and numbers through
tables to records, and so is their agreement.

* `Schema.Agrees`: a schema and a decoder agree up to the numbers at some places.
* `Agrees.optional`, `Agrees.table`, `Agrees.reference`: what they agree on is passed on.
* `Schema.Matches`: the fields of a record agree with the schemas of their names, one by one.
* `Schema.agrees_record`: a record agrees if its fields do.
-/

namespace ServicePlan.Schema

open Json (Place within)

variable {α β : Type} {r : Resolver} {s : Schema} {d : Decoder α} {places : List Place}
  {needed : List String} {named : List (String × Schema)} {name : String}

/-- A schema and a decoder agree up to numbers: of the values that keep the schema, those can be
decoded in which all numbers at some places are integers of 64 bits. -/
def Agrees (r : Resolver) (s : Schema) (d : Decoder α) (places : List Place) : Prop :=
  ∀ v, v.Ordered → Accepts r s v → ((∃ a, d v = .ok a) ↔ v.HoldsIntegers places)

/-! ## Single values -/

theorem agrees_of_forall (h : ∀ v, Accepts r s v → ∃ a, d v = .ok a) : Agrees r s d [] :=
  fun v _ hv => iff_of_true (h v hv) Json.holdsIntegers_nil

theorem agrees_of_number (h : ∀ v, Accepts r s v → ∃ n, v = .number n) :
    Agrees r s Decode.int [[]] := by
  intro v _ hv
  obtain ⟨n, rfl⟩ := h v hv
  rw [Json.holdsIntegers_root]
  cases n with
  | integer i =>
    rw [Decode.int, Number.FitsInt]
    split
    · rename_i hi
      exact iff_of_true ⟨i, rfl⟩ hi
    · rename_i hi
      exact iff_of_false (fun ⟨_, h⟩ => by cases h) hi
  | float x => exact iff_of_false (fun ⟨_, h⟩ => by cases h) id

/-- A value that may be null as well cannot be decoded in any other case. -/
theorem Agrees.optional (h : Agrees r s d places) : Agrees r s (Decode.optional d) places := by
  intro v hordered hv
  by_cases hnull : v = .null
  · subst hnull
    exact iff_of_true ⟨none, rfl⟩ Json.holdsIntegers_null
  · have hmap : Decode.optional d v = (d v).map some := by
      cases v with
      | null => exact absurd rfl hnull
      | _ => rfl
    rw [hmap, ← h v hordered hv]
    cases d v <;> simp [Except.map]

/-- What the check of a field says about a value. -/
theorem Agrees.check (h : Agrees r s d places) {v : Json} (hordered : v.Ordered)
    (hv : Accepts r s v) : (d v).map (fun _ => ()) = .ok () ↔ v.HoldsIntegers places := by
  rw [Fields.map_eq_ok_iff]
  exact h v hordered hv

theorem Agrees.reference {target : String} {links : Nat}
    (h : Agrees (ofServices.resolver links) s d places)
    (hs : ofServices.definitions.lookup target = some s) :
    Agrees (ofServices.resolver (links + 1)) (.rules [.reference target]) d places :=
  fun v hordered hv => h v hordered (accepts_of_reference hv hs)

/-! ## Tables -/

theorem exists_members_iff {members : List (String × Json)} :
    (∃ entries, Decode.members d members = .ok entries) ↔ ∀ e ∈ members, ∃ a, d e.2 = .ok a := by
  induction members with
  | nil => exact iff_of_true ⟨[], rfl⟩ (by simp)
  | cons e rest ih =>
    obtain ⟨k, v⟩ := e
    rw [List.forall_mem_cons, ← ih]
    constructor
    · rintro ⟨entries, h⟩
      obtain ⟨a, ha, h⟩ := Json.exists_of_bind_eq_ok h
      obtain ⟨entries, hentries, -⟩ := Json.exists_of_bind_eq_ok h
      exact ⟨⟨a, ha⟩, entries, hentries⟩
    · rintro ⟨⟨a, ha⟩, entries, hentries⟩
      exact ⟨_, Json.bind_eq_ok ha (Json.bind_eq_ok hentries rfl)⟩

/-- A table can be decoded if all of its members can. -/
theorem Agrees.table {whole : Schema} (h : Agrees r s d places)
    (hwhole : ∀ v, Accepts r whole v →
      ∃ members, v = .object members ∧ ∀ e ∈ members, Accepts r s e.2) :
    Agrees r whole (Decode.table d) (places.map (.each :: ·)) := by
  intro v hordered hv
  obtain ⟨members, rfl, hmembers⟩ := hwhole v hv
  have htable : (∃ t, Decode.table d (.object members) = .ok t) ↔
      ∃ entries, Decode.members d members = .ok entries := by
    rw [Decode.table]
    cases Decode.members d members <;> simp [Except.map]
  rw [htable, exists_members_iff, Json.holdsIntegers_each, Json.memberValues, List.forall_mem_map]
  exact forall₂_congr fun e he => h e.2 (hordered.of_mem he) (hmembers e he)

/-! ## Records -/

/-- A field agrees with the schemas of its names, and is given if it has to be. -/
structure FieldMatches (r : Resolver) (needed : List String) (named : List (String × Schema))
    (places : List Place) (f : Field) : Prop where
  /-- What may not be left out is among what has to be given. -/
  given : f.omissible = true ∨ f.name ∈ needed
  /-- The check of the field agrees with the schema of each of its names. -/
  agrees : ∀ name ∈ f.names, ∃ s, named.lookup name = some s ∧
    ∀ v, v.Ordered → Accepts r s v → (f.check v = .ok () ↔ v.HoldsIntegers (within name places))

/-- The fields of a record agree with the schemas of their names. -/
structure Matches (r : Resolver) (needed : List String) (named : List (String × Schema))
    (places : List Place) (f : Fields α) : Prop where
  /-- The value of the record depends on nothing but its fields. -/
  lawful : f.Lawful
  /-- Each field agrees. -/
  fields : ∀ fld ∈ f.fields, FieldMatches r needed named places fld

theorem matches_required (hneeded : name ∈ needed) (hs : named.lookup name = some s)
    (h : Agrees r s d (within name places)) :
    Matches r needed named places (.required name d) where
  lawful := Fields.lawful_required name d
  fields := by
    refine List.forall_mem_singleton.2 ⟨.inr hneeded, ?_⟩
    exact List.forall_mem_singleton.2 ⟨s, hs, fun _ => h.check⟩

theorem matches_withDefault {default : α} {alternative : Option String}
    (h : ∀ n ∈ name :: alternative.toList, ∃ s, named.lookup n = some s ∧
      Agrees r s d (within n places)) :
    Matches r needed named places (.withDefault name d default alternative) where
  lawful := Fields.lawful_withDefault name d default alternative
  fields := by
    refine List.forall_mem_singleton.2 ⟨.inl rfl, fun n hn => ?_⟩
    obtain ⟨s, hs, hagrees⟩ := h n hn
    exact ⟨s, hs, fun _ => hagrees.check⟩

theorem matches_default {default : α} (hs : named.lookup name = some s)
    (h : Agrees r s d (within name places)) :
    Matches r needed named places (.withDefault name d default) :=
  matches_withDefault (List.forall_mem_singleton.2 ⟨s, hs, h⟩)

theorem matches_optional (hs : named.lookup name = some s)
    (h : Agrees r s d (within name places)) :
    Matches r needed named places (.optional name d) :=
  matches_default hs h.optional

theorem Matches.seq {g : Fields (α → β)} {f : Fields α} (hg : Matches r needed named places g)
    (hf : Matches r needed named places f) : Matches r needed named places (g <*> f) where
  lawful := hg.lawful.seq hf.lawful
  fields := List.forall_mem_append.2 ⟨hg.fields, hf.fields⟩

theorem Matches.map {f : Fields α} (hf : Matches r needed named places f) (make : α → β) :
    Matches r needed named places (make <$> f) where
  lawful := hf.lawful.map make
  fields := hf.fields

/-- **Agreement of records.**  A record agrees with a schema if each of its fields agrees with the
schemas of its names, and is not given under two of them. -/
theorem agrees_record {f : Fields α} {shape : String} (hrecord : IsRecord r s needed named)
    (hmatches : Matches r needed named places f) (hnames : (f.fields.flatMap Field.names).Nodup)
    (hstart : ∀ place ∈ places, Json.StartsIn (f.fields.flatMap Field.names) place)
    (hapart : ∀ fld ∈ f.fields, ∀ m ∈ fld.names, ∀ n ∈ fld.names, m ≠ n → ∀ members,
      Accepts r s (.object members) → ¬ ((members.lookup m).isSome ∧ (members.lookup n).isSome)) :
    Agrees r s (f.decode shape) places := by
  intro v hordered hv
  obtain ⟨members, rfl, hmembers⟩ := hrecord v hv
  have hsingle : Fields.Single f.fields members :=
    Fields.single_of_apart hordered.nodup fun fld hfld m hm n hn hne =>
      hapart fld hfld m hm n hn hne members hv
  have hvalue : ∀ fld ∈ f.fields, ∀ w, fld.value? members = some w ↔
      ∃ name ∈ fld.names, members.lookup name = some w := fun fld hfld w =>
    Fields.value?_eq_some_iff hordered.nodup hsingle hfld
  -- a member of one of the names fits its field as far as its numbers do
  have hfits : ∀ fld ∈ f.fields, ∀ name ∈ fld.names, ∀ w, members.lookup name = some w →
      (fld.check w = .ok () ↔ w.HoldsIntegers (within name places)) := by
    intro fld hfld name hname w hw
    obtain ⟨s', hs', hagrees⟩ := (hmatches.fields fld hfld).agrees name hname
    exact hagrees w (hordered.of_mem (Table.mem_of_lookup hw)) (hmembers.kept name s' w hs' hw)
  rw [Fields.exists_decode_iff hmatches.lawful hnames hsingle,
    Json.holdsIntegers_iff_member hstart]
  constructor
  · intro h name hname w hw
    obtain ⟨fld, hfld, hname⟩ := List.mem_flatMap.1 hname
    have hmet := h fld hfld
    rw [(hvalue fld hfld w).2 ⟨name, hname, hw⟩] at hmet
    exact (hfits fld hfld name hname w hw).1 hmet
  · intro h fld hfld
    cases hgiven : fld.value? members with
    | none =>
      refine (hmatches.fields fld hfld).given.resolve_right fun hneeded => ?_
      obtain ⟨w, hw⟩ := Option.isSome_iff_exists.1 (hmembers.given fld.name hneeded)
      rw [(hvalue fld hfld w).2 ⟨_, List.mem_cons_self .., hw⟩] at hgiven
      cases hgiven
    | some w =>
      obtain ⟨name, hname, hw⟩ := (hvalue fld hfld w).1 hgiven
      refine (hfits fld hfld name hname w hw).2 (h name ?_ w hw)
      exact List.mem_flatMap.2 ⟨fld, hfld, hname⟩

/-- The fields of most records go by one name each. -/
theorem agrees_record_of_plain {f : Fields α} {shape : String}
    (hrecord : IsRecord r s needed named) (hmatches : Matches r needed named places f)
    (hplain : ∀ fld ∈ f.fields, fld.alternative = none)
    (hnames : (f.fields.flatMap Field.names).Nodup)
    (hstart : ∀ place ∈ places, Json.StartsIn (f.fields.flatMap Field.names) place) :
    Agrees r s (f.decode shape) places := by
  refine agrees_record hrecord hmatches hnames hstart fun fld hfld m hm n hn hne => ?_
  rw [Field.names, hplain fld hfld, Option.toList_none, List.mem_singleton] at hm hn
  exact absurd (hm.trans hn.symm) hne

end ServicePlan.Schema
