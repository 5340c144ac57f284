import Mathlib.Data.List.Lattice
import Mathlib.Data.List.Nodup
import Mathlib.Data.List.Pairwise
import ServicePlan.Json.Decode
import ServicePlan.Proofs.Json.Members
import ServicePlan.Proofs.Json.Reading

/-!
# Decoding records

A record can be decoded from an object exactly if each of its fields is content with what the object
gives it.  So it can be asked field by field whether something can be decoded, and what was decoded
can be taken apart field by field.

* `Field.Met`: a field is content with what it is given.
* `Fields.Lawful`: the value of a record is there exactly if all fields are met.
* `Fields.exists_decode_iff`: when a record can be decoded from an object.
* `Fields.exists_of_build_seq`, …: the values that a record was built from.
* `Fields.build_seq_eq_ok`, …: a record is built from its values.
* `Fields.Takes`: a record is what its fields make of what they are given.
* `Decode.exists_of_list_eq_ok`, `Decode.exists_mem_of_table_eq_ok`: what items and entries were
  decoded from.
-/

namespace ServicePlan

open Json (exists_of_bind_eq_ok bind_eq_ok exists_bind_eq_ok_iff)

/-- A list of encoded items is decoded item by item. -/
theorem Decode.list_map {α β : Type} {d : Decoder α} {encode : β → Json} {decoded : β → α}
    {items : List β} (h : ∀ x ∈ items, d (encode x) = .ok (decoded x)) :
    Decode.list d (.array (items.map encode)) = .ok (items.map decoded) := by
  rw [Decode.list]
  induction items with
  | nil => rfl
  | cons x rest ih =>
    obtain ⟨hx, hrest⟩ := List.forall_mem_cons.1 h
    rw [List.map_cons, List.mapM_cons]
    exact bind_eq_ok hx (bind_eq_ok (ih hrest) rfl)

/-- A table of encoded values is decoded value by value. -/
theorem Decode.table_ofTable {α : Type} {d : Decoder α} {encode : α → Json} {t : Table α}
    (h : ∀ e ∈ t.entries, d (encode e.2) = .ok e.2) :
    Decode.table d (.ofTable encode t) = .ok t := by
  have hmembers : Decode.members d (t.entries.map fun e => (e.1, encode e.2)) = .ok t.entries := by
    generalize t.entries = entries at h
    induction entries with
    | nil => rfl
    | cons e rest ih =>
      obtain ⟨he, hrest⟩ := List.forall_mem_cons.1 h
      exact bind_eq_ok he (bind_eq_ok (ih hrest) rfl)
  rw [Json.ofTable, Decode.table, hmembers]
  exact congrArg Except.ok (Table.ext (Table.entries_ofList t.ascending))

/-! ## Fields -/

namespace Field

/-- The names that a field goes by. -/
def names (f : Field) : List String := f.name :: f.alternative.toList

/-- What the members of an object give to a field. -/
def value? (f : Field) (members : List (String × Json)) : Option Json :=
  (members.find? fun e => f.isNamed e.1).map (·.2)

/-- A field is content with what it is given. -/
def Met (f : Field) : Option Json → Prop
  | some v => f.check v = .ok ()
  | none => f.omissible = true

variable {f : Field} {name : String}

theorem isNamed_iff : f.isNamed name = true ↔ name ∈ f.names := by
  simp only [isNamed, names, Bool.or_eq_true, beq_iff_eq, List.mem_cons, Option.mem_toList]

theorem value?_cons (f : Field) (k : String) (v : Json) (rest : List (String × Json)) :
    f.value? ((k, v) :: rest) = if f.isNamed k = true then some v else f.value? rest := by
  rw [value?, List.find?_cons]
  cases f.isNamed k <;> rfl

end Field

namespace Fields

variable {α β : Type} {f : Fields α} {g : Fields (α → β)} {fields : List Field}
  {members given result : List (String × Json)} {name : String} {d : Decoder α}
  {look : String → Option Json}

/-! ## What the members of an object give to fields -/

/-- Each field is given at most one of the members. -/
def Single (fields : List Field) (members : List (String × Json)) : Prop :=
  ∀ f ∈ fields, members.Pairwise fun a b => ¬ (f.isNamed a.1 = true ∧ f.isNamed b.1 = true)

/-- Each field is given at most one of members with distinct names, if it is not given under two of
its own. -/
theorem single_of_apart (hmembers : (members.map (·.1)).Nodup)
    (hapart : ∀ f ∈ fields, ∀ m ∈ f.names, ∀ n ∈ f.names, m ≠ n →
      ¬ ((members.lookup m).isSome ∧ (members.lookup n).isSome)) : Single fields members := by
  intro f hf
  have hfound : ∀ e ∈ members, (members.lookup e.1).isSome := fun e he => by
    rw [Json.lookup_of_mem_of_nodup hmembers he]
    rfl
  refine (List.pairwise_map.1 hmembers).imp_of_mem fun ha hb hne ⟨hfa, hfb⟩ => ?_
  exact hapart f hf _ (Field.isNamed_iff.1 hfa) _ (Field.isNamed_iff.1 hfb) hne
    ⟨hfound _ ha, hfound _ hb⟩

/-- A field is given the member of one of its names. -/
theorem value?_eq_some_iff (hmembers : (members.map (·.1)).Nodup) (hsingle : Single fields members)
    {f : Field} (hf : f ∈ fields) {v : Json} :
    f.value? members = some v ↔ ∃ name ∈ f.names, members.lookup name = some v := by
  rw [Field.value?, Option.map_eq_some_iff]
  constructor
  · rintro ⟨e, he, rfl⟩
    have hnamed : f.isNamed e.1 = true := by simpa using List.find?_some he
    exact ⟨e.1, Field.isNamed_iff.1 hnamed,
      Json.lookup_of_mem_of_nodup hmembers (List.mem_of_find?_eq_some he)⟩
  · rintro ⟨name, hname, hv⟩
    have hmem := Table.mem_of_lookup hv
    have hnamed : f.isNamed name = true := Field.isNamed_iff.2 hname
    cases hfind : members.find? fun e => f.isNamed e.1 with
    | none => exact absurd hnamed (by simpa using List.find?_eq_none.1 hfind _ hmem)
    | some e =>
      refine ⟨e, rfl, ?_⟩
      have he : f.isNamed e.1 = true := by simpa using List.find?_some hfind
      by_contra hne
      have hsymm : Std.Symm fun a b : String × Json =>
          ¬ (f.isNamed a.1 = true ∧ f.isNamed b.1 = true) := ⟨fun _ _ h hba => h hba.symm⟩
      have hapart := (hsingle f hf).forall (List.mem_of_find?_eq_some hfind) hmem
        fun h => hne (congrArg Prod.snd h)
      exact hapart ⟨he, hnamed⟩

/-- Two fields that share a name are one, if the names are distinct. -/
theorem eq_of_mem_names (hnames : (fields.flatMap Field.names).Nodup) {f g : Field}
    (hf : f ∈ fields) (hg : g ∈ fields) (hnf : name ∈ f.names) (hng : name ∈ g.names) : f = g := by
  by_contra hne
  have hpairwise := (List.nodup_flatMap.1 hnames).2
  have hsymm : Std.Symm (Function.onFun List.Disjoint Field.names) :=
    ⟨fun _ _ h => List.Disjoint.symm h⟩
  exact hpairwise.forall hf hg hne hnf hng

theorem eq_of_isNamed (hnames : (fields.flatMap Field.names).Nodup) {f g : Field}
    (hf : f ∈ fields) (hg : g ∈ fields) (hnf : f.isNamed name = true)
    (hng : g.isNamed name = true) : f = g :=
  eq_of_mem_names hnames hf hg (Field.isNamed_iff.1 hnf) (Field.isNamed_iff.1 hng)

theorem name_ne_name (hnames : (fields.flatMap Field.names).Nodup) {f g : Field}
    (hf : f ∈ fields) (hg : g ∈ fields) (hne : f ≠ g) : f.name ≠ g.name := fun h =>
  hne (eq_of_mem_names hnames hf hg (List.mem_cons_self ..) (h ▸ List.mem_cons_self ..))

theorem lookup_concat (given : List (String × Json)) (k : String) (v : Json) (name : String) :
    (given ++ [(k, v)]).lookup name =
      (given.lookup name).or (if name = k then some v else none) := by
  rw [List.lookup_append, Table.lookup_cons_eq_ite, List.lookup_nil]

/-- Without alternative names, what the members of an object give to a field is the member of its
name. -/
theorem lookup_fromMembers (hplain : ∀ f ∈ fields, f.alternative = none)
    (hname : ∃ f ∈ fields, f.name = name)
    (h : fromMembers fields members given = .ok result) :
    result.lookup name = (given.lookup name).or (members.lookup name) := by
  induction members generalizing given with
  | nil =>
    cases h
    rw [List.lookup_nil, Option.or_none]
  | cons e rest ih =>
    obtain ⟨k, v⟩ := e
    rw [Table.lookup_cons_eq_ite]
    simp only [fromMembers] at h
    split at h
    · -- a member that no field has the name of
      rename_i hfind
      obtain ⟨f, hf, rfl⟩ := hname
      have hne : f.name ≠ k := by
        rintro rfl
        have hnot := List.find?_eq_none.1 hfind f hf
        simp [Field.isNamed] at hnot
      rw [ih h, if_neg hne]
    · rename_i f hfind
      have hk : k = f.name := by
        have hnamed := List.find?_some hfind
        simpa [Field.isNamed, hplain f (List.mem_of_find?_eq_some hfind)] using hnamed
      subst hk
      split at h
      · cases h
      · rename_i hnew
        obtain ⟨_, -, h⟩ := exists_of_bind_eq_ok h
        rw [ih h, lookup_concat, Option.or_assoc]
        split <;> simp

/-- What the members of an object give to a field is what was given before, or the first member
that has a name of the field. -/
theorem lookup_of_fromMembers (hnames : (fields.flatMap Field.names).Nodup) {f : Field}
    (hf : f ∈ fields) (h : fromMembers fields members given = .ok result) :
    result.lookup f.name = (given.lookup f.name).or (f.value? members) := by
  induction members generalizing given with
  | nil =>
    cases h
    exact Option.or_none.symm
  | cons e rest ih =>
    obtain ⟨k, v⟩ := e
    rw [Field.value?_cons]
    simp only [fromMembers] at h
    split at h
    · rename_i hfind
      rw [ih h, if_neg (List.find?_eq_none.1 hfind f hf)]
    · rename_i g hfind
      have hg := List.mem_of_find?_eq_some hfind
      have hgk : g.isNamed k = true := by simpa using List.find?_some hfind
      split at h
      · cases h
      · rename_i hnew
        obtain ⟨_, -, h⟩ := exists_of_bind_eq_ok h
        rw [ih h, lookup_concat, Option.or_assoc]
        by_cases hfk : f.isNamed k = true
        · obtain rfl := eq_of_isNamed hnames hf hg hfk hgk
          rw [if_pos hfk, if_pos rfl, Option.some_or]
        · have hne : f ≠ g := by
            rintro rfl
            exact hfk hgk
          rw [if_neg hfk, if_neg (name_ne_name hnames hf hg hne), Option.none_or]

/-- The members of an object are taken over if each field that is given one of them is content
with it. -/
theorem exists_fromMembers_iff (hnames : (fields.flatMap Field.names).Nodup)
    (hsingle : Single fields members)
    (hnew : ∀ f ∈ fields, (given.lookup f.name).isSome → ∀ e ∈ members, f.isNamed e.1 ≠ true) :
    (∃ result, fromMembers fields members given = .ok result) ↔
      ∀ f ∈ fields, ∀ v, f.value? members = some v → f.check v = .ok () := by
  induction members generalizing given with
  | nil =>
    refine iff_of_true ⟨given, rfl⟩ fun f _ v hv => ?_
    cases hv
  | cons e rest ih =>
    obtain ⟨k, v⟩ := e
    have hrest : Single fields rest := fun f hf => (List.pairwise_cons.1 (hsingle f hf)).2
    simp only [Field.value?_cons, fromMembers]
    split
    · -- a member that no field has the name of
      rename_i hfind
      rw [ih hrest fun f hf hgiven e he => hnew f hf hgiven e (List.mem_cons_of_mem _ he)]
      exact forall₂_congr fun f hf => by rw [if_neg (List.find?_eq_none.1 hfind f hf)]
    · rename_i g hfind
      have hg := List.mem_of_find?_eq_some hfind
      have hgk : g.isNamed k = true := by simpa using List.find?_some hfind
      have hlater : ∀ e ∈ rest, g.isNamed e.1 ≠ true := fun e he hge =>
        (List.pairwise_cons.1 (hsingle g hg)).1 e he ⟨hgk, hge⟩
      rw [if_neg fun hgiven => hnew g hg hgiven (k, v) (List.mem_cons_self ..) hgk]
      have hgiven' : ∀ f ∈ fields, ((given ++ [(g.name, v)]).lookup f.name).isSome →
          ∀ e ∈ rest, f.isNamed e.1 ≠ true := by
        intro f hf hsome e he
        by_cases hfg : f = g
        · exact hfg ▸ hlater e he
        · rw [lookup_concat, if_neg (name_ne_name hnames hf hg hfg), Option.or_none] at hsome
          exact hnew f hf hsome e (List.mem_cons_of_mem _ he)
      rw [exists_bind_eq_ok_iff]
      simp only [ih hrest hgiven']
      constructor
      · rintro ⟨_, hcheck, h⟩ f hf w hw
        split at hw
        · rename_i hfk
          cases hw
          exact eq_of_isNamed hnames hf hg hfk hgk ▸ hcheck
        · exact h f hf w hw
      · intro h
        refine ⟨(), h g hg v (if_pos hgk), fun f hf w hw => h f hf w ?_⟩
        by_cases hfk : f.isNamed k = true
        · -- the field has the first member, so none of the others is its own
          obtain rfl := eq_of_isNamed hnames hf hg hfk hgk
          have hnone : f.value? rest = none := by
            rw [Field.value?, List.find?_eq_none.2 hlater]
            rfl
          rw [hnone] at hw
          cases hw
        · rwa [if_neg hfk]

/-! ## Taking records apart -/

theorem exists_of_build_seq {b : β}
    (h : (g <*> f).build look = .ok b) :
    ∃ make a, g.build look = .ok make ∧ f.build look = .ok a ∧ b = make a := by
  obtain ⟨make, hmake, h⟩ := exists_of_bind_eq_ok h
  obtain ⟨a, ha, h⟩ := exists_of_bind_eq_ok h
  cases h
  exact ⟨make, a, hmake, ha, rfl⟩

theorem exists_of_build_map {make : α → β} {b : β}
    (h : (make <$> f).build look = .ok b) : ∃ a, f.build look = .ok a ∧ b = make a := by
  obtain ⟨_, a, hmake, ha, rfl⟩ := exists_of_build_seq (g := Fields.pure make) h
  cases hmake
  exact ⟨a, ha, rfl⟩

/-- A property of what is built follows from what the last field was built from.  Applied again and
again it takes off one field after another. -/
theorem of_build_seq {P : β → Prop}
    (h : ∀ make, g.build look = .ok make → ∀ a, f.build look = .ok a → P (make a)) :
    ∀ b, (g <*> f).build look = .ok b → P b := by
  intro b hb
  obtain ⟨make, a, hmake, ha, rfl⟩ := exists_of_build_seq hb
  exact h make hmake a ha

theorem exists_of_map_eq_ok {make : α → β} {s : Decoded α} {b : β} (h : s.map make = .ok b) :
    ∃ a, s = .ok a ∧ make a = b := by
  cases s with
  | ok a => exact ⟨a, rfl, Except.ok.inj h⟩
  | error e => cases h

/-- A value was decoded from what was given to a field. -/
def Given (look : String → Option Json) (name : String) (d : Decoder α) (a : α) : Prop :=
  ∃ v, look name = some v ∧ d v = .ok a

theorem Given.of_eq {other : String → Option Json} {a : α} (h : Given look name d a)
    (heq : look name = other name) : Given other name d a := by
  obtain ⟨v, hv, ha⟩ := h
  exact ⟨v, heq ▸ hv, ha⟩

theorem given_of_build_required {a : α} (h : (required name d).build look = .ok a) :
    Given look name d a := by
  simp only [required] at h
  split at h
  · rename_i v hv
    exact ⟨v, hv, h⟩
  · cases h

theorem given_of_build_withDefault {default a : α} {alternative : Option String}
    (h : (withDefault name d default alternative).build look = .ok a) :
    Given look name d a ∨ a = default := by
  simp only [withDefault] at h
  split at h
  · rename_i v hv
    exact .inl ⟨v, hv, h⟩
  · cases h
    exact .inr rfl

theorem given_of_build_optional {o : Option α} {alternative : Option String}
    (h : (optional name d alternative).build look = .ok o) :
    ∀ a, o = some a → Given look name d a := by
  rintro a rfl
  obtain ⟨v, hv, h⟩ | h := given_of_build_withDefault h
  · refine ⟨v, hv, ?_⟩
    cases v with
    | null => cases h
    | _ =>
      obtain ⟨b, hb, h⟩ := exists_of_map_eq_ok h
      cases h
      exact hb
  · cases h

/-! ## Putting records together -/

theorem build_seq_eq_ok {make : α → β} {a : α} (hg : g.build look = .ok make)
    (hf : f.build look = .ok a) : (g <*> f).build look = .ok (make a) :=
  bind_eq_ok hg (bind_eq_ok hf rfl)

theorem build_required_eq_ok {v : Json} {a : α} (hv : look name = some v) (h : d v = .ok a) :
    (required name d).build look = .ok a := by
  simp only [required, hv, h]

/-! ## Laws -/

/-- The value of a record is there exactly if all of its fields are met. -/
def Lawful (f : Fields α) : Prop :=
  ∀ look, (∃ a, f.build look = .ok a) ↔ ∀ fld ∈ f.fields, fld.Met (look fld.name)

theorem map_eq_ok_iff {s : Decoded α} : (s.map fun _ => ()) = .ok () ↔ ∃ a, s = .ok a := by
  cases s <;> simp [Except.map]

theorem lawful_required (name : String) (d : Decoder α) : (required name d).Lawful := by
  intro look
  simp only [required, List.forall_mem_singleton]
  cases look name with
  | none => simp [Field.Met]
  | some v => exact map_eq_ok_iff.symm

theorem lawful_withDefault (name : String) (d : Decoder α) (default : α)
    (alternative : Option String) : (withDefault name d default alternative).Lawful := by
  intro look
  simp only [withDefault, List.forall_mem_singleton]
  cases look name with
  | none => simp [Field.Met]
  | some v => exact map_eq_ok_iff.symm

theorem Lawful.seq (hg : g.Lawful) (hf : f.Lawful) : (g <*> f).Lawful := by
  intro look
  have hfields : (g <*> f).fields = g.fields ++ f.fields := rfl
  rw [hfields, List.forall_mem_append, ← hg look, ← hf look]
  constructor
  · rintro ⟨b, h⟩
    obtain ⟨make, a, hmake, ha, -⟩ := exists_of_build_seq h
    exact ⟨⟨make, hmake⟩, a, ha⟩
  · rintro ⟨⟨make, hmake⟩, a, ha⟩
    exact ⟨make a, bind_eq_ok hmake (bind_eq_ok ha rfl)⟩

theorem lawful_pure (a : α) : (Fields.pure a).Lawful := by
  intro look
  simp [Fields.pure]

theorem Lawful.map (hf : f.Lawful) (make : α → β) : (make <$> f).Lawful :=
  (lawful_pure make).seq hf

/-- **When records can be decoded.**  A record can be decoded from an object exactly if each of its
fields is content with what the object gives it. -/
theorem exists_decode_iff {shape : String} (hlaw : f.Lawful)
    (hnames : (f.fields.flatMap Field.names).Nodup) (hsingle : Single f.fields members) :
    (∃ a, f.decode shape (.object members) = .ok a) ↔
      ∀ fld ∈ f.fields, fld.Met (fld.value? members) := by
  have hlook : ∀ {given}, fromMembers f.fields members [] = .ok given →
      ((∃ a, f.build (fun name => given.lookup name) = .ok a) ↔
        ∀ fld ∈ f.fields, fld.Met (fld.value? members)) := by
    intro given hgiven
    rw [hlaw]
    exact forall₂_congr fun fld hfld => by
      rw [lookup_of_fromMembers hnames hfld hgiven, List.lookup_nil, Option.none_or]
  constructor
  · rintro ⟨a, h⟩
    obtain ⟨given, hgiven, h⟩ := exists_of_bind_eq_ok h
    exact (hlook hgiven).1 ⟨a, h⟩
  · intro h
    have hchecks : ∀ fld ∈ f.fields, ∀ v, fld.value? members = some v → fld.check v = .ok () := by
      intro fld hfld v hv
      have hmet := h fld hfld
      rwa [hv] at hmet
    have hfrom : ∃ given, fromMembers f.fields members [] = .ok given :=
      (exists_fromMembers_iff hnames hsingle fun _ _ hsome => by cases hsome).2 hchecks
    obtain ⟨given, hgiven⟩ := hfrom
    obtain ⟨a, ha⟩ := (hlook hgiven).2 h
    exact ⟨a, bind_eq_ok hgiven ha⟩

/-- Without alternative names, a record is built from the members of its names. -/
theorem exists_build_of_decode {shape : String} {a : α}
    (hplain : ∀ fld ∈ f.fields, fld.alternative = none)
    (h : f.decode shape (.object members) = .ok a) :
    ∃ look, f.build look = .ok a ∧
      ∀ name ∈ f.fields.map (·.name), look name = members.lookup name := by
  obtain ⟨given, hgiven, h⟩ := exists_of_bind_eq_ok h
  refine ⟨_, h, List.forall_mem_map.2 fun fld hfld => ?_⟩
  rw [lookup_fromMembers hplain ⟨fld, hfld, rfl⟩ hgiven, List.lookup_nil, Option.none_or]

/-! ## Taking what is written -/

/-- A record is what its fields make of what they are given, and each of them is content with it. -/
structure Takes (f : Fields α) (look : String → Option Json) (a : α) : Prop where
  /-- The record is built from what the fields are given. -/
  built : f.build look = .ok a
  /-- What a field is given fits it. -/
  fits : ∀ fld ∈ f.fields, ∀ v, look fld.name = some v → fld.check v = .ok ()

theorem Takes.seq {make : α → β} {a : α} (hg : g.Takes look make) (hf : f.Takes look a) :
    (g <*> f).Takes look (make a) where
  built := build_seq_eq_ok hg.built hf.built
  fits := List.forall_mem_append.2 ⟨hg.fits, hf.fits⟩

theorem Takes.map {a : α} (hf : f.Takes look a) (make : α → β) :
    (make <$> f).Takes look (make a) :=
  .seq (g := Fields.pure make) ⟨rfl, nofun⟩ hf

/-- A field that has to be given takes a value that it decodes. -/
theorem takes_required {v : Json} {a : α} (hlook : look name = some v) (h : d v = .ok a) :
    (required name d).Takes look a := by
  refine ⟨build_required_eq_ok hlook h, List.forall_mem_singleton.2 fun w hw => ?_⟩
  obtain rfl := Option.some.inj (hlook.symm.trans hw)
  exact map_eq_ok_iff.2 ⟨a, h⟩

/-- So does a field that may be left out. -/
theorem takes_withDefault {v : Json} {default a : α} {alternative : Option String}
    (hlook : look name = some v) (h : d v = .ok a) :
    (withDefault name d default alternative).Takes look a := by
  refine ⟨by simp only [withDefault, hlook, h], List.forall_mem_singleton.2 fun w hw => ?_⟩
  obtain rfl := Option.some.inj (hlook.symm.trans hw)
  exact map_eq_ok_iff.2 ⟨a, h⟩

theorem nodup_name (hnames : (fields.flatMap Field.names).Nodup) :
    (fields.map (·.name)).Nodup := by
  refine List.pairwise_map.2 ((List.nodup_flatMap.1 hnames).2.imp fun hdisjoint heq => ?_)
  exact hdisjoint (List.mem_cons_self ..) (heq ▸ List.mem_cons_self ..)

/-- Members with the names of fields are given to these fields. -/
theorem fromMembers_eq_append (hnames : (fields.flatMap Field.names).Nodup)
    (hnew : ((given ++ members).map (·.1)).Nodup)
    (hfits : ∀ e ∈ members, ∃ fld ∈ fields, fld.name = e.1 ∧ fld.check e.2 = .ok ()) :
    fromMembers fields members given = .ok (given ++ members) := by
  induction members generalizing given with
  | nil => rw [fromMembers, List.append_nil]
  | cons e rest ih =>
    obtain ⟨⟨fld, hfld, hname, hcheck⟩, hrest⟩ := List.forall_mem_cons.1 hfits
    obtain ⟨k, v⟩ := e
    subst hname
    have hfind : fields.find? (·.isNamed fld.name) = some fld := by
      have hown : fld.isNamed fld.name = true := Field.isNamed_iff.2 (List.mem_cons_self ..)
      cases hfound : fields.find? (·.isNamed fld.name) with
      | none => exact absurd hown (List.find?_eq_none.1 hfound fld hfld)
      | some other =>
        have hnamed : other.isNamed fld.name = true := by simpa using List.find?_some hfound
        exact congrArg some
          (eq_of_isNamed hnames (List.mem_of_find?_eq_some hfound) hfld hnamed hown)
    have hfresh : ¬ (given.lookup fld.name).isSome = true := by
      intro hsome
      obtain ⟨w, hw⟩ := Option.isSome_iff_exists.1 hsome
      rw [List.map_append, List.nodup_append] at hnew
      exact hnew.2.2 _ (List.mem_map_of_mem (Table.mem_of_lookup hw)) _
        (List.mem_cons_self ..) rfl
    rw [List.append_cons] at hnew ⊢
    simp only [fromMembers, hfind]
    rw [if_neg hfresh]
    exact bind_eq_ok hcheck (ih hnew hrest)

/-- A record is decoded from the members that it takes. -/
theorem Takes.decode_eq_ok {a : α} (shape : String) (h : f.Takes (members.lookup ·) a)
    (hnames : (f.fields.flatMap Field.names).Nodup)
    (hmembers : (members.map (·.1)).Perm (f.fields.map (·.name))) :
    f.decode shape (.object members) = .ok a := by
  have hnodup : (members.map (·.1)).Nodup := hmembers.nodup_iff.2 (nodup_name hnames)
  have hfits : ∀ e ∈ members, ∃ fld ∈ f.fields, fld.name = e.1 ∧ fld.check e.2 = .ok () := by
    intro e he
    obtain ⟨fld, hfld, hname⟩ := List.mem_map.1 (hmembers.subset (List.mem_map_of_mem he))
    have hlookup := Json.lookup_of_mem_of_nodup hnodup he
    exact ⟨fld, hfld, hname, h.fits fld hfld e.2 (hname ▸ hlookup)⟩
  exact bind_eq_ok (fromMembers_eq_append hnames hnodup hfits) h.built

end Fields

/-! ## What was decoded -/

namespace Decode

theorem eq_of_int_eq_ok {v : Json} {i : Int} (h : int v = .ok i) : v = .int i := by
  unfold int at h
  split at h
  · split at h <;> cases h
    rfl
  · cases h

variable {α : Type} {d : Decoder α} {given : List (String × Json)} {e : String × α}

/-- What is in a list was decoded from a value. -/
theorem exists_of_list_eq_ok {values : List Json} : ∀ {items}, list d (.array values) = .ok items →
    ∀ a ∈ items, ∃ v ∈ values, d v = .ok a := by
  simp only [list]
  induction values with
  | nil =>
    intro items h
    cases h
    exact List.forall_mem_nil _
  | cons v rest ih =>
    intro items h
    rw [List.mapM_cons] at h
    obtain ⟨a, ha, h⟩ := exists_of_bind_eq_ok h
    obtain ⟨others, hothers, h⟩ := exists_of_bind_eq_ok h
    cases h
    refine List.forall_mem_cons.2 ⟨⟨v, List.mem_cons_self .., ha⟩, fun x hx => ?_⟩
    obtain ⟨w, hw, hdecode⟩ := ih hothers x hx
    exact ⟨w, List.mem_cons_of_mem _ hw, hdecode⟩

/-- What comes of members was decoded from one of them, under its name. -/
theorem exists_mem_of_members_eq_ok : ∀ {entries}, members d given = .ok entries → e ∈ entries →
    ∃ v, (e.1, v) ∈ given ∧ d v = .ok e.2 := by
  induction given with
  | nil =>
    intro entries h he
    cases h
    cases he
  | cons first rest ih =>
    intro entries h he
    obtain ⟨name, v⟩ := first
    obtain ⟨a, ha, h⟩ := exists_of_bind_eq_ok h
    obtain ⟨others, hothers, h⟩ := exists_of_bind_eq_ok h
    cases h
    rcases List.mem_cons.1 he with rfl | he
    · exact ⟨v, List.mem_cons_self .., ha⟩
    · obtain ⟨w, hw, hdecode⟩ := ih hothers he
      exact ⟨w, List.mem_cons_of_mem _ hw, hdecode⟩

/-- So what is in a table was decoded from a member. -/
theorem exists_mem_of_table_eq_ok {t : Table α} (h : table d (.object given) = .ok t)
    (he : e ∈ t.entries) : ∃ v, (e.1, v) ∈ given ∧ d v = .ok e.2 := by
  obtain ⟨entries, hentries, rfl⟩ := Fields.exists_of_map_eq_ok h
  refine exists_mem_of_members_eq_ok hentries ?_
  obtain ⟨key, a⟩ := e
  rw [← Table.get?_eq_some_iff, Table.get?_ofList] at he
  exact List.mem_reverse.1 (Table.mem_of_lookup he)

end Decode

end ServicePlan
