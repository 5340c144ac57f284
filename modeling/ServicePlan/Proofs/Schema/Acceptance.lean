import Mathlib.Data.Set.List
import ServicePlan.Proofs.Json.Members
import ServicePlan.Schema.Service

/-!
# What values that keep a schema look like

* `Schema.Accepts`, `Schema.Keeps`: a value without violations of a schema, or of a rule.
* `Accepts.keeps`, and one lemma for each rule that the schema of service specs has.
* `Schema.RecordOf`: an object that has all members it needs and in which all members keep the
  schemas of their names.
* `Service.exists_of_accepts_text`, …: the values that keep the schemas of the parts of a spec.
-/

namespace ServicePlan.Schema

variable {r : Resolver} {s : Schema} {v : Json} {rules : List Rule}

/-- A value has no violations of a schema, wherever it stands. -/
def Accepts (r : Resolver) (s : Schema) (v : Json) : Prop := ∃ place, report r place s v = []

/-- A value has no violations of a rule. -/
def Keeps (r : Resolver) (rule : Rule) (v : Json) : Prop := ∃ place, reportRule r place rule v = []

theorem reportRules_cons {place : List Step} {rule : Rule} :
    reportRules r place (rule :: rules) v =
      reportRule r place rule v ++ reportRules r place rules v := rfl

theorem Accepts.keeps (h : Accepts r (.rules rules) v) {rule : Rule} (hrule : rule ∈ rules) :
    Keeps r rule v := by
  obtain ⟨place, h⟩ := h
  refine ⟨place, ?_⟩
  have hrules : reportRules r place rules v = [] := h
  clear h
  induction rules with
  | nil => cases hrule
  | cons first rest ih =>
    obtain ⟨hfirst, hrest⟩ := List.append_eq_nil_iff.1 (reportRules_cons ▸ hrules)
    rcases List.mem_cons.1 hrule with rfl | hrule
    · exact hfirst
    · exact ih hrule hrest

theorem expect_eq_nil_iff {ok : Bool} {place : List Step} {cause : Cause} :
    expect ok place cause = [] ↔ ok = true := by
  cases ok <;> simp [expect]

/-! ## Rules about the value alone -/

theorem Keeps.types {types : List TypeName} (h : Keeps r (.types types) v) :
    types.any (·.accepts v) = true := by
  obtain ⟨place, h⟩ := h
  have hexpect : expect (types.any (·.accepts v)) place (.wrongType v types) = [] := h
  exact expect_eq_nil_iff.1 hexpect

/-- A value of one type. -/
theorem Keeps.type {t : TypeName} (h : Keeps r (.types [t]) v) : t.accepts v = true := by
  simpa using h.types

theorem Keeps.exists_string (h : Keeps r (.types [.string]) v) : ∃ s, v = .string s := by
  have ht := h.type
  cases v with
  | string s => exact ⟨s, rfl⟩
  | null | bool | number | array | object => cases ht

theorem Keeps.exists_bool (h : Keeps r (.types [.boolean]) v) : ∃ b, v = .bool b := by
  have ht := h.type
  cases v with
  | bool b => exact ⟨b, rfl⟩
  | null | string | number | array | object => cases ht

theorem Keeps.exists_number (h : Keeps r (.types [.number]) v) : ∃ n, v = .number n := by
  have ht := h.type
  cases v with
  | number n => exact ⟨n, rfl⟩
  | null | bool | string | array | object => cases ht

theorem Keeps.exists_integer (h : Keeps r (.types [.integer]) v) : ∃ n, v = .number n := by
  have ht := h.type
  cases v with
  | number n => exact ⟨n, rfl⟩
  | null | bool | string | array | object => cases ht

theorem Keeps.exists_array (h : Keeps r (.types [.array]) v) : ∃ items, v = .array items := by
  have ht := h.type
  cases v with
  | array items => exact ⟨items, rfl⟩
  | null | bool | string | number | object => cases ht

theorem Keeps.exists_object (h : Keeps r (.types [.object]) v) :
    ∃ members, v = .object members := by
  have ht := h.type
  cases v with
  | object members => exact ⟨members, rfl⟩
  | null | bool | string | number | array => cases ht

/-- An option is a string if all options are. -/
theorem Keeps.exists_option {options : List String}
    (h : Keeps r (.enum (options.map .string)) v) : ∃ s ∈ options, v = .string s := by
  obtain ⟨place, h⟩ := h
  have hexpect : expect ((options.map Json.string).any v.same) place
      (.notAnOption v (options.map .string)) = [] := h
  rw [expect_eq_nil_iff, List.any_map, List.any_eq_true] at hexpect
  obtain ⟨s, hs, hsame⟩ := hexpect
  cases v with
  | string t =>
    have hst : s = t := (by simpa [Json.same] using hsame : t = s).symm
    exact ⟨t, hst ▸ hs, rfl⟩
  | null | bool | number | array | object => simp [Json.same] at hsame

theorem Keeps.minimum {bound : Number} {n : Number} (h : Keeps r (.minimum bound) (.number n)) :
    bound.units ≤ n.units := by
  obtain ⟨place, h⟩ := h
  have hexpect : expect (bound.units ≤ n.units) place (.belowMinimum (.number n) bound) = [] := h
  exact of_decide_eq_true (expect_eq_nil_iff.1 hexpect)

theorem Keeps.maximum {bound : Number} {n : Number} (h : Keeps r (.maximum bound) (.number n)) :
    n.units ≤ bound.units := by
  obtain ⟨place, h⟩ := h
  have hexpect : expect (n.units ≤ bound.units) place (.aboveMaximum (.number n) bound) = [] := h
  exact of_decide_eq_true (expect_eq_nil_iff.1 hexpect)

theorem Keeps.minLength {count : Nat} {text : String}
    (h : Keeps r (.minLength count) (.string text)) : count ≤ text.length := by
  obtain ⟨place, h⟩ := h
  have hexpect : expect (count ≤ text.length) place (.tooShort (.string text) count) = [] := h
  exact of_decide_eq_true (expect_eq_nil_iff.1 hexpect)

theorem Keeps.minProperties {count : Nat} {members : List (String × Json)}
    (h : Keeps r (.minProperties count) (.object members)) : count ≤ members.length := by
  obtain ⟨place, h⟩ := h
  have hexpect :
      expect (count ≤ members.length) place (.tooFewMembers (.object members) count) = [] := h
  exact of_decide_eq_true (expect_eq_nil_iff.1 hexpect)

theorem Keeps.required {names : List String} {members : List (String × Json)}
    (h : Keeps r (.required names) (.object members)) :
    ∀ name ∈ names, (members.lookup name).isSome := by
  obtain ⟨place, h⟩ := h
  have hmissing : missing place names members = [] := h
  rw [missing, List.map_eq_nil_iff, List.filter_eq_nil_iff] at hmissing
  intro name hname
  have hgiven := hmissing name hname
  rwa [Option.isNone_iff_eq_none, ← ne_eq, Option.ne_none_iff_isSome] at hgiven

/-! ## Rules about the parts of a value -/

section Parts

variable {named : List (String × Schema)} {others : Schema} {members : List (String × Json)}
  {place : List Step} {k : String}

theorem reportMember_nil : reportMember r place k v [] = none := rfl

theorem reportMember_cons {name : String} {rest : List (String × Schema)} :
    reportMember r place k v ((name, s) :: rest) =
      if name = k then some (report r (place ++ [.member k]) s v)
      else reportMember r place k v rest := rfl

theorem reportMember_of_lookup (h : named.lookup k = some s) :
    reportMember r place k v named = some (report r (place ++ [.member k]) s v) := by
  induction named with
  | nil => cases h
  | cons e rest ih =>
    obtain ⟨name, first⟩ := e
    rw [Table.lookup_cons_eq_ite] at h
    rw [reportMember_cons]
    by_cases hk : name = k
    · rw [if_pos hk.symm] at h
      cases h
      exact if_pos hk
    · rw [if_neg (Ne.symm hk)] at h
      rw [if_neg hk]
      exact ih h

/-- What is found out about a member by its name. -/
def judged (r : Resolver) (place : List Step) (named : List (String × Schema))
    (m : String × Json) : String × Option (List Violation) × Option (List Violation) :=
  (m.1, reportMember r place m.1 m.2 named, none)

/-- The violations of the members that have a schema, and none may be there without one. -/
theorem reportRule_members_nothing :
    reportRule r place (.members named [] .nothing) (.object members) =
      ((members.map (judged r place named)).flatMap fun m => m.2.1.getD [] ++ m.2.2.getD []) ++
        expect (((members.map (judged r place named)).filter fun m =>
            m.2.1.isNone && m.2.2.isNone).map (·.1)).isEmpty place
          (.unexpectedMembers (((members.map (judged r place named)).filter fun m =>
            m.2.1.isNone && m.2.2.isNone).map (·.1))) := rfl

/-- The violations of members, where those without a schema of their own have one in common. -/
theorem reportRule_members (hothers : others ≠ .nothing) :
    reportRule r place (.members named [] others) (.object members) =
      (members.zip (members.map (judged r place named))).flatMap fun (m, found) =>
        if found.2.1.isNone && found.2.2.isNone then report r (place ++ [.member m.1]) others m.2
        else found.2.1.getD [] ++ found.2.2.getD [] := by
  cases others with
  | nothing => exact absurd rfl hothers
  | anything => rfl
  | rules rules => rfl

/-- The members that have a schema of their name keep it. -/
theorem Keeps.members_named (h : Keeps r (.members named [] others) (.object members)) :
    ∀ e ∈ members, ∀ s, named.lookup e.1 = some s → Accepts r s e.2 := by
  obtain ⟨place, h⟩ := h
  intro e he s hs
  refine ⟨place ++ [.member e.1], ?_⟩
  by_cases hothers : others = .nothing
  · subst hothers
    rw [reportRule_members_nothing, List.append_eq_nil_iff, List.flatMap_eq_nil_iff] at h
    have hpart := h.1 _ (List.mem_map_of_mem he)
    simpa [judged, reportMember_of_lookup hs] using hpart
  · rw [reportRule_members hothers, ← List.map_prod_left_eq_zip, List.flatMap_eq_nil_iff] at h
    have hpart := h _ (List.mem_map_of_mem he)
    simpa [judged, reportMember_of_lookup hs] using hpart

/-- Where no names are set apart, all members keep the schema of the others. -/
theorem Keeps.members_others (h : Keeps r (.members [] [] others) (.object members)) :
    ∀ e ∈ members, Accepts r others e.2 := by
  obtain ⟨place, h⟩ := h
  intro e he
  refine ⟨place ++ [.member e.1], ?_⟩
  by_cases hothers : others = .nothing
  · -- no member is allowed at all
    subst hothers
    rw [reportRule_members_nothing, List.append_eq_nil_iff, expect_eq_nil_iff] at h
    have hnone := h.2
    rw [List.isEmpty_iff, List.map_eq_nil_iff, List.filter_eq_nil_iff] at hnone
    exact absurd (hnone _ (List.mem_map_of_mem he)) (by simp [judged, reportMember_nil])
  · rw [reportRule_members hothers, ← List.map_prod_left_eq_zip, List.flatMap_eq_nil_iff] at h
    simpa [judged, reportMember_nil] using h _ (List.mem_map_of_mem he)

theorem reportNamed_cons {name : String} {rest : List (String × Schema)} :
    reportNamed r place members ((name, s) :: rest) =
      (match members.lookup name with
        | some v => report r (place ++ [.member name]) s v
        | none => []) ++ reportNamed r place members rest := rfl

theorem Keeps.properties (h : Keeps r (.properties named) (.object members)) :
    ∀ e ∈ named, ∀ v, members.lookup e.1 = some v → Accepts r e.2 v := by
  obtain ⟨place, h⟩ := h
  intro e he v hv
  refine ⟨place ++ [.member e.1], ?_⟩
  have hnamed : reportNamed r place members named = [] := h
  clear h
  induction named with
  | nil => cases he
  | cons first rest ih =>
    obtain ⟨name, s⟩ := first
    obtain ⟨hfirst, hrest⟩ := List.append_eq_nil_iff.1 (reportNamed_cons ▸ hnamed)
    rcases List.mem_cons.1 he with rfl | he
    · simpa [hv] using hfirst
    · exact ih he hrest

theorem Keeps.items {items : List Json} (h : Keeps r (.items 0 s) (.array items)) :
    ∀ v ∈ items, Accepts r s v := by
  obtain ⟨place, h⟩ := h
  intro v hv
  have hitems : (items.zipIdx.flatMap fun p => report r (place ++ [.item p.2]) s p.1) = [] := h
  rw [List.flatMap_eq_nil_iff] at hitems
  obtain ⟨i, hi, rfl⟩ := List.getElem_of_mem hv
  have hmem : (items[i], i) ∈ items.zipIdx := List.mem_zipIdx_iff_getElem?.2 (by simp)
  exact ⟨_, hitems _ hmem⟩

theorem Keeps.reference {target : String} (h : Keeps r (.reference target) v) :
    ∃ place, r.report target place v = [] := by
  obtain ⟨place, h⟩ := h
  exact ⟨place, h⟩

theorem countValid_cons {schemas : List Schema} :
    countValid r (s :: schemas) v =
      (if (report r [] s v).isEmpty then 1 else 0) + countValid r schemas v := rfl

theorem reportRule_oneOf {schemas : List Schema} :
    reportRule r place (.oneOf schemas) v =
      match countValid r schemas v with
      | 0 => [⟨place, .noneOfOne v⟩]
      | 1 => []
      | _ => [⟨place, .severalOfOne v⟩] := rfl

theorem Keeps.oneOf {schemas : List Schema} (h : Keeps r (.oneOf schemas) v) :
    countValid r schemas v = 1 := by
  obtain ⟨place, h⟩ := h
  rw [reportRule_oneOf] at h
  split at h
  · cases h
  · assumption
  · cases h

end Parts

/-! ## Records -/

/-- An object has all members that it needs, and the members keep the schemas of their names. -/
structure RecordOf (r : Resolver) (needed : List String) (named : List (String × Schema))
    (members : List (String × Json)) : Prop where
  /-- What is needed is given. -/
  given : ∀ name ∈ needed, (members.lookup name).isSome
  /-- What is given is as it has to be. -/
  kept : ∀ name s v, named.lookup name = some s → members.lookup name = some v → Accepts r s v

/-- All values that keep a schema are objects of a kind. -/
def IsRecord (r : Resolver) (s : Schema) (needed : List String) (named : List (String × Schema)) :
    Prop :=
  ∀ v, Accepts r s v → ∃ members, v = .object members ∧ RecordOf r needed named members

section Records

variable {needed : List String} {named : List (String × Schema)} {others : Schema}

theorem isRecord_of_members (hmembers : .members named [] others ∈ rules)
    (htype : .types [.object] ∈ rules) (hneeded : needed = [] ∨ .required needed ∈ rules) :
    IsRecord r (.rules rules) needed named := by
  intro v h
  obtain ⟨members, rfl⟩ := (h.keeps htype).exists_object
  refine ⟨members, rfl, fun name hname => ?_, fun name s v hs hv => ?_⟩
  · rcases hneeded with rfl | hneeded
    · cases hname
    · exact (h.keeps hneeded).required name hname
  · exact (h.keeps hmembers).members_named (name, v) (Table.mem_of_lookup hv) s hs

theorem isRecord_record : IsRecord r (Service.record named) [] named :=
  isRecord_of_members (List.mem_cons_self ..) (by simp) (.inl rfl)

theorem isRecord_recordWith : IsRecord r (Service.recordWith needed named) needed named :=
  isRecord_of_members (List.mem_cons_self ..) (by simp) (.inr (by simp))

theorem isRecord_openRecord : IsRecord r (Service.openRecord needed named) needed named := by
  intro v h
  obtain ⟨members, rfl⟩ := (h.keeps (show Rule.types [.object] ∈ _ by simp)).exists_object
  refine ⟨members, rfl, (h.keeps (by simp)).required, fun name s v hs hv => ?_⟩
  exact (h.keeps (List.mem_cons_self ..)).properties (name, s) (Table.mem_of_lookup hs) v hv

end Records

/-! ## Parts of specs -/

namespace Service

theorem exists_of_accepts_text (h : Accepts r text v) : ∃ s, v = .string s :=
  (h.keeps (List.mem_cons_self ..)).exists_string

theorem exists_of_accepts_name (h : Accepts r name v) : ∃ s, v = .string s ∧ s ≠ "" := by
  obtain ⟨s, rfl⟩ := (h.keeps (show Rule.types [.string] ∈ _ by simp)).exists_string
  refine ⟨s, rfl, ?_⟩
  rintro rfl
  have hlength := (h.keeps (show Rule.minLength 1 ∈ _ by simp)).minLength
  simp at hlength

theorem exists_of_accepts_flag (h : Accepts r flag v) : ∃ b, v = .bool b :=
  (h.keeps (List.mem_cons_self ..)).exists_bool

theorem unitsPerOne_pos : 0 < Decimal.Binary64.unitsPerOne := by
  unfold Decimal.Binary64.unitsPerOne
  -- the power itself is too large to be written out
  generalize 1074 = exponent
  exact Nat.two_pow_pos exponent

/-- The value of an integer in units goes with the integer. -/
theorem units_integer_le_iff {i j : Int} :
    (Number.integer i).units ≤ (Number.integer j).units ↔ i ≤ j :=
  Int.mul_le_mul_iff_of_pos_right (Int.natCast_pos.2 unitsPerOne_pos)

theorem exists_of_accepts_between {least most : Int} (h : Accepts r (between least most) v) :
    ∃ n, v = .number n ∧ ∀ i, n = .integer i → least ≤ i ∧ i ≤ most := by
  obtain ⟨n, rfl⟩ := (h.keeps (show Rule.types [.integer] ∈ _ by simp)).exists_integer
  refine ⟨n, rfl, ?_⟩
  rintro i rfl
  have hleast := (h.keeps (show Rule.minimum (.integer least) ∈ _ by simp)).minimum
  have hmost := (h.keeps (show Rule.maximum (.integer most) ∈ _ by simp)).maximum
  exact ⟨units_integer_le_iff.1 hleast, units_integer_le_iff.1 hmost⟩

theorem exists_of_accepts_atLeast {least : Int} (h : Accepts r (atLeast least) v) :
    ∃ n, v = .number n :=
  (h.keeps (show Rule.types [.integer] ∈ _ by simp)).exists_integer

theorem exists_of_accepts_mapOf (h : Accepts r (mapOf s) v) :
    ∃ members, v = .object members ∧ ∀ e ∈ members, Accepts r s e.2 := by
  obtain ⟨members, rfl⟩ := (h.keeps (show Rule.types [.object] ∈ _ by simp)).exists_object
  exact ⟨members, rfl, (h.keeps (List.mem_cons_self ..)).members_others⟩

end Service

/-- What a reference of the schema of service specs leads to is kept, with one link less to go. -/
theorem accepts_of_reference {target : String} {links : Nat}
    (h : Accepts (ofServices.resolver (links + 1)) (.rules [.reference target]) v)
    (hs : ofServices.definitions.lookup target = some s) :
    Accepts (ofServices.resolver links) s v := by
  obtain ⟨place, h⟩ := (h.keeps (List.mem_cons_self ..)).reference
  refine ⟨place, ?_⟩
  simpa [Document.resolver, hs] using h

theorem Service.exists_of_accepts_texts {links : Nat}
    (h : Accepts (ofServices.resolver (links + 1)) texts v) :
    ∃ items : List String, v = .array (items.map .string) := by
  have hlist := accepts_of_reference h rfl
  obtain ⟨values, rfl⟩ := (hlist.keeps (show Rule.types [.array] ∈ _ by simp)).exists_array
  have hitems : values ∈ Set.range (List.map Json.string) := by
    rw [Set.range_list_map]
    intro v hv
    have htext : Accepts _ text v := (hlist.keeps (List.mem_cons_self ..)).items v hv
    exact (exists_of_accepts_text htext).imp fun _ => Eq.symm
  obtain ⟨items, rfl⟩ := hitems
  exact ⟨items, rfl⟩

end ServicePlan.Schema
