import Mathlib.Logic.Function.Basic
import ServicePlan.Proofs.Closed
import ServicePlan.Splits

/-!
# Layers by name

Layers are resolved in the order of their ids.  A layer that is given by its own name needs the
latest version behind that name, and whoever knows it may answer differently from call to call.  So
each name is asked for once, where it comes up first, and its answer is kept for all ids that share
the name; the first call without an answer ends it.

* `Resolver.names`: the names in the order they come up.
* `LayerVersions.Answers`: calls for names one after another, and the versions they answer.
* `Resolver.Settled`: what is known when some layers are resolved; `Resolver.Settled.step_cases` and
  `Resolver.Settled.run_cases` carry it over one layer and over many.
* `References.ResolvesLayers`, `References.StopsAtLayer`: all layers are resolved, or one ends it.
* `References.layers_of_resolve`: what comes of the layers of a spec.
-/

namespace ServicePlan

/-- The names are asked for one after another, and these versions are answered.  Each call comes
when the names before have been asked for. -/
def LayerVersions.Answers (versions : LayerVersions) (names : List String)
    (version : String → Int) : Prop :=
  ∀ before name after, names = before ++ name :: after →
    versions before name = .ok (version name)

namespace LayerVersions.Answers

variable {versions : LayerVersions} {names : List String} {version : String → Int}

/-- One more call with an answer. -/
theorem concat (h : versions.Answers names version) {name : String} (hnew : name ∉ names) {v : Int}
    (hv : versions names name = .ok v) :
    versions.Answers (names ++ [name]) (Function.update version name v) := by
  intro before other after hsplit
  obtain ⟨rfl, rfl, rfl⟩ | ⟨rest, rfl, rfl⟩ := append_singleton_eq_append_cons hsplit
  · rw [Function.update_self]
    exact hv
  · have hne : other ≠ name := by
      rintro rfl
      exact hnew (by simp)
    rw [Function.update_of_ne hne]
    exact h before other rest rfl

end LayerVersions.Answers

/-- What was there before stays in front of what is added. -/
theorem prefix_appendNew {α : Type} [DecidableEq α] (base fresh : List α) :
    base <+: appendNew base fresh := by
  induction fresh generalizing base with
  | nil => exact List.prefix_refl base
  | cons a fresh ih =>
    rw [appendNew_cons]
    by_cases ha : a ∈ base
    · rw [if_pos ha]
      exact ih base
    · rw [if_neg ha]
      exact (List.prefix_append base [a]).trans (ih (base ++ [a]))

namespace Resolver

variable {versions : LayerVersions} {n : Naming} {s t : Resolver} {id value : String}
  {seen rest : List (String × String)}

/-! ## Names -/

/-- The names among the layers, each where it comes up first. -/
def names (layers : List (String × String)) : List String :=
  appendNew [] ((layers.map (·.2)).filter fun value => !isArn value)

theorem nodup_names (layers : List (String × String)) : (names layers).Nodup :=
  nodup_appendNew List.nodup_nil _

theorem mem_names {layers : List (String × String)} {name : String} :
    name ∈ names layers ↔ isArn name = false ∧ ∃ id, (id, name) ∈ layers := by
  simp [names, mem_appendNew, and_comm]

theorem names_append (first second : List (String × String)) :
    names (first ++ second) =
      appendNew (names first) ((second.map (·.2)).filter fun value => !isArn value) := by
  rw [names, names, List.map_append, List.filter_append, appendNew_append]

/-- A resource name is not asked for. -/
theorem names_concat_of_isArn (h : isArn value = true) :
    names (seen ++ [(id, value)]) = names seen := by
  simp [names_append, h]

/-- A name that came up before is not asked for again. -/
theorem names_concat_of_mem (h : value ∈ names seen) :
    names (seen ++ [(id, value)]) = names seen := by
  have hname : isArn value = false := (mem_names.1 h).1
  simp [names_append, hname, appendNew_cons, h]

/-- A new name is asked for last. -/
theorem names_concat_of_not_mem (hname : isArn value = false) (h : value ∉ names seen) :
    names (seen ++ [(id, value)]) = names seen ++ [value] := by
  simp [names_append, hname, appendNew_cons, h]

/-! ## One layer after another -/

/-- What a layer resolves to, if these are the versions behind the names. -/
def arn (n : Naming) (version : String → Int) (value : String) : String :=
  if isArn value then value else n.layerVersionArn value (version value)

/-- Some layers are resolved: their names have been asked for and answered, and each layer has what
it resolves to. -/
structure Settled (versions : LayerVersions) (n : Naming) (version : String → Int)
    (seen : List (String × String)) (s : Resolver) : Prop where
  /-- The names have been asked for once. -/
  asked : s.asked = names seen
  /-- All of them have been answered. -/
  answers : versions.Answers (names seen) version
  /-- The answers are kept. -/
  found : ∀ name, s.found.lookup name =
    if name ∈ names seen then some (n.layerVersionArn name (version name)) else none
  /-- Each layer is entered with what it resolves to. -/
  layers : ∀ e ∈ seen, s.layers.get? e.1 = some (arn n version e.2)

theorem settled_start (versions : LayerVersions) (n : Naming) (version : String → Int) :
    Settled versions n version [] {} where
  asked := rfl
  answers := by
    intro before name after hsplit
    cases before <;> cases hsplit
  found _ := rfl
  layers := by simp

/-- What a layer resolves to does not depend on the versions behind other names. -/
theorem arn_update {version : String → Int} {name : String} (v : Int) (hvalue : value ≠ name) :
    arn n (Function.update version name v) value = arn n version value := by
  rw [arn, arn, Function.update_of_ne hvalue]

namespace Settled

variable {version : String → Int}

/-- A layer is entered under an id of its own, and those before stay. -/
theorem layers_settle {resolved : String → String}
    (h : ∀ e ∈ seen, s.layers.get? e.1 = some (resolved e.2)) (hid : id ∉ seen.map (·.1)) :
    ∀ e ∈ seen ++ [(id, value)],
      (s.settle id (resolved value)).layers.get? e.1 = some (resolved e.2) := by
  intro e he
  rw [settle, Table.get?_insert]
  rcases List.mem_append.1 he with he | he
  · have hne : e.1 ≠ id := fun heq => hid (heq ▸ List.mem_map_of_mem he)
    rw [if_neg hne, h e he]
  · obtain rfl := List.mem_singleton.1 he
    rw [if_pos rfl]

/-- One more layer is resolved with what is known already. -/
theorem settle_known (h : Settled versions n version seen s) (hid : id ∉ seen.map (·.1))
    (hnames : names (seen ++ [(id, value)]) = names seen) :
    Settled versions n version (seen ++ [(id, value)]) (s.settle id (arn n version value)) where
  asked := hnames ▸ h.asked
  answers := hnames ▸ h.answers
  found := hnames ▸ h.found
  layers := layers_settle h.layers hid

/-- One more layer is resolved by a call. -/
theorem settle_asked (h : Settled versions n version seen s) (hid : id ∉ seen.map (·.1))
    (hname : isArn value = false) (hnew : value ∉ names seen) {v : Int}
    (hv : versions (names seen) value = .ok v) :
    Settled versions n (Function.update version value v) (seen ++ [(id, value)])
      (settle { s with
        asked := s.asked ++ [value]
        found := s.found ++ [(value, n.layerVersionArn value v)] }
          id (n.layerVersionArn value v)) := by
  have hnames : names (seen ++ [(id, value)]) = names seen ++ [value] :=
    names_concat_of_not_mem hname hnew
  have hself : arn n (Function.update version value v) value = n.layerVersionArn value v := by
    simp [arn, hname]
  constructor
  case asked =>
    rw [hnames, ← h.asked]
    rfl
  case answers =>
    rw [hnames]
    exact h.answers.concat hnew hv
  case found =>
    intro name
    show (s.found ++ [(value, n.layerVersionArn value v)]).lookup name = _
    rw [List.lookup_append, h.found, hnames, Table.lookup_cons_eq_ite, List.lookup_nil]
    by_cases heq : name = value
    · subst heq
      simp [hnew]
    · by_cases hold : name ∈ names seen <;> simp [hold, heq]
  case layers =>
    -- the layers before have other names, and so the same versions
    have hbefore : ∀ e ∈ seen,
        s.layers.get? e.1 = some (arn n (Function.update version value v) e.2) := by
      intro e he
      have hne : e.2 ≠ value := by
        rintro heq
        exact hnew (mem_names.2 ⟨hname, e.1, heq ▸ he⟩)
      rw [arn_update v hne]
      exact h.layers e he
    rw [← hself]
    exact layers_settle hbefore hid

/-- What comes of one more layer: it is resolved, or its name is new and is not answered. -/
theorem step_cases (h : Settled versions n version seen s) (hid : id ∉ seen.map (·.1))
    (value : String) :
    (∃ version' t, s.step versions n id value = (t, none) ∧
      Settled versions n version' (seen ++ [(id, value)]) t) ∨
    ∃ t f, s.step versions n id value = (t, some f) ∧
      names (seen ++ [(id, value)]) = names seen ++ [value] ∧
      versions (names seen) value = .error f ∧ t.asked = names seen ++ [value] := by
  rw [step]
  by_cases hname : isArn value = true
  · have hsettled := h.settle_known hid (names_concat_of_isArn hname)
    rw [arn, if_pos hname] at hsettled
    rw [if_pos hname]
    exact .inl ⟨version, _, rfl, hsettled⟩
  · rw [if_neg hname, h.found]
    rw [Bool.not_eq_true] at hname
    by_cases hold : value ∈ names seen
    · have hsettled := h.settle_known hid (names_concat_of_mem hold)
      rw [arn, if_neg (by simp [hname])] at hsettled
      rw [if_pos hold]
      exact .inl ⟨version, _, rfl, hsettled⟩
    · rw [if_neg hold]
      simp only [ask, h.asked]
      cases hv : versions (names seen) value with
      | ok v =>
        have hsettled := h.settle_asked hid hname hold hv
        rw [h.asked] at hsettled
        exact .inl ⟨_, _, rfl, hsettled⟩
      | error f => exact .inr ⟨_, f, rfl, names_concat_of_not_mem hname hold, rfl, rfl⟩

/-- What comes of many more layers: they are resolved, or there is a first name that is not
answered. -/
theorem run_cases (h : Settled versions n version seen s)
    (hids : ((seen ++ rest).map (·.1)).Nodup) :
    (∃ version' t, run versions n rest s = (t, none) ∧
      Settled versions n version' (seen ++ rest) t) ∨
    ∃ t f before name after version', run versions n rest s = (t, some f) ∧
      names (seen ++ rest) = before ++ name :: after ∧ t.asked = before ++ [name] ∧
      versions.Answers before version' ∧ versions before name = .error f := by
  induction rest generalizing seen s version with
  | nil =>
    rw [List.append_nil]
    exact .inl ⟨version, s, rfl, h⟩
  | cons e rest ih =>
    obtain ⟨id, value⟩ := e
    have hmore : seen ++ (id, value) :: rest = seen ++ [(id, value)] ++ rest := by
      rw [List.append_assoc, List.singleton_append]
    have hid : id ∉ seen.map (·.1) := by
      rw [List.map_append, List.nodup_append] at hids
      exact fun hmem => hids.2.2 id hmem id (by simp) rfl
    rw [hmore] at hids ⊢
    rw [run]
    rcases h.step_cases hid value with
      ⟨version', t, hstep, hsettled⟩ | ⟨t, f, hstep, hnames, hv, hasked⟩
    · rw [hstep]
      exact ih hsettled hids
    · rw [hstep]
      right
      obtain ⟨after, hafter⟩ := prefix_appendNew (names seen ++ [value])
        ((rest.map (·.2)).filter fun value => !isArn value)
      refine ⟨t, f, names seen, value, after, version, rfl, ?_, hasked, h.answers, hv⟩
      rw [names_append, hnames, ← hafter, List.append_assoc, List.singleton_append]

end Settled

end Resolver

/-! ## The layers of a spec -/

/-- The names of layers in a spec, by the first id that uses each of them. -/
def ReferenceSpec.layerNames (spec : ReferenceSpec) : List String :=
  Resolver.names spec.layers.entries

namespace References

/-- All layers of a spec are resolved. -/
structure ResolvesLayers (spec : ReferenceSpec) (site : Deployment) (versions : LayerVersions)
    (s : Resolver) (r : References) : Prop where
  /-- Each name is asked for once, in the order the names come up. -/
  asked : s.asked = spec.layerNames
  /-- Each layer is what it is given by, or it has the version that is answered for its name. -/
  layers : ∃ version, versions.Answers spec.layerNames version ∧
    ∀ id value, spec.layers.get? id = some value → r.layers.get? id =
      some (if Resolver.isArn value then value
        else (Naming.mk "" site).layerVersionArn value (version value))
  /-- There are no other layers. -/
  keys : r.layers.keys = spec.layers.keys
  /-- Layers are looked up one by one, in order. -/
  listed : ∀ ids requestedBy arns, r.layerArns ids requestedBy = .ok arns ↔
    List.Forall₂ (fun id arn => r.layers.get? id = some arn) ids arns
  /-- The first layer that is not declared is the one to blame. -/
  undeclared : ∀ before id after requestedBy, (∀ k ∈ before, k ∈ spec.layers.keys) →
    id ∉ spec.layers.keys →
      r.layerArns (before ++ id :: after) requestedBy = .error (.unknownLayer id requestedBy)

/-- The resolution of the layers of a spec ends at the first name that is not answered, with the
fault that comes back for it. -/
def StopsAtLayer (spec : ReferenceSpec) (versions : LayerVersions) (s : Resolver) (f : Fault) :
    Prop :=
  ∃ before name after version, spec.layerNames = before ++ name :: after ∧
    s.asked = before ++ [name] ∧ versions.Answers before version ∧ versions before name = .error f

variable {r : References} {requestedBy : String}

theorem layerArn_eq_ok_iff {id arn : String} :
    r.layerArn requestedBy id = .ok arn ↔ r.layers.get? id = some arn := by
  rw [layerArn]
  cases r.layers.get? id <;> simp

theorem layerArns_eq_ok_iff {ids arns : List String} : r.layerArns ids requestedBy = .ok arns ↔
    List.Forall₂ (fun id arn => r.layers.get? id = some arn) ids arns := by
  rw [layerArns, mapM_eq_ok_iff]
  simp only [layerArn_eq_ok_iff]

/-- The first layer that is not there is the one to blame. -/
theorem layerArns_of_not_mem {before after : List String} {id : String}
    (hbefore : ∀ k ∈ before, k ∈ r.layers.keys) (hid : id ∉ r.layers.keys) :
    r.layerArns (before ++ id :: after) requestedBy = .error (.unknownLayer id requestedBy) := by
  refine mapM_eq_error (fun k hk => ?_) ?_
  · obtain ⟨arn, harn⟩ := Table.mem_keys_iff.1 (hbefore k hk)
    exact ⟨arn, layerArn_eq_ok_iff.2 harn⟩
  · rw [layerArn, Table.get?_eq_none_iff.2 hid]

/-- **Each name is asked for once.**  The layers of a spec are resolved by one call for each name
that they use, in the order the names come up, or the first call without an answer ends it. -/
theorem layers_of_resolve (spec : ReferenceSpec) (site : Deployment) (versions : LayerVersions) :
    spec.layerNames.Nodup ∧
      (∀ name, name ∈ spec.layerNames ↔
        Resolver.isArn name = false ∧ ∃ id, spec.layers.get? id = some name) ∧
      match resolve (some spec) site versions with
      | (s, .ok r) => ResolvesLayers spec site versions s r
      | (s, .error f) => StopsAtLayer spec versions s f := by
  refine ⟨Resolver.nodup_names _, fun name => ?_, ?_⟩
  · simp only [ReferenceSpec.layerNames, Resolver.mem_names, Table.get?_eq_some_iff]
  have hids : spec.layers.keys.Nodup := by
    refine spec.layers.pairwise_keys.imp fun hlt => ?_
    rintro rfl
    exact String.lt_irrefl _ hlt
  have hstart := Resolver.settled_start versions ⟨"", site⟩ fun _ => 0
  rw [resolve]
  rcases hstart.run_cases hids with ⟨version, s, hrun, hsettled⟩ |
    ⟨s, f, before, name, after, version, hrun, hnames, hasked, hanswers, hfault⟩
  · rw [List.nil_append] at hsettled
    have hkeys : s.layers.keys = spec.layers.keys :=
      Resolver.keys_of_run hrun spec.layers.pairwise_keys
    simp only [hrun]
    constructor
    case asked => exact hsettled.asked
    case layers =>
      refine ⟨version, hsettled.answers, fun id value hvalue => ?_⟩
      exact hsettled.layers _ (Table.get?_eq_some_iff.1 hvalue)
    case keys => exact hkeys
    case listed => exact fun _ _ _ => layerArns_eq_ok_iff
    case undeclared =>
      intro before id after requestedBy hbefore hid
      rw [← hkeys] at hbefore hid
      exact layerArns_of_not_mem hbefore hid
  · simp only [hrun]
    exact ⟨before, name, after, version, hnames, hasked, hanswers, hfault⟩

end References

end ServicePlan
