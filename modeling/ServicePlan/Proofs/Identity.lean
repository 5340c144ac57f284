import ServicePlan.Proofs.Planned

/-!
# What resources are known by

A handle joins a category and a physical name with a slash, and a token joins a handle and an
attribute with a dot.  Names may have slashes, dots and braces of their own.  Categories have no
slash, so a handle is read back from its first slash; attributes have no dot, so a token is read back
from its last one.  Plans look resources up by their handles, and because of this that is the same
as looking them up by categories and names.

* `Handle.of_eq_iff`, `Handle.attr_eq_iff`: handles and tokens are unambiguous.
* `Intent.IsNamed`: an intent has the handle of its category and its physical name.
* `Plan.Indexed`: categories and names are an index of a plan.
* `Plan.Ordered.indexed`: plans in order are indexed, if their intents are named.
* `Plan.indexed_pushAll`: so is whatever comes of pushing named intents.
-/

namespace ServicePlan

/-! ## Handles and tokens -/

namespace Category

theorem ofLabel?_label (c : Category) : ofLabel? c.label = some c := by
  cases c <;> rfl

/-- Categories are told apart by their labels. -/
theorem label_inj {c c' : Category} : c.label = c'.label ↔ c = c' := by
  refine ⟨fun h => ?_, congrArg label⟩
  have hread := c.ofLabel?_label
  rw [h, ofLabel?_label] at hread
  exact (Option.some.inj hread).symm

theorem slash_not_mem_label (c : Category) : '/' ∉ c.label.toList := by
  cases c <;> decide

theorem mem_all (c : Category) : c ∈ all := by
  cases c <;> decide

theorem nodup_all : all.Nodup := by decide

end Category

namespace Handle

/-- Handles are told apart by their categories and their names, whatever characters the names
have. -/
theorem of_eq_iff {c c' : Category} {name name' : String} :
    of c name = of c' name' ↔ c = c' ∧ name = name' := by
  have htext : of c name = of c' name' ↔
      c.label.toList ++ '/' :: name.toList = c'.label.toList ++ '/' :: name'.toList := by
    rw [Handle.ext_iff, ← String.toList_inj]
    simp [of]
  rw [htext, append_cons_eq_iff, String.toList_inj, String.toList_inj, Category.label_inj]
  refine or_iff_left ?_
  -- if one label went on behind the end of the other, there would be a slash in it
  rintro (⟨m, hm, -⟩ | ⟨m, hm, -⟩)
  · exact c'.slash_not_mem_label (by simp [hm])
  · exact c.slash_not_mem_label (by simp [hm])

/-- Tokens are told apart by their handles and their attributes, if the attributes have no dot. -/
theorem attr_eq_iff {h k : Handle} {name name' : String} (hname : '.' ∉ name.toList)
    (hname' : '.' ∉ name'.toList) : h.attr name = k.attr name' ↔ h = k ∧ name = name' := by
  have htext : h.attr name = k.attr name' ↔
      h.text.toList ++ '.' :: (name.toList ++ ['}']) =
        k.text.toList ++ '.' :: (name'.toList ++ ['}']) := by
    rw [← String.toList_inj]
    simp [attr]
  rw [htext, append_cons_eq_iff, List.append_left_inj, String.toList_inj, String.toList_inj,
    Handle.ext_iff]
  refine or_iff_left ?_
  -- if one handle went on behind the end of the other, there would be a dot behind the other one
  rintro (⟨m, -, hm⟩ | ⟨m, -, hm⟩)
  · have hdot : '.' ∈ name.toList ++ ['}'] := by simp [hm]
    simp [hname] at hdot
  · have hdot : '.' ∈ name'.toList ++ ['}'] := by simp [hm]
    simp [hname'] at hdot

end Handle

/-! ## Named intents -/

namespace Intent

/-- An intent is known by its category and its physical name. -/
def IsNamed (i : Intent) : Prop := i.handle = .of i.category i.physicalName

theorem IsNamed.handle_eq_iff {i : Intent} (h : i.IsNamed) {c : Category} {name : String} :
    i.handle = .of c name ↔ i.category = c ∧ i.physicalName = name := by
  have hhandle : i.handle = .of i.category i.physicalName := h
  rw [hhandle, Handle.of_eq_iff]

end Intent

/-! ## Parts of a list -/

/-- The parts of a list, one after another, are the entries that are in one of the parts. -/
theorem perm_flatMap_filter {α κ : Type} [DecidableEq κ] (part : α → κ) {parts : List κ}
    (hnodup : parts.Nodup) (l : List α) :
    (parts.flatMap fun k => l.filter fun a => part a = k).Perm
      (l.filter fun a => part a ∈ parts) := by
  induction parts with
  | nil => simp
  | cons k parts ih =>
    obtain ⟨hk, hparts⟩ := List.nodup_cons.1 hnodup
    -- the entries of all parts are those of the first one and those of the others
    have hfirst : (l.filter fun a => part a ∈ k :: parts).filter (fun a => part a = k) =
        l.filter fun a => part a = k := by
      rw [List.filter_filter]
      refine List.filter_congr fun a _ => ?_
      by_cases ha : part a = k <;> simp [ha]
    have hothers : (l.filter fun a => part a ∈ k :: parts).filter (fun a => !decide (part a = k)) =
        l.filter fun a => part a ∈ parts := by
      rw [List.filter_filter]
      refine List.filter_congr fun a _ => ?_
      by_cases ha : part a = k <;> simp [ha, hk]
    have hsplit := List.filter_append_perm (fun a => decide (part a = k))
      (l.filter fun a => part a ∈ k :: parts)
    rw [hfirst, hothers] at hsplit
    rw [List.flatMap_cons]
    exact ((ih hparts).append_left _).trans hsplit

/-! ## Plans -/

namespace Plan

variable {p : Plan} {i j : Intent}

/-- Categories and names are an index of a plan. -/
structure Indexed (p : Plan) : Prop where
  /-- What is found by a category and a name is the one intent that has them. -/
  find?_eq_some_iff : ∀ c name i, p.find? c name = some i ↔
    i ∈ p.intents ∧ i.category = c ∧ i.physicalName = name
  /-- Nothing is found if no intent has them. -/
  find?_eq_none_iff : ∀ c name, p.find? c name = none ↔
    ∀ i ∈ p.intents, ¬ (i.category = c ∧ i.physicalName = name)
  /-- The part of a category has the intents of the category. -/
  mem_byCategory_iff : ∀ c i, i ∈ p.byCategory c ↔ i ∈ p.intents ∧ i.category = c
  /-- It has them in the order of the plan. -/
  sublist : ∀ c, (p.byCategory c).Sublist p.intents
  /-- The parts of all categories together are the plan. -/
  perm : (Category.all.flatMap p.byCategory).Perm p.intents
  /-- A push is refused as a duplicate exactly if an intent of the plan has the category and the
  name of the new one. -/
  duplicate : ∀ i : Intent, i.IsNamed → ((∃ f, (p.push i).2 = .error f ∧ f.kind = .duplicate) ↔
    ∃ j ∈ p.intents, j.category = i.category ∧ j.physicalName = i.physicalName)

/-- Each intent of a plan is in the part of its category and in no other. -/
theorem perm_byCategory (p : Plan) : (Category.all.flatMap p.byCategory).Perm p.intents := by
  have hparts := perm_flatMap_filter Intent.category Category.nodup_all p.intents
  have hall : (p.intents.filter fun i => i.category ∈ Category.all) = p.intents :=
    List.filter_eq_self.2 fun i _ => decide_eq_true i.category.mem_all
  rwa [hall] at hparts

/-- Plans in order are indexed, if their intents are named. -/
theorem Ordered.indexed (hp : p.Ordered) (hnamed : ∀ i ∈ p.intents, i.IsNamed) : p.Indexed where
  find?_eq_some_iff c name i := by
    constructor
    · intro hfind
      have hi := List.mem_of_find?_eq_some hfind
      have hhandle : i.handle = .of c name := by simpa using List.find?_some hfind
      exact ⟨hi, (hnamed i hi).handle_eq_iff.1 hhandle⟩
    · rintro ⟨hi, hname⟩
      exact hp.find?_eq_some hi ((hnamed i hi).handle_eq_iff.2 hname)
  find?_eq_none_iff c name := by
    rw [find?, List.find?_eq_none]
    refine forall₂_congr fun i hi => ?_
    rw [beq_iff_eq, (hnamed i hi).handle_eq_iff]
  mem_byCategory_iff _ _ := mem_byCategory
  sublist _ := List.filter_sublist
  perm := p.perm_byCategory
  duplicate i hi := by
    rw [(hp.answers i).duplicate, handles, List.mem_map]
    refine exists_congr fun j => and_congr_right fun hj => ?_
    rw [hi, (hnamed j hj).handle_eq_iff]

/-- A push adds its intent at most. -/
theorem mem_intents_push (hj : j ∈ (p.push i).1.intents) : j ∈ p.intents ∨ j = i := by
  rcases p.push_cases i with ⟨-, h⟩ | ⟨_, -, -, -, h⟩ | ⟨-, -, h⟩
  · exact .inl (by rwa [h] at hj)
  · exact .inl (by rwa [h] at hj)
  · rw [h] at hj
    simpa [add] using hj

/-- Any sequence of pushes adds at most its own intents. -/
theorem mem_intents_pushAll {attempts : List Intent} (hj : j ∈ (p.pushAll attempts).intents) :
    j ∈ p.intents ∨ j ∈ attempts := by
  induction attempts generalizing p with
  | nil => exact .inl hj
  | cons i rest ih =>
    obtain hj | hj := ih hj
    · obtain hj | rfl := mem_intents_push hj
      · exact .inl hj
      · exact .inr (List.mem_cons_self ..)
    · exact .inr (List.mem_cons_of_mem i hj)

/-- **Resources are told apart by categories and names.**  Two handles are the same exactly if their
categories and names are, and two tokens exactly if their handles and attributes are.  So, after any
sequence of pushes of named intents on a new plan, categories and names are an index of the plan. -/
theorem indexed_pushAll (tags : Table String) {attempts : List Intent}
    (h : ∀ i ∈ attempts, i.IsNamed) :
    (∀ c name c' name', Handle.of c name = Handle.of c' name' ↔ c = c' ∧ name = name') ∧
      (∀ (handle handle' : Handle) (name name' : String), '.' ∉ name.toList →
        '.' ∉ name'.toList →
        (handle.attr name = handle'.attr name' ↔ handle = handle' ∧ name = name')) ∧
      ((new tags).pushAll attempts).Indexed := by
  have hnamed : ∀ i ∈ ((new tags).pushAll attempts).intents, i.IsNamed := by
    intro i hi
    obtain hi | hi := mem_intents_pushAll hi
    · cases hi
    · exact h i hi
  exact ⟨fun _ _ _ _ => Handle.of_eq_iff, fun _ _ _ _ => Handle.attr_eq_iff,
    ((ordered_new tags).pushAll attempts).indexed hnamed⟩

/-- Intents with slashes in their names, of which two are for one resource. -/
def slashedAttempts : List Intent := [
  .of .bucket .storage "x/y.Arn" (.object []),
  .of .repository .storage "x/y.Arn" (.object []),
  .of .topic .messaging "Policy/x" (.object []),
  .of .topicPolicy .messaging "x" (.object []) [.of .topic "Policy/x"],
  .of .bucket .compute "x/y.Arn" .null]

/-- The second bucket is refused, and there is one of each of the others. -/
theorem indexed_slashedAttempts :
    let p := (new ∅).pushAll slashedAttempts
    p.handles.map (·.text) =
        ["Bucket/x/y.Arn", "Repository/x/y.Arn", "Topic/Policy/x", "TopicPolicy/x"] ∧
      (∀ i ∈ slashedAttempts, i.IsNamed) ∧ p.Indexed := by
  have hnamed : ∀ i ∈ slashedAttempts, i.IsNamed := by
    simp only [slashedAttempts, List.forall_mem_cons]
    exact ⟨rfl, rfl, rfl, rfl, rfl, by simp⟩
  exact ⟨by decide, hnamed, (indexed_pushAll ∅ hnamed).2.2⟩

end Plan

end ServicePlan
