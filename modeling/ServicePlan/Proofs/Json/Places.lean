import ServicePlan.Json.Decode

/-!
# Places in a value

A place leads from a value through members of a name and through all members alike, so it stands
for any number of parts of the value.

* `Json.Place`, `Json.parts`: places, and the parts of a value that stand there.
* `Json.HoldsIntegers`: all numbers at some places are integers that fit into 64 bits with a sign.
* `Json.holdsIntegers_iff_member`, `Json.holdsIntegers_each`: what that says about the members.
-/

namespace ServicePlan

/-- Whether a number is stored as an integer that fits into 64 bits with a sign. -/
def Number.FitsInt : Number → Prop
  | .integer i => i ≤ Decode.maxInt
  | .float _ => False

namespace Json

/-- One part of the way to a place. -/
inductive Segment
  /-- The member of a name. -/
  | member (name : String)
  /-- Each of the members. -/
  | each
  deriving DecidableEq, Repr

/-- The way to the parts of a value. -/
abbrev Place := List Segment

/-- The values of the members, if the value is an object. -/
def memberValues : Json → List Json
  | .object members => members.map (·.2)
  | _ => []

/-- The parts of a value at a place. -/
def parts : Place → Json → List Json
  | [], v => [v]
  | .member name :: rest, v => (v.member? name).toList.flatMap (parts rest)
  | .each :: rest, v => v.memberValues.flatMap (parts rest)

/-- All numbers at some places are integers that fit into 64 bits with a sign. -/
def HoldsIntegers (places : List Place) (v : Json) : Prop :=
  ∀ place ∈ places, ∀ n, .number n ∈ v.parts place → n.FitsInt

/-- What is left of the places that go through the member of a name. -/
def within (name : String) (places : List Place) : List Place :=
  places.filterMap fun place =>
    match place with
    | .member first :: rest => if first = name then some rest else none
    | _ => none

/-- Whether a place goes through a member of one of some names. -/
def StartsIn (names : List String) : Place → Prop
  | .member name :: _ => name ∈ names
  | _ => False

instance (names : List String) (place : Place) : Decidable (StartsIn names place) := by
  cases place with
  | nil => exact .isFalse id
  | cons segment rest =>
    cases segment with
    | member name => exact inferInstanceAs (Decidable (name ∈ names))
    | each => exact .isFalse id

variable {places : List Place} {name : String} {names : List String} {rest : Place} {v : Json}

theorem mem_within : rest ∈ within name places ↔ .member name :: rest ∈ places := by
  simp only [within, List.mem_filterMap]
  constructor
  · rintro ⟨place, hplace, h⟩
    split at h
    · split at h
      · rename_i heq
        cases h
        exact heq ▸ hplace
      · cases h
    · cases h
  · intro h
    exact ⟨_, h, by simp⟩

theorem holdsIntegers_nil : v.HoldsIntegers [] := by
  intro place hplace
  cases hplace

/-- There are no numbers inside of null. -/
theorem holdsIntegers_null : Json.null.HoldsIntegers places := by
  intro place _ n hn
  cases place with
  | nil =>
    rw [parts, List.mem_singleton] at hn
    cases hn
  | cons segment rest =>
    cases segment with
    | member name => simp [parts, member?] at hn
    | each => simp [parts, memberValues] at hn

theorem holdsIntegers_root {n : Number} : (Json.number n).HoldsIntegers [[]] ↔ n.FitsInt := by
  simp [HoldsIntegers, parts]

/-- Places that go through members are about each member by itself. -/
theorem holdsIntegers_iff_member (hstart : ∀ place ∈ places, StartsIn names place) :
    v.HoldsIntegers places ↔
      ∀ name ∈ names, ∀ w, v.member? name = some w → w.HoldsIntegers (within name places) := by
  constructor
  · intro h name _ w hw rest hrest n hn
    refine h _ (mem_within.1 hrest) n ?_
    simp only [parts, hw, Option.toList_some, List.flatMap_singleton]
    exact hn
  · intro h place hplace n hn
    have hin := hstart place hplace
    cases place with
    | nil => exact absurd hin id
    | cons segment rest =>
      cases segment with
      | each => exact absurd hin id
      | member name =>
        simp only [parts, List.mem_flatMap, Option.mem_toList] at hn
        obtain ⟨w, hw, hn⟩ := hn
        exact h name hin w hw rest (mem_within.2 hplace) n hn

/-- Places that go through all members are about each of them. -/
theorem holdsIntegers_each :
    v.HoldsIntegers (places.map (.each :: ·)) ↔ ∀ w ∈ v.memberValues, w.HoldsIntegers places := by
  simp only [HoldsIntegers, List.forall_mem_map, parts, List.mem_flatMap]
  constructor
  · intro h w hw place hplace n hn
    exact h place hplace n ⟨w, hw, hn⟩
  · rintro h place hplace n ⟨w, hw, hn⟩
    exact h w hw place hplace n hn

end Json

end ServicePlan
