/-!
# Splits of lists

What comes before what in a list is said by its splits: `l = before ++ x :: after` puts `before` in
front of an occurrence of `x` and `after` behind it.  Plans, journals and the steps of a build grow
at the end, so their splits are those from before, or at the new entry.

* `append_singleton_eq_append_cons`: the splits of a list that has grown by one entry.
* `mem_of_append_cons_eq`: which of two entries comes first.
* `append_cons_eq_iff`, `exists_eq_append_cons_of_notMem`: two splits of one list.
-/

namespace ServicePlan

variable {α : Type _} {x y last : α} {l before after first second : List α}

/-- A list that has grown by one entry is split at this entry, or where it was before. -/
theorem append_singleton_eq_append_cons (h : l ++ [last] = before ++ x :: after) :
    (after = [] ∧ l = before ∧ last = x) ∨
      ∃ rest, after = rest ++ [last] ∧ l = before ++ x :: rest := by
  rcases List.eq_nil_or_concat after with rfl | ⟨rest, z, rfl⟩
  · obtain ⟨hinit, hlast⟩ := List.append_inj' h rfl
    exact .inl ⟨rfl, hinit, List.singleton_inj.1 hlast⟩
  · rw [List.concat_eq_append, ← List.cons_append, ← List.append_assoc] at h
    obtain ⟨hinit, hlast⟩ := List.append_inj' h rfl
    rw [List.singleton_inj.1 hlast]
    exact .inr ⟨rest, List.concat_eq_append, hinit⟩

/-- If a list is split at two places, and the first entry does not come behind the second, then the
second comes behind the first. -/
theorem mem_of_append_cons_eq (h : before ++ x :: after = first ++ y :: second) (hne : x ≠ y)
    (hnot : x ∉ second) : y ∈ after := by
  rcases List.append_eq_append_iff.1 h with ⟨between, -, hafter⟩ | ⟨between, -, hsecond⟩
  · cases between with
    | nil => exact absurd (List.cons.inj hafter).1 hne
    | cons z between =>
      rw [(List.cons.inj hafter).2]
      exact List.mem_append_right _ (List.mem_cons_self ..)
  · cases between with
    | nil => exact absurd (List.cons.inj hsecond).1.symm hne
    | cons z between =>
      rw [(List.cons.inj hsecond).2] at hnot
      exact absurd (List.mem_append_right _ (List.mem_cons_self ..)) hnot

/-- An entry splits a list in two places only if one of the parts before it goes on with the entry. -/
theorem append_cons_eq_iff {a b c d : List α} :
    a ++ x :: b = c ++ x :: d ↔
      (a = c ∧ b = d) ∨ (∃ m, c = a ++ x :: m ∧ b = m ++ x :: d) ∨
        ∃ m, a = c ++ x :: m ∧ d = m ++ x :: b := by
  constructor
  · intro h
    rcases List.append_eq_append_iff.1 h with ⟨m, rfl, hm⟩ | ⟨m, rfl, hm⟩
    · cases m with
      | nil => exact .inl ⟨(List.append_nil a).symm, (List.cons.inj hm).2⟩
      | cons y m =>
        obtain ⟨rfl, rfl⟩ := List.cons.inj hm
        exact .inr (.inl ⟨m, rfl, rfl⟩)
    · cases m with
      | nil => exact .inl ⟨List.append_nil c, (List.cons.inj hm).2.symm⟩
      | cons y m =>
        obtain ⟨rfl, rfl⟩ := List.cons.inj hm
        exact .inr (.inr ⟨m, rfl, rfl⟩)
  · rintro (⟨rfl, rfl⟩ | ⟨m, rfl, rfl⟩ | ⟨m, rfl, rfl⟩)
    · rfl
    · simp
    · simp

/-- Where a list is split at an entry that is not in its last part, the entry is in the part before. -/
theorem exists_eq_append_cons_of_notMem (h : before ++ x :: after = first ++ second)
    (hx : x ∉ second) : ∃ between, first = before ++ x :: between ∧ after = between ++ second := by
  rcases List.append_eq_append_iff.1 h with ⟨between, rfl, hafter⟩ | ⟨between, -, rfl⟩
  · cases between with
    | nil =>
      rw [List.nil_append] at hafter
      exact absurd (hafter ▸ List.mem_cons_self ..) hx
    | cons y between =>
      obtain ⟨rfl, rfl⟩ := List.cons.inj hafter
      exact ⟨between, rfl, rfl⟩
  · exact absurd (List.mem_append_right _ (List.mem_cons_self ..)) hx

end ServicePlan
