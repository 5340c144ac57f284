/-!
# Lists without repetition

Several lists of the library grow by entries that are not there yet: the managed policies of a
function, the dependencies of an intent, the tokens left in a text.  All of them grow by
`appendNew`, which keeps what is there and adds each new entry once, in the order it arrives.

* `mem_appendNew`: nothing is lost and nothing else comes in.
* `nodup_appendNew`: a list without repetition stays one.
* `appendNew_of_subset`: adding what is already there changes nothing.
* `appendNew_nil_left`: what grows from nothing keeps the first occurrence of each entry.
* `map_appendNew`: a map that tells entries apart may change places with growing.
-/

namespace ServicePlan

variable {α : Type _} [DecidableEq α]

/-- `base` followed by the entries of `fresh` that are not there yet, each at its first
occurrence. -/
def appendNew (base fresh : List α) : List α :=
  fresh.foldl (fun seen a => if a ∈ seen then seen else seen ++ [a]) base

@[simp] theorem appendNew_nil (base : List α) : appendNew base [] = base := rfl

theorem appendNew_cons (base : List α) (a : α) (fresh : List α) :
    appendNew base (a :: fresh) =
      appendNew (if a ∈ base then base else base ++ [a]) fresh := rfl

theorem appendNew_append (base fresh more : List α) :
    appendNew base (fresh ++ more) = appendNew (appendNew base fresh) more := by
  simp [appendNew]

/-- An entry of the result was there before or is among the new ones. -/
theorem mem_appendNew {base fresh : List α} {a : α} :
    a ∈ appendNew base fresh ↔ a ∈ base ∨ a ∈ fresh := by
  induction fresh generalizing base with
  | nil => simp
  | cons b fresh ih =>
    rw [appendNew_cons, ih]
    by_cases hb : b ∈ base
    · simp only [hb, if_true, List.mem_cons]
      constructor
      · rintro (h | h)
        · exact .inl h
        · exact .inr (.inr h)
      · rintro (h | rfl | h)
        · exact .inl h
        · exact .inl hb
        · exact .inr h
    · simp only [hb, if_false, List.mem_append, List.mem_cons, List.not_mem_nil, or_false]
      rw [or_assoc]

/-- Growing keeps a list free of repetition. -/
theorem nodup_appendNew {base : List α} (h : base.Nodup) (fresh : List α) :
    (appendNew base fresh).Nodup := by
  induction fresh generalizing base with
  | nil => exact h
  | cons b fresh ih =>
    rw [appendNew_cons]
    by_cases hb : b ∈ base
    · simp only [hb, if_true]
      exact ih h
    · simp only [hb, if_false]
      refine ih (List.nodup_append.2 ⟨h, by simp, ?_⟩)
      rintro x hx y hy rfl
      exact hb (List.mem_singleton.1 hy ▸ hx)

/-- Adding entries that are all there changes nothing. -/
theorem appendNew_of_subset {base fresh : List α} (h : ∀ a ∈ fresh, a ∈ base) :
    appendNew base fresh = base := by
  induction fresh with
  | nil => rfl
  | cons b fresh ih =>
    rw [appendNew_cons, if_pos (h b (by simp))]
    exact ih fun a ha => h a (by simp [ha])

/-- Growing from nothing keeps the first occurrence of each entry. -/
theorem appendNew_nil_left (l : List α) : appendNew [] l = l.eraseDups := by
  -- an entry at the end is kept exactly if it does not occur before
  suffices hrev : ∀ l : List α, appendNew [] l.reverse = l.reverse.eraseDups by
    simpa using hrev l.reverse
  intro l
  induction l with
  | nil => rfl
  | cons a l ih =>
    rw [List.reverse_cons, appendNew_append, ih, List.eraseDups_append]
    by_cases ha : a ∈ l <;> simp [appendNew_cons, List.removeAll, List.eraseDups_cons, ha]

/-- A map that tells entries apart may change places with growing. -/
theorem map_appendNew {β : Type _} [DecidableEq β] {f : α → β} (hf : ∀ a b, f a = f b → a = b)
    (base fresh : List α) : (appendNew base fresh).map f = appendNew (base.map f) (fresh.map f) := by
  have hmem : ∀ {a : α} {l : List α}, f a ∈ l.map f ↔ a ∈ l := by
    intro a l
    refine ⟨fun h => ?_, List.mem_map_of_mem⟩
    obtain ⟨b, hb, heq⟩ := List.mem_map.1 h
    rwa [← hf b a heq]
  induction fresh generalizing base with
  | nil => rfl
  | cons a fresh ih =>
    rw [appendNew_cons, ih, List.map_cons, appendNew_cons]
    by_cases ha : a ∈ base
    · rw [if_pos ha, if_pos (hmem.2 ha)]
    · rw [if_neg ha, if_neg (mt hmem.1 ha), List.map_append, List.map_singleton]

end ServicePlan
