/-!
# Replacing a text inside a text

`replace pattern value text` goes through `text` once from the left, copies what does not start
an occurrence of `pattern`, and puts `value` in the place of each occurrence.  What it puts in
is not looked at again.

* `replace_of_not_infix`: a text without the pattern is unchanged.
* `replace_append_cons`: a character that the pattern does not have splits what is replaced.
* `replace_self`: the pattern itself is replaced by the value.
-/

namespace ServicePlan.Text

/-- Replaces the occurrences of `pattern` behind the next `skip` characters, which belong to an
occurrence that has been replaced already. -/
def replaceFrom (pattern value : List Char) : Nat → List Char → List Char
  | _, [] => []
  | skip + 1, _ :: rest => replaceFrom pattern value skip rest
  | 0, c :: rest =>
    if pattern.isPrefixOf (c :: rest) then
      value ++ replaceFrom pattern value (pattern.length - 1) rest
    else
      c :: replaceFrom pattern value 0 rest

/-- Replaces every occurrence of a nonempty `pattern`, from the left and without overlaps. -/
def replace (pattern value text : List Char) : List Char :=
  replaceFrom pattern value 0 text

@[simp] theorem replaceFrom_nil (pattern value : List Char) (skip : Nat) :
    replaceFrom pattern value skip [] = [] := by
  cases skip <;> rfl

/-- Skipping is dropping. -/
theorem replaceFrom_eq_drop (pattern value : List Char) (skip : Nat) (text : List Char) :
    replaceFrom pattern value skip text = replace pattern value (text.drop skip) := by
  induction text generalizing skip with
  | nil => simp [replace]
  | cons c rest ih =>
    cases skip with
    | zero => rfl
    | succ n => exact ih n

/-- A text in which the pattern does not occur is unchanged. -/
theorem replace_of_not_infix {pattern value text : List Char} (h : ¬ pattern <:+: text) :
    replace pattern value text = text := by
  induction text with
  | nil => rfl
  | cons c rest ih =>
    have hnot : pattern.isPrefixOf (c :: rest) = false := by
      rw [Bool.eq_false_iff]
      intro hp
      exact h (List.isPrefixOf_iff_prefix.1 hp).isInfix
    have hrest : ¬ pattern <:+: rest := fun hi => h (hi.trans (List.suffix_cons c rest).isInfix)
    show (if pattern.isPrefixOf (c :: rest) then _ else c :: replaceFrom pattern value 0 rest) = _
    rw [hnot]
    exact congrArg (c :: ·) (ih hrest)

/-- A pattern without some character does not reach across it. -/
theorem isPrefixOf_append_cons {pattern a b : List Char} {sep : Char} (hsep : sep ∉ pattern) :
    pattern.isPrefixOf (a ++ sep :: b) = pattern.isPrefixOf a := by
  rw [Bool.eq_iff_iff, List.isPrefixOf_iff_prefix, List.isPrefixOf_iff_prefix]
  constructor
  · intro h
    induction a generalizing pattern with
    | nil =>
      cases pattern with
      | nil => exact List.nil_prefix
      | cons p rest =>
        obtain ⟨rfl, -⟩ := List.cons_prefix_cons.1 h
        exact absurd (List.mem_cons_self ..) hsep
    | cons c a ih =>
      cases pattern with
      | nil => exact List.nil_prefix
      | cons p rest =>
        obtain ⟨rfl, hrest⟩ := List.cons_prefix_cons.1 h
        have hnot : sep ∉ rest := fun hmem => hsep (List.mem_cons_of_mem p hmem)
        exact List.cons_prefix_cons.2 ⟨rfl, ih hnot hrest⟩
  · exact fun h => h.trans (List.prefix_append a _)

/-- A character that the pattern does not have splits what is replaced. -/
theorem replace_append_cons {pattern : List Char} (value a b : List Char) {sep : Char}
    (hne : pattern ≠ []) (hsep : sep ∉ pattern) :
    replace pattern value (a ++ sep :: b) =
      replace pattern value a ++ sep :: replace pattern value b := by
  suffices hgen : ∀ skip ≤ a.length, replaceFrom pattern value skip (a ++ sep :: b) =
      replaceFrom pattern value skip a ++ sep :: replace pattern value b from hgen 0 (Nat.zero_le _)
  induction a with
  | nil =>
    intro skip hskip
    obtain rfl : skip = 0 := Nat.le_zero.1 hskip
    have hnot : pattern.isPrefixOf (sep :: b) = false := by
      have h := isPrefixOf_append_cons (a := []) (b := b) hsep
      rw [List.nil_append] at h
      rw [h]
      cases pattern with
      | nil => exact absurd rfl hne
      | cons p rest => rfl
    show (if pattern.isPrefixOf (sep :: b) then _ else sep :: replaceFrom pattern value 0 b) = _
    rw [hnot]
    rfl
  | cons c a ih =>
    intro skip hskip
    cases skip with
    | succ n => exact ih n (Nat.le_of_succ_le_succ hskip)
    | zero =>
      rw [List.cons_append, replaceFrom, replaceFrom, ← List.cons_append,
        isPrefixOf_append_cons hsep]
      split
      · rename_i hprefix
        have hlen := (List.isPrefixOf_iff_prefix.1 hprefix).length_le
        rw [List.length_cons] at hlen
        rw [ih (pattern.length - 1) (by omega), List.append_assoc]
      · rw [ih 0 (Nat.zero_le _), List.cons_append]

/-- The pattern itself is replaced by the value. -/
theorem replace_self {pattern : List Char} (value : List Char) (hne : pattern ≠ []) :
    replace pattern value pattern = value := by
  cases pattern with
  | nil => exact absurd rfl hne
  | cons p rest =>
    have hprefix : (p :: rest).isPrefixOf (p :: rest) = true :=
      List.isPrefixOf_iff_prefix.2 (List.prefix_refl _)
    rw [replace, replaceFrom, if_pos hprefix, replaceFrom_eq_drop, List.length_cons,
      Nat.add_sub_cancel, List.drop_length]
    exact List.append_nil value

end ServicePlan.Text
