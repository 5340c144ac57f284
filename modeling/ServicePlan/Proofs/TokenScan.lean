import Mathlib.Data.List.Nodup
import ServicePlan.Proofs.OnePass
import ServicePlan.Splits

/-!
# The search for tokens

The search for tokens in a text takes the first opening, runs to the next closing brace and goes on
behind it.  So it does not look into what it has found, where more tokens may open, and it ends at an
opening that is never closed.  It misses nothing all the same: where a token ends, there ends one that
is found, and this one begins at the same place or further to the front.

* `Scans`: what a search from the left finds, repetitions included.
* `scans_tokensFrom`: the search does so.
* `Scans.covers`: whatever has the form of a token is inside of one that is found.
* `Scans.unique`: there is only one way to search.
* `listsTokens_unresolved`: all of it, for the tokens of a text without repetitions.
-/

namespace ServicePlan

/-! ## Openings -/

/-- Some opening of a text is closed somewhere behind it. -/
def HasClosed (text : List Char) : Prop :=
  ∃ before inside after, text = before ++ '{' :: '$' :: (inside ++ '}' :: after)

theorem HasClosed.closing_mem {text : List Char} (h : HasClosed text) : '}' ∈ text := by
  obtain ⟨before, inside, after, rfl⟩ := h
  simp

/-- The first opening comes behind no other. -/
theorem prefix_of_opening {before before' rest rest' : List Char}
    (h : before ++ '{' :: '$' :: rest = before' ++ '{' :: '$' :: rest')
    (hbefore : ¬ opening <:+: before) : before <+: before' := by
  rcases List.append_eq_append_iff.1 h with ⟨between, rfl, -⟩ | ⟨between, rfl, hbetween⟩
  · exact List.prefix_append before between
  · match between, hbetween with
    | [], _ => simp
    | [c], heq => cases heq
    | c :: d :: more, heq =>
      -- the other opening would stand in front of the first one
      cases heq
      exact absurd ⟨before', more, by simp [opening]⟩ hbefore

/-! ## Scans -/

/-- What a search from the left finds in a text, repetitions included. -/
inductive Scans : List Char → List (List Char) → Prop
  /-- If no opening is closed, there is nothing to find. -/
  | done {text : List Char} (h : ¬ HasClosed text) : Scans text []
  /-- The first opening runs to the next closing brace, and the search goes on behind it. -/
  | found {before name after : List Char} {tokens : List (List Char)}
      (hbefore : ¬ opening <:+: before) (hname : '}' ∉ name) (h : Scans after tokens) :
      Scans (before ++ '{' :: '$' :: (name ++ '}' :: after))
        (('{' :: '$' :: (name ++ ['}'])) :: tokens)

variable {text rest : List Char} {tokens : List (List Char)}

/-- A character at which nothing opens is passed by. -/
theorem Scans.cons {c : Char} (h : Scans rest tokens) (hc : ¬ opening <+: c :: rest) :
    Scans (c :: rest) tokens := by
  cases h with
  | done h =>
    refine .done ?_
    rintro ⟨before, inside, after, heq⟩
    cases before with
    | nil => exact hc ⟨inside ++ '}' :: after, heq.symm⟩
    | cons d before => exact h ⟨before, inside, after, (List.cons.inj heq).2⟩
  | @found before name after tokens hbefore hname h =>
    rw [← List.cons_append]
    refine .found ?_ hname h
    rw [List.infix_cons_iff, not_or]
    exact ⟨fun hopens => hc (hopens.trans (List.prefix_append (c :: before) _)), hbefore⟩

/-- The search behind some characters that are skipped. -/
theorem scans_tokensFrom (skip : Nat) (text : List Char) :
    Scans (text.drop skip) (tokensFrom skip text) := by
  induction text generalizing skip with
  | nil =>
    have hnil : tokensFrom skip [] = [] := by cases skip <;> rfl
    rw [List.drop_nil, hnil]
    exact .done fun h => by simpa using h.closing_mem
  | cons c rest ih =>
    cases skip with
    | succ skip => exact ih skip
    | zero =>
      rw [List.drop_zero, tokensFrom]
      by_cases hopen : c = '{' ∧ rest.head? = some '$'
      · rw [if_pos hopen]
        obtain ⟨rfl, hhead⟩ := hopen
        obtain ⟨more, rfl⟩ := List.head?_eq_some_iff.1 hhead
        by_cases hclose : '}' ∈ '$' :: more
        · rw [if_pos hclose]
          obtain ⟨body, after, hsplit, hbody⟩ := List.eq_append_cons_of_mem hclose
          have hafter : Scans after (tokensFrom (body.length + 1) ('$' :: more)) := by
            simpa [hsplit] using ih (body.length + 1)
          cases body with
          | nil => cases hsplit
          | cons d name =>
            obtain ⟨rfl, rfl⟩ := List.cons.inj hsplit
            have hname : '}' ∉ name := fun hmem => hbody (List.mem_cons_of_mem _ hmem)
            dsimp only
            rw [hsplit, takeWhile_closing hbody]
            exact .found (by decide : ¬ opening <:+: []) hname hafter
        · -- the search ends here, and what is never closed has no closed opening behind it either
          rw [if_neg hclose]
          refine .done fun h => hclose ?_
          simpa using h.closing_mem
      · rw [if_neg hopen]
        refine (ih 0).cons fun hopens => hopen ?_
        obtain ⟨more, heq⟩ := hopens
        cases heq
        exact ⟨rfl, rfl⟩

/-! ## What is found -/

namespace Scans

/-- What is found occurs in the text and ends where it is first closed. -/
theorem exists_name (h : Scans text tokens) {token : List Char} (ht : token ∈ tokens) :
    token <:+: text ∧ ∃ name, token = '{' :: '$' :: (name ++ ['}']) ∧ '}' ∉ name := by
  induction h with
  | done => cases ht
  | @found before name after tokens _ hname _ ih =>
    rcases List.mem_cons.1 ht with rfl | ht
    · exact ⟨⟨before, after, by simp⟩, name, rfl, hname⟩
    · obtain ⟨hinside, hform⟩ := ih ht
      exact ⟨hinside.trans ⟨before ++ '{' :: '$' :: (name ++ ['}']), [], by simp⟩, hform⟩

/-- Nothing is found exactly if no opening is closed. -/
theorem eq_nil_iff (h : Scans text tokens) : tokens = [] ↔ ¬ HasClosed text := by
  cases h with
  | done h => simp [h]
  | found => exact ⟨nofun, fun hnot => absurd ⟨_, _, _, rfl⟩ hnot⟩

/-- **Nothing is missed.**  Whatever has the form of a token is inside of one that is found and ends
where this one does. -/
theorem covers (h : Scans text tokens) {before name after : List Char} (hname : '}' ∉ name)
    (hsplit : text = before ++ '{' :: '$' :: (name ++ '}' :: after)) :
    ∃ token ∈ tokens, ∃ start, text = start ++ token ++ after ∧ start <+: before := by
  induction h generalizing before with
  | done hnot => exact absurd ⟨before, name, after, hsplit⟩ hnot
  | @found first own rest tokens hfirst hown _ ih =>
    obtain ⟨between, rfl⟩ := prefix_of_opening hsplit hfirst
    have hends : ('{' :: '$' :: own) ++ '}' :: rest =
        (between ++ '{' :: '$' :: name) ++ '}' :: after := by
      simpa using hsplit
    rcases append_cons_eq_iff.1 hends with ⟨-, rfl⟩ | ⟨m, hm, hrest⟩ | ⟨m, hm, -⟩
    · -- what is found first ends at the same place
      exact ⟨_, List.mem_cons_self .., first, by simp, List.prefix_append first between⟩
    · -- it ends further to the front, and the search goes on behind it
      have hclose : '}' ∉ '{' :: '$' :: name := by simp [hname]
      obtain ⟨more, rfl, rfl⟩ := exists_eq_append_cons_of_notMem hm.symm hclose
      have hbehind : rest = more ++ '{' :: '$' :: (name ++ '}' :: after) := by simpa using hrest
      obtain ⟨token, htoken, start, hstart, hprefix⟩ := ih hbehind
      refine ⟨token, List.mem_cons_of_mem _ htoken, first ++ '{' :: '$' :: own ++ '}' :: start,
        by simp [hstart], ?_⟩
      simpa using hprefix
    · -- it cannot end further behind, because it ends where it is first closed
      have hclose : '}' ∈ '{' :: '$' :: own := by simp [hm]
      simp [hown] at hclose

/-- There is only one way to search a text. -/
theorem unique (h : Scans text tokens) {other : List (List Char)} (h' : Scans text other) :
    other = tokens := by
  induction h generalizing other with
  | done hnot => exact h'.eq_nil_iff.2 hnot
  | @found before name after tokens hbefore hname _ ih =>
    generalize htext : before ++ '{' :: '$' :: (name ++ '}' :: after) = text at h'
    cases h' with
    | done hnot => exact absurd ⟨before, name, after, htext.symm⟩ hnot
    | @found before' name' after' other hbefore' hname' h' =>
      have hbefores : before = before' :=
        (prefix_of_opening htext hbefore).eq_of_length_le
          (prefix_of_opening htext.symm hbefore').length_le
      subst hbefores
      have hbodies : name ++ '}' :: after = name' ++ '}' :: after' := by simpa using htext
      have hnames : name = name' := by
        rw [← takeWhile_closing hname after, hbodies, takeWhile_closing hname']
      subst hnames
      have hafters : after = after' := by simpa using hbodies
      subst hafters
      rw [ih h']

end Scans

/-! ## Tokens of a text -/

/-- What a list of the tokens of a text has to be. -/
structure ListsTokens (text : String) (tokens : List String) : Prop where
  /-- The text is searched in the only way there is, and the tokens are listed by their first
  occurrence in what is found. -/
  scanned : ∃ found, Scans text.toList found ∧ (∀ other, Scans text.toList other → other = found) ∧
    tokens = (found.map String.ofList).eraseDups
  /-- No token is listed twice. -/
  nodup : tokens.Nodup
  /-- A token occurs in the text; it begins with an opening and has one closing brace, at its
  end. -/
  form : ∀ token ∈ tokens, token.toList <:+: text.toList ∧
    ∃ name, token.toList = '{' :: '$' :: (name ++ ['}']) ∧ '}' ∉ name
  /-- Where the text has the token of a placeholder, it is inside of an occurrence of a token that is
  listed. -/
  covers : ∀ (p : Placeholder) (before after : List Char),
    text.toList = before ++ p.token.toList ++ after → ∃ token ∈ tokens, ∃ start rest,
      text.toList = start ++ token.toList ++ rest ∧ start <+: before ∧ rest <:+ after
  /-- There are no tokens exactly if no opening of the text is closed. -/
  eq_nil_iff : tokens = [] ↔ ¬ HasClosed text.toList

theorem mem_unresolved_iff {text token : String} :
    token ∈ unresolved text ↔ token.toList ∈ tokensFrom 0 text.toList := by
  rw [unresolved, List.mem_map]
  constructor
  · rintro ⟨found, hfound, rfl⟩
    rw [mem_appendNew] at hfound
    simpa using hfound
  · intro h
    exact ⟨token.toList, mem_appendNew.2 (.inr h), String.ofList_toList⟩

/-- **The tokens that are left in a text.**  For every text the search finds all that is left of
placeholders, each token once and by its first occurrence. -/
theorem listsTokens_unresolved (text : String) : ListsTokens text (unresolved text) := by
  have hscan : Scans text.toList (tokensFrom 0 text.toList) := scans_tokensFrom 0 text.toList
  have hinj : Function.Injective String.ofList := fun _ _ h => String.ofList_inj.1 h
  refine ⟨⟨_, hscan, fun _ => hscan.unique, ?_⟩, ?_, ?_, ?_, ?_⟩
  · rw [unresolved, map_appendNew fun _ _ h => hinj h, List.map_nil, appendNew_nil_left]
  · exact List.Nodup.map hinj (nodup_appendNew List.nodup_nil _)
  · exact fun token htoken => hscan.exists_name (mem_unresolved_iff.1 htoken)
  · intro p before after hsplit
    obtain ⟨name, htoken, hname⟩ := p.exists_name
    have hform : text.toList = before ++ '{' :: '$' :: (name ++ '}' :: after) := by
      simpa [htoken] using hsplit
    obtain ⟨token, hfound, start, hstart, hprefix⟩ := hscan.covers hname hform
    refine ⟨String.ofList token, mem_unresolved_iff.2 ?_, start, after, ?_, hprefix,
      List.suffix_refl after⟩
    · rwa [String.toList_ofList]
    · rwa [String.toList_ofList]
  · rw [← hscan.eq_nil_iff, List.eq_nil_iff_forall_not_mem, List.eq_nil_iff_forall_not_mem]
    refine ⟨fun h token htoken => h (String.ofList token) (mem_unresolved_iff.2 ?_),
      fun h token htoken => h _ (mem_unresolved_iff.1 htoken)⟩
    rwa [String.toList_ofList]

/-- An opening inside of a token is not looked for, and one that is never closed is no token. -/
example : unresolved "\x7b$a\x7b$branch\x7d-\x7b$api\x7d-\x7b$a\x7b$branch\x7d-\x7b$region" =
    ["\x7b$a\x7b$branch\x7d", "\x7b$api\x7d"] := by
  decide +kernel

end ServicePlan
