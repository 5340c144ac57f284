import Mathlib
import ServicePlan.Placeholder
import ServicePlan.Proofs.Json.Members
import ServicePlan.Proofs.Json.Reading

/-!
# Substituting before reading

Placeholders are replaced in the characters of a document before it is read, without any regard to
where its strings begin and end.  This is the same as reading first and replacing in the strings: a
token begins with an opening brace and a dollar sign, which stand together only inside a string, and
it has no character that is written as an escape.

* `Json.ActsInStrings`: a function on texts that leaves everything but strings alone.
* `Json.Reads.map`: what is read in a text with such a function applied.
* `Json.IsReplacement.actsInStrings`: replacing a token by a value that needs no escape is one.
* `Bindings.read_substitute`: substituting and reading.
-/

namespace ServicePlan

namespace Text

variable {pattern value : List Char}

theorem replace_append (hne : pattern ≠ []) (rest : List Char) :
    replace pattern value (pattern ++ rest) = value ++ replace pattern value rest := by
  cases pattern with
  | nil => exact absurd rfl hne
  | cons p more =>
    have hprefix : (p :: more).isPrefixOf (p :: more ++ rest) = true :=
      List.isPrefixOf_iff_prefix.2 (List.prefix_append _ _)
    rw [replace, List.cons_append, replaceFrom, ← List.cons_append, if_pos hprefix,
      replaceFrom_eq_drop, List.length_cons, Nat.add_sub_cancel, List.drop_left]

theorem replace_cons_of_not_prefix {c : Char} {rest : List Char} (h : ¬ pattern <+: c :: rest) :
    replace pattern value (c :: rest) = c :: replace pattern value rest := by
  rw [replace, replaceFrom, if_neg (mt List.isPrefixOf_iff_prefix.1 h)]
  rfl

end Text

namespace Json

/-- A function on texts that changes nothing but strings: outside of strings it copies every
character, and it acts on what a string stands for as it does on its characters. -/
structure ActsInStrings (F : List Char → List Char) : Prop where
  /-- Nothing comes of nothing. -/
  nil : F [] = []
  /-- All characters but an opening brace are copied. -/
  pass : ∀ c text, c ≠ '{' → F (c :: text) = c :: F text
  /-- An opening brace is copied unless a dollar sign or another one follows. -/
  brace : ∀ c text, c ≠ '{' → c ≠ '$' → F ('{' :: c :: text) = '{' :: F (c :: text)
  /-- Strings stay strings. -/
  content : ∀ chars text rest, Content chars text rest → Content (F chars) (F text) (F rest)

namespace ActsInStrings

variable {F G : List Char → List Char}

theorem id : ActsInStrings fun text => text where
  nil := rfl
  pass _ _ _ := rfl
  brace _ _ _ _ := rfl
  content _ _ _ h := h

theorem comp (hG : ActsInStrings G) (hF : ActsInStrings F) :
    ActsInStrings fun text => G (F text) where
  nil := by rw [hF.nil, hG.nil]
  pass c text hc := by rw [hF.pass c text hc, hG.pass c _ hc]
  brace c text hc hc' := by
    rw [hF.brace c text hc hc', hF.pass c text hc, hG.brace c _ hc hc', hG.pass c _ hc]
  content chars text rest h := hG.content _ _ _ (hF.content _ _ _ h)

theorem append (hF : ActsInStrings F) {part : List Char} (hpart : '{' ∉ part) (rest : List Char) :
    F (part ++ rest) = part ++ F rest := by
  induction part with
  | nil => rfl
  | cons c part ih =>
    rw [List.mem_cons, not_or] at hpart
    rw [List.cons_append, hF.pass c _ (Ne.symm hpart.1), ih hpart.2, List.cons_append]

theorem head? (hF : ActsInStrings F) {text : List Char} (h : text.head? ≠ some '{') :
    (F text).head? = text.head? := by
  cases text with
  | nil => rw [hF.nil]
  | cons c text =>
    rw [hF.pass c text fun hc => h (congrArg some hc), List.head?_cons, List.head?_cons]

/-- Blanks are kept. -/
theorem dropBlanks (hF : ActsInStrings F) {text rest : List Char} {x : Char}
    (htext : Json.dropBlanks text = x :: rest) (hx : F (x :: rest) = x :: F rest) :
    Json.dropBlanks (F text) = x :: F rest := by
  induction text with
  | nil => cases htext
  | cons c text ih =>
    rw [Json.dropBlanks, List.dropWhile_cons] at htext
    split at htext
    · rename_i hc
      have hbrace : c ≠ '{' := by
        rintro rfl
        cases hc
      rw [hF.pass c text hbrace, Json.dropBlanks, List.dropWhile_cons, if_pos hc]
      exact ih htext
    · rename_i hc
      cases htext
      rw [hx, Json.dropBlanks, List.dropWhile_cons, if_neg hc]

theorem nextStart? (hF : ActsInStrings F) {first : Bool} {text rest : List Char} {x : Char}
    (htext : Json.nextStart? first text = some (x :: rest)) (hx : F (x :: rest) = x :: F rest) :
    Json.nextStart? first (F text) = some (x :: F rest) := by
  cases first with
  | true => exact congrArg some (hF.dropBlanks (Option.some.inj htext) hx)
  | false =>
    obtain ⟨behind, hcomma, hstart⟩ := nextStart?_false_eq_some htext
    have hcomma' := hF.dropBlanks hcomma (hF.pass _ _ (by decide))
    simp only [Json.nextStart?, hcomma', hF.dropBlanks hstart hx, Bool.false_eq_true, if_false]

end ActsInStrings

/-! ## Reading what has been changed -/

/-- How a part that is read where `f` has been applied goes with the part that was read before. -/
def Part.IsMapped (f : String → String) : Part → Part → Prop
  | .value v, .value v' => v.NamesApart f → v' = v.mapText f
  | .items first vs, .items first' vs' =>
    first = first' ∧ List.Forall₂ (fun v v' => v.NamesApart f → v' = v.mapText f) vs vs'
  | .members first es, .members first' es' =>
    first = first' ∧ List.Forall₂ (Json.IsMapped f) es es'
  | _, _ => False

/-- A function on texts as a function on strings. -/
def onStrings (F : List Char → List Char) (s : String) : String := .ofList (F s.toList)

/-- What is behind an item or a member does not begin with an opening brace. -/
theorem head?_ne_brace {text rest : List Char} {x : Char} (htext : dropBlanks text = x :: rest)
    (hx : x ≠ '{') : text.head? ≠ some '{' := by
  rintro h
  obtain ⟨more, rfl⟩ := List.head?_eq_some_iff.1 h
  cases htext
  exact hx rfl

/-- Where a value ends there is no opening brace: another item follows, or the end of the items. -/
theorem Reads.head?_items {depth : Nat} {vs : List Json} {text rest : List Char}
    (h : Reads depth (.items false vs) text rest) : text.head? ≠ some '{' := by
  cases h with
  | noItem htext => exact head?_ne_brace htext (by decide)
  | item hstart =>
    obtain ⟨more, htext, -⟩ := nextStart?_false_eq_some hstart
    exact head?_ne_brace htext (by decide)

theorem Reads.head?_members {depth : Nat} {es : List (String × Json)} {text rest : List Char}
    (h : Reads depth (.members false es) text rest) : text.head? ≠ some '{' := by
  cases h with
  | noMember htext => exact head?_ne_brace htext (by decide)
  | member hstart =>
    obtain ⟨more, htext, -⟩ := nextStart?_false_eq_some hstart
    exact head?_ne_brace htext (by decide)

/-- Behind the brace that opens an object there is a blank, a quote or the closing brace. -/
theorem Reads.exists_cons_members {depth : Nat} {es : List (String × Json)} {text rest : List Char}
    (h : Reads depth (.members true es) text rest) :
    ∃ c more, text = c :: more ∧ c ≠ '{' ∧ c ≠ '$' := by
  have hhead : ∃ x more, Json.dropBlanks text = x :: more ∧ x ≠ '{' ∧ x ≠ '$' := by
    cases h with
    | noMember htext => exact ⟨_, _, htext, by decide⟩
    | member hstart => exact ⟨_, _, Option.some.inj hstart, by decide⟩
  obtain ⟨x, more, htext, hx⟩ := hhead
  cases text with
  | nil => cases htext
  | cons c text =>
    refine ⟨c, text, rfl, ?_⟩
    by_cases hc : isBlank c
    · constructor <;> (rintro rfl; cases hc)
    · rw [Json.dropBlanks, List.dropWhile_cons, if_neg hc] at htext
      cases htext
      exact hx

variable {F : List Char → List Char}

theorem brace_not_mem_word : ∀ e ∈ words, '{' ∉ e.1 := by
  simp [words]

theorem mapText_word (f : String → String) : ∀ e ∈ words, e.2.mapText f = e.2 := by
  simp [words, mapText]

/-- The first character of a value is copied. -/
theorem Reads.map_head (hF : ActsInStrings F) {depth : Nat} {v : Json} {text rest more : List Char}
    {x : Char} (h : Reads depth (.value v) text rest) (htext : Json.dropBlanks text = x :: more) :
    F (x :: more) = x :: F more := by
  by_cases hx : x = '{'
  · subst hx
    cases h with
    | word hword htext' =>
      rename_i word
      have hbrace := brace_not_mem_word _ hword
      cases word with
      | nil => exact absurd (length_word_pos _ hword) (Nat.lt_irrefl 0)
      | cons y word =>
        cases htext.symm.trans htext'
        exact absurd (List.mem_cons_self ..) hbrace
    | number htext' hdigit =>
      cases htext'.symm.trans htext
      exact absurd hdigit (by decide)
    | negative htext' | string htext' | array htext' => cases htext'.symm.trans htext
    | object htext' hmembers =>
      cases htext'.symm.trans htext
      obtain ⟨c, more, rfl, hc, hc'⟩ := hmembers.exists_cons_members
      exact hF.brace c more hc hc'
  · exact hF.pass x more hx

/-- A number ends where it ended before. -/
theorem Numeral.map {α : Type} (hF : ActsInStrings F) {scan : Cursor → Scan (α × Cursor)} {a : α}
    {part rest : List Char} (h : Numeral scan a part rest) (hrest : rest.head? ≠ some '{') :
    Numeral scan a part (F rest) where
  numeric := h.numeric
  yields rest' offset hhead := h.yields rest' offset (hhead.trans (hF.head? hrest))

theorem Numeral.append {α : Type} (hF : ActsInStrings F) {scan : Cursor → Scan (α × Cursor)} {a : α}
    {part rest : List Char} (h : Numeral scan a part rest) : F (part ++ rest) = part ++ F rest :=
  hF.append (fun hbrace => absurd (h.numeric _ hbrace) (by decide)) rest

theorem Reads.map (hF : ActsInStrings F) {depth : Nat} {part : Part}
    {text rest : List Char} (h : Reads depth part text rest) (hrest : rest.head? ≠ some '{') :
    ∃ part', Reads depth part' (F text) (F rest) ∧ part.IsMapped (onStrings F) part' := by
  induction h with
  | @word depth text word rest v hword htext =>
    have hbrace := brace_not_mem_word _ hword
    cases word with
    | nil => exact absurd (length_word_pos _ hword) (Nat.lt_irrefl 0)
    | cons x word =>
      rw [List.cons_append] at htext
      have hx : F (x :: (word ++ rest)) = x :: F (word ++ rest) :=
        hF.pass _ _ fun h => hbrace (h ▸ List.mem_cons_self ..)
      have htext' := hF.dropBlanks htext hx
      rw [← hx, ← List.cons_append, hF.append hbrace] at htext'
      exact ⟨.value v, .word hword htext', fun _ => (mapText_word _ _ hword).symm⟩
  | @negative depth text part rest n htext hn =>
    have htext' := hF.dropBlanks htext (hF.pass _ _ (by decide))
    rw [hn.append hF] at htext'
    exact ⟨.value (.number n), .negative htext' (hn.map hF hrest), fun _ => rfl⟩
  | @number depth text part rest digit n htext hdigit hn =>
    have hdigit' : digit ≠ '{' := by
      rintro rfl
      cases hdigit
    have hdigits := hF.pass _ (part ++ rest) hdigit'
    have htext' := hF.dropBlanks htext hdigits
    rw [← hdigits, ← List.cons_append, hn.append hF] at htext'
    exact ⟨.value (.number n), .number htext' hdigit (hn.map hF hrest), fun _ => rfl⟩
  | @string depth text body chars rest htext hbody =>
    have htext' := hF.dropBlanks htext (hF.pass _ _ (by decide))
    refine ⟨.value (.string (.ofList (F chars))), .string htext' (hF.content _ _ _ hbody),
      fun _ => ?_⟩
    rw [mapText, onStrings, String.toList_ofList]
  | @array depth text body close rest vs htext h hclose ih =>
    obtain ⟨part', hreads, hpart⟩ := ih (head?_ne_brace hclose (by decide))
    have htext' := hF.dropBlanks htext (hF.pass _ _ (by decide))
    have hclose' := hF.dropBlanks hclose (hF.pass _ _ (by decide))
    cases part' with
    | items first vs' =>
      obtain ⟨rfl, hvs⟩ := hpart
      exact ⟨.value (.array vs'), .array htext' hreads hclose',
        fun hapart => congrArg Json.array (eq_mapItems hvs hapart)⟩
    | value | members => cases hpart
  | @object depth text body close rest es htext h hclose ih =>
    obtain ⟨part', hreads, hpart⟩ := ih (head?_ne_brace hclose (by decide))
    obtain ⟨c, more, rfl, hc, hc'⟩ := h.exists_cons_members
    have htext' := hF.dropBlanks htext (hF.brace c more hc hc')
    have hclose' := hF.dropBlanks hclose (hF.pass _ _ (by decide))
    cases part' with
    | members first es' =>
      obtain ⟨rfl, hes⟩ := hpart
      exact ⟨.value (ofMembers es'), .object htext' hreads hclose',
        fun hapart => ofMembers_eq_mapText hes hapart⟩
    | value | items => cases hpart
  | @noItem depth first text rest htext =>
    exact ⟨.items first [], .noItem (hF.dropBlanks htext (hF.pass _ _ (by decide))), rfl, .nil⟩
  | @item depth first text start behind rest v vs hstart hv hvs ihv ih =>
    obtain ⟨part₁, hreads₁, hpart₁⟩ := ihv hvs.head?_items
    obtain ⟨part₂, hreads₂, hpart₂⟩ := ih hrest
    obtain ⟨x, more, hhead, -⟩ := hv.exists_head
    obtain rfl : start = x :: more := (dropBlanks_nextStart hstart).symm.trans hhead
    have hx := hv.map_head hF hhead
    have hstart' := hF.nextStart? hstart hx
    rw [hx] at hreads₁
    cases part₁ with
    | value v' =>
      cases part₂ with
      | items first' vs' =>
        obtain ⟨rfl, hvs'⟩ := hpart₂
        exact ⟨.items first (v' :: vs'), .item hstart' hreads₁ hreads₂, rfl, .cons hpart₁ hvs'⟩
      | value | members => cases hpart₂
    | items | members => cases hpart₁
  | @noMember depth first text rest htext =>
    exact ⟨.members first [], .noMember (hF.dropBlanks htext (hF.pass _ _ (by decide))), rfl, .nil⟩
  | @member depth first text body name colon value behind rest v es hstart hname hcolon hv hes ihv
      ih =>
    obtain ⟨part₁, hreads₁, hpart₁⟩ := ihv hes.head?_members
    obtain ⟨part₂, hreads₂, hpart₂⟩ := ih hrest
    have hstart' := hF.nextStart? hstart (hF.pass _ _ (by decide))
    have hcolon' := hF.dropBlanks hcolon (hF.pass _ _ (by decide))
    cases part₁ with
    | value v' =>
      cases part₂ with
      | members first' es' =>
        obtain ⟨rfl, hes'⟩ := hpart₂
        refine ⟨.members first ((.ofList (F name), v') :: es'),
          .member hstart' (hF.content _ _ _ hname) hcolon' hreads₁ hreads₂, rfl,
          .cons ⟨?_, hpart₁⟩ hes'⟩
        rw [onStrings, String.toList_ofList]
      | value | items => cases hpart₂
    | items | members => cases hpart₁

/-- Reading a text to which a function that acts in strings has been applied gives the value with
that function applied to its strings and names. -/
theorem read_onStrings (hF : ActsInStrings F) {raw : String} {v : Json} (hread : read raw = .ok v)
    (hfree : hexFree raw.toList) (hapart : v.NamesApart (onStrings F)) :
    read (onStrings F raw) = .ok (v.mapText (onStrings F)) := by
  obtain ⟨rest, hreads, hrest⟩ := reads_of_read hread hfree
  have hhead : rest.head? ≠ some '{' := by
    rintro h
    obtain ⟨more, rfl⟩ := List.head?_eq_some_iff.1 h
    cases hrest
  obtain ⟨part', hreads', hpart⟩ := hreads.map hF hhead
  cases part' with
  | value v' =>
    rw [← hpart hapart]
    have hblanks : '{' ∉ rest := fun hmem =>
      absurd (List.dropWhile_eq_nil_iff.1 hrest '{' hmem) (by decide)
    have hsame : F rest = rest := by
      have happend := hF.append hblanks []
      rwa [hF.nil, List.append_nil] at happend
    rw [hsame] at hreads'
    refine read_of_reads ?_ hrest
    rw [onStrings, String.toList_ofList]
    exact hreads'
  | items | members => cases hpart

/-! ## Replacing a token -/

/-- What escapes stand for is a slash or cannot stand for itself. -/
theorem escaped?_eq_some {e c : Char} (h : escaped? e = some c) : c = '/' ∨ ¬ IsPlain c := by
  unfold escaped? at h
  split at h <;> cases h <;> simp [IsPlain]

namespace Content

variable {part chars text rest : List Char}

/-- Characters that are never escaped stand for themselves wherever they occur. -/
theorem of_append_chars (hpart : ∀ c ∈ part, c ≠ '/' ∧ IsPlain c)
    (h : Content (part ++ chars) text rest) :
    ∃ text', text = part ++ text' ∧ Content chars text' rest := by
  induction part generalizing text with
  | nil => exact ⟨text, rfl, h⟩
  | cons c part ih =>
    obtain ⟨hc, hpart⟩ := List.forall_mem_cons.1 hpart
    cases h with
    | plain _ h =>
      obtain ⟨text', rfl, h'⟩ := ih hpart h
      exact ⟨text', rfl, h'⟩
    | escape hescape _ =>
      rcases escaped?_eq_some hescape with hslash | hplain
      · exact absurd hslash hc.1
      · exact absurd hc.2 hplain
    | control hcontrol => exact absurd hc.2.2.2 (Nat.not_le.2 hcontrol)

theorem of_append_text (hpart : ∀ c ∈ part, IsPlain c) (h : Content chars (part ++ text) rest) :
    ∃ chars', chars = part ++ chars' ∧ Content chars' text rest := by
  induction part generalizing chars with
  | nil => exact ⟨chars, rfl, h⟩
  | cons c part ih =>
    obtain ⟨hc, hpart⟩ := List.forall_mem_cons.1 hpart
    generalize hwhole : c :: part ++ text = whole at h
    cases h with
    | close => exact absurd (List.cons.inj hwhole).1 hc.1
    | plain _ h =>
      obtain ⟨rfl, rfl⟩ := List.cons.inj hwhole
      obtain ⟨chars', rfl, h'⟩ := ih hpart h
      exact ⟨chars', rfl, h'⟩
    | escape | control => exact absurd (List.cons.inj hwhole).1 hc.2.1

theorem append (hpart : ∀ c ∈ part, IsPlain c) (h : Content chars text rest) :
    Content (part ++ chars) (part ++ text) rest := by
  induction part with
  | nil => exact h
  | cons c part ih =>
    obtain ⟨hc, hpart⟩ := List.forall_mem_cons.1 hpart
    exact .plain hc (ih hpart)

end Content

/-- A token and a value for it: the token begins as placeholders do and none of its characters is
ever escaped, and the value may stand in a string as it is. -/
structure IsReplacement (token value : List Char) : Prop where
  /-- The token begins with an opening brace and a dollar sign. -/
  opening : ∃ name, token = '{' :: '$' :: name
  /-- No escape stands for a character of the token. -/
  token : ∀ c ∈ token, c ≠ '/' ∧ IsPlain c
  /-- The value needs no escape. -/
  value : ∀ c ∈ value, IsPlain c

namespace IsReplacement

variable {token value : List Char}

theorem ne_nil (h : IsReplacement token value) : token ≠ [] := by
  obtain ⟨name, rfl⟩ := h.opening
  exact List.cons_ne_nil _ _

theorem replace_cons (h : IsReplacement token value) {c : Char} (hc : c ≠ '{') (text : List Char) :
    Text.replace token value (c :: text) = c :: Text.replace token value text := by
  obtain ⟨name, rfl⟩ := h.opening
  refine Text.replace_cons_of_not_prefix fun hprefix => ?_
  exact hc (List.cons_prefix_cons.1 hprefix).1.symm

/-- A string in which a token is replaced stands for what it stood for with the token replaced. -/
theorem content (h : IsReplacement token value) {chars text rest : List Char}
    (hcontent : Content chars text rest) :
    Content (Text.replace token value chars) (Text.replace token value text)
      (Text.replace token value rest) := by
  induction hn : text.length using Nat.strong_induction_on generalizing chars text with
  | h n ih =>
    subst hn
    cases hcontent with
    | close =>
      rw [h.replace_cons (by decide)]
      exact .close _
    | @escape c e chars text _ hescape hcontent =>
      have hc : c ≠ '{' := by
        rintro rfl
        rcases escaped?_eq_some hescape with hslash | hplain
        · exact absurd hslash (by decide)
        · exact hplain (by decide)
      have he : e ≠ '{' := by
        rintro rfl
        cases hescape
      rw [h.replace_cons hc, h.replace_cons (by decide), h.replace_cons he]
      have hlt : text.length < ('\\' :: e :: text).length := by
        simp only [List.length_cons]
        omega
      exact .escape hescape (ih _ hlt hcontent rfl)
    | @control c x y chars text _ hcontrol hx hy hcontent =>
      have hc : c ≠ '{' := by
        rintro rfl
        exact absurd hcontrol (by decide)
      have hdigit : ∀ {d : Char} {n : Nat}, Text.hexDigit? d = some n → d ≠ '{' := by
        rintro d n hd rfl
        cases hd
      rw [h.replace_cons hc, h.replace_cons (by decide), h.replace_cons (by decide),
        h.replace_cons (by decide), h.replace_cons (by decide), h.replace_cons (hdigit hx),
        h.replace_cons (hdigit hy)]
      have hlt : text.length < ('\\' :: 'u' :: '0' :: '0' :: x :: y :: text).length := by
        simp only [List.length_cons]
        omega
      exact .control hcontrol hx hy (ih _ hlt hcontent rfl)
    | @plain c chars text _ hc hcontent =>
      by_cases hprefix : token <+: c :: chars
      · obtain ⟨chars', hchars⟩ := hprefix
        obtain ⟨text', htext, hcontent'⟩ :=
          Content.of_append_chars h.token (hchars ▸ Content.plain hc hcontent)
        rw [← hchars, htext, Text.replace_append h.ne_nil, Text.replace_append h.ne_nil]
        have hlt : text'.length < (c :: text).length := by
          rw [htext, List.length_append]
          have hpos := List.length_pos_of_ne_nil h.ne_nil
          omega
        exact (ih _ hlt hcontent' rfl).append h.value
      · have hprefix' : ¬ token <+: c :: text := by
          rintro ⟨text', htext⟩
          obtain ⟨chars', hchars, -⟩ := Content.of_append_text (fun c hc => (h.token c hc).2)
            (htext ▸ Content.plain hc hcontent)
          exact hprefix ⟨chars', hchars.symm⟩
        rw [Text.replace_cons_of_not_prefix hprefix, Text.replace_cons_of_not_prefix hprefix']
        exact .plain hc (ih _ (by simp) hcontent rfl)

theorem actsInStrings (h : IsReplacement token value) :
    ActsInStrings (Text.replace token value) where
  nil := rfl
  pass _ text hc := h.replace_cons hc text
  brace c text _ hc := by
    obtain ⟨name, rfl⟩ := h.opening
    refine Text.replace_cons_of_not_prefix fun hprefix => ?_
    exact hc (List.cons_prefix_cons.1 (List.cons_prefix_cons.1 hprefix).2).1.symm
  content _ _ _ := h.content

end IsReplacement

end Json

namespace Bindings

/-- The values that are bound need no escape in a string. -/
def IsPlain (b : Bindings) : Prop :=
  ∀ p value, b.value? p = some value → Json.IsPlainText value

variable {b : Bindings}

theorem isReplacement_token (p : Placeholder) {value : List Char}
    (hvalue : ∀ c ∈ value, Json.IsPlain c) : Json.IsReplacement p.token.toList value where
  opening := by cases p <;> exact ⟨_, rfl⟩
  token := by cases p <;> exact List.forall_iff_forall_mem.1 (by decide)
  value := hvalue

theorem actsInStrings_replaceToken (hb : b.IsPlain) (p : Placeholder) :
    Json.ActsInStrings fun text => b.replaceToken text p := by
  unfold replaceToken
  cases hp : b.value? p with
  | none => exact .id
  | some value => exact (isReplacement_token p (hb p value hp)).actsInStrings

theorem actsInStrings_foldl (hb : b.IsPlain) (ps : List Placeholder) :
    Json.ActsInStrings fun text => ps.foldl b.replaceToken text := by
  induction ps with
  | nil => exact .id
  | cons p ps ih => exact ih.comp (actsInStrings_replaceToken hb p)

/-- Substituting in a document and reading it is reading it and substituting in its strings and
names. -/
theorem read_substitute (hb : b.IsPlain) {raw : String} {v : Json} (hread : Json.read raw = .ok v)
    (hfree : Json.hexFree raw.toList) (hapart : v.NamesApart b.substitute) :
    Json.read (b.substitute raw) = .ok (v.mapText b.substitute) :=
  Json.read_onStrings (actsInStrings_foldl hb Placeholder.all) hread hfree hapart

/-- A document with tokens in a name and in a string, with an escape and with braces beside them. -/
def tokenDocument : String :=
  "\x7b\"\x7b$service\x7d\": [\"a-\x7b$branch\x7d\\n\", 15], \"x\": \x7b\"\x7b$region\": \x7b\x7d\x7d\x7d"

/-- The value of the document before anything is replaced. -/
def tokenValue : Json :=
  .object [("x", .object [("\x7b$region", .object [])]),
    ("\x7b$service\x7d", .array [.string "a-\x7b$branch\x7d\n", .int 15])]

/-- Values for the tokens of the document. -/
def tokenBindings : Bindings := none |>.bind .service "shop" |>.bind .branch "dev"

/-- The names change their order, and the opening that is never closed stays. -/
theorem read_substitute_tokenDocument :
    tokenBindings.IsPlain ∧ Json.read tokenDocument = .ok tokenValue ∧
      Json.hexFree tokenDocument.toList ∧ tokenValue.NamesApart tokenBindings.substitute ∧
      Json.read (tokenBindings.substitute tokenDocument) =
        .ok (.object [("shop", .array [.string "a-dev\n", .int 15]),
          ("x", .object [("\x7b$region", .object [])])]) := by
  have hplain : tokenBindings.IsPlain := by
    intro p value hvalue
    cases p <;> cases hvalue <;> decide
  have hread : Json.read tokenDocument = .ok tokenValue := by cbv
  have hfree : Json.hexFree tokenDocument.toList := by decide
  have hapart : tokenValue.NamesApart tokenBindings.substitute := by
    have hx : tokenBindings.substitute "x" = "x" := by cbv
    have hservice : tokenBindings.substitute "\x7b$service\x7d" = "shop" := by cbv
    simp [tokenValue, Json.NamesApart, Json.MembersApart, Json.ItemsApart, hx, hservice, Json.int]
  refine ⟨hplain, hread, hfree, hapart, ?_⟩
  rw [read_substitute hplain hread hfree hapart]
  cbv

end Bindings

end ServicePlan
