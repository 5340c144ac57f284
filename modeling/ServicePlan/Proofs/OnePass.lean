import ServicePlan.Proofs.Pieces

/-!
# Substitution in one pass

Substitution replaces one placeholder after another.  On a text in pieces each replacement is a pass
that fills the tokens of its placeholder, and passes one after another fill what one pass with all
their bindings fills.  The search for tokens that are left finds the tokens among the pieces.

* `Bindings.replaceToken_eq_pass`, `Bindings.pass_pass`, `Bindings.foldl_replaceToken`: replacements
  one after another are one pass.
* `Piece.tokensFrom_text`, `Piece.filterMap_token?_fill`: the tokens of a text, and those that are
  left when it has been filled.
* `Bindings.substitute_eq_pass`: what substitution is.
-/

namespace ServicePlan

/-! ## Passes one after another -/

namespace Bindings

variable {b c : Bindings} {pieces : List Piece}

theorem ext_value? (h : ∀ p, b.value? p = c.value? p) : b = c := by
  cases b
  cases c
  exact congrArg Bindings.mk (funext h)

/-- The bindings of one set, and those of another one where the first has none. -/
def orElse (b c : Bindings) : Bindings := ⟨fun p => (b.value? p).or (c.value? p)⟩

/-- The bindings of some placeholders. -/
def among (b : Bindings) (ps : List Placeholder) : Bindings :=
  ⟨fun p => if p ∈ ps then b.value? p else .none⟩

theorem Inert.among (hb : b.Inert) (ps : List Placeholder) : (b.among ps).Inert := by
  intro p value hvalue
  simp only [Bindings.among] at hvalue
  split at hvalue
  · exact hb p value hvalue
  · cases hvalue

theorem among_of_forall_mem {ps : List Placeholder} (h : ∀ p, p ∈ ps) : b.among ps = b :=
  ext_value? fun p => if_pos (h p)

theorem among_concat (ps : List Placeholder) (p : Placeholder) :
    b.among (ps ++ [p]) = (b.among ps).orElse (b.among [p]) := by
  refine ext_value? fun q => ?_
  simp only [among, orElse, List.mem_append, List.mem_singleton]
  by_cases hq : q ∈ ps
  · simp only [hq, true_or, if_true]
    cases b.value? q <;> simp
  · simp [hq]

theorem tokenAt?_orElse (b c : Bindings) (text : List Char) :
    (b.orElse c).tokenAt? text = (b.tokenAt? text).or (c.tokenAt? text) := by
  simp only [tokenAt?, orElse]
  cases Placeholder.at? text with
  | none => rfl
  | some p => cases hp : b.value? p <;> simp [hp]

/-- Two passes one after another fill a piece as one pass with all bindings does. -/
theorem fill_orElse (b c : Bindings) (piece : Piece) :
    (Piece.fill b piece).flatMap (Piece.fill c) = Piece.fill (b.orElse c) piece := by
  cases piece with
  | plain x => rfl
  | token name =>
    have hplain : ∀ value : List Char,
        (value.map Piece.plain).flatMap (Piece.fill c) = value.map Piece.plain := by
      intro value
      rw [List.flatMap_map]
      exact List.map_eq_flatMap.symm
    simp only [Piece.fill, tokenAt?_orElse]
    cases hb : b.tokenAt? (Piece.token name).chars with
    | some found => simpa using hplain found.2
    | none => simp [Piece.fill]

/-- **Two passes are one,** if the first puts in inert values. -/
theorem pass_pass (hb : b.Inert) (h : Piece.IsCut pieces) :
    c.pass (b.pass (Piece.text pieces)) = (b.orElse c).pass (Piece.text pieces) := by
  rw [Piece.pass_text h, Piece.pass_text (Piece.isCut_fill hb h), Piece.pass_text h,
    List.flatMap_assoc]
  simp only [fill_orElse]

theorem tokenAt?_among_singleton (b : Bindings) (p : Placeholder) (text : List Char) :
    (b.among [p]).tokenAt? text =
      if p.token.toList <+: text then
        (b.value? p).map fun value => (p.token.toList, value.toList)
      else .none := by
  rw [tokenAt?]
  by_cases hp : p.token.toList <+: text
  · rw [if_pos hp, Placeholder.at?_eq_some_iff.2 hp]
    simp [among]
  · rw [if_neg hp]
    cases hat : Placeholder.at? text with
    | none => rfl
    | some q =>
      have hne : q ≠ p := by
        rintro rfl
        exact hp (Placeholder.at?_eq_some_iff.1 hat)
      simp [among, hne]

/-- A pass without any bindings copies the text. -/
theorem pass_of_forall_tokenAt? (h : ∀ text, b.tokenAt? text = .none) (text : List Char) :
    b.pass text = text := by
  induction text with
  | nil => rfl
  | cons x rest ih => rw [pass_cons_of_tokenAt? (h _), ih]

/-- Replacing the token of one placeholder is a pass. -/
theorem replaceToken_eq_pass (b : Bindings) (text : List Char) (p : Placeholder) :
    b.replaceToken text p = (b.among [p]).pass text := by
  rw [replaceToken]
  cases hp : b.value? p with
  | none =>
    refine (pass_of_forall_tokenAt? (fun text => ?_) text).symm
    rw [tokenAt?_among_singleton, hp]
    simp
  | some value =>
    have hskip : ∀ skip, Text.replaceFrom p.token.toList value.toList skip text =
        (b.among [p]).passFrom skip text := by
      induction text with
      | nil =>
        intro skip
        cases skip <;> rfl
      | cons c rest ih =>
        intro skip
        cases skip with
        | succ skip => exact ih skip
        | zero =>
          rw [Text.replaceFrom, passFrom, tokenAt?_among_singleton, hp]
          by_cases hprefix : p.token.toList <+: c :: rest
          · rw [if_pos (List.isPrefixOf_iff_prefix.2 hprefix), if_pos hprefix, ih]
            rfl
          · rw [if_neg (mt List.isPrefixOf_iff_prefix.1 hprefix), if_neg hprefix, ih]
    exact hskip 0

/-- **Replacing is one pass.**  Replacing the tokens of some placeholders one after another, in
whatever order, is one pass with the bindings of these placeholders. -/
theorem foldl_replaceToken (hb : b.Inert) (h : Piece.IsCut pieces) (ps : List Placeholder) :
    ps.foldl b.replaceToken (Piece.text pieces) = (b.among ps).pass (Piece.text pieces) := by
  induction ps using List.reverseRecOn with
  | nil =>
    refine (pass_of_forall_tokenAt? (fun text => ?_) _).symm
    simp [tokenAt?, among]
  | append_singleton ps p ih =>
    rw [List.foldl_append, ih, List.foldl_cons, List.foldl_nil, replaceToken_eq_pass,
      pass_pass (hb.among ps) h, among_concat]

end Bindings

/-! ## Tokens that are left -/

/-- Keeping some entries and adding new ones may change places. -/
theorem filter_appendNew {α : Type} [DecidableEq α] (q : α → Bool) (base fresh : List α) :
    (appendNew base fresh).filter q = appendNew (base.filter q) (fresh.filter q) := by
  induction fresh generalizing base with
  | nil => rfl
  | cons a fresh ih =>
    rw [appendNew_cons, ih]
    by_cases hq : q a = true
    · rw [List.filter_cons_of_pos hq, appendNew_cons]
      by_cases ha : a ∈ base
      · rw [if_pos ha, if_pos (List.mem_filter.2 ⟨ha, hq⟩)]
      · have hnot : a ∉ base.filter q := fun h => ha (List.mem_filter.1 h).1
        rw [if_neg ha, if_neg hnot, List.filter_append, List.filter_cons_of_pos hq, List.filter_nil]
    · rw [List.filter_cons_of_neg hq]
      by_cases ha : a ∈ base
      · rw [if_pos ha]
      · rw [if_neg ha, List.filter_append, List.filter_cons_of_neg hq, List.filter_nil,
          List.append_nil]

theorem tokensFrom_eq_drop (skip : Nat) (text : List Char) :
    tokensFrom skip text = tokensFrom 0 (text.drop skip) := by
  induction text generalizing skip with
  | nil => cases skip <;> rfl
  | cons c rest ih =>
    cases skip with
    | zero => rfl
    | succ skip => exact ih skip

namespace Piece

variable {b : Bindings} {pieces : List Piece}

/-- The token that a piece is. -/
def token? : Piece → Option (List Char)
  | plain _ => none
  | token name => some (token name).chars

theorem closing_mem_of_token? {piece : Piece} {t : List Char} (hmem : piece ∈ pieces)
    (h : piece.token? = some t) : '}' ∈ text pieces := by
  refine List.mem_flatMap.2 ⟨piece, hmem, ?_⟩
  cases piece with
  | plain c => cases h
  | token name => simp [chars]

/-- The tokens that the search finds are the tokens among the pieces. -/
theorem tokensFrom_text (h : IsCut pieces) :
    tokensFrom 0 (text pieces) = pieces.filterMap token? := by
  induction h with
  | nil => rfl
  | @plain c pieces hc _ ih =>
    have hskip : (plain c :: pieces).filterMap token? = pieces.filterMap token? := rfl
    show tokensFrom 0 (c :: text pieces) = _
    rw [hskip, tokensFrom]
    by_cases hopen : c = '{' ∧ (text pieces).head? = some '$'
    · rw [if_pos hopen]
      by_cases hclose : '}' ∈ text pieces
      · obtain ⟨rfl, hhead⟩ := hopen
        obtain ⟨rest, hrest⟩ := List.head?_eq_some_iff.1 hhead
        rw [hrest] at hclose hc
        exact absurd ⟨rest, rfl, by simpa using hclose⟩ hc
      · -- an opening that is never closed ends the search, and there are no tokens behind it
        rw [if_neg hclose]
        refine (List.filterMap_eq_nil_iff.2 fun piece hmem => ?_).symm
        refine Option.eq_none_iff_forall_ne_some.2 fun t ht => ?_
        exact hclose (closing_mem_of_token? hmem ht)
    · rw [if_neg hopen, ih]
  | @token name pieces hname _ ih =>
    have htext : text (token name :: pieces) =
        '{' :: ('$' :: name ++ '}' :: text pieces) := by
      simp [chars]
    have hbody : '}' ∉ '$' :: name := by
      simp [hname.closing]
    have hdrop : ('$' :: name ++ '}' :: text pieces).drop (('$' :: name).length + 1) =
        text pieces := by
      rw [List.drop_length_add_append]
      rfl
    rw [htext, tokensFrom, if_pos ⟨rfl, rfl⟩, if_pos (by simp)]
    simp only [takeWhile_closing hbody, tokensFrom_eq_drop (_ + 1), hdrop, ih]
    rfl

/-- Filling takes the bound tokens away and adds none. -/
theorem filterMap_token?_fill (b : Bindings) (pieces : List Piece) :
    (pieces.flatMap (fill b)).filterMap token? =
      (pieces.filterMap token?).filter fun t => (b.tokenAt? t).isNone := by
  have hplain : ∀ value : List Char, (value.map plain).filterMap token? = [] := by
    intro value
    rw [List.filterMap_map]
    exact List.filterMap_eq_nil_iff.2 fun _ _ => rfl
  induction pieces with
  | nil => rfl
  | cons piece pieces ih =>
    rw [List.flatMap_cons, List.filterMap_append, ih]
    cases piece with
    | plain c => rfl
    | token name =>
      have htoken : (token name :: pieces).filterMap token? =
          (token name).chars :: pieces.filterMap token? := rfl
      rw [htoken, fill]
      cases hat : b.tokenAt? (token name).chars with
      | none =>
        rw [List.filter_cons_of_pos (by rw [hat]; rfl)]
        rfl
      | some found =>
        rw [List.filter_cons_of_neg (by rw [hat]; simp)]
        simp only [hplain, List.nil_append]

theorem IsCut.isName (h : IsCut pieces) {name : List Char} (hmem : Piece.token name ∈ pieces) :
    IsName name := by
  induction h with
  | nil => cases hmem
  | plain _ _ ih =>
    rcases List.mem_cons.1 hmem with heq | hmem
    · cases heq
    · exact ih hmem
  | token hname _ ih =>
    rcases List.mem_cons.1 hmem with heq | hmem
    · cases heq
      exact hname
    · exact ih hmem

end Piece

/-! ## Substitution -/

namespace Bindings

variable {b : Bindings} {pieces : List Piece}

/-- A text is the token of a placeholder that is bound. -/
def Binds (b : Bindings) (token : String) : Prop :=
  ∃ p ∈ Placeholder.all, (b.value? p).isSome ∧ p.token = token

instance (b : Bindings) (token : String) : Decidable (b.Binds token) :=
  inferInstanceAs (Decidable (∃ p ∈ Placeholder.all, (b.value? p).isSome ∧ p.token = token))

theorem isNone_tokenAt?_iff {name : List Char} (hname : IsName name) :
    (b.tokenAt? (Piece.token name).chars).isNone ↔
      ¬ b.Binds (String.ofList (Piece.token name).chars) := by
  rw [Option.isNone_iff_eq_none, ← not_iff_not, not_not, ← ne_eq, Option.ne_none_iff_exists']
  constructor
  · rintro ⟨⟨own, value⟩, hfound⟩
    obtain ⟨p, v, hv, hprefix, -, -⟩ := tokenAt?_eq_some_iff.1 hfound
    have hsame : p.token.toList = (Piece.token name).chars :=
      Placeholder.token_eq_of_isPrefix hname.closing hprefix
    refine ⟨p, p.mem_all, by rw [hv]; rfl, ?_⟩
    rw [← hsame, String.ofList_toList]
  · rintro ⟨p, -, hsome, htoken⟩
    obtain ⟨v, hv⟩ := Option.isSome_iff_exists.1 hsome
    have hsame : p.token.toList = (Piece.token name).chars := by
      rw [htoken, String.toList_ofList]
    exact ⟨_, tokenAt?_eq_some_iff.2 ⟨p, v, hv, hsame ▸ List.prefix_refl _, rfl, rfl⟩⟩

/-- Substituting in pieces. -/
theorem substitute_text (hb : b.Inert) (h : Piece.IsCut pieces) :
    b.substitute (String.ofList (Piece.text pieces)) =
      String.ofList (Piece.text (pieces.flatMap (Piece.fill b))) := by
  rw [substitute, String.toList_ofList, foldl_replaceToken hb h,
    among_of_forall_mem Placeholder.mem_all, Piece.pass_text h]

/-- The tokens that are left in pieces. -/
theorem unresolved_text (h : Piece.IsCut pieces) : unresolved (String.ofList (Piece.text pieces)) =
    (appendNew [] (pieces.filterMap Piece.token?)).map String.ofList := by
  rw [unresolved, String.toList_ofList, Piece.tokensFrom_text h]

/-- After a substitution the tokens are left that are not bound. -/
theorem unresolved_fill (hb : b.Inert) (h : Piece.IsCut pieces) :
    unresolved (String.ofList (Piece.text (pieces.flatMap (Piece.fill b)))) =
      (unresolved (String.ofList (Piece.text pieces))).filter fun token => ¬ b.Binds token := by
  rw [unresolved_text (Piece.isCut_fill hb h), unresolved_text h, Piece.filterMap_token?_fill,
    List.filter_map, filter_appendNew, List.filter_nil]
  have hsame : ∀ t ∈ pieces.filterMap Piece.token?, (b.tokenAt? t).isNone =
      ((fun token => decide ¬ b.Binds token) ∘ String.ofList) t := by
    intro t ht
    obtain ⟨piece, hmem, htoken⟩ := List.mem_filterMap.1 ht
    cases piece with
    | plain c => cases htoken
    | token name =>
      cases htoken
      rw [Bool.eq_iff_iff, isNone_tokenAt?_iff (h.isName hmem)]
      simp
  rw [List.filter_congr hsame]

/-- **Substitution is one pass.**  If the values are inert and no token of the text opens inside
another, replacing one placeholder after another replaces each bound token where it stands and
copies everything else.  So the order of the placeholders does not matter, substituting again
changes nothing, and the tokens that are left are those of the text that are not bound. -/
theorem substitute_eq_pass (b : Bindings) (text : String) (hb : b.Inert)
    (htext : OpeningsApart text.toList) :
    b.substitute text = String.ofList (b.pass text.toList) ∧
      (∀ order : List Placeholder, order.Perm Placeholder.all →
        String.ofList (order.foldl b.replaceToken text.toList) = b.substitute text) ∧
      b.substitute (b.substitute text) = b.substitute text ∧
      unresolved (b.substitute text) =
        (unresolved text).filter fun token => ¬ b.Binds token := by
  obtain ⟨pieces, hcut, hpieces⟩ := Piece.exists_isCut htext
  obtain rfl : text = String.ofList (Piece.text pieces) := by
    rw [hpieces, String.ofList_toList]
  have hfilled := Piece.isCut_fill hb hcut
  have hpass : b.pass (Piece.text pieces) = Piece.text (pieces.flatMap (Piece.fill b)) :=
    Piece.pass_text hcut
  rw [substitute_text hb hcut, String.toList_ofList, hpass]
  refine ⟨rfl, fun order horder => ?_, ?_, unresolved_fill hb hcut⟩
  · have hall : ∀ p, p ∈ order := fun p => horder.mem_iff.2 p.mem_all
    rw [foldl_replaceToken hb hcut, among_of_forall_mem hall, hpass]
  · have htwice : b.orElse b = b := ext_value? fun p => Option.or_self
    rw [substitute_text hb hfilled, ← Piece.pass_text hfilled, ← hpass, pass_pass hb hcut, htwice]

/-- A text with tokens side by side and behind a brace, with one that is not bound, and with
openings that are never closed. -/
def crowdedText : String :=
  "a-\x7b\x7b$api\x7d\x7b$zone\x7d\x7b$branch\x7d$x\x7d-\x7b$api\x7d-\x7b$open-\x7b$late"

/-- Values for two of its tokens. -/
def crowdedBindings : Bindings := none |>.bind .api "shop-api" |>.bind .branch "dev"

/-- The brace before a value and the dollar sign behind one open nothing. -/
theorem substitute_crowdedText :
    crowdedBindings.Inert ∧ OpeningsApart crowdedText.toList ∧
      crowdedBindings.substitute crowdedText =
        "a-\x7bshop-api\x7b$zone\x7ddev$x\x7d-shop-api-\x7b$open-\x7b$late" ∧
      unresolved (crowdedBindings.substitute crowdedText) = ["\x7b$zone\x7d"] := by
  have hinert : crowdedBindings.Inert := by
    intro p value hvalue
    have hvalues : value.toList ≠ [] ∧
        value.toList.all (fun c => c ≠ '{' ∧ c ≠ '$' ∧ c ≠ '}') = true := by
      cases p <;> cases hvalue <;> decide
    exact ⟨hvalues.1, fun c hc => of_decide_eq_true (List.all_eq_true.1 hvalues.2 c hc)⟩
  have hapart : OpeningsApart crowdedText.toList := by decide +kernel
  obtain ⟨hpass, -, -, hleft⟩ := substitute_eq_pass crowdedBindings crowdedText hinert hapart
  refine ⟨hinert, hapart, ?_, ?_⟩
  · rw [hpass]
    decide +kernel
  · rw [hleft]
    decide +kernel

end Bindings

end ServicePlan
