import Mathlib.Data.List.Infix
import ServicePlan.Placeholder

/-!
# Texts in pieces

Substitution replaces one placeholder after another, each in the whole text.  A replacement could
make or destroy tokens of the placeholders that are still to come, by what it puts in or by what
comes to stand side by side.  If no token opens inside another and the values are inert, it does
not: the text is a sequence of single characters and of whole tokens, and a pass over the text acts
on each of these pieces alone.

* `OpeningsApart`: no token opens inside another.
* `Bindings.pass`: replacing all bound tokens in one pass from the left.
* `Piece`, `Piece.IsCut`: the pieces of a text; `Piece.exists_isCut` finds them.
* `Piece.fill`, `Piece.pass_text`: what becomes of a piece, and the pass piece by piece.
* `Bindings.Inert`, `Piece.isCut_fill`: values that leave pieces behind them.
-/

namespace ServicePlan

/-! ## Openings -/

/-- What every token begins with. -/
def opening : List Char := ['{', '$']

/-- A token that opens in the text and is closed in it has no further opening inside. -/
def OpeningsApart (text : List Char) : Prop :=
  ∀ s ∈ text.tails, opening <+: s → '}' ∈ s → ¬ opening <:+: (s.drop 2).takeWhile (· ≠ '}')

instance (text : List Char) : Decidable (OpeningsApart text) :=
  inferInstanceAs (Decidable (∀ s ∈ text.tails, opening <+: s → '}' ∈ s →
    ¬ opening <:+: (s.drop 2).takeWhile (· ≠ '}')))

theorem OpeningsApart.of_suffix {s text : List Char} (h : OpeningsApart text) (hs : s <:+ text) :
    OpeningsApart s := by
  intro t ht
  have htext : t <:+ text := ((List.mem_tails t s).1 ht).trans hs
  exact h t ((List.mem_tails t text).2 htext)

/-- A text begins with an opening that is closed somewhere behind it. -/
def Opens (text : List Char) : Prop := ∃ rest, text = '{' :: '$' :: rest ∧ '}' ∈ rest

/-- A closing brace ends what has none. -/
theorem takeWhile_closing {part : List Char} (h : '}' ∉ part) (rest : List Char) :
    (part ++ '}' :: rest).takeWhile (· ≠ '}') = part := by
  have hpart : ∀ c ∈ part, decide (c ≠ '}') = true := by
    intro c hc
    have hne : c ≠ '}' := fun heq => h (heq ▸ hc)
    exact decide_eq_true hne
  rw [List.takeWhile_append_of_pos hpart]
  simp

/-- What stands between the opening of a token and its end. -/
structure IsName (name : List Char) : Prop where
  /-- The token does not end earlier. -/
  closing : '}' ∉ name
  /-- No other token opens inside. -/
  opening : ¬ ServicePlan.opening <:+: name

/-- A text that opens begins with a token, if no token opens inside another. -/
theorem Opens.exists_name {text : List Char} (hopens : Opens text) (h : OpeningsApart text) :
    ∃ name after, text = '{' :: '$' :: (name ++ '}' :: after) ∧ IsName name := by
  obtain ⟨rest, rfl, hclose⟩ := hopens
  obtain ⟨name, after, rfl, hname⟩ := List.eq_append_cons_of_mem hclose
  refine ⟨name, after, rfl, hname, ?_⟩
  have hself : '{' :: '$' :: (name ++ '}' :: after) ∈
      ('{' :: '$' :: (name ++ '}' :: after)).tails :=
    (List.mem_tails _ _).2 (List.suffix_refl _)
  have hinside := h _ hself ⟨name ++ '}' :: after, rfl⟩ (by simp)
  rwa [List.drop_succ_cons, List.drop_succ_cons, List.drop_zero, takeWhile_closing hname]
    at hinside

namespace Placeholder

/-- A token is a name between an opening and a closing brace. -/
theorem exists_name (p : Placeholder) :
    ∃ name, p.token.toList = '{' :: '$' :: (name ++ ['}']) ∧ '}' ∉ name := by
  refine ⟨(p.token.toList.drop 2).dropLast, ?_⟩
  cases p <;> decide

theorem token_injective {p q : Placeholder} (h : p.token = q.token) : p = q := by
  revert h
  cases p <;> cases q <;> decide

/-- A text that begins with a token opens. -/
theorem opens_of_isPrefix {p : Placeholder} {text : List Char} (h : p.token.toList <+: text) :
    Opens text := by
  obtain ⟨name, htoken, -⟩ := p.exists_name
  obtain ⟨rest, rfl⟩ := h
  rw [htoken]
  exact ⟨name ++ ['}'] ++ rest, rfl, by simp⟩

/-- Where a name ends is where its closing brace is, so a text begins with one token only. -/
theorem token_eq_of_isPrefix {p : Placeholder} {name rest : List Char} (hname : '}' ∉ name)
    (h : p.token.toList <+: '{' :: '$' :: (name ++ '}' :: rest)) :
    p.token.toList = '{' :: '$' :: (name ++ ['}']) := by
  obtain ⟨own, htoken, hown⟩ := p.exists_name
  obtain ⟨behind, hbehind⟩ := h
  rw [htoken] at hbehind ⊢
  have hsame : own ++ '}' :: behind = name ++ '}' :: rest := by
    simpa using hbehind
  have hequal : own = name := by
    rw [← takeWhile_closing hown behind, hsame, takeWhile_closing hname]
  rw [hequal]

/-- A text begins with the token of one placeholder at most. -/
theorem eq_of_isPrefix {p q : Placeholder} {text : List Char} (hp : p.token.toList <+: text)
    (hq : q.token.toList <+: text) : p = q := by
  obtain ⟨name, htoken, hname⟩ := q.exists_name
  obtain ⟨rest, rfl⟩ := hq
  rw [htoken] at hp
  have hsame : p.token.toList = q.token.toList :=
    (token_eq_of_isPrefix hname (by simpa using hp)).trans htoken.symm
  exact token_injective (String.toList_injective hsame)

/-- The placeholder with whose token a text begins. -/
def at? (text : List Char) : Option Placeholder :=
  all.find? fun p => p.token.toList.isPrefixOf text

theorem at?_eq_some_iff {p : Placeholder} {text : List Char} :
    at? text = some p ↔ p.token.toList <+: text := by
  have hfound : ∀ q, at? text = some q → q.token.toList <+: text := by
    intro q hq
    rw [at?] at hq
    have hprefix := List.find?_some hq
    exact List.isPrefixOf_iff_prefix.1 hprefix
  constructor
  · exact hfound p
  · intro h
    cases hfind : at? text with
    | none =>
      have hnot := List.find?_eq_none.1 hfind p p.mem_all
      exact absurd (List.isPrefixOf_iff_prefix.2 h) hnot
    | some q => rw [eq_of_isPrefix (hfound q hfind) h]

/-- A text that does not open begins with no token. -/
theorem at?_of_not_opens {text : List Char} (h : ¬ Opens text) : at? text = none := by
  refine Option.eq_none_iff_forall_ne_some.2 fun p hp => h ?_
  exact opens_of_isPrefix (at?_eq_some_iff.1 hp)

/-- What stands behind a token does not matter. -/
theorem at?_token_append {name : List Char} (hname : '}' ∉ name) (rest : List Char) :
    at? ('{' :: '$' :: (name ++ '}' :: rest)) = at? ('{' :: '$' :: (name ++ ['}'])) := by
  refine Option.ext fun p => ?_
  rw [at?_eq_some_iff, at?_eq_some_iff]
  constructor
  · intro h
    rw [token_eq_of_isPrefix hname h]
  · intro h
    rw [token_eq_of_isPrefix hname h]
    exact ⟨rest, by simp⟩

end Placeholder

/-! ## One pass over a text -/

namespace Bindings

variable {b : Bindings}

/-- The bound token that a text begins with, and its value. -/
def tokenAt? (b : Bindings) (text : List Char) : Option (List Char × List Char) :=
  (Placeholder.at? text).bind fun p =>
    (b.value? p).map fun value => (p.token.toList, value.toList)

/-- Replaces the bound tokens behind the next `skip` characters, which belong to a token that has
been replaced already. -/
def passFrom (b : Bindings) : Nat → List Char → List Char
  | _, [] => []
  | skip + 1, _ :: rest => passFrom b skip rest
  | 0, c :: rest =>
    match b.tokenAt? (c :: rest) with
    | some (token, value) => value ++ passFrom b (token.length - 1) rest
    | .none => c :: passFrom b 0 rest

/-- Replaces all bound tokens in one pass from the left, and copies everything else. -/
def pass (b : Bindings) (text : List Char) : List Char := b.passFrom 0 text

/-- Skipping is dropping. -/
theorem passFrom_eq_drop (skip : Nat) (text : List Char) :
    b.passFrom skip text = b.pass (text.drop skip) := by
  induction text generalizing skip with
  | nil => cases skip <;> rfl
  | cons c rest ih =>
    cases skip with
    | zero => rfl
    | succ n => exact ih n

/-- What is no bound token is copied. -/
theorem pass_cons_of_tokenAt? {c : Char} {rest : List Char} (h : b.tokenAt? (c :: rest) = .none) :
    b.pass (c :: rest) = c :: b.pass rest := by
  rw [pass, passFrom, h]
  rfl

theorem pass_cons_of_not_opens {c : Char} {rest : List Char} (h : ¬ Opens (c :: rest)) :
    b.pass (c :: rest) = c :: b.pass rest := by
  refine pass_cons_of_tokenAt? ?_
  rw [tokenAt?, Placeholder.at?_of_not_opens h]
  rfl

/-- A bound token is replaced by its value. -/
theorem pass_token_append {p : Placeholder} {value : String} (hvalue : b.value? p = some value)
    (rest : List Char) : b.pass (p.token.toList ++ rest) = value.toList ++ b.pass rest := by
  have hat : b.tokenAt? (p.token.toList ++ rest) = some (p.token.toList, value.toList) := by
    rw [tokenAt?, Placeholder.at?_eq_some_iff.2 (List.prefix_append _ _), Option.bind_some, hvalue]
    rfl
  cases htoken : p.token.toList with
  | nil =>
    obtain ⟨name, hname, -⟩ := p.exists_name
    rw [htoken] at hname
    cases hname
  | cons c more =>
    rw [htoken] at hat
    rw [List.cons_append, pass, passFrom, ← List.cons_append, hat]
    show value.toList ++ b.passFrom more.length (more ++ rest) = _
    rw [passFrom_eq_drop, List.drop_left]

theorem tokenAt?_eq_some_iff {text token value : List Char} :
    b.tokenAt? text = some (token, value) ↔
      ∃ p v, b.value? p = some v ∧ p.token.toList <+: text ∧
        token = p.token.toList ∧ value = v.toList := by
  simp only [tokenAt?, Option.bind_eq_some_iff, Option.map_eq_some_iff, Prod.mk.injEq,
    Placeholder.at?_eq_some_iff]
  constructor
  · rintro ⟨p, hp, v, hv, rfl, rfl⟩
    exact ⟨p, v, hv, hp, rfl, rfl⟩
  · rintro ⟨p, v, hv, hp, rfl, rfl⟩
    exact ⟨p, hp, v, hv, rfl, rfl⟩

/-- Between the opening of a token and its end nothing is replaced. -/
theorem pass_name_append {name : List Char} (hname : ¬ opening <:+: name) (rest : List Char) :
    b.pass (name ++ '}' :: rest) = name ++ '}' :: b.pass rest := by
  induction name with
  | nil =>
    refine pass_cons_of_not_opens ?_
    rintro ⟨behind, heq, -⟩
    cases heq
  | cons c name ih =>
    have hmore : ¬ opening <:+: name := fun h => hname (h.trans (List.suffix_cons c name).isInfix)
    have hnot : ¬ Opens (c :: (name ++ '}' :: rest)) := by
      rintro ⟨behind, heq, -⟩
      obtain ⟨hc, hbehind⟩ := List.cons.inj heq
      cases name with
      | nil => cases hbehind
      | cons d name =>
        obtain ⟨hd, -⟩ := List.cons.inj hbehind
        rw [hc, hd] at hname
        exact hname (List.prefix_append opening name).isInfix
    rw [List.cons_append, pass_cons_of_not_opens hnot, ih hmore, List.cons_append]

end Bindings

/-! ## Pieces -/

/-- A piece of a text. -/
inductive Piece
  /-- A character that is copied. -/
  | plain (c : Char)
  /-- A token, bound or not. -/
  | token (name : List Char)

namespace Piece

/-- The characters of a piece. -/
def chars : Piece → List Char
  | plain c => [c]
  | token name => '{' :: '$' :: (name ++ ['}'])

/-- The text that consists of pieces. -/
def text (pieces : List Piece) : List Char := pieces.flatMap chars

@[simp] theorem text_nil : text [] = [] := rfl

@[simp] theorem text_cons (piece : Piece) (pieces : List Piece) :
    text (piece :: pieces) = piece.chars ++ text pieces := rfl

@[simp] theorem text_append (first second : List Piece) :
    text (first ++ second) = text first ++ text second :=
  List.flatMap_append

@[simp] theorem text_map_plain (chars : List Char) : text (chars.map plain) = chars := by
  induction chars with
  | nil => rfl
  | cons c rest ih => rw [List.map_cons, text_cons, ih]; rfl

/-- Pieces into which a text is cut as a scan from the left finds them: tokens are whole, and no
token begins with a single character. -/
inductive IsCut : List Piece → Prop
  /-- Nothing is cut into nothing. -/
  | nil : IsCut []
  /-- A character at which no token begins. -/
  | plain {c : Char} {pieces : List Piece} (hc : ¬ Opens (c :: text pieces)) (h : IsCut pieces) :
    IsCut (.plain c :: pieces)
  /-- A token. -/
  | token {name : List Char} {pieces : List Piece} (hname : IsName name) (h : IsCut pieces) :
    IsCut (.token name :: pieces)

/-- **Every text has its pieces,** if no token opens inside another. -/
theorem exists_isCut {chars : List Char} (h : OpeningsApart chars) :
    ∃ pieces, IsCut pieces ∧ text pieces = chars := by
  induction hn : chars.length using Nat.strong_induction_on generalizing chars with
  | h n ih =>
    subst hn
    by_cases hopens : Opens chars
    · obtain ⟨name, after, rfl, hname⟩ := hopens.exists_name h
      have hsuffix : after <:+ '{' :: '$' :: (name ++ '}' :: after) :=
        ⟨'{' :: '$' :: (name ++ ['}']), by simp⟩
      have hlt : after.length < ('{' :: '$' :: (name ++ '}' :: after)).length := by
        simp only [List.length_cons, List.length_append]
        omega
      obtain ⟨pieces, hcut, rfl⟩ := ih _ hlt (h.of_suffix hsuffix) rfl
      exact ⟨.token name :: pieces, .token hname hcut, by simp [Piece.chars]⟩
    · cases chars with
      | nil => exact ⟨[], .nil, rfl⟩
      | cons c rest =>
        have hlt : rest.length < (c :: rest).length := Nat.lt_succ_self _
        obtain ⟨pieces, hcut, rfl⟩ := ih _ hlt (h.of_suffix (List.suffix_cons c rest)) rfl
        exact ⟨.plain c :: pieces, .plain hopens hcut, rfl⟩

/-! ## Filling pieces -/

variable {b : Bindings} {pieces : List Piece}

/-- What a piece becomes: the characters of the value for a bound token, and else what it is. -/
def fill (b : Bindings) : Piece → List Piece
  | plain c => [plain c]
  | token name =>
    match b.tokenAt? (token name).chars with
    | some (_, value) => value.map plain
    | none => [token name]

/-- The pass goes piece by piece. -/
theorem pass_token_append {name : List Char} (hname : IsName name) (rest : List Char) :
    b.pass ((token name).chars ++ rest) = text (fill b (token name)) ++ b.pass rest := by
  have hchars : (token name).chars ++ rest = '{' :: '$' :: (name ++ '}' :: rest) := by
    simp [chars]
  rw [fill]
  cases htoken : b.tokenAt? (token name).chars with
  | some found =>
    obtain ⟨own, value⟩ := found
    obtain ⟨p, v, hv, hprefix, rfl, rfl⟩ := Bindings.tokenAt?_eq_some_iff.1 htoken
    have hsame : p.token.toList = (token name).chars :=
      Placeholder.token_eq_of_isPrefix hname.closing hprefix
    rw [← hsame, Bindings.pass_token_append hv, text_map_plain]
  | none =>
    have hnone : b.tokenAt? ('{' :: '$' :: (name ++ '}' :: rest)) = none := by
      rw [Bindings.tokenAt?, Placeholder.at?_token_append hname.closing]
      exact htoken
    have hdollar : ¬ Opens ('$' :: (name ++ '}' :: rest)) := by
      rintro ⟨behind, heq, -⟩
      cases heq
    rw [hchars, Bindings.pass_cons_of_tokenAt? hnone, Bindings.pass_cons_of_not_opens hdollar,
      Bindings.pass_name_append hname.opening]
    simp [chars]

/-- **The pass goes piece by piece:** it fills every piece on its own. -/
theorem pass_text (h : IsCut pieces) : b.pass (text pieces) = text (pieces.flatMap (fill b)) := by
  induction h with
  | nil => rfl
  | @plain c pieces hc _ ih =>
    rw [List.flatMap_cons, text_append, ← ih]
    exact Bindings.pass_cons_of_not_opens hc
  | token hname _ ih =>
    rw [List.flatMap_cons, text_append, ← ih, text_cons]
    exact pass_token_append hname _

end Piece

/-! ## Inert values -/

/-- The values are not empty, and they have no character that an opening or the end of a token
consists of. -/
def Bindings.Inert (b : Bindings) : Prop :=
  ∀ p value, b.value? p = some value →
    value.toList ≠ [] ∧ ∀ c ∈ value.toList, c ≠ '{' ∧ c ≠ '$' ∧ c ≠ '}'

namespace Piece

variable {b : Bindings} {pieces : List Piece}

/-- What a piece becomes under inert values is the piece itself, or characters of a value in the
place of a token. -/
theorem fill_cases (hb : b.Inert) (piece : Piece) :
    fill b piece = [piece] ∨ ∃ name value, piece = token name ∧ fill b piece = value.map plain ∧
      value ≠ [] ∧ ∀ c ∈ value, c ≠ '{' ∧ c ≠ '$' ∧ c ≠ '}' := by
  cases piece with
  | plain c => exact .inl rfl
  | token name =>
    cases htoken : b.tokenAt? (token name).chars with
    | none =>
      left
      rw [fill, htoken]
    | some found =>
      right
      obtain ⟨own, value⟩ := found
      obtain ⟨p, v, hv, -, rfl, rfl⟩ := Bindings.tokenAt?_eq_some_iff.1 htoken
      obtain ⟨hne, hchars⟩ := hb p v hv
      exact ⟨name, v.toList, rfl, by rw [fill, htoken], hne, hchars⟩

/-- No token is closed by a value. -/
theorem closing_mem_of_fill (hb : b.Inert) (h : '}' ∈ text (pieces.flatMap (fill b))) :
    '}' ∈ text pieces := by
  induction pieces with
  | nil => exact h
  | cons piece pieces ih =>
    rw [List.flatMap_cons, text_append, List.mem_append] at h
    rw [text_cons, List.mem_append]
    rcases h with h | h
    · left
      rcases fill_cases hb piece with hsame | ⟨name, value, rfl, hvalue, -, -⟩
      · rw [hsame] at h
        simpa using h
      · simp [chars]
    · exact .inr (ih h)

/-- What begins with a dollar sign after filling did so before. -/
theorem exists_cons_of_fill (hb : b.Inert) {rest : List Char}
    (h : text (pieces.flatMap (fill b)) = '$' :: rest) :
    ∃ more, pieces = plain '$' :: more ∧ rest = text (more.flatMap (fill b)) := by
  cases pieces with
  | nil => cases h
  | cons piece more =>
    rw [List.flatMap_cons, text_append] at h
    rcases fill_cases hb piece with hsame | ⟨name, value, rfl, hvalue, hne, hchars⟩
    · rw [hsame] at h
      cases piece with
      | plain c =>
        obtain ⟨hc, hrest⟩ := List.cons.inj h
        rw [hc]
        exact ⟨more, rfl, hrest.symm⟩
      | token name => cases h
    · cases value with
      | nil => exact absurd rfl hne
      | cons c value =>
        rw [hvalue, text_map_plain] at h
        obtain ⟨hc, -⟩ := List.cons.inj h
        exact absurd hc (hchars c (List.mem_cons_self ..)).2.1

/-- Characters of which none is an opening brace may stand before any pieces. -/
theorem IsCut.append_plain (h : IsCut pieces) {value : List Char} (hvalue : ∀ c ∈ value, c ≠ '{') :
    IsCut (value.map Piece.plain ++ pieces) := by
  induction value with
  | nil => exact h
  | cons c value ih =>
    obtain ⟨hc, hmore⟩ := List.forall_mem_cons.1 hvalue
    refine .plain ?_ (ih hmore)
    rintro ⟨rest, heq, -⟩
    exact hc (List.cons.inj heq).1

/-- **Filling leaves pieces:** inert values make no tokens and destroy none. -/
theorem isCut_fill (hb : b.Inert) (h : IsCut pieces) : IsCut (pieces.flatMap (fill b)) := by
  induction h with
  | nil => exact .nil
  | @plain c pieces hc _ ih =>
    refine .plain ?_ ih
    -- an opening that is there after filling was there before, and so was its end
    rintro ⟨rest, heq, hclose⟩
    obtain ⟨rfl, hrest⟩ := List.cons.inj heq
    obtain ⟨more, rfl, rfl⟩ := exists_cons_of_fill hb hrest
    exact hc ⟨text more, rfl, closing_mem_of_fill hb hclose⟩
  | @token name pieces hname _ ih =>
    rw [List.flatMap_cons]
    rcases fill_cases hb (token name) with hsame | ⟨_, value, -, hvalue, -, hchars⟩
    · rw [hsame]
      exact .token hname ih
    · rw [hvalue]
      exact ih.append_plain fun c hc => (hchars c hc).1

end Piece

end ServicePlan
