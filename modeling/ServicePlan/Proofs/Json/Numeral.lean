import Mathlib.Data.List.TakeWhile
import ServicePlan.Proofs.Json.Grammar

/-!
# How the JSON reader reads numbers

A number is read in steps, from its integer part over the fraction to the exponent.  No step looks
further than to the first character behind the number, and what stands behind that has no influence
on what is read.

* `Json.ReadsNumerals`: a scan that reads numbers in this way.
* `Json.exists_numeral_of_readNumber`: the reader of numbers does.
-/

namespace ServicePlan.Json

open Decimal (Binary64)

/-- Behind the same characters, rests with the same first character give the same first
character. -/
theorem head?_append_eq {rest rest' : List Char} (h : rest'.head? = rest.head?)
    (part : List Char) : (part ++ rest').head? = (part ++ rest).head? := by
  cases part with
  | nil => exact h
  | cons c part => rfl

/-! ## Runs of digits -/

/-- Digits up to a character that is none, or up to the end of the text. -/
structure Run (digits rest : List Char) : Prop where
  /-- They are digits. -/
  all : ∀ c ∈ digits, c.isDigit
  /-- There is no digit behind them. -/
  stops : ∀ c, rest.head? = some c → c.isDigit = false

/-- Every text begins with a run of digits, which may be empty. -/
theorem exists_run (text : List Char) : ∃ digits rest, text = digits ++ rest ∧ Run digits rest := by
  induction text with
  | nil => exact ⟨[], [], rfl, by simp, by simp⟩
  | cons c text ih =>
    by_cases hc : c.isDigit
    · obtain ⟨digits, rest, htext, hrun⟩ := ih
      refine ⟨c :: digits, rest, by rw [htext, List.cons_append], ?_, hrun.stops⟩
      exact List.forall_mem_cons.2 ⟨hc, hrun.all⟩
    · refine ⟨[], c :: text, rfl, by simp, fun x hx => ?_⟩
      cases hx
      exact Bool.eq_false_iff.2 hc

namespace Run

variable {digits rest rest' : List Char}

theorem of_head (h : Run digits rest) (hhead : rest'.head? = rest.head?) : Run digits rest' :=
  ⟨h.all, fun c hc => h.stops c (hhead ▸ hc)⟩

theorem takeWhile_eq (h : Run digits rest) : (digits ++ rest).takeWhile Char.isDigit = digits := by
  rw [List.takeWhile_append_of_pos h.all]
  cases rest with
  | nil => simp
  | cons c rest => simp [h.stops c rfl]

theorem dropWhile_eq (h : Run digits rest) : (digits ++ rest).dropWhile Char.isDigit = rest := by
  rw [List.dropWhile_append_of_pos h.all]
  cases rest with
  | nil => rfl
  | cons c rest => simp [h.stops c rfl]

theorem numeric (h : Run digits rest) : ∀ c ∈ digits, isNumeric c := fun c hc => by
  simp only [isNumeric, h.all c hc, Bool.true_or]

end Run

/-! ## Scans that read numbers -/

/-- A scan that reads numbers, each written with the characters of numbers. -/
def ReadsNumerals (scan : Cursor → Scan (Number × Cursor)) : Prop :=
  ∀ text offset n c, scan ⟨text, offset⟩ = .ok (n, c) →
    ∃ part, text = part ++ c.rest ∧ Numeral scan n part c.rest

/-- A scan that goes over some characters and then on with another one has read those characters
first. -/
theorem ReadsNumerals.append {scan next : Cursor → Scan (Number × Cursor)} {text : List Char}
    {offset : Nat} {n : Number} {c : Cursor} (hnext : ReadsNumerals next) (lead : List Char)
    (hlead : ∀ x ∈ lead, isNumeric x)
    (hscan : ∀ text' offset, text'.head? = text.head? →
      ∃ offset', scan ⟨lead ++ text', offset⟩ = next ⟨text', offset'⟩)
    (h : scan ⟨lead ++ text, offset⟩ = .ok (n, c)) :
    ∃ part, lead ++ text = lead ++ part ++ c.rest ∧ Numeral scan n (lead ++ part) c.rest := by
  obtain ⟨offset', heq⟩ := hscan text offset rfl
  rw [heq] at h
  obtain ⟨part, htext, hn⟩ := hnext text offset' n c h
  refine ⟨part, by rw [htext, List.append_assoc], ?_, fun rest' offset hhead => ?_⟩
  · intro x hx
    exact (List.mem_append.1 hx).elim (hlead x) (hn.numeric x)
  · have hsame : (part ++ rest').head? = text.head? := by
      rw [htext]
      exact head?_append_eq hhead part
    obtain ⟨offset', heq⟩ := hscan (part ++ rest') offset hsame
    rw [List.append_assoc, heq]
    exact hn.yields rest' offset' hhead

/-- A scan that goes over some characters and then on with another one. -/
theorem ReadsNumerals.behind {scan next : Cursor → Scan (Number × Cursor)} {text : List Char}
    {offset : Nat} {n : Number} {c : Cursor} (hnext : ReadsNumerals next) (lead : List Char)
    (hlead : ∀ x ∈ lead, isNumeric x)
    (hscan : ∀ text' offset, text'.head? = text.head? →
      ∃ offset', scan ⟨lead ++ text', offset⟩ = next ⟨text', offset'⟩)
    (h : scan ⟨lead ++ text, offset⟩ = .ok (n, c)) :
    ∃ part, lead ++ text = part ++ c.rest ∧ Numeral scan n part c.rest := by
  obtain ⟨part, hpart⟩ := hnext.append lead hlead hscan h
  exact ⟨lead ++ part, hpart⟩

/-- A scan that goes on as another one. -/
theorem ReadsNumerals.of_eq {scan next : Cursor → Scan (Number × Cursor)} {text : List Char}
    {offset : Nat} {n : Number} {c : Cursor} (hnext : ReadsNumerals next)
    (hscan : ∀ text' offset, text'.head? = text.head? →
      scan ⟨text', offset⟩ = next ⟨text', offset⟩) (h : scan ⟨text, offset⟩ = .ok (n, c)) :
    ∃ part, text = part ++ c.rest ∧ Numeral scan n part c.rest :=
  hnext.behind [] (by simp) (fun text' offset' hhead => ⟨offset', hscan text' offset' hhead⟩) h

/-- A scan that reads nothing more, whatever is left. -/
theorem readsNumerals_of_ends {scan : Cursor → Scan (Number × Cursor)}
    (h : ∀ c n d, scan c = .ok (n, d) → d = c ∧ ∀ c', scan c' = .ok (n, c')) :
    ReadsNumerals scan := by
  intro text offset n c hscan
  obtain ⟨rfl, hall⟩ := h _ n c hscan
  exact ⟨[], rfl, by simp, fun rest' offset' _ => ⟨offset', hall _⟩⟩

variable (negative : Bool) (significand : Nat) (exponent : Int)

/-- Stated for the function and not for its values, whose products the kernel would compute. -/
theorem floatAt_def : floatAt = fun negative significand exponent c =>
    match Binary64.ofScaled? negative significand exponent with
    | some x => .ok (.float x, c)
    | none => c.flawBefore .numberOutOfRange := by
  delta floatAt
  rfl

theorem readsNumerals_floatAt : ReadsNumerals (floatAt negative significand exponent) := by
  refine readsNumerals_of_ends fun c n d h => ?_
  rw [floatAt_def] at h ⊢
  generalize Binary64.ofScaled? = scaled at h ⊢
  dsimp only at h ⊢
  cases hx : scaled negative significand exponent with
  | some x =>
    rw [hx] at h
    cases h
    exact ⟨rfl, fun _ => rfl⟩
  | none =>
    rw [hx] at h
    cases h

/-- The digits of an exponent are read to their end. -/
theorem readExponentDigits_run (down : Bool) {digit : Char} {digits rest : List Char} (offset : Nat)
    (h : Run (digit :: digits) rest) :
    readExponentDigits negative significand exponent down ⟨digit :: digits ++ rest, offset⟩ =
      match exponentValue 0 0 (digit :: digits) with
      | .ok value =>
        floatAt negative significand (if down then exponent - value else exponent + value)
          ⟨rest, offset + (digit :: digits).length⟩
      | .error taken =>
        if significand ≠ 0 ∧ !down then .error (.numberOutOfRange, offset + taken)
        else .ok (.float (.zero negative), ⟨rest, offset + (digit :: digits).length⟩) := by
  have hdigit : digit.isDigit := h.all digit (List.mem_cons_self ..)
  have htake := h.takeWhile_eq
  have hdrop := h.dropWhile_eq
  rw [List.cons_append] at htake hdrop ⊢
  cases hvalue : exponentValue 0 0 (digit :: digits) <;>
    simp only [readExponentDigits, hdigit, if_true, htake, hdrop, hvalue]

theorem readsNumerals_readExponentDigits (down : Bool) :
    ReadsNumerals (readExponentDigits negative significand exponent down) := by
  intro text offset n c h
  obtain ⟨digits, rest, rfl, hrun⟩ := exists_run text
  cases digits with
  | nil =>
    -- without a digit there is no exponent
    simp only [readExponentDigits, List.nil_append] at h
    split at h
    · cases h
    · have hdigit := hrun.stops _ rfl
      rw [hdigit] at h
      cases h
  | cons digit digits =>
    cases hvalue : exponentValue 0 0 (digit :: digits) with
    | ok value =>
      refine (readsNumerals_floatAt negative significand
        (if down then exponent - value else exponent + value)).behind _ hrun.numeric ?_ h
      intro text' offset' hhead
      refine ⟨offset' + (digit :: digits).length, ?_⟩
      rw [readExponentDigits_run _ _ _ _ offset' (hrun.of_head hhead), hvalue]
    | error taken =>
      have hsmall : ¬ (significand ≠ 0 ∧ !down) := by
        intro hlarge
        rw [readExponentDigits_run _ _ _ _ offset hrun, hvalue] at h
        dsimp only at h
        rw [if_pos hlarge] at h
        cases h
      have hzero : ReadsNumerals fun c => .ok (.float (.zero negative), c) :=
        readsNumerals_of_ends fun _ _ _ h => by
          cases h
          exact ⟨rfl, fun _ => rfl⟩
      refine hzero.behind _ hrun.numeric ?_ h
      intro text' offset' hhead
      refine ⟨offset' + (digit :: digits).length, ?_⟩
      rw [readExponentDigits_run _ _ _ _ offset' (hrun.of_head hhead), hvalue]
      exact if_neg hsmall

/-- The letter of an exponent stands at the start of a text. -/
def AtExponent (text : List Char) : Prop := text.head? = some 'e' ∨ text.head? = some 'E'

theorem AtExponent.exists_cons {text : List Char} (h : AtExponent text) :
    ∃ x rest, text = x :: rest ∧ (x = 'e' ∨ x = 'E') := by
  rcases h with h | h
  · obtain ⟨rest, rfl⟩ := List.head?_eq_some_iff.1 h
    exact ⟨'e', rest, rfl, .inl rfl⟩
  · obtain ⟨rest, rfl⟩ := List.head?_eq_some_iff.1 h
    exact ⟨'E', rest, rfl, .inr rfl⟩

theorem readExponent_plus {x : Char} (hx : x = 'e' ∨ x = 'E') (text : List Char) (offset : Nat) :
    readExponent negative significand exponent ⟨x :: '+' :: text, offset⟩ =
      readExponentDigits negative significand exponent false ⟨text, offset + 2⟩ := by
  simp only [readExponent, hx, if_true]

theorem readExponent_minus {x : Char} (hx : x = 'e' ∨ x = 'E') (text : List Char) (offset : Nat) :
    readExponent negative significand exponent ⟨x :: '-' :: text, offset⟩ =
      readExponentDigits negative significand exponent true ⟨text, offset + 2⟩ := by
  simp only [readExponent, hx, if_true]

theorem readExponent_unsigned {x : Char} (hx : x = 'e' ∨ x = 'E') {text : List Char}
    (hplus : text.head? ≠ some '+') (hminus : text.head? ≠ some '-') (offset : Nat) :
    readExponent negative significand exponent ⟨x :: text, offset⟩ =
      readExponentDigits negative significand exponent false ⟨text, offset + 1⟩ := by
  simp only [readExponent, hx, if_true]
  split
  · exact absurd rfl hplus
  · exact absurd rfl hminus
  · rfl

theorem readExponent_of_not_atExponent {text : List Char} (h : ¬ AtExponent text) (offset : Nat) :
    readExponent negative significand exponent ⟨text, offset⟩ =
      floatAt negative significand exponent ⟨text, offset⟩ := by
  cases text with
  | nil => rfl
  | cons x rest =>
    have hx : ¬ (x = 'e' ∨ x = 'E') := by
      rintro (rfl | rfl)
      · exact h (.inl rfl)
      · exact h (.inr rfl)
    simp only [readExponent, hx, if_false]

theorem readsNumerals_readExponent :
    ReadsNumerals (readExponent negative significand exponent) := by
  intro text offset n c h
  by_cases hletter : AtExponent text
  · obtain ⟨x, rest, rfl, hx⟩ := hletter.exists_cons
    have hnumeric : isNumeric x := by
      rcases hx with rfl | rfl <;> rfl
    by_cases hplus : rest.head? = some '+'
    · obtain ⟨more, rfl⟩ := List.head?_eq_some_iff.1 hplus
      exact (readsNumerals_readExponentDigits negative significand exponent false).behind [x, '+']
        (List.forall_mem_cons.2 ⟨hnumeric, List.forall_mem_singleton.2 (by decide)⟩)
        (fun text' offset' _ =>
          ⟨_, readExponent_plus negative significand exponent hx text' offset'⟩) h
    by_cases hminus : rest.head? = some '-'
    · obtain ⟨more, rfl⟩ := List.head?_eq_some_iff.1 hminus
      exact (readsNumerals_readExponentDigits negative significand exponent true).behind [x, '-']
        (List.forall_mem_cons.2 ⟨hnumeric, List.forall_mem_singleton.2 (by decide)⟩)
        (fun text' offset' _ =>
          ⟨_, readExponent_minus negative significand exponent hx text' offset'⟩) h
    refine (readsNumerals_readExponentDigits negative significand exponent false).behind [x]
      (List.forall_mem_singleton.2 hnumeric) (fun text' offset' hhead => ⟨offset' + 1, ?_⟩) h
    rw [← hhead] at hplus hminus
    exact readExponent_unsigned negative significand exponent hx hplus hminus offset'
  · refine (readsNumerals_floatAt negative significand exponent).of_eq
      (fun text' offset' hhead => ?_) h
    refine readExponent_of_not_atExponent negative significand exponent ?_ offset'
    rwa [AtExponent, hhead]

theorem readFraction_run {digit : Char} {digits rest : List Char} (offset : Nat)
    (h : Run (digit :: digits) rest) :
    readFraction negative significand exponent ⟨digit :: digits ++ rest, offset⟩ =
      readExponent negative (absorb significand 0 (digit :: digits)).1
        (exponent - (absorb significand 0 (digit :: digits)).2)
        ⟨rest, offset + (digit :: digits).length⟩ := by
  simp only [readFraction, h.takeWhile_eq, h.dropWhile_eq]

theorem readsNumerals_readFraction :
    ReadsNumerals (readFraction negative significand exponent) := by
  intro text offset n c h
  obtain ⟨digits, rest, rfl, hrun⟩ := exists_run text
  cases digits with
  | nil =>
    -- without a digit there is no fraction
    cases rest with
    | nil => cases h
    | cons x rest =>
      simp only [readFraction, hrun.takeWhile_eq] at h
      cases h
  | cons digit digits =>
    exact (readsNumerals_readExponent negative _ _).behind _ hrun.numeric
      (fun text' offset' hhead =>
        ⟨_, readFraction_run negative significand exponent offset' (hrun.of_head hhead)⟩) h

/-- Stated for the function, as for `floatAt_def`. -/
theorem readTail_whole_def : readTail.whole =
    fun (negative : Bool) (significand exponent : Nat) (c : Cursor) =>
    if exponent = 0 then
      match wholeNumber negative significand with
      | some n => .ok (n, c)
      | none => c.flawBefore .numberOutOfRange
    else floatAt negative significand exponent c := by
  delta readTail.whole
  rfl

theorem readsNumerals_whole (places : Nat) :
    ReadsNumerals (readTail.whole negative significand places) := by
  by_cases hplaces : places = 0
  · refine readsNumerals_of_ends fun c n d h => ?_
    rw [readTail_whole_def] at h ⊢
    generalize wholeNumber = whole at h ⊢
    simp only [hplaces, if_true] at h ⊢
    cases hx : whole negative significand with
    | some x =>
      rw [hx] at h
      cases h
      exact ⟨rfl, fun _ => rfl⟩
    | none =>
      rw [hx] at h
      cases h
  · intro text offset n c h
    refine (readsNumerals_floatAt negative significand places).of_eq
      (fun text' offset' _ => ?_) h
    rw [readTail_whole_def]
    simp only [hplaces, if_false]

theorem readTail_fraction (places : Nat) (text : List Char) (offset : Nat) :
    readTail negative significand places ⟨'.' :: text, offset⟩ =
      readFraction negative significand places ⟨text, offset + 1⟩ := by
  simp only [readTail]

theorem readTail_exponent (places : Nat) {text : List Char} (h : AtExponent text) (offset : Nat) :
    readTail negative significand places ⟨text, offset⟩ =
      readExponent negative significand places ⟨text, offset⟩ := by
  obtain ⟨x, rest, rfl, hx⟩ := h.exists_cons
  rcases hx with rfl | rfl <;> simp [readTail]

theorem readTail_whole (places : Nat) {text : List Char} (hpoint : text.head? ≠ some '.')
    (h : ¬ AtExponent text) (offset : Nat) :
    readTail negative significand places ⟨text, offset⟩ =
      readTail.whole negative significand places ⟨text, offset⟩ := by
  cases text with
  | nil => simp only [readTail]
  | cons x rest =>
    have hx : ¬ (x = 'e' ∨ x = 'E') := by
      rintro (rfl | rfl)
      · exact h (.inl rfl)
      · exact h (.inr rfl)
    have hx' : x ≠ '.' := fun hx => hpoint (congrArg some hx)
    simp only [readTail, hx, if_false]

theorem readsNumerals_readTail (places : Nat) :
    ReadsNumerals (readTail negative significand places) := by
  intro text offset n c h
  by_cases hpoint : text.head? = some '.'
  · obtain ⟨rest, rfl⟩ := List.head?_eq_some_iff.1 hpoint
    exact (readsNumerals_readFraction negative significand places).behind ['.']
      (List.forall_mem_singleton.2 (by decide))
      (fun text' offset' _ => ⟨_, readTail_fraction negative significand places text' offset'⟩) h
  by_cases hletter : AtExponent text
  · refine (readsNumerals_readExponent negative significand places).of_eq
      (fun text' offset' hhead => ?_) h
    refine readTail_exponent negative significand places ?_ offset'
    rwa [AtExponent, hhead]
  · refine (readsNumerals_whole negative significand places).of_eq
      (fun text' offset' hhead => ?_) h
    refine readTail_whole negative significand places (hhead ▸ hpoint) ?_ offset'
    rwa [AtExponent, hhead]

theorem readNumber_zero {text : List Char} (h : ∀ d, text.head? = some d → d.isDigit = false)
    (offset : Nat) :
    readNumber negative ⟨'0' :: text, offset⟩ = readTail negative 0 0 ⟨text, offset + 1⟩ := by
  cases text with
  | nil => simp only [readNumber]
  | cons d rest => simp [readNumber, h d rfl]

theorem readNumber_run {digit : Char} {digits rest : List Char} (hdigit : digit ≠ '0')
    (offset : Nat) (h : Run (digit :: digits) rest) :
    readNumber negative ⟨digit :: digits ++ rest, offset⟩ =
      readTail negative (absorb 0 0 (digit :: digits)).1
        ((digit :: digits).length - (absorb 0 0 (digit :: digits)).2)
        ⟨rest, offset + (digit :: digits).length⟩ := by
  have htake := h.takeWhile_eq
  have hdrop := h.dropWhile_eq
  rw [List.cons_append] at htake hdrop ⊢
  simp [readNumber, h.all digit (List.mem_cons_self ..), htake, hdrop]

/-- A number begins with a digit. -/
theorem exists_numeral_of_readNumber {text : List Char} {offset : Nat} {n : Number} {c : Cursor}
    (h : readNumber negative ⟨text, offset⟩ = .ok (n, c)) :
    ∃ digit part, digit.isDigit ∧ text = digit :: part ++ c.rest ∧
      Numeral (readNumber negative) n (digit :: part) c.rest := by
  obtain ⟨digits, rest, rfl, hrun⟩ := exists_run text
  cases digits with
  | nil =>
    exfalso
    cases rest with
    | nil => cases h
    | cons x rest =>
      have hdigit := hrun.stops x rfl
      have hx : x ≠ '0' := by
        rintro rfl
        cases hdigit
      simp only [List.nil_append, readNumber, hdigit] at h
      cases h
  | cons digit digits =>
    have hdigit : digit.isDigit := hrun.all digit (List.mem_cons_self ..)
    by_cases hzero : digit = '0'
    · subst hzero
      cases digits with
      | nil =>
        obtain ⟨part, hpart⟩ := (readsNumerals_readTail negative 0 0).append ['0']
          (List.forall_mem_singleton.2 (by decide))
          (fun text' offset' hhead =>
            ⟨_, readNumber_zero negative (hhead ▸ hrun.stops) offset'⟩) h
        exact ⟨'0', part, hdigit, hpart⟩
      | cons d digits =>
        have hd : d.isDigit := hrun.all d (by simp)
        simp only [List.cons_append, readNumber, hd, if_true] at h
        cases h
    · obtain ⟨part, hpart⟩ := (readsNumerals_readTail negative _ _).append _ hrun.numeric
        (fun text' offset' hhead =>
          ⟨_, readNumber_run negative hzero offset' (hrun.of_head hhead)⟩) h
      exact ⟨digit, digits ++ part, hdigit, hpart⟩

end ServicePlan.Json
