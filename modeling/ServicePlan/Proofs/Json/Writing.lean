import ServicePlan.Json.Printer
import ServicePlan.Proofs.Json.Members
import ServicePlan.Proofs.Json.Reading

/-!
# What is written can be read back

A value without floating-point numbers is read back from its text, if its containers are not nested
too deep for the reader.  What is read has the members of all objects in the order of their names, in
whatever order they were written.

* `Number.IsInteger`, `Json.IsIntegral`: numbers that are read back as they are.
* `Json.nesting`, `Json.Fits`: how deep containers are nested, and what the reader bears.
* `Json.sorted`: the value with all members in order; a value in order is its own.
* `Json.reads_renderPretty`: the grammar finds the value in its text.
* `Json.read_pretty`: the reader reads the text back, whatever blanks stand behind it.
-/

namespace ServicePlan

/-- An integer of 64 bits, with or without a sign. -/
def Number.IsInteger : Number → Prop
  | .integer i => -9223372036854775808 ≤ i ∧ i ≤ 18446744073709551615
  | .float _ => False

namespace Json

open Decimal (natDigits)

mutual

/-- All numbers inside the value are integers. -/
def IsIntegral : Json → Prop
  | .number n => n.IsInteger
  | .array items => IntegralItems items
  | .object members => IntegralMembers members
  | _ => True

/-- All numbers inside the items are integers. -/
def IntegralItems : List Json → Prop
  | [] => True
  | v :: rest => IsIntegral v ∧ IntegralItems rest

/-- All numbers inside the values of the members are integers. -/
def IntegralMembers : List (String × Json) → Prop
  | [] => True
  | (_, v) :: rest => IsIntegral v ∧ IntegralMembers rest

end

mutual

/-- Number of containers that are nested in each other. -/
def nesting : Json → Nat
  | .array items => nestingItems items + 1
  | .object members => nestingMembers members + 1
  | _ => 0

/-- Number of containers that are nested in each other in the items. -/
def nestingItems : List Json → Nat
  | [] => 0
  | v :: rest => max (nesting v) (nestingItems rest)

/-- Number of containers that are nested in each other in the values of the members. -/
def nestingMembers : List (String × Json) → Nat
  | [] => 0
  | (_, v) :: rest => max (nesting v) (nestingMembers rest)

end

/-! ## Values that fit -/

/-- The value has no floating-point numbers, and at most `depth` containers are nested in it. -/
def Fits (depth : Nat) (v : Json) : Prop := v.IsIntegral ∧ v.nesting ≤ depth

theorem integralItems_iff {items : List Json} :
    IntegralItems items ↔ ∀ v ∈ items, v.IsIntegral := by
  induction items with
  | nil => simp [IntegralItems]
  | cons v rest ih => rw [IntegralItems, ih, List.forall_mem_cons]

theorem integralMembers_iff {members : List (String × Json)} :
    IntegralMembers members ↔ ∀ e ∈ members, e.2.IsIntegral := by
  induction members with
  | nil => simp [IntegralMembers]
  | cons e rest ih =>
    obtain ⟨name, v⟩ := e
    rw [IntegralMembers, ih, List.forall_mem_cons]

theorem nestingItems_le_iff {items : List Json} {depth : Nat} :
    nestingItems items ≤ depth ↔ ∀ v ∈ items, v.nesting ≤ depth := by
  induction items with
  | nil => simp [nestingItems]
  | cons v rest ih => rw [nestingItems, Nat.max_le, ih, List.forall_mem_cons]

theorem nestingMembers_le_iff {members : List (String × Json)} {depth : Nat} :
    nestingMembers members ≤ depth ↔ ∀ e ∈ members, e.2.nesting ≤ depth := by
  induction members with
  | nil => simp [nestingMembers]
  | cons e rest ih =>
    obtain ⟨name, v⟩ := e
    rw [nestingMembers, Nat.max_le, ih, List.forall_mem_cons]

theorem fits_string {depth : Nat} (s : String) : (string s).Fits depth := ⟨trivial, Nat.zero_le _⟩

theorem fits_array {depth : Nat} {items : List Json} (h : ∀ v ∈ items, v.Fits depth) :
    (array items).Fits (depth + 1) :=
  ⟨integralItems_iff.2 fun v hv => (h v hv).1,
    Nat.succ_le_succ (nestingItems_le_iff.2 fun v hv => (h v hv).2)⟩

theorem fits_object {depth : Nat} {members : List (String × Json)}
    (h : ∀ e ∈ members, e.2.Fits depth) : (object members).Fits (depth + 1) :=
  ⟨integralMembers_iff.2 fun e he => (h e he).1,
    Nat.succ_le_succ (nestingMembers_le_iff.2 fun e he => (h e he).2)⟩

theorem fits_strings {depth : Nat} (items : List String) : (strings items).Fits (depth + 1) :=
  fits_array (List.forall_mem_map.2 fun s _ => fits_string s)

theorem fits_ofTable_string {depth : Nat} (t : Table String) :
    (ofTable .string t).Fits (depth + 1) :=
  fits_object (List.forall_mem_map.2 fun e _ => fits_string e.2)

/-! ## Strings -/

theorem hexDigit?_hexDigit : ∀ n < 16, Text.hexDigit? (hexDigit n) = some n := by
  decide

/-- A character is read back from its escape. -/
theorem content_escapeChar (c : Char) {chars text rest : List Char} (h : Content chars text rest) :
    Content (c :: chars) (escapeChar c ++ text) rest := by
  unfold escapeChar
  -- the characters with an escape of one letter come first
  iterate 7
    split
    · subst_vars
      exact .escape rfl h
  split
  · rename_i hcontrol
    exact .control hcontrol (hexDigit?_hexDigit _ (by omega)) (hexDigit?_hexDigit _ (by omega)) h
  · rename_i hquote hslash _ _ _ _ _ hcontrol
    exact .plain ⟨hquote, hslash, Nat.le_of_not_lt hcontrol⟩ h

theorem content_flatMap_escapeChar (chars rest : List Char) :
    Content chars (chars.flatMap escapeChar ++ '"' :: rest) rest := by
  induction chars with
  | nil => exact .close rest
  | cons c chars ih =>
    rw [List.flatMap_cons, List.append_assoc]
    exact content_escapeChar c ih

/-- Behind the opening quote of a text its characters are read back. -/
theorem exists_content_renderString (s : String) (rest : List Char) :
    ∃ body, renderString s ++ rest = '"' :: body ∧ Content s.toList body rest := by
  refine ⟨s.toList.flatMap escapeChar ++ '"' :: rest, ?_, content_flatMap_escapeChar _ _⟩
  simp [renderString]

/-! ## Numbers -/

/-- No number goes on with the next character. -/
def Stops (rest : List Char) : Prop := ∀ c, rest.head? = some c → isNumeric c = false

theorem stops_cons {c : Char} {rest : List Char} (h : isNumeric c = false) :
    Stops (c :: rest) := by
  intro x hx
  cases hx
  exact h

theorem Stops.of_head {rest rest' : List Char} (h : Stops rest)
    (hhead : rest'.head? = rest.head?) : Stops rest' :=
  fun c hc => h c (hhead ▸ hc)

theorem Stops.run {digits rest : List Char} (h : Stops rest) (hdigits : ∀ c ∈ digits, c.isDigit) :
    Run digits rest :=
  ⟨hdigits, fun c hc => by
    have hnumeric := h c hc
    simp only [isNumeric, Bool.or_eq_false_iff] at hnumeric
    tauto⟩

theorem isDigit_of_mem_natDigits {n : Nat} : ∀ c ∈ natDigits n, c.isDigit :=
  fun _ hc => Nat.isDigit_of_mem_toDigits (by decide) (by decide) hc

/-- Only zero begins with a zero. -/
theorem eq_zero_of_natDigits {n : Nat} {digits : List Char} (h : natDigits n = '0' :: digits) :
    n = 0 := by
  induction n using Nat.strong_induction_on generalizing digits with
  | h n ih =>
    rw [natDigits, Nat.toDigits_eq_if (by decide)] at h
    split at h
    · rename_i hlt
      have hfirst : ∀ n < 10, n.digitChar = '0' → n = 0 := by decide
      exact hfirst n hlt (List.cons.inj h).1
    · -- the digits of the quotient begin with a zero as well, but it is not zero
      rename_i hge
      cases hmore : Nat.toDigits 10 (n / 10) with
      | nil => exact absurd hmore Nat.toDigits_ne_nil
      | cons d more =>
        rw [hmore] at h
        obtain ⟨rfl, -⟩ := List.cons.inj h
        have hzero := ih (n / 10) (by omega) hmore
        omega

theorem le_ofDigitChars (digits : List Char) (n : Nat) : n ≤ Nat.ofDigitChars 10 digits n := by
  induction digits generalizing n with
  | nil => simp
  | cons d digits ih =>
    rw [Nat.ofDigitChars_cons]
    have hrest := ih (10 * n + (d.toNat - '0'.toNat))
    omega

/-- Digits of a number that fits are all taken. -/
theorem absorb_eq {digits : List Char} {n taken : Nat}
    (h : Nat.ofDigitChars 10 digits n ≤ maxSignificand) :
    absorb n taken digits = (Nat.ofDigitChars 10 digits n, taken + digits.length) := by
  induction digits generalizing n taken with
  | nil => simp [absorb]
  | cons d digits ih =>
    rw [Nat.ofDigitChars_cons] at h ⊢
    have hvalue : n * 10 + digitValue d = 10 * n + (d.toNat - '0'.toNat) := by
      rw [digitValue, Nat.mul_comm]
      rfl
    have hle := le_ofDigitChars digits (10 * n + (d.toNat - '0'.toNat))
    rw [absorb, hvalue, if_pos (hle.trans h), ih h, List.length_cons, Nat.add_assoc,
      Nat.add_comm 1]

/-- Nothing that could belong to a number is behind its integer part. -/
theorem yields_readTail {negative : Bool} {n : Nat} {m : Number} {rest : List Char}
    (hm : wholeNumber negative n = some m) (hrest : Stops rest) (offset : Nat) :
    Yields (readTail negative n 0 ⟨rest, offset⟩) m rest := by
  have hpoint : rest.head? ≠ some '.' := fun h => absurd (hrest _ h) (by decide)
  have hletter : ¬ AtExponent rest := by
    rintro (h | h)
    · exact absurd (hrest _ h) (by decide)
    · exact absurd (hrest _ h) (by decide)
  refine ⟨offset, ?_⟩
  rw [readTail_whole negative n 0 hpoint hletter, readTail_whole_def]
  generalize wholeNumber = whole at hm ⊢
  simp only [hm, if_true]

theorem dropBlanks_of_isDigit {d : Char} {text : List Char} (h : d.isDigit) :
    dropBlanks (d :: text) = d :: text := by
  refine List.dropWhile_cons_of_neg fun hblank => ?_
  simp only [isBlank, Bool.or_eq_true, beq_iff_eq] at hblank
  rcases hblank with ((rfl | rfl) | rfl) | rfl <;> exact absurd h (by decide)

/-- A natural number that fits is read back from its digits. -/
theorem numeral_natDigits {negative : Bool} {n : Nat} {m : Number} {rest : List Char}
    (hn : n ≤ maxSignificand) (hm : wholeNumber negative n = some m) (hrest : Stops rest) :
    Numeral (readNumber negative) m (natDigits n) rest where
  numeric c hc := by
    simp only [isNumeric, isDigit_of_mem_natDigits c hc, Bool.true_or]
  yields rest' offset hhead := by
    have hstops := hrest.of_head hhead
    cases hdigits : natDigits n with
    | nil => exact absurd hdigits Nat.toDigits_ne_nil
    | cons d digits =>
      have hrun : Run (d :: digits) rest' := hstops.run (hdigits ▸ isDigit_of_mem_natDigits)
      by_cases hzero : d = '0'
      · subst hzero
        obtain rfl := eq_zero_of_natDigits hdigits
        obtain rfl : digits = [] := by
          rw [natDigits, Nat.toDigits_zero] at hdigits
          exact (List.cons.inj hdigits).2.symm
        rw [List.singleton_append, readNumber_zero negative hrun.stops]
        exact yields_readTail hm hstops _
      · have hvalue : Nat.ofDigitChars 10 (d :: digits) 0 = n := by
          rw [← hdigits]
          exact Nat.ofDigitChars_ten_toDigits
        rw [readNumber_run negative hzero offset hrun, absorb_eq (hvalue ▸ hn), hvalue,
          Nat.zero_add, Nat.sub_self]
        exact yields_readTail hm hstops _

/-- An integer of 64 bits is read back from its text. -/
theorem reads_renderNumber {depth : Nat} {n : Number} {rest : List Char} (hn : n.IsInteger)
    (hrest : Stops rest) :
    Reads depth (.value (.number n)) (renderNumber n ++ rest) rest := by
  cases n with
  | float x => exact absurd hn id
  | integer i =>
    obtain ⟨hleast, hmost⟩ := hn
    cases i with
    | ofNat n =>
      have hfits : n ≤ maxSignificand := Int.ofNat_le.1 hmost
      have hnumeral : Numeral (readNumber false) (.integer n) (natDigits n) rest :=
        numeral_natDigits hfits rfl hrest
      rw [renderNumber]
      cases hdigits : natDigits n with
      | nil => exact absurd hdigits Nat.toDigits_ne_nil
      | cons d digits =>
        rw [hdigits] at hnumeral
        have hdigit : d.isDigit := isDigit_of_mem_natDigits d (hdigits ▸ List.mem_cons_self ..)
        exact .number (dropBlanks_of_isDigit hdigit) hdigit hnumeral
    | negSucc n =>
      have hfits : n + 1 ≤ maxSignificand := by
        rw [maxSignificand]
        omega
      have hsign : ¬ (n + 1 = 0 ∨ maxNegative < n + 1) := by
        rw [maxNegative]
        omega
      refine .negative rfl (numeral_natDigits hfits ?_ hrest)
      rw [wholeNumber, if_pos rfl, if_neg hsign]
      rfl

/-! ## Blanks -/

theorem dropBlanks_newLine (level : Nat) (text : List Char) :
    dropBlanks (newLine level ++ text) = dropBlanks text := by
  refine List.dropWhile_append_of_pos fun c hc => ?_
  rcases List.mem_cons.1 hc with rfl | hc
  · rfl
  · rw [List.eq_of_mem_replicate hc]
    rfl

/-- What is read does not depend on the blanks in front of it. -/
theorem Reads.of_dropBlanks {depth : Nat} {v : Json} {text text' rest : List Char}
    (h : Reads depth (.value v) text rest) (heq : dropBlanks text' = dropBlanks text) :
    Reads depth (.value v) text' rest := by
  cases h with
  | word hword htext => exact .word hword (heq.trans htext)
  | negative htext hn => exact .negative (heq.trans htext) hn
  | number htext hdigit hn => exact .number (heq.trans htext) hdigit hn
  | string htext hbody => exact .string (heq.trans htext) hbody
  | array htext hitems hclose => exact .array (heq.trans htext) hitems hclose
  | object htext hmembers hclose => exact .object (heq.trans htext) hmembers hclose

/-! ## Values -/

/-- The value with the members of all objects in the order of their names. -/
def sorted (v : Json) : Json := v.mapText id

/-- The first item or member stands on a line of its own. -/
theorem nextStart?_newLine (level : Nat) (text : List Char) :
    nextStart? true (newLine level ++ text) = some (dropBlanks text) := by
  rw [nextStart?, if_pos rfl, dropBlanks_newLine]

/-- So does every other, behind a comma. -/
theorem nextStart?_comma (level : Nat) (text : List Char) :
    nextStart? false (',' :: (newLine level ++ text)) = some (dropBlanks text) := by
  have hcomma : dropBlanks (',' :: (newLine level ++ text)) = ',' :: (newLine level ++ text) := rfl
  rw [nextStart?, if_neg (by decide), hcomma]
  exact congrArg some (dropBlanks_newLine level text)

theorem stops_prettyItems (level : Nat) (items : List Json) (rest : List Char) :
    Stops (prettyItems level items ++ rest) := by
  cases items <;> exact stops_cons rfl

theorem stops_prettyMembers (level : Nat) (members : List (String × Json)) (rest : List Char) :
    Stops (prettyMembers level members ++ rest) := by
  cases members with
  | nil => exact stops_cons rfl
  | cons e members => exact stops_cons rfl

/-- A member is its name, a colon and its value. -/
theorem reads_member {first : Bool} {depth : Nat} {name : String} {v : Json}
    {members : List (String × Json)} {text value behind rest : List Char}
    (hstart : nextStart? first text = some (dropBlanks (renderString name ++ ':' :: ' ' :: value)))
    (hv : Reads depth (.value v) value behind)
    (hmembers : Reads depth (.members false members) behind rest) :
    Reads depth (.members first ((name, v) :: members)) text rest := by
  obtain ⟨body, hbody, hname⟩ := exists_content_renderString name (':' :: ' ' :: value)
  rw [hbody] at hstart
  have hvalue : Reads depth (.value v) (' ' :: value) behind := hv.of_dropBlanks rfl
  have hmember := Reads.member hstart hname rfl hvalue hmembers
  rwa [String.ofList_toList] at hmember

mutual

/-- A value is found in its text. -/
theorem reads_renderPretty (level depth : Nat) : ∀ (v : Json) (rest : List Char), v.IsIntegral →
    v.nesting ≤ depth → Stops rest →
    Reads depth (.value v.sorted) (renderPretty level v ++ rest) rest
  | .null, _, _, _, _ => .word (List.mem_cons_self ..) rfl
  | .bool true, _, _, _, _ => .word (List.mem_cons_of_mem _ (List.mem_cons_self ..)) rfl
  | .bool false, _, _, _, _ =>
    .word (List.mem_cons_of_mem _ (List.mem_cons_of_mem _ (List.mem_cons_self ..))) rfl
  | .number n, _, hn, _, hrest => reads_renderNumber hn hrest
  | .string s, rest, _, _, _ => by
    obtain ⟨body, htext, hbody⟩ := exists_content_renderString s rest
    have hreads : Reads depth (.value (.string (.ofList s.toList))) (renderString s ++ rest) rest :=
      .string (by rw [htext]; rfl) hbody
    rwa [String.ofList_toList] at hreads
  | .array [], rest, _, hdepth, _ => by
    cases depth with
    | zero => exact absurd hdepth (Nat.not_succ_le_zero _)
    | succ depth => exact .array rfl (.noItem rfl) rfl
  | .array (v :: items), rest, ⟨hv, hitems⟩, hdepth, _ => by
    cases depth with
    | zero => exact absurd hdepth (Nat.not_succ_le_zero _)
    | succ depth =>
      obtain ⟨hdepthv, hdepths⟩ := Nat.max_le.1 (Nat.le_of_succ_le_succ hdepth)
      have hfirst := reads_renderPretty (level + 1) depth v (prettyItems level items ++ rest) hv
        hdepthv (stops_prettyItems level items rest)
      have hothers := reads_prettyItems level depth items rest hitems hdepths
      refine .array ?_ (.item (nextStart?_newLine (level + 1) _)
        (hfirst.of_dropBlanks (dropBlanks_dropBlanks _)) hothers) (dropBlanks_newLine level _)
      simp only [renderPretty, List.cons_append, List.append_assoc]
      rfl
  | .object [], rest, _, hdepth, _ => by
    cases depth with
    | zero => exact absurd hdepth (Nat.not_succ_le_zero _)
    | succ depth => exact .object rfl (.noMember rfl) rfl
  | .object ((name, v) :: members), rest, ⟨hv, hmembers⟩, hdepth, _ => by
    cases depth with
    | zero => exact absurd hdepth (Nat.not_succ_le_zero _)
    | succ depth =>
      obtain ⟨hdepthv, hdepths⟩ := Nat.max_le.1 (Nat.le_of_succ_le_succ hdepth)
      have hfirst := reads_renderPretty (level + 1) depth v (prettyMembers level members ++ rest) hv
        hdepthv (stops_prettyMembers level members rest)
      have hothers := reads_prettyMembers level depth members rest hmembers hdepths
      refine .object ?_ (reads_member (nextStart?_newLine (level + 1) _) hfirst hothers)
        (dropBlanks_newLine level _)
      simp only [renderPretty, List.cons_append, List.append_assoc]
      rfl

/-- The items behind the first one are found in their text. -/
theorem reads_prettyItems (level depth : Nat) : ∀ (items : List Json) (rest : List Char),
    IntegralItems items → nestingItems items ≤ depth →
    Reads depth (.items false (mapItems id items)) (prettyItems level items ++ rest)
      (newLine level ++ ']' :: rest)
  | [], rest, _, _ => by
    rw [prettyItems, List.append_assoc]
    exact .noItem (dropBlanks_newLine level _)
  | v :: items, rest, ⟨hv, hitems⟩, hdepth => by
    obtain ⟨hdepthv, hdepths⟩ := Nat.max_le.1 hdepth
    have hfirst := reads_renderPretty (level + 1) depth v (prettyItems level items ++ rest) hv
      hdepthv (stops_prettyItems level items rest)
    have hothers := reads_prettyItems level depth items rest hitems hdepths
    simp only [prettyItems, List.cons_append, List.append_assoc]
    exact .item (nextStart?_comma (level + 1) _)
      (hfirst.of_dropBlanks (dropBlanks_dropBlanks _)) hothers

/-- The members behind the first one are found in their text. -/
theorem reads_prettyMembers (level depth : Nat) : ∀ (members : List (String × Json))
    (rest : List Char), IntegralMembers members → nestingMembers members ≤ depth →
    Reads depth (.members false (mapMembers id members)) (prettyMembers level members ++ rest)
      (newLine level ++ '}' :: rest)
  | [], rest, _, _ => by
    rw [prettyMembers, List.append_assoc]
    exact .noMember (dropBlanks_newLine level _)
  | (name, v) :: members, rest, ⟨hv, hmembers⟩, hdepth => by
    obtain ⟨hdepthv, hdepths⟩ := Nat.max_le.1 hdepth
    have hfirst := reads_renderPretty (level + 1) depth v (prettyMembers level members ++ rest) hv
      hdepthv (stops_prettyMembers level members rest)
    have hothers := reads_prettyMembers level depth members rest hmembers hdepths
    simp only [prettyMembers, List.cons_append, List.append_assoc]
    exact reads_member (nextStart?_comma (level + 1) _) hfirst hothers

end

/-- **Values are read back from their texts.**  The text of a value without floating-point numbers,
with any blanks behind it, is read as the value with all members in order, if its containers are not
nested too deep. -/
theorem read_pretty {v : Json} (hv : v.Fits maxDepth) (blanks : String)
    (hblanks : ∀ c ∈ blanks.toList, isBlank c) : read (v.pretty ++ blanks) = .ok v.sorted := by
  have hstops : Stops blanks.toList := by
    intro c hc
    have hblank := hblanks c (List.mem_of_head? hc)
    simp only [isBlank, Bool.or_eq_true, beq_iff_eq] at hblank
    rcases hblank with ((rfl | rfl) | rfl) | rfl <;> rfl
  have hreads : Reads maxDepth (.value v.sorted) (v.pretty ++ blanks).toList blanks.toList := by
    rw [pretty, String.toList_append, String.toList_ofList]
    exact reads_renderPretty 0 maxDepth v blanks.toList hv.1 hv.2 hstops
  exact read_of_reads hreads (List.dropWhile_eq_nil_iff.2 hblanks)

/-! ## Values in order -/

theorem ofMembers_of_pairwise {members : List (String × Json)}
    (h : members.Pairwise fun a b => a.1 < b.1) : ofMembers members = .object members := by
  rw [ofMembers_eq, Table.entries_ofList h]

mutual

/-- A value that is in order is not changed. -/
theorem sorted_of_ordered : ∀ v : Json, v.Ordered → v.sorted = v
  | .null, _ => rfl
  | .bool _, _ => rfl
  | .number _, _ => rfl
  | .string _, _ => rfl
  | .array items, h => congrArg Json.array (mapItems_of_ordered items h)
  | .object members, ⟨hascending, hmembers⟩ => by
    rw [sorted, mapText, mapMembers_of_ordered members hmembers]
    exact ofMembers_of_pairwise hascending

theorem mapItems_of_ordered : ∀ items : List Json, OrderedItems items → mapItems id items = items
  | [], _ => rfl
  | v :: items, ⟨hv, hitems⟩ => by
    rw [mapItems, mapItems_of_ordered items hitems]
    exact congrArg (· :: items) (sorted_of_ordered v hv)

theorem mapMembers_of_ordered : ∀ members : List (String × Json), OrderedMembers members →
    mapMembers id members = members
  | [], _ => rfl
  | (name, v) :: members, ⟨hv, hmembers⟩ => by
    rw [mapMembers, mapMembers_of_ordered members hmembers]
    exact congrArg (fun v => (name, v) :: members) (sorted_of_ordered v hv)

end

theorem ordered_strings (items : List String) : (strings items).Ordered :=
  orderedItems_iff.2 (List.forall_mem_map.2 fun _ _ => trivial)

theorem ordered_ofTable_string (t : Table String) : (ofTable .string t).Ordered :=
  ⟨List.pairwise_map.2 t.ascending, orderedMembers_iff.2 (List.forall_mem_map.2 fun _ _ => trivial)⟩

end Json

end ServicePlan
