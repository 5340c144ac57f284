import Mathlib.Data.List.DropRight
import ServicePlan.Proofs.Json.Numeral

/-!
# What the JSON reader reads

The reader and the grammar agree.  What the reader makes of a text without hexadecimal escapes is a
derivation of the grammar, and conversely the reader follows every derivation, however much fuel it
has beyond the length of the text.  So a statement about reading can be proved of derivations, where
there are no cursors and no fuel.

* `Json.content_of_readText`, `Json.yields_readText`: strings.
* `Json.nextItem_eq_some`, `Json.nextItem_of_start`, …: what stands between values.
* `Json.isSound`: what is read, with any fuel, is derived.
* `Json.isReadBy_of_reads`: what is derived is read, if the fuel covers the text.
* `Json.reads_of_read`, `Json.read_of_reads`: both directions for whole texts.
-/

namespace ServicePlan.Json

variable {α β ε : Type}

/-! ## Scans -/

/-- A computation that goes on has come through its first step. -/
theorem exists_of_bind_eq_ok {s : Except ε α} {next : α → Except ε β} {b : β}
    (h : s >>= next = .ok b) : ∃ a, s = .ok a ∧ next a = .ok b := by
  cases s with
  | ok a => exact ⟨a, rfl, h⟩
  | error f => cases h

theorem bind_eq_ok {s : Except ε α} {next : α → Except ε β} {a : α} {b : β} (hs : s = .ok a)
    (hnext : next a = .ok b) : s >>= next = .ok b := by
  rw [hs]
  exact hnext

theorem exists_bind_eq_ok_iff {s : Except ε α} {next : α → Except ε β} :
    (∃ b, s >>= next = .ok b) ↔ ∃ a, s = .ok a ∧ ∃ b, next a = .ok b := by
  constructor
  · rintro ⟨b, h⟩
    obtain ⟨a, hs, hnext⟩ := exists_of_bind_eq_ok h
    exact ⟨a, hs, b, hnext⟩
  · rintro ⟨a, hs, b, hnext⟩
    exact ⟨b, bind_eq_ok hs hnext⟩

theorem mapError_eq_ok_iff {ε' : Type} {f : ε → ε'} {s : Except ε α} {a : α} :
    s.mapError f = .ok a ↔ s = .ok a := by
  cases s <;> simp [Except.mapError]

/-- Blanks are stepped over wherever the text begins. -/
theorem skipBlanks_mk (text : List Char) (offset : Nat) :
    ∃ offset', Cursor.skipBlanks ⟨text, offset⟩ = ⟨dropBlanks text, offset'⟩ := by
  rw [Cursor.skipBlanks, dropBlanks]
  induction text generalizing offset with
  | nil => exact ⟨offset, rfl⟩
  | cons c rest ih =>
    rw [skipBlanksFrom, List.dropWhile_cons]
    by_cases hc : isBlank c
    · simp only [hc, if_true]
      exact ih (offset + 1)
    · simp only [hc]
      exact ⟨offset, rfl⟩

theorem rest_skipBlanks (c : Cursor) : c.skipBlanks.rest = dropBlanks c.rest := by
  obtain ⟨offset, h⟩ := skipBlanks_mk c.rest c.offset
  rw [h]

/-! ## Texts without hexadecimal escapes -/

theorem hexFree_cons {c : Char} (hc : c ≠ '\\') (rest : List Char) :
    hexFree (c :: rest) = hexFree rest := by
  cases rest with
  | nil => rfl
  | cons e rest => rw [hexFree, if_neg hc]

theorem hexFree_escape (e : Char) (rest : List Char) :
    hexFree ('\\' :: e :: rest) = (decide (e ≠ 'u') && hexFree rest) := by
  rw [hexFree, if_pos rfl]

theorem hexFree_append {part : List Char} (hpart : '\\' ∉ part) (rest : List Char) :
    hexFree (part ++ rest) = hexFree rest := by
  induction part with
  | nil => rfl
  | cons c part ih =>
    rw [List.mem_cons, not_or] at hpart
    rw [List.cons_append, hexFree_cons (Ne.symm hpart.1), ih hpart.2]

theorem hexFree_dropBlanks (text : List Char) : hexFree (dropBlanks text) = hexFree text := by
  induction text with
  | nil => rfl
  | cons c rest ih =>
    rw [dropBlanks, List.dropWhile_cons]
    split
    · rename_i hc
      have hslash : c ≠ '\\' := by
        rintro rfl
        cases hc
      rw [hexFree_cons hslash]
      exact ih
    · rfl

/-- What is left behind a character that is no backslash. -/
theorem hexFree_behind {text rest : List Char} {c : Char} (htext : dropBlanks text = c :: rest)
    (hc : c ≠ '\\') : hexFree rest = hexFree text := by
  rw [← hexFree_dropBlanks text, htext, hexFree_cons hc]

/-! ## Words -/

/-- A word is read letter by letter. -/
theorem readWord_eq_ok {value a : α} {word text : List Char} {offset : Nat} {c : Cursor}
    (h : readWord value word ⟨text, offset⟩ = .ok (a, c)) : a = value ∧ text = word ++ c.rest := by
  induction word generalizing text offset with
  | nil =>
    cases h
    exact ⟨rfl, rfl⟩
  | cons w word ih =>
    rw [readWord] at h
    split at h
    · cases h
    · rename_i x rest htext
      split at h
      · rename_i hx
        obtain ⟨ha, hrest⟩ := ih h
        exact ⟨ha, by rw [show text = x :: rest from htext, hx, hrest, List.cons_append]⟩
      · cases h

theorem yields_readWord (value : α) (word rest : List Char) (offset : Nat) :
    Yields (readWord value word ⟨word ++ rest, offset⟩) value rest := by
  induction word generalizing offset with
  | nil => exact ⟨offset, rfl⟩
  | cons w word ih =>
    rw [readWord]
    simp only [List.cons_append, if_true]
    exact ih _

/-! ## Strings -/

theorem readEscape_eq_ok {e y : Char} {rest : List Char} {offset : Nat} {c : Cursor}
    (he : e ≠ 'u') (h : readEscape ⟨e :: rest, offset⟩ = .ok (y, c)) :
    escaped? e = some y ∧ c.rest = rest := by
  simp only [readEscape] at h
  split at h <;> first
    | (cases h; exact ⟨rfl, rfl⟩)
    | exact absurd rfl he
    | cases h

theorem yields_readEscape {e y : Char} (h : escaped? e = some y) (rest : List Char) (offset : Nat) :
    Yields (readEscape ⟨e :: rest, offset⟩) y rest := by
  unfold escaped? at h
  split at h <;> first
    | (cases h; exact ⟨_, rfl⟩)
    | cases h

/-- Every character has at least one byte. -/
theorem length_le_byteLength (text : List Char) : text.length ≤ byteLength text := by
  suffices hgen : ∀ n, n + text.length ≤ text.foldl (fun n c => n + c.utf8Size) n by
    simpa [byteLength] using hgen 0
  induction text with
  | nil => exact fun n => Nat.le_refl n
  | cons c rest ih =>
    intro n
    have hrest := ih (n + c.utf8Size)
    have hpos := c.utf8Size_pos
    rw [List.length_cons, List.foldl_cons]
    omega

/-- The escape of a control character is read whole. -/
theorem yields_readEscape_control {c x y : Char} (hc : c.toNat < 32)
    (hx : Text.hexDigit? x = some (c.toNat / 16)) (hy : Text.hexDigit? y = some (c.toNat % 16))
    (rest : List Char) (offset : Nat) :
    Yields (readEscape ⟨'u' :: '0' :: '0' :: x :: y :: rest, offset⟩) c rest := by
  have hzero : Text.hexDigit? '0' = some 0 := by decide
  have hvalue : 0 * 4096 + 0 * 256 + c.toNat / 16 * 16 + c.toNat % 16 = c.toNat := by omega
  have hlength : ¬ byteLength ('0' :: '0' :: x :: y :: rest) < 4 := by
    have hle := length_le_byteLength ('0' :: '0' :: x :: y :: rest)
    simp only [List.length_cons] at hle
    omega
  refine ⟨offset + 'u'.utf8Size + 4, ?_⟩
  simp only [readEscape, Cursor.next, readUnicode]
  refine bind_eq_ok (a := (c.toNat, ⟨rest, offset + 'u'.utf8Size + 4⟩)) ?_ ?_
  · simp only [readHex, hlength, if_false, hzero, hx, hy, hvalue]
  · have hlow : ¬ (0xDC00 ≤ c.toNat ∧ c.toNat ≤ 0xDFFF) := by omega
    have hhigh : c.toNat < 0xD800 ∨ 0xDBFF < c.toNat := by omega
    simp only [hlow, hhigh, if_false, if_true, Char.ofNat_toNat]

/-- What the reader makes of a text behind a quote is its content. -/
theorem content_of_readChars {fuel offset : Nat} {text chars : List Char} {c : Cursor}
    (h : readChars fuel ⟨text, offset⟩ = .ok (chars, c)) (hfree : hexFree text) :
    Content chars text c.rest ∧ hexFree c.rest := by
  induction fuel generalizing text offset chars with
  | zero => cases h
  | succ fuel ih =>
    cases text with
    | nil => cases h
    | cons x rest =>
      simp only [readChars] at h
      split at h
      · rename_i hquote
        subst hquote
        cases h
        rw [hexFree_cons (by decide : '"' ≠ '\\')] at hfree
        exact ⟨.close _, hfree⟩
      · rename_i hquote
        split at h
        · rename_i hslash
          subst hslash
          obtain ⟨⟨y, c'⟩, hescape, h⟩ := exists_of_bind_eq_ok h
          obtain ⟨⟨ys, c''⟩, hrest, h⟩ := exists_of_bind_eq_ok h
          cases h
          cases rest with
          | nil => cases hescape
          | cons e rest =>
            rw [hexFree_escape, Bool.and_eq_true, decide_eq_true_eq] at hfree
            obtain ⟨he, hnext⟩ := readEscape_eq_ok hfree.1 hescape
            obtain ⟨text', offset'⟩ := c'
            subst hnext
            obtain ⟨hcontent, hfree'⟩ := ih hrest hfree.2
            exact ⟨.escape he hcontent, hfree'⟩
        · rename_i hslash
          split at h
          · cases h
          · rename_i hcontrol
            obtain ⟨⟨ys, c'⟩, hrest, h⟩ := exists_of_bind_eq_ok h
            cases h
            obtain ⟨hcontent, hfree'⟩ := ih hrest (hexFree_cons hslash rest ▸ hfree)
            exact ⟨.plain ⟨hquote, hslash, Nat.le_of_not_lt hcontrol⟩ hcontent, hfree'⟩

theorem yields_readChars {chars text rest : List Char} (h : Content chars text rest) {fuel : Nat}
    (hfuel : text.length < fuel) (offset : Nat) :
    Yields (readChars fuel ⟨text, offset⟩) chars rest := by
  induction fuel generalizing chars text offset with
  | zero => exact absurd hfuel (Nat.not_lt_zero _)
  | succ fuel ih =>
    cases h with
    | close rest => exact ⟨_, rfl⟩
    | @plain c chars text rest hc h =>
      have hlt : text.length < fuel := Nat.lt_of_succ_lt_succ hfuel
      obtain ⟨offset', hrest⟩ := ih h hlt (offset + c.utf8Size)
      refine ⟨offset', ?_⟩
      simp only [readChars, hc.1, hc.2.1, Nat.not_lt.2 hc.2.2, if_false]
      exact bind_eq_ok hrest rfl
    | @escape c e chars text rest hc h =>
      have hlt : text.length < fuel := by
        simp only [List.length_cons] at hfuel
        omega
      obtain ⟨offset₁, hescape⟩ := yields_readEscape hc text (offset + '\\'.utf8Size)
      obtain ⟨offset', hrest⟩ := ih h hlt offset₁
      refine ⟨offset', ?_⟩
      have hquote : '\\' ≠ '"' := by decide
      simp only [readChars, Cursor.next, hquote, if_false, if_true]
      exact bind_eq_ok hescape (bind_eq_ok hrest rfl)
    | @control c x y chars text rest hc hx hy h =>
      have hlt : text.length < fuel := by
        simp only [List.length_cons] at hfuel
        omega
      obtain ⟨offset₁, hescape⟩ :=
        yields_readEscape_control hc hx hy text (offset + '\\'.utf8Size)
      obtain ⟨offset', hrest⟩ := ih h hlt offset₁
      refine ⟨offset', ?_⟩
      have hquote : '\\' ≠ '"' := by decide
      simp only [readChars, Cursor.next, hquote, if_false, if_true]
      exact bind_eq_ok hescape (bind_eq_ok hrest rfl)

/-- The reader of strings reads their content. -/
theorem content_of_readText {text : List Char} {offset : Nat} {s : String} {c : Cursor}
    (h : readText ⟨text, offset⟩ = .ok (s, c)) (hfree : hexFree text) :
    ∃ chars, s = .ofList chars ∧ Content chars text c.rest ∧ hexFree c.rest := by
  obtain ⟨⟨chars, c'⟩, hchars, h⟩ := exists_of_bind_eq_ok h
  cases h
  exact ⟨chars, rfl, content_of_readChars hchars hfree⟩

theorem yields_readText {chars text rest : List Char} (h : Content chars text rest)
    (offset : Nat) : Yields (readText ⟨text, offset⟩) (.ofList chars) rest := by
  obtain ⟨offset', hchars⟩ := yields_readChars h (Nat.lt_succ_self text.length) offset
  exact ⟨offset', bind_eq_ok hchars rfl⟩

/-! ## Between values -/

theorem flawAt_ne_ok (c : Cursor) (f : Flaw) (a : α) : c.flawAt f ≠ .ok a := by
  unfold Cursor.flawAt
  split <;> simp

theorem nextItem_eq_none {first : Bool} {text : List Char} {offset : Nat}
    (h : nextItem first ⟨text, offset⟩ = .ok none) : ∃ rest, dropBlanks text = ']' :: rest := by
  obtain ⟨offset', hskip⟩ := skipBlanks_mk text offset
  simp only [nextItem, hskip] at h
  split at h
  · cases h
  · rename_i rest htext
    exact ⟨rest, htext⟩
  · split at h
    · cases h
    · split at h
      · cases h
      · exact absurd h (flawAt_ne_ok _ _ _)
      · cases h
  · split at h
    · cases h
    · exact absurd h (flawAt_ne_ok _ _ _)

theorem nextItem_eq_some {first : Bool} {text : List Char} {offset : Nat} {d : Cursor}
    (h : nextItem first ⟨text, offset⟩ = .ok (some d)) : nextStart? first text = some d.rest := by
  obtain ⟨offset', hskip⟩ := skipBlanks_mk text offset
  simp only [nextItem, hskip] at h
  split at h
  · cases h
  · cases h
  · rename_i rest htext
    split at h
    · rename_i hfirst
      cases h
      rw [nextStart?, if_pos hfirst]
    · rename_i hfirst
      rw [nextStart?, if_neg hfirst, show dropBlanks text = ',' :: rest from htext]
      split at h
      · cases h
      · exact absurd h (flawAt_ne_ok _ _ _)
      · cases h
        exact congrArg some (rest_skipBlanks ⟨rest, offset' + 1⟩).symm
  · split at h
    · rename_i hfirst
      cases h
      rw [nextStart?, if_pos hfirst]
    · exact absurd h (flawAt_ne_ok _ _ _)

theorem nextItem_of_bracket (first : Bool) {text rest : List Char}
    (h : dropBlanks text = ']' :: rest) (offset : Nat) :
    nextItem first ⟨text, offset⟩ = .ok none := by
  obtain ⟨offset', hskip⟩ := skipBlanks_mk text offset
  simp only [nextItem, hskip, h]

/-- A text behind a comma. -/
theorem nextStart?_false_eq_some {text start : List Char}
    (h : nextStart? false text = some start) :
    ∃ rest, dropBlanks text = ',' :: rest ∧ dropBlanks rest = start := by
  simp only [nextStart?, Bool.false_eq_true, if_false] at h
  split at h
  · rename_i rest htext
    exact ⟨rest, htext, Option.some.inj h⟩
  · cases h

theorem nextItem_of_start {first : Bool} {text rest : List Char} {x : Char} (hx : x ≠ ']')
    (h : nextStart? first text = some (x :: rest)) (offset : Nat) :
    ∃ offset', nextItem first ⟨text, offset⟩ = .ok (some ⟨x :: rest, offset'⟩) := by
  obtain ⟨offset', hskip⟩ := skipBlanks_mk text offset
  cases first with
  | true =>
    have htext : dropBlanks text = x :: rest := Option.some.inj h
    refine ⟨offset', ?_⟩
    simp only [nextItem, hskip, htext]
    split <;> simp_all
  | false =>
    obtain ⟨behind, htext, hstart⟩ := nextStart?_false_eq_some h
    obtain ⟨offset'', hskip'⟩ := skipBlanks_mk behind (offset' + 1)
    refine ⟨offset'', ?_⟩
    simp only [nextItem, hskip, htext, hskip', hstart]
    split <;> simp_all

theorem nextMember_eq_none {first : Bool} {text : List Char} {offset : Nat}
    (h : nextMember first ⟨text, offset⟩ = .ok none) : ∃ rest, dropBlanks text = '}' :: rest := by
  obtain ⟨offset', hskip⟩ := skipBlanks_mk text offset
  simp only [nextMember, hskip] at h
  split at h
  · cases h
  · rename_i rest htext
    exact ⟨rest, htext⟩
  · split at h
    · cases h
    · exact absurd h (flawAt_ne_ok _ _ _)
  · split at h
    · exact absurd h (flawAt_ne_ok _ _ _)
    · split at h
      · cases h
      · cases h
      · exact absurd h (flawAt_ne_ok _ _ _)
      · exact absurd h (flawAt_ne_ok _ _ _)
  · split at h <;> exact absurd h (flawAt_ne_ok _ _ _)

theorem nextMember_eq_some {first : Bool} {text : List Char} {offset : Nat} {d : Cursor}
    (h : nextMember first ⟨text, offset⟩ = .ok (some d)) :
    nextStart? first text = some ('"' :: d.rest) := by
  obtain ⟨offset', hskip⟩ := skipBlanks_mk text offset
  simp only [nextMember, hskip] at h
  split at h
  · cases h
  · cases h
  · rename_i rest htext
    split at h
    · rename_i hfirst
      cases h
      rw [nextStart?, if_pos hfirst]
      exact congrArg some htext
    · exact absurd h (flawAt_ne_ok _ _ _)
  · rename_i rest htext
    split at h
    · exact absurd h (flawAt_ne_ok _ _ _)
    · rename_i hfirst
      rw [nextStart?, if_neg hfirst, show dropBlanks text = ',' :: rest from htext]
      split at h
      · cases h
      · rename_i hrest
        cases h
        rw [rest_skipBlanks] at hrest
        exact congrArg some hrest
      · exact absurd h (flawAt_ne_ok _ _ _)
      · exact absurd h (flawAt_ne_ok _ _ _)
  · split at h <;> exact absurd h (flawAt_ne_ok _ _ _)

theorem nextMember_of_brace (first : Bool) {text rest : List Char}
    (h : dropBlanks text = '}' :: rest) (offset : Nat) :
    nextMember first ⟨text, offset⟩ = .ok none := by
  obtain ⟨offset', hskip⟩ := skipBlanks_mk text offset
  simp only [nextMember, hskip, h]

theorem nextMember_of_start {first : Bool} {text rest : List Char}
    (h : nextStart? first text = some ('"' :: rest)) (offset : Nat) :
    ∃ offset', nextMember first ⟨text, offset⟩ = .ok (some ⟨rest, offset'⟩) := by
  obtain ⟨offset', hskip⟩ := skipBlanks_mk text offset
  cases first with
  | true =>
    have htext : dropBlanks text = '"' :: rest := Option.some.inj h
    refine ⟨offset' + 1, ?_⟩
    simp only [nextMember, hskip, htext, if_true]
  | false =>
    obtain ⟨behind, htext, hstart⟩ := nextStart?_false_eq_some h
    obtain ⟨offset'', hskip'⟩ := skipBlanks_mk behind (offset' + 1)
    refine ⟨offset'' + 1, ?_⟩
    simp [nextMember, hskip, htext, hskip', hstart]

theorem readColon_eq_ok {text : List Char} {offset : Nat} {d : Cursor}
    (h : readColon ⟨text, offset⟩ = .ok d) : dropBlanks text = ':' :: d.rest := by
  obtain ⟨offset', hskip⟩ := skipBlanks_mk text offset
  simp only [readColon, hskip] at h
  split at h
  · cases h
  · rename_i htext
    cases h
    exact htext
  · exact absurd h (flawAt_ne_ok _ _ _)

theorem readColon_of_colon {text rest : List Char} (h : dropBlanks text = ':' :: rest)
    (offset : Nat) : ∃ offset', readColon ⟨text, offset⟩ = .ok ⟨rest, offset'⟩ := by
  obtain ⟨offset', hskip⟩ := skipBlanks_mk text offset
  refine ⟨offset' + 1, ?_⟩
  simp only [readColon, hskip, h]

theorem closeContainer_eq {text rest : List Char} {x : Char} (h : dropBlanks text = x :: rest)
    (offset : Nat) : ∃ offset', closeContainer ⟨text, offset⟩ = ⟨rest, offset'⟩ := by
  obtain ⟨offset', hskip⟩ := skipBlanks_mk text offset
  refine ⟨offset' + 1, ?_⟩
  simp only [closeContainer, hskip, h, List.drop_succ_cons, List.drop_zero]

theorem rest_closeContainer {c : Cursor} {rest : List Char} {x : Char}
    (h : dropBlanks c.rest = x :: rest) : (closeContainer c).rest = rest := by
  obtain ⟨offset, heq⟩ := closeContainer_eq h c.offset
  exact congrArg Cursor.rest heq

/-! ## Values -/

/-- The reader reads a part from one place to another. -/
def Part.IsReadBy (fuel depth : Nat) (c d : Cursor) : Part → Prop
  | .value v => readValue fuel depth c = .ok (v, d)
  | .items first vs => readItems fuel depth first c = .ok (vs, d)
  | .members first es => readMembers fuel depth first c = .ok (es, d)

/-- Behind the items stands the closing bracket, and behind the members the closing brace. -/
theorem Reads.closes {depth : Nat} {part : Part} {text rest : List Char}
    (h : Reads depth part text rest) :
    match part with
    | .value _ => True
    | .items _ _ => ∃ more, dropBlanks rest = ']' :: more
    | .members _ _ => ∃ more, dropBlanks rest = '}' :: more := by
  induction h with
  | word | negative | number | string | array | object => trivial
  | noItem htext => exact ⟨_, htext⟩
  | item _ _ _ _ ih => exact ih
  | noMember htext => exact ⟨_, htext⟩
  | member _ _ _ _ _ _ ih => exact ih

/-- What the reader reads with some fuel in a text without hexadecimal escapes is what the grammar
says. -/
def IsSound (fuel : Nat) : Prop :=
  ∀ (part : Part) (depth : Nat) (c d : Cursor), part.IsReadBy fuel depth c d → hexFree c.rest →
    Reads depth part c.rest d.rest ∧ hexFree d.rest

theorem hexFree_nextStart {first : Bool} {text start : List Char}
    (h : nextStart? first text = some start) : hexFree start = hexFree text := by
  cases first with
  | true =>
    obtain rfl : dropBlanks text = start := Option.some.inj h
    exact hexFree_dropBlanks text
  | false =>
    obtain ⟨rest, htext, rfl⟩ := nextStart?_false_eq_some h
    rw [hexFree_dropBlanks, hexFree_behind htext (by decide)]

theorem slash_not_mem_word : ∀ e ∈ words, '\\' ∉ e.1 := by
  simp [words]

/-- A word begins with its first letter. -/
theorem reads_word {depth : Nat} {x : Char} {word text behind : List Char} {v a : Json}
    {offset : Nat} {d : Cursor} (hword : (x :: word, v) ∈ words)
    (htext : dropBlanks text = x :: behind) (h : readWord v word ⟨behind, offset⟩ = .ok (a, d))
    (hfree : hexFree text) : Reads depth (.value a) text d.rest ∧ hexFree d.rest := by
  obtain ⟨rfl, rfl⟩ := readWord_eq_ok h
  refine ⟨.word hword htext, ?_⟩
  rwa [← hexFree_dropBlanks, htext, ← List.cons_append,
    hexFree_append (slash_not_mem_word _ hword)] at hfree

/-- Numbers have no escapes. -/
theorem Numeral.hexFree_append {scan : Cursor → Scan (α × Cursor)} {a : α} {part rest : List Char}
    (h : Numeral scan a part rest) : hexFree (part ++ rest) = hexFree rest := by
  refine Json.hexFree_append (fun hslash => ?_) rest
  exact absurd (h.numeric _ hslash) (by decide)

theorem IsSound.value {fuel depth : Nat} (ih : IsSound fuel) {text : List Char} {offset : Nat}
    {v : Json} {d : Cursor} (h : readValue (fuel + 1) depth ⟨text, offset⟩ = .ok (v, d))
    (hfree : hexFree text) : Reads depth (.value v) text d.rest ∧ hexFree d.rest := by
  obtain ⟨offset', hskip⟩ := skipBlanks_mk text offset
  simp only [readValue, hskip] at h
  split at h
  · cases h
  · rename_i x rest htext
    have hbehind : x ≠ '\\' → hexFree rest := fun hx => by rwa [hexFree_behind htext hx]
    split at h
    · exact reads_word (by simp [words]) htext h hfree
    · exact reads_word (by simp [words]) htext h hfree
    · exact reads_word (by simp [words]) htext h hfree
    · -- a minus sign
      obtain ⟨⟨n, c⟩, hn, h⟩ := exists_of_bind_eq_ok h
      cases h
      obtain ⟨digit, part, -, rfl, hnumeral⟩ := exists_numeral_of_readNumber true hn
      exact ⟨.negative htext hnumeral, hnumeral.hexFree_append ▸ hbehind (by decide)⟩
    · -- a quote
      obtain ⟨⟨s, c⟩, hs, h⟩ := exists_of_bind_eq_ok h
      cases h
      obtain ⟨chars, rfl, hchars, hfree'⟩ := content_of_readText hs (hbehind (by decide))
      exact ⟨.string htext hchars, hfree'⟩
    · -- an opening bracket
      cases depth with
      | zero => exact absurd h (flawAt_ne_ok _ _ _)
      | succ depth =>
        obtain ⟨⟨vs, c⟩, hitems, h⟩ := exists_of_bind_eq_ok h
        cases h
        obtain ⟨hreads, hfree'⟩ := ih (.items true vs) depth _ _ hitems (hbehind (by decide))
        obtain ⟨more, hclose⟩ := hreads.closes
        rw [rest_closeContainer hclose, hexFree_behind hclose (by decide)]
        exact ⟨.array htext hreads hclose, hfree'⟩
    · -- an opening brace
      cases depth with
      | zero => exact absurd h (flawAt_ne_ok _ _ _)
      | succ depth =>
        obtain ⟨⟨es, c⟩, hmembers, h⟩ := exists_of_bind_eq_ok h
        cases h
        obtain ⟨hreads, hfree'⟩ := ih (.members true es) depth _ _ hmembers (hbehind (by decide))
        obtain ⟨more, hclose⟩ := hreads.closes
        rw [rest_closeContainer hclose, hexFree_behind hclose (by decide)]
        exact ⟨.object htext hreads hclose, hfree'⟩
    · split at h
      · -- a digit
        obtain ⟨⟨n, c⟩, hn, h⟩ := exists_of_bind_eq_ok h
        cases h
        obtain ⟨digit, part, hdigit, hpart, hn⟩ := exists_numeral_of_readNumber false hn
        refine ⟨.number hpart hdigit hn, ?_⟩
        rwa [← hn.hexFree_append, ← hpart, hexFree_dropBlanks]
      · exact absurd h (flawAt_ne_ok _ _ _)

theorem IsSound.items {fuel depth : Nat} (ih : IsSound fuel) {first : Bool} {text : List Char}
    {offset : Nat} {vs : List Json} {d : Cursor}
    (h : readItems (fuel + 1) depth first ⟨text, offset⟩ = .ok (vs, d)) (hfree : hexFree text) :
    Reads depth (.items first vs) text d.rest ∧ hexFree d.rest := by
  obtain ⟨next, hnext, h⟩ := exists_of_bind_eq_ok h
  cases next with
  | none =>
    cases h
    obtain ⟨rest, hrest⟩ := nextItem_eq_none hnext
    exact ⟨.noItem hrest, hfree⟩
  | some start =>
    obtain ⟨⟨v, c₁⟩, hvalue, h⟩ := exists_of_bind_eq_ok h
    obtain ⟨⟨vs, c₂⟩, hitems, h⟩ := exists_of_bind_eq_ok h
    cases h
    have hstart := nextItem_eq_some hnext
    obtain ⟨hv, hfree₁⟩ := ih (.value v) _ _ _ hvalue ((hexFree_nextStart hstart).trans hfree)
    obtain ⟨hvs, hfree₂⟩ := ih (.items false vs) _ _ _ hitems hfree₁
    exact ⟨.item hstart hv hvs, hfree₂⟩

theorem IsSound.members {fuel depth : Nat} (ih : IsSound fuel) {first : Bool} {text : List Char}
    {offset : Nat} {es : List (String × Json)} {d : Cursor}
    (h : readMembers (fuel + 1) depth first ⟨text, offset⟩ = .ok (es, d)) (hfree : hexFree text) :
    Reads depth (.members first es) text d.rest ∧ hexFree d.rest := by
  obtain ⟨next, hnext, h⟩ := exists_of_bind_eq_ok h
  cases next with
  | none =>
    cases h
    obtain ⟨rest, hrest⟩ := nextMember_eq_none hnext
    exact ⟨.noMember hrest, hfree⟩
  | some start =>
    obtain ⟨⟨k, c₁⟩, hname, h⟩ := exists_of_bind_eq_ok h
    obtain ⟨c₂, hcolon, h⟩ := exists_of_bind_eq_ok h
    obtain ⟨⟨v, c₃⟩, hvalue, h⟩ := exists_of_bind_eq_ok h
    obtain ⟨⟨es, c₄⟩, hmembers, h⟩ := exists_of_bind_eq_ok h
    cases h
    have hstart := nextMember_eq_some hnext
    have hfree₁ : hexFree start.rest := by
      rwa [← hexFree_nextStart hstart, hexFree_cons (by decide)] at hfree
    obtain ⟨chars, rfl, hchars, hfree₂⟩ := content_of_readText hname hfree₁
    have hcolon := readColon_eq_ok hcolon
    have hfree₃ : hexFree c₂.rest := by rwa [hexFree_behind hcolon (by decide)]
    obtain ⟨hv, hfree₄⟩ := ih (.value v) _ _ _ hvalue hfree₃
    obtain ⟨hes, hfree₅⟩ := ih (.members false es) _ _ _ hmembers hfree₄
    exact ⟨.member hstart hchars hcolon hv hes, hfree₅⟩

theorem isSound (fuel : Nat) : IsSound fuel := by
  induction fuel with
  | zero => intro part _ _ _ h; cases part <;> cases h
  | succ fuel ih =>
    intro part depth c d h hfree
    cases part with
    | value v => exact ih.value h hfree
    | items first vs => exact ih.items h hfree
    | members first es => exact ih.members h hfree

/-! ## Fuel -/

theorem length_dropBlanks_le (text : List Char) : (dropBlanks text).length ≤ text.length :=
  List.length_dropWhile_le _ _

theorem length_behind_lt {text rest : List Char} {x : Char} (h : dropBlanks text = x :: rest) :
    rest.length < text.length := by
  have hle := length_dropBlanks_le text
  rw [h, List.length_cons] at hle
  exact hle

theorem length_nextStart_le {first : Bool} {text start : List Char}
    (h : nextStart? first text = some start) : start.length ≤ text.length := by
  cases first with
  | true =>
    obtain rfl : dropBlanks text = start := Option.some.inj h
    exact length_dropBlanks_le text
  | false =>
    obtain ⟨rest, htext, rfl⟩ := nextStart?_false_eq_some h
    exact (length_dropBlanks_le rest).trans (length_behind_lt htext).le

theorem Content.length_lt {chars text rest : List Char} (h : Content chars text rest) :
    rest.length < text.length := by
  induction h with
  | close rest => simp
  | plain _ _ ih => exact Nat.lt_succ_of_lt ih
  | escape _ _ ih => exact Nat.lt_succ_of_lt (Nat.lt_succ_of_lt ih)
  | control _ _ _ _ ih =>
    simp only [List.length_cons]
    omega

/-- The fuel that a part takes besides that for its characters. -/
def Part.cost : Part → Nat
  | .value _ => 0
  | .items _ _ => 1
  | .members _ _ => 1

theorem length_word_pos : ∀ e ∈ words, 0 < e.1.length := by
  simp [words]

/-- A value has at least one character. -/
theorem Reads.length_lt {depth : Nat} {part : Part} {text rest : List Char}
    (h : Reads depth part text rest) : rest.length < text.length + part.cost := by
  induction h with
  | @word _ text word rest v hword htext =>
    have hle := length_dropBlanks_le text
    have hpos : 0 < word.length := length_word_pos _ hword
    rw [htext, List.length_append] at hle
    exact Nat.lt_of_lt_of_le (by omega) hle
  | @negative _ text part rest n htext hn =>
    have hlt := length_behind_lt htext
    rw [List.length_append] at hlt
    exact Nat.lt_of_le_of_lt (by omega) hlt
  | @number _ text part rest digit n htext hdigit hn =>
    have hlt := length_behind_lt htext
    rw [List.length_append] at hlt
    exact Nat.lt_of_le_of_lt (by omega) hlt
  | string htext hbody => exact hbody.length_lt.trans (length_behind_lt htext)
  | array htext _ hclose ih | object htext _ hclose ih =>
    have hopen := length_behind_lt htext
    have hclosed := length_behind_lt hclose
    simp only [Part.cost] at ih ⊢
    omega
  | noItem htext | noMember htext => exact Nat.lt_succ_self _
  | item hstart _ _ ihv ih =>
    have hle := length_nextStart_le hstart
    simp only [Part.cost] at ihv ih ⊢
    omega
  | member hstart hname hcolon _ _ ihv ih =>
    have hle := length_nextStart_le hstart
    have hlt := hname.length_lt
    have hlt' := length_behind_lt hcolon
    simp only [Part.cost, List.length_cons] at hle ihv ih ⊢
    omega

theorem dropBlanks_dropBlanks (text : List Char) :
    dropBlanks (dropBlanks text) = dropBlanks text :=
  List.dropWhile_idempotent _ _

theorem dropBlanks_nextStart {first : Bool} {text start : List Char}
    (h : nextStart? first text = some start) : dropBlanks start = start := by
  cases first with
  | true =>
    obtain rfl : dropBlanks text = start := Option.some.inj h
    exact dropBlanks_dropBlanks text
  | false =>
    obtain ⟨rest, -, rfl⟩ := nextStart?_false_eq_some h
    exact dropBlanks_dropBlanks rest

/-- No value begins with the bracket that closes an array. -/
theorem Reads.exists_head {depth : Nat} {v : Json} {text rest : List Char}
    (h : Reads depth (.value v) text rest) : ∃ x more, dropBlanks text = x :: more ∧ x ≠ ']' := by
  cases h with
  | @word _ _ word _ _ hword htext =>
    simp only [words, List.mem_cons, List.not_mem_nil, or_false, Prod.mk.injEq] at hword
    rcases hword with ⟨rfl, rfl⟩ | ⟨rfl, rfl⟩ | ⟨rfl, rfl⟩ <;> exact ⟨_, _, htext, by decide⟩
  | number htext hdigit => exact ⟨_, _, htext, fun hx => absurd (hx ▸ hdigit) (by decide)⟩
  | negative htext | string htext | array htext | object htext => exact ⟨_, _, htext, by decide⟩

theorem Part.cost_le_one (part : Part) : part.cost ≤ 1 := by
  cases part <;> simp [Part.cost]

/-- What the grammar allows is read by the reader with enough fuel, which is two units for each
character. -/
theorem isReadBy_of_reads (fuel : Nat) {depth : Nat} {part : Part} {text rest : List Char}
    (h : Reads depth part text rest) (offset : Nat)
    (hfuel : 2 * text.length + part.cost ≤ 2 * rest.length + fuel) :
    ∃ offset', part.IsReadBy fuel depth ⟨text, offset⟩ ⟨rest, offset'⟩ := by
  induction fuel generalizing depth part text rest offset with
  | zero =>
    have hlt := h.length_lt
    have hcost := part.cost_le_one
    omega
  | succ fuel ih =>
    obtain ⟨offset', hskip⟩ := skipBlanks_mk text offset
    cases h with
    | @word _ _ word _ v hword htext =>
      simp only [words, List.mem_cons, List.not_mem_nil, or_false, Prod.mk.injEq] at hword
      simp only [Part.IsReadBy, readValue, hskip, htext]
      rcases hword with ⟨rfl, rfl⟩ | ⟨rfl, rfl⟩ | ⟨rfl, rfl⟩ <;> exact yields_readWord _ _ rest _
    | @negative _ _ part _ n htext hn =>
      obtain ⟨offset'', hread⟩ := hn.yields rest (offset' + '-'.utf8Size) rfl
      refine ⟨offset'', ?_⟩
      simp only [Part.IsReadBy, readValue, hskip, htext]
      exact bind_eq_ok hread rfl
    | @number _ _ part _ digit n htext hdigit hn =>
      obtain ⟨offset'', hread⟩ := hn.yields rest offset' rfl
      refine ⟨offset'', ?_⟩
      simp only [Part.IsReadBy, readValue, hskip, htext]
      split
      case h_8 =>
        rw [if_pos hdigit]
        exact bind_eq_ok hread rfl
      all_goals exact absurd hdigit (by decide)
    | @string _ _ body chars _ htext hbody =>
      obtain ⟨offset'', hread⟩ := yields_readText hbody (offset' + '"'.utf8Size)
      refine ⟨offset'', ?_⟩
      simp only [Part.IsReadBy, readValue, hskip, htext]
      exact bind_eq_ok hread rfl
    | @array depth _ body close _ vs htext hitems hclose =>
      have hopen := length_behind_lt htext
      have hclosed := length_behind_lt hclose
      simp only [Part.cost] at hfuel
      obtain ⟨offset'', hread⟩ := ih hitems (offset' + '['.utf8Size) (by
        simp only [Part.cost]
        omega)
      simp only [Part.IsReadBy, readValue, hskip, htext]
      obtain ⟨offset₃, hend⟩ := closeContainer_eq hclose offset''
      exact ⟨offset₃, bind_eq_ok hread (by rw [hend])⟩
    | @object depth _ body close _ es htext hmembers hclose =>
      have hopen := length_behind_lt htext
      have hclosed := length_behind_lt hclose
      simp only [Part.cost] at hfuel
      obtain ⟨offset'', hread⟩ := ih hmembers (offset' + '{'.utf8Size) (by
        simp only [Part.cost]
        omega)
      simp only [Part.IsReadBy, readValue, hskip, htext]
      obtain ⟨offset₃, hend⟩ := closeContainer_eq hclose offset''
      exact ⟨offset₃, bind_eq_ok hread (by rw [hend])⟩
    | @noItem _ first _ more htext =>
      refine ⟨offset, ?_⟩
      simp only [Part.IsReadBy, readItems]
      exact bind_eq_ok (nextItem_of_bracket first htext offset) rfl
    | @noMember _ first _ more htext =>
      refine ⟨offset, ?_⟩
      simp only [Part.IsReadBy, readMembers]
      exact bind_eq_ok (nextMember_of_brace first htext offset) rfl
    | @item _ first _ start behind _ v vs hstart hv hvs =>
      have hle := length_nextStart_le hstart
      have hlt := hv.length_lt
      have hlt' := hvs.length_lt
      simp only [Part.cost] at hfuel hlt hlt'
      obtain ⟨x, more, hhead, hx⟩ := hv.exists_head
      obtain rfl : start = x :: more := (dropBlanks_nextStart hstart).symm.trans hhead
      obtain ⟨o₁, hnext⟩ := nextItem_of_start hx hstart offset
      obtain ⟨o₂, hvalue⟩ := ih hv o₁ (by simp only [Part.cost]; omega)
      obtain ⟨o₃, hitems⟩ := ih hvs o₂ (by simp only [Part.cost]; omega)
      refine ⟨o₃, ?_⟩
      simp only [Part.IsReadBy, readItems]
      exact bind_eq_ok hnext (bind_eq_ok hvalue (bind_eq_ok hitems rfl))
    | @member _ first _ body name colon value behind _ v es hstart hname hcolon hv hes =>
      have hle := length_nextStart_le hstart
      have hlt := hname.length_lt
      have hlt' := length_behind_lt hcolon
      have hlt₂ := hv.length_lt
      have hlt₃ := hes.length_lt
      simp only [Part.cost, List.length_cons] at hfuel hle hlt₂ hlt₃
      obtain ⟨o₁, hnext⟩ := nextMember_of_start hstart offset
      obtain ⟨o₂, htext⟩ := yields_readText hname o₁
      obtain ⟨o₃, hcolon⟩ := readColon_of_colon hcolon o₂
      obtain ⟨o₄, hvalue⟩ := ih hv o₃ (by simp only [Part.cost]; omega)
      obtain ⟨o₅, hmembers⟩ := ih hes o₄ (by simp only [Part.cost]; omega)
      refine ⟨o₅, ?_⟩
      simp only [Part.IsReadBy, readMembers]
      exact bind_eq_ok hnext (bind_eq_ok htext (bind_eq_ok hcolon (bind_eq_ok hvalue
        (bind_eq_ok hmembers rfl))))

/-! ## Whole texts -/

theorem readEnd_eq_ok_iff (c : Cursor) : readEnd c = .ok () ↔ dropBlanks c.rest = [] := by
  rw [← rest_skipBlanks]
  constructor
  · intro h
    simp only [readEnd] at h
    split at h
    · rename_i hrest
      exact hrest
    · exact absurd h (flawAt_ne_ok _ _ _)
  · intro h
    simp only [readEnd, h]

/-- In a text without hexadecimal escapes that is read, the grammar finds the value, with nothing
but blanks behind. -/
theorem reads_of_read {text : String} {v : Json} (h : read text = .ok v)
    (hfree : hexFree text.toList) :
    ∃ rest, Reads maxDepth (.value v) text.toList rest ∧ dropBlanks rest = [] := by
  unfold read readChars? at h
  rw [mapError_eq_ok_iff] at h
  obtain ⟨⟨w, c⟩, hvalue, h⟩ := exists_of_bind_eq_ok h
  obtain ⟨_, hend, h⟩ := exists_of_bind_eq_ok h
  cases h
  obtain ⟨hreads, -⟩ := isSound _ (.value v) _ _ _ hvalue hfree
  exact ⟨c.rest, hreads, (readEnd_eq_ok_iff c).1 hend⟩

/-- A text in which the grammar finds a value with nothing but blanks behind is read. -/
theorem read_of_reads {text : String} {v : Json} {rest : List Char}
    (h : Reads maxDepth (.value v) text.toList rest) (hrest : dropBlanks rest = []) :
    read text = .ok v := by
  unfold read readChars?
  rw [mapError_eq_ok_iff]
  have hfuel : 2 * text.toList.length + (Part.value v).cost ≤
      2 * rest.length + (2 * text.toList.length + 2) := by
    simp only [Part.cost]
    omega
  obtain ⟨offset, hvalue⟩ := isReadBy_of_reads _ h 0 hfuel
  exact bind_eq_ok hvalue (bind_eq_ok ((readEnd_eq_ok_iff ⟨rest, offset⟩).2 hrest) rfl)

end ServicePlan.Json
