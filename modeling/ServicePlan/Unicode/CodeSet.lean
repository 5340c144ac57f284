import ServicePlan.Text.Percent

/-!
# Sets of code points

A set of code points is kept as ascending ranges, so that a set of many thousand characters is
small and looking one up is quick.

* `CodeSet.contains`: whether a character is in a set.
* `CodeSet.union`, `CodeSet.complement`, `CodeSet.inter`, `CodeSet.diff`, `CodeSet.symmDiff`: sets
  made of others.
* `CodeSet.ofTable`: the set of a table.
-/

namespace ServicePlan.Unicode

/-- A set of code points: ranges with both ends included, in ascending order and with a gap
between each two. -/
structure CodeSet where
  /-- The ranges. -/
  ranges : Array (Nat × Nat)

namespace CodeSet

/-- The largest code point. -/
def maxCode : Nat := 0x10FFFF

/-- The empty set. -/
def empty : CodeSet := ⟨#[]⟩

/-- All code points. -/
def all : CodeSet := ⟨#[(0, maxCode)]⟩

instance : Inhabited CodeSet := ⟨empty⟩

/-- The code points from one to another. -/
def ofRange (first last : Nat) : CodeSet := if first ≤ last then ⟨#[(first, last)]⟩ else empty

/-- The set of one character. -/
def ofChar (c : Char) : CodeSet := ofRange c.toNat c.toNat

/-! ## Looking up -/

/-- Whether one of the ranges from position `low` to before `high` holds a code point. -/
def search (ranges : Array (Nat × Nat)) (n low high : Nat) : Bool :=
  if low < high then
    let middle := (low + high) / 2
    match ranges[middle]? with
    | some (first, last) =>
      if n < first then search ranges n low middle
      else if last < n then search ranges n (middle + 1) high
      else true
    | none => false
  else false
termination_by high - low

/-- Whether a set holds a code point. -/
def containsCode (s : CodeSet) (n : Nat) : Bool := search s.ranges n 0 s.ranges.size

/-- Whether a set holds a character. -/
def contains (s : CodeSet) (c : Char) : Bool := s.containsCode c.toNat

/-! ## Sets made of others -/

/-- Joins ranges that overlap or touch; the ranges have to ascend. -/
def joined : List (Nat × Nat) → List (Nat × Nat)
  | a :: b :: rest =>
    if b.1 ≤ a.2 + 1 then joined ((a.1, max a.2 b.2) :: rest) else a :: joined (b :: rest)
  | ranges => ranges
termination_by ranges => ranges.length

/-- The set of ranges in any order. -/
def ofRanges (ranges : List (Nat × Nat)) : CodeSet :=
  ⟨(joined (ranges.mergeSort fun a b => a.1 ≤ b.1)).toArray⟩

/-- What is in one of several sets. -/
def unions (sets : List CodeSet) : CodeSet := ofRanges (sets.flatMap (·.ranges.toList))

/-- What is in either of two sets. -/
def union (s t : CodeSet) : CodeSet := unions [s, t]

/-- The gaps from a code point on between ascending ranges. -/
def gaps (start : Nat) : List (Nat × Nat) → List (Nat × Nat)
  | [] => if start ≤ maxCode then [(start, maxCode)] else []
  | (first, last) :: rest =>
    if start < first then (start, first - 1) :: gaps (last + 1) rest else gaps (last + 1) rest

/-- What is not in a set. -/
def complement (s : CodeSet) : CodeSet := ⟨(gaps 0 s.ranges.toList).toArray⟩

/-- What is in both of two sets. -/
def inter (s t : CodeSet) : CodeSet := (s.complement.union t.complement).complement

/-- What is in the first of two sets only. -/
def diff (s t : CodeSet) : CodeSet := s.inter t.complement

/-- What is in exactly one of two sets. -/
def symmDiff (s t : CodeSet) : CodeSet := (s.diff t).union (t.diff s)

/-! ## Tables -/

/-- The range of a word of a table: one code point, or two with a hyphen between them. -/
def rangeOf? (word : String) : Option (Nat × Nat) :=
  match (word.splitOn "-").map fun part => Text.hexNumber? part.toList with
  | [some n] => some (n, n)
  | [some first, some last] => some (first, last)
  | _ => none

/-- The set of the lines of a table: ascending ranges in hexadecimal digits, with blanks between
them. -/
def ofTable (lines : List String) : CodeSet :=
  ⟨((lines.flatMap (·.splitOn " ")).filterMap rangeOf?).toArray⟩

end CodeSet

end ServicePlan.Unicode
