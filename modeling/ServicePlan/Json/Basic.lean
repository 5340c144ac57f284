import ServicePlan.Decimal.Binary64
import ServicePlan.Table

/-!
# JSON values

Specs, schemas, policy documents and the attributes of resources are JSON values.  The members of
an object are kept in ascending order of their names, so two texts that differ only in the order
of members stand for the same value, and a name occurs once.

* `Json.ofMembers`: the object of a list of members, where the last one of a name counts.
* `Json.member?`: looking up a member.
* `Json.Ordered`: all objects inside a value have ascending names.
* `Json.same`: equality that compares numbers by what they are worth.
-/

namespace ServicePlan

open Decimal (Binary64)

/-- A JSON number: an integer of 64 bits, or a floating-point number. -/
inductive Number
  /-- An integer from `-2 ^ 63` to `2 ^ 64 - 1`. -/
  | integer (value : Int)
  /-- Any other number. -/
  | float (value : Binary64)
  deriving DecidableEq, Repr

/-- A JSON value. -/
inductive Json
  | null
  | bool (value : Bool)
  | number (value : Number)
  | string (value : String)
  | array (items : List Json)
  | object (members : List (String × Json))
  deriving Inhabited

namespace Number

/-- The magnitude of a number in units of the smallest floating-point number, with its sign. -/
def units : Number → Int
  | integer i => i * Binary64.unitsPerOne
  | float x => x.signedUnits

/-- Whether the number has no fractional part. -/
def isWhole : Number → Bool
  | integer _ => true
  | float x => x.isWhole

/-- The nearest floating-point number. -/
def toBinary64 : Number → Binary64
  | integer i => (Binary64.ofNat? (i < 0) i.natAbs).getD (.zero false)
  | float x => x

/-- Whether two numbers are worth the same, however they are written. -/
def same (x y : Number) : Bool := x.units == y.units

end Number

namespace Json

/-- The number of an integer. -/
def int (i : Int) : Json := .number (.integer i)

/-- An array of strings. -/
def strings (items : List String) : Json := .array (items.map .string)

/-- What `f` makes of a value, or null where there is none. -/
def orNull {α : Type _} (f : α → Json) : Option α → Json
  | some a => f a
  | none => .null

/-- A string, or null where there is none. -/
def stringOrNull : Option String → Json := orNull .string

/-- An integer, or null where there is none. -/
def intOrNull : Option Int → Json := orNull int

/-- The object of a list of members; the last member of a name counts. -/
def ofMembers (members : List (String × Json)) : Json :=
  .object (members.foldl (fun l e => Table.insertEntry e.1 e.2 l) [])

/-- The object of a table, with converted values. -/
def ofTable {α : Type _} (f : α → Json) (t : Table α) : Json :=
  .object (t.entries.map fun e => (e.1, f e.2))

/-- The member of a name, if the value is an object that has one. -/
def member? : Json → String → Option Json
  | .object members, name => members.lookup name
  | _, _ => none

/-- The member of the object of a table. -/
theorem member?_ofTable {α : Type} (convert : α → Json) (t : Table α) (name : String) :
    (ofTable convert t).member? name = (t.get? name).map convert := by
  rw [ofTable, member?, Table.get?]
  induction t.entries with
  | nil => rfl
  | cons e rest ih =>
    obtain ⟨key, value⟩ := e
    rw [List.map_cons, Table.lookup_cons_eq_ite, Table.lookup_cons_eq_ite, ih]
    split <;> rfl

/-- Whether a value is an array. -/
def isArray : Json → Bool
  | .array _ => true
  | _ => false

/-- Whether a value is an object. -/
def isObject : Json → Bool
  | .object _ => true
  | _ => false

/-- Whether a value is true. -/
def isTrue : Json → Bool
  | .bool b => b
  | _ => false

/-- The text of a string. -/
def string? : Json → Option String
  | .string s => some s
  | _ => none

mutual

/-- All objects inside the value have their members in ascending order of the names. -/
def Ordered : Json → Prop
  | .array items => OrderedItems items
  | .object members => members.Pairwise (fun a b => a.1 < b.1) ∧ OrderedMembers members
  | _ => True

/-- All objects inside the items have ascending names. -/
def OrderedItems : List Json → Prop
  | [] => True
  | v :: rest => Ordered v ∧ OrderedItems rest

/-- All objects inside the members have ascending names. -/
def OrderedMembers : List (String × Json) → Prop
  | [] => True
  | (_, v) :: rest => Ordered v ∧ OrderedMembers rest

end

mutual

/-- Equality of values, where `1` and `1.0` are the same number. -/
def same : Json → Json → Bool
  | .null, .null => true
  | .bool a, .bool b => a == b
  | .number a, .number b => a.same b
  | .string a, .string b => a == b
  | .array a, .array b => sameItems a b
  | .object a, .object b => sameMembers a b
  | _, _ => false

/-- Equality of lists of values, item by item. -/
def sameItems : List Json → List Json → Bool
  | [], [] => true
  | a :: as, b :: bs => same a b && sameItems as bs
  | _, _ => false

/-- Equality of lists of members, in order. -/
def sameMembers : List (String × Json) → List (String × Json) → Bool
  | [], [] => true
  | (k, a) :: as, (l, b) :: bs => k == l && same a b && sameMembers as bs
  | _, _ => false

end

end Json

end ServicePlan
