import ServicePlan.Decimal.Shortest
import ServicePlan.Text.Quoted

/-!
# YAML values

Api documents are YAML values.  A mapping keeps its entries in the order of the document, and its
keys are values of any kind.

* `Yaml`: values, some of which carry a tag.
* `Yaml.untagged`, `Yaml.text?`, `Yaml.entries?`, `Yaml.get?`: reading; a tag is looked through.
* `Yaml.same`: equality, where the order of entries does not matter.
* `Yaml.shown`: a value as messages show it.
-/

namespace ServicePlan

open Decimal (Binary64)

/-- A number of a YAML document. -/
inductive YamlNumber
  | integer (value : Int)
  | float (value : Binary64)
  | infinite (negative : Bool)
  | notANumber
  deriving DecidableEq, Repr

/-- A YAML value. -/
inductive Yaml
  | null
  | bool (value : Bool)
  | number (value : YamlNumber)
  | string (value : String)
  | sequence (items : List Yaml)
  | mapping (entries : List (Yaml × Yaml))
  /-- A value with a tag that is no part of the format. -/
  | tagged (tag : String) (value : Yaml)
  deriving Inhabited

namespace YamlNumber

/-- Two integers are the same if they are equal, and so are two floating-point numbers, where the
two zeros count as equal. -/
def same : YamlNumber → YamlNumber → Bool
  | integer i, integer j => i == j
  | float x, float y => x.signedUnits == y.signedUnits
  | infinite a, infinite b => a == b
  | notANumber, notANumber => true
  | _, _ => false

/-- Floating-point numbers are positional from `0.00001` to below `10 ^ 16`; beyond, the exponent
has no sign unless it is negative. -/
def layout : Decimal.Layout := ⟨-5, 15, false⟩

/-- The text of a number. -/
def shown : YamlNumber → String
  | integer i => toString i
  | float x => String.ofList (layout.render x)
  | infinite negative => if negative then "-.inf" else ".inf"
  | notANumber => ".nan"

end YamlNumber

namespace Yaml

/-- The value without its tag. -/
def untagged : Yaml → Yaml
  | tagged _ v => v.untagged
  | v => v

/-- The text of a string. -/
def text? (v : Yaml) : Option String :=
  match v.untagged with
  | string s => some s
  | _ => none

/-- The entries of a mapping. -/
def entries? (v : Yaml) : Option (List (Yaml × Yaml)) :=
  match v.untagged with
  | mapping entries => some entries
  | _ => none

/-- Whether a value is a string without a tag and has a text. -/
def isText (text : String) : Yaml → Bool
  | string s => s == text
  | _ => false

/-- The value under a string. -/
def get? (v : Yaml) (key : String) : Option Yaml :=
  (v.entries?.bind fun entries => entries.find? fun e => e.1.isText key).map (·.2)

mutual

/-- Equality of values. -/
def same : Yaml → Yaml → Bool
  | .null, .null => true
  | .bool a, .bool b => a == b
  | .number a, .number b => a.same b
  | .string a, .string b => a == b
  | .sequence a, .sequence b => sameItems a b
  | .mapping a, .mapping b => a.length == b.length && sameEntries a b
  | .tagged t a, .tagged u b => t == u && same a b
  | _, _ => false

/-- Equality of lists of values, item by item. -/
def sameItems : List Yaml → List Yaml → Bool
  | [], [] => true
  | a :: as, b :: bs => same a b && sameItems as bs
  | _, _ => false

/-- Whether every entry of the first list is one of the second. -/
def sameEntries : List (Yaml × Yaml) → List (Yaml × Yaml) → Bool
  | [], _ => true
  | (k, v) :: rest, entries => entries.any (fun e => same k e.1 && same v e.2) && sameEntries rest entries

end

/-- Whether a mapping has an entry with a key. -/
def hasKey (entries : List (Yaml × Yaml)) (key : Yaml) : Bool := entries.any fun e => same e.1 key

mutual

/-- A value as messages show it. -/
def shown : Yaml → String
  | .null => "Null"
  | .bool b => s!"Bool({b})"
  | .number n => s!"Number({n.shown})"
  | .string s => "String(" ++ Text.quote s ++ ")"
  | .sequence items => "Sequence [" ++ ", ".intercalate (shownItems items) ++ "]"
  | .mapping entries => "Mapping \x7b" ++ ", ".intercalate (shownEntries entries) ++ "\x7d"
  | .tagged tag v => "TaggedValue \x7b tag: !" ++ tag ++ ", value: " ++ shown v ++ " \x7d"

/-- A key of a mapping as messages show it, without a name for the plain kinds. -/
def shownKey : Yaml → String
  | .bool b => toString b
  | .number n => n.shown
  | .string s => Text.quote s
  | .null => "Null"
  | .sequence items => "Sequence [" ++ ", ".intercalate (shownItems items) ++ "]"
  | .mapping entries => "Mapping \x7b" ++ ", ".intercalate (shownEntries entries) ++ "\x7d"
  | .tagged tag v => "TaggedValue \x7b tag: !" ++ tag ++ ", value: " ++ shown v ++ " \x7d"

/-- The items as messages show them. -/
def shownItems : List Yaml → List String
  | [] => []
  | v :: rest => shown v :: shownItems rest

/-- The entries as messages show them. -/
def shownEntries : List (Yaml × Yaml) → List String
  | [] => []
  | (k, v) :: rest => (shownKey k ++ ": " ++ shown v) :: shownEntries rest

end

end Yaml

end ServicePlan
