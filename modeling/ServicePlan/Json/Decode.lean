import ServicePlan.Json.Basic
import ServicePlan.Json.Printer
import ServicePlan.Text.Quoted

/-!
# Decoding JSON values

A decoder turns a JSON value into a value of a domain type or says what does not fit.  Records
are decoded from objects, where members of other names are ignored, or from arrays, which list
the fields in their order of declaration.

* `DecodeError`: what can be wrong, and `DecodeError.message`.
* `Decode.string`, `Decode.int`, `Decode.list`, `Decode.table`, …: the decoders of single values.
* `Fields`: the fields of a record, put together field by field, and `Fields.decode`.

Of several faults the first one in the order of the members counts, and a missing field counts
only where all members fit.
-/

namespace ServicePlan

/-- The shape of a value, as messages name it. -/
inductive Shape
  | null
  | bool (value : Bool)
  | number (value : Number)
  | string (value : String)
  | sequence
  | map
  deriving DecidableEq, Repr

/-- The description of a shape. -/
def Shape.describe : Shape → String
  | null => "null"
  | bool b => s!"boolean `{b}`"
  | number (.integer i) => s!"integer `{i}`"
  | number (.float x) => "floating point `" ++ String.ofList (Json.renderNumber (.float x)) ++ "`"
  | string s => "string " ++ Text.quote s
  | sequence => "sequence"
  | map => "map"

/-- The shape of a value. -/
def Json.shape : Json → Shape
  | .null => .null
  | .bool b => .bool b
  | .number n => .number n
  | .string s => .string s
  | .array _ => .sequence
  | .object _ => .map

/-- Why a value does not hold what is asked for. -/
inductive DecodeError
  /-- The value has another shape than expected. -/
  | invalidType (found : Shape) (expected : String)
  /-- The value has the right shape but is out of range. -/
  | invalidValue (found : Shape) (expected : String)
  /-- The array has the wrong number of items. -/
  | invalidLength (length : Nat) (expected : String)
  /-- A record lacks a field. -/
  | missingField (name : String)
  /-- A record gives one field under two names. -/
  | duplicateField (name : String)
  /-- A name is none of those that are possible. -/
  | unknownVariant (name : String) (expected : List String)
  deriving DecidableEq, Repr

/-- A list of alternatives between backticks. -/
def alternatives : List String → String
  | [] => "there are no variants"
  | [a] => s!"expected `{a}`"
  | [a, b] => s!"expected `{a}` or `{b}`"
  | names => "expected one of " ++ ", ".intercalate (names.map fun n => "`" ++ n ++ "`")

/-- The wording of an error. -/
def DecodeError.message : DecodeError → String
  | invalidType found expected => s!"invalid type: {found.describe}, expected {expected}"
  | invalidValue found expected => s!"invalid value: {found.describe}, expected {expected}"
  | invalidLength length expected => s!"invalid length {length}, expected {expected}"
  | missingField name => s!"missing field `{name}`"
  | duplicateField name => s!"duplicate field `{name}`"
  | unknownVariant name expected => s!"unknown variant `{name}`, {alternatives expected}"

/-- What decoding ends with. -/
abbrev Decoded := Except DecodeError

/-- A value of type `α` from a JSON value. -/
abbrev Decoder (α : Type) := Json → Decoded α

namespace Decode

/-- The largest integer a field may hold. -/
def maxInt : Int := 9223372036854775807

/-- A string. -/
def string : Decoder String
  | .string s => .ok s
  | v => .error (.invalidType v.shape "a string")

/-- A truth value. -/
def bool : Decoder Bool
  | .bool b => .ok b
  | v => .error (.invalidType v.shape "a boolean")

/-- An integer of 64 bits with a sign, which has to be written as an integer. -/
def int : Decoder Int
  | .number (.integer i) =>
    if i ≤ maxInt then .ok i else .error (.invalidValue (.number (.integer i)) "i64")
  | v => .error (.invalidType v.shape "i64")

/-- Any number. -/
def number : Decoder Number
  | .number n => .ok n
  | v => .error (.invalidType v.shape "a JSON number")

/-- Any value. -/
def any : Decoder Json := .ok

/-- Null, or what `d` decodes. -/
def optional {α : Type} (d : Decoder α) : Decoder (Option α)
  | .null => .ok none
  | v => (d v).map some

/-- An array of what `d` decodes. -/
def list {α : Type} (d : Decoder α) : Decoder (List α)
  | .array items => items.mapM d
  | v => .error (.invalidType v.shape "a sequence")

/-- The members of an object, each decoded by `d`. -/
def members {α : Type} (d : Decoder α) : List (String × Json) → Decoded (List (String × α))
  | [] => .ok []
  | (k, v) :: rest => do
    let a ← d v
    let entries ← members d rest
    .ok ((k, a) :: entries)

/-- An object whose members `d` decodes, as a table. -/
def table {α : Type} (d : Decoder α) : Decoder (Table α)
  | .object entries => (members d entries).map Table.ofList
  | v => .error (.invalidType v.shape "a map")

/-- One of a list of names: a string, or an object with that one member, which is null. -/
def variant {α : Type} (names : List (String × α)) : Decoder α
  | .string s => pick s
  | .object [(s, v)] => do
    let a ← pick s
    match v with
    | .null => .ok a
    | v => .error (.invalidType v.shape "unit")
  | .object _ => .error (.invalidValue .map "map with a single key")
  | v => .error (.invalidType v.shape "string or map")
where
  /-- The value of a name. -/
  pick (s : String) : Decoded α :=
    match names.lookup s with
    | some a => .ok a
    | none => .error (.unknownVariant s (names.map (·.1)))

end Decode

/-! ## Records -/

/-- One field of a record. -/
structure Field where
  /-- The name of the field. -/
  name : String
  /-- Another name it may be given under. -/
  alternative : Option String
  /-- Whether the field may be left out. -/
  omissible : Bool
  /-- Whether a value fits the field. -/
  check : Json → Decoded Unit

/-- Whether a member name stands for the field. -/
def Field.isNamed (f : Field) (name : String) : Bool :=
  name == f.name || f.alternative == some name

/-- The fields of a record and the value they make up.  `build` gets the value of each field that
is given. -/
structure Fields (α : Type) where
  /-- The fields, in order of declaration. -/
  fields : List Field
  /-- The record, from the values of its fields. -/
  build : (String → Option Json) → Decoded α

namespace Fields

variable {α β : Type}

/-- A record without fields. -/
protected def pure (a : α) : Fields α := ⟨[], fun _ => .ok a⟩

/-- The fields of both records, one after another. -/
protected def seq (f : Fields (α → β)) (a : Fields α) : Fields β where
  fields := f.fields ++ a.fields
  build look := do
    let g ← f.build look
    let x ← a.build look
    .ok (g x)

instance : Applicative Fields where
  pure := Fields.pure
  seq f a := Fields.seq f (a ())

/-- A field that has to be given. -/
def required (name : String) (d : Decoder α) : Fields α where
  fields := [⟨name, none, false, fun v => (d v).map fun _ => ()⟩]
  build look :=
    match look name with
    | some v => d v
    | none => .error (.missingField name)

/-- A field that has a value even if it is left out. -/
def withDefault (name : String) (d : Decoder α) (default : α) (alternative : Option String := none) :
    Fields α where
  fields := [⟨name, alternative, true, fun v => (d v).map fun _ => ()⟩]
  build look :=
    match look name with
    | some v => d v
    | none => .ok default

/-- A field that may be null or left out. -/
def optional (name : String) (d : Decoder α) (alternative : Option String := none) :
    Fields (Option α) :=
  withDefault name (Decode.optional d) none alternative

/-- The values that the members of an object give to fields, in the order of the members; the
first fault counts. -/
def fromMembers (fields : List Field) :
    List (String × Json) → List (String × Json) → Decoded (List (String × Json))
  | [], given => .ok given
  | (k, v) :: rest, given =>
    match fields.find? (·.isNamed k) with
    | none => fromMembers fields rest given
    | some f =>
      if (given.lookup f.name).isSome then .error (.duplicateField f.name)
      else do
        f.check v
        fromMembers fields rest (given ++ [(f.name, v)])

/-- The name of a record with its number of fields. -/
def describe (shape : String) (count : Nat) : String :=
  s!"struct {shape} with {count} " ++ (if count = 1 then "element" else "elements")

/-- The values that the items of an array give to fields, in the order of declaration. -/
def fromItems (shape : String) (count : Nat) :
    Nat → List Field → List Json → Decoded (List (String × Json))
  | _, [], _ => .ok []
  | i, f :: fields, [] =>
    if f.omissible then fromItems shape count (i + 1) fields []
    else .error (.invalidLength i (describe shape count))
  | i, f :: fields, v :: rest => do
    f.check v
    let given ← fromItems shape count (i + 1) fields rest
    .ok ((f.name, v) :: given)

/-- Decodes a record, called `shape` in messages, from an object or an array. -/
def decode (shape : String) (f : Fields α) : Decoder α
  | .object members => do
    let given ← fromMembers f.fields members []
    f.build fun name => given.lookup name
  | .array items => do
    let given ← fromItems shape f.fields.length 0 f.fields items
    let a ← f.build fun name => given.lookup name
    if f.fields.length < items.length then
      .error (.invalidLength items.length "fewer elements in array")
    else .ok a
  | v => .error (.invalidType v.shape ("struct " ++ shape))

end Fields

end ServicePlan
