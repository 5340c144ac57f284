import ServicePlan.Decimal.Shortest
import ServicePlan.Json.Reader
import ServicePlan.Schema.Basic
import ServicePlan.Text.Base64

/-!
# Checking values against schemas

`Schema.report` lists all violations of a schema: rule by rule, and inside a rule in the order of
the value or of the rule, as the rule says.  A value is valid if there is none.  References are
looked up in the document; `Document.report` follows them as often as a value can ask for.

* `Schema.report`: the violations of a schema, for a given way to follow references.
* `Schema.covered`: the members and items that a list of coverages looks at.
* `Document.report`, `Document.accepts`: the violations of a document.
-/

namespace ServicePlan.Schema

open Decimal (Binary64)

/-- The members and the items of a value that keywords look at. -/
structure Seen where
  /-- The names of the members. -/
  names : List String
  /-- The positions of the items. -/
  items : List Nat

/-- Nothing. -/
def Seen.none : Seen := ⟨[], []⟩

/-- What either of two looks at. -/
def Seen.union (a b : Seen) : Seen := ⟨a.names ++ b.names, a.items ++ b.items⟩

/-- What references lead to. -/
structure Resolver where
  /-- The violations of the schema a reference leads to. -/
  report : String → List Step → Json → List Violation
  /-- What the coverages look at that a reference leads to. -/
  covered : String → Json → Seen

/-- No reference leads anywhere. -/
def Resolver.none : Resolver := ⟨fun _ _ _ => [], fun _ _ => .none⟩

/-- One violation if a condition fails. -/
def expect (ok : Bool) (place : List Step) (cause : Cause) : List Violation :=
  if ok then [] else [⟨place, cause⟩]

/-- The missing ones of a list of members. -/
def missing (place : List Step) (names : List String) (members : List (String × Json)) :
    List Violation :=
  (names.filter fun n => (members.lookup n).isNone).map fun n => ⟨place, .missingMember n⟩

/-- Whether a magnitude in units is below the distance between one and the next number. -/
def isTiny (units : Nat) : Bool := units * Nat.pow 2 52 < Binary64.unitsPerOne

/-- Whether a decimal number is a multiple of another one. -/
def isDecimalMultiple (x divisor : Decimal.Scientific) : Bool :=
  match x.exponent - divisor.exponent with
  | .ofNat k => x.digits * Nat.pow 10 k % divisor.digits == 0
  | .negSucc k => x.digits % (divisor.digits * Nat.pow 10 (k + 1)) == 0

/-- Whether a number is a multiple of a divisor.  For a divisor with a fractional part the
rounded quotient counts, up to the distance between one and the next number; where it is too
large, the shortest decimals count. -/
def isMultiple (n : Number) (divisor : Binary64) : Bool :=
  let x := n.toBinary64
  if divisor.isWhole then x.isWhole && x.units % divisor.units == 0
  else
    match x.div? divisor with
    | some q => q.negative && q.units % Binary64.unitsPerOne != 0 ||
        isTiny (q.units % Binary64.unitsPerOne)
    | .none => isDecimalMultiple x.shortest divisor.shortest

/-- Whether a value is the expected one.  Numbers may be apart by less than the distance between
one and the next number, as far as floating-point numbers tell. -/
def isExpected : Json → Json → Bool
  | .number expected, .number n =>
    let apart := (expected.toBinary64.signedUnits - n.toBinary64.signedUnits).natAbs
    (Binary64.ofRatio? false apart Binary64.unitsPerOne).any fun d => isTiny d.units
  | expected, v => v.same expected

/-- Whether no two of the values are the same. -/
def areUnique : List Json → Bool
  | [] => true
  | v :: rest => !rest.any v.same && areUnique rest

/-- Whether bytes are those of a JSON text. -/
def isJsonText (bytes : List UInt8) : Bool :=
  (String.fromUTF8? ⟨bytes.toArray⟩).any fun text => (Json.read text).toOption.isSome

/-- The violations of a string that has to be a JSON text, or to hold the bytes of one. -/
def reportJsonText (place : List Step) (encoded : Bool) (s : String) : List Violation :=
  if encoded then
    match Text.base64Bytes? s.toList with
    | some bytes => expect (isJsonText bytes) place (.notJsonText (.string s))
    | none => [⟨place, .notBase64 (.string s)⟩]
  else expect (Json.read s).toOption.isSome place (.notJsonText (.string s))

/-- Whether enough of a number of schemas are kept.  For arrays any schema is enough only if all
are kept. -/
def Demand.isMet (demand : Demand) (valid count : Nat) (v : Json) : Bool :=
  match demand with
  | .all => valid == count
  | .any => valid == count || (valid != 0 && !v.isArray)
  | .one => valid == 1

/-- The violations of a rule that looks at the value alone. -/
def Rule.reportPlain (place : List Step) : Rule → Json → List Violation
  | .types ts, v => expect (ts.any (·.accepts v)) place (.wrongType v ts)
  | .writtenTypes ts, v => expect (ts.any (·.acceptsWritten v)) place (.wrongType v ts)
  | .enum options, v => expect (options.any v.same) place (.notAnOption v options)
  | .const expected, v => expect (isExpected expected v) place (.notTheConstant expected)
  | .multipleOf d, .number n => expect (isMultiple n d) place (.notAMultiple (.number n) d)
  | .minimum b, .number n =>
    expect (b.units ≤ n.units) place (.belowMinimum (.number n) b)
  | .maximum b, .number n =>
    expect (n.units ≤ b.units) place (.aboveMaximum (.number n) b)
  | .exclusiveMinimum b, .number n =>
    expect (b.units < n.units) place (.notAboveMinimum (.number n) b)
  | .exclusiveMaximum b, .number n =>
    expect (n.units < b.units) place (.notBelowMaximum (.number n) b)
  | .minLength k, .string s => expect (k ≤ s.length) place (.tooShort (.string s) k)
  | .maxLength k, .string s => expect (s.length ≤ k) place (.tooLong (.string s) k)
  | .minItems k, .array a => expect (k ≤ a.length) place (.tooFewItems (.array a) k)
  | .maxItems k, .array a => expect (a.length ≤ k) place (.tooManyItems (.array a) k)
  | .minProperties k, .object o => expect (k ≤ o.length) place (.tooFewMembers (.object o) k)
  | .maxProperties k, .object o => expect (o.length ≤ k) place (.tooManyMembers (.object o) k)
  | .pattern source p, .string s =>
    match p.occursIn? s with
    | some found => expect found place (.noMatch (.string s) source)
    | none => [⟨place, .searchGivenUp⟩]
  | .format f, .string s => expect (f.accepts s) place (.wrongFormat (.string s) f)
  | .base64, .string s =>
    expect (Text.base64Bytes? s.toList).isSome place (.notBase64 (.string s))
  | .jsonText encoded, .string s => reportJsonText place encoded s
  | .uniqueItems, .array a => expect (areUnique a) place (.repeatedItems (.array a))
  | .required names, .object o => missing place names o
  | .dependentRequired names, .object o =>
    names.flatMap fun (name, others) =>
      if (o.lookup name).isSome then missing place others o else []
  | .noMembers, .object ((_, v) :: _) => [⟨place, .refused v⟩]
  | .noItems skip, .array a =>
    expect (a.length ≤ skip) place (.unexpectedItems (a.drop skip))
  | _, _ => []

mutual

/-- The violations of a schema by a value at a place. -/
def report (r : Resolver) (place : List Step) : Schema → Json → List Violation
  | .anything, _ => []
  | .nothing, v => [⟨place, .refused v⟩]
  | .rules rs, v => reportRules r place rs v

/-- The violations of a list of rules, rule by rule. -/
def reportRules (r : Resolver) (place : List Step) : List Rule → Json → List Violation
  | [], _ => []
  | rule :: rest, v => reportRule r place rule v ++ reportRules r place rest v

/-- The violations of a rule. -/
def reportRule (r : Resolver) (place : List Step) : Rule → Json → List Violation
  | .dependentSchemas schemas, .object o => reportDependent r place o schemas
  | .properties schemas, .object o => reportNamed r place o schemas
  | .patternProperties schemas, .object o => reportPatterned r place o schemas
  | .members named patterns others, .object o =>
    let parts := o.map fun (k, v) =>
      (k, reportMember r place k v named, reportMatching r place k v patterns)
    let isOther := fun (m : String × Option (List Violation) × Option (List Violation)) =>
      m.2.1.isNone && m.2.2.isNone
    let listed := fun (m : String × Option (List Violation) × Option (List Violation)) =>
      m.2.1.getD [] ++ m.2.2.getD []
    match others with
    | .nothing =>
      let left := (parts.filter isOther).map (·.1)
      parts.flatMap listed ++ expect left.isEmpty place (.unexpectedMembers left)
    | others =>
      (o.zip parts).flatMap fun ((k, v), m) =>
        if isOther m then report r (place ++ [.member k]) others v else listed m
  | .items skip schema, .array a =>
    (a.zipIdx.drop skip).flatMap fun (v, i) => report r (place ++ [.item i]) schema v
  | .prefixItems schemas, .array a => reportLeading r place 0 schemas a
  | .contains least most schema, .array a =>
    let count := (a.filter fun v => (report r place schema v).isEmpty).length
    expect (least ≤ count && most.all (count ≤ ·)) place (.notContained (.array a))
  | .propertyNames .nothing, .object o =>
    expect o.isEmpty place (.refused (.object o))
  | .propertyNames schema, .object o =>
    o.flatMap fun (k, _) =>
      (report r [] schema (.string k)).map fun v => ⟨place, v.cause⟩
  | .allOf schemas, v => reportAll r place schemas v
  | .anyOf schemas, v => expect (countValid r schemas v != 0) place (.noneOfAny v)
  | .oneOf schemas, v =>
    match countValid r schemas v with
    | 0 => [⟨place, .noneOfOne v⟩]
    | 1 => []
    | _ => [⟨place, .severalOfOne v⟩]
  | .not written schema, v =>
    expect (!(report r place schema v).isEmpty) place (.forbidden written v)
  | .conditional test yes no, v =>
    if (report r place test v).isEmpty then report r place yes v else report r place no v
  | .reference target, v => r.report target place v
  | .unevaluatedProperties parts, .object o =>
    let seen := (coveredAll r parts (.object o)).names
    let left := (o.map (·.1)).filter fun k => !seen.contains k
    expect left.isEmpty place (.unevaluatedMembers left)
  | .unevaluatedItems parts, .array a =>
    let seen := (coveredAll r parts (.array a)).items
    let left := a.zipIdx.filter fun (_, i) => !seen.contains i
    expect left.isEmpty place (.unevaluatedItems (left.map (·.1)))
  | rule, v => rule.reportPlain place v

/-- The violations of all schemas of a list. -/
def reportAll (r : Resolver) (place : List Step) : List Schema → Json → List Violation
  | [], _ => []
  | s :: rest, v => report r place s v ++ reportAll r place rest v

/-- How many schemas of a list a value keeps. -/
def countValid (r : Resolver) : List Schema → Json → Nat
  | [], _ => 0
  | s :: rest, v => (if (report r [] s v).isEmpty then 1 else 0) + countValid r rest v

/-- The violations of schemas that hold for objects with a member. -/
def reportDependent (r : Resolver) (place : List Step) (o : List (String × Json)) :
    List (String × Schema) → List Violation
  | [] => []
  | (name, s) :: rest =>
    (if (o.lookup name).isSome then report r place s (.object o) else []) ++
      reportDependent r place o rest

/-- The violations of members by the schemas of their names, in the order of the schemas. -/
def reportNamed (r : Resolver) (place : List Step) (o : List (String × Json)) :
    List (String × Schema) → List Violation
  | [] => []
  | (name, s) :: rest =>
    (match o.lookup name with
      | some v => report r (place ++ [.member name]) s v
      | none => []) ++ reportNamed r place o rest

/-- The violations of members by the schemas of patterns, in the order of the patterns. -/
def reportPatterned (r : Resolver) (place : List Step) (o : List (String × Json)) :
    List (Pattern.Search × Schema) → List Violation
  | [] => []
  | (p, s) :: rest =>
    (o.flatMap fun (k, v) =>
      if p.occursIn k then report r (place ++ [.member k]) s v else []) ++
      reportPatterned r place o rest

/-- The violations of one member by the schema of its name, if there is one. -/
def reportMember (r : Resolver) (place : List Step) (k : String) (v : Json) :
    List (String × Schema) → Option (List Violation)
  | [] => none
  | (name, s) :: rest =>
    if name = k then some (report r (place ++ [.member k]) s v) else reportMember r place k v rest

/-- The violations of one member by the schemas of the patterns its name matches, if there are
any. -/
def reportMatching (r : Resolver) (place : List Step) (k : String) (v : Json) :
    List (Pattern.Search × Schema) → Option (List Violation)
  | [] => none
  | (p, s) :: rest =>
    let behind := reportMatching r place k v rest
    if p.occursIn k then some (report r (place ++ [.member k]) s v ++ behind.getD []) else behind

/-- The violations of the first items by a schema each. -/
def reportLeading (r : Resolver) (place : List Step) (i : Nat) :
    List Schema → List Json → List Violation
  | s :: rest, v :: items =>
    report r (place ++ [.item i]) s v ++ reportLeading r place (i + 1) rest items
  | _, _ => []

/-- What a list of coverages looks at in a value. -/
def coveredAll (r : Resolver) : List Coverage → Json → Seen
  | [], _ => .none
  | part :: rest, v => (covered r part v).union (coveredAll r rest v)

/-- What a coverage looks at in a value. -/
def covered (r : Resolver) : Coverage → Json → Seen
  | .named name schema, .object o =>
    match o.lookup name with
    | some v => if (report r [] schema v).isEmpty then ⟨[name], []⟩ else .none
    | none => .none
  | .matching p, .object o => ⟨(o.map (·.1)).filter p.occursIn, []⟩
  | .members schema, .object o =>
    ⟨(o.filter fun (_, v) => (report r [] schema v).isEmpty).map (·.1), []⟩
  | .everyItem, .array a => ⟨[], List.range a.length⟩
  | .firstItems count, .array a => ⟨[], (List.range a.length).take count⟩
  | .items schema, .array a =>
    ⟨[], (a.zipIdx.filter fun (v, _) => (report r [] schema v).isEmpty).map (·.2)⟩
  | .group demand schemas parts, v =>
    if demand.isMet (countValid r schemas v) schemas.length v then coveredAll r parts v else .none
  | .conditional test yes no, v =>
    if (report r [] test v).isEmpty then coveredAll r yes v else coveredAll r no v
  | .reference target, v => r.covered target v
  | _, _ => .none

end

/-! ## Documents -/

/-- The ways to follow references, where a chain of references may have `hops` links. -/
def Document.resolver (d : Document) : Nat → Resolver
  | 0 => .none
  | hops + 1 =>
    let inner := d.resolver hops
    { report := fun target place v =>
        match d.definitions.lookup target with
        | some s => Schema.report inner place s v
        | none => []
      covered := fun target v =>
        match d.coverages.lookup target with
        | some parts => Schema.coveredAll inner parts v
        | none => .none }

mutual

/-- How deep the containers of a value are nested, counting the value itself. -/
def depth : Json → Nat
  | .array items => depthItems items + 1
  | .object members => depthMembers members + 1
  | _ => 1

/-- How deep the containers of the items are nested. -/
def depthItems : List Json → Nat
  | [] => 0
  | v :: rest => max (depth v) (depthItems rest)

/-- How deep the containers of the members are nested. -/
def depthMembers : List (String × Json) → Nat
  | [] => 0
  | (_, v) :: rest => max (depth v) (depthMembers rest)

end

/-- How many references can follow each other while a value is checked: at each level of the value
each definition is of use once. -/
def Document.hops (d : Document) (v : Json) : Nat :=
  (d.definitions.length + d.coverages.length) * (depth v + 1)

/-- The violations of a document by a value. -/
def Document.report (d : Document) (v : Json) : List Violation :=
  Schema.report (d.resolver (d.hops v)) [] d.root v

/-- Whether a value keeps a document. -/
def Document.accepts (d : Document) (v : Json) : Bool := (d.report v).isEmpty

end ServicePlan.Schema
