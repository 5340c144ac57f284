import ServicePlan.Schema.Keyword
import ServicePlan.Schema.Report

/-!
# Schema documents

A schema document is a JSON value.  Its resources are gathered first; a reference to one that is not
there is reported before anything else.  Then the value is checked against the schema of schemas, and
the first violation is reported.  At last its keywords become rules, in their order.

* `Document.assemble`: the document of a value, whose library is known.
* `Schema.ofSchemas`: the document that schema documents keep.
* `Document.ofJson`: the document of a value.
-/

namespace ServicePlan.Schema

/-! ## Schemas and coverages -/

/-- The links among the keywords of a schema. -/
def linksOf (d : Draft) (written : List (String × Json)) : List Link :=
  let named (keyword : String) : List Link :=
    (((written.lookup keyword).bind Json.string?).toList).map .named
  named "$ref" ++
    match d with
    | .draft2020 => named "$dynamicRef"
    | .draft2019 => if (written.lookup "$recursiveRef").isSome then [.recursive] else []
    | _ => []

/-- What the keywords of a schema itself look at among the members. -/
def memberParts (inside : Inside) (written : List (String × Json)) : Assembly (List Coverage) := do
  let value (keyword : String) : Json := (written.lookup keyword).getD .null
  let named ← ofMembers inside (value "properties")
  let others ← (written.lookup "additionalProperties").mapM inside
  let patterns ← (membersOf (value "patternProperties")).mapM fun (source, v) => patternOf v source
  let left ← (written.lookup "unevaluatedProperties").mapM inside
  pure (named.map (fun (name, s) => .named name s) ++ others.toList.map .members ++
    patterns.map .matching ++ left.toList.map .members)

/-- What the keywords of a schema itself look at among the items. -/
def itemParts (inside : Inside) (d : Draft) (written : List (String × Json)) :
    Assembly (List Coverage) := do
  let left ← (written.lookup "unevaluatedItems").mapM inside
  let contained ←
    if d = .draft2020 then (written.lookup "contains").mapM inside else pure none
  let leading : List Coverage :=
    if d = .draft2020 then
      (written.lookup "prefixItems").toList.map fun v => .firstItems (itemsOf v).length
    else []
  let listed : List Coverage :=
    match written.lookup "items" with
    | some (.array items) =>
      [if (written.lookup "additionalItems").isSome then .everyItem else .firstItems items.length]
    | some _ => [.everyItem]
    | none => []
  pure (leading ++ listed ++ (contained.toList ++ left.toList).map .items)

mutual

/-- The schema of a value, whose setting takes account of its names already. -/
def ofContents : Nat → Setting → Json → Assembly Schema
  | 0, _, _ => pure .anything
  | _, _, .bool true => pure .anything
  | _, _, .bool false => pure .nothing
  | fuel + 1, s, .object o =>
    if !s.draft.isModern && (o.lookup "$ref").isSome then do
      pure (.rules (← (o.filter fun e => e.1 = "$ref").flatMapM (keywordRules fuel s o)))
    else do pure (.rules (← o.flatMapM (keywordRules fuel s o)))
  | _, _, v => throw (.invalid (.wrongType v [.boolean, .object]))

/-- The schema of a value inside another one. -/
def ofInside : Nat → Setting → Json → Assembly Schema
  | 0, _, _ => pure .anything
  | fuel + 1, s, v => do ofContents fuel (← Assembly.ofReference (s.within v)) v

/-- The rules of a keyword, in view of the keywords beside it. -/
def keywordRules : Nat → Setting → List (String × Json) → String × Json → Assembly (List Rule)
  | 0, _, _, _ => pure []
  | fuel + 1, s, written, (keyword, v) =>
    if !s.heeds keyword then pure []
    else
      match keyword, v with
      | "$ref", .string text | "$dynamicRef", .string text => linkRules fuel s (.named text)
      | "$recursiveRef", _ => linkRules fuel s .recursive
      | "unevaluatedItems", _ => do
        pure [.unevaluatedItems (← partsOf fuel .items s written)]
      | "unevaluatedProperties", _ => do
        pure [.unevaluatedProperties (← partsOf fuel .members s written)]
      | keyword, v =>
        if schemaKeywords.contains keyword then
          schemaRules (ofInside fuel s) s.draft written keyword v
        else liftM (plainRules s.draft written keyword v)

/-- The rules of a link. -/
def linkRules : Nat → Setting → Link → Assembly (List Rule)
  | 0, _, _ => pure []
  | fuel + 1, s, link => do
    match ← Assembly.meet ⟨link, s, none⟩ with
    | .inl place => do
      pure [.allOf [← ofContents fuel (← Assembly.settingAt place) place.resource.contents]]
    | .inr name => pure [.reference name]

/-- What the keywords of a schema look at. -/
def partsOf : Nat → Extent → Setting → List (String × Json) → Assembly (List Coverage)
  | 0, _, _, _ => pure []
  | fuel + 1, extent, s, written => do
    let inside := ofInside fuel s
    let own ←
      match extent with
      | .members => memberParts inside written
      | .items => itemParts inside s.draft written
    let dependent ←
      (membersOf ((written.lookup "dependentSchemas").getD .null)).flatMapM fun (_, v) =>
        partsOf fuel extent s (membersOf v)
    let condition ←
      match written.lookup "if" with
      | some (.object o) => do
        let test ← inside (.object o)
        let met ← partsOf fuel extent s o
        let yes ← partsOf fuel extent s (membersOf ((written.lookup "then").getD .null))
        let no ← partsOf fuel extent s (membersOf ((written.lookup "else").getD .null))
        pure [Coverage.conditional test (met ++ yes) no]
      | _ => pure []
    let groups ← [("allOf", Demand.all), ("anyOf", Demand.any), ("oneOf", Demand.one)].flatMapM
      fun (keyword, demand) => do
        match written.lookup keyword with
        | some v => do
          let objects := (itemsOf v).filter Json.isObject
          let schemas ← objects.mapM inside
          pure [Coverage.group demand schemas
            (← objects.flatMapM fun v => partsOf fuel extent s (membersOf v))]
        | none => pure []
    let linked ← (linksOf s.draft written).flatMapM (linkParts fuel extent s)
    pure (own ++ dependent ++ condition ++ groups ++ linked)

/-- What a link looks at. -/
def linkParts : Nat → Extent → Setting → Link → Assembly (List Coverage)
  | 0, _, _, _ => pure []
  | fuel + 1, extent, s, link => do
    match ← Assembly.meet ⟨link, s, some extent⟩ with
    | .inl place => do
      partsOf fuel extent (← Assembly.settingAt place) (membersOf place.resource.contents)
    | .inr name => pure [.reference name]

end

/-! ## Documents -/

/-- Number of values in all resources of a library. -/
def Library.size (l : Library) : Nat :=
  l.resources.foldl (fun n e => n + Schema.size e.2.contents) 1

/-- A bound for how deep schemas are nested, links included: a link is followed at once only at its
first occurrence, so each pair of a base and a text counts once. -/
def Library.reach (l : Library) : Nat := 8 * l.size * l.size * l.size

/-- Adds what the requests ask for, until no new request comes up; `done` requests have been looked
after. -/
def serveRequests (fuel : Nat) : Nat → Nat → Document → Assembly Document
  | 0, _, d => pure d
  | rounds + 1, done, d => do
    match (← get).requests[done]? with
    | none => pure d
    | some r => do
      modify fun p => { p with followed := [] }
      let (contents, s) ← Assembly.target r
      let name := s!"{done}"
      match r.extent with
      | none => do
        let schema ← ofInside fuel s contents
        serveRequests fuel rounds (done + 1)
          { d with definitions := d.definitions ++ [(name, schema)] }
      | some extent => do
        let parts ← partsOf fuel extent s (membersOf contents)
        serveRequests fuel rounds (done + 1)
          { d with coverages := d.coverages ++ [(name, parts)] }

/-- The document of a value, whose name and library are known.  The draft that the value itself names
decides on the vocabularies only. -/
def Document.assemble (library : Library) (name : Uri) (v : Json) :
    Except DocumentFault Document := do
  let s : Setting := ⟨⟨name, []⟩, .draft2020, library.vocabulariesOf .draft2020 v⟩
  let reach := library.reach
  let whole : Assembly Document := do
    let root ← ofContents reach s v
    serveRequests reach reach 0 { root, definitions := [] }
  (·.1) <$> whole library {}

/-- The schema of schema documents. -/
def ofSchemas : Document :=
  match Library.nameOf Meta.Draft2020.root with
  | .ok name =>
    ((Document.assemble Library.standard name Meta.Draft2020.root).toOption).getD ⟨.anything, [], []⟩
  | .error _ => ⟨.anything, [], []⟩

/-- The schema document that a JSON value stands for. -/
def Document.ofJson (v : Json) : Except DocumentFault Document := do
  let name ← (Library.nameOf v).mapError .badReference
  let library ← (Library.ofDocument v).mapError .badReference
  match ofSchemas.report v with
  | violation :: _ => .error (.invalid violation.cause)
  | [] => Document.assemble library name v

end ServicePlan.Schema
