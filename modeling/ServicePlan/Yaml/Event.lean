import ServicePlan.Yaml.Token

/-!
# Events of YAML documents

The tokens of a text are put together to nodes, which are listed as events: a scalar is one event,
and a collection starts with one event and ends with another.  A text holds at most one document.

* `Event`: the events.
* `Parse`: what is left of the tokens and the events so far.
* `Event.ofTokens?`: the events of the document, if the tokens make one up.
-/

namespace ServicePlan.Yaml

/-- What may stand in front of a node: an anchor and a tag. -/
structure Properties where
  /-- The name of the anchor. -/
  anchor : Option String := none
  /-- The whole tag. -/
  tag : Option String := none
  deriving DecidableEq, Repr

/-- An event. -/
inductive Event
  /-- A reference to an anchored node. -/
  | reference (name : String)
  /-- A scalar, plain or not. -/
  | scalar (properties : Properties) (text : String) (plain : Bool)
  | sequenceStart (properties : Properties)
  | sequenceEnd
  | mappingStart (properties : Properties)
  | mappingEnd
  deriving DecidableEq, Repr

/-- The whole tag of the node that an event starts. -/
def Event.tag? : Event → Option String
  | scalar p _ _ | sequenceStart p | mappingStart p => p.tag
  | _ => none

/-- Tokens and events while nodes are put together. -/
structure Parse where
  /-- The tokens that are left. -/
  tokens : List Token
  /-- The events so far, in reverse order. -/
  events : List Event := []
  /-- What the tag handles stand for. -/
  handles : List (String × String) := []

namespace Parse

/-- Adds an event. -/
def emit (p : Parse) (e : Event) : Parse := { p with events := e :: p.events }

/-- Steps over a token. -/
def next (p : Parse) : Parse := { p with tokens := p.tokens.drop 1 }

/-- A node without any text. -/
def emitEmpty (p : Parse) : Parse := p.emit (.scalar {} "" true)

/-- The whole tag of a handle and what follows it. -/
def resolveTag (p : Parse) (handle suffix : String) : Option String :=
  if handle = "" then some suffix
  else (p.handles.lookup handle).map (· ++ suffix)

/-- Reads an anchor and a tag, in any order. -/
def properties (p : Parse) : Option (Properties × Parse) :=
  match p.tokens with
  | .anchor a :: .tag h s :: rest => do
    let t ← p.resolveTag h s
    some (⟨some a, some t⟩, { p with tokens := rest })
  | .anchor a :: rest => some (⟨some a, none⟩, { p with tokens := rest })
  | .tag h s :: .anchor a :: rest => do
    let t ← p.resolveTag h s
    some (⟨some a, some t⟩, { p with tokens := rest })
  | .tag h s :: rest => do
    let t ← p.resolveTag h s
    some (⟨none, some t⟩, { p with tokens := rest })
  | _ => some ({}, p)

mutual

/-- Puts a node together.  Block collections are only looked for where `block` is set, and
sequences that are not indented only where `indentless` is. -/
def node (block indentless : Bool) : Nat → Parse → Option Parse
  | 0, _ => none
  | fuel + 1, p =>
    match p.tokens with
    | .reference name :: _ => some (p.next.emit (.reference name))
    | _ => do
      let (properties, p) ← p.properties
      match p.tokens, block, indentless with
      | .blockEntry :: _, _, true => indentlessEntries fuel (p.emit (.sequenceStart properties))
      | .scalar text plain :: _, _, _ => some (p.next.emit (.scalar properties text plain))
      | .flowSequenceStart :: _, _, _ =>
        flowItems true fuel (p.next.emit (.sequenceStart properties))
      | .flowMappingStart :: _, _, _ =>
        flowEntries true fuel (p.next.emit (.mappingStart properties))
      | .blockSequenceStart :: _, true, _ =>
        blockItems fuel (p.next.emit (.sequenceStart properties))
      | .blockMappingStart :: _, true, _ =>
        blockEntries fuel (p.next.emit (.mappingStart properties))
      | _, _, _ =>
        if properties = {} then none else some (p.emit (.scalar properties "" true))

/-- Puts the items of a block sequence together. -/
def blockItems : Nat → Parse → Option Parse
  | 0, _ => none
  | fuel + 1, p =>
    match p.tokens with
    | .blockEntry :: rest => do
      let p := p.next
      let p ← match rest with
        | .blockEntry :: _ | .blockEnd :: _ => some p.emitEmpty
        | _ => node true false fuel p
      blockItems fuel p
    | .blockEnd :: _ => some (p.next.emit .sequenceEnd)
    | _ => none

/-- Puts the items of a sequence together that is not indented. -/
def indentlessEntries : Nat → Parse → Option Parse
  | 0, _ => none
  | fuel + 1, p =>
    match p.tokens with
    | .blockEntry :: rest => do
      let p := p.next
      let p ← match rest with
        | .blockEntry :: _ | .key :: _ | .value :: _ | .blockEnd :: _ => some p.emitEmpty
        | _ => node true false fuel p
      indentlessEntries fuel p
    | _ => some (p.emit .sequenceEnd)

/-- Puts the entries of a block mapping together. -/
def blockEntries : Nat → Parse → Option Parse
  | 0, _ => none
  | fuel + 1, p =>
    match p.tokens with
    | .key :: rest => do
      let p := p.next
      let p ← match rest with
        | .key :: _ | .value :: _ | .blockEnd :: _ => some p.emitEmpty
        | _ => node true true fuel p
      let p ← match p.tokens with
        | .value :: rest =>
          let p := p.next
          match rest with
          | .key :: _ | .value :: _ | .blockEnd :: _ => some p.emitEmpty
          | _ => node true true fuel p
        | _ => some p.emitEmpty
      blockEntries fuel p
    | .blockEnd :: _ => some (p.next.emit .mappingEnd)
    | _ => none

/-- Puts the items of a flow sequence together; an item may be a mapping with one entry. -/
def flowItems (first : Bool) : Nat → Parse → Option Parse
  | 0, _ => none
  | fuel + 1, p => do
    let p ← match p.tokens with
      | .flowSequenceEnd :: _ => some p
      | .flowEntry :: _ => if first then some p else some p.next
      | _ => if first then some p else none
    match p.tokens with
    | .flowSequenceEnd :: _ => some (p.next.emit .sequenceEnd)
    | .key :: _ => do
      let p ← flowPair fuel (p.next.emit (.mappingStart {}))
      flowItems false fuel (p.emit .mappingEnd)
    | _ => do
      let p ← node false false fuel p
      flowItems false fuel p

/-- Puts the only entry of a mapping together that is an item of a flow sequence.  Where the key
is missing, the token in its place is dropped. -/
def flowPair : Nat → Parse → Option Parse
  | 0, _ => none
  | fuel + 1, p => do
    let p ← match p.tokens with
      | .value :: _ | .flowEntry :: _ | .flowSequenceEnd :: _ => some p.next.emitEmpty
      | _ => node false false fuel p
    match p.tokens with
    | .value :: rest =>
      let p := p.next
      match rest with
      | .flowEntry :: _ | .flowSequenceEnd :: _ => some p.emitEmpty
      | _ => node false false fuel p
    | _ => some p.emitEmpty

/-- Puts the entries of a flow mapping together. -/
def flowEntries (first : Bool) : Nat → Parse → Option Parse
  | 0, _ => none
  | fuel + 1, p => do
    let p ← match p.tokens with
      | .flowMappingEnd :: _ => some p
      | .flowEntry :: _ => if first then some p else some p.next
      | _ => if first then some p else none
    match p.tokens with
    | .flowMappingEnd :: _ => some (p.next.emit .mappingEnd)
    | .key :: rest => do
      let p := p.next
      let p ← match rest with
        | .value :: _ | .flowEntry :: _ | .flowMappingEnd :: _ => some p.emitEmpty
        | _ => node false false fuel p
      let p ← match p.tokens with
        | .value :: rest =>
          let p := p.next
          match rest with
          | .flowEntry :: _ | .flowMappingEnd :: _ => some p.emitEmpty
          | _ => node false false fuel p
        | _ => some p.emitEmpty
      flowEntries false fuel p
    | _ => do
      let p ← node false false fuel p
      flowEntries false fuel p.emitEmpty

end

/-- What the tag handles stand for unless a directive says otherwise. -/
def usualHandles : List (String × String) := [("!", "!"), ("!!", "tag:yaml.org,2002:")]

/-- Reads the directives of a document: at most one version, which must be known, and each handle
at most once. -/
def directives (seen : Bool) : List Token → List (String × String) →
    Option (List (String × String) × List Token)
  | .version major minor :: rest, handles =>
    if seen ∨ major ≠ 1 ∨ (minor ≠ 1 ∧ minor ≠ 2) then none else directives true rest handles
  | .handle name start :: rest, handles =>
    if (handles.lookup name).isSome then none
    else directives seen rest (handles ++ [(name, start)])
  | tokens, handles => some (handles, tokens)

/-- Puts the node of a document together, or an empty one where there is none. -/
def content (p : Parse) : Option Parse :=
  match p.tokens with
  | .version _ _ :: _ | .handle _ _ :: _ | .documentStart :: _ | .documentEnd :: _ | [] =>
    some p.emitEmpty
  | _ => node true false (4 * p.tokens.length + 16) p

/-- Makes sure that nothing but end markers is left. -/
def ending : List Token → Option Unit
  | .documentEnd :: rest => ending rest
  | [] => some ()
  | _ => none

end Parse

/-- The events of the document that tokens make up; there are none without a token. -/
def Event.ofTokens? (tokens : List Token) : Option (List Event) := do
  let explicit (tokens : List Token) : Option Parse := do
    let (handles, tokens) ← Parse.directives false tokens []
    match tokens with
    | .documentStart :: rest => (Parse.mk rest [] (handles ++ Parse.usualHandles)).content
    | _ => none
  match tokens with
  | [] => some []
  | .version _ _ :: _ | .handle _ _ :: _ | .documentStart :: _ => do
    let p ← explicit tokens
    Parse.ending p.tokens
    some p.events.reverse
  | tokens => do
    let p ← Parse.node true false (4 * tokens.length + 16) ⟨tokens, [], Parse.usualHandles⟩
    Parse.ending p.tokens
    some p.events.reverse

end ServicePlan.Yaml
