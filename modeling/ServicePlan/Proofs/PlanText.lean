import ServicePlan.Proofs.Json.Writing
import ServicePlan.Proofs.Plan
import ServicePlan.Proofs.Records

/-!
# Plans are read back

A plan is written in two ways: as a document of its own, and by the sink that writes documents.  They
list the members of objects in different orders, but they are read as one value.  From this value the
tags and the intents of the plan can be decoded, and pushing the intents one after another on a new
plan makes up the plan again, with all that it knows.

* `Intent.decode_encode`: intents are decoded from their values.
* `Plan.sorted_listing`: both documents are of one value.
* `Plan.Ordered.pushAll_prefix`: pushing the first intents of a plan on a new plan.
* `Plan.reads_back`: all of it, for the plans that pushes make up.
-/

namespace ServicePlan

/-! ## Intents -/

theorem Category.decode_label (c : Category) : Category.decode (.string c.label) = .ok c := by
  cases c <;> rfl

theorem Phase.decode_label (p : Phase) : Phase.decode (.string p.label) = .ok p := by
  cases p <;> rfl

namespace Intent

theorem decode_encodeHandles (handles : List Handle) :
    Decode.list decodeHandle (encodeHandles handles) = .ok handles := by
  have hlist : Decode.list decodeHandle (.array (handles.map fun h => .string h.text)) =
      .ok (handles.map id) := Decode.list_map fun _ _ => rfl
  rwa [List.map_id, ← Function.comp_def Json.string, ← List.map_map] at hlist

/-- An intent is decoded from its value. -/
theorem decode_encode (i : Intent) : decode i.encode = .ok i := by
  have hmembers : ["attributes", "category", "dependsOn", "handle", "phase", "physical_name"].Perm
      (fields.fields.map (·.name)) := by decide
  refine Fields.Takes.decode_eq_ok shape (.seq (.seq (.seq (.seq (.seq (.map ?handle mk) ?category)
    ?phase) ?name) ?attributes) ?dependsOn) (by decide) hmembers
  case handle => exact Fields.takes_required rfl rfl
  case category => exact Fields.takes_required rfl (Category.decode_label i.category)
  case phase => exact Fields.takes_required rfl (Phase.decode_label i.phase)
  case name => exact Fields.takes_required rfl rfl
  case attributes => exact Fields.takes_required rfl rfl
  case dependsOn => exact Fields.takes_required rfl (decode_encodeHandles i.dependsOn)

/-- The attributes of an intent are a value in order without floating-point numbers, and their
containers are not nested too deep for a document, where three others are around them. -/
structure Writable (i : Intent) : Prop where
  ordered : i.attributes.Ordered
  fits : i.attributes.Fits (Json.maxDepth - 3)

/-- The members of an intent, in either order. -/
theorem Writable.forall_mem {i : Intent} (h : i.Writable) {members : List (String × Json)}
    (hmembers : members ⊆ [("attributes", i.attributes), ("category", .string i.category.label),
      ("dependsOn", encodeHandles i.dependsOn), ("handle", .string i.handle.text),
      ("phase", .string i.phase.label), ("physical_name", .string i.physicalName)]) :
    ∀ e ∈ members, e.2.Fits (Json.maxDepth - 3) := by
  intro e he
  have hmem := hmembers he
  simp only [List.mem_cons, List.not_mem_nil, or_false] at hmem
  rcases hmem with rfl | rfl | rfl | rfl | rfl | rfl
  · exact h.fits
  · exact Json.fits_string _
  · exact Json.fits_strings _
  · exact Json.fits_string _
  · exact Json.fits_string _
  · exact Json.fits_string _

theorem Writable.fits_listing {i : Intent} (h : i.Writable) :
    i.listing.Fits (Json.maxDepth - 2) :=
  Json.fits_object (h.forall_mem (by simp))

theorem Writable.fits_encode {i : Intent} (h : i.Writable) : i.encode.Fits (Json.maxDepth - 2) :=
  Json.fits_object (h.forall_mem (List.Subset.refl _))

/-- The members of an intent are listed in another order than that of their names. -/
theorem Writable.sorted_listing {i : Intent} (h : i.Writable) : i.listing.sorted = i.encode := by
  have hattributes := Json.sorted_of_ordered _ h.ordered
  have hhandles : (encodeHandles i.dependsOn).sorted = encodeHandles i.dependsOn :=
    Json.sorted_of_ordered _ (Json.ordered_strings _)
  change Json.ofMembers [("handle", .string i.handle.text), ("category", .string i.category.label),
    ("phase", .string i.phase.label), ("physical_name", .string i.physicalName),
    ("attributes", i.attributes.sorted), ("dependsOn", (encodeHandles i.dependsOn).sorted)] = _
  rw [hattributes, hhandles]
  simp only [Json.ofMembers, List.foldl_cons, List.foldl_nil, Table.insertEntry, String.reduceLT,
    String.reduceEq, reduceIte, encode]

theorem Writable.ordered_encode {i : Intent} (h : i.Writable) : i.encode.Ordered := by
  have hnames : ["attributes", "category", "dependsOn", "handle", "phase", "physical_name"].Pairwise
      (· < ·) := by decide
  refine Json.ordered_object hnames ?_
  simp only [List.forall_mem_cons]
  exact ⟨h.ordered, trivial, Json.ordered_strings _, trivial, trivial, trivial, by simp⟩

end Intent

/-! ## Documents -/

namespace Plan

variable {p : Plan}

/-- Both documents are of one value: that of the plan with all members in the order of their
names. -/
theorem sorted_listing (h : ∀ i ∈ p.intents, i.Writable) : p.listing.sorted = p.encode := by
  have htags : (Json.ofTable .string p.tags).sorted = .ofTable .string p.tags :=
    Json.sorted_of_ordered _ (Json.ordered_ofTable_string _)
  have hintents : (Json.array (p.intents.map Intent.listing)).sorted =
      .array (p.intents.map Intent.encode) := by
    rw [Json.sorted, Json.mapText, Json.mapItems_eq_map, List.map_map]
    exact congrArg Json.array (List.map_congr_left fun i hi => (h i hi).sorted_listing)
  change Json.ofMembers [("tags", (Json.ofTable .string p.tags).sorted),
    ("intents", (Json.array (p.intents.map Intent.listing)).sorted)] = _
  rw [htags, hintents]
  simp only [Json.ofMembers, List.foldl_cons, List.foldl_nil, Table.insertEntry, String.reduceLT,
    String.reduceEq, reduceIte, encode, encodeDocument]

theorem ordered_encode (h : ∀ i ∈ p.intents, i.Writable) : p.encode.Ordered := by
  have hintents : (Json.array (p.intents.map Intent.encode)).Ordered :=
    Json.orderedItems_iff.2 (List.forall_mem_map.2 fun i hi => (h i hi).ordered_encode)
  have hnames : ["intents", "tags"].Pairwise (· < ·) := by decide
  refine Json.ordered_object hnames ?_
  simp only [List.forall_mem_cons]
  exact ⟨hintents, Json.ordered_ofTable_string _, by simp⟩

theorem fits_listing (h : ∀ i ∈ p.intents, i.Writable) : p.listing.Fits Json.maxDepth := by
  have hintents : (Json.array (p.intents.map Intent.listing)).Fits (Json.maxDepth - 1) :=
    Json.fits_array (List.forall_mem_map.2 fun i hi => (h i hi).fits_listing)
  exact Json.fits_object (List.forall_mem_cons.2 ⟨Json.fits_ofTable_string _,
    List.forall_mem_singleton.2 hintents⟩)

theorem fits_encode (h : ∀ i ∈ p.intents, i.Writable) : p.encode.Fits Json.maxDepth := by
  have hintents : (Json.array (p.intents.map Intent.encode)).Fits (Json.maxDepth - 1) :=
    Json.fits_array (List.forall_mem_map.2 fun i hi => (h i hi).fits_encode)
  exact Json.fits_object (List.forall_mem_cons.2 ⟨hintents,
    List.forall_mem_singleton.2 (Json.fits_ofTable_string _)⟩)

/-- The text of a plan is read as its value. -/
theorem read_toText (h : ∀ i ∈ p.intents, i.Writable) : Json.read p.toText = .ok p.encode := by
  have hread := Json.read_pretty (fits_listing h) "" (by simp)
  rwa [String.append_empty, sorted_listing h] at hread

/-! ## The sink that writes documents -/

theorem provisionAll_document (room : Option Nat) (intents : List Intent) (page : Sink.Page) :
    (Sink.document room).provisionAll intents page =
      ({ page with intents := page.intents ++ intents }, none) := by
  induction intents generalizing page with
  | nil =>
    rw [List.append_nil]
    rfl
  | cons i rest ih =>
    have hfirst : (Sink.document room).provision i page =
        ({ page with intents := page.intents ++ [i] }, none) := rfl
    simp only [Sink.provisionAll, hfirst, ih, List.append_assoc, List.singleton_append]

/-- All intents are taken, so it depends on the room alone what comes of a plan. -/
theorem handTo_document (p : Plan) (room : Option Nat) :
    p.handTo (Sink.document room) {} =
      (Sink.document room).finish p.tags { intents := p.intents } :=
  handTo_of_taken (provisionAll_document room p.intents {})

theorem exists_apply_document (p : Plan) : ∃ page, p.apply (Sink.document none) {} = .ok page := by
  rw [apply, handTo_document]
  exact ⟨_, rfl⟩

/-- What is written unless there is a fault. -/
theorem written_of_apply {room : Option Nat} {page : Sink.Page}
    (h : p.apply (Sink.document room) {} = .ok page) : page.written = p.encode.pretty ++ "\n" := by
  have hwritten : "" ++ Sink.documentText p.intents p.tags ++ "\n" = p.encode.pretty ++ "\n" := by
    rw [String.empty_append]
    rfl
  rw [apply, handTo_document] at h
  cases room with
  | none =>
    cases h
    exact hwritten
  | some room =>
    simp only [Sink.document] at h
    split at h
    · rename_i hfinish
      split at hfinish
      · cases hfinish
      · split at hfinish
        · cases hfinish
        · cases hfinish
          cases h
          exact hwritten
    · cases h

/-- What is written is read as the value of the plan. -/
theorem read_written (h : ∀ i ∈ p.intents, i.Writable) {room : Option Nat} {page : Sink.Page}
    (hpage : p.apply (Sink.document room) {} = .ok page) :
    Json.read page.written = .ok p.encode := by
  have hread := Json.read_pretty (fits_encode h) "\n" (by simp [Json.isBlank])
  rw [Json.sorted_of_ordered _ (ordered_encode h)] at hread
  rw [written_of_apply hpage]
  exact hread

/-! ## Pushing the intents again -/

/-- The plan that lists some intents and knows their resources. -/
def ofIntents (tags : Table String) (intents : List Intent) : Plan :=
  ⟨tags, intents, intents.map (·.handle)⟩

theorem contains_ofIntents {tags : Table String} {intents : List Intent} {h : Handle} :
    (ofIntents tags intents).contains h = true ↔ h ∈ intents.map (·.handle) :=
  List.contains_iff_mem

theorem add_ofIntents (tags : Table String) (intents : List Intent) (i : Intent) :
    (ofIntents tags intents).add i = ofIntents tags (intents ++ [i]) := by
  simp [ofIntents, add]

theorem pushAll_concat (p : Plan) (attempts : List Intent) (i : Intent) :
    p.pushAll (attempts ++ [i]) = ((p.pushAll attempts).push i).1 := by
  rw [pushAll, List.foldl_append]
  rfl

/-- An intent of a plan in order is accepted by the plan of the intents before it. -/
theorem Ordered.push_ofIntents (hp : p.Ordered) (tags : Table String) {before after : List Intent}
    {i : Intent} (hsplit : p.intents = before ++ i :: after) :
    (ofIntents tags before).push i = (ofIntents tags (before ++ [i]), .ok i.handle) := by
  have hnew : i.handle ∉ before.map (·.handle) := by
    have hdistinct := hp.distinct
    rw [handles, hsplit, List.map_append, List.map_cons, List.nodup_middle] at hdistinct
    exact fun hmem => (List.nodup_cons.1 hdistinct).1 (List.mem_append_left _ hmem)
  have hdeps := hp.earlier before i after hsplit
  rcases (ofIntents tags before).push_cases i with
    ⟨hknown, -⟩ | ⟨missing, hmissing, -, hgone, -⟩ | ⟨-, -, hpush⟩
  · exact absurd (contains_ofIntents.1 hknown) hnew
  · rw [contains_ofIntents.2 (hdeps missing hmissing)] at hgone
    cases hgone
  · rw [hpush, add_ofIntents]

/-- So pushing the first intents of a plan in order on a new plan gives the plan of them. -/
theorem Ordered.pushAll_prefix (hp : p.Ordered) (tags : Table String) {before after : List Intent}
    (hsplit : p.intents = before ++ after) :
    (new tags).pushAll before = ofIntents tags before := by
  induction before using List.reverseRecOn generalizing after with
  | nil => rfl
  | append_singleton before i ih =>
    rw [List.append_assoc, List.singleton_append] at hsplit
    rw [pushAll_concat, ih hsplit, hp.push_ofIntents tags hsplit]

/-- A push leaves the tags, and a plan that lists what it knows goes on to do so. -/
theorem push_eq_ofIntents {tags : Table String} (h : p = ofIntents tags p.intents) (i : Intent) :
    (p.push i).1 = ofIntents tags (p.push i).1.intents := by
  rcases p.push_cases i with ⟨-, hpush⟩ | ⟨_, -, -, -, hpush⟩ | ⟨-, -, hpush⟩
  · rw [hpush]
    exact h
  · rw [hpush]
    exact h
  · rw [hpush, h, add_ofIntents]
    rfl

theorem pushAll_eq_ofIntents {tags : Table String} (attempts : List Intent)
    (h : p = ofIntents tags p.intents) :
    p.pushAll attempts = ofIntents tags (p.pushAll attempts).intents := by
  induction attempts generalizing p with
  | nil => exact h
  | cons i rest ih => exact ih (push_eq_ofIntents h i)

/-- **Plans are read back.**  Let pushes on a new plan make up a plan whose attributes have no
floating-point numbers and are not nested too deep for the reader.  Its text and what the sink writes
are read as one value.  The tags and the intents are decoded from this value, the intents in their
order.  Each of these is accepted when they are pushed in that order on a new plan, which becomes the
same plan. -/
theorem reads_back (tags : Table String) (attempts : List Intent)
    (h : ∀ i ∈ ((new tags).pushAll attempts).intents, i.Writable) :
    let p := (new tags).pushAll attempts
    (∃ page, p.apply (Sink.document none) {} = .ok page) ∧
    ∃ document, Json.read p.toText = .ok document ∧
      (∀ room page, p.apply (Sink.document room) {} = .ok page →
        Json.read page.written = .ok document) ∧
      (∃ v, document.member? "tags" = some v ∧ Decode.table Decode.string v = .ok tags) ∧
      (∃ v, document.member? "intents" = some v ∧ Decode.list Intent.decode v = .ok p.intents) ∧
      (∀ before i after, p.intents = before ++ i :: after →
        ((new tags).pushAll before).push i =
          ((new tags).pushAll (before ++ [i]), .ok i.handle)) ∧
      (new tags).pushAll p.intents = p := by
  intro p
  have hp : p.Ordered := (ordered_new tags).pushAll attempts
  have hsame : p = ofIntents tags p.intents := pushAll_eq_ofIntents attempts rfl
  have htags : p.tags = tags := congrArg Plan.tags hsame
  refine ⟨p.exists_apply_document, p.encode, read_toText h, fun room page => read_written h,
    ⟨_, rfl, ?tags⟩, ⟨_, rfl, ?intents⟩, fun before i after hsplit => ?pushed, ?whole⟩
  case tags =>
    rw [htags]
    exact Decode.table_ofTable fun _ _ => rfl
  case intents =>
    have hintents : Decode.list Intent.decode (.array (p.intents.map Intent.encode)) =
        .ok (p.intents.map id) := Decode.list_map fun i _ => i.decode_encode
    rwa [List.map_id] at hintents
  case pushed =>
    have hbefore : p.intents = (before ++ [i]) ++ after := by
      rw [hsplit, List.append_assoc, List.singleton_append]
    rw [hp.pushAll_prefix tags hsplit, hp.pushAll_prefix tags hbefore]
    exact hp.push_ofIntents tags hsplit
  case whole =>
    rw [hp.pushAll_prefix tags (List.append_nil _).symm]
    exact hsame.symm

/-- Attributes with backslashes, control characters, other scripts and the largest numbers. -/
def markedAttributes : List (String × Json) :=
  [("\\", .string "\x01 \x7f é 語"),
    ("numbers", .array [.int (-9223372036854775808), .int 0, .int 18446744073709551615, .null])]

/-- Pushes of a topic, of its policy and of the topic once more. -/
def markedAttempts : List Intent :=
  let topic : Intent := .of .topic .messaging "a \"topic\"\n" (.object markedAttributes)
  [topic, .of .topicPolicy .messaging "policy" (.object []) [topic.handle], topic]

/-- The plan lists the topic once and its policy, and is read back. -/
theorem reads_back_marked :
    let p := (new (.ofList [("owner", "\t")])).pushAll markedAttempts
    (p.intents.map (·.category) = [.topic, .topicPolicy] ∧ ∀ i ∈ p.intents, i.Writable) ∧
      ∃ document, Json.read p.toText = .ok document ∧
        (∀ room page, p.apply (Sink.document room) {} = .ok page →
          Json.read page.written = .ok document) ∧
        ∃ v, document.member? "intents" = some v ∧ Decode.list Intent.decode v = .ok p.intents := by
  intro p
  have hnames : ["\\", "numbers"].Pairwise (· < ·) := by decide
  have htopic : (Json.object markedAttributes).Ordered := by
    refine Json.ordered_object hnames ?_
    simp [markedAttributes, Json.Ordered, Json.OrderedItems, Json.int]
  have hattempts : ∀ i ∈ markedAttempts, i.Writable := by
    simp only [markedAttempts, List.forall_mem_cons]
    refine ⟨⟨htopic, ?_, ?_⟩, ⟨?_, ?_, ?_⟩, ⟨htopic, ?_, ?_⟩, by simp⟩
    all_goals
      simp [Intent.of, Json.Ordered, Json.OrderedMembers, Json.IsIntegral, Json.IntegralMembers,
        Json.IntegralItems, Json.nesting, Json.nestingMembers, Json.nestingItems, Json.int,
        Number.IsInteger, Json.maxDepth, markedAttributes]
  have hintents : p.intents = markedAttempts.take 2 := by rfl
  have hwritable : ∀ i ∈ p.intents, i.Writable := fun i hi =>
    hattempts i (List.mem_of_mem_take (hintents ▸ hi))
  obtain ⟨-, document, hread, hwritten, -, hdecoded, -⟩ := reads_back _ markedAttempts hwritable
  exact ⟨⟨by rw [hintents]; rfl, hwritable⟩, document, hread, hwritten, hdecoded⟩

end Plan

end ServicePlan
