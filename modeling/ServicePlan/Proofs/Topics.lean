import ServicePlan.Proofs.Entries

/-!
# The functions of a plan and the topics that feed them

One routine plans the functions that a topic feeds, once for all branches, and the functions of each
branch.  Their names do not tell the two apart, and different keys may lead to one name, but a plan
with two functions of one name is refused.  So each function that the spec declares is in the plan
once.  Only a function of a topic is fed by one, and that is its own.

* `functionsOf`: the functions among intents.
* `Blueprint.topicFunctionNames`, `Blueprint.branchFunctionNames`: the names of the functions that a
  spec declares.
* `Blueprint.functionsOf_build`: the functions of a plan.
* `Intent.Subscribes`, `Intent.Feeds`: the intents by which topics feed functions.
* `Blueprint.exists_of_feeds`: where these intents come from.
* `Blueprint.ListsFunctions`, `Blueprint.listsFunctions_of_build`: what comes of a build without a
  fault.
-/

namespace ServicePlan

/-! ## Functions among intents -/

/-- The functions among intents, each with its name and its handle. -/
def functionsOf (intents : List Intent) : List (String × Handle) :=
  (intents.filter fun i => i.category = .function).map fun i => (i.physicalName, i.handle)

section FunctionsOf

variable {α : Type} {first second : List Intent} {steps : List Step}

@[simp] theorem functionsOf_append :
    functionsOf (first ++ second) = functionsOf first ++ functionsOf second := by
  simp [functionsOf]

@[simp] theorem functionsOf_flatMap {l : List α} {g : α → List Intent} :
    functionsOf (l.flatMap g) = l.flatMap fun a => functionsOf (g a) := by
  simp [functionsOf, List.filter_flatMap, List.map_flatMap]

theorem mem_functionsOf {intents : List Intent} {name : String} {handle : Handle} :
    (name, handle) ∈ functionsOf intents ↔
      ∃ i ∈ intents, i.category = .function ∧ i.physicalName = name ∧ i.handle = handle := by
  simp [functionsOf, and_assoc]

/-- Steps that emit other categories emit no functions. -/
theorem Emits.functionsOf_eq_nil {phase : Phase} {categories : List Category}
    (h : Emits (Intent.IsOf phase categories) steps) (hc : .function ∉ categories) :
    functionsOf (emissions steps) = [] := by
  rw [functionsOf, h.filter_category_eq_nil hc, List.map_nil]

end FunctionsOf

namespace Blueprint

variable {b : Blueprint} {w : Wiring} {branch key topic : String} {f : FunctionSpec} {t : TopicSpec}
  {functions : Table FunctionSpec} {i : Intent} {function : Handle}

/-- A function as a plan lists it. -/
def listed (name : String) : String × Handle := (name, .of .function name)

/-- The steps for a function emit one function. -/
theorem functionsOf_functionSteps (h : Clean (b.functionSteps w key f)) :
    functionsOf (emissions (b.functionSteps w key f)) = [listed (b.functionName w key)] := by
  obtain ⟨runtime, layers, -, -, hemissions⟩ := exists_emissions_functionSteps h
  have htest : functionsOf (emissions (b.testSteps w key f)) = [] :=
    emits_testSteps.functionsOf_eq_nil (by decide)
  have hapi : functionsOf (emissions (b.apiSteps w key)) = [] :=
    emits_apiSteps.functionsOf_eq_nil (by decide)
  have hsender : functionsOf (emissions (b.senderSteps w key)) = [] :=
    emits_senderSteps.functionsOf_eq_nil (by decide)
  have hqueue : functionsOf (emissions (b.queueSteps w key f)) = [] :=
    emits_queueSteps.functionsOf_eq_nil (by decide)
  rw [hemissions, ← List.singleton_append]
  simp only [functionsOf_append, htest, hapi, hsender, hqueue]
  simp [functionsOf, listed]

/-- The functions of a table are emitted in the order of their keys. -/
theorem functionsOf_entries
    (h : ∀ e ∈ functions.entries, Clean (b.functionSteps w e.1 e.2)) :
    functionsOf (functions.entries.flatMap fun e => emissions (b.functionSteps w e.1 e.2)) =
      functions.keys.map fun key => listed (b.functionName w key) := by
  rw [functionsOf_flatMap, Table.keys, List.map_map, List.map_eq_flatMap]
  exact List.flatMap_congr fun e he => functionsOf_functionSteps (h e he)

/-! ## The functions of a plan -/

/-- The names of the functions that topics feed, by topics and then by keys. -/
def topicFunctionNames (b : Blueprint) : List String :=
  b.spec.topicTable.entries.flatMap fun e =>
    e.2.functionTable.keys.map fun key => b.spec.apiName ++ "-" ++ key

/-- The names of the functions of the branches, by branches and then by keys. -/
def branchFunctionNames (b : Blueprint) : List String :=
  b.spec.branchNames.flatMap fun branch =>
    b.spec.functions.keys.map fun key => b.spec.apiName ++ "-" ++ branch ++ "-" ++ key

/-- A topic emits the functions that it feeds. -/
theorem functionsOf_topicSteps (h : b.build.2 = none)
    (ht : (topic, t) ∈ b.spec.topicTable.entries) :
    functionsOf (emissions (b.topicSteps topic t)) =
      t.functionTable.keys.map fun key => listed (b.spec.apiName ++ "-" ++ key) := by
  have hclean := clean_of_build h
  have hfunctions := functionsOf_entries (b := b) (w := b.topicWiring topic) fun e he =>
    hclean.subset (topicFunctionSteps_subset h ht he)
  rw [emissions_topicSteps (hclean.subset (topicSteps_subset ht)), functionsOf_append, hfunctions]
  simp [functionsOf, topicIntent, topicPolicy, topicWiring, functionName, naming, Naming.function]

/-- A branch emits the functions of the spec. -/
theorem functionsOf_computeSteps (h : b.build.2 = none) (hbranch : branch ∈ b.spec.branchNames) :
    functionsOf (emissions (b.computeSteps branch)) =
      b.spec.functions.keys.map fun key =>
        listed (b.spec.apiName ++ "-" ++ branch ++ "-" ++ key) := by
  have hclean := clean_of_build h
  rw [emissions_computeSteps (clean_computeSteps hclean hbranch)]
  exact functionsOf_entries fun e he => hclean.subset (functionSteps_subset h hbranch he)

/-- The functions of a plan are those that the spec declares: first those of the topics, and then
those of the branches. -/
theorem functionsOf_build (h : b.build.2 = none) :
    functionsOf b.build.1.plan.intents =
      (b.topicFunctionNames ++ b.branchFunctionNames).map listed := by
  have htopics : functionsOf (emissions b.messagingSteps) = b.topicFunctionNames.map listed := by
    rw [emissions_messagingSteps, functionsOf_flatMap, topicFunctionNames, List.map_flatMap]
    refine List.flatMap_congr fun e he => ?_
    rw [functionsOf_topicSteps h he, List.map_map]
    rfl
  have hbranches : (b.spec.branchNames.flatMap fun branch =>
      functionsOf (emissions (b.computeSteps branch))) = b.branchFunctionNames.map listed := by
    rw [branchFunctionNames, List.map_flatMap]
    refine List.flatMap_congr fun branch hbranch => ?_
    rw [functionsOf_computeSteps h hbranch, List.map_map]
    rfl
  rw [intents_build h, emissions_steps]
  simp only [functionsOf_append, functionsOf_flatMap, htopics,
    emits_frontendSteps.functionsOf_eq_nil (by decide),
    emits_gatewaySteps.functionsOf_eq_nil (by decide),
    emits_storageSteps.functionsOf_eq_nil (by decide),
    emits_batchSteps.functionsOf_eq_nil (by decide), List.append_nil, hbranches, List.map_append]

/-- No two functions have one name, because a plan lists no handle twice. -/
theorem nodup_functionNames (h : b.build.2 = none) :
    (b.topicFunctionNames ++ b.branchFunctionNames).Nodup := by
  have hhandles : (functionsOf b.build.1.plan.intents).map (·.2) =
      (b.build.1.plan.byCategory .function).map (·.handle) := by
    rw [functionsOf, List.map_map]
    rfl
  have hnodup := b.ordered_build.nodup_byCategory .function
  rw [← hhandles, functionsOf_build h, List.map_map] at hnodup
  exact hnodup.of_map

/-- A function that the spec declares is in the plan. -/
theorem exists_function (h : b.build.2 = none) {name : String}
    (hname : name ∈ b.topicFunctionNames ++ b.branchFunctionNames) :
    ∃ function ∈ b.build.1.plan.byCategory .function,
      function.physicalName = name ∧ function.handle = .of .function name := by
  have hlisted : listed name ∈ functionsOf b.build.1.plan.intents := by
    rw [functionsOf_build h]
    exact List.mem_map_of_mem hname
  obtain ⟨function, hfunction, hcategory, hown⟩ := mem_functionsOf.1 hlisted
  exact ⟨function, Plan.mem_byCategory.2 ⟨hfunction, hcategory⟩, hown⟩

end Blueprint

/-! ## What feeds a function -/

/-- Whether an intent subscribes a function to a topic. -/
structure Intent.Subscribes (i : Intent) (function : Handle) : Prop where
  /-- It is a subscription. -/
  category : i.category = .subscription
  /-- It leads to the function. -/
  endpoint : i.text? "endpoint" = some function.arn

/-- Whether an intent has a topic feed a function: by a subscription, or by letting topics in. -/
def Intent.Feeds (i : Intent) (function : Handle) : Prop :=
  i.Subscribes function ∨ i.Admits "sns.amazonaws.com" function

/-- Only subscriptions and permissions have topics feed functions. -/
theorem Intent.Feeds.category {i : Intent} {function : Handle} (h : i.Feeds function) :
    i.category ∈ [.subscription, .permission] := by
  obtain h | h := h
  · simp [h.category]
  · simp [h.category]

/-- Permissions for others let no topic in. -/
theorem not_feeds_permission {phase : Phase} {name principal sourceArn : String}
    {own source function : Handle} (hprincipal : principal ≠ "sns.amazonaws.com") :
    ¬ (permission phase name own principal sourceArn source).Feeds function := by
  rintro (h | h)
  · have hcategory := h.category
    simp [permission] at hcategory
  · exact hprincipal (Option.some.inj h.principal)

/-- Steps that emit neither subscriptions nor permissions have no topic feed a function. -/
theorem Emits.not_feeds {phase : Phase} {categories : List Category} {steps : List Step}
    {i : Intent} {function : Handle} (h : Emits (Intent.IsOf phase categories) steps)
    (hc : ∀ c ∈ [Category.subscription, .permission], c ∉ categories)
    (hi : i ∈ emissions steps) : ¬ i.Feeds function :=
  fun hfeeds => hc _ hfeeds.category (h i hi).2

namespace Blueprint

variable {b : Blueprint} {w : Wiring} {branch key topic : String} {f : FunctionSpec} {t : TopicSpec}
  {i : Intent} {function : Handle}

/-- The subscription of a function to its topic. -/
def subscription (b : Blueprint) (topic key : String) : Intent :=
  let function := b.functionHandle (b.topicWiring topic) key
  .of .subscription .messaging (b.functionName (b.topicWiring topic) key ++ "-subscription")
    (.object [
      ("endpoint", .string function.arn),
      ("protocol", .string "lambda"),
      ("topic_arn", .string (b.topicHandle topic).arn)])
    [b.topicHandle topic, function]

/-- The permission that lets its topic call a function. -/
def topicPermission (b : Blueprint) (topic key : String) : Intent :=
  permission .messaging (b.functionName (b.topicWiring topic) key ++ "-sns-permission")
    (b.functionHandle (b.topicWiring topic) key) "sns.amazonaws.com" (b.topicHandle topic).arn
    (b.topicHandle topic)

theorem emissions_senderSteps :
    emissions (b.senderSteps (b.topicWiring topic) key) =
      [b.subscription topic key, b.topicPermission topic key] := rfl

/-- Among the steps for a function, only those for its sender have topics feed functions. -/
theorem mem_senderSteps_of_feeds (hclean : Clean (b.functionSteps w key f))
    (hi : i ∈ emissions (b.functionSteps w key f)) (hfeeds : i.Feeds function) :
    i ∈ emissions (b.senderSteps w key) := by
  obtain ⟨runtime, layers, -, -, hemissions⟩ := exists_emissions_functionSteps hclean
  simp only [hemissions, List.mem_cons, List.mem_append] at hi
  obtain rfl | ((hi | hi) | hi) | hi := hi
  · have hcategory := hfeeds.category
    simp at hcategory
  · exact absurd hfeeds (emits_testSteps.not_feeds (by decide) hi)
  · rw [emissions_apiSteps] at hi
    split at hi
    · obtain rfl := List.mem_singleton.1 hi
      exact absurd hfeeds (not_feeds_permission (by decide))
    · cases hi
  · exact hi
  · exact absurd hfeeds (emits_queueSteps.not_feeds (by decide) hi)

/-- Other categories feed nothing. -/
theorem not_feeds_of_category (hc : i.category ∉ [.subscription, .permission]) :
    ¬ i.Feeds function :=
  fun hfeeds => hc hfeeds.category

/-- Batch jobs let events in, and no topics. -/
theorem emits_not_feeds_batchSteps : Emits (¬ ·.Feeds function) (b.batchSteps branch) :=
  emits_batchSteps_of fun _ _ _ =>
    forall_jobIntents_of (fun _ _ _ => not_feeds_of_category (by simp [serviceRole]))
      (not_feeds_of_category (by simp [computeEnvironment]))
      (not_feeds_of_category (by simp [jobQueue])) (not_feeds_of_category (by simp [jobRule]))
      (fun _ _ => not_feeds_permission (by decide)) (fun _ _ => not_feeds_of_category (by simp))
      (not_feeds_of_category (by simp [jobDefinition]))

/-- What has topics feed functions in a plan comes from the functions of the topics. -/
theorem exists_of_feeds (h : b.build.2 = none) (hi : i ∈ b.build.1.plan.intents)
    (hfeeds : i.Feeds function) :
    ∃ e ∈ b.spec.topicTable.entries, ∃ key ∈ e.2.functionTable.keys,
      i = b.subscription e.1 key ∨ i = b.topicPermission e.1 key := by
  have hclean := clean_of_build h
  obtain hi | hi | hi | hi | ⟨branch, hbranch, hi | hi⟩ := mem_intents_cases h hi
  · rw [emissions_messagingSteps] at hi
    obtain ⟨e, he, hi⟩ := List.mem_flatMap.1 hi
    rw [emissions_topicSteps (hclean.subset (topicSteps_subset he))] at hi
    simp only [List.mem_append, List.mem_cons, List.not_mem_nil, or_false, List.mem_flatMap] at hi
    obtain (rfl | rfl) | ⟨e', he', hi⟩ := hi
    · have hcategory := hfeeds.category
      simp [topicIntent] at hcategory
    · have hcategory := hfeeds.category
      simp [topicPolicy] at hcategory
    · have hown := hclean.subset (topicFunctionSteps_subset h he he')
      have hsender := mem_senderSteps_of_feeds hown hi hfeeds
      rw [emissions_senderSteps, List.mem_pair] at hsender
      exact ⟨e, he, e'.1, Table.mem_keys_of_mem he', hsender⟩
  · exact absurd hfeeds (emits_frontendSteps.not_feeds (by decide) hi)
  · exact absurd hfeeds (emits_gatewaySteps.not_feeds (by decide) hi)
  · exact absurd hfeeds (emits_storageSteps.not_feeds (by decide) hi)
  · rw [emissions_computeSteps (clean_computeSteps hclean hbranch)] at hi
    obtain ⟨e, he, hi⟩ := List.mem_flatMap.1 hi
    have hown := hclean.subset (functionSteps_subset h hbranch he)
    have hsender := mem_senderSteps_of_feeds hown hi hfeeds
    cases hsender
  · exact absurd hfeeds (emits_not_feeds_batchSteps i hi)

/-- What subscribes a function is the subscription of a function of a topic. -/
theorem exists_of_subscribes (h : b.build.2 = none) (hi : i ∈ b.build.1.plan.intents)
    (hsubscribes : i.Subscribes function) :
    ∃ e ∈ b.spec.topicTable.entries, ∃ key ∈ e.2.functionTable.keys,
      i = b.subscription e.1 key ∧ b.functionHandle (b.topicWiring e.1) key = function := by
  obtain ⟨e, he, key, hkey, rfl | rfl⟩ := exists_of_feeds h hi (.inl hsubscribes)
  · have hown := Handle.arn_inj.1 (Option.some.inj hsubscribes.endpoint)
    exact ⟨e, he, key, hkey, rfl, hown⟩
  · have hcategory := hsubscribes.category
    simp [topicPermission, permission] at hcategory

/-- What lets topics call a function is the permission of a function of a topic. -/
theorem exists_of_admits_topic (h : b.build.2 = none) (hi : i ∈ b.build.1.plan.intents)
    (hadmits : i.Admits "sns.amazonaws.com" function) :
    ∃ e ∈ b.spec.topicTable.entries, ∃ key ∈ e.2.functionTable.keys,
      i = b.topicPermission e.1 key ∧ b.functionHandle (b.topicWiring e.1) key = function := by
  obtain ⟨e, he, key, hkey, rfl | rfl⟩ := exists_of_feeds h hi (.inr hadmits)
  · have hcategory := hadmits.category
    simp [subscription] at hcategory
  · have hown := Handle.ref_inj.1 (Option.some.inj hadmits.function)
    exact ⟨e, he, key, hkey, rfl, hown⟩

/-- A function of a topic comes with its subscription and its permission. -/
theorem feeders_subset_intents (h : b.build.2 = none)
    (ht : (topic, t) ∈ b.spec.topicTable.entries) (hkey : key ∈ t.functionTable.keys) :
    [b.subscription topic key, b.topicPermission topic key] ⊆ b.build.1.plan.intents := by
  obtain ⟨⟨_, f⟩, hf, rfl⟩ := List.mem_map.1 hkey
  have hsubset := topicFunctionSteps_subset h ht hf
  obtain ⟨runtime, layers, -, -, hemissions⟩ :=
    exists_emissions_functionSteps ((clean_of_build h).subset hsubset)
  refine List.Subset.trans (fun i hi => ?_) (emissions_subset_intents h hsubset)
  rw [← emissions_senderSteps] at hi
  simp only [hemissions, List.mem_cons, List.mem_append, hi, or_true, true_or]

/-- A topic is in the plan. -/
theorem topicIntent_mem_intents (h : b.build.2 = none)
    (ht : (topic, t) ∈ b.spec.topicTable.entries) :
    b.topicIntent topic t ∈ b.build.1.plan.intents := by
  have hsubset := topicSteps_subset ht
  refine emissions_subset_intents h hsubset ?_
  rw [emissions_topicSteps ((clean_of_build h).subset hsubset)]
  simp

/-- All subscriptions of one function have one handle. -/
theorem handle_of_subscribes (h : b.build.2 = none) (hi : i ∈ b.build.1.plan.intents)
    (hsubscribes : i.Subscribes (b.functionHandle (b.topicWiring topic) key)) :
    i.handle = (b.subscription topic key).handle := by
  obtain ⟨e, -, k, -, rfl, hown⟩ := exists_of_subscribes h hi hsubscribes
  have hname := Handle.of_inj.1 hown
  simp [subscription, hname]

/-- All permissions that let topics call one function have one handle. -/
theorem handle_of_admits_topic (h : b.build.2 = none) (hi : i ∈ b.build.1.plan.intents)
    (hadmits : i.Admits "sns.amazonaws.com" (b.functionHandle (b.topicWiring topic) key)) :
    i.handle = (b.topicPermission topic key).handle := by
  obtain ⟨e, -, k, -, rfl, hown⟩ := exists_of_admits_topic h hi hadmits
  have hname := Handle.of_inj.1 hown
  simp [topicPermission, permission, hname]

end Blueprint

/-- A topic feeds a function by one subscription and one permission, and no other topic does. -/
structure Plan.Feeds (p : Plan) (topic function : Handle) : Prop where
  /-- There is one subscription of the function. -/
  subscribed : p.ListsOne fun i => i.Subscribes function
  /-- It is to the topic. -/
  own : ∀ i ∈ p.intents, i.Subscribes function → i.text? "topic_arn" = some topic.arn
  /-- There is one permission that lets topics call the function. -/
  admitted : p.ListsOne fun i => i.Admits "sns.amazonaws.com" function
  /-- It is given on behalf of the topic. -/
  source : ∀ i ∈ p.intents, i.Admits "sns.amazonaws.com" function →
    i.text? "source_arn" = some topic.arn

namespace Blueprint

variable {b : Blueprint} {branch key topic : String} {t : TopicSpec}

/-- A function of a topic is fed by the topic. -/
theorem feeds_of_build (h : b.build.2 = none) (ht : (topic, t) ∈ b.spec.topicTable.entries)
    (hkey : key ∈ t.functionTable.keys) :
    b.build.1.plan.Feeds (b.topicHandle topic) (b.functionHandle (b.topicWiring topic) key) := by
  have hp := b.ordered_build
  have hmem := feeders_subset_intents h ht hkey
  have hsubscription : b.subscription topic key ∈ b.build.1.plan.intents := hmem (by simp)
  have hpermission : b.topicPermission topic key ∈ b.build.1.plan.intents := hmem (by simp)
  constructor
  case subscribed =>
    exact hp.listsOne hsubscription ⟨rfl, rfl⟩ fun i hi => handle_of_subscribes h hi
  case own =>
    intro i hi hsubscribes
    obtain rfl := hp.eq_of_handle_eq hi hsubscription (handle_of_subscribes h hi hsubscribes)
    rfl
  case admitted =>
    exact hp.listsOne hpermission ⟨rfl, rfl, rfl⟩ fun i hi => handle_of_admits_topic h hi
  case source =>
    intro i hi hadmits
    obtain rfl := hp.eq_of_handle_eq hi hpermission (handle_of_admits_topic h hi hadmits)
    rfl

/-- A function of a branch is fed by no topic: it would have the name of a function of a topic. -/
theorem not_feeds_branchFunction (h : b.build.2 = none) {i : Intent}
    (hi : i ∈ b.build.1.plan.intents) {name : String} (hname : name ∈ b.branchFunctionNames) :
    ¬ i.Feeds (.of .function name) := by
  intro hfeeds
  have hfed : ∃ e ∈ b.spec.topicTable.entries, ∃ key ∈ e.2.functionTable.keys,
      b.functionHandle (b.topicWiring e.1) key = .of .function name := by
    obtain hsubscribes | hadmits := hfeeds
    · obtain ⟨e, he, key, hkey, -, hown⟩ := exists_of_subscribes h hi hsubscribes
      exact ⟨e, he, key, hkey, hown⟩
    · obtain ⟨e, he, key, hkey, -, hown⟩ := exists_of_admits_topic h hi hadmits
      exact ⟨e, he, key, hkey, hown⟩
  obtain ⟨e, he, key, hkey, hown⟩ := hfed
  have htopic : name ∈ b.topicFunctionNames := by
    rw [← Handle.of_inj.1 hown]
    exact List.mem_flatMap.2 ⟨e, he, List.mem_map.2 ⟨key, hkey, rfl⟩⟩
  exact (List.nodup_append.1 (nodup_functionNames h)).2.2 _ htopic _ hname rfl

/-- A plan lists the functions that a spec declares, and topics feed those that they are meant to
feed. -/
structure ListsFunctions (b : Blueprint) (p : Plan) : Prop where
  /-- The functions are those of the topics, by topics and keys, and then those of the branches, by
  branches and keys. -/
  names : (p.byCategory .function).map (·.physicalName) =
    b.topicFunctionNames ++ b.branchFunctionNames
  /-- Their names are distinct. -/
  distinct : ((p.byCategory .function).map (·.physicalName)).Nodup
  /-- A function of a topic is fed by its topic. -/
  fed : ∀ e ∈ b.spec.topicTable.entries, ∀ key ∈ e.2.functionTable.keys,
    ∃ topic ∈ p.byCategory .topic, ∃ function ∈ p.byCategory .function,
      topic.physicalName = b.spec.apiName ++ "-" ++ e.1 ∧
      function.physicalName = b.spec.apiName ++ "-" ++ key ∧
      p.Feeds topic.handle function.handle
  /-- A function of a branch is fed by none. -/
  unfed : ∀ branch ∈ b.spec.branchNames, ∀ key ∈ b.spec.functions.keys,
    ∃ function ∈ p.byCategory .function,
      function.physicalName = b.spec.apiName ++ "-" ++ branch ++ "-" ++ key ∧
      ∀ i ∈ p.intents, ¬ i.Feeds function.handle

/-- **No function is lost or merged.**  If a spec is built without a fault, the plan lists each
function that a topic feeds and each function of each branch once, in this order and under distinct
names.  A function of a topic has one subscription, to its topic, and one permission for it; a
function of a branch has neither. -/
theorem listsFunctions_of_build (h : b.build.2 = none) : b.ListsFunctions b.build.1.plan := by
  have hnames : (b.build.1.plan.byCategory .function).map (·.physicalName) =
      b.topicFunctionNames ++ b.branchFunctionNames := by
    have hfirst : (b.build.1.plan.byCategory .function).map (·.physicalName) =
        (functionsOf b.build.1.plan.intents).map (·.1) := by
      rw [functionsOf, List.map_map]
      rfl
    rw [hfirst, functionsOf_build h, List.map_map]
    exact List.map_id _
  constructor
  case names => exact hnames
  case distinct =>
    rw [hnames]
    exact nodup_functionNames h
  case fed =>
    rintro ⟨topic, t⟩ ht key hkey
    have hname : b.spec.apiName ++ "-" ++ key ∈ b.topicFunctionNames :=
      List.mem_flatMap.2 ⟨_, ht, List.mem_map.2 ⟨key, hkey, rfl⟩⟩
    obtain ⟨function, hfunction, hown, hhandle⟩ :=
      exists_function h (List.mem_append_left _ hname)
    refine ⟨b.topicIntent topic t, Plan.mem_byCategory.2 ⟨topicIntent_mem_intents h ht, rfl⟩,
      function, hfunction, rfl, hown, ?_⟩
    rw [hhandle]
    exact feeds_of_build h ht hkey
  case unfed =>
    intro branch hbranch key hkey
    have hname : b.spec.apiName ++ "-" ++ branch ++ "-" ++ key ∈ b.branchFunctionNames :=
      List.mem_flatMap.2 ⟨_, hbranch, List.mem_map.2 ⟨key, hkey, rfl⟩⟩
    obtain ⟨function, hfunction, hown, hhandle⟩ :=
      exists_function h (List.mem_append_right _ hname)
    refine ⟨function, hfunction, hown, fun i hi => ?_⟩
    rw [hhandle]
    exact not_feeds_branchFunction h hi hname

/-- The functions of the service with two branches. -/
theorem listsFunctions_market : market.ListsFunctions market.build.1.plan :=
  listsFunctions_of_build build_market

end Blueprint

end ServicePlan
