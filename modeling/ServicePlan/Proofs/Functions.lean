import ServicePlan.Build.Messaging
import ServicePlan.Proofs.Order

/-!
# Functions and topics in order

The steps for a function come in order wherever what feeds the function is known: the topic that it
is subscribed to, or the api that calls it.  They can be made to the end only if the layers and the
queues that the functions refer to are there.

* `Blueprint.arranged_functionsSteps`, `Blueprint.closed_of_functionsSteps`: the functions of one
  table.
* `Blueprint.arranged_messagingSteps`, `Blueprint.closed_of_messagingSteps`: all topics.
-/

namespace ServicePlan.Blueprint

variable {b : Blueprint} {w : Wiring} {key : String} {f : FunctionSpec} {seen : List Step}

/-! ## One function -/

/-- A runtime that does not exist is an unknown name. -/
theorem kind_of_resolve {name default : Option String} {fault : Fault}
    (h : Runtime.resolve name default = .error fault) : fault.kind = .identifier := by
  rw [Runtime.resolve, Runtime.ofName] at h
  split at h <;> cases h
  rfl

/-- A visibility timeout that cannot be expressed is a matter of form. -/
theorem kind_of_visibilityTimeout {default : Int} {fault : Fault}
    (h : f.visibilityTimeout default = .error fault) : fault.kind = .form := by
  simp only [FunctionSpec.visibilityTimeout] at h
  split at h
  · cases h
  · split at h <;> cases h
    rfl

/-- A file that cannot be read is one to blame. -/
theorem arranged_testSteps (hfunction : b.Available seen (b.functionHandle w key)) :
    b.Arranged seen (b.testSteps w key f) := by
  simp only [testSteps]
  split
  · exact arranged_nil
  · split
    · exact ⟨fun _ => .inl (by simp [Fault.kind]), arranged_nil⟩
    · simp [Fits, hfunction]

/-- Where the api is to be looked up depends on the branch. -/
theorem arranged_apiSteps (hfunction : b.Available seen (b.functionHandle w key))
    (hgateway : w.branch.isSome → .complete .gateway ∈ seen ∧
      (b.spec.gateway.isSome → Registered seen b.apiKey)) :
    b.Arranged seen (b.apiSteps w key) := by
  unfold apiSteps
  split
  · rename_i hintegrated
    obtain ⟨hbranch, hany⟩ := Bool.and_eq_true_iff.1 hintegrated
    obtain ⟨hcomplete, hregistered⟩ := hgateway hbranch
    have hsome : b.spec.gateway.isSome := by
      cases hg : b.spec.gateway with
      | none =>
        rw [hg] at hany
        cases hany
      | some g => rfl
    refine ⟨fun _ => ⟨?_, fun _ => hregistered hsome⟩, fun _ => ?_, arranged_nil⟩
    · rintro owner ⟨⟩
      exact hcomplete
    · simp [Fits, permission, Grants, hfunction]
  · exact arranged_nil

theorem arranged_senderSteps (hfunction : b.Available seen (b.functionHandle w key))
    (hsender : ∀ topic, w.sender = some topic → b.Available seen topic) :
    b.Arranged seen (b.senderSteps w key) := by
  unfold senderSteps
  cases hs : w.sender with
  | none => exact arranged_nil
  | some topic =>
    have htopic := hsender topic hs
    simp [Fits, permission, hfunction, htopic]

theorem arranged_queueSteps (hfunction : b.Available seen (b.functionHandle w key)) :
    b.Arranged seen (b.queueSteps w key f) := by
  refine arranged_orFail (fun fault hf => ?_) fun timeout? _ => ?_
  · exact .inl (by simp [kind_of_visibilityTimeout hf])
  · cases timeout? with
    | none => exact arranged_nil
    | some timeout => simp [Fits, Grants, hfunction]

/-- The steps for what feeds a function register nothing. -/
theorem not_registered_parts (b : Blueprint) (w : Wiring) (key : String) (f : FunctionSpec)
    (k : Registry.Key) :
    ¬ Registered (b.testSteps w key f ++ b.apiSteps w key ++ b.senderSteps w key ++
      b.queueSteps w key f) k := by
  have htest : ¬ Registered (b.testSteps w key f) k := by
    simp only [testSteps]
    split
    · simp [Registered]
    · split <;> simp [Registered]
  have hapi : ¬ Registered (b.apiSteps w key) k := by
    simp only [apiSteps]
    split <;> simp [Registered]
  have hsender : ¬ Registered (b.senderSteps w key) k := by
    simp only [senderSteps]
    split <;> simp [Registered]
  have hqueue : ¬ Registered (b.queueSteps w key f) k := by
    intro h
    obtain ⟨timeout?, -, h⟩ := h.exists_eq_ok
    cases timeout? <;> simp [Registered] at h
  simp only [registered_append, htest, hapi, hsender, hqueue, or_self, not_false_eq_true]

/-- The steps for a function that the spec declares are in order where the topic that feeds it is
known, and where the api of a branch function is. -/
theorem arranged_functionSteps (hdeclared : b.spec.Declares (w.functionKey key))
    (hlayers : b.Closed → ∀ id ∈ f.layers, id ∈ b.references.catalog.layers)
    (hsender : ∀ topic, w.sender = some topic → b.Available seen topic)
    (hgateway : w.branch.isSome → .complete .gateway ∈ seen ∧
      (b.spec.gateway.isSome → Registered seen b.apiKey)) :
    b.Arranged seen (b.functionSteps w key f) := by
  refine arranged_orFail (fun fault hf => .inl (by simp [kind_of_resolve hf])) fun runtime _ => ?_
  refine arranged_orFail (fun fault hf => ?_) fun layers _ => ?_
  · obtain ⟨hkind, id, hid, hnot⟩ := References.not_mem_layers_of_layerArns hf
    exact .inr ⟨hkind, fun hclosed => hnot (hlayers hclosed id hid)⟩
  · simp only [arranged_append]
    refine ⟨⟨⟨⟨⟨by simp [Fits], ?_⟩, ?_⟩, ?_⟩, ?_⟩, fun _ => ⟨rfl, hdeclared, ?_⟩, arranged_nil⟩
    · exact arranged_testSteps (by simp [Grants, functionHandle])
    · refine arranged_apiSteps (by simp [Grants, functionHandle]) fun hbranch => ?_
      obtain ⟨hcomplete, hregistered⟩ := hgateway hbranch
      simp only [List.mem_append, registered_append]
      exact ⟨.inl hcomplete, fun hsome => .inl (hregistered hsome)⟩
    · refine arranged_senderSteps (by simp [Grants, functionHandle]) fun topic hs => ?_
      simp [hsender topic hs]
    · exact arranged_queueSteps (by simp [Grants, functionHandle])
    · exact ⟨seen, _, _, rfl, rfl, not_registered_parts b w key f _⟩

/-- If the steps for a function are made to the end, its layers are there and it is registered. -/
theorem layers_of_functionSteps (h : Clean (b.functionSteps w key f)) :
    (∀ id ∈ f.layers, id ∈ b.references.catalog.layers) ∧
      Registered (b.functionSteps w key f) (w.functionKey key) := by
  obtain ⟨runtime, -, hruntime⟩ := h.exists_eq_ok
  rw [functionSteps, hruntime] at h ⊢
  obtain ⟨layers, hfound, hlayers⟩ := h.exists_eq_ok
  rw [hlayers]
  exact ⟨References.mem_layers_of_layerArns hfound, b.functionHandle w key, by simp⟩

/-- The steps for a function register nothing but functions. -/
theorem kind_of_functionSteps {k : Registry.Key} (h : Registered (b.functionSteps w key f) k) :
    k.kind = .function := by
  obtain ⟨runtime, -, h⟩ := h.exists_eq_ok
  obtain ⟨layers, -, h⟩ := h.exists_eq_ok
  obtain h | h := registered_append.1 h
  · -- what comes before the last step registers nothing at all
    have hnot : ¬ Registered ([.emit (.of .function w.phase (b.functionName w key)
        (b.functionConfig w key f runtime layers).attributes)] ++
        (b.testSteps w key f ++ b.apiSteps w key ++ b.senderSteps w key ++ b.queueSteps w key f))
        k := by
      rw [registered_append, not_or]
      exact ⟨by simp [Registered], not_registered_parts b w key f k⟩
    exact absurd h hnot
  · obtain ⟨handle, hs⟩ := registered_singleton.1 h
    cases hs
    rfl

/-! ## The functions of a table -/

section Table

variable {functions : Table FunctionSpec}

/-- The steps for the functions of a table are in order where their topic or their api is known. -/
theorem arranged_functionsSteps
    (hdeclared : ∀ key ∈ functions.keys, b.spec.Declares (w.functionKey key))
    (hclosed : b.Closed → FunctionsClosed b.references.catalog functions)
    (hsender : ∀ topic, w.sender = some topic → b.Available seen topic)
    (hgateway : w.branch.isSome → .complete .gateway ∈ seen ∧
      (b.spec.gateway.isSome → Registered seen b.apiKey)) :
    b.Arranged seen (b.functionsSteps w functions) := by
  refine arranged_orFail (fun fault hf => ?_) fun _ _ => ?_
  · refine .inr ⟨QueueChain.kind_of_check hf, fun h => ?_⟩
    rw [QueueChain.check_eq_ok_iff.2 (hclosed h).chains] at hf
    cases hf
  · refine arranged_flatMap fun e he done => ?_
    refine arranged_functionSteps (hdeclared e.1 (Table.mem_keys_of_mem he))
      (fun h => (hclosed h).layers e he) (fun topic ht => ?_) fun hbranch => ?_
    · exact available_append.2 (.inl (hsender topic ht))
    · obtain ⟨hcomplete, hregistered⟩ := hgateway hbranch
      exact ⟨List.mem_append_left _ hcomplete,
        fun hsome => registered_append.2 (.inl (hregistered hsome))⟩

/-- If the steps for the functions of a table are made to the end, their references lead somewhere
and they are registered. -/
theorem closed_of_functionsSteps (h : Clean (b.functionsSteps w functions)) :
    FunctionsClosed b.references.catalog functions ∧
      ∀ key ∈ functions.keys, Registered (b.functionsSteps w functions) (w.functionKey key) := by
  obtain ⟨_, hcheck, hsteps⟩ := h.exists_eq_ok
  rw [functionsSteps, hsteps] at h ⊢
  rw [clean_flatMap] at h
  refine ⟨⟨QueueChain.check_eq_ok_iff.1 hcheck, fun e he => ?_⟩, fun key hkey => ?_⟩
  · exact (layers_of_functionSteps (h e he)).1
  · obtain ⟨e, he, rfl⟩ := List.mem_map.1 hkey
    exact registered_flatMap.2 ⟨e, he, (layers_of_functionSteps (h e he)).2⟩

/-- The steps for the functions of a table register nothing but functions. -/
theorem kind_of_functionsSteps {k : Registry.Key}
    (h : Registered (b.functionsSteps w functions) k) : k.kind = .function := by
  obtain ⟨_, -, h⟩ := h.exists_eq_ok
  obtain ⟨e, -, he⟩ := registered_flatMap.1 h
  exact kind_of_functionSteps he

end Table

/-! ## Topics -/

variable {t : TopicSpec}

/-- Topics come before all else, so the steps for a topic are in order wherever they stand. -/
theorem arranged_topicSteps (ht : (key, t) ∈ b.spec.topicTable.entries) :
    b.Arranged seen (b.topicSteps key t) := by
  simp only [topicSteps, arranged_append]
  refine ⟨⟨by simp [Fits, Grants, topicPolicy, topicHandle], ?_⟩,
    fun _ => ⟨rfl, Table.mem_keys_of_mem ht, ?_⟩, arranged_nil⟩
  · cases hf : t.functions with
    | none => exact arranged_nil
    | some functions =>
      refine arranged_functionsSteps (fun k hk => ⟨_, ht, functions, hf, hk⟩)
        (fun hclosed => hclosed.topicFunctions _ ht functions hf) ?_ (by rintro ⟨⟩)
      rintro _ ⟨⟩
      simp [Grants, topicHandle]
  · -- the functions of the topic are registered in between, but no topic is
    refine ⟨seen, _, _, rfl, rfl, fun hreg => ?_⟩
    obtain hreg | hreg := registered_append.1 hreg
    · simp [Registered] at hreg
    · cases hf : t.functions with
      | none => simp [hf, Registered] at hreg
      | some functions =>
        rw [hf] at hreg
        cases kind_of_functionsSteps hreg

/-- The steps for all topics are in order wherever they stand. -/
theorem arranged_messagingSteps : b.Arranged seen b.messagingSteps := by
  rw [messagingSteps]
  cases htopics : b.spec.topics with
  | none => simp [Fits, Step.info]
  | some topics =>
    refine arranged_flatMap fun e he done => arranged_topicSteps ?_
    simpa [ServiceSpec.topicTable, htopics] using he

/-- All topics are registered. -/
theorem registered_messagingSteps {k : String} (hk : k ∈ b.spec.topicTable.keys) :
    Registered b.messagingSteps (topicKey k) := by
  rw [messagingSteps]
  rw [ServiceSpec.topicTable] at hk
  cases htopics : b.spec.topics with
  | none => simp [htopics, Table.keys] at hk
  | some topics =>
    rw [htopics] at hk
    obtain ⟨e, he, rfl⟩ := List.mem_map.1 hk
    refine registered_flatMap.2 ⟨e, he, registered_append.2 (.inr ?_)⟩
    exact ⟨_, List.mem_singleton_self _⟩

/-- If the steps for all topics are made to the end, the references of the functions that they feed
lead somewhere. -/
theorem closed_of_messagingSteps (h : Clean b.messagingSteps) :
    ∀ e ∈ b.spec.topicTable.entries, ∀ functions, e.2.functions = some functions →
      FunctionsClosed b.references.catalog functions := by
  intro e he functions hf
  rw [messagingSteps] at h
  rw [ServiceSpec.topicTable] at he
  cases htopics : b.spec.topics with
  | none => simp [htopics] at he
  | some topics =>
    rw [htopics] at h he
    have htopic := clean_flatMap.1 h e he
    simp only [topicSteps, hf, clean_append] at htopic
    exact (closed_of_functionsSteps htopic.1.2).1

end ServicePlan.Blueprint
