import ServicePlan.Proofs.Environments

/-!
# Managed policies of functions

The role of a function has the policy for basic execution and the policies of the function.  The
functions of branches have the common policies of the spec besides, and those of topics do not.
These lists may repeat policies, and they may have policies in common; a plan attaches each policy
once, where it is named first.

* `FunctionConfig.Merges`: a configuration has the policies of some lists.
* `FunctionConfig.merges_of_policies`: keeping first occurrences is merging.
* `Intent.Attaches`: what a plan says about the policies of a function.
* `Blueprint.DrawsPolicies`: the lists that the policies of a function come from.
* `Blueprint.attaches_of_build`: whatever is built without a fault.
-/

namespace ServicePlan

/-! ## Merging lists of policies -/

namespace FunctionConfig

/-- A configuration has the policies of some lists, each of them once. -/
structure Merges (c : FunctionConfig) (lists : List (List String)) : Prop where
  /-- Of each policy the first occurrence is kept, from one list after another. -/
  policies : c.policies = lists.flatten.eraseDups
  /-- The policy for basic execution comes first. -/
  head : c.policies.head? = some Settings.basicExecutionPolicy
  /-- No policy is attached twice. -/
  nodup : c.policies.Nodup
  /-- No policy of the lists is missing, and there are no others. -/
  mem_iff : ∀ policy, policy ∈ c.policies ↔ ∃ list ∈ lists, policy ∈ list
  /-- Attaching the policies of one of the lists again changes nothing. -/
  settled : ∀ list ∈ lists, c.addPolicies list = c

variable {c : FunctionConfig} {lists : List (List String)}

/-- Attaching policies that are attached already changes nothing. -/
theorem addPolicies_of_subset {list : List String} (h : list ⊆ c.policies) :
    c.addPolicies list = c := by
  rw [addPolicies, appendNew_of_subset fun _ hpolicy => h hpolicy]

/-- Keeping first occurrences is merging, if the policy for basic execution stands in front. -/
theorem merges_of_policies
    (h : c.policies = appendNew [] (Settings.basicExecutionPolicy :: lists.flatten)) :
    c.Merges ([Settings.basicExecutionPolicy] :: lists) := by
  have hmem : ∀ policy, policy ∈ c.policies ↔
      ∃ list ∈ [Settings.basicExecutionPolicy] :: lists, policy ∈ list := by
    intro policy
    rw [h, mem_appendNew]
    simp
  have hfirst : c.policies = (Settings.basicExecutionPolicy :: lists.flatten).eraseDups := by
    rw [h, appendNew_nil_left]
  exact {
    policies := hfirst
    head := by rw [hfirst, List.eraseDups_cons, List.head?_cons]
    nodup := h ▸ nodup_appendNew List.nodup_nil _
    mem_iff := hmem
    settled := fun list hlist =>
      addPolicies_of_subset fun policy hpolicy => (hmem policy).2 ⟨list, hlist, hpolicy⟩ }

end FunctionConfig

/-- The policies that an intent for a function attaches are those of some lists: the intent has the
attributes of a configuration that merges the lists. -/
def Intent.Attaches (i : Intent) (lists : List (List String)) : Prop :=
  ∃ config : FunctionConfig, i.attributes = config.attributes ∧
    i.attributes.member? "managed_policies" = some (.strings config.policies) ∧
    config.Merges lists

/-! ## The lists of a function -/

namespace Blueprint

variable {b : Blueprint} {w : Wiring} {key : String} {f : FunctionSpec}

/-- The lists that the policies of a function come from, by the name of the function. -/
inductive DrawsPolicies (b : Blueprint) : String → List (List String) → Prop
  /-- The functions of a branch have the common policies behind their own. -/
  | function {branch key : String} {f : FunctionSpec} (hbranch : branch ∈ b.spec.branchNames)
      (hf : (key, f) ∈ b.spec.functions.entries) :
      DrawsPolicies b (b.naming.function key (some branch))
        [[Settings.basicExecutionPolicy], f.policies, b.spec.commonPolicies]
  /-- The functions of a topic have their own only. -/
  | topicFunction {topic key : String} {t : TopicSpec} {f : FunctionSpec}
      (ht : (topic, t) ∈ b.spec.topicTable.entries) (hf : (key, f) ∈ t.functionTable.entries) :
      DrawsPolicies b (b.naming.function key none) [[Settings.basicExecutionPolicy], f.policies]

/-- The lists behind the policy for basic execution, by the wiring of the function. -/
def policyLists (b : Blueprint) (w : Wiring) (f : FunctionSpec) : List (List String) :=
  f.policies :: if w.branch.isSome then [b.spec.commonPolicies] else []

theorem Builds.drawsPolicies (h : b.Builds w key f) :
    b.DrawsPolicies (b.functionName w key)
      ([Settings.basicExecutionPolicy] :: b.policyLists w f) := by
  obtain ⟨branch, hbranch, rfl, hf⟩ | ⟨⟨topic, t⟩, ht, rfl, hf⟩ := h
  · exact .function hbranch hf
  · exact .topicFunction ht hf

theorem DrawsPolicies.exists_builds {name : String} {lists : List (List String)}
    (h : b.DrawsPolicies name lists) :
    ∃ w key f, b.Builds w key f ∧ name = b.functionName w key ∧
      lists = [Settings.basicExecutionPolicy] :: b.policyLists w f := by
  cases h with
  | function hbranch hf => exact ⟨_, _, _, .inl ⟨_, hbranch, rfl, hf⟩, rfl, rfl⟩
  | topicFunction ht hf => exact ⟨_, _, _, .inr ⟨_, ht, rfl, hf⟩, rfl, rfl⟩

/-- Attaching one list after another keeps the first occurrences in all of them. -/
theorem policies_functionConfig (b : Blueprint) (w : Wiring) (key : String) (f : FunctionSpec)
    (runtime : Runtime) (layers : List String) :
    (b.functionConfig w key f runtime layers).policies =
      appendNew [] (Settings.basicExecutionPolicy :: (b.policyLists w f).flatten) := by
  have hbasic : ∀ list : List String, appendNew [] (Settings.basicExecutionPolicy :: list) =
      appendNew [Settings.basicExecutionPolicy] list := fun _ => rfl
  rw [hbasic]
  simp only [functionConfig, policyLists]
  split
  · rw [List.flatten_cons, List.flatten_singleton, appendNew_append]
    rfl
  · rw [List.flatten_cons, List.flatten_nil, List.append_nil]
    rfl

theorem attaches_functionIntent (b : Blueprint) (w : Wiring) (key : String) (f : FunctionSpec)
    (runtime : Runtime) (layers : List String) :
    (b.functionIntent w key f runtime layers).Attaches
      ([Settings.basicExecutionPolicy] :: b.policyLists w f) :=
  ⟨b.functionConfig w key f runtime layers, rfl, rfl,
    FunctionConfig.merges_of_policies (b.policies_functionConfig w key f runtime layers)⟩

/-! ## Whole plans -/

/-- **Managed policies.**  For each function of a plan the spec has lists of policies: the policy for
basic execution, those of the function and, for the functions of branches only, the common ones.
Whatever these lists repeat, the function attaches the policy for basic execution first and each
policy of the lists once, in the order of its first occurrence, and attaching one of the lists again
changes nothing. -/
theorem attaches_of_build (h : b.build.2 = none) :
    ∀ i ∈ b.build.1.plan.byCategory .function,
      (∃ lists, b.DrawsPolicies i.physicalName lists) ∧
        ∀ lists, b.DrawsPolicies i.physicalName lists → i.Attaches lists := by
  intro i hi
  obtain ⟨hi, hcategory⟩ := Plan.mem_byCategory.1 hi
  obtain ⟨w, key, f, runtime, layers, hf, rfl⟩ := exists_of_function h hi hcategory
  refine ⟨⟨_, hf.drawsPolicies⟩, fun lists hdraws => ?_⟩
  -- two functions of one name would be one resource, so the lists are those of this function
  obtain ⟨w', key', f', hf', hname, rfl⟩ := hdraws.exists_builds
  obtain ⟨rfl, rfl, rfl⟩ := hf.inj h hf' hname
  exact attaches_functionIntent ..

/-- A service whose lists repeat policies and have policies in common. -/
def library : Blueprint where
  spec := {
    serviceName := "library"
    apiName := "library-api"
    branches := .ofList [("main", {})]
    handler := "index.handler"
    commonPolicies := ["Queue", "Read", "Queue"]
    functions := .ofList
      [("lend", { policies := ["Write", "Read", Settings.basicExecutionPolicy, "Write"] })]
    topics := some (.ofList
      [("due", { functions := some (.ofList [("remind", { policies := ["Mail", "Mail"] })]) })]) }
  site := ⟨"123456789012", "us-east-1"⟩
  references := .empty
  files := fun _ => .error (.other "no such file")

set_option maxRecDepth 20000 in
theorem build_library : library.build.2 = none := by rfl

set_option maxRecDepth 20000 in
/-- The function of the branch has the common policies behind its own, and that of the topic does
not. -/
theorem attaches_library :
    (library.build.1.plan.byCategory .function).map
        (fun i => (i.physicalName, i.attributes.member? "managed_policies")) =
      [("library-api-remind", some (.strings [Settings.basicExecutionPolicy, "Mail"])),
        ("library-api-main-lend",
          some (.strings [Settings.basicExecutionPolicy, "Write", "Read", "Queue"]))] ∧
    ∀ i ∈ library.build.1.plan.byCategory .function,
      (∃ lists, library.DrawsPolicies i.physicalName lists) ∧
        ∀ lists, library.DrawsPolicies i.physicalName lists → i.Attaches lists :=
  ⟨by rfl, attaches_of_build build_library⟩

end Blueprint

end ServicePlan
