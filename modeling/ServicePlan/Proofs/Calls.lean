import ServicePlan.Proofs.FunctionPlan
import ServicePlan.Text.Replace

/-!
# The api and the functions that it calls

All branches share the integrations of the api, so an integration cannot name the function of one
branch.  It names the branch by a stage variable, and each stage gives the variable its branch.  The
names of the functions are put together elsewhere, branch by branch, and so are the permissions that
let the api call them.

* `onStage`: a text of the api as the stage of a branch reads it.
* `onStage_functionArn`: on the stage of a branch, an integration names the function of the branch.
* `Blueprint.CallsAgree`: the api of a plan calls the functions of all branches that it is meant to
  call, and may call no others.
* `Blueprint.callsAgree_of_build`: what comes of a build without a fault.
-/

namespace ServicePlan

/-! ## Stages -/

/-- The text by which the api names the branch of a stage. -/
def branchToken : String := "$\x7bstageVariables.branch\x7d"

/-- A text of the api as the stage of a branch reads it. -/
def onStage (branch text : String) : String :=
  String.ofList (Text.replace branchToken.toList branch.toList text.toList)

/-- The branch that a stage gives to the variable. -/
def Intent.stageBranch? (i : Intent) : Option String :=
  ((i.attributes.member? "stage_variables").bind (·.member? "branch")).bind Json.string?

theorem stageBranch?_stage (b : Blueprint) (branch : String) (s : BranchSpec) :
    (b.stage branch s).stageBranch? = some branch := rfl

/-- **The names meet.**  Where the parts of a name do not hold the token themselves, the stage of a
branch reads the name that an integration calls as the name of the function of the branch. -/
theorem onStage_functionArn (n : Naming) {key : String} (branch : String)
    (h : ∀ text ∈ [n.apiName, n.site.account, n.site.region, key],
      ¬ branchToken.toList <:+: text.toList) :
    onStage branch (n.functionArn (n.integrationFunction key "branch")) =
      n.functionArn (n.function key (some branch)) := by
  have hne : branchToken.toList ≠ [] := by simp [branchToken]
  have hcolon : ':' ∉ branchToken.toList := by simp [branchToken]
  have hdash : '-' ∉ branchToken.toList := by simp [branchToken]
  have hfixed : ∀ text ∈ ["arn", "aws", "lambda", "function"],
      ¬ branchToken.toList <:+: text.toList := by
    intro text htext htoken
    have hdollar : '$' ∉ text.toList := by
      revert text
      simp
    exact hdollar (htoken.subset (by simp [branchToken]))
  simp only [List.forall_mem_cons] at h hfixed
  obtain ⟨hapi, haccount, hregion, hkey, -⟩ := h
  obtain ⟨harn, haws, hlambda, hfunction, -⟩ := hfixed
  -- both names are the same parts between the same separators, but for the branch
  have hname : ∀ name : String, (n.functionArn name).toList =
      "arn".toList ++ ':' :: ("aws".toList ++ ':' :: ("lambda".toList ++ ':' ::
        (n.site.region.toList ++ ':' :: (n.site.account.toList ++ ':' ::
          ("function".toList ++ ':' :: name.toList))))) := by
    intro name
    have harnName : n.functionArn name = "arn:aws:lambda:" ++ n.site.region ++ ":" ++
        n.site.account ++ ":function:" ++ name := rfl
    simp [harnName]
  have hcalled : (n.integrationFunction key "branch").toList =
      n.apiName.toList ++ '-' :: (branchToken.toList ++ '-' :: key.toList) := by
    simp [Naming.integrationFunction, branchToken]
  rw [onStage, ← String.toList_inj, String.toList_ofList, hname, hname, hcalled]
  simp only [Text.replace_append_cons _ _ _ hne hcolon, Text.replace_append_cons _ _ _ hne hdash,
    Text.replace_of_not_infix harn, Text.replace_of_not_infix haws,
    Text.replace_of_not_infix hlambda, Text.replace_of_not_infix hregion,
    Text.replace_of_not_infix haccount, Text.replace_of_not_infix hfunction,
    Text.replace_of_not_infix hapi, Text.replace_of_not_infix hkey, Text.replace_self _ hne]
  simp [Naming.function]

namespace Blueprint

variable {b : Blueprint} {g : GatewaySpec} {key branch : String}

/-! ## Calls -/

/-- The api of a plan calls the functions of all branches that it is meant to call, and may call no
others. -/
structure CallsAgree (b : Blueprint) (g : GatewaySpec) (p : Plan) : Prop where
  /-- There is one api. -/
  api : (p.byCategory .api).map (·.handle) = [b.apiHandle]
  /-- There is one stage for each branch, and it gives its branch to the variable. -/
  stages : (p.byCategory .stage).map (·.stageBranch?) = b.spec.branchNames.map some
  /-- There is one integration for each function key of the api. -/
  integrations : (p.byCategory .integration).map (·.physicalName) =
    g.integrations.keys.map b.integrationName
  /-- On the stage of each branch, an integration calls the function of the branch, and the plan
  lists one permission to do so. -/
  called : ∀ branch ∈ b.spec.branchNames, ∀ key ∈ g.integrations.keys,
    ∃ integration ∈ p.byCategory .integration, ∃ function ∈ p.byCategory .function,
      integration.physicalName = b.integrationName key ∧
      function.physicalName = b.naming.function key (some branch) ∧
      (integration.text? "integration_uri").map (onStage branch) =
        some (b.naming.functionArn function.physicalName) ∧
      p.ListsOne fun i => i.Admits "apigateway.amazonaws.com" function.handle ∧
        i.text? "source_arn" = some (b.naming.executeApiArn b.apiHandle.ref)
  /-- No other function may be called. -/
  uncalled : ∀ function ∈ p.byCategory .function,
    (∃ i ∈ p.intents, i.Admits "apigateway.amazonaws.com" function.handle) →
      ∃ branch ∈ b.spec.branchNames, ∃ key ∈ g.integrations.keys,
        function.physicalName = b.naming.function key (some branch)

/-- A branch function is called by the api exactly if its key is one of the api. -/
theorem isIntegrated_branchWiring (hg : b.spec.gateway = some g) :
    b.isIntegrated (branchWiring branch) key ↔ key ∈ g.integrations.keys := by
  simp [isIntegrated, branchWiring, hg, Table.contains_iff]

/-- The functions that the api calls are functions of the spec. -/
theorem integration_of_build (h : b.build.2 = none) (hg : b.spec.gateway = some g)
    (hkey : key ∈ g.integrations.keys) : key ∈ b.spec.functions.keys :=
  integration_of_gatewaySteps ((clean_of_build h).subset b.gatewaySteps_subset) hg hkey

/-- A function that the api is let in by has one permission to do so. -/
theorem listsOne_apiPermission (h : b.build.2 = none) (hg : b.spec.gateway = some g)
    (hbranch : branch ∈ b.spec.branchNames) (hkey : key ∈ g.integrations.keys) :
    b.build.1.plan.ListsOne fun i =>
      i.Admits "apigateway.amazonaws.com" (b.functionHandle (branchWiring branch) key) ∧
        i.text? "source_arn" = some (b.naming.executeApiArn b.apiHandle.ref) := by
  have hcalls : b.isIntegrated (branchWiring branch) key :=
    (isIntegrated_branchWiring hg).2 hkey
  have hmem := apiPermission_mem_intents h hbranch (integration_of_build h hg hkey) hcalls
  refine b.ordered_build.listsOne hmem ⟨⟨rfl, rfl, rfl⟩, rfl⟩ fun i hi ⟨hadmits, _⟩ => ?_
  obtain ⟨other, -, k, -, rfl⟩ := exists_eq_apiPermission h hi hadmits
  have hname : b.functionName (branchWiring other) k = b.functionName (branchWiring branch) key :=
    Handle.of_inj.1 (Handle.ref_inj.1 (Option.some.inj hadmits.function))
  simp [apiPermission, permission, hname]

/-- **The api calls the functions that it is meant to call.**  If a spec with an api is built
without a fault, and no part of the names of functions holds the token of the branch, then on the
stage of each branch the integrations call functions of the branch that are in the plan, and only
those let the api in. -/
theorem callsAgree_of_build (h : b.build.2 = none) (hg : b.spec.gateway = some g)
    (htoken : ∀ text ∈ [b.spec.apiName, b.site.account, b.site.region] ++ g.integrations.keys,
      ¬ branchToken.toList <:+: text.toList) :
    b.CallsAgree g b.build.1.plan where
  api := by simp [byCategory_api h hg, api, apiHandle]
  stages := by
    rw [byCategory_stage h hg, List.map_map, ServiceSpec.branchNames, Table.keys, List.map_map]
    exact List.map_congr_left fun e _ => stageBranch?_stage b e.1 e.2
  integrations := by
    rw [byCategory_integration h hg, List.map_map]
    rfl
  called := by
    intro branch hbranch key hkey
    have hdeclared := integration_of_build h hg hkey
    obtain ⟨function, hfunction, hname, hhandle⟩ := exists_branchFunction h hbranch hdeclared
    refine ⟨b.integration key, ?_, function, hfunction, rfl, hname, ?_, ?_⟩
    · rw [byCategory_integration h hg]
      exact List.mem_map.2 ⟨key, hkey, rfl⟩
    · have huri : (b.integration key).text? "integration_uri" =
          some (b.naming.functionArn (b.naming.integrationFunction key "branch")) := rfl
      rw [huri, hname, Option.map_some]
      refine congrArg some (onStage_functionArn b.naming branch fun text htext => htoken text ?_)
      simp only [naming, List.mem_cons, List.not_mem_nil, or_false, List.cons_append,
        List.nil_append] at htext ⊢
      obtain rfl | rfl | rfl | rfl := htext
      · exact .inl rfl
      · exact .inr (.inl rfl)
      · exact .inr (.inr (.inl rfl))
      · exact .inr (.inr (.inr hkey))
    · rw [hhandle]
      exact listsOne_apiPermission h hg hbranch hkey
  uncalled := by
    rintro function hfunction ⟨i, hi, hadmits⟩
    obtain ⟨branch, hbranch, key, hcalls, rfl⟩ := exists_eq_apiPermission h hi hadmits
    have hkey := (isIntegrated_branchWiring hg).1 hcalls
    obtain ⟨own, hown, hname, hhandle⟩ :=
      exists_branchFunction h hbranch (integration_of_build h hg hkey)
    have hsame : function.handle = own.handle :=
      (Handle.ref_inj.1 (Option.some.inj hadmits.function)).symm.trans hhandle.symm
    obtain rfl := b.ordered_build.eq_of_handle_eq (Plan.mem_byCategory.1 hfunction).1
      (Plan.mem_byCategory.1 hown).1 hsame
    exact ⟨branch, hbranch, key, hkey, hname⟩

/-- What the api of the service with two branches calls. -/
theorem callsAgree_market : ∃ g, market.spec.gateway = some g ∧
    market.CallsAgree g market.build.1.plan :=
  ⟨_, rfl, callsAgree_of_build build_market rfl (by decide +kernel)⟩

end Blueprint

end ServicePlan
