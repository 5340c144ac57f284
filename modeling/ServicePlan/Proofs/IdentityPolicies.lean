import Mathlib
import ServicePlan.Proofs.Json.Members
import ServicePlan.Proofs.Planned

/-!
# Inline policies of identity roles

The role of those who are logged in to an app gets the policy fragments that the app lists, each
under the name of its file.  Of fragments whose files have one name the last one in the list counts.

* `PolicyFragment.load_eq_ok`: what a fragment is made of.
* `Blueprint.exists_identityRole`: the role of each branch, with the fragments that were loaded.
* `Blueprint.inlinePolicies_of_build`: the members of the inline policies.
* `Blueprint.inlinePolicies_gallery_twins`: two files of one name, of which the first is lost.
-/

namespace ServicePlan

section Lists

variable {α β : Type}

/-- Where two lists go together one by one, each element on the right has one on the left. -/
theorem exists_of_mem_right {R : α → β → Prop} {l : List α} {r : List β}
    (h : List.Forall₂ R l r) : ∀ y ∈ r, ∃ x ∈ l, R x y := by
  induction h with
  | nil => simp
  | @cons x y l r hxy _ ih =>
    refine List.forall_mem_cons.2 ⟨⟨x, List.mem_cons_self .., hxy⟩, fun z hz => ?_⟩
    obtain ⟨w, hw, hwz⟩ := ih z hz
    exact ⟨w, List.mem_cons_of_mem x hw, hwz⟩

end Lists

theorem PolicyFragment.load_eq_ok {files : Files} {path : String} {bindings : Bindings}
    {f : PolicyFragment} (h : load files path bindings = .ok f) :
    f.name = nameOf path ∧
      ∃ text, files path = .ok text ∧ Json.read (bindings.substitute text) = .ok f.document := by
  rw [load] at h
  split at h
  · rename_i text htext
    rw [parse] at h
    split at h
    · rename_i document hread
      cases h
      exact ⟨rfl, text, htext, hread⟩
    · cases h
  · cases h

namespace Blueprint

variable {b : Blueprint} {app branch user : String} {a : AppSpec}

/-- The login of an app that asks for policies has the identity pools of all branches. -/
theorem identitySteps_subset (h : Clean (b.loginSteps app a)) (huser : a.user = some user)
    (hwants : a.wantsIdentityPool = true) :
    ∃ pool, b.identitySteps app a pool ⊆ b.loginSteps app a := by
  simp only [loginSteps, huser] at h ⊢
  obtain ⟨pool, -, hsteps⟩ := h.exists_eq_ok
  refine ⟨pool, fun s hs => ?_⟩
  rw [hsteps, if_pos hwants]
  exact List.mem_append_left _ (List.mem_append_right _ hs)

/-- Identity pools that are planned to the end have their fragments, and roles for them. -/
theorem exists_fragments {pool : UserPool} (h : Clean (b.identitySteps app a pool))
    (hbranch : branch ∈ b.spec.branchNames) : ∃ fragments, b.fragments a branch = .ok fragments ∧
      .emit (identityRole app a branch fragments) ∈ b.identitySteps app a pool := by
  obtain ⟨fragments, hfragments, hsteps⟩ := (clean_flatMap.1 h branch hbranch).exists_eq_ok
  refine ⟨fragments, hfragments, List.mem_flatMap.2 ⟨branch, hbranch, ?_⟩⟩
  rw [hsteps]
  simp

/-- A build without a fault has loaded the fragments of every app with a login, and has planned the
roles that they are for. -/
theorem exists_identityRole (h : b.build.2 = none) (ha : (app, a) ∈ b.spec.appTable.entries)
    (huser : a.user = some user) (hwants : a.wantsIdentityPool = true)
    (hbranch : branch ∈ b.spec.branchNames) :
    ∃ fragments, b.fragments a branch = .ok fragments ∧
      identityRole app a branch fragments ∈ b.build.1.plan.intents := by
  have hfrontend : Clean b.frontendSteps := (clean_of_build h).subset (frontendSteps_subset b)
  have hlogin : b.loginSteps app a ⊆ b.frontendSteps := fun s hs =>
    subset_frontendSteps hfrontend ha (List.mem_append_left _ hs)
  obtain ⟨pool, hidentity⟩ := identitySteps_subset (hfrontend.subset hlogin) huser hwants
  have hsubset := List.Subset.trans hidentity hlogin
  obtain ⟨fragments, hfragments, hrole⟩ := exists_fragments (hfrontend.subset hsubset) hbranch
  refine ⟨fragments, hfragments, ?_⟩
  exact emissions_subset_intents h (List.Subset.trans hsubset (frontendSteps_subset b))
    (mem_emissions.2 hrole)

/-! ## What the names lead to -/

/-- The name that the fragment at a path of the spec gets. -/
def policyName (b : Blueprint) (path : String) : String := PolicyFragment.nameOf (b.path path)

/-- The document that the file at a path of the spec holds for a branch. -/
def HasPolicy (b : Blueprint) (branch path : String) (document : Json) : Prop :=
  ∃ text, b.files (b.path path) = .ok text ∧
    Json.read ((Bindings.ofPolicy b.site b.spec.serviceName branch).substitute text) = .ok document

/-- A fragment is what was loaded from a path. -/
def IsLoaded (b : Blueprint) (branch path : String) (f : PolicyFragment) : Prop :=
  f.name = b.policyName path ∧ b.HasPolicy branch path f.document

theorem forall₂_isLoaded {fragments : List PolicyFragment}
    (h : b.fragments a branch = .ok fragments) :
    List.Forall₂ (b.IsLoaded branch) a.inlinePolicies fragments :=
  (forall₂_of_mapM h).imp fun _ _ hload => PolicyFragment.load_eq_ok hload

/-- The document of a path is determined by the path. -/
theorem HasPolicy.unique {path : String} {v w : Json} (hv : b.HasPolicy branch path v)
    (hw : b.HasPolicy branch path w) : v = w := by
  obtain ⟨text, htext, hread⟩ := hv
  obtain ⟨text', htext', hread'⟩ := hw
  cases htext.symm.trans htext'
  exact Except.ok.inj (hread.symm.trans hread')

/-- Of the fragments in front of one, none has its name unless it is of the same path: then a look
for the name finds its document. -/
theorem lookup_of_isLoaded {path : String} {front back : List String}
    {fragments : List PolicyFragment} {document : Json}
    (h : List.Forall₂ (b.IsLoaded branch) (front ++ path :: back) fragments)
    (hfront : ∀ x ∈ front, b.policyName x = b.policyName path → x = path)
    (hdocument : b.HasPolicy branch path document) :
    (fragments.map fun f => (f.name, f.document)).lookup (b.policyName path) = some document := by
  induction front generalizing fragments with
  | nil =>
    cases h with
    | cons hf _ =>
      rw [List.map_cons, Table.lookup_cons_eq_ite, if_pos hf.1.symm, hf.2.unique hdocument]
  | cons x front ih =>
    obtain ⟨hx, hfront⟩ := List.forall_mem_cons.1 hfront
    cases h with
    | @cons _ f _ _ hf hrest =>
      rw [List.map_cons, Table.lookup_cons_eq_ite]
      by_cases hname : b.policyName path = f.name
      · obtain rfl := hx (hf.1.symm.trans hname.symm)
        rw [if_pos hname, hf.2.unique hdocument]
      · rw [if_neg hname, ih hrest hfront]

/-- The inline policies of the role for a branch: every path of the list has a file that can be read
as JSON once the placeholders are replaced, and what the file of a path holds is found under its
name unless a later path has the same name.  There are no policies but those of the list. -/
theorem inlinePolicies_of_build (h : b.build.2 = none)
    (ha : (app, a) ∈ b.spec.appTable.entries) (huser : a.user = some user)
    (hlist : a.inlinePolicies ≠ []) (hbranch : branch ∈ b.spec.branchNames) :
    ∃ role ∈ b.build.1.plan.intents, role.handle = roleHandle app branch ∧
      ∃ policies, role.attributes.member? "inline_policies" = some policies ∧
        (∀ path ∈ a.inlinePolicies, ∃ document, b.HasPolicy branch path document) ∧
        (∀ before path after document, a.inlinePolicies = before ++ path :: after →
          (∀ later ∈ after, b.policyName later = b.policyName path → later = path) →
          b.HasPolicy branch path document →
          policies.member? (b.policyName path) = some document) ∧
        ∀ name document, policies.member? name = some document →
          ∃ path ∈ a.inlinePolicies, b.policyName path = name ∧
            b.HasPolicy branch path document := by
  have hwants : a.wantsIdentityPool = true := by
    simp [AppSpec.wantsIdentityPool, hlist]
  obtain ⟨fragments, hfragments, hrole⟩ := exists_identityRole h ha huser hwants hbranch
  have hloaded := forall₂_isLoaded hfragments
  refine ⟨_, hrole, rfl, _, rfl, ?exist, ?kept, ?only⟩
  case exist =>
    intro path hpath
    obtain ⟨f, hf⟩ := exists_eq_ok_of_mapM hfragments path hpath
    exact ⟨f.document, (PolicyFragment.load_eq_ok hf).2⟩
  case kept =>
    intro before path after document hsplit hafter hdocument
    rw [Json.member?_ofMembers, ← List.map_reverse]
    rw [hsplit] at hloaded
    have hreverse := List.forall₂_reverse_iff.2 hloaded
    rw [List.reverse_append, List.reverse_cons, List.append_assoc] at hreverse
    exact lookup_of_isLoaded hreverse (fun x hx => hafter x (List.mem_reverse.1 hx)) hdocument
  case only =>
    intro name document hmember
    rw [Json.member?_ofMembers] at hmember
    obtain ⟨_, _, hsplit, -⟩ := List.lookup_eq_some_iff.1 hmember
    have hmem : (name, document) ∈ fragments.map fun f => (f.name, f.document) := by
      rw [← List.mem_reverse, hsplit]
      exact List.mem_append_right _ (List.mem_cons_self ..)
    obtain ⟨f, hf, heq⟩ := List.mem_map.1 hmem
    obtain ⟨path, hpath, hname, hdocument⟩ := exists_of_mem_right hloaded f hf
    cases heq
    exact ⟨path, hpath, hname.symm, hdocument⟩

/-- A service with one app, whose users may do what two files say. -/
def gallery (paths : List String) : Blueprint where
  spec := {
    serviceName := "gallery"
    apiName := "gallery-api"
    branches := .ofList [("main", {})]
    handler := "index.handler"
    repositoryRoot := some "https://repositories"
    apps := some (.ofList
      [("front", { domain := "gallery.test", user := some "people", inlinePolicies := paths })]) }
  site := ⟨"123456789012", "us-east-1"⟩
  references := {
    layers := ∅
    pools := .ofList
      [("people", ⟨"pool", "https://cognito-idp.us-east-1.amazonaws.com/pool", ∅⟩)]
    network := none }
  token := some "token"
  files := fun path =>
    if path = "read.json" ∨ path = "read/policy.json" then
      .ok "\x7b\"Action\": \"Get-\x7b$branch\x7d\"\x7d"
    else if path = "write.json" ∨ path = "write/policy.json" then .ok "\x7b\"Action\": \"Put\"\x7d"
    else .error (.other "no such file")

/-- The app of the gallery. -/
def galleryApp (paths : List String) : AppSpec :=
  { domain := "gallery.test", user := some "people", inlinePolicies := paths }

theorem mem_appTable_gallery (paths : List String) :
    ("front", galleryApp paths) ∈ (gallery paths).spec.appTable.entries :=
  List.mem_singleton_self _

/-- What the first file allows. -/
def readPolicy : Json := .object [("Action", .string "Get-main")]

/-- What the second file allows. -/
def writePolicy : Json := .object [("Action", .string "Put")]

theorem hasPolicy_read (paths : List String) {path : String}
    (h : path = "read.json" ∨ path = "read/policy.json") :
    (gallery paths).HasPolicy "main" path readPolicy := by
  rcases h with rfl | rfl <;>
    exact ⟨"\x7b\"Action\": \"Get-\x7b$branch\x7d\"\x7d", rfl, by cbv⟩

theorem hasPolicy_write (paths : List String) {path : String}
    (h : path = "write.json" ∨ path = "write/policy.json") :
    (gallery paths).HasPolicy "main" path writePolicy := by
  rcases h with rfl | rfl <;> exact ⟨"\x7b\"Action\": \"Put\"\x7d", rfl, by cbv⟩

theorem build_gallery : (gallery ["read.json", "write.json"]).build.2 = none := by
  have hnone : (gallery ["read.json", "write.json"]).build.2.isNone = true := by decide +kernel
  exact Option.isNone_iff_eq_none.1 hnone

/-- Files of two names are both kept. -/
theorem inlinePolicies_gallery :
    (gallery ["read.json", "write.json"]).build.2 = none ∧
      ("front", galleryApp ["read.json", "write.json"]) ∈
        (gallery ["read.json", "write.json"]).spec.appTable.entries ∧
      ∃ role ∈ (gallery ["read.json", "write.json"]).build.1.plan.intents,
        role.handle = roleHandle "front" "main" ∧
        ∃ policies, role.attributes.member? "inline_policies" = some policies ∧
          policies.member? "read.json" = some readPolicy ∧
          policies.member? "write.json" = some writePolicy := by
  have huser : (galleryApp ["read.json", "write.json"]).user = some "people" := rfl
  have hbranch : "main" ∈ (gallery ["read.json", "write.json"]).spec.branchNames := by decide
  obtain ⟨role, hrole, hhandle, policies, hpolicies, -, hkept, -⟩ :=
    inlinePolicies_of_build build_gallery (mem_appTable_gallery _) huser (by decide) hbranch
  refine ⟨build_gallery, mem_appTable_gallery _, role, hrole, hhandle, policies, hpolicies, ?_, ?_⟩
  · exact hkept [] "read.json" ["write.json"] readPolicy rfl (by decide +kernel)
      (hasPolicy_read _ (.inl rfl))
  · exact hkept ["read.json"] "write.json" [] writePolicy rfl (by simp)
      (hasPolicy_write _ (.inl rfl))

/-- Of two files of one name the first one is lost. -/
theorem inlinePolicies_gallery_twins :
    (gallery ["read/policy.json", "write/policy.json"]).build.2 = none ∧
      (gallery ["read/policy.json", "write/policy.json"]).HasPolicy "main" "read/policy.json"
        readPolicy ∧
      ∀ role ∈ (gallery ["read/policy.json", "write/policy.json"]).build.1.plan.intents,
        role.handle = roleHandle "front" "main" →
        ∀ policies, role.attributes.member? "inline_policies" = some policies →
          ∀ name, policies.member? name ≠ some readPolicy := by
  have hbuild : (gallery ["read/policy.json", "write/policy.json"]).build.2 = none := by
    have hnone : (gallery ["read/policy.json", "write/policy.json"]).build.2.isNone = true := by
      decide +kernel
    exact Option.isNone_iff_eq_none.1 hnone
  have huser : (galleryApp ["read/policy.json", "write/policy.json"]).user = some "people" := rfl
  have hbranch : "main" ∈ (gallery ["read/policy.json", "write/policy.json"]).spec.branchNames := by
    decide
  obtain ⟨fragments, hfragments, hplanned⟩ :=
    exists_identityRole hbuild (mem_appTable_gallery _) huser (by decide) hbranch
  have htwins : (gallery ["read/policy.json", "write/policy.json"]).fragments
      (galleryApp ["read/policy.json", "write/policy.json"]) "main" =
        .ok [⟨"policy.json", readPolicy⟩, ⟨"policy.json", writePolicy⟩] := by cbv
  cases htwins.symm.trans hfragments
  refine ⟨hbuild, hasPolicy_read _ (.inr rfl), fun role hrole hhandle policies hpolicies name => ?_⟩
  obtain rfl := (ordered_build _).eq_of_handle_eq hrole hplanned hhandle
  obtain rfl := Option.some.inj hpolicies
  rw [Json.member?_ofMembers]
  show [("policy.json", writePolicy), ("policy.json", readPolicy)].lookup name ≠ some readPolicy
  rw [Table.lookup_cons_eq_ite]
  split
  · simp [readPolicy, writePolicy]
  · rename_i hname
    rw [Table.lookup_cons_eq_ite, if_neg hname, List.lookup_nil]
    exact Option.some_ne_none _ ∘ Eq.symm

end Blueprint

end ServicePlan
