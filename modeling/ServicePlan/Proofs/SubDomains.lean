import ServicePlan.Proofs.Authorization
import ServicePlan.Proofs.Environments
import ServicePlan.Proofs.Tokens

/-!
# Sub-domains and logins

An app is published under a sub-domain for each branch, and its login client lets users return to
certain addresses only.  The domain of the app and the login client are planned apart, each from the
branches of the spec; a sub-domain that the login client does not know would be one where nobody can
log in.

* `SubDomain`, `Intent.subDomains?`, `Intent.returnUrls?`: what a domain publishes, and where a
  login client lets users return to.
* `Plan.IsDomainOf`, `Plan.IsLoginOf`: the domain and the login client of an app in a plan.
* `Intent.ReturnsTo`: a login client that lets users return to the sub-domains of a domain.
* `Blueprint.isDomainOf_domainIntent`, `Blueprint.isLoginOf_loginClient`: each app has a domain, and
  each app whose users log in has a login client.
* `Blueprint.returnsTo_of_build`: what comes of a build without a fault.
-/

namespace ServicePlan

/-! ## Sub-domains -/

/-- A sub-domain: the text in front of the domain, and the branch that it shows. -/
structure SubDomain where
  /-- The branch. -/
  branch : String
  /-- The text in front of the domain. -/
  label : String

/-- The address of a sub-domain. -/
def SubDomain.url (domain : String) (s : SubDomain) : String :=
  "https://" ++ s.label ++ "." ++ domain ++ "/"

namespace Json

/-- The texts of a list. -/
def strings? : Json → Option (List String)
  | .array items => items.mapM string?
  | _ => none

/-- A sub-domain, as a domain lists it. -/
def subDomain? (v : Json) : Option SubDomain := do
  let branch ← (v.member? "branch_name").bind string?
  let label ← (v.member? "prefix").bind string?
  return ⟨branch, label⟩

/-- A list of texts is read back. -/
theorem strings?_strings (texts : List String) : (strings texts).strings? = some texts := by
  rw [strings, strings?]
  induction texts with
  | nil => rfl
  | cons text rest ih =>
    rw [List.map_cons, List.mapM_cons, ih]
    rfl

end Json

namespace Intent

/-- The sub-domains that a domain publishes. -/
def subDomains? (i : Intent) : Option (List SubDomain) :=
  match i.attributes.member? "sub_domain_settings" with
  | some (.array items) => items.mapM Json.subDomain?
  | _ => none

/-- The addresses that a login client lets users return to, after a login or a logout. -/
def returnUrls? (i : Intent) (occasion : String) : Option (List String) :=
  ((i.attributes.member? "o_auth").bind (·.member? occasion)).bind Json.strings?

/-- Whether an intent belongs to an app, by the id of the app. -/
def IsPartOf (i app : Intent) : Prop := i.text? "app_id" = some (app.handle.attr "AppId")

/-- A login client lets users return to local development and to the sub-domains of a domain, in
their order, and nowhere else. -/
def ReturnsTo (client domain : Intent) : Prop :=
  ∃ name subDomains, domain.text? "domain_name" = some name ∧
    domain.subDomains? = some subDomains ∧
    ∀ occasion ∈ ["callback_urls", "logout_urls"],
      client.returnUrls? occasion =
        some (Settings.localCallbackUrl :: subDomains.map (·.url name))

/-- A domain has one sub-domain for each branch, in the order of the branches. -/
def Covers (domain : Intent) (branches : List String) : Prop :=
  ∃ subDomains, domain.subDomains? = some subDomains ∧ subDomains.map (·.branch) = branches

end Intent

namespace Plan

/-- A plan lists one domain of an app, which is made after the app and after the branches that the
app is deployed on. -/
structure IsDomainOf (p : Plan) (app domain : Intent) : Prop where
  /-- It is listed. -/
  listed : domain ∈ p.byCategory .appDomain
  /-- It belongs to the app. -/
  part : domain.IsPartOf app
  /-- No other domain does. -/
  only : ∀ other ∈ p.byCategory .appDomain, other.IsPartOf app → other = domain
  /-- It depends on the app, on what the app is deployed as, and on nothing else. -/
  after : ∀ h, h ∈ domain.dependsOn ↔
    h = app.handle ∨ ∃ i ∈ p.byCategory .appBranch, i.IsPartOf app ∧ h = i.handle

/-- A plan lists one login client of an app. -/
structure IsLoginOf (p : Plan) (app client : Intent) : Prop where
  /-- It is listed. -/
  listed : client ∈ p.byCategory .userPoolClient
  /-- It is made after the app. -/
  after : app.handle ∈ client.dependsOn
  /-- No other login client is. -/
  only : ∀ other ∈ p.byCategory .userPoolClient, app.handle ∈ other.dependsOn → other = client

end Plan

namespace Blueprint

variable {b : Blueprint} {app : String} {a : AppSpec} {i : Intent}

/-! ## What is planned for an app -/

/-- The intent to create an app. -/
def appIntent (app : String) (a : AppSpec) (repositoryRoot token : String) : Intent :=
  .of .app .frontend app
    (.object [
      ("access_token", .string token),
      ("description", .stringOrNull a.description),
      ("name", .string app),
      ("repository", .string (repositoryRoot ++ "/" ++ app))])

/-- The intent to create the domain of an app. -/
def domainIntent (b : Blueprint) (app : String) (a : AppSpec) : Intent :=
  .of .appDomain .frontend (appDomain app a)
    (.object [
      ("app_id", .string (appId app)),
      ("domain_name", .string (appDomain app a)),
      ("sub_domain_settings", .array (b.spec.branchNames.map subDomain))])
    (appHandle app :: (b.appBranches app).map (·.handle))

/-- An app is planned before its branches and its domain. -/
theorem emissions_appSteps (repositoryRoot token : String) :
    emissions (b.appSteps app a repositoryRoot token) =
      appIntent app a repositoryRoot token :: (b.appBranches app ++ [b.domainIntent app a]) := by
  rw [appSteps, emissions_append, emissions_append, emissions_emits]
  rfl

/-- Apps are told apart by their ids. -/
theorem appId_inj {other : String} : appId app = appId other ↔ app = other := by
  simp [appId, Handle.attr, appHandle, ← Handle.ext_iff, Handle.of_inj]

/-- The domain of an app publishes the branches. -/
theorem subDomains?_domainIntent (b : Blueprint) (app : String) (a : AppSpec) :
    (b.domainIntent app a).subDomains? =
      some (b.spec.branchNames.map fun branch => ⟨branch, branch⟩) := by
  have hmember : (b.domainIntent app a).attributes.member? "sub_domain_settings" =
      some (.array (b.spec.branchNames.map subDomain)) := rfl
  rw [Intent.subDomains?, hmember]
  induction b.spec.branchNames with
  | nil => rfl
  | cons branch rest ih =>
    dsimp only at ih ⊢
    rw [List.map_cons, List.mapM_cons, ih]
    rfl

/-- The login client of an app lets users return to the same sub-domains. -/
theorem returnsTo_loginClient (b : Blueprint) (app : String) (a : AppSpec) (pool : UserPool) :
    (b.loginClient app a pool).ReturnsTo (b.domainIntent app a) := by
  refine ⟨appDomain app a, _, rfl, b.subDomains?_domainIntent app a, ?_⟩
  have hurls : b.loginUrls app a = Settings.localCallbackUrl ::
      (b.spec.branchNames.map fun branch => (⟨branch, branch⟩ : SubDomain)).map
        (·.url (appDomain app a)) := by
    simp [loginUrls, SubDomain.url, appDomain, Function.comp_def, String.append_assoc]
  rw [← hurls]
  intro occasion hoccasion
  simp only [List.mem_cons, List.not_mem_nil, or_false] at hoccasion
  obtain rfl | rfl := hoccasion
  · exact Json.strings?_strings _
  · exact Json.strings?_strings _

/-! ## What a plan lists for an app -/

/-- If an intent is a domain or a login client, it is the one of an app. -/
def IsDomainOrClient (b : Blueprint) (app : String) (a : AppSpec) (i : Intent) : Prop :=
  (i.category = .appDomain → i = b.domainIntent app a) ∧
    (i.category = .userPoolClient → ∃ pool, i = b.loginClient app a pool)

theorem isDomainOrClient_of_category {i : Intent} (c : Category) (hc : i.category = c)
    (hne : c ≠ .appDomain ∧ c ≠ .userPoolClient) : b.IsDomainOrClient app a i :=
  ⟨fun h => absurd (hc.symm.trans h) hne.1, fun h => absurd (hc.symm.trans h) hne.2⟩

/-- All domains and login clients that are planned for an app are of the app. -/
theorem emits_deployedAppSteps (b : Blueprint) (app : String) (a : AppSpec) :
    Emits (b.IsDomainOrClient app a) (b.deployedAppSteps app a) := by
  unfold deployedAppSteps
  split
  · simp only [emits_append]
    refine ⟨⟨?apps, ?login⟩, ?deployment⟩
    case apps =>
      rw [Emits, emissions_appSteps]
      simp only [List.forall_mem_cons, List.forall_mem_append]
      refine ⟨isDomainOrClient_of_category .app rfl (by decide), fun i hi => ?_,
        ⟨fun _ => rfl, fun h => ?_⟩, by simp⟩
      · obtain ⟨e, -, rfl⟩ := List.mem_map.1 hi
        exact isDomainOrClient_of_category .appBranch rfl (by decide)
      · cases h
    case login =>
      refine emits_loginSteps_of (fun pool => ⟨fun h => ?_, fun _ => ⟨pool, rfl⟩⟩)
        (fun _ _ => isDomainOrClient_of_category .identityPool rfl (by decide))
        (fun _ _ => isDomainOrClient_of_category .role rfl (by decide))
        fun _ => isDomainOrClient_of_category .roleAttachment rfl (by decide)
      cases h
    case deployment =>
      rw [deploymentSteps]
      split
      · exact emits_nil
      · simp only [emits_cons]
        refine ⟨by simp, fun i hi => ?_, emits_nil⟩
        cases hi
        exact isDomainOrClient_of_category .eventRule rfl (by decide)
  · exact emits_nil

section Plan

variable (h : b.build.2 = none)
include h

/-- A build without a fault that has an app has the token and the root of the repositories. -/
theorem exists_repositories (ha : (app, a) ∈ b.spec.appTable.entries) :
    ∃ token repositoryRoot, b.token = some token ∧ b.spec.repositoryRoot = some repositoryRoot := by
  have hclean : Clean b.frontendSteps := (clean_of_build h).subset b.frontendSteps_subset
  rw [frontendSteps] at hclean
  rw [ServiceSpec.appTable] at ha
  cases happs : b.spec.apps with
  | none => simp [happs] at ha
  | some apps =>
    rw [happs] at hclean
    cases htoken : b.token with
    | none =>
      rw [htoken] at hclean
      exact absurd (List.mem_singleton_self _) (hclean _)
    | some token =>
      cases hroot : b.spec.repositoryRoot with
      | none =>
        rw [htoken, hroot] at hclean
        exact absurd (List.mem_singleton_self _) (hclean _)
      | some repositoryRoot => exact ⟨token, repositoryRoot, rfl, rfl⟩

/-- All that is planned for an app is in the plan. -/
theorem appSteps_subset (ha : (app, a) ∈ b.spec.appTable.entries) :
    ∃ token repositoryRoot,
      appIntent app a repositoryRoot token :: (b.appBranches app ++ [b.domainIntent app a]) ⊆
        b.build.1.plan.intents := by
  obtain ⟨token, repositoryRoot, htoken, hroot⟩ := exists_repositories h ha
  refine ⟨token, repositoryRoot, fun i hi => ?_⟩
  refine emissions_subset_intents h b.frontendSteps_subset ?_
  rw [emissions_frontendSteps]
  refine List.mem_flatMap.2 ⟨(app, a), ha, ?_⟩
  simp only [deployedAppSteps, htoken, hroot, emissions_append, emissions_appSteps]
  exact List.mem_append_left _ (List.mem_append_left _ hi)

/-- The domains and the login clients of a plan are those of apps. -/
theorem exists_of_domainOrClient (hi : i ∈ b.build.1.plan.intents)
    (hcategory : i.category ∈ [Category.appDomain, .userPoolClient]) :
    ∃ e ∈ b.spec.appTable.entries, b.IsDomainOrClient e.1 e.2 i := by
  have happ : i.category ∈ appCategories :=
    List.Sublist.subset (by decide) hcategory
  obtain ⟨e, he, hi⟩ := exists_app_of_category h hi happ
  exact ⟨e, he, emits_deployedAppSteps b e.1 e.2 i hi⟩

/-- Each app has a domain. -/
theorem isDomainOf_domainIntent (ha : (app, a) ∈ b.spec.appTable.entries) :
    ∃ own ∈ b.build.1.plan.byCategory .app, own.physicalName = app ∧
      own.handle = appHandle app ∧ b.build.1.plan.IsDomainOf own (b.domainIntent app a) := by
  obtain ⟨token, repositoryRoot, hsubset⟩ := appSteps_subset h ha
  refine ⟨appIntent app a repositoryRoot token,
    Plan.mem_byCategory.2 ⟨hsubset (List.mem_cons_self ..), rfl⟩, rfl, rfl, ?_⟩
  constructor
  case listed => exact Plan.mem_byCategory.2 ⟨hsubset (by simp), rfl⟩
  case part => rfl
  case only =>
    intro other hother hpart
    obtain ⟨hother, hcategory⟩ := Plan.mem_byCategory.1 hother
    obtain ⟨e, he, hdomain, -⟩ := exists_of_domainOrClient h hother (by simp [hcategory])
    obtain rfl := hdomain hcategory
    obtain rfl : e.1 = app := appId_inj.1 (Option.some.inj hpart)
    rw [Table.eq_of_mem he ha]
  case after =>
    intro handle
    rw [domainIntent, Intent.mem_dependsOn_of, List.mem_cons, List.mem_map]
    refine or_congr_right ⟨fun ⟨i, hi, heq⟩ => ?_, fun ⟨i, hi, hpart, heq⟩ => ?_⟩
    · have hlisted : i ∈ b.build.1.plan.intents := hsubset (by simp [hi])
      obtain ⟨e, -, rfl⟩ := List.mem_map.1 hi
      exact ⟨b.appBranch app e.1 e.2, Plan.mem_byCategory.2 ⟨hlisted, rfl⟩, rfl, heq.symm⟩
    · obtain ⟨hlisted, hcategory⟩ := Plan.mem_byCategory.1 hi
      obtain ⟨-, -, other, -, e, he, rfl⟩ := exists_of_appBranch h hlisted hcategory
      obtain rfl : other = app := appId_inj.1 (Option.some.inj hpart)
      exact ⟨_, List.mem_map.2 ⟨e, he, rfl⟩, heq.symm⟩

/-- Each app whose users log in has a login client. -/
theorem isLoginOf_loginClient {user : String} (ha : (app, a) ∈ b.spec.appTable.entries)
    (huser : a.user = some user) :
    ∃ pool, ∀ own : Intent, own.handle = appHandle app →
      b.build.1.plan.IsLoginOf own (b.loginClient app a pool) := by
  obtain ⟨pool, -, hclient⟩ := loginClient_mem_byCategory h ha huser
  refine ⟨pool, fun own hown => ⟨hclient, ?_, fun other hother hafter => ?_⟩⟩
  · simp [loginClient, hown]
  · obtain ⟨hother, hcategory⟩ := Plan.mem_byCategory.1 hother
    obtain ⟨e, he, -, hlogin⟩ := exists_of_domainOrClient h hother (by simp [hcategory])
    obtain ⟨pool', rfl⟩ := hlogin hcategory
    have happ : appHandle app = appHandle e.1 := by
      simpa [loginClient, hown] using hafter
    refine b.ordered_build.eq_of_handle_eq hother (Plan.mem_byCategory.1 hclient).1 ?_
    rw [Handle.of_inj.1 happ]
    rfl

end Plan

/-- **Logins match the sub-domains.**  Let a spec be built without a fault.  Each app of it whose
users log in has one domain and one login client in the plan.  The domain has one sub-domain for
each branch, and depends on the app and on all that the app is deployed as; and the login client
lets users return to local development and to these sub-domains, in their order, and nowhere else,
after a login as well as after a logout. -/
theorem returnsTo_of_build (h : b.build.2 = none) (ha : (app, a) ∈ b.spec.appTable.entries)
    (huser : a.user.isSome) :
    ∃ own ∈ b.build.1.plan.byCategory .app, own.physicalName = app ∧ ∃ domain client,
      b.build.1.plan.IsDomainOf own domain ∧ b.build.1.plan.IsLoginOf own client ∧
      domain.Covers b.spec.branchNames ∧ client.ReturnsTo domain := by
  obtain ⟨user, huser⟩ := Option.isSome_iff_exists.1 huser
  obtain ⟨own, hown, hname, hhandle, hdomain⟩ := isDomainOf_domainIntent h ha
  obtain ⟨pool, hlogin⟩ := isLoginOf_loginClient h ha huser
  have hcovers : (b.domainIntent app a).Covers b.spec.branchNames :=
    ⟨_, b.subDomains?_domainIntent app a, by simp [Function.comp_def]⟩
  exact ⟨own, hown, hname, _, _, hdomain, hlogin own hhandle, hcovers,
    b.returnsTo_loginClient app a pool⟩

/-- Users of the front of the market return to local development or to one of its sub-domains. -/
theorem returnsTo_market :
    (("front", { domain := "market.test", user := some "people", topic := some "sold" }) ∈
      market.spec.appTable.entries ∧
    ∃ own ∈ market.build.1.plan.byCategory .app, own.physicalName = "front" ∧ ∃ domain client,
      market.build.1.plan.IsDomainOf own domain ∧ market.build.1.plan.IsLoginOf own client ∧
      domain.Covers ["main", "test"] ∧ client.ReturnsTo domain) ∧
    market.loginUrls "front" { domain := "market.test" } =
      ["http://localhost:3000/", "https://main.front.market.test/",
        "https://test.front.market.test/"] := by
  have hfront : ("front", { domain := "market.test", user := some "people", topic := some "sold" }) ∈
      market.spec.appTable.entries := Table.get?_eq_some_iff.1 rfl
  exact ⟨⟨hfront, returnsTo_of_build build_market hfront rfl⟩, by decide +kernel⟩

end Blueprint

end ServicePlan
