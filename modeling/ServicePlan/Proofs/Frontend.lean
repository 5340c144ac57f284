import ServicePlan.Proofs.Functions

/-!
# Front-end apps in order

The steps for an app come in order once the topics are complete: what an app needs for its login is
emitted just before, and the topic that is told about its deployment is required.

* `Blueprint.arranged_frontendSteps`: the order of the phase.
* `Blueprint.login_of_frontendSteps`, `Blueprint.required_frontendSteps`: what is there if the phase
  is made to the end.
-/

namespace ServicePlan.Blueprint

variable {b : Blueprint} {app : String} {a : AppSpec} {seen : List Step}

/-! ## One app -/

/-- A policy fragment that is missing or is not JSON is one to blame. -/
theorem blames_of_fragments {branch : String} {fault : Fault}
    (h : b.fragments a branch = .error fault) : b.Blames fault := by
  obtain ⟨path, -, hpath⟩ := exists_eq_error_of_mapM h
  rw [PolicyFragment.load] at hpath
  split at hpath
  · rw [PolicyFragment.parse] at hpath
    split at hpath <;> cases hpath
    exact .inl (by simp [Fault.kind])
  · cases hpath
    exact .inl (by simp [Fault.kind])

theorem arranged_appSteps {repositoryRoot token : String} :
    b.Arranged seen (b.appSteps app a repositoryRoot token) := by
  simp only [appSteps, arranged_append]
  refine ⟨⟨by simp [Fits], arranged_emits fun i hi h hh => ?_⟩, fun _ => fun h hh => ?_,
    arranged_nil⟩
  · obtain ⟨e, -, rfl⟩ := List.mem_map.1 hi
    simp only [appBranch, Intent.mem_dependsOn_of, List.mem_singleton] at hh
    simp [Grants, hh, appHandle]
  · -- the domain refers to the app and to all of its branches
    rw [Intent.mem_dependsOn_of] at hh
    obtain rfl | hh := List.mem_cons.1 hh
    · simp [Grants, appHandle]
    · obtain ⟨i, hi, rfl⟩ := List.mem_map.1 hh
      refine available_of_emit (List.mem_append_right _ (List.mem_append_right _ ?_))
      exact List.mem_map.2 ⟨i, hi, rfl⟩

theorem arranged_identitySteps {pool : UserPool} (hclient : b.Available seen (clientHandle app)) :
    b.Arranged seen (b.identitySteps app a pool) := by
  refine arranged_flatMap fun branch _ done => ?_
  refine arranged_orFail (fun fault hf => blames_of_fragments hf) fun fragments _ => ?_
  simp [Fits, Grants, identityPool, identityRole, roleAttachment, hclient, poolHandle, roleHandle]

/-- The steps for the login of an app are in order behind the app. -/
theorem arranged_loginSteps (ha : (app, a) ∈ b.spec.appTable.entries)
    (happ : b.Available seen (appHandle app)) : b.Arranged seen (b.loginSteps app a) := by
  rw [loginSteps]
  cases huser : a.user with
  | none => exact arranged_nil
  | some user =>
    refine arranged_orFail (fun fault hf => ?_) fun pool _ => ?_
    · obtain ⟨hkind, hnot⟩ := References.not_mem_users_of_userPool hf
      exact .inr ⟨hkind, fun hclosed => hnot (hclosed.logins _ ha user huser)⟩
    · simp only [arranged_append]
      refine ⟨⟨by simp [Fits, loginClient, happ], ?_⟩,
        fun _ => ⟨rfl, ⟨a, ha, by simp [huser]⟩, ?_⟩, arranged_nil⟩
      · split
        · exact arranged_identitySteps (by simp [Grants, loginClient, clientHandle])
        · exact arranged_nil
      · -- nothing is registered between the login client and its key
        refine ⟨seen, _, _, rfl, rfl, fun hreg => ?_⟩
        obtain hreg | hreg := registered_append.1 hreg
        · simp [Registered] at hreg
        · split at hreg
          · obtain ⟨branch, -, hreg⟩ := registered_flatMap.1 hreg
            obtain ⟨fragments, -, hreg⟩ := hreg.exists_eq_ok
            simp [Registered] at hreg
          · simp [Registered] at hreg

/-- The steps for the notification about an app are in order behind the app and all topics. -/
theorem arranged_deploymentSteps (ha : (app, a) ∈ b.spec.appTable.entries)
    (happ : b.Available seen (appHandle app)) (hmessaging : .complete .messaging ∈ seen)
    (htopics : ∀ key ∈ b.spec.topicTable.keys, Registered seen (topicKey key)) :
    b.Arranged seen (b.deploymentSteps app a) := by
  rw [deploymentSteps]
  cases htopic : a.topic with
  | none => exact arranged_nil
  | some key =>
    refine ⟨fun _ => ⟨?_, fun hclosed => ?_⟩, fun _ => ?_, arranged_nil⟩
    · rintro _ ⟨⟩
      exact hmessaging
    · exact htopics key (hclosed.notifications _ ha key htopic)
    · simp [Fits, Grants, happ]

/-- If the steps for the login of an app are made to the end, its user pool is there and its login
client is registered. -/
theorem user_of_loginSteps {user : String} (h : Clean (b.loginSteps app a))
    (huser : a.user = some user) :
    user ∈ b.references.catalog.users ∧ Registered (b.loginSteps app a) (clientKey app) := by
  simp only [loginSteps, huser] at h ⊢
  obtain ⟨pool, hpool, hsteps⟩ := h.exists_eq_ok
  rw [hsteps]
  exact ⟨References.mem_users_of_userPool hpool, clientHandle app, by simp⟩

/-! ## The phase -/

/-- The steps for all apps are in order once the topics are complete. -/
theorem arranged_frontendSteps (hmessaging : .complete .messaging ∈ seen)
    (htopics : ∀ key ∈ b.spec.topicTable.keys, Registered seen (topicKey key)) :
    b.Arranged seen b.frontendSteps := by
  rw [frontendSteps]
  cases happs : b.spec.apps with
  | none => simp [Fits, Step.info]
  | some apps =>
    cases b.token with
    | none => exact ⟨fun _ => .inl (by simp [Fault.kind]), arranged_nil⟩
    | some token =>
      cases b.spec.repositoryRoot with
      | none => exact ⟨fun _ => .inl (by simp [Fault.kind]), arranged_nil⟩
      | some repositoryRoot =>
        refine arranged_flatMap fun e he done => ?_
        have ha : (e.1, e.2) ∈ b.spec.appTable.entries := by
          simpa [ServiceSpec.appTable, happs] using he
        simp only [arranged_append]
        refine ⟨⟨arranged_appSteps, arranged_loginSteps ha ?_⟩,
          arranged_deploymentSteps ha ?_ ?_ ?_⟩
        · simp [appSteps, Grants, appHandle]
        · simp [appSteps, Grants, appHandle]
        · simp [hmessaging]
        · intro key hkey
          exact (htopics key hkey).subset (by simp)

/-- A phase that is made to the end has the steps for each app. -/
theorem subset_frontendSteps (h : Clean b.frontendSteps)
    (ha : (app, a) ∈ b.spec.appTable.entries) :
    b.loginSteps app a ++ b.deploymentSteps app a ⊆ b.frontendSteps := by
  rw [frontendSteps] at h ⊢
  rw [ServiceSpec.appTable] at ha
  cases happs : b.spec.apps with
  | none => simp [happs] at ha
  | some apps =>
    rw [happs] at h ha
    cases htoken : b.token with
    | none =>
      rw [htoken] at h
      exact absurd (List.mem_singleton_self _) (h _)
    | some token =>
      cases hroot : b.spec.repositoryRoot with
      | none =>
        rw [htoken, hroot] at h
        exact absurd (List.mem_singleton_self _) (h _)
      | some repositoryRoot =>
        intro s hs
        refine List.mem_flatMap.2 ⟨_, ha, ?_⟩
        rw [List.append_assoc]
        exact List.mem_append_right _ hs

/-- If the steps for all apps are made to the end, the user pools are there and all login clients
are registered. -/
theorem login_of_frontendSteps {user : String} (h : Clean b.frontendSteps)
    (ha : (app, a) ∈ b.spec.appTable.entries) (huser : a.user = some user) :
    user ∈ b.references.catalog.users ∧ Registered b.frontendSteps (clientKey app) := by
  have hsubset := subset_frontendSteps h ha
  have hclean := (clean_append.1 (h.subset hsubset)).1
  obtain ⟨hmem, hregistered⟩ := user_of_loginSteps hclean huser
  exact ⟨hmem, (registered_append.2 (.inl hregistered)).subset hsubset⟩

/-- If the steps for all apps are made to the end, the topics that they tell are required. -/
theorem required_frontendSteps {key : String} (h : Clean b.frontendSteps)
    (ha : (app, a) ∈ b.spec.appTable.entries) (htopic : a.topic = some key) :
    ∃ requestedBy, .require (topicKey key) requestedBy ∈ b.frontendSteps := by
  have hmem : .require (topicKey key) s!"deploy_event_sns of app `{app}`" ∈
      b.deploymentSteps app a := by
    simp [deploymentSteps, htopic]
  exact ⟨_, subset_frontendSteps h ha (List.mem_append_right _ hmem)⟩

end ServicePlan.Blueprint
