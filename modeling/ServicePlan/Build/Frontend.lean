import ServicePlan.Build.Messaging

/-!
# Front-end apps in a plan

An app is deployed on every branch, each with a sub-domain of its own.  An app whose users log in
has a login client in a user pool and, if it asks for policies, an identity pool with a role for
each branch.

* `Blueprint.appSteps`: the app, its branches and its domain.
* `Blueprint.loginSteps`, `Blueprint.identitySteps`: what an app with a login needs.
* `Blueprint.deploymentSteps`: the notification about deployments.
* `Blueprint.frontendSteps`: all of it, for all apps.
-/

namespace ServicePlan.Blueprint

variable (b : Blueprint) (app : String) (a : AppSpec)

/-- The handle of an app. -/
def appHandle (app : String) : Handle := .of .app app

/-- The token of the id of an app. -/
def appId (app : String) : String := (appHandle app).attr "AppId"

/-- The domain of an app. -/
def appDomain (app : String) (a : AppSpec) : String := app ++ "." ++ a.domain

/-- The intent to deploy an app on a branch. -/
def appBranch (branch : String) (s : BranchSpec) : Intent :=
  .of .appBranch .frontend (app ++ "-" ++ branch)
    (.object [
      ("app_id", .string (appId app)),
      ("branch_name", .string branch),
      ("environment_variables", b.environmentPairs branch),
      ("stage", .stringOrNull s.appStage)])
    [appHandle app]

/-- The intents to deploy an app on all branches. -/
def appBranches : List Intent :=
  b.spec.branches.entries.map fun e => b.appBranch app e.1 e.2

/-- The sub-domain of a branch. -/
def subDomain (branch : String) : Json :=
  .object [("branch_name", .string branch), ("prefix", .string branch)]

/-- The steps for an app, its branches and its domain. -/
def appSteps (repositoryRoot token : String) : List Step :=
  [.emit <| .of .app .frontend app
    (.object [
      ("access_token", .string token),
      ("description", .stringOrNull a.description),
      ("name", .string app),
      ("repository", .string (repositoryRoot ++ "/" ++ app))])] ++
  (b.appBranches app).map .emit ++
  [.emit <| .of .appDomain .frontend (appDomain app a)
    (.object [
      ("app_id", .string (appId app)),
      ("domain_name", .string (appDomain app a)),
      ("sub_domain_settings", .array (b.spec.branchNames.map subDomain))])
    (appHandle app :: (b.appBranches app).map (·.handle))]

/-- The handle of the login client of an app. -/
def clientHandle (app : String) : Handle := .of .userPoolClient (Naming.client app)

/-- The registry key of the login client of an app. -/
def clientKey (app : String) : Registry.Key := ⟨.authClient, none, app⟩

/-- Where a login may lead to: local development, and the sub-domains of all branches. -/
def loginUrls : List String :=
  Settings.localCallbackUrl ::
    b.spec.branchNames.map fun branch => "https://" ++ branch ++ "." ++ app ++ "." ++ a.domain ++ "/"

/-- Who asks for the user pool of an app. -/
def loginRequest (app : String) : String := s!"cognito_auth of app `{app}`"

/-- The intent to create the login client of an app. -/
def loginClient (pool : UserPool) : Intent :=
  .of .userPoolClient .frontend (Naming.client app)
    (.object [
      ("o_auth", .object [
        ("callback_urls", .strings (b.loginUrls app a)),
        ("flows", .object [("authorization_code_grant", .bool true)]),
        ("logout_urls", .strings (b.loginUrls app a))]),
      ("user_pool_client_name", .string (Naming.client app)),
      ("user_pool_id", .string pool.id)])
    [appHandle app]

/-- The policy fragments of an app on a branch, in order. -/
def fragments (branch : String) : Except Fault (List PolicyFragment) :=
  let bindings := Bindings.ofPolicy b.site b.spec.serviceName branch
  a.inlinePolicies.mapM fun path => PolicyFragment.load b.files (b.path path) bindings

/-- The name of the identity pool of an app on a branch. -/
def poolName (app branch : String) : String := app ++ "-" ++ branch ++ "-idpool"

/-- The handle of the identity pool of an app on a branch. -/
def poolHandle (app branch : String) : Handle := .of .identityPool (poolName app branch)

/-- The name of the role of those who are logged in to an app on a branch. -/
def roleName (app branch : String) : String := app ++ "-" ++ branch ++ "-auth-role"

/-- The handle of the role of those who are logged in to an app on a branch. -/
def roleHandle (app branch : String) : Handle := .of .role (roleName app branch)

/-- The intent to create the identity pool of an app on a branch. -/
def identityPool (pool : UserPool) (branch : String) : Intent :=
  .of .identityPool .frontend (poolName app branch)
    (.object [
      ("allow_unauthenticated_identities", .bool false),
      ("cognito_identity_providers", .array [.object [
        ("client_id", .string (clientHandle app).ref),
        ("provider_name", .string
          ("cognito-idp." ++ b.site.region ++ ".amazonaws.com/" ++ pool.id))]]),
      ("identity_pool_name", .string (poolName app branch))])
    [clientHandle app]

/-- The intent to create the role of those who are logged in to an app on a branch. -/
def identityRole (branch : String) (fragments : List PolicyFragment) : Intent :=
  .of .role .frontend (roleName app branch)
    (.object [
      ("assumed_by", .object [
        ("action", .string "sts:AssumeRoleWithWebIdentity"),
        ("conditions", .object [
          ("ForAnyValue:StringLike", .object [
            ("cognito-identity.amazonaws.com:amr", .string "authenticated")]),
          ("StringEquals", .object [
            ("cognito-identity.amazonaws.com:aud", .string (poolHandle app branch).ref)])]),
        ("federated", .string "cognito-identity.amazonaws.com")]),
      ("inline_policies", .ofMembers (fragments.map fun f => (f.name, f.document))),
      ("managed_policies", .strings a.managedPolicies),
      ("role_name", .string (roleName app branch))])
    [poolHandle app branch]

/-- The intent to attach the role to the identity pool. -/
def roleAttachment (app branch : String) : Intent :=
  .of .roleAttachment .frontend (poolName app branch ++ "-roles")
    (.object [
      ("identity_pool_id", .string (poolHandle app branch).ref),
      ("roles", .object [("authenticated", .string (roleHandle app branch).arn)])])
    [poolHandle app branch, roleHandle app branch]

/-- The steps for the identity pools of an app. -/
def identitySteps (pool : UserPool) : List Step :=
  b.spec.branchNames.flatMap fun branch =>
    Step.orFail (b.fragments a branch) fun fragments =>
      [.emit (b.identityPool app pool branch),
        .emit (identityRole app a branch fragments),
        .emit (roleAttachment app branch)]

/-- The steps for the login of an app. -/
def loginSteps : List Step :=
  match a.user with
  | none => []
  | some user =>
    Step.orFail (b.references.userPool user (loginRequest app)) fun pool =>
      [.emit (b.loginClient app a pool)] ++
      (if a.wantsIdentityPool then b.identitySteps app a pool else []) ++
      [.register (clientKey app) (clientHandle app)]

/-- The steps for the notification about deployments of an app. -/
def deploymentSteps : List Step :=
  match a.topic with
  | none => []
  | some key =>
    let rule := "amplify-" ++ app ++ "-notification"
    let topic := b.topicHandle key
    [.require (topicKey key) s!"deploy_event_sns of app `{app}`",
      .emit <| .of .eventRule .frontend rule
        (.object [
          ("event_pattern", .object [
            ("detail", .object [
              ("appId", .strings [appId app]),
              ("branchName", .strings b.spec.branchNames),
              ("jobStatus", .strings ["SUCCEED", "FAILED", "STARTED"])]),
            ("detail_type", .strings ["Amplify Deployment Status Change"]),
            ("source", .strings ["aws.amplify"])]),
          ("rule_name", .string rule),
          ("targets", .strings [topic.arn])])
        [appHandle app, topic]]

/-- The steps for all apps, which need the token and the root of their repositories. -/
def frontendSteps : List Step :=
  match b.spec.apps with
  | none => [.info "No amplify block, skipping the frontend phase"]
  | some apps =>
    match b.token, b.spec.repositoryRoot with
    | none, _ => [.fail .noRepositoryToken]
    | some _, none => [.fail .noRepositoryRoot]
    | some token, some repositoryRoot =>
      apps.entries.flatMap fun e =>
        b.appSteps e.1 e.2 repositoryRoot token ++ b.loginSteps e.1 e.2 ++
          b.deploymentSteps e.1 e.2

end ServicePlan.Blueprint
