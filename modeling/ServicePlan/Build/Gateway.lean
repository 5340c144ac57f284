import ServicePlan.Build.Frontend
import ServicePlan.Routes

/-!
# The HTTP api in a plan

All branches share one api.  It has one stage for each branch, one authorizer for each pair of a
user pool and an app, one integration for each function key and one route for each route key.

* `Blueprint.routeKeys`: the route keys of an integration.
* `Blueprint.domainSteps`, `Blueprint.stageSteps`, `Blueprint.authorizerSteps`,
  `Blueprint.integrationSteps`: the parts of the api, in this order.
* `Blueprint.gatewaySteps`: all of it.
-/

namespace ServicePlan.Blueprint

variable (b : Blueprint) (g : GatewaySpec)

/-! ## Routes -/

/-- The route keys of an integration: those given, or else those of an api document. -/
def routeKeys (key : String) (r : RouteSpec) : Except Fault (List String) :=
  match r.routes, r.document with
  | some routes, _ => .ok routes
  | none, some document => Route.ofFile b.files (b.path document)
  | none, none => .error (.noRoutes key)

/-- The record of route keys that were taken from a document. -/
def routeNotes (key : String) (r : RouteSpec) (routes : List String) : List Step :=
  match r.routes, r.document with
  | none, some document =>
    [.info s!"Derived {routes.length} routes of {key} from {document}"]
  | _, _ => []

/-- The steps that make sure of the function and the routes of an integration. -/
def routeSteps (key : String) (r : RouteSpec) : List Step :=
  if b.spec.functions.contains key then
    Step.orFail (b.routeKeys key r) (routeNotes key r)
  else [.fail (.unknownFunction key "apigw.lambda_integration")]

/-! ## The api and its custom domain -/

/-- The intent to create the api. -/
def api : Intent :=
  .of .api .gateway b.spec.apiName
    (.object [
      ("cors_configuration", .object [
        ("allow_headers", .strings ["*"]),
        ("allow_methods", .strings Settings.corsAllowMethods),
        ("allow_origins", .strings ["*"])]),
      ("description", .stringOrNull g.description),
      ("name", .string b.spec.apiName),
      ("protocol_type", .string "HTTP")])

/-- The zone and the name of the custom domain, which there is only if both the id and the name of
a zone are given. -/
def customDomain? : Option (String × String × String) :=
  match g.zoneId, g.domain with
  | some zoneId, some zone => some (zoneId, zone, b.spec.apiName ++ "." ++ zone)
  | _, _ => none

/-- The handle of the custom domain. -/
def domainHandle? : Option Handle :=
  (b.customDomain? g).map fun (_, _, name) => .of .domainName name

/-- The steps for the custom domain and its record. -/
def domainSteps : List Step :=
  match b.customDomain? g with
  | none => []
  | some (zoneId, zone, name) =>
    let domain : Handle := .of .domainName name
    [.emit <| .of .domainName .gateway name
        (.object [
          ("domain_name", .string name),
          ("domain_name_configurations", .orNull
            (fun arn => .array [.object [("certificate_arn", .string arn)]]) g.certificate)])
        [b.apiHandle],
      .emit <| .of .dnsRecord .gateway name
        (.object [
          ("alias_target", .object [
            ("dns_name", .string (domain.attr "RegionalDomainName")),
            ("hosted_zone_id", .string (domain.attr "RegionalHostedZoneId"))]),
          ("hosted_zone_id", .string zoneId),
          ("record_name", .string name),
          ("record_type", .string "A"),
          ("zone_name", .string zone)])
        [domain]]

/-! ## Stages -/

/-- The name of the stage of a branch. -/
def stageName (s : BranchSpec) : String := s.stage.getD Settings.defaultStage

/-- The physical name of the stage of a branch. -/
def stageId (s : BranchSpec) : String := b.spec.apiName ++ "_" ++ stageName s

/-- The intent to create the stage of a branch, which knows the branch by a variable. -/
def stage (branch : String) (s : BranchSpec) : Intent :=
  .of .stage .gateway (b.stageId s)
    (.object [
      ("api_id", .string b.apiHandle.ref),
      ("auto_deploy", .bool true),
      ("stage_name", .string (stageName s)),
      ("stage_variables", .object [(Settings.stageVariable, .string branch)])])
    [b.apiHandle]

/-- The intent to map the stage of a branch onto the custom domain. -/
def mapping (domain : Handle) (branch : String) (s : BranchSpec) : Intent :=
  .of .apiMapping .gateway (b.stageId s ++ "_mapping")
    (.object [
      ("api_id", .string b.apiHandle.ref),
      ("api_mapping_key", .string branch),
      ("domain_name", .string domain.ref),
      ("stage", .string (stageName s))])
    [domain, .of .stage (b.stageId s)]

/-- The steps for the stages of all branches. -/
def stageSteps : List Step :=
  b.spec.branches.entries.flatMap fun e =>
    .emit (b.stage e.1 e.2) ::
      (b.domainHandle? g).toList.map fun domain => .emit (b.mapping domain e.1 e.2)

/-! ## Authorizers -/

/-- The first integration that uses each authorization, behind those that are known. -/
def firstUses : List AuthorizationSpec → List (String × RouteSpec) →
    List (String × AuthorizationSpec)
  | _, [] => []
  | known, (key, r) :: rest =>
    match r.authorization with
    | none => firstUses known rest
    | some auth =>
      if auth ∈ known then firstUses known rest
      else (key, auth) :: firstUses (known ++ [auth]) rest

/-- The handle of the authorizer of a user pool and an app. -/
def authorizerHandle (auth : AuthorizationSpec) : Handle :=
  .of .authorizer (Naming.authorizer auth.user auth.app)

/-- The intent to create an authorizer. -/
def authorizer (auth : AuthorizationSpec) (pool : UserPool) : Intent :=
  let name := Naming.authorizer auth.user auth.app
  let client := clientHandle auth.app
  .of .authorizer .gateway name
    (.object [
      ("api_id", .string b.apiHandle.ref),
      ("authorizer_type", .string "JWT"),
      ("identity_source", .strings [Settings.identitySource]),
      ("jwt_configuration", .object [
        ("audience", .strings [client.ref]),
        ("issuer", .string pool.url)]),
      ("name", .string name)])
    [b.apiHandle, client]

/-- The steps for the authorizers, in the order of the integrations that first use them. -/
def authorizerSteps : List Step :=
  (firstUses [] g.integrations.entries).flatMap fun (key, auth) =>
    let requestedBy := s!"cognito_auth of integration `{key}`"
    Step.orFail (b.references.userPool auth.user requestedBy) fun pool =>
      [.require (clientKey auth.app) requestedBy, .emit (b.authorizer auth pool)]

/-- The authorizers that there are, with what each of them is for. -/
def authorizers : List (AuthorizationSpec × Handle) :=
  (firstUses [] g.integrations.entries).map fun e => (e.2, authorizerHandle e.2)

/-- The authorizer of an integration, looked up among those that there are. -/
def authorizer? (r : RouteSpec) : Option Handle :=
  r.authorization.bind fun auth => (authorizers g).lookup auth

/-! ## Integrations -/

/-- The name of the function that an integration calls. -/
def integrationName (key : String) : String :=
  b.naming.integrationFunction key Settings.stageVariable

/-- The handle of an integration. -/
def integrationHandle (key : String) : Handle := .of .integration (b.integrationName key)

/-- The intent to create an integration. -/
def integration (key : String) : Intent :=
  let name := b.integrationName key
  .of .integration .gateway name
    (.object [
      ("api_id", .string b.apiHandle.ref),
      ("integration_method", .string "GET"),
      ("integration_type", .string "AWS_PROXY"),
      ("integration_uri", .string (b.naming.functionArn name)),
      ("payload_format_version", .string "2.0")])
    [b.apiHandle]

/-- The intent to create a route of an integration, with the authorizer of the integration. -/
def route (key : String) (authorizer : Option Handle) (routeKey : String) : Intent :=
  let integration := b.integrationHandle key
  .of .route .gateway (b.integrationName key ++ ":" ++ routeKey)
    (.object [
      ("api_id", .string b.apiHandle.ref),
      ("authorization_type", .stringOrNull (authorizer.map fun _ => "JWT")),
      ("authorizer_id", .stringOrNull (authorizer.map (·.ref))),
      ("route_key", .string routeKey),
      ("target", .string ("integrations/" ++ integration.ref))])
    ([b.apiHandle, integration] ++ authorizer.toList)

/-- The steps for an integration and its routes. -/
def integrationSteps (key : String) (r : RouteSpec) : List Step :=
  .emit (b.integration key) ::
    Step.orFail (b.routeKeys key r) fun routes =>
      routes.map fun routeKey => .emit (b.route key (authorizer? g r) routeKey)

/-! ## The phase -/

/-- The steps for the api.  All integrations are looked at before anything is emitted. -/
def gatewaySteps : List Step :=
  match b.spec.gateway with
  | none => [.info "No apigw block, skipping the gateway phase"]
  | some g =>
    (g.integrations.entries.flatMap fun e => b.routeSteps e.1 e.2) ++
    [.emit (b.api g)] ++ b.domainSteps g ++ b.stageSteps g ++ b.authorizerSteps g ++
    (g.integrations.entries.flatMap fun e => b.integrationSteps g e.1 e.2) ++
    [.register b.apiKey b.apiHandle]

end ServicePlan.Blueprint
