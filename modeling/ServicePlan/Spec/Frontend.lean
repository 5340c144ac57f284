import ServicePlan.Json.Decode

/-!
# Front-end apps and the gateway in specs

* `AppSpec`: a front-end app, which every branch deploys.
* `AuthorizationSpec`: the user pool and the app that authorize a request.
* `RouteSpec`: the routes of one function.
* `GatewaySpec`: the HTTP api with its integrations.
-/

namespace ServicePlan

/-- A front-end app. -/
structure AppSpec where
  /-- The domain that the app has a sub-domain of. -/
  domain : String
  /-- What the app is described as. -/
  description : Option String := none
  /-- The user pool that holds the login client of the app. -/
  user : Option String := none
  /-- The topic that is told about deployments. -/
  topic : Option String := none
  /-- Paths of policy fragments for the role of those who are logged in. -/
  inlinePolicies : List String := []
  /-- Managed policies of that role. -/
  managedPolicies : List String := []
  deriving DecidableEq, Repr

namespace AppSpec

/-- Whether each branch gets an identity pool for the app. -/
def wantsIdentityPool (a : AppSpec) : Bool :=
  !a.inlinePolicies.isEmpty || !a.managedPolicies.isEmpty

/-- The fields of an app. -/
def fields : Fields AppSpec :=
  mk <$> .required "domain" Decode.string
    <*> .optional "description" Decode.string
    <*> .optional "cognito_auth" Decode.string
    <*> .optional "deploy_event_sns" Decode.string
    <*> .withDefault "inline_policy" (Decode.list Decode.string) []
    <*> .withDefault "managed_policy" (Decode.list Decode.string) []

/-- Decodes an app. -/
def decode : Decoder AppSpec := fields.decode "AmplifyAppSpec"

/-- The value of an app. -/
def encode (a : AppSpec) : Json :=
  .object [
    ("cognito_auth", .stringOrNull a.user),
    ("deploy_event_sns", .stringOrNull a.topic),
    ("description", .stringOrNull a.description),
    ("domain", .string a.domain),
    ("inline_policy", .strings a.inlinePolicies),
    ("managed_policy", .strings a.managedPolicies)]

end AppSpec

/-- Who authorizes the requests of an integration. -/
structure AuthorizationSpec where
  /-- The user pool. -/
  user : String
  /-- The app that users log in to. -/
  app : String
  deriving DecidableEq, Repr

namespace AuthorizationSpec

/-- The fields of an authorization. -/
def fields : Fields AuthorizationSpec :=
  mk <$> .required "user" Decode.string <*> .required "app" Decode.string

/-- Decodes an authorization. -/
def decode : Decoder AuthorizationSpec := fields.decode "CognitoAuthSpec"

/-- The value of an authorization. -/
def encode (a : AuthorizationSpec) : Json :=
  .object [("app", .string a.app), ("user", .string a.user)]

end AuthorizationSpec

/-- The routes of a function. -/
structure RouteSpec where
  /-- The route keys. -/
  routes : Option (List String) := none
  /-- The path of an api document that the route keys are taken from. -/
  document : Option String := none
  /-- Who authorizes requests. -/
  authorization : Option AuthorizationSpec := none
  deriving DecidableEq, Repr

namespace RouteSpec

/-- The fields of the routes of a function. -/
def fields : Fields RouteSpec :=
  mk <$> .optional "route" (Decode.list Decode.string)
    <*> .optional "route_openapi" Decode.string (some "openapi_yaml")
    <*> .optional "cognito_auth" AuthorizationSpec.decode

/-- Decodes the routes of a function. -/
def decode : Decoder RouteSpec := fields.decode "RouteSpec"

/-- The value of the routes of a function. -/
def encode (r : RouteSpec) : Json :=
  .object [
    ("cognito_auth", .orNull AuthorizationSpec.encode r.authorization),
    ("route", .orNull .strings r.routes),
    ("route_openapi", .stringOrNull r.document)]

end RouteSpec

/-- The HTTP api, which all branches share. -/
structure GatewaySpec where
  /-- What the api is described as. -/
  description : Option String := none
  /-- The name of the zone of the custom domain. -/
  domain : Option String := none
  /-- The id of the zone; there is a custom domain only if it is given. -/
  zoneId : Option String := none
  /-- The certificate of the custom domain. -/
  certificate : Option String := none
  /-- The routes of each function, by function key. -/
  integrations : Table RouteSpec := ∅

namespace GatewaySpec

/-- The fields of the api. -/
def fields : Fields GatewaySpec :=
  mk <$> .optional "description" Decode.string
    <*> .optional "domain" Decode.string
    <*> .optional "zone_id" Decode.string
    <*> .optional "certificate_arn" Decode.string
    <*> .withDefault "lambda_integration" (Decode.table RouteSpec.decode) ∅

/-- Decodes the api. -/
def decode : Decoder GatewaySpec := fields.decode "ApiGwSpec"

/-- The value of the api. -/
def encode (g : GatewaySpec) : Json :=
  .object [
    ("certificate_arn", .stringOrNull g.certificate),
    ("description", .stringOrNull g.description),
    ("domain", .stringOrNull g.domain),
    ("lambda_integration", .ofTable RouteSpec.encode g.integrations),
    ("zone_id", .stringOrNull g.zoneId)]

end GatewaySpec

end ServicePlan
