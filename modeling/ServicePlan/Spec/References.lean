import ServicePlan.Json.Decode

/-!
# References of specs

A spec names what exists outside of it: layers, user pools and the network of batch jobs.

* `UserPoolSpec`: keeps members beyond its field as they are.
* `NetworkSpec`, `ReferenceSpec`.
-/

namespace ServicePlan

/-- A user pool. -/
structure UserPoolSpec where
  /-- The id of the pool. -/
  id : String
  /-- All other members of the description, as given. -/
  extra : Table Json

namespace UserPoolSpec

/-- The name of the member that holds the id. -/
def idName : String := "user_pool_id"

/-- Decodes a user pool, which has to be an object. -/
def decode : Decoder UserPoolSpec
  | .object members =>
    match members.lookup idName with
    | some v => do
      let id ← Decode.string v
      .ok ⟨id, .ofList (members.filter (·.1 ≠ idName))⟩
    | none => .error (.missingField idName)
  | v => .error (.invalidType v.shape "struct CognitoSpec")

/-- The value of a user pool. -/
def encode (p : UserPoolSpec) : Json := .ofTable (·) (p.extra.insert idName (.string p.id))

end UserPoolSpec

/-- The network that batch jobs run in. -/
structure NetworkSpec where
  /-- The subnets of the compute environment. -/
  subnets : List String
  /-- The security group of the compute environment. -/
  securityGroup : String
  deriving DecidableEq, Repr

namespace NetworkSpec

/-- The fields of a network. -/
def fields : Fields NetworkSpec :=
  mk <$> .required "subnet_id_list" (Decode.list Decode.string)
    <*> .required "security_group_id" Decode.string

/-- Decodes a network. -/
def decode : Decoder NetworkSpec := fields.decode "VpcSpec"

/-- The value of a network. -/
def encode (n : NetworkSpec) : Json :=
  .object [
    ("security_group_id", .string n.securityGroup),
    ("subnet_id_list", .strings n.subnets)]

end NetworkSpec

/-- What exists outside of a spec. -/
structure ReferenceSpec where
  /-- The layers: for each id a resource name, or the name of a layer. -/
  layers : Table String := ∅
  /-- The user pools. -/
  pools : Table UserPoolSpec := ∅
  /-- The network that batch jobs run in. -/
  network : Option NetworkSpec := none

namespace ReferenceSpec

/-- The fields of the references. -/
def fields : Fields ReferenceSpec :=
  mk <$> .withDefault "lambda_layer" (Decode.table Decode.string) ∅
    <*> .withDefault "cognito" (Decode.table UserPoolSpec.decode) ∅
    <*> .optional "vpc" NetworkSpec.decode

/-- Decodes the references. -/
def decode : Decoder ReferenceSpec := fields.decode "RefSpec"

/-- The value of the references. -/
def encode (r : ReferenceSpec) : Json :=
  .object [
    ("cognito", .ofTable UserPoolSpec.encode r.pools),
    ("lambda_layer", .ofTable .string r.layers),
    ("vpc", .orNull NetworkSpec.encode r.network)]

end ReferenceSpec

end ServicePlan
