/-!
# Deployments

Names and policies of a service depend on the account and the region it is deployed to.
-/

namespace ServicePlan

/-- The account and region that a service is deployed to. -/
structure Deployment where
  /-- The account id. -/
  account : String
  /-- The region name. -/
  region : String
  deriving DecidableEq, Repr

end ServicePlan
