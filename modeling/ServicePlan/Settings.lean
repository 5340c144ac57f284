/-!
# Settings

The values that a plan uses where a spec says nothing, and the fixed parts of the resources it
lists.
-/

namespace ServicePlan.Settings

/-- The region used when none is named. -/
def region : String := "us-east-1"

/-- The runtime of functions for which neither the function nor the spec names one. -/
def runtime : String := "PYTHON_3_12"

/-- The timeout of functions that do not give one, in seconds. -/
def timeout : Int := 3

/-- The code asset of functions without a code path. -/
def code : String := "initial_lambda"

/-- The managed policy of every function role. -/
def basicExecutionPolicy : String := "service-role/AWSLambdaBasicExecutionRole"

/-- The schema registry that holds test events. -/
def testEventRegistry : String := "lambda-testevent-schemas"

/-- What is added to the timeout of a function to get the visibility timeout of its queue, in
seconds. -/
def additionalTimeout : Int := 10

/-- How often a message is received before it goes to the dead-letter queue. -/
def maxReceiveCount : Int := 3

/-- How many messages one invocation gets. -/
def batchSize : Int := 1

/-- The host of the container registry, with the region as a placeholder. -/
def registryHost : String := "dkr.ecr.\x7b$region\x7d.amazonaws.com"

/-- After how many days images without a tag expire. -/
def untaggedMaxAgeDays : Int := 7

/-- The stage variable that carries the branch name. -/
def stageVariable : String := "branch"

/-- The stage of branches that do not name one. -/
def defaultStage : String := "$default"

/-- The methods that requests from other origins may use. -/
def corsAllowMethods : List String := ["GET", "POST", "HEAD"]

/-- The part of a request that authorizers read the token from. -/
def identitySource : String := "$request.header.Authorization"

/-- Where a login returns to while an app is developed locally. -/
def localCallbackUrl : String := "http://localhost:3000/"

end ServicePlan.Settings
