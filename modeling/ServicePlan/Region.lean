import ServicePlan.Fault

/-!
# Regions

Services are deployed to regions, of which there is a fixed list.  A region may be written in
capital letters or without hyphens.
-/

namespace ServicePlan.Region

/-- The regions. -/
def names : List String :=
  ["ap-east-1", "ap-northeast-1", "ap-northeast-2", "ap-northeast-3", "ap-south-1",
    "ap-southeast-1", "ap-southeast-2", "ca-central-1", "eu-central-1", "eu-west-1", "eu-west-2",
    "eu-west-3", "eu-north-1", "eu-south-1", "me-south-1", "us-east-1", "us-east-2", "sa-east-1",
    "us-west-1", "us-west-2", "us-gov-east-1", "us-gov-west-1", "cn-north-1", "cn-northwest-1",
    "af-south-1"]

/-- A name without its hyphens. -/
def plain (name : String) : String := String.ofList (name.toList.filter (· != '-'))

/-- Whether a text in lower case is a region, with all of its hyphens or with none. -/
def isName (text : String) : Bool := names.any fun name => text == name || text == plain name

/-- Whether a text stands for a region. -/
def isKnown (text : String) : Bool := isName (Text.lower text)

/-- Makes sure that a text stands for a region. -/
def check (text : String) : Except Fault Unit :=
  if isKnown text then .ok () else .error (.unknownRegion text)

end ServicePlan.Region
