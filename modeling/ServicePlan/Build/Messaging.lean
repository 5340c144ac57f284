import ServicePlan.Build.Functions

/-!
# Topics in a plan

A topic comes with a policy that lets the event bus publish to it, and with the functions that it
feeds, which all branches share.

* `Blueprint.topicSteps`, `Blueprint.messagingSteps`.
-/

namespace ServicePlan.Blueprint

variable (b : Blueprint) (key : String) (t : TopicSpec)

/-- The handle of a topic. -/
def topicHandle : Handle := .of .topic (b.naming.topic key)

/-- The registry key of a topic. -/
def topicKey (key : String) : Registry.Key := ⟨.topic, none, key⟩

/-- The policy that lets the event bus publish to a topic. -/
def topicPolicy : Intent :=
  let topic := b.topicHandle key
  .of .topicPolicy .messaging (b.naming.topic key ++ "-policy")
    (.object [
      ("policy_document", .object [
        ("Statement", .array [.object [
          ("Action", .string "sns:Publish"),
          ("Effect", .string "Allow"),
          ("Principal", .object [("Service", .string "events.amazonaws.com")]),
          ("Resource", .string topic.arn)]])]),
      ("topics", .strings [topic.ref])])
    [topic]

/-- The steps for one topic. -/
def topicSteps : List Step :=
  let name := b.naming.topic key
  [.emit <| .of .topic .messaging name
      (.object [("display_name", .stringOrNull t.description), ("topic_name", .string name)]),
    .emit (b.topicPolicy key)] ++
  (match t.functions with
    | some functions => b.functionsSteps ⟨none, some (b.topicHandle key), .messaging⟩ functions
    | none => []) ++
  [.register (topicKey key) (b.topicHandle key)]

/-- The steps for all topics. -/
def messagingSteps : List Step :=
  match b.spec.topics with
  | none => [.info "No sns block, skipping the messaging phase"]
  | some topics => topics.entries.flatMap fun e => b.topicSteps e.1 e.2

end ServicePlan.Blueprint
