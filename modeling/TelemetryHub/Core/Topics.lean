import TelemetryHub.Core.Roster

/-!
# Topics, subscribers and messages
-/

namespace TelemetryHub

open Lib CoreM

/-- `normalize_topic_id(..).ok_or(..)`. -/
def requireTopicId (topicId problem : String) : Except RchCoreError String :=
  match normalizeTopicId topicId with
  | some topicId => .ok topicId
  | none => invalidPayload problem

/-- `normalize_subscriber_node_id(..).ok_or(..)`. -/
def requireNodeId (nodeId problem : String) : Except RchCoreError String :=
  match normalizeSubscriberNodeId nodeId with
  | some nodeId => .ok nodeId
  | none => invalidPayload problem

section

variable [Host]

/-- `create_topic_from_args`. -/
def createTopicFromArgs (args : Value) : CoreM String := do
  let rawTopicId := optionalText args ["topic_id", "TopicID"]
  let missing : RchCoreError := .invalidPayload "topic_name and topic_path are required"
  let topicName ← Proc.orThrow (((optionalText args ["topic_name", "TopicName"]).or rawTopicId).filter
    fun value => !(trim value).isEmpty) missing
  let topicPath ← Proc.orThrow (((optionalText args ["topic_path", "TopicPath"]).or rawTopicId).filter
    fun value => !(trim value).isEmpty) missing
  let topicDescription := (optionalText args ["topic_description", "TopicDescription"]).getD ""
  let topicId ← orNewUuid (rawTopicId.bind normalizeTopicId)
  let retention :=
    if optionalText args ["retention", "Retention"] = some "ephemeral" then .ephemeral else .persistent
  let visibility :=
    if optionalText args ["visibility", "Visibility"] = some "restricted" then .restricted
    else .isPublic
  let now ← utcNowMs
  let topic : TopicRecord :=
    { topicId, topicName, topicPath, topicDescription, retention, visibility, createdTsMs := now,
      lastActivityTsMs := now }
  update fun core => { core with topics := core.topics.insert topicId topic }
  return topicId

/-- `patch_topic_from_args`. -/
def patchTopicFromArgs (args : Value) : CoreM TopicRecord := do
  let topicId ← requireTopicId (← requiredText args ["topic_id", "TopicID", "id", "ID"])
    "topic_id is required"
  let topic ← Proc.orThrow ((← core).topics.get topicId) .topicNotFound
  let topic := { topic with
    topicName := (optionalText args ["topic_name", "TopicName"]).getD topic.topicName
    topicPath := (optionalText args ["topic_path", "TopicPath"]).getD topic.topicPath
    topicDescription :=
      if args.containsKey "topic_description" || args.containsKey "TopicDescription" then
        (optionalText args ["topic_description", "TopicDescription"]).getD ""
      else topic.topicDescription
    lastActivityTsMs := ← utcNowMs }
  update fun core => { core with topics := core.topics.insert topicId topic }
  return topic

/-- The attachments of a deleted topic lose their topic. -/
def detachTopic (topicId : String) (now : Int) (attachment : FileAttachmentRecord) :
    FileAttachmentRecord :=
  if attachment.topicId.bind normalizeTopicId = some topicId then
    { attachment with topicId := none, updatedTsMs := now }
  else attachment

/-- `delete_topic_from_args`. -/
def deleteTopicFromArgs (args : Value) : CoreM TopicRecord := do
  let topicId ← requireTopicId (← requiredText args ["topic_id", "TopicID", "id", "ID"])
    "topic_id is required"
  let topic ← Proc.orThrow ((← core).topics.get topicId) .topicNotFound
  let now ← utcNowMs
  update fun core => { core with
    topics := core.topics.remove topicId
    fileAttachments := core.fileAttachments.mapValues (detachTopic topicId now)
    subscribers := core.subscribers.retain fun key _ => key.2 != topicId }
  return topic

/-- What `subscription_from_args` reads. -/
structure Subscription where
  topicId : String
  subscriberId : String
  rejectTests : Option Int
  metadata : Value

/-- `subscription_from_args`. -/
def subscriptionFromArgs (command : MissionCommandEnvelope) (args : Value) :
    Except RchCoreError Subscription := do
  let topicId ← requireTopicId (← requiredText args ["topic_id", "TopicID", "topic_path", "TopicPath"])
    "TopicID is required"
  return {
    topicId
    subscriberId :=
      (optionalText args ["subscriber_id", "SubscriberID", "destination", "Destination"]).getD
        command.source.rnsIdentity
    rejectTests := ((args.get "reject_tests").or (args.get "RejectTests")).bind valueAsI64
    metadata := (args.get "metadata").getD .null }

/-- `subscribe`. -/
def subscribe (topicId subscriberId : String) (rejectTests : Option Int) (metadata : Value) :
    CoreM Unit := do
  if !(← core).topics.contains topicId then throw .topicNotFound
  let subscriberId ← requireNodeId subscriberId "Destination is required"
  let now ← utcNowMs
  let key := (subscriberId, topicId)
  update fun core =>
    let record :=
      match core.subscribers.get key with
      | some record => { record with lastSeenTsMs := now, rejectTests, metadata }
      | none =>
        { nodeId := subscriberId, topicId, firstSeenTsMs := now, lastSeenTsMs := now, rejectTests,
          metadata }
    { core with subscribers := core.subscribers.insert key record }

/-- The first subscription of a node, in the map's own order. -/
def findSubscription (core : RchCore) (subscriberId : String) : Option (String × String) :=
  (core.subscribers.toPairs.map Prod.fst).find? fun key => key.1 == subscriberId

/-- The topic of a subscription patch, if it names one. -/
def subscriptionTopicFromArgs (core : RchCore) (args : Value) (current : String) :
    Except RchCoreError String :=
  match optionalText args ["topic_id", "TopicID"] with
  | none => .ok current
  | some topicId => do
    let topicId ← requireTopicId topicId "TopicID is required"
    if !core.topics.contains topicId then throw .topicNotFound
    return topicId

/-- The node of a subscription patch, if it names one. -/
def subscriptionNodeFromArgs (args : Value) (current : String) : Except RchCoreError String :=
  match optionalText args ["destination", "Destination"] with
  | some destination => requireNodeId destination "Destination is required"
  | none => .ok current

/-- The reject tests of a subscription patch, if it names them. -/
def rejectTestsFromArgs (args : Value) (current : Option Int) : Except RchCoreError (Option Int) := do
  if args.containsKey "reject_tests" || args.containsKey "RejectTests" then
    let rejectTests ← optionalI64 args "reject_tests"
    return rejectTests.or (← optionalI64 args "RejectTests")
  else return current

/-- `patch_subscriber_from_args`. -/
def patchSubscriberFromArgs (args : Value) : CoreM SubscriberRecord := do
  let subscriberId ← requireNodeId (← requiredText args ["subscriber_id", "SubscriberID"])
    "SubscriberID is required"
  let existingKey ← Proc.orThrow (findSubscription (← core) subscriberId) .topicNotFound
  let subscriber ← Proc.orThrow ((← core).subscribers.get existingKey) .topicNotFound
  let nodeId ← subscriptionNodeFromArgs args subscriber.nodeId
  let topicId ← subscriptionTopicFromArgs (← core) args subscriber.topicId
  let metadata := ((args.get "metadata").or (args.get "Metadata")).getD subscriber.metadata
  let rejectTests ← rejectTestsFromArgs args subscriber.rejectTests
  let subscriber := { subscriber with
    nodeId, topicId, metadata, rejectTests, lastSeenTsMs := ← utcNowMs }
  let updatedKey := (nodeId, topicId)
  if updatedKey ≠ existingKey ∧ (← core).subscribers.contains updatedKey then
    throw (.invalidPayload "normalized subscriber destination/topic pair already exists")
  update fun core =>
    { core with subscribers := (core.subscribers.remove existingKey).insert updatedKey subscriber }
  return subscriber

/-- `delete_subscriber_from_args`. -/
def deleteSubscriberFromArgs (args : Value) : CoreM SubscriberRecord := do
  let subscriberId ← requireNodeId (← requiredText args ["subscriber_id", "SubscriberID", "id", "ID"])
    "SubscriberID is required"
  let key ← Proc.orThrow (findSubscription (← core) subscriberId) .topicNotFound
  let subscriber ← Proc.orThrow ((← core).subscribers.get key) .topicNotFound
  update fun core => { core with subscribers := core.subscribers.remove key }
  return subscriber

omit [Host] in
/-- The text of a delivery mode in a message event. -/
def deliveryModeText : DeliveryMode → String
  | .targeted => "targeted"
  | .fanout => "fanout"
  | .broadcast => "broadcast"

omit [Host] in
/-- The topic of a message becomes active. -/
def touchTopic (topicId : Option String) : CoreM Unit := do
  match topicId with
  | some topicId =>
    let topic ← Proc.orThrow ((← core).topics.get topicId) .topicNotFound
    let topic := { topic with lastActivityTsMs := ← utcNowMs }
    update fun core => { core with topics := core.topics.insert topicId topic }
  | none => pure ()

/-- `record_message`. -/
def recordMessage (messageId content : String) (topicId destination : Option String)
    (sender : String) : CoreM EventEnvelope := do
  if (trim content).isEmpty then throw (.invalidPayload "content is required")
  let normalizedTopic := topicId.bind normalizeTopicId
  let destination := destination.bind normalizeHash
  let mode : DeliveryMode :=
    if normalizedTopic.isSome then .fanout
    else if destination.isSome then .targeted
    else .broadcast
  touchTopic normalizedTopic
  let message : MessageRecord :=
    { messageId, topicId := normalizedTopic, destination, sender := (normalizeHash sender).getD sender,
      content, deliveryMode := mode, deliveryMethod := "direct",
      deliveryPolicyReason := "default_direct", deliveryState := "queued",
      deliveryMetadata := .object [], createdTsMs := ← utcNowMs, attachments := [] }
  update fun core => { core with messages := core.messages ++ [message] }
  return eventByParts "mission.message.sent" messageId none (.object [
    ("sent", toValue true),
    ("content", toValue content),
    ("topic_id", toValue normalizedTopic),
    ("destination", toValue destination),
    ("mode", toValue (deliveryModeText mode))])

/-- `apply_topic_command`. -/
def applyTopicCommand (command : MissionCommandEnvelope) : CoreM EventEnvelope := do
  match command.commandType with
  | "ListTopic" | "topic.list" =>
    let core ← core
    return event "mission.topic.listed" command
      (.object [("topics", .array (core.topicList.map core.topicValueWithCount))])
  | "CreateTopic" | "topic.create" =>
    let topicId ← createTopicFromArgs command.args
    return event "mission.topic.created" command
      (.object [("topic_id", toValue topicId), ("TopicID", toValue topicId)])
  | "topic.patch" =>
    let topic ← patchTopicFromArgs command.args
    return event "mission.topic.updated" command ((← core).topicValueWithCount topic)
  | "topic.delete" =>
    return event "mission.topic.deleted" command (topicValue (← deleteTopicFromArgs command.args) 0)
  | "SubscribeTopic" | "CreateSubscriber" | "AddSubscriber" | "topic.subscribe" =>
    let subscription ← subscriptionFromArgs command command.args
    subscribe subscription.topicId subscription.subscriberId subscription.rejectTests
      subscription.metadata
    return event "mission.topic.subscribed" command (.object [
      ("topic_id", toValue subscription.topicId),
      ("TopicID", toValue subscription.topicId),
      ("subscriber_id", toValue subscription.subscriberId),
      ("Destination", toValue subscription.subscriberId)])
  | "topic.subscriber.patch" =>
    return event "mission.topic.subscriber.updated" command
      (subscriberValue (← patchSubscriberFromArgs command.args))
  | "topic.subscriber.delete" =>
    return event "mission.topic.subscriber.deleted" command
      (subscriberValue (← deleteSubscriberFromArgs command.args))
  | "mission.message.send" | "PublishMessage" =>
    let content ← requiredText command.args ["content", "Content"]
    let topicId := optionalText command.args ["topic_id", "TopicID", "topic_path"]
    let destination := optionalText command.args ["destination", "Destination"]
    recordMessage command.commandId content topicId destination command.source.rnsIdentity
  | other => throw (.unsupportedCommand other)

end
end TelemetryHub
