import TelemetryHub.Core.Topics
import TelemetryHub.Core.Listing
import TelemetryHub.Lib.Composite

/-!
# Snapshots

What `snapshot` takes from a core and `from_snapshot` builds one of, in the tables that are
keyed by more than one field of a record, and in the topics, whose loading may fail too.
-/

namespace TelemetryHub

open Lib

/-- `RchCoreSnapshot`, in these tables. -/
structure RchCoreSnapshot where
  topics : List TopicRecord
  subscribers : List SubscriberRecord
  teamMemberSkills : List TeamMemberSkillRecord
  taskSkillRequirements : List TaskSkillRequirementRecord

/-- The member and the skill of a record. -/
def TeamMemberSkillRecord.pair (record : TeamMemberSkillRecord) : String × String :=
  (record.teamMemberRnsIdentity, record.skillUid)

/-- The task and the skill of a record. -/
def TaskSkillRequirementRecord.pair (record : TaskSkillRequirementRecord) : String × String :=
  (record.taskUid, record.skillUid)

/-- The node and the topic of a subscription. -/
def SubscriberRecord.pair (record : SubscriberRecord) : String × String := (record.nodeId, record.topicId)

/-- `format!("{}:{}", ..)`. -/
def joinedKey (pair : String × String) : String := pair.1 ++ ":" ++ pair.2

/-- `snapshot`. -/
def RchCore.snapshot (core : RchCore) : RchCoreSnapshot where
  topics := core.topicList
  subscribers := sortBy (fun left right => (compare left.topicId right.topicId).then (compare left.nodeId right.nodeId))
    core.subscribers.values
  teamMemberSkills := core.teamMemberSkillList
  taskSkillRequirements := core.taskSkillRequirementList

/-- A topic under the normal form of its id. -/
def normalTopic (topic : TopicRecord) : Except RchCoreError TopicRecord := do
  let topicId ← requireTopicId topic.topicId "topic invariant violation: topic_id is empty"
  return { topic with topicId }

/-- `normalize_subscriber_topic_id(..).ok_or(..)`. -/
def requireSubscriberTopicId (topicId problem : String) : Except RchCoreError String :=
  match normalizeSubscriberTopicId topicId with
  | some topicId => .ok topicId
  | none => invalidPayload problem

/-- A subscription under the normal forms of its node and its topic. -/
def normalSubscriber (subscriber : SubscriberRecord) : Except RchCoreError SubscriberRecord := do
  let nodeId ← requireNodeId subscriber.nodeId "subscriber invariant violation: destination is empty"
  let topicId ← requireSubscriberTopicId subscriber.topicId "subscriber invariant violation: topic_id is invalid"
  return { subscriber with nodeId, topicId }

/-- One round of `validate_subscriber_invariants`. -/
def validateSubscriber (normalizedPairs : HSet (String × String)) (entry : (String × String) × SubscriberRecord) :
    Except RchCoreError (HSet (String × String)) := do
  let ((nodeId, topicId), subscriber) := entry
  let normalizedNodeId ← requireNodeId nodeId "subscriber invariant violation: destination is empty"
  let normalizedTopicId ← requireSubscriberTopicId topicId "subscriber invariant violation: topic_id is invalid"
  if normalizedNodeId ≠ nodeId ∨ normalizedTopicId ≠ topicId ∨ subscriber.nodeId ≠ nodeId ∨ subscriber.topicId ≠ topicId then
    throw (.invalidPayload "subscriber invariant violation: key and record are not normalized or do not match")
  if normalizedPairs.contains (normalizedNodeId, normalizedTopicId) then
    throw (.invalidPayload "subscriber invariant violation: duplicate normalized destination/topic pair")
  return normalizedPairs.insert (normalizedNodeId, normalizedTopicId)

/-- `validate_subscriber_invariants`. -/
def validateSubscriberInvariants (core : RchCore) : Except RchCoreError Unit := do
  let _ ← core.subscribers.toPairs.foldlM validateSubscriber ∅
  return ()

/-- `from_snapshot`. -/
def RchCore.fromSnapshot (snapshot : RchCoreSnapshot) : Except RchCoreError RchCore := do
  let topics ← fileAll TopicRecord.topicId id normalTopic
    (fun topic => .invalidPayload ("topic invariant violation: duplicate normalized topic '" ++ topic.topicId ++ "'"))
    snapshot.topics
  let subscribers ← fileAll SubscriberRecord.pair id normalSubscriber
    (fun _ => .invalidPayload "subscriber invariant violation: duplicate normalized destination/topic pair")
    snapshot.subscribers
  let core := { RchCore.new with
    topics
    subscribers
    teamMemberSkills := refile TeamMemberSkillRecord.pair joinedKey snapshot.teamMemberSkills
    taskSkillRequirements := refile TaskSkillRequirementRecord.pair joinedKey snapshot.taskSkillRequirements }
  validateSubscriberInvariants core
  return core

end TelemetryHub
