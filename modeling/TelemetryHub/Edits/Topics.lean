import TelemetryHub.Core.Logic
import TelemetryHub.Core.Normal
import TelemetryHub.Core.Topics

/-!
# What the topic commands write

Topics and subscriptions are stored under normal forms. A deleted topic takes its
subscriptions with it and is taken from the attachments, but the missions that
use it are left as they are.
-/

namespace TelemetryHub

open Lib CoreM

/-- No mission uses the topic. -/
def TopicUnused (core : RchCore) (topicId : String) : Prop :=
  ∀ uid mission, core.missions.get uid = some mission → mission.topicId ≠ some topicId

/-- The topic the arguments delete is used by no mission. -/
def TopicDeletable [Host] (core : RchCore) (args : Value) : Prop :=
  ∀ text topicId, requiredText args ["topic_id", "TopicID", "id", "ID"] = .ok text →
    normalizeTopicId text = some topicId → TopicUnused core topicId

/-- The core without the topic, its subscriptions and its attachments' mention of it. -/
def RchCore.withoutTopic (core : RchCore) (topicId : String) (now : Int) : RchCore :=
  { core with
    topics := core.topics.remove topicId
    fileAttachments := core.fileAttachments.mapValues (detachTopic topicId now)
    subscribers := core.subscribers.retain fun key _ => key.2 != topicId }

/-- The subscription is stored under its node and its topic, both normalised. -/
structure SubscriptionKey (key : String × String) (record : SubscriberRecord) : Prop where
  node : record.nodeId = key.1
  topic : record.topicId = key.2
  nodeNormal : normalizeSubscriberNodeId key.1 = some key.1
  topicNormal : normalizeTopicId key.2 = some key.2

/-- One write of a topic command. -/
inductive TopicEdit (strict : Prop) (core : RchCore) : RchCore → Prop
  | create (topicId : String) (topic : TopicRecord) (key : topic.topicId = topicId)
      (normal : normalizeTopicId topicId = some topicId) :
      TopicEdit strict core { core with topics := core.topics.insert topicId topic }
  | patch (topicId : String) (old topic : TopicRecord) (stored : core.topics.get topicId = some old)
      (key : topic.topicId = old.topicId) :
      TopicEdit strict core { core with topics := core.topics.insert topicId topic }
  | delete (topicId : String) (now : Int) (unused : strict → TopicUnused core topicId) :
      TopicEdit strict core (core.withoutTopic topicId now)
  | subscribe (key : String × String) (record : SubscriberRecord)
      (keyed : SubscriptionKey key record) :
      TopicEdit strict core { core with subscribers := core.subscribers.insert key record }
  | resubscribe (key : String × String) (old record : SubscriberRecord)
      (stored : core.subscribers.get key = some old)
      (keyed : SubscriptionKey key old → SubscriptionKey key record) :
      TopicEdit strict core { core with subscribers := core.subscribers.insert key record }
  | patchSubscription (key updated : String × String) (old record : SubscriberRecord)
      (stored : core.subscribers.get key = some old)
      (keyed : SubscriptionKey key old → SubscriptionKey updated record) :
      TopicEdit strict core
        { core with subscribers := (core.subscribers.remove key).insert updated record }
  | unsubscribe (key : String × String) :
      TopicEdit strict core { core with subscribers := core.subscribers.remove key }
  | message (record : MessageRecord) :
      TopicEdit strict core { core with messages := core.messages ++ [record] }

theorem requireTopicId_eq_ok {value problem topicId : String} :
    requireTopicId value problem = .ok topicId ↔ normalizeTopicId value = some topicId := by
  unfold requireTopicId invalidPayload
  cases normalizeTopicId value with
  | none => exact ⟨nofun, nofun⟩
  | some text =>
    refine ⟨fun h => ?_, fun h => ?_⟩
    · rw [Except.ok.inj h]
    · rw [Option.some.inj h]

theorem requireNodeId_eq_ok {value problem nodeId : String} :
    requireNodeId value problem = .ok nodeId ↔ normalizeSubscriberNodeId value = some nodeId := by
  unfold requireNodeId invalidPayload
  cases normalizeSubscriberNodeId value with
  | none => exact ⟨nofun, nofun⟩
  | some text =>
    refine ⟨fun h => ?_, fun h => ?_⟩
    · rw [Except.ok.inj h]
    · rw [Option.some.inj h]

theorem normalizeTopicId_simple (u : Uuid) : normalizeTopicId u.simple = some u.simple := by
  unfold normalizeTopicId
  dsimp only
  rw [trim_simple, isEmpty_simple, if_neg Bool.false_ne_true, parseStr_simple]

section

variable [Host] {drawn : String → Prop} {strict clean : Prop} {core₀ : RchCore}

theorem createTopicFromArgs_spec (args : Value) :
    Spec drawn (createTopicFromArgs args) core₀ (Proc.Outcome clean (TopicEdit strict) core₀) := by
  unfold createTopicFromArgs
  refine Proc.Spec.required fun topicName _ => ?_
  refine Proc.Spec.required fun topicPath _ => ?_
  refine Spec.drawUnless fun topicId hid => ?_
  refine Spec.clock fun now => ?_
  refine Spec.write ?_
  refine Proc.Spec.done (.single (.create _ _ rfl ?_))
  rcases hid with hid | ⟨-, -, u, rfl⟩
  · obtain ⟨raw, -, hraw⟩ := Option.bind_eq_some_iff.1 hid
    exact normalizeTopicId_normal hraw
  · exact normalizeTopicId_simple u

theorem patchTopicFromArgs_spec (args : Value) :
    Spec drawn (patchTopicFromArgs args) core₀ (Proc.Outcome clean (TopicEdit strict) core₀) := by
  unfold patchTopicFromArgs
  refine Proc.Spec.checked fun text _ => ?_
  refine Proc.Spec.checked fun topicId _ => ?_
  refine Spec.read ?_
  refine Proc.Spec.required fun topic stored => ?_
  refine Spec.clock fun now => ?_
  refine Spec.write ?_
  exact Proc.Spec.done (.single (.patch _ topic _ stored rfl))

theorem deleteTopicFromArgs_spec (args : Value) (unused : strict → TopicDeletable core₀ args) :
    Spec drawn (deleteTopicFromArgs args) core₀ (Proc.Outcome clean (TopicEdit strict) core₀) := by
  unfold deleteTopicFromArgs
  refine Proc.Spec.checked fun text htext => ?_
  refine Proc.Spec.checked fun topicId hid => ?_
  refine Spec.read ?_
  refine Proc.Spec.required fun topic _ => ?_
  refine Spec.clock fun now => ?_
  refine Spec.write ?_
  refine Proc.Spec.done (.single (.delete _ _ fun hs => ?_))
  exact unused hs text topicId htext (requireTopicId_eq_ok.1 hid)

omit [Host] in
theorem subscribe_spec (topicId subscriberId : String) (rejectTests : Option Int) (metadata : Value)
    (normal : normalizeTopicId topicId = some topicId) :
    Spec drawn (subscribe topicId subscriberId rejectTests metadata) core₀
      (Proc.Outcome clean (TopicEdit strict) core₀) := by
  unfold subscribe
  refine Spec.read ?_
  refine Proc.Spec.guarded fun _ => ?_
  refine Proc.Spec.checked fun nodeId hnode => ?_
  refine Spec.clock fun now => ?_
  refine Spec.lastWrite (.ok (.single ?_) trivial)
  have hnormal := normalizeSubscriberNodeId_normal (requireNodeId_eq_ok.1 hnode)
  cases hget : core₀.subscribers.get (nodeId, topicId) with
  | none => exact .subscribe _ _ ⟨rfl, rfl, hnormal, normal⟩
  | some old =>
    refine .resubscribe _ old _ hget fun keyed => ?_
    exact ⟨keyed.node, keyed.topic, keyed.nodeNormal, keyed.topicNormal⟩

/-- The node and the topic of a patched subscription are normal again. -/
theorem subscriptionFromArgs_normal {core : RchCore} {args : Value} {record : SubscriberRecord}
    {key : String × String} (keyed : SubscriptionKey key record) {nodeId topicId : String}
    (hnode : subscriptionNodeFromArgs args record.nodeId = .ok nodeId)
    (htopic : subscriptionTopicFromArgs core args record.topicId = .ok topicId) :
    normalizeSubscriberNodeId nodeId = some nodeId ∧ normalizeTopicId topicId = some topicId := by
  constructor
  · unfold subscriptionNodeFromArgs at hnode
    split at hnode
    · exact normalizeSubscriberNodeId_normal (requireNodeId_eq_ok.1 hnode)
    · rw [← Except.ok.inj hnode, keyed.node]
      exact keyed.nodeNormal
  · unfold subscriptionTopicFromArgs at htopic
    split at htopic
    · rw [← Except.ok.inj htopic, keyed.topic]
      exact keyed.topicNormal
    · obtain ⟨normalized, hnormalized, hrest⟩ := bind_eq_ok.1 htopic
      split at hrest
      · cases hrest
      · rw [← Except.ok.inj hrest]
        exact normalizeTopicId_normal (requireTopicId_eq_ok.1 hnormalized)

theorem patchSubscriberFromArgs_spec (args : Value) :
    Spec drawn (patchSubscriberFromArgs args) core₀
      (Proc.Outcome clean (TopicEdit strict) core₀) := by
  unfold patchSubscriberFromArgs
  refine Proc.Spec.checked fun text _ => ?_
  refine Proc.Spec.checked fun subscriberId _ => ?_
  refine Spec.read ?_
  refine Proc.Spec.required fun key _ => ?_
  refine Spec.read ?_
  refine Proc.Spec.required fun subscriber stored => ?_
  refine Proc.Spec.checked fun nodeId hnode => ?_
  refine Spec.read ?_
  refine Proc.Spec.checked fun topicId htopic => ?_
  refine Proc.Spec.checked fun rejectTests _ => ?_
  refine Spec.clock fun now => ?_
  refine Spec.read ?_
  refine Proc.Spec.guarded fun _ => ?_
  refine Spec.write ?_
  refine Proc.Spec.done (.single (.patchSubscription _ _ subscriber _ stored fun keyed => ?_))
  obtain ⟨hnodeNormal, htopicNormal⟩ := subscriptionFromArgs_normal keyed hnode htopic
  exact ⟨rfl, rfl, hnodeNormal, htopicNormal⟩

theorem deleteSubscriberFromArgs_spec (args : Value) :
    Spec drawn (deleteSubscriberFromArgs args) core₀
      (Proc.Outcome clean (TopicEdit strict) core₀) := by
  unfold deleteSubscriberFromArgs
  refine Proc.Spec.checked fun text _ => ?_
  refine Proc.Spec.checked fun subscriberId _ => ?_
  refine Spec.read ?_
  refine Proc.Spec.required fun key _ => ?_
  refine Spec.read ?_
  refine Proc.Spec.required fun subscriber _ => ?_
  refine Spec.write ?_
  exact Proc.Spec.done (.single (.unsubscribe _))

omit [Host] in
theorem touchTopic_spec (topicId : Option String) :
    Spec drawn (touchTopic topicId) core₀ (Proc.Outcome clean (TopicEdit strict) core₀) := by
  unfold touchTopic
  split
  · refine Spec.read ?_
    refine Proc.Spec.required fun topic stored => ?_
    refine Spec.clock fun now => ?_
    exact Spec.lastWrite (.ok (.single (.patch _ topic _ stored rfl)) trivial)
  · exact .answer

omit [Host] in
theorem recordMessage_spec (messageId content : String) (topicId destination : Option String)
    (sender : String) :
    Spec drawn (recordMessage messageId content topicId destination sender) core₀
      (Proc.Outcome clean (TopicEdit strict) core₀) := by
  unfold recordMessage
  refine Proc.Spec.guarded fun _ => ?_
  refine .finish (touchTopic_spec _) fun _ core' _ => ?_
  refine Spec.clock fun now => ?_
  refine Spec.write ?_
  exact Proc.Spec.pure (.ok (.single (.message _)) trivial)

theorem subscriptionFromArgs_topic {command : MissionCommandEnvelope} {args : Value}
    {subscription : Subscription} (h : subscriptionFromArgs command args = .ok subscription) :
    normalizeTopicId subscription.topicId = some subscription.topicId := by
  obtain ⟨text, -, h⟩ := bind_eq_ok.1 h
  obtain ⟨topicId, htopic, h⟩ := bind_eq_ok.1 h
  rw [← Except.ok.inj h]
  exact normalizeTopicId_normal (requireTopicId_eq_ok.1 htopic)

theorem applyTopicCommand_spec (command : MissionCommandEnvelope)
    (unused : strict → command.commandType = "topic.delete" → TopicDeletable core₀ command.args) :
    Spec drawn (applyTopicCommand command) core₀ (Proc.Outcome clean (TopicEdit strict) core₀) := by
  unfold applyTopicCommand
  split
  · exact Spec.read .answer
  · exact Spec.read .answer
  · exact .finish (createTopicFromArgs_spec _) fun _ _ _ => .finished
  · exact .finish (createTopicFromArgs_spec _) fun _ _ _ => .finished
  · exact .finish (patchTopicFromArgs_spec _) fun _ _ _ => Spec.read .finished
  · rename_i htype
    exact .finish (deleteTopicFromArgs_spec _ fun hs => unused hs htype) fun _ _ _ => .finished
  · refine Proc.Spec.checked fun subscription h => ?_
    exact .finish (subscribe_spec _ _ _ _ (subscriptionFromArgs_topic h)) fun _ _ _ => .finished
  · refine Proc.Spec.checked fun subscription h => ?_
    exact .finish (subscribe_spec _ _ _ _ (subscriptionFromArgs_topic h)) fun _ _ _ => .finished
  · refine Proc.Spec.checked fun subscription h => ?_
    exact .finish (subscribe_spec _ _ _ _ (subscriptionFromArgs_topic h)) fun _ _ _ => .finished
  · refine Proc.Spec.checked fun subscription h => ?_
    exact .finish (subscribe_spec _ _ _ _ (subscriptionFromArgs_topic h)) fun _ _ _ => .finished
  · exact .finish (patchSubscriberFromArgs_spec _) fun _ _ _ => .finished
  · exact .finish (deleteSubscriberFromArgs_spec _) fun _ _ _ => .finished
  · exact Proc.Spec.checked fun content _ => recordMessage_spec _ _ _ _ _
  · exact Proc.Spec.checked fun content _ => recordMessage_spec _ _ _ _ _
  · exact .failed

end
end TelemetryHub
