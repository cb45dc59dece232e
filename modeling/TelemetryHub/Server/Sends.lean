import TelemetryHub.Server.Callbacks
import TelemetryHub.Server.Decisions

/-!
# Sending

A message is admitted before anything is sent: it is refused for a destination that
cannot be reached now, or it joins the queue, is written to its row and is left to the
worker.
-/

namespace TelemetryHub

open Lib ServerM

/-- `short_identity`. -/
def shortIdentity (identity : String) : String := String.ofList ((trimChars identity.toList).take 8)

/-- `record_system_event_best_effort`. -/
def recordSystemEventBestEffort (eventType message : String) (metadata : Value) : ServerM Unit := do
  let _ ← Proc.attempt (recordSystemEvent eventType message metadata)
  return ()

/-- The id of a new message. -/
def newMessageId (compactId : Bool) : ServerM String := fun w =>
  (.ok (if compactId then (w.draws 0).simple else (w.draws 0).hyphenated),
    { w with draws := fun n => w.draws (n + 1) })

section

variable [ServerHost]

/-- How the message is to be delivered, unless its destination cannot be reached now. -/
def admittedDecision (topicId destination : Option String) (deliveryMetadata : Value) :
    ServerM (DeliveryMode × DeliveryDecision) := do
  let deliveryMode ← ((ServerHost.classifyDeliveryMode topicId destination).mapError .badRequest :
    Except ApiError DeliveryMode)
  let decision ← outboundDeliveryDecisionForTargets deliveryMode topicId destination
    (outboundTargetDestinationsFromMetadata deliveryMetadata)
  let isRemCommand := ((deliveryMetadata.get "fanout_channel").bind Value.asStr).any isRemCommandChannel
  if deliveryMode = .targeted ∧ !isRemCommand ∧ decision = ⟨"propagated", "no_fresh_presence"⟩ then
    if ← destination.elim (pure false) outboundTargetedDestinationShouldRejectStale then
      throw (.badRequest ("destination " ++ shortIdentity (destination.getD "unknown") ++
        " is not currently reachable; wait for a fresh announce or recent chat before sending"))
  if isRemCommand && decision.method != "propagated" then
    if ← destination.elim (pure false) remCommandDestinationShouldPropagate then
      return (deliveryMode, ⟨"propagated", "no_fresh_presence"⟩)
    else return (deliveryMode, ⟨"auto", "rem_auto"⟩)
  return (deliveryMode, decision)

end

/-- The message as it is admitted: queued, and due. -/
def admittedMessage (messageId content : String) (topicId destination : Option String)
    (attachments : List ChatAttachmentRecord) (deliveryMetadata : Value) (deliveryMode : DeliveryMode)
    (decision : DeliveryDecision) (createdTsMs : Int) : OutboundMessageRecord where
  messageId
  topicId
  destination
  sender := "northbound"
  content
  deliveryMode
  deliveryMethod := decision.method
  deliveryPolicyReason := decision.reason
  deliveryState := "queued"
  deliveryMetadata :=
    mergeDeliveryMetadata deliveryMetadata (.object [
      ("dispatch_status", toValue "queued_deferred"),
      ("reticulumd_dispatch_count", toValue 0),
      ("receipt_pending", toValue false),
      ("retry_scheduled", toValue true),
      ("next_attempt_at_ts_ms",
        toValue (((deliveryMetadata.get "next_attempt_at_ts_ms").bind Value.asI64).getD createdTsMs)),
      ("deferred_dispatch", toValue true)])
  createdTsMs
  attachments

/-- A message joins the queue. -/
def pushMessage (message : OutboundMessageRecord) : ServerM Unit :=
  update fun s => { s with messages := s.messages ++ [message] }

/-- The message is in the queue: its row is written and its admission recorded. -/
def storeAdmitted (message : OutboundMessageRecord) : ServerM OutboundMessageRecord := do
  pushMessage message
  persistOutboundMessageRow message
  recordSystemEventBestEffort "message_sent" "Message admitted for deferred Rust northbound delivery" (.object [
    ("message_id", toValue message.messageId),
    ("topic_id", toValue message.topicId),
    ("destination", toValue message.destination),
    ("delivery_method", toValue message.deliveryMethod),
    ("delivery_policy_reason", toValue message.deliveryPolicyReason),
    ("reticulumd_dispatch_count", toValue 0),
    ("dispatch_status", toValue "queued_deferred")])
  return message

/-- `record_outbound_message_with_metadata`: outside of tests the mode is `Deferred`. -/
def recordOutboundMessageWithMetadata [ServerHost] (content : String) (topicId destination : Option String)
    (attachments : List ChatAttachmentRecord) (compactId : Bool) (deliveryMetadata : Value) :
    ServerM OutboundMessageRecord := do
  let (deliveryMode, decision) ← admittedDecision topicId destination deliveryMetadata
  let messageId ← newMessageId compactId
  let createdTsMs ← unixNowMs
  storeAdmitted (admittedMessage messageId content topicId destination attachments deliveryMetadata deliveryMode
    decision createdTsMs)

end TelemetryHub
