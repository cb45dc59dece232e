import TelemetryHub.Server.Delivery

/-!
# Delivery callbacks

The six internal endpoints by which the transport reports on a message. Each finds
its message by id or by destination and writes the new state over whatever it
finds, so what a callback may do to a delivered message or to an inbound record is
a matter of which message it finds.
-/

namespace TelemetryHub

open Lib ServerM

variable [ServerHost]

/-! ## The events -/

/-- The entries all delivery events begin with. -/
def deliveryEventHead (message : OutboundMessageRecord) : List (String × Value) :=
  [("MessageID", toValue message.messageId), ("TopicID", toValue message.topicId),
    ("Destination", toValue message.destination), ("State", toValue message.deliveryState)]

/-- The entries all delivery events but one end with. -/
def deliveryEventTail (message : OutboundMessageRecord) : List (String × Value) :=
  [("delivery_method", toValue message.deliveryMethod),
    ("delivery_policy_reason", toValue message.deliveryPolicyReason),
    ("route_type", toValue (deliveryRouteType message.deliveryMode))]

/-- `outbound_delivery_failure_metadata`. -/
def outboundDeliveryFailureMetadata (message : OutboundMessageRecord) (reason : String) : Value :=
  .object (deliveryEventHead message ++
    [("DeliveryMetadata", message.deliveryMetadata), ("failure_reason", toValue reason)] ++
    deliveryEventTail message)

/-- `outbound_delivery_retry_metadata`. -/
def outboundDeliveryRetryMetadata (message : OutboundMessageRecord) (reason : String) : Value :=
  .object (deliveryEventHead message ++
    [("DeliveryMetadata", message.deliveryMetadata), ("retry_reason", toValue reason)] ++
    deliveryEventTail message)

/-- `outbound_delivery_receipt_metadata`. -/
def outboundDeliveryReceiptMetadata (message : OutboundMessageRecord) (acknowledgementType : String) : Value :=
  .object (deliveryEventHead message ++
    [("DeliveryMetadata", message.deliveryMetadata), ("acknowledgement_type", toValue acknowledgementType)] ++
    deliveryEventTail message)

/-- `outbound_delivery_drop_metadata`. -/
def outboundDeliveryDropMetadata (message : OutboundMessageRecord) (reason : String) : Value :=
  .object (deliveryEventHead message ++
    [("Content", toValue message.content), ("DeliveryMetadata", message.deliveryMetadata),
      ("drop_reason", toValue reason)] ++
    deliveryEventTail message)

/-- `outbound_delivery_propagation_metadata`. -/
def outboundDeliveryPropagationMetadata (message : OutboundMessageRecord) (reason : String) : Value :=
  .object (deliveryEventHead message ++
    [("DeliveryMetadata", message.deliveryMetadata), ("fallback_reason", toValue reason),
      ("delivery_method", toValue (if (metadataBool message "local_propagation_fallback").getD false then
        "local_propagation_store" else "propagated")),
      ("route_type", toValue (deliveryRouteType message.deliveryMode)),
      ("propagation_node", (message.deliveryMetadata.get "propagation_node_hex").getD .null)])

/-- `outbound_delivery_callback_metadata`. -/
def outboundDeliveryCallbackMetadata (metadata : Value) (callbackType : String) : Value :=
  mergeDeliveryMetadata metadata (.object [
    ("callback_source", toValue "reticulumd_internal_adapter"),
    ("callback_type", toValue callbackType)])

/-! ## The requests -/

/-- The payloads of the six endpoints. -/
inductive DeliveryCallback where
  | receipt (messageId destination acknowledgementType : Option String)
  | failure (messageId destination reason : Option String)
  | retry (messageId destination reason : Option String) (attempts : Option Nat)
      (nextAttemptAtTsMs : Option Int)
  | propagation (messageId destination reason : Option String) (localPropagationFallback : Option Bool)
      (propagationNodeHex : Option String) (attempts : Option Nat)
  | drop (messageId destination reason : Option String)
  | attempt (messageId destination : Option String) (attempts : Option Nat)
      (attemptStartedAtTsMs : Option Int)

namespace DeliveryCallback

/-- `payload.message_id`. -/
def messageId : DeliveryCallback → Option String
  | receipt messageId .. | failure messageId .. | retry messageId .. | propagation messageId ..
  | drop messageId .. | attempt messageId .. => messageId

/-- `payload.destination`. -/
def destination : DeliveryCallback → Option String
  | receipt _ destination .. | failure _ destination .. | retry _ destination .. | propagation _ destination ..
  | drop _ destination .. | attempt _ destination .. => destination

end DeliveryCallback

/-- `payload.reason`, trimmed, or what stands for it. -/
def reasonOr (reason : Option String) (default : String) : String :=
  ((reason.map trim).filter fun value => !value.isEmpty).getD default

/-- What a handler answers with. -/
structure CallbackResponse where
  status : String
  message : OutboundMessageRecord
  event : Option SystemEventRecord

/-- The message is the one named, or goes to the destination named and is `pending`. -/
def callbackMatches (messageId destination : Option String) (pending : OutboundMessageRecord → Bool)
    (message : OutboundMessageRecord) : Bool :=
  messageId.any (message.messageId == ·) ||
    destination.any fun destination => message.destination == some destination && pending message

/-- The first matching message is rewritten and stored. -/
def rewriteMatching (matching : OutboundMessageRecord → Bool) (notFound : String)
    (f : OutboundMessageRecord → OutboundMessageRecord) : ServerM OutboundMessageRecord := do
  let found ← Proc.orThrow ((← state).messages.find? matching) (.notFound notFound)
  update fun s => { s with messages := replaceFirst matching f s.messages }
  persistOutboundMessageRow (f found)
  return f found

/-- `message.destination.as_deref().unwrap_or("unknown")`. -/
def destinationText (message : OutboundMessageRecord) : String := message.destination.getD "unknown"

/-! ## The handlers -/

/-- The write of `internal_delivery_receipt`. -/
def acknowledge (acknowledgementType : String) (nowMs : Int) (message : OutboundMessageRecord) :
    OutboundMessageRecord :=
  { message with
    deliveryState := if acknowledgementType = "propagation_acceptance" then "propagated" else "delivered"
    deliveryMetadata := mergeDeliveryMetadata message.deliveryMetadata (.object [
      ("acked", toValue true),
      ("receipt_pending", toValue false),
      ("receipt_ack_ts_ms", toValue nowMs),
      ("acknowledgement_type", toValue acknowledgementType),
      ("receipt_timeout", toValue false)]) }

/-- `internal_delivery_receipt`. -/
def internalDeliveryReceipt (messageId destination acknowledgementType : Option String) :
    ServerM CallbackResponse := do
  let acknowledgementType := reasonOr acknowledgementType "delivery_receipt"
  let nowMs ← unixNowMs
  let message ← rewriteMatching (callbackMatches messageId destination deliveryReceiptPending)
    "Pending delivery receipt not found" (acknowledge acknowledgementType nowMs)
  let propagated := acknowledgementType = "propagation_acceptance"
  let event ← recordSystemEvent (if propagated then "message_propagated" else "message_delivered")
    ((if propagated then "Message accepted for propagation to " else "Message delivered to ") ++
      destinationText message)
    (outboundDeliveryCallbackMetadata (outboundDeliveryReceiptMetadata message acknowledgementType)
      "delivery_receipt")
  return ⟨if propagated then "propagated" else "delivered", message, some event⟩

/-- The last write of `internal_delivery_failure`. -/
def failDelivery (reason : String) (nowMs : Int) (message : OutboundMessageRecord) : OutboundMessageRecord :=
  { message with
    deliveryState := "failed"
    deliveryMetadata := mergeDeliveryMetadata message.deliveryMetadata (.object [
      ("acked", toValue false),
      ("dispatch_status", toValue "failed"),
      ("error", toValue reason),
      ("receipt_pending", toValue false),
      ("delivery_failed_ts_ms", toValue nowMs)]) }

/-- The retry a failed delivery is given, if it is given one. -/
def retryFailedDelivery (message : OutboundMessageRecord) (reason : String) :
    ServerM (Option OutboundMessageRecord) :=
  if deliveryFailureCallbackShouldRetry message then scheduleOutboundRetryAfterFailure message reason
  else pure none

/-- `internal_delivery_failure`. -/
def internalDeliveryFailure (messageId destination reason : Option String) : ServerM CallbackResponse := do
  let reason := reasonOr reason "delivery_failed"
  let nowMs ← unixNowMs
  let message ← Proc.orThrow
    ((← state).messages.find? (callbackMatches messageId destination deliveryReceiptPending))
    (.notFound "Pending delivery receipt not found")
  match ← retryFailedDelivery message reason with
  | some retryMessage =>
    let event ← recordSystemEvent "message_delivery_retrying"
      ("Retrying message delivery to " ++ destinationText retryMessage)
      (outboundDeliveryCallbackMetadata (outboundDeliveryRetryMetadata retryMessage reason) "delivery_failure")
    return ⟨"retry_scheduled", retryMessage, some event⟩
  | none =>
    let failed ← rewriteMatching (·.messageId == message.messageId) "Pending delivery receipt not found"
      (failDelivery reason nowMs)
    let event ← recordSystemEvent "message_delivery_failed"
      ("Message delivery failed for " ++ destinationText failed)
      (outboundDeliveryCallbackMetadata (outboundDeliveryFailureMetadata failed reason) "delivery_failure")
    return ⟨"failed", failed, some event⟩

/-- The write of `internal_delivery_retry`. -/
def requeueForRetry (reason : String) (attempts : Option Nat) (nextAttemptAtTsMs : Option Int) (nowMs : Int)
    (message : OutboundMessageRecord) : OutboundMessageRecord :=
  { message with
    deliveryState := "queued"
    deliveryMetadata :=
      mergeDeliveryMetadata (clearRetrySupersededDeliveryMetadata message.deliveryMetadata) (.object [
        ("acked", toValue false),
        ("attempts", toValue (attempts.getD (saturatingAddU64 (outboundAttempts message) 1))),
        ("dispatch_status", toValue "queued"),
        ("retry_scheduled", toValue true),
        ("retry_reason", toValue reason),
        ("last_attempt_failed_at_ts_ms", toValue nowMs),
        ("receipt_pending", toValue false),
        ("receipt_timeout", toValue false),
        ("next_attempt_at_ts_ms", toValue nextAttemptAtTsMs)]) }

/-- `internal_delivery_retry`. -/
def internalDeliveryRetry (messageId destination reason : Option String) (attempts : Option Nat)
    (nextAttemptAtTsMs : Option Int) : ServerM CallbackResponse := do
  let reason := reasonOr reason "delivery_retry"
  let nowMs ← unixNowMs
  let message ← rewriteMatching (callbackMatches messageId destination deliveryReceiptPending)
    "Pending delivery retry not found" (requeueForRetry reason attempts nextAttemptAtTsMs nowMs)
  let event ← recordSystemEvent "message_delivery_retrying"
    ("Retrying message delivery to " ++ destinationText message)
    (outboundDeliveryCallbackMetadata (outboundDeliveryRetryMetadata message reason) "delivery_retry")
  return ⟨"retry_scheduled", message, some event⟩

/-- The write of `internal_delivery_propagation`. -/
def requeueForPropagation (reason : String) (localPropagationFallback : Bool)
    (propagationNodeHex : Option String) (attempts : Option Nat) (message : OutboundMessageRecord) :
    OutboundMessageRecord :=
  { message with
    deliveryState := "queued"
    deliveryMethod := "propagated"
    deliveryMetadata := mergeDeliveryMetadata message.deliveryMetadata (.object [
      ("acked", toValue false),
      ("attempts", toValue (attempts.getD (outboundAttempts message))),
      ("delivery_mode", toValue "propagated"),
      ("dispatch_status", toValue "queued"),
      ("fallback_reason", toValue reason),
      ("local_propagation_fallback", toValue localPropagationFallback),
      ("propagation_node_hex", toValue propagationNodeHex),
      ("receipt_pending", toValue false),
      ("retry_scheduled", toValue false)]) }

/-- `internal_delivery_propagation`. -/
def internalDeliveryPropagation (messageId destination reason : Option String)
    (localPropagationFallback : Option Bool) (propagationNodeHex : Option String) (attempts : Option Nat) :
    ServerM CallbackResponse := do
  let reason := reasonOr reason "direct_delivery_failed"
  let localFallback := localPropagationFallback.getD false
  let message ← rewriteMatching (callbackMatches messageId destination fun _ => true)
    "Pending propagation fallback not found"
    (requeueForPropagation reason localFallback propagationNodeHex attempts)
  let node := ((metadataStr message "propagation_node_hex").filter fun value => !value.isEmpty).getD "unknown"
  let event ← recordSystemEvent "message_propagation_queued"
    (if localFallback then
      "Direct delivery exhausted; stored message for local propagation to " ++ destinationText message
    else "Direct delivery exhausted; queued message for propagation to " ++ destinationText message ++
      " via " ++ node)
    (outboundDeliveryCallbackMetadata (outboundDeliveryPropagationMetadata message reason)
      "propagation_fallback")
  return ⟨"propagation_queued", message, some event⟩

/-- The write of `internal_delivery_drop`. -/
def dropDelivery (reason : String) (message : OutboundMessageRecord) : OutboundMessageRecord :=
  { message with
    deliveryState := "failed"
    deliveryMetadata := mergeDeliveryMetadata message.deliveryMetadata (.object [
      ("acked", toValue false),
      ("dispatch_status", toValue "failed"),
      ("drop_reason", toValue reason),
      ("receipt_pending", toValue false),
      ("retry_scheduled", toValue false)]) }

/-- `internal_delivery_drop`. -/
def internalDeliveryDrop (messageId destination reason : Option String) : ServerM CallbackResponse := do
  let reason := reasonOr reason "queue_saturated"
  let message ← rewriteMatching (callbackMatches messageId destination fun _ => true)
    "Pending delivery drop not found" (dropDelivery reason)
  let event ← recordSystemEvent "message_delivery_failed" "Outbound payload dropped before delivery"
    (outboundDeliveryCallbackMetadata (outboundDeliveryDropMetadata message reason) "payload_drop")
  return ⟨"dropped", message, some event⟩

/-- The write of `internal_delivery_attempt`. -/
def startReportedAttempt (attempts : Option Nat) (nowMs : Int) (message : OutboundMessageRecord) :
    OutboundMessageRecord :=
  { message with
    deliveryState := "queued"
    deliveryMetadata :=
      mergeDeliveryMetadata (clearRetrySupersededDeliveryMetadata message.deliveryMetadata) (.object [
        ("attempts", toValue (attempts.getD (outboundAttempts message))),
        ("callback_source", toValue "reticulumd_internal_adapter"),
        ("callback_type", toValue "delivery_attempt"),
        ("last_attempt_at", toValue (millisToRfc3339 nowMs)),
        ("last_attempt_at_ts_ms", toValue nowMs),
        ("retry_scheduled", toValue false)]) }

/-- `value.unwrap_or_else(unix_now_ms)`. -/
def orNowMs (value : Option Int) : ServerM Int :=
  match value with
  | some tsMs => pure tsMs
  | none => unixNowMs

/-- `internal_delivery_attempt`. -/
def internalDeliveryAttempt (messageId destination : Option String) (attempts : Option Nat)
    (attemptStartedAtTsMs : Option Int) : ServerM CallbackResponse := do
  let nowMs ← orNowMs attemptStartedAtTsMs
  let message ← rewriteMatching (callbackMatches messageId destination fun _ => true)
    "Pending delivery attempt not found" (startReportedAttempt attempts nowMs)
  return ⟨"attempt_started", message, none⟩

/-- The endpoint behind a callback. -/
def DeliveryCallback.handle : DeliveryCallback → ServerM CallbackResponse
  | receipt messageId destination acknowledgementType =>
    internalDeliveryReceipt messageId destination acknowledgementType
  | failure messageId destination reason => internalDeliveryFailure messageId destination reason
  | retry messageId destination reason attempts nextAttemptAtTsMs =>
    internalDeliveryRetry messageId destination reason attempts nextAttemptAtTsMs
  | propagation messageId destination reason localFallback node attempts =>
    internalDeliveryPropagation messageId destination reason localFallback node attempts
  | drop messageId destination reason => internalDeliveryDrop messageId destination reason
  | attempt messageId destination attempts startedAtTsMs =>
    internalDeliveryAttempt messageId destination attempts startedAtTsMs

end TelemetryHub
