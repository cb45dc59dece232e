import TelemetryHub.Server.Callbacks
import TelemetryHub.Server.Dispatch

/-!
# The outbound worker

The worker looks for the messages that are due and dispatches each. What comes back
decides whether the message is settled, tried again or failed, and the message's
metadata keeps the books: the copies accepted so far, their number and the
recipients rejected.
-/

namespace TelemetryHub

open Lib ServerM

/-! ## Receipt targets -/

/-- An entry of the stored targets, as `reticulumd_receipt_targets_for_message` reads it. -/
def ReceiptTarget.ofValue (value : Value) : Option ReceiptTarget :=
  ((value.get "message_id").bind Value.asStr).bind fun messageId =>
    if (trim messageId).isEmpty then none
    else some {
      messageId := trim messageId
      destination := trim (((value.get "destination").bind Value.asStr).getD "")
      status := (((value.get "status").bind Value.asStr).map trim).filter fun status => !status.isEmpty
      lastPollTsMs := (value.get "receipt_last_poll_ts_ms").bind Value.asI64 }

/-- The stored targets, where they are an array. -/
def storedTargetValues (message : OutboundMessageRecord) : Option (List Value) :=
  (message.deliveryMetadata.get "reticulumd_receipt_targets").bind Value.asArray

/-- `reticulumd_receipt_targets_for_message`: the message itself stands for no targets. -/
def reticulumdReceiptTargetsForMessage (message : OutboundMessageRecord) : List ReceiptTarget :=
  match ((storedTargetValues message).getD []).filterMap ReceiptTarget.ofValue with
  | [] => [{ messageId := message.messageId, destination := message.destination.getD "" }]
  | targets => targets

/-- `stored_reticulumd_receipt_targets`. -/
def storedReticulumdReceiptTargets (message : OutboundMessageRecord) : List ReceiptTarget :=
  if (storedTargetValues message).isNone then [] else reticulumdReceiptTargetsForMessage message

/-- A target as it is stored. -/
def ReceiptTarget.value (target : ReceiptTarget) : Value :=
  .object ([("message_id", toValue target.messageId), ("destination", toValue target.destination),
    ("status", toValue (target.status.getD "pending"))] ++
    ((target.sdkSnapshot.map sdkDeliverySnapshotMetadata).getD [] ++
    (target.lastPollTsMs.map fun tsMs => ("receipt_last_poll_ts_ms", toValue tsMs)).toList))

/-- `reticulumd_receipt_targets_json`. -/
def reticulumdReceiptTargetsJson (targets : List ReceiptTarget) : Value :=
  .array (targets.map ReceiptTarget.value)

/-- The two are one copy of a message. -/
def ReceiptTarget.sameAs (left right : ReceiptTarget) : Bool :=
  left.messageId == right.messageId && left.destination == right.destination

/-- The stored targets with the new ones behind them, each once. -/
def addReceiptTargets (stored accepted : List ReceiptTarget) : List ReceiptTarget :=
  accepted.foldl (fun targets target =>
    if targets.any (·.sameAs target) then targets else targets ++ [target]) stored

/-- `delivery_metadata.get("reticulumd_dispatch_count")`. -/
def reticulumdDispatchCount (message : OutboundMessageRecord) : Nat :=
  (metadataU64 message "reticulumd_dispatch_count").getD 0

/-! ## What a dispatch leads to -/

def outboundDeliveryReceiptTimeoutMs : Int := 30000

/-- `outbound_receipt_timeout_ms`. -/
def outboundReceiptTimeoutMs (message : OutboundMessageRecord) : Int :=
  max (((metadataI64 message "delivery_receipt_timeout_ms").filter (0 < ·)).getD outboundDeliveryReceiptTimeoutMs) 1000

/-- `delivery_success_state`. -/
def deliverySuccessState (message : OutboundMessageRecord) : String :=
  if message.deliveryMethod = "propagated" then "propagated" else "sent"

/-- `delivery_accepted_state`. -/
def deliveryAcceptedState (message : OutboundMessageRecord) (dispatchCount : Nat) : String :=
  if 0 < dispatchCount ∧ message.deliveryMethod = "propagated" then "propagating" else deliverySuccessState message

/-- `reticulumd_receipt_pending_after_dispatch`. -/
def reticulumdReceiptPendingAfterDispatch (message : OutboundMessageRecord) (dispatchCount : Nat)
    (deliveryState : String) : Bool :=
  if metadataBool message "delivery_receipt_required" = some false then false
  else 0 < dispatchCount && (deliveryState == "sent" ||
    (["propagated", "propagating"].contains deliveryState && message.deliveryMode == .targeted &&
      message.deliveryMethod == "propagated"))

/-- `outbound_delivery_metadata`, at a reading of the clock. -/
def outboundDeliveryMetadata (message : OutboundMessageRecord) (dispatchCount : Nat) (acked : Bool) (nowMs : Int)
    (update : Value) : Value :=
  let routeType := deliveryRouteType message.deliveryMode
  mergeDeliveryMetadata (.object [
    ("message_id", toValue message.messageId),
    ("route_type", toValue routeType),
    ("topic_id", toValue message.topicId),
    ("attempts", toValue (outboundAttempts message)),
    ("delivery_mode", toValue message.deliveryMethod),
    ("delivery_policy_reason", toValue message.deliveryPolicyReason),
    ("enqueue_age_ms", toValue (max (i64 (nowMs - message.createdTsMs)) 0)),
    ("propagation_node_hex", .null),
    ("local_propagation_fallback", toValue false),
    ("destination", toValue message.destination),
    ("fanout_count", toValue (if routeType = "fanout" then dispatchCount else 0)),
    ("targeted_recipient_count", toValue (if routeType = "targeted" then 1 else 0 : Nat)),
    ("acked", toValue acked),
    ("receipt_pending", toValue false)]) update

/-- `shared_fanout_delivery_metadata`. -/
def sharedFanoutDeliveryMetadata (message : OutboundMessageRecord) (dispatchCount : Nat) : Value :=
  if dispatchCount ≤ 1 ∨ message.deliveryMode = .targeted then .object []
  else .object [
    ("fanout_payload_model", toValue "shared_common_payload_v1"),
    ("shared_payload_recipient_count", toValue dispatchCount),
    ("shared_payload_expanded_at", toValue "lxmf_legacy_batch_boundary")]

/-- The write of `schedule_zmq_pre_admission_retry`. -/
def retryRejected (message : OutboundMessageRecord) (report : DispatchReport) (attempts : Nat)
    (nextAttemptAtTsMs : Int) (stored : OutboundMessageRecord) : OutboundMessageRecord :=
  let receiptTargets := addReceiptTargets (storedReticulumdReceiptTargets message) report.receipts
  let acceptedCount := saturatingAddU64 (reticulumdDispatchCount message) report.count
  { stored with
    deliveryState := "queued"
    deliveryMetadata := mergeDeliveryMetadata stored.deliveryMetadata (.object [
      ("acked", toValue false),
      ("attempts", toValue attempts),
      ("dispatch_status", toValue (if 0 < acceptedCount then "partially_accepted_retrying" else "queued")),
      ("error", toValue "zmq_pre_admission_rejected"),
      ("next_attempt_at_ts_ms", toValue nextAttemptAtTsMs),
      ("receipt_pending", toValue false),
      ("reticulumd_dispatch_count", toValue acceptedCount),
      ("reticulumd_receipt_targets", reticulumdReceiptTargetsJson receiptTargets),
      ("retry_reason", toValue "zmq_pre_admission_rejected"),
      ("retry_scheduled", toValue true),
      ("target_destinations", toValue report.retryableRejectedDestinations),
      ("zmq_partial_acceptance", toValue (decide (0 < acceptedCount))),
      ("zmq_rejected_count", toValue report.rejected.length),
      ("zmq_rejections", toValue report.rejected)]) }

/-- The metadata a settled dispatch is recorded with. -/
def settledMetadata (message : OutboundMessageRecord) (report : DispatchReport) (registeredTsMs nowMs : Int) :
    Value :=
  let receiptTargets := addReceiptTargets (storedReticulumdReceiptTargets message) report.receipts
  let totalDispatchCount := saturatingAddU64 (reticulumdDispatchCount message) report.count
  let deliveryState := if report.deferred then "queued" else deliveryAcceptedState message totalDispatchCount
  let receiptPending := reticulumdReceiptPendingAfterDispatch message totalDispatchCount deliveryState
  outboundDeliveryMetadata message totalDispatchCount (deliveryState == "propagated" || deliveryState == "delivered")
    nowMs
    (mergeDeliveryMetadata (.object [
      ("dispatch_status", toValue (if report.deferred then "queued_deferred"
        else if report.rejected.isEmpty then "accepted" else "partially_accepted")),
      ("reticulumd_dispatch_count", toValue totalDispatchCount),
      ("reticulumd_receipt_targets", reticulumdReceiptTargetsJson receiptTargets),
      ("zmq_partial_acceptance", toValue (decide (0 < report.count) && !report.rejected.isEmpty)),
      ("zmq_rejected_count", toValue report.rejected.length),
      ("zmq_rejections", toValue report.rejected),
      ("target_destinations", .null),
      ("receipt_pending", toValue receiptPending),
      ("receipt_registered_ts_ms", if receiptPending then toValue registeredTsMs else .null),
      ("receipt_deadline_ts_ms",
        if receiptPending then toValue (i64 (registeredTsMs + outboundReceiptTimeoutMs message)) else .null),
      ("retry_scheduled", toValue false)])
      (sharedFanoutDeliveryMetadata message totalDispatchCount))

/-- The state a settled dispatch leaves the message in. -/
def settledState (message : OutboundMessageRecord) (report : DispatchReport) : String :=
  if report.deferred then "queued"
  else deliveryAcceptedState message (saturatingAddU64 (reticulumdDispatchCount message) report.count)

/-- The metadata a failed dispatch is recorded with. -/
def failedMetadata (message : OutboundMessageRecord) (errorText : String) (nowMs : Int) : Value :=
  outboundDeliveryMetadata message 0 false nowMs (.object [
    ("dispatch_status", toValue "failed"),
    ("error", toValue errorText),
    ("receipt_pending", toValue false),
    ("retry_scheduled", toValue false)])

/-- `schedule_zmq_pre_admission_retry`. -/
def scheduleZmqPreAdmissionRetry (message : OutboundMessageRecord) (report : DispatchReport) :
    ServerM (Option OutboundMessageRecord) := do
  let attempts := saturatingAddU64 (outboundAttempts message) 1
  let maxAttempts := outboundEffectiveMaxAttemptsForRetry message false
  if outboundRetryAttemptAllowed message attempts maxAttempts then
    let nowMs ← unixNowMs
    let nextAttemptAtTsMs :=
      saturateI64 (nowMs + saturateI64 (outboundBackoffMs message * min (attempts : Int) (2 ^ 63 - 1)))
    persisted (← withMessage message.messageId (retryRejected message report attempts nextAttemptAtTsMs))
  else return none

variable [ServerHost]

/-- `mark_outbound_dispatch_failed`. -/
def markOutboundDispatchFailed (message : OutboundMessageRecord) (errorText : String) :
    ServerM OutboundMessageRecord := do
  let nowMs ← unixNowMs
  let failureMetadata := failedMetadata message errorText nowMs
  updateOutboundDeliveryState message.messageId "failed" failureMetadata
  return { message with
    deliveryState := "failed"
    deliveryMetadata := mergeDeliveryMetadata message.deliveryMetadata failureMetadata }

/-- `record_outbound_retry_success_event`. -/
def recordOutboundRetrySuccessEvent (message : OutboundMessageRecord) : ServerM Unit := do
  let propagated := message.deliveryMethod = "propagated"
  let _ ← recordSystemEvent (if propagated then "message_propagated" else "message_sent")
    ((if propagated then "Message accepted for propagation to " else "Message sent to ") ++ destinationText message)
    (outboundDeliveryCallbackMetadata
      (outboundDeliveryReceiptMetadata message (if propagated then "propagation_acceptance" else "dispatch_acceptance"))
      "retry_worker_success")

/-! ## A pass of the worker -/

/-- `OutboundRetryWorkerReport`. -/
structure OutboundRetryWorkerReport where
  processed : Nat := 0
  dispatched : Nat := 0
  failed : Nat := 0

/-- `direct_timeout_propagation_event_message`. -/
def directTimeoutPropagationEventMessage (message : OutboundMessageRecord) : String :=
  match message.deliveryMode with
  | .broadcast => "Direct broadcast timed out; queued message for propagation"
  | .fanout => "Direct topic fanout timed out; queued message for propagation"
  | .targeted => "Direct delivery timed out; queued message for propagation"

/-- The message changes to propagation. -/
def repairDirectTimeout (message : OutboundMessageRecord) (nowMs : Int) : ServerM Unit := do
  let repairMessage ← queueDirectTimeoutForPropagation message nowMs
  let _ ← recordSystemEvent "message_propagation_queued" (directTimeoutPropagationEventMessage repairMessage)
    (outboundDeliveryCallbackMetadata
      (outboundDeliveryPropagationMetadata repairMessage "direct_dispatch_timeout") "propagation_fallback")

/-- A dispatch has failed for good. -/
def failDispatch (message : OutboundMessageRecord) (errorText reason : String)
    (eventMessage : OutboundMessageRecord → String) : ServerM Unit := do
  let failedMessage ← markOutboundDispatchFailed message errorText
  let _ ← recordSystemEvent "message_delivery_failed" (eventMessage failedMessage)
    (outboundDeliveryFailureMetadata failedMessage reason)

/-- What the worker does where `dispatch_outbound_message` has failed. -/
def afterDispatchError (message : OutboundMessageRecord) (errorText : String) : ServerM Unit := do
  match ← scheduleOutboundRetryAfterFailure message errorText with
  | some retryMessage =>
    let _ ← recordSystemEvent "message_delivery_retrying"
      ("Retrying message delivery to " ++ destinationText retryMessage)
      (outboundDeliveryRetryMetadata retryMessage (retryReasonForError errorText))
  | none =>
    failDispatch message errorText "send_error" fun failedMessage =>
      "Message delivery failed for " ++ destinationText failedMessage

/-- The retry of the recipients that may still be admitted. -/
def retryPreAdmission (message : OutboundMessageRecord) (report : DispatchReport) :
    ServerM (Option OutboundMessageRecord) :=
  if report.retryableRejectedDestinations.isEmpty then pure none
  else scheduleZmqPreAdmissionRetry message report

/-- The dispatch has reached somebody and is over. -/
def settleDispatch (message : OutboundMessageRecord) (report : DispatchReport) : ServerM Unit := do
  let registeredTsMs ← unixNowMs
  let nowMs ← unixNowMs
  let successMetadata := settledMetadata message report registeredTsMs nowMs
  updateOutboundDeliveryState message.messageId (settledState message report) successMetadata
  if !report.deferred then
    recordOutboundRetrySuccessEvent { message with
      deliveryState := settledState message report
      deliveryMetadata := mergeDeliveryMetadata
        (clearSuccessSupersededDeliveryMetadata message.deliveryMetadata) successMetadata }

/-- What the worker does with the report of a dispatch: what it adds to its own. -/
def afterDispatch (message : OutboundMessageRecord) (dispatchReport : DispatchReport) :
    ServerM OutboundRetryWorkerReport := do
  match ← retryPreAdmission message dispatchReport with
  | some retryMessage =>
    let _ ← recordSystemEvent "message_delivery_retrying"
      (if dispatchReport.count = 0 then "Retrying recipients rejected before LXMF admission"
        else "Retrying only recipients rejected before LXMF admission")
      (outboundDeliveryRetryMetadata retryMessage
        (if dispatchReport.count = 0 then "zmq_pre_admission_rejected" else "zmq_partial_pre_admission"))
    return { dispatched := dispatchReport.count }
  | none =>
    if dispatchReport.count = 0 then
      failDispatch message
        ("ZMQ batch rejected all " ++ toString dispatchReport.rejected.length ++ " recipient(s) before admission")
        "zmq_pre_admission_rejected" fun _ => "LXMF rejected all recipients before admission"
      return { failed := 1 }
    else
      settleDispatch message dispatchReport
      return { dispatched := if dispatchReport.deferred then 0 else dispatchReport.count }

/-- The attempt at a message: it is marked, the message dispatched, and unless the
attempt has been overtaken, the outcome is recorded. -/
def attemptDispatch (message : OutboundMessageRecord) (nowMs : Int) : ServerM OutboundRetryWorkerReport := do
  markOutboundAttemptStarted message.messageId nowMs
  let outcome ← Proc.attempt (dispatchOutboundMessage message)
  if !outboundDispatchAttemptStillCurrent (← state).messages message nowMs then return {}
  match outcome with
  | .error error =>
    afterDispatchError message error.text
    return { failed := 1 }
  | .ok dispatchReport => afterDispatch message dispatchReport

/-- One round of the loop of `process_due_outbound_retry_messages`. -/
def processDueMessage (nowMs : Int) (report : OutboundRetryWorkerReport) (message : OutboundMessageRecord) :
    ServerM OutboundRetryWorkerReport := do
  if failedDirectTimeoutRetryDue message nowMs then
    repairDirectTimeout message nowMs
    return { report with processed := report.processed + 1 }
  else
    let round ← attemptDispatch message nowMs
    return ⟨report.processed + 1, report.dispatched + round.dispatched, report.failed + round.failed⟩

/-- `process_due_outbound_retry_messages`. -/
def processDueOutboundRetryMessages : ServerM OutboundRetryWorkerReport := do
  let nowMs ← unixNowMs
  let dueMessages := (← state).messages.filter (outboundRetryDue · nowMs)
  dueMessages.foldlM (processDueMessage nowMs) {}

/-! ## Attempts that have not come back -/

/-- `dispatch_pending`. -/
def dispatchPending (message : OutboundMessageRecord) : Bool :=
  metadataStr message "dispatch_status" == some "in_progress" &&
    (normalizedDeliveryState message == "queued" ||
      (normalizedDeliveryState message == "failed" && propagatedDirectTimeoutFallback message &&
        propagatedFallbackHasRetryableError message))

/-- `dispatch_deadline_expired`. -/
def dispatchDeadlineExpired (message : OutboundMessageRecord) (nowMs : Int) : Bool :=
  (metadataI64 message "dispatch_deadline_ts_ms").getD (i64 (message.createdTsMs + outboundDispatchTimeoutMs)) ≤ nowMs

/-- The attempt timed out and the message changes to propagation. -/
def timeOutIntoPropagation (nowMs : Int) (message : OutboundMessageRecord) : OutboundMessageRecord :=
  queueForPropagation nowMs { message with
    deliveryMetadata := clearRetrySupersededDeliveryMetadata message.deliveryMetadata }

/-- The attempt timed out and is made again. -/
def timeOutIntoRetry (nowMs : Int) (message : OutboundMessageRecord) : OutboundMessageRecord :=
  let attempts := saturatingAddU64 (outboundAttempts message) 1
  { message with
    deliveryState := "queued"
    deliveryMetadata := mergeDeliveryMetadata message.deliveryMetadata (.object [
      ("acked", toValue false),
      ("attempts", toValue attempts),
      ("dispatch_status", toValue "queued"),
      ("dispatch_timeout", toValue true),
      ("dispatch_timed_out_at_ts_ms", toValue nowMs),
      ("error", toValue "send_timeout"),
      ("receipt_pending", toValue false),
      ("retry_reason", toValue "send_timeout"),
      ("retry_scheduled", toValue true),
      ("next_attempt_at_ts_ms", toValue
        (saturateI64 (nowMs + saturateI64 (outboundBackoffMs message * min (attempts : Int) (2 ^ 63 - 1)))))]) }

/-- The attempt timed out and was the last. -/
def timeOutIntoFailure (nowMs : Int) (message : OutboundMessageRecord) : OutboundMessageRecord :=
  { message with
    deliveryState := "failed"
    deliveryMetadata := mergeDeliveryMetadata message.deliveryMetadata (.object [
      ("acked", toValue false),
      ("attempts", toValue (saturatingAddU64 (outboundAttempts message) 1)),
      ("dispatch_status", toValue "failed"),
      ("dispatch_timeout", toValue true),
      ("dispatch_timed_out_at_ts_ms", toValue nowMs),
      ("error", toValue "send_timeout"),
      ("receipt_pending", toValue false),
      ("retry_scheduled", toValue false)]) }

/-- The message may be tried again after a timeout. -/
def retriesTimeout (message : OutboundMessageRecord) : Bool :=
  (message.deliveryMethod != "propagated" || isRemCommandMessage message ||
      propagatedMultiRecipientAllowsPartialSuccess message) &&
    outboundRetryAttemptAllowed message (saturatingAddU64 (outboundAttempts message) 1)
      (outboundEffectiveMaxAttemptsForRetry message false)

/-- One round of the first loop of `finalize_stale_pending_dispatches`: the message, and
the event it gives rise to. -/
def timeOut (nowMs : Int) (message : OutboundMessageRecord) : OutboundMessageRecord × String × String × Value :=
  if directDispatchTimeoutShouldQueuePropagation message then
    let queued := timeOutIntoPropagation nowMs message
    (queued, "message_propagation_queued", directTimeoutPropagationEventMessage queued,
      outboundDeliveryCallbackMetadata (outboundDeliveryPropagationMetadata queued "direct_dispatch_timeout")
        "propagation_fallback")
  else if retriesTimeout message then
    let queued := timeOutIntoRetry nowMs message
    (queued, "message_delivery_retrying", "Retrying message delivery to " ++ destinationText queued,
      outboundDeliveryRetryMetadata queued "send_timeout")
  else
    let failed := timeOutIntoFailure nowMs message
    (failed, "message_delivery_failed", "Message delivery failed for " ++ destinationText failed,
      outboundDeliveryFailureMetadata failed "send_timeout")

/-- The attempt is pending and past its deadline. -/
def dispatchStale (nowMs : Int) (message : OutboundMessageRecord) : Bool :=
  dispatchPending message && dispatchDeadlineExpired message nowMs

/-- `finalize_stale_pending_dispatches`. -/
def finalizeStalePendingDispatches : ServerM Unit := do
  let nowMs ← unixNowMs
  let stale := ((← state).messages.filter (dispatchStale nowMs)).map (timeOut nowMs)
  update fun s => { s with
    messages := s.messages.map fun message =>
      if dispatchStale nowMs message then (timeOut nowMs message).1 else message }
  stale.forM fun changed => persistOutboundMessageRow changed.1
  stale.forM fun (_, eventType, message, metadata) => do
    let _ ← recordSystemEvent eventType message metadata

end TelemetryHub
