import TelemetryHub.Server.Worker

/-!
# Delivery receipts

What the worker does in a tick in which nothing was due: the data plane is polled for
the delivery status of accepted copies, and receipts past their deadline are given
up. What a poll finds is an input.
-/

namespace TelemetryHub

open Lib ServerM

/-! ## Receipts past their deadline -/

def outboundReceiptActiveExtensionMax : Nat := 10

/-- `reticulumd_status_still_active`. -/
def reticulumdStatusStillActive (status : Option String) : Bool :=
  match (status.map trim).filter fun status => !status.isEmpty with
  | none => true
  | some status =>
    let normalized := toAsciiLowercase status
    normalized == "pending" || "sending".toList.isPrefixOf normalized.toList || normalized == "queued"

/-- `receipt_deadline_expired`. -/
def receiptDeadlineExpired (message : OutboundMessageRecord) (nowMs : Int) : Bool :=
  (metadataI64 message "receipt_deadline_ts_ms").getD
    (i64 (message.createdTsMs + outboundReceiptTimeoutMs message)) ≤ nowMs

/-- The first status of a target the daemon still works on. -/
def activeReceiptStatus (message : OutboundMessageRecord) : Option String :=
  (reticulumdReceiptTargetsForMessage message).findSome? fun target =>
    target.status.filter fun status => reticulumdStatusStillActive (some status)

/-- The receipt is given more time. -/
def extendReceipt (activeStatus : String) (nowMs : Int) (message : OutboundMessageRecord) : OutboundMessageRecord :=
  { message with
    deliveryMetadata := mergeDeliveryMetadata message.deliveryMetadata (.object [
      ("receipt_pending", toValue true),
      ("receipt_status", toValue activeStatus),
      ("receipt_timeout", toValue false),
      ("receipt_active_extension_count", toValue
        (saturatingAddU64 ((metadataU64 message "receipt_active_extension_count").getD 0) 1)),
      ("receipt_deadline_ts_ms", toValue (i64 (nowMs + outboundReceiptTimeoutMs message)))]) }

/-- The receipt is given up. -/
def giveUpReceipt (nowMs : Int) (message : OutboundMessageRecord) : OutboundMessageRecord :=
  { message with
    deliveryState := "failed"
    deliveryMetadata := mergeDeliveryMetadata message.deliveryMetadata (.object [
      ("attempts", toValue (saturatingAddU64 (outboundAttempts message) 1)),
      ("dispatch_status", toValue "failed"),
      ("error", toValue "delivery_receipt_timeout"),
      ("receipt_pending", toValue false),
      ("receipt_timeout", toValue true),
      ("receipt_timeout_at_ts_ms", toValue nowMs),
      ("retry_scheduled", toValue false),
      ("retry_owner", toValue "reticulumd")]) }

/-- One round of the first loop of `finalize_expired_delivery_receipts`: the message, and
whether it has failed. -/
def expireReceipt (nowMs : Int) (message : OutboundMessageRecord) : OutboundMessageRecord × Bool :=
  match activeReceiptStatus message with
  | some activeStatus =>
    if (metadataU64 message "receipt_active_extension_count").getD 0 < outboundReceiptActiveExtensionMax then
      (extendReceipt activeStatus nowMs message, false)
    else (giveUpReceipt nowMs message, true)
  | none => (giveUpReceipt nowMs message, true)

/-- The receipt is pending and past its deadline. -/
def receiptExpired (nowMs : Int) (message : OutboundMessageRecord) : Bool :=
  deliveryReceiptPending message && receiptDeadlineExpired message nowMs

/-- `finalize_expired_delivery_receipts`. -/
def finalizeExpiredDeliveryReceipts : ServerM Unit := do
  let nowMs ← unixNowMs
  let expired := ((← state).messages.filter (receiptExpired nowMs)).map (expireReceipt nowMs)
  update fun s => { s with
    messages := s.messages.map fun message =>
      if receiptExpired nowMs message then (expireReceipt nowMs message).1 else message }
  expired.forM fun changed => persistOutboundMessageRow changed.1
  (expired.filter (·.2)).forM fun changed => do
    let _ ← recordSystemEvent "message_delivery_failed" ("Message delivery failed for " ++ destinationText changed.1)
      (outboundDeliveryFailureMetadata changed.1 "delivery_receipt_timeout")

/-! ## What a poll finds -/

/-- `sdk_status_delivered_terminal`. -/
def sdkStatusDeliveredTerminal (snapshot : LxmfDeliverySnapshot) : Bool :=
  snapshot.terminal && snapshot.state == .delivered

/-- `sdk_status_sent_terminal`. -/
def sdkStatusSentTerminal (snapshot : LxmfDeliverySnapshot) : Bool :=
  snapshot.terminal && snapshot.state == .sent

/-- `sdk_status_failure_terminal`. -/
def sdkStatusFailureTerminal (snapshot : LxmfDeliverySnapshot) : Bool :=
  snapshot.terminal && [.failed, .cancelled, .expired, .rejected].contains snapshot.state

/-- `terminal_reticulumd_failure_status`. -/
def terminalReticulumdFailureStatus (status : String) : Bool :=
  let normalized := toAsciiLowercase (trim status)
  startsWith normalized "failed" || ["cancelled", "expired", "rejected"].contains normalized

/-- `terminal_reticulumd_sent_status`. -/
def terminalReticulumdSentStatus (status : String) : Bool :=
  startsWith (toAsciiLowercase (trim status)) "sent"

/-- `reticulumd_receipt_target_success_terminal`. -/
def ReceiptTarget.successTerminal (target : ReceiptTarget) : Bool :=
  (target.sdkSnapshot.any fun snapshot => sdkStatusDeliveredTerminal snapshot || sdkStatusSentTerminal snapshot) ||
    target.status.any fun status => eqIgnoreAsciiCase status "delivered" || terminalReticulumdSentStatus status

/-- `reticulumd_receipt_target_failure_terminal`. -/
def ReceiptTarget.failureTerminal (target : ReceiptTarget) : Bool :=
  target.status.any terminalReticulumdFailureStatus || target.sdkSnapshot.any sdkStatusFailureTerminal

/-- `reticulumd_receipt_target_peer_not_announced`. -/
def ReceiptTarget.peerNotAnnounced (target : ReceiptTarget) : Bool :=
  (target.status.any fun status => eqIgnoreAsciiCase (trim status) "failed: peer not announced") ||
    target.sdkSnapshot.any fun snapshot =>
      snapshot.reasonCode.any fun reason => eqIgnoreAsciiCase reason "peer_not_announced"

/-- `reticulumd_receipt_target_terminal`. -/
def ReceiptTarget.terminal (target : ReceiptTarget) : Bool := target.successTerminal || target.failureTerminal

/-- `propagated_multi_recipient_target_failure_terminal`. -/
def propagatedMultiRecipientTargetFailureTerminal (message : OutboundMessageRecord) (target : ReceiptTarget) : Bool :=
  target.failureTerminal && !(propagatedMultiRecipientAllowsPartialSuccess message && target.peerNotAnnounced)

/-- `propagated_dispatch_has_active_targets`. -/
def propagatedDispatchHasActiveTargets (message : OutboundMessageRecord) : Bool :=
  let targets := reticulumdReceiptTargetsForMessage message
  message.deliveryMethod == "propagated" && !((storedTargetValues message).getD []).isEmpty &&
    targets.any (fun target => reticulumdStatusStillActive target.status) &&
    !targets.any ReceiptTarget.successTerminal

/-- `retryable_propagation_fallback_has_active_dispatch`. -/
def retryablePropagationFallbackHasActiveDispatch (message : OutboundMessageRecord) : Bool :=
  propagatedDirectTimeoutFallback message && propagatedFallbackHasRetryableError message &&
    propagatedDispatchHasActiveTargets message

/-- `reticulumd_status_poll_candidate`. -/
def reticulumdStatusPollCandidate (message : OutboundMessageRecord) : Bool :=
  let state := normalizedDeliveryState message
  if state == "delivered" || (state == "failed" && !retryablePropagationFallbackHasActiveDispatch message) then false
  else deliveryReceiptPending message ||
    (reticulumdDispatchCount message != 0 &&
      (reticulumdReceiptTargetsForMessage message).any fun target => reticulumdStatusStillActive target.status)

/-- The calls `poll_reticulumd_delivery_receipts` makes for a message: the poll itself,
a poll cut short, the statuses found, and what they come to. -/
inductive StatusReport where
  | polled
  | cutShort (error : String)
  | statuses (found : List ReceiptTarget)
  | delivered (receiptStatus : String)
  | sent (receiptStatus : String)
  | failed (receiptStatus : String)

/-- The messages a report is about: those still polled, or those not over yet. -/
def StatusReport.concerns (report : StatusReport) (message : OutboundMessageRecord) : Bool :=
  match report with
  | polled | cutShort _ | statuses _ => reticulumdStatusPollCandidate message
  | delivered _ | sent _ | failed _ => !(["delivered", "failed"].contains (normalizedDeliveryState message))

/-- One round of the loop of `update_reticulumd_receipt_target_statuses`: the first target
of the id takes the status over. -/
def setTargetStatus (normalizePeerNotAnnounced : Bool) (targets : List ReceiptTarget) (status : ReceiptTarget) :
    List ReceiptTarget :=
  replaceFirst (·.messageId == status.messageId) (fun target =>
    if normalizePeerNotAnnounced && status.peerNotAnnounced then
      { target with
        status := some "propagation pending: peer not announced"
        sdkSnapshot := none
        lastPollTsMs := status.lastPollTsMs }
    else
      { target with
        status := status.status
        sdkSnapshot := status.sdkSnapshot
        lastPollTsMs := status.lastPollTsMs }) targets

/-- The targets once the statuses have been taken over. -/
def updatedTargets (message : OutboundMessageRecord) (statuses : List ReceiptTarget) : List ReceiptTarget :=
  statuses.foldl (setTargetStatus (propagatedMultiRecipientAllowsPartialSuccess message))
    (reticulumdReceiptTargetsForMessage message)

/-- `propagated_fanout_partial_success_metadata`. -/
def propagatedFanoutPartialSuccessMetadata (message : OutboundMessageRecord) : Value :=
  if !propagatedMultiRecipientAllowsPartialSuccess message then .object []
  else
    let targets := reticulumdReceiptTargetsForMessage message
    let failedDestinations := (targets.filter (propagatedMultiRecipientTargetFailureTerminal message)).filterMap
      fun target => normalizeIdentityKey target.destination
    let propagatedDestinations := (targets.filter ReceiptTarget.successTerminal).filterMap
      fun target => normalizeIdentityKey target.destination
    if failedDestinations.isEmpty || propagatedDestinations.isEmpty then .object []
    else .object [
      ("partial_delivery", toValue true),
      ("failed_destinations", toValue failedDestinations),
      ("propagated_destinations", toValue propagatedDestinations)]

/-- The writes of `mark_reticulumd_receipt_poll_attempt`,
`mark_reticulumd_receipt_poll_reconciliation_error`,
`update_reticulumd_receipt_target_statuses`, `mark_reticulumd_status_delivery_receipt`,
`mark_reticulumd_status_sent` and `mark_reticulumd_status_delivery_failure`. -/
def StatusReport.write (report : StatusReport) (nowMs : Int) (message : OutboundMessageRecord) :
    OutboundMessageRecord :=
  match report with
  | polled => { message with
      deliveryMetadata := mergeDeliveryMetadata message.deliveryMetadata (.object [
        ("receipt_last_poll_ts_ms", toValue nowMs)]) }
  | cutShort error => { message with
      deliveryMetadata := mergeDeliveryMetadata message.deliveryMetadata (.object [
        ("receipt_last_poll_ts_ms", toValue nowMs),
        ("sdk_reconciliation_error", toValue error),
        ("sdk_reconciliation_error_ts_ms", toValue nowMs)]) }
  | statuses found =>
    let snapshot := maxBy (fun left right => compare left.lastUpdatedMs right.lastUpdatedMs)
      (found.filterMap ReceiptTarget.sdkSnapshot)
    { message with
      deliveryMetadata := (mergeDeliveryMetadata
        (mergeDeliveryMetadata message.deliveryMetadata (.object [
          ("reticulumd_receipt_targets", reticulumdReceiptTargetsJson (updatedTargets message found))]))
        (.object ((snapshot.map sdkDeliverySnapshotMetadata).getD []))).removeKeys
          ["sdk_reconciliation_error", "sdk_reconciliation_error_ts_ms"] }
  | delivered receiptStatus =>
    let propagated := message.deliveryMethod = "propagated"
    { message with
      deliveryState := if propagated then "propagated" else "delivered"
      deliveryMetadata := mergeDeliveryMetadata
        (clearSuccessSupersededDeliveryMetadata message.deliveryMetadata) (.object [
          ("acked", toValue true),
          ("dispatch_status", toValue "accepted"),
          ("receipt_pending", toValue false),
          ("receipt_ack_ts_ms", toValue nowMs),
          ("acknowledgement_type", toValue (if propagated then "propagation_acceptance" else "delivery_receipt")),
          ("receipt_status", toValue receiptStatus),
          ("receipt_timeout", toValue false)]) }
  | sent receiptStatus => { message with
      deliveryState := deliverySuccessState message
      deliveryMetadata := mergeDeliveryMetadata
        (clearSuccessSupersededDeliveryMetadata message.deliveryMetadata) (mergeDeliveryMetadata (.object [
          ("acked", toValue false),
          ("dispatch_status", toValue "accepted"),
          ("receipt_pending", toValue false),
          ("receipt_status", toValue receiptStatus),
          ("receipt_sent_ts_ms", toValue nowMs),
          ("receipt_timeout", toValue false)]) (propagatedFanoutPartialSuccessMetadata message)) }
  | failed receiptStatus => { message with
      deliveryState := "failed"
      deliveryMetadata := mergeDeliveryMetadata message.deliveryMetadata (.object [
        ("acked", toValue false),
        ("dispatch_status", toValue "failed"),
        ("error", toValue receiptStatus),
        ("receipt_pending", toValue false),
        ("receipt_status", toValue receiptStatus),
        ("delivery_failed_ts_ms", toValue nowMs),
        ("retry_scheduled", toValue false),
        ("retry_owner", toValue "reticulumd")]) }

/-- The event a report gives rise to. -/
def StatusReport.event (report : StatusReport) (message : OutboundMessageRecord) :
    Option (String × String × Value) :=
  match report with
  | polled | cutShort _ | statuses _ | sent _ => none
  | delivered _ =>
    let propagated := message.deliveryMethod = "propagated"
    some (if propagated then "message_propagated" else "message_delivered",
      (if propagated then "Message accepted for propagation to " else "Message delivered to ") ++
        destinationText message,
      outboundDeliveryCallbackMetadata (outboundDeliveryReceiptMetadata message
        (if propagated then "propagation_acceptance" else "delivery_receipt")) "delivery_receipt")
  | failed receiptStatus =>
    some ("message_delivery_failed", "Message delivery failed for " ++ destinationText message,
      outboundDeliveryCallbackMetadata (outboundDeliveryFailureMetadata message receiptStatus) "delivery_failure")

/-- The first message of the id the report is about is rewritten, stored and told of. -/
def StatusReport.handle (messageId : String) (report : StatusReport) : ServerM Unit := do
  let nowMs ← unixNowMs
  let concerned := fun message : OutboundMessageRecord => message.messageId == messageId && report.concerns message
  match (← state).messages.find? concerned with
  | none => return ()
  | some found =>
    let message := report.write nowMs found
    update fun s => { s with messages := replaceFirst concerned (report.write nowMs) s.messages }
    persistOutboundMessageRow message
    match report.event message with
    | none => return ()
    | some (eventType, text, metadata) =>
      let _ ← recordSystemEvent eventType text metadata

variable [ServerHost]

/-- `process_outbound_delivery_worker_tick`, with what its poll finds. -/
def processOutboundDeliveryWorkerTick (found : List (String × StatusReport)) : ServerM OutboundRetryWorkerReport := do
  finalizeStalePendingDispatches
  let report ← processDueOutboundRetryMessages
  if report.processed = 0 then
    found.forM fun (messageId, statusReport) => statusReport.handle messageId
    finalizeExpiredDeliveryReceipts
  return report

end TelemetryHub
