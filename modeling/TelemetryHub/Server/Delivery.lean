import TelemetryHub.Lib.FirstMatch
import TelemetryHub.Server.Metadata

/-!
# Delivery state

What the delivery code reads off a message, the rules that decide whether a failed
dispatch is tried again, and the writes that record an attempt, its success and
its failure.
-/

namespace TelemetryHub

open Lib ServerM

/-! ## Reading a message -/

/-- `str::contains`. -/
def textContains (s sub : String) : Bool := s.toList.tails.any fun rest => sub.toList.isPrefixOf rest

/-- `u64::saturating_add`. -/
def saturatingAddU64 (a b : Nat) : Nat := min (a + b) (2 ^ 64 - 1)

/-- An `i64` result held within the range. -/
def saturateI64 (x : Int) : Int := max (-(2 ^ 63)) (min x (2 ^ 63 - 1))

/-- `Value::as_u64`. -/
def Value.asU64 : Value → Option Nat
  | .number (.int n) => if 0 ≤ n ∧ n < 2 ^ 64 then some n.toNat else none
  | _ => none

/-- `delivery_metadata.get(key).and_then(Value::as_str)`. -/
def metadataStr (message : OutboundMessageRecord) (key : String) : Option String :=
  (message.deliveryMetadata.get key).bind Value.asStr

/-- `delivery_metadata.get(key).and_then(Value::as_i64)`. -/
def metadataI64 (message : OutboundMessageRecord) (key : String) : Option Int :=
  (message.deliveryMetadata.get key).bind Value.asI64

/-- `delivery_metadata.get(key).and_then(Value::as_u64)`. -/
def metadataU64 (message : OutboundMessageRecord) (key : String) : Option Nat :=
  (message.deliveryMetadata.get key).bind Value.asU64

/-- `delivery_metadata.get(key).and_then(Value::as_bool)`. -/
def metadataBool (message : OutboundMessageRecord) (key : String) : Option Bool :=
  (message.deliveryMetadata.get key).bind Value.asBool

/-- `normalized_delivery_state`. -/
def normalizedDeliveryState (message : OutboundMessageRecord) : String :=
  if (trim message.deliveryState).isEmpty then "queued" else message.deliveryState

/-- `delivery_receipt_pending`. -/
def deliveryReceiptPending (message : OutboundMessageRecord) : Bool :=
  (metadataBool message "receipt_pending").getD
    (normalizedDeliveryState message == "sent" && message.deliveryMethod != "propagated" &&
      metadataStr message "dispatch_status" == some "accepted")

/-- `outbound_attempts`. -/
def outboundAttempts (message : OutboundMessageRecord) : Nat := (metadataU64 message "attempts").getD 0

/-! ## The retry rules -/

def outboundRetryMaxAttempts : Nat := 2

def outboundPropagatedMultiRecipientRetryMaxAttempts : Nat := 5

def outboundPropagationFallbackRetryMaxAttempts : Nat := 120

def outboundRateLimitRetryMaxAttempts : Nat := 30

def outboundRetryBackoffMs : Int := 500

def outboundRateLimitRetryBackoffMs : Int := 65000

def outboundDispatchTimeoutMs : Int := 30000

/-- `outbound_max_attempts`. -/
def outboundMaxAttempts (message : OutboundMessageRecord) : Nat :=
  max ((metadataU64 message "max_attempts").getD outboundRetryMaxAttempts) 1

/-- `outbound_backoff_ms`. -/
def outboundBackoffMs (message : OutboundMessageRecord) : Int :=
  max ((metadataI64 message "backoff_ms").getD outboundRetryBackoffMs) 1

/-- `propagated_multi_recipient_allows_partial_success`. -/
def propagatedMultiRecipientAllowsPartialSuccess (message : OutboundMessageRecord) : Bool :=
  message.deliveryMethod == "propagated" && message.deliveryMode != .targeted

/-- `propagated_direct_timeout_fallback`. -/
def propagatedDirectTimeoutFallback (message : OutboundMessageRecord) : Bool :=
  propagatedMultiRecipientAllowsPartialSuccess message &&
    ["broadcast_direct_timeout_fallback", "topic_direct_timeout_fallback"].contains message.deliveryPolicyReason

/-- `outbound_error_is_rate_limited`. -/
def outboundErrorIsRateLimited (errorText : String) : Bool :=
  let normalized := toAsciiLowercase (trim errorText)
  textContains normalized "sdk_security_rate_limited" || textContains normalized "rate limit" ||
    textContains normalized "rate_limited"

/-- `outbound_rate_limit_retry_budget_active`. -/
def outboundRateLimitRetryBudgetActive (message : OutboundMessageRecord) : Bool :=
  (metadataBool message "rate_limit_retry_budget").getD false ||
    metadataStr message "retry_reason" == some "rate_limited" ||
    (metadataStr message "error").any outboundErrorIsRateLimited

/-- `outbound_effective_max_attempts_for_retry`. -/
def outboundEffectiveMaxAttemptsForRetry (message : OutboundMessageRecord) (rateLimited : Bool) : Nat :=
  let multi := isRemCommandMessage message || propagatedMultiRecipientAllowsPartialSuccess message
  let maxAttempts := outboundMaxAttempts message
  let maxAttempts := if multi then max maxAttempts outboundPropagatedMultiRecipientRetryMaxAttempts else maxAttempts
  let maxAttempts := if propagatedDirectTimeoutFallback message then
    max maxAttempts outboundPropagationFallbackRetryMaxAttempts else maxAttempts
  if rateLimited || outboundRateLimitRetryBudgetActive message then
    max maxAttempts outboundRateLimitRetryMaxAttempts else maxAttempts

/-- `outbound_retry_attempt_allowed`. -/
def outboundRetryAttemptAllowed (message : OutboundMessageRecord) (nextAttempt maxAttempts : Nat) : Bool :=
  if propagatedMultiRecipientAllowsPartialSuccess message then nextAttempt ≤ maxAttempts
  else nextAttempt < maxAttempts

/-- `propagated_fallback_error_text_is_retryable`. -/
def propagatedFallbackErrorTextIsRetryable (error : String) : Bool :=
  let normalized := toAsciiLowercase error
  normalized == "send_timeout" || outboundErrorIsRateLimited error ||
    textContains normalized "outbound request failed" || textContains normalized "connection refused" ||
    textContains normalized "os error 10061" || textContains normalized "timed out"

/-- `propagated_fallback_has_retryable_error`. -/
def propagatedFallbackHasRetryableError (message : OutboundMessageRecord) : Bool :=
  (metadataStr message "retry_reason").any (["send_timeout", "send_error", "rate_limited"].contains ·) ||
    (((metadataStr message "error").map trim).filter fun error => !error.isEmpty).any
      propagatedFallbackErrorTextIsRetryable

/-- `outbound_error_is_local_transport_unavailable`. -/
def outboundErrorIsLocalTransportUnavailable (errorText : String) : Bool :=
  let normalized := toAsciiLowercase (trim errorText)
  textContains normalized "connection refused" || textContains normalized "actively refused" ||
    textContains normalized "os error 10061"

/-- `propagated_broadcast_fallback_should_retry_transport_failure`. -/
def propagatedBroadcastFallbackShouldRetryTransportFailure (message : OutboundMessageRecord)
    (errorText : String) : Bool :=
  message.deliveryMethod == "propagated" && message.deliveryMode == .broadcast &&
    message.deliveryPolicyReason == "broadcast_direct_timeout_fallback" &&
    outboundErrorIsLocalTransportUnavailable errorText

/-- `retry_reason_for_error`. -/
def retryReasonForError (errorText : String) : String :=
  if eqIgnoreAsciiCase (trim errorText) "send_timeout" then "send_timeout"
  else if outboundErrorIsRateLimited errorText then "rate_limited"
  else "send_error"

/-- `delivery_failure_callback_should_retry`. -/
def deliveryFailureCallbackShouldRetry (message : OutboundMessageRecord) : Bool :=
  message.deliveryMethod == "propagated" &&
    (isRemCommandMessage message || propagatedMultiRecipientAllowsPartialSuccess message)

/-- `direct_dispatch_timeout_should_queue_propagation`. -/
def directDispatchTimeoutShouldQueuePropagation (message : OutboundMessageRecord) : Bool :=
  message.deliveryMethod == "direct" && message.deliveryMode != .targeted

/-- `direct_timeout_propagation_policy_reason`. -/
def directTimeoutPropagationPolicyReason (message : OutboundMessageRecord) : String :=
  match message.deliveryMode with
  | .broadcast => "broadcast_direct_timeout_fallback"
  | .fanout => "topic_direct_timeout_fallback"
  | .targeted => "direct_timeout_fallback"

/-- `failed_direct_timeout_retry_due`. -/
def failedDirectTimeoutRetryDue (message : OutboundMessageRecord) (nowMs : Int) : Bool :=
  normalizedDeliveryState message == "failed" && directDispatchTimeoutShouldQueuePropagation message &&
    metadataStr message "error" == some "send_timeout" &&
    metadataStr message "dispatch_status" == some "failed" &&
    (metadataI64 message "next_attempt_at_ts_ms").all (· ≤ nowMs)

/-- `failed_propagation_fallback_retry_due`. -/
def failedPropagationFallbackRetryDue (message : OutboundMessageRecord) (nowMs : Int) : Bool :=
  normalizedDeliveryState message == "failed" && propagatedDirectTimeoutFallback message &&
    propagatedFallbackHasRetryableError message &&
    metadataStr message "dispatch_status" != some "in_progress" &&
    (metadataU64 message "reticulumd_dispatch_count").getD 0 == 0 &&
    (metadataI64 message "next_attempt_at_ts_ms").all (· ≤ nowMs) &&
    (let attempts := saturatingAddU64 (outboundAttempts message) 1
     let rateLimited := (metadataStr message "error").any outboundErrorIsRateLimited
     let maxAttempts := outboundEffectiveMaxAttemptsForRetry message rateLimited
     outboundRetryAttemptAllowed message attempts maxAttempts || propagatedDirectTimeoutFallback message)

/-- `outbound_retry_due`. -/
def outboundRetryDue (message : OutboundMessageRecord) (nowMs : Int) : Bool :=
  (normalizedDeliveryState message == "queued" && (metadataBool message "retry_scheduled").getD false &&
    (metadataI64 message "next_attempt_at_ts_ms").all (· ≤ nowMs)) ||
    failedDirectTimeoutRetryDue message nowMs || failedPropagationFallbackRetryDue message nowMs

/-! ## Writing a message -/

/-- The first message of the given id is rewritten. -/
def withMessage (messageId : String) (f : OutboundMessageRecord → OutboundMessageRecord) :
    ServerM (Option OutboundMessageRecord) := do
  let found := (← state).messages.find? (·.messageId == messageId)
  update fun s => { s with messages := replaceFirst (·.messageId == messageId) f s.messages }
  return found.map f

/-- `delivery_route_type`. -/
def deliveryRouteType : DeliveryMode → String
  | .targeted => "targeted"
  | .fanout => "fanout"
  | .broadcast => "broadcast"

/-- The retry a failed dispatch is given, as `schedule_outbound_retry_after_failure`
decides it: its reason, its number and how long it waits. -/
structure RetryPlan where
  attempts : Nat
  retryReason : String
  rateLimitRetryBudget : Bool
  backoffMs : Int

/-- The decision of `schedule_outbound_retry_after_failure`. -/
def planOutboundRetry (message : OutboundMessageRecord) (errorText : String) : Option RetryPlan :=
  if message.deliveryMethod == "propagated" && !isRemCommandMessage message &&
      !propagatedMultiRecipientAllowsPartialSuccess message then none
  else
    let attempts := saturatingAddU64 (outboundAttempts message) 1
    let rateLimited := outboundErrorIsRateLimited errorText
    let maxAttempts := outboundEffectiveMaxAttemptsForRetry message rateLimited
    let retryablePropagationFallback := propagatedDirectTimeoutFallback message &&
      propagatedFallbackErrorTextIsRetryable errorText
    if outboundRetryAttemptAllowed message attempts maxAttempts || retryablePropagationFallback ||
        propagatedBroadcastFallbackShouldRetryTransportFailure message errorText then
      some {
        attempts
        retryReason := retryReasonForError errorText
        rateLimitRetryBudget := rateLimited || outboundRateLimitRetryBudgetActive message
        backoffMs := if rateLimited then outboundRateLimitRetryBackoffMs
          else saturateI64 (outboundBackoffMs message * min (attempts : Int) (2 ^ 63 - 1)) }
    else none

/-- The write of `schedule_outbound_retry_after_failure`. -/
def RetryPlan.apply (plan : RetryPlan) (errorText : String) (nowMs : Int) (stored : OutboundMessageRecord) :
    OutboundMessageRecord :=
  { stored with
    deliveryState := "queued"
    deliveryMetadata := mergeDeliveryMetadata stored.deliveryMetadata (.object [
      ("acked", toValue false),
      ("attempts", toValue plan.attempts),
      ("dispatch_status", toValue "queued"),
      ("error", toValue errorText),
      ("receipt_pending", toValue false),
      ("retry_reason", toValue plan.retryReason),
      ("retry_scheduled", toValue true),
      ("rate_limit_retry_budget", toValue plan.rateLimitRetryBudget),
      ("next_attempt_at_ts_ms", toValue (saturateI64 (nowMs + plan.backoffMs)))]) }

/-- Hand a rewritten message to the database. -/
def persisted : Option OutboundMessageRecord → ServerM (Option OutboundMessageRecord)
  | none => pure none
  | some message => do
    persistOutboundMessageRow message
    return some message

/-- `schedule_outbound_retry_after_failure`. -/
def scheduleOutboundRetryAfterFailure (message : OutboundMessageRecord) (errorText : String) :
    ServerM (Option OutboundMessageRecord) :=
  match planOutboundRetry message errorText with
  | none => pure none
  | some plan => do
    let nowMs ← unixNowMs
    persisted (← withMessage message.messageId (plan.apply errorText nowMs))

/-- The write of `queue_direct_timeout_for_propagation`. -/
def queueForPropagation (nowMs : Int) (stored : OutboundMessageRecord) : OutboundMessageRecord :=
  { stored with
    deliveryState := "queued"
    deliveryMethod := "propagated"
    deliveryPolicyReason := directTimeoutPropagationPolicyReason stored
    deliveryMetadata := mergeDeliveryMetadata stored.deliveryMetadata (.object [
      ("acked", toValue false),
      ("attempts", toValue (0 : Nat)),
      ("direct_attempts", toValue (saturatingAddU64 (outboundAttempts stored) 1)),
      ("delivery_mode", toValue "propagated"),
      ("dispatch_status", toValue "queued"),
      ("dispatch_timeout", toValue true),
      ("dispatch_timed_out_at_ts_ms", toValue nowMs),
      ("error", toValue "send_timeout"),
      ("fallback_reason", toValue "direct_dispatch_timeout"),
      ("max_attempts", toValue outboundPropagatedMultiRecipientRetryMaxAttempts),
      ("previous_delivery_method", toValue "direct"),
      ("receipt_pending", toValue false),
      ("retry_reason", toValue "send_timeout"),
      ("retry_scheduled", toValue true),
      ("next_attempt_at_ts_ms", toValue nowMs)]) }

/-- `queue_direct_timeout_for_propagation`. -/
def queueDirectTimeoutForPropagation (message : OutboundMessageRecord) (nowMs : Int) :
    ServerM OutboundMessageRecord := do
  let repaired ← Proc.orThrow (← withMessage message.messageId (queueForPropagation nowMs))
    (.notFound "Outbound message not found")
  persistOutboundMessageRow repaired
  return repaired

section Instants

variable [ServerHost]

/-- The write of `mark_outbound_attempt_started`. -/
def startAttempt (startedAtTsMs : Int) (stored : OutboundMessageRecord) : OutboundMessageRecord :=
  { stored with
    deliveryState := "queued"
    deliveryMetadata :=
      mergeDeliveryMetadata (clearRetrySupersededDeliveryMetadata stored.deliveryMetadata) (.object [
        ("dispatch_status", toValue "in_progress"),
        ("dispatch_started_ts_ms", toValue startedAtTsMs),
        ("dispatch_deadline_ts_ms", toValue (i64 (startedAtTsMs + outboundDispatchTimeoutMs))),
        ("last_attempt_at", toValue (millisToRfc3339 startedAtTsMs)),
        ("last_attempt_at_ts_ms", toValue startedAtTsMs),
        ("retry_scheduled", toValue false)]) }

/-- `mark_outbound_attempt_started`. -/
def markOutboundAttemptStarted (messageId : String) (startedAtTsMs : Int) : ServerM Unit := do
  let _ ← persisted (← withMessage messageId (startAttempt startedAtTsMs))
  return ()

end Instants

/-- `outbound_dispatch_attempt_still_current`. -/
def outboundDispatchAttemptStillCurrent (messages : List OutboundMessageRecord)
    (attempted : OutboundMessageRecord) (startedAtTsMs : Int) : Bool :=
  (messages.find? (·.messageId == attempted.messageId)).any fun current =>
    normalizedDeliveryState current == "queued" &&
      current.deliveryMethod == attempted.deliveryMethod &&
      current.deliveryPolicyReason == attempted.deliveryPolicyReason &&
      metadataStr current "dispatch_status" == some "in_progress" &&
      metadataI64 current "last_attempt_at_ts_ms" == some startedAtTsMs

/-- `delivery_state_clears_error_metadata`. -/
def deliveryStateClearsErrorMetadata (deliveryState : String) : Bool :=
  ["sent", "delivered", "propagated", "propagating"].contains deliveryState

/-- The write of `update_outbound_delivery_state`. -/
def settle (deliveryState : String) (deliveryMetadata : Value) (stored : OutboundMessageRecord) :
    OutboundMessageRecord :=
  { stored with
    deliveryState
    deliveryMetadata := mergeDeliveryMetadata
      (if deliveryStateClearsErrorMetadata deliveryState then
        clearSuccessSupersededDeliveryMetadata stored.deliveryMetadata else stored.deliveryMetadata)
      deliveryMetadata }

/-- `update_outbound_delivery_state`. -/
def updateOutboundDeliveryState (messageId deliveryState : String) (deliveryMetadata : Value) :
    ServerM Unit := do
  let _ ← persisted (← withMessage messageId (settle deliveryState deliveryMetadata))
  return ()

end TelemetryHub
