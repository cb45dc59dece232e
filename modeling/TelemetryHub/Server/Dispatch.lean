import TelemetryHub.Server.Recipients

/-!
# Handing a message to the data plane

A message goes to its recipients in one batch, or on its own if there is only one.
What the data plane accepts and rejects is gathered in a report.
-/

namespace TelemetryHub

open Lib ServerM

/-- `LxmfDeliveryState`; `unknown` is any state the hub does not name. -/
inductive LxmfDeliveryState where
  | queued | dispatching | inFlight | sent | delivered | failed | cancelled | expired | rejected | unknown
  deriving DecidableEq

/-- `sdk_delivery_state_name`. -/
def sdkDeliveryStateName : LxmfDeliveryState → String
  | .queued => "queued"
  | .dispatching => "dispatching"
  | .inFlight => "in_flight"
  | .sent => "sent"
  | .delivered => "delivered"
  | .failed => "failed"
  | .cancelled => "cancelled"
  | .expired => "expired"
  | .rejected => "rejected"
  | .unknown => "unknown"

/-- `LxmfDeliverySnapshot`: what the daemon says of a copy it has accepted. -/
structure LxmfDeliverySnapshot where
  messageId : String
  state : LxmfDeliveryState
  terminal : Bool
  lastUpdatedMs : Nat
  attempts : Nat
  reasonCode : Option String

/-- The fields of `sdk_delivery_snapshot_metadata_json`. -/
def sdkDeliverySnapshotMetadata (snapshot : LxmfDeliverySnapshot) : List (String × Value) :=
  [("sdk_message_id", toValue snapshot.messageId), ("sdk_delivery_state", toValue (sdkDeliveryStateName snapshot.state)),
    ("sdk_terminal", toValue snapshot.terminal), ("sdk_attempts", toValue snapshot.attempts),
    ("sdk_reason_code", toValue snapshot.reasonCode), ("sdk_last_updated_ms", toValue snapshot.lastUpdatedMs)]

/-- `ReticulumdReceiptTarget`: an accepted copy of a message, and what is known of it. -/
structure ReceiptTarget where
  messageId : String
  destination : String
  status : Option String := none
  sdkSnapshot : Option LxmfDeliverySnapshot := none
  lastPollTsMs : Option Int := none

/-- `DispatchReport`. -/
structure DispatchReport where
  count : Nat := 0
  deferred : Bool := false
  receipts : List ReceiptTarget := []
  rejected : List Value := []
  retryableRejectedDestinations : List String := []

/-- The error as it is serialized. -/
def BatchError.value (error : BatchError) : Value :=
  .object [("code", toValue error.code), ("message", toValue error.message), ("category", toValue error.category),
    ("retryable", toValue error.retryable)]

/-- One round of `record_zmq_batch_results`. -/
def DispatchReport.record (report : DispatchReport) (result : BatchResult) : DispatchReport :=
  if result.accepted then
    { report with
      count := report.count + 1
      receipts := report.receipts ++ [{ messageId := result.messageId, destination := result.destination }] }
  else
    { report with
      retryableRejectedDestinations := report.retryableRejectedDestinations ++
        (if result.error.any (·.retryable) then [result.destination] else [])
      rejected := report.rejected ++
        [.object [("id", toValue result.id), ("destination", toValue result.destination),
          ("error", (result.error.map BatchError.value).getD .null)]] }

/-- `record_zmq_batch_results`. -/
def recordZmqBatchResults (report : DispatchReport) (results : List BatchResult) : DispatchReport :=
  results.foldl .record report

/-- `dispatch_destination_suffix`. -/
def dispatchDestinationSuffix (destination : String) (index : Nat) : String :=
  let suffix := String.ofList ((destination.toList.filter fun c => c.isAlphanum).take 12)
  if suffix.isEmpty then toString index else suffix

/-- `outbound_dispatch_message_id`. -/
def outboundDispatchMessageId (message : OutboundMessageRecord) (destination : String) (index : Nat) : String :=
  if message.deliveryMode = .targeted then message.messageId
  else message.messageId ++ "-fanout-" ++ dispatchDestinationSuffix destination index

/-- The recipients of a message, each with the id of its copy. -/
def recipientsFor (message : OutboundMessageRecord) (destinations : List String) : List Recipient :=
  destinations.mapIdx fun index destination =>
    ⟨destination, outboundDispatchMessageId message destination index⟩

/-- A result of the data plane, its error raised. -/
def accepted (outcome : Except String (List BatchResult)) : Except ApiError (List BatchResult) :=
  outcome.mapError .serviceUnavailable

variable [ServerHost]

/-- `dispatch_outbound_message`. -/
def dispatchOutboundMessage (message : OutboundMessageRecord) : ServerM DispatchReport := do
  match (← state).dataPlane with
  | .notConfigured => return {}
  | .unavailable => throw (.serviceUnavailable "ZeroMQ data plane is unavailable")
  | .connected =>
    let recipients := recipientsFor message (← outboundDestinations message)
    match recipients with
    | [] => return {}
    | [recipient] =>
      let outcome ← if message.deliveryMethod = "propagated" then sendBatch message.messageId [recipient]
        else sendMessage message.messageId recipient
      return recordZmqBatchResults {} (← accepted outcome)
    | recipients =>
      let outcome ← sendBatch message.messageId recipients
      return recordZmqBatchResults {} (← accepted outcome)

end TelemetryHub
