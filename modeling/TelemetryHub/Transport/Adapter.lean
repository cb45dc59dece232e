import TelemetryHub.Server.Batches

/-!
# The inbound side of the transport

The two adapters a `LxmfRsTransport` polls: one lists the messages of the daemon and
remembers the ids it has handed out, the other asks for the events after a cursor. A
call hands out one frame, which the poll decodes.
-/

namespace TelemetryHub

open Lib ServerM

/-- What the transport takes from the crates beyond what the server takes. -/
class TransportHost extends ServerHost where
  /-- `ProtocolEnvelope::encode_msgpack`: the bytes, or the text of its error. -/
  encodeMsgpack : ProtocolEnvelope → Except String (List UInt8)

/-- `LxmfRsFrame`. -/
structure LxmfRsFrame where
  destination : String
  bytes : List UInt8

/-- `ReticulumdRpcError`, as far as it is read. -/
structure ReticulumdRpcError where
  code : String
  message : String

/-- `ReticulumdRpcResponse`, as far as it is read. -/
structure ReticulumdRpcResponse where
  result : Option Value := none
  error : Option ReticulumdRpcError := none

/-- `LxmfSdkEventBatch`, its events as `lxmf_sdk_event_to_reticulumd_event_record` copies them. -/
structure LxmfSdkEventBatch where
  events : List ReticulumdEvent
  nextCursor : String

/-- `destination_hint`. -/
def destinationHint (envelope : ProtocolEnvelope) : String :=
  match envelope.destination with
  | .node nodeId => nodeId
  | .topic topic => topic
  | .broadcast => "broadcast"

/-- `LxmfRsAdapter::receive_frame`: on what the daemon answers, in a world. The adapter
keeps what it has written when the call fails. -/
class LxmfRsAdapter (adapter : Type) (answer : outParam Type) where
  receiveFrame : adapter → answer → ServerWorld → Except ApiError (Option LxmfRsFrame) × adapter

section

variable [TransportHost]

/-- `encode_msgpack` with its error mapped. -/
def encodeFrame (envelope : ProtocolEnvelope) : Except ApiError (List UInt8) :=
  (TransportHost.encodeMsgpack envelope).mapError receiveError

/-- `LxmfRsTransport::poll`, of what was received. -/
def decodeReceived : Option LxmfRsFrame → Except ApiError (Option ProtocolEnvelope)
  | none => .ok none
  | some frame => some <$> (ServerHost.decodeMsgpack frame.bytes).mapError receiveError

/-- `LxmfRsTransport::poll`. -/
def poll {adapter answer : Type} [LxmfRsAdapter adapter answer] (a : adapter) (given : answer) (w : ServerWorld) :
    Except ApiError (Option ProtocolEnvelope) × adapter :=
  let received := LxmfRsAdapter.receiveFrame a given w
  (received.1 >>= decodeReceived, received.2)

/-! ## The list of messages -/

/-- `ReticulumdRpcLxmfRsAdapter`, as far as receiving reads it. -/
structure ReticulumdRpcLxmfRsAdapter where
  source : String
  seenMessageIds : List String := []
  maxSeenMessageIds : Nat := 256

namespace ReticulumdRpcLxmfRsAdapter

/-- `has_seen`. -/
def hasSeen (a : ReticulumdRpcLxmfRsAdapter) (messageId : String) : Bool := a.seenMessageIds.contains messageId

/-- `remember_seen`. -/
def rememberSeen (a : ReticulumdRpcLxmfRsAdapter) (messageId : String) : ReticulumdRpcLxmfRsAdapter :=
  if a.hasSeen messageId then a
  else
    let seen := a.seenMessageIds ++ [messageId]
    { a with seenMessageIds := seen.drop (seen.length - a.maxSeenMessageIds) }

end ReticulumdRpcLxmfRsAdapter

omit [TransportHost] in
/-- The id of a listed message. -/
def listedMessageId (message : Value) : String := ((message.get "id").bind Value.asStr).getD ""

/-- The bytes of a listed message. -/
def messageBytes (source : String) (message : Value) : ServerM (Option (List UInt8)) := do
  match ((message.get "fields").bind fun fields => fields.get "r3akt_payload_b64").bind Value.asStr with
  | some payloadB64 => do
    let bytes ← Proc.orThrow (Host.base64Decode payloadB64) (receiveError (ServerHost.base64DecodeError payloadB64))
    return some bytes
  | none =>
    match ← directLxmfMessageEnvelope message source with
    | none => return none
    | some envelope => some <$> (encodeFrame envelope : Except ApiError (List UInt8))

/-- The frame of a listed message. -/
def messageFrame (source : String) (message : Value) : ServerM (Option LxmfRsFrame) := do
  let bytes ← messageBytes source message
  return bytes.map fun bytes =>
    { destination := ((message.get "destination").bind Value.asStr).getD source, bytes }

/-- The loop of `receive_frame` over the list: the message handed out, with its frame. -/
def ReticulumdRpcLxmfRsAdapter.firstFrame (a : ReticulumdRpcLxmfRsAdapter) :
    List Value → ServerM (Option (Value × LxmfRsFrame))
  | [] => pure none
  | message :: rest =>
    if (listedMessageId message).isEmpty || a.hasSeen (listedMessageId message) then a.firstFrame rest
    else do
      match ← messageFrame a.source message with
      | none => a.firstFrame rest
      | some frame => return some (message, frame)

/-- `ReticulumdRpcLxmfRsAdapter::receive_frame`. -/
def ReticulumdRpcLxmfRsAdapter.receiveFrame (a : ReticulumdRpcLxmfRsAdapter)
    (response : Except ApiError ReticulumdRpcResponse) (w : ServerWorld) :
    Except ApiError (Option LxmfRsFrame) × ReticulumdRpcLxmfRsAdapter :=
  match response with
  | .error error => (.error error, a)
  | .ok response =>
    match response.error with
    | some error => (.error (receiveError ("reticulumd RPC " ++ error.code ++ ": " ++ error.message)), a)
    | none =>
      match (response.result.bind fun result => result.get "messages").bind Value.asArray with
      | none => (.ok none, a)
      | some messages =>
        match ((a.firstFrame messages).run w).1 with
        | .error error => (.error error, a)
        | .ok none => (.ok none, a)
        | .ok (some (message, frame)) => (.ok (some frame), a.rememberSeen (listedMessageId message))

instance : LxmfRsAdapter ReticulumdRpcLxmfRsAdapter (Except ApiError ReticulumdRpcResponse) where
  receiveFrame := ReticulumdRpcLxmfRsAdapter.receiveFrame

/-! ## The stream of events -/

/-- `LxmfSdkLxmfRsAdapter`, as far as receiving reads it. -/
structure LxmfSdkLxmfRsAdapter where
  source : String
  nextEventCursor : Option String := none
  maxPollEvents : Nat := 256

/-- The frame of an event. -/
def eventFrame (source : String) (event : ReticulumdEvent) : ServerM (Option LxmfRsFrame) := do
  if event.eventType = "inbound" ∨ event.eventType = "InboundMessageReceived" then
    match ← reticulumdEventToEnvelope event source with
    | none => return none
    | some envelope => do
      let bytes ← (encodeFrame envelope : Except ApiError (List UInt8))
      return some { destination := destinationHint envelope, bytes }
  else return none

/-- The loop of `receive_frame` over a batch. -/
def firstEventFrame (source : String) : List ReticulumdEvent → ServerM (Option LxmfRsFrame)
  | [] => pure none
  | event :: rest => do
    match ← eventFrame source event with
    | none => firstEventFrame source rest
    | some frame => return some frame

/-- `LxmfSdkLxmfRsAdapter::receive_frame`, on what `poll_events` answers to the adapter's cursor. -/
def LxmfSdkLxmfRsAdapter.receiveFrame (a : LxmfSdkLxmfRsAdapter)
    (pollEvents : Option String → Nat → Except ApiError LxmfSdkEventBatch) (w : ServerWorld) :
    Except ApiError (Option LxmfRsFrame) × LxmfSdkLxmfRsAdapter :=
  match pollEvents a.nextEventCursor a.maxPollEvents with
  | .error error => (.error error, a)
  | .ok batch =>
    (((firstEventFrame a.source batch.events).run w).1, { a with nextEventCursor := some batch.nextCursor })

instance : LxmfRsAdapter LxmfSdkLxmfRsAdapter (Option String → Nat → Except ApiError LxmfSdkEventBatch) where
  receiveFrame := LxmfSdkLxmfRsAdapter.receiveFrame

end
end TelemetryHub
