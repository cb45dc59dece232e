import TelemetryHub.Core.State
import TelemetryHub.Core.Listing
import TelemetryHub.Server.Envelope
import TelemetryHub.Server.Message

/-!
# The server's state

`AppState` as its handlers see it: the shared maps and lists, each read and
written under its lock, and the database rows behind them. Clock readings and
fresh UUIDs are the streams of a `ServerWorld`. The database itself does not fail;
the purge lock of the kill switch does.
-/

namespace TelemetryHub

open Lib

/-- What the server takes from the crates beyond what the core takes. -/
class ServerHost extends Host where
  /-- `DateTime::parse_from_rfc3339(..).timestamp_millis()`. -/
  parseRfc3339Millis : String → Option Int
  /-- `RECENT_RUNTIME_PRESENCE_WINDOW_MS`. -/
  recentRuntimePresenceWindowMs : Int
  /-- `decode_announce_capabilities_from_app_data_hex`, as any function: no result here rests on it. -/
  decodeAnnounceCapabilities : String → List String
  /-- `classify_delivery_mode` of the delivery crate: the mode, or the text of its error. -/
  classifyDeliveryMode : Option String → Option String → Except String DeliveryMode
  /-- The text of the error `BASE64_STANDARD.decode` fails with. -/
  base64DecodeError : String → String
  /-- `ProtocolEnvelope::decode_msgpack`: the envelope, or the text of its error. -/
  decodeMsgpack : List UInt8 → Except String ProtocolEnvelope
  /-- `direct_lxmf_telemetry`: of the fields and the message. -/
  directLxmfTelemetry : Option (List (String × Value)) → Value → Option TelemetrySample
  /-- `direct_lxmf_attachments`: of the fields. -/
  directLxmfAttachments : Option (List (String × Value)) → List TopicAttachment
  /-- `serde_json::from_value::<ReticulumdAnnounceRecord>`: the announce, or the text of its error. -/
  decodeAnnounce : Value → Except String ReticulumdAnnounce
  /-- `Path::file_name` as a string. -/
  fileName : String → Option String
  /-- `Path::extension` as a string. -/
  fileExtension : String → Option String
  /-- The directory `attachment_storage_path` names for a category. -/
  attachmentStoragePath : String → String
  /-- `sha256_lower_hex` of a text. -/
  sha256LowerHex : String → String

/-- A server on the blank host. -/
@[reducible] def ServerHost.blank : ServerHost where
  toHost := Host.blank
  parseRfc3339Millis text := if text = "1970-01-01T00:00:00Z" then some 0 else none
  recentRuntimePresenceWindowMs := 0
  decodeAnnounceCapabilities _ := []
  classifyDeliveryMode
    | some _, some _ => .error "topic and destination are both given"
    | some _, none => .ok .fanout
    | none, some _ => .ok .targeted
    | none, none => .ok .broadcast
  base64DecodeError _ := "Invalid padding"
  decodeMsgpack _ := .error "protocol decode failed"
  directLxmfTelemetry _ _ := none
  directLxmfAttachments _ := []
  decodeAnnounce _ := .error "missing field"
  fileName name := some name
  fileExtension _ := none
  attachmentStoragePath category := category
  sha256LowerHex text := text

/-- `ApiError`, as far as the handlers here raise it. -/
inductive ApiError where
  | badRequest (detail : String)
  | unauthorized (detail : String)
  | notFound (detail : String)
  | conflict (detail : String)
  | serviceUnavailable (detail : String)
  | internal (detail : String)
  deriving DecidableEq

/-- `ApiError::to_string`. -/
def ApiError.text : ApiError → String
  | badRequest detail | unauthorized detail | notFound detail | conflict detail | serviceUnavailable detail
  | internal detail => detail

/-- The server's `ClientRecord`. -/
structure RosterClient where
  identity : String
  firstSeen : String
  lastSeen : String
  displayName : Option String
  metadata : Value
  clientType : String
  announceCapabilities : List String
  remMode : Option String
  isRemCapable : Bool
  nickname : Option String
  role : String
  paused : Bool
  textOnly : Bool
  lastChatTsMs : Option Int

/-- The server's `SubscriberRecord`. -/
structure TopicSubscriber where
  subscriberId : String
  destination : String
  topicId : String
  rejectTests : Option Int
  metadata : Value

/-- The server's `TopicRecord`. -/
structure TopicEntry where
  topicId : String
  topicName : String
  topicPath : String
  topicDescription : String
  deriving DecidableEq

/-- The rows of the database. The tables of the registry are the maps of a core. -/
structure SqliteStore where
  topics : List TopicRecord := []
  subscribers : List SubscriberRecord := []
  clients : List ClientRecord := []
  messages : List MessageRecord := []
  systemEvents : List SystemEventRecord := []
  telemetryRecords : List TelemetryRecord := []
  fileAttachments : List FileAttachmentRecord := []
  identityAnnounces : List IdentityAnnounceRecord := []
  identityStates : List IdentityStateRecord := []
  identityRemModes : List IdentityRemModeRecord := []
  registry : RchCore := .new
  /-- The setting `reticulumd_event_cursor`. -/
  eventCursor : String := ""

/-! ## The data plane

The transport the messages are handed to. What it answers is an input; what it has
been asked is kept in the world, so that a statement can speak of it. -/

/-- `LxmfSdkOutboundBatchError`. -/
structure BatchError where
  code : String
  message : String
  category : Option String
  retryable : Bool

/-- A recipient of a batch: its destination and the id its copy of the message has. -/
structure Recipient where
  destination : String
  correlationId : String

/-- The answer for one recipient. -/
inductive RecipientAnswer where
  | accepted (messageId : String)
  | rejected (error : Option BatchError)

/-- `LxmfSdkOutboundBatchResult`. -/
structure BatchResult where
  id : String
  messageId : String
  destination : String
  accepted : Bool
  error : Option BatchError

/-- The result a recipient's answer is reported as. -/
def Recipient.result (recipient : Recipient) : RecipientAnswer → BatchResult
  | .accepted messageId => ⟨recipient.correlationId, messageId, recipient.destination, true, none⟩
  | .rejected error => ⟨recipient.correlationId, recipient.correlationId, recipient.destination, false, error⟩

/-- What the data plane answers to a call. -/
structure DataPlane where
  sendBatch : List Recipient → Except String (Recipient → RecipientAnswer)
  sendMessage : Recipient → Except String String

/-- A data plane that cannot be reached. -/
def DataPlane.unreachable : DataPlane := ⟨fun _ => .error "connection refused", fun _ => .error "connection refused"⟩

/-- A call the data plane has had, and its outcome. -/
structure Sending where
  messageId : String
  recipients : List Recipient
  outcome : Except String (List BatchResult)

/-- `lxmf_zmq_command_endpoint`, `lxmf_zmq_response_endpoint` and `lxmf_zmq_data_plane`. -/
inductive DataPlaneSetting where
  | notConfigured
  | unavailable
  | connected
  deriving DecidableEq

/-! ## The server -/

/-- `OutboundDeliveryDecision`. -/
structure DeliveryDecision where
  method : String
  reason : String
  deriving DecidableEq

/-- `AppState`, with the files its handlers have written. -/
structure AppState where
  topics : Dict String TopicEntry := ∅
  subscribers : Dict String TopicSubscriber := ∅
  clients : Dict String RosterClient := ∅
  identityStates : Dict String IdentityStateRecord := ∅
  messages : List OutboundMessageRecord := []
  systemEvents : List SystemEventRecord := []
  telemetryRecords : List TelemetryRecord := []
  reticulumdSource : Option String := none
  outboundIdentityAllowlist : Option (HSet String) := none
  dataPlane : DataPlaneSetting := .notConfigured
  /-- The kill switch is deleting or has completed. -/
  persistenceLocked : Bool := false
  sqlite : Option SqliteStore := none
  files : List String := []

/-- The server with the clock readings, the UUIDs, the answers and the decisions of the
delivery policy still to come, and the calls it has made. -/
structure ServerWorld where
  state : AppState
  clock : Nat → Instant
  draws : Nat → Uuid
  answers : Nat → DataPlane := fun _ => .unreachable
  decisions : Nat → DeliveryDecision := fun _ => ⟨"direct", "fresh_presence"⟩
  sent : List Sending := []

/-- A world at the Unix epoch whose clock stands still. -/
def ServerWorld.atEpoch (state : AppState) : ServerWorld :=
  { state, clock := fun _ => ⟨0, "1970-01-01T00:00:00Z"⟩, draws := Uuid.ofNat }

/-- A handler on the shared state. -/
abbrev ServerM (α : Type) : Type := Proc ApiError ServerWorld α

namespace ServerM

/-- The state, read. -/
def state : ServerM AppState := do return (← get).state

/-- A write to the state. -/
def update (f : AppState → AppState) : ServerM Unit := modify fun w => { w with state := f w.state }

end ServerM

open ServerM

/-- `unix_now_ms`. -/
def unixNowMs : ServerM Int := fun w =>
  (.ok (w.clock 0).timestampMillis, { w with clock := fun n => w.clock (n + 1) })

/-- A method of a core the handler holds: its result, and the core after it. -/
def onCore {α : Type} (core : RchCore) (m : CoreM α) : ServerM (Except RchCoreError α × RchCore) := fun w =>
  let after := m.run ⟨core, w.clock, w.draws⟩
  (.ok (after.1, after.2.core), { w with clock := after.2.clock, draws := after.2.draws })

/-- `Uuid::new_v4().simple().to_string()`. -/
def newEventId : ServerM String := fun w =>
  (.ok (w.draws 0).simple, { w with draws := fun n => w.draws (n + 1) })

/-- A call of the data plane. -/
def callDataPlane (messageId : String) (recipients : List Recipient)
    (call : DataPlane → Except String (List BatchResult)) : ServerM (Except String (List BatchResult)) := fun w =>
  let outcome := call (w.answers 0)
  (.ok outcome,
    { w with
      answers := fun n => w.answers (n + 1)
      sent := w.sent ++ [⟨messageId, recipients, outcome⟩] })

/-- `data_plane.send_batch(batch)`. -/
def sendBatch (messageId : String) (recipients : List Recipient) : ServerM (Except String (List BatchResult)) :=
  callDataPlane messageId recipients fun plane =>
    (plane.sendBatch recipients).map fun answer => recipients.map fun recipient => recipient.result (answer recipient)

/-- `data_plane.send_message(message)`: an answer is an acceptance. -/
def sendMessage (messageId : String) (recipient : Recipient) : ServerM (Except String (List BatchResult)) :=
  callDataPlane messageId [recipient] fun plane =>
    (plane.sendMessage recipient).map fun accepted => [recipient.result (.accepted accepted)]

/-- `ensure_kill_switch_persistence_unlocked`. -/
def ensureKillSwitchPersistenceUnlocked : ServerM Unit := do
  if (← state).persistenceLocked then
    throw (.serviceUnavailable "RCH persistence is locked by kill switch purge")
  return ()

/-- `with_core_store_write`. -/
def withCoreStoreWrite (operation : SqliteStore → SqliteStore) : ServerM Unit := do
  ensureKillSwitchPersistenceUnlocked
  update fun s => { s with sqlite := s.sqlite.map operation }

/-- `upsert_message`: the row moves to the end. -/
def SqliteStore.upsertMessage (record : MessageRecord) (store : SqliteStore) : SqliteStore :=
  { store with messages := store.messages.filter (·.messageId != record.messageId) ++ [record] }

/-- `upsert_system_event`: the last 200 rows stay. -/
def SqliteStore.upsertSystemEvent (record : SystemEventRecord) (store : SqliteStore) : SqliteStore :=
  let rows := store.systemEvents.filter (·.eventId != record.eventId) ++ [record]
  { store with systemEvents := rows.drop (rows.length - 200) }

/-- `load_identity_announces`. -/
def SqliteStore.loadIdentityAnnounces (store : SqliteStore) : List IdentityAnnounceRecord :=
  sortBy (fun left right => compare left.destinationHash right.destinationHash) store.identityAnnounces

/-- `load_identity_rem_modes`. -/
def SqliteStore.loadIdentityRemModes (store : SqliteStore) : List IdentityRemModeRecord :=
  sortBy (fun left right => compare left.identity right.identity) store.identityRemModes

/-- `load_identity_announces_for_state`. -/
def AppState.loadIdentityAnnounces (s : AppState) : List IdentityAnnounceRecord :=
  (s.sqlite.map SqliteStore.loadIdentityAnnounces).getD []

/-- `upsert_identity_announces`, one row of it. -/
def SqliteStore.upsertIdentityAnnounce (store : SqliteStore) (record : IdentityAnnounceRecord) : SqliteStore :=
  { store with
    identityAnnounces :=
      store.identityAnnounces.filter (·.destinationHash != record.destinationHash) ++ [record] }

/-- `upsert_identity_states`, one row of it. -/
def SqliteStore.upsertIdentityState (store : SqliteStore) (record : IdentityStateRecord) : SqliteStore :=
  { store with
    identityStates := store.identityStates.filter (·.identity != record.identity) ++ [record] }

/-- `persist_outbound_message_row`. -/
def persistOutboundMessageRow (message : OutboundMessageRecord) : ServerM Unit :=
  withCoreStoreWrite (·.upsertMessage message)

/-- `persist_system_event_row`. -/
def persistSystemEventRow (event : SystemEventRecord) : ServerM Unit :=
  withCoreStoreWrite (·.upsertSystemEvent event)

/-- The event list after one more event: the oldest beyond 200 go. -/
def pushSystemEvent (events : List SystemEventRecord) (event : SystemEventRecord) :
    List SystemEventRecord :=
  (events ++ [event]).drop ((events ++ [event]).length - 200)

/-- `record_system_event`. -/
def recordSystemEvent (eventType message : String) (metadata : Value) : ServerM SystemEventRecord := do
  let eventId ← newEventId
  let timestampMs ← unixNowMs
  let event : SystemEventRecord := { eventId, eventType, message, timestampMs, metadata }
  update fun s => { s with systemEvents := pushSystemEvent s.systemEvents event }
  persistSystemEventRow event
  return event

end TelemetryHub
