import TelemetryHub.Json
import TelemetryHub.Core.Records

/-!
# Protocol envelopes

`ProtocolEnvelope` and its payloads, and what a message of the daemon is decoded to.
-/

namespace TelemetryHub

/-- `Uuid::to_string`. -/
def Uuid.hyphenated (u : Uuid) : String :=
  String.ofList (u.digits.take 8 ++ ['-'] ++ (u.digits.drop 8).take 4 ++ ['-'] ++ (u.digits.drop 12).take 4 ++
    ['-'] ++ (u.digits.drop 16).take 4 ++ ['-'] ++ u.digits.drop 20)

/-- `Destination`. -/
inductive Destination where
  | node (nodeId : String)
  | topic (topic : String)
  | broadcast
  deriving DecidableEq

/-- `HealthStatus`. -/
inductive HealthStatus where
  | nominal
  | degraded
  | offline
  deriving DecidableEq

/-- `TelemetryMetric`. -/
structure TelemetryMetric where
  name : String
  value : Float
  unit : String

/-- `NodeHello`. -/
structure NodeHello where
  displayName : String
  capabilities : List String

/-- `Heartbeat`. -/
structure Heartbeat where
  status : HealthStatus
  sequence : Nat

/-- `HealthTelemetry`. -/
structure HealthTelemetry where
  status : HealthStatus
  metrics : List TelemetryMetric
  observedAt : Instant

/-- `TelemetrySample`. -/
structure TelemetrySample where
  telemetry : Value
  timestampS : Option Int

/-- `TopicAttachment`. -/
structure TopicAttachment where
  name : String
  data : List UInt8
  mediaType : Option String
  category : String

/-- `TopicMessage`. -/
structure TopicMessage where
  body : String
  contentType : String
  correlationId : Option String
  attachments : List TopicAttachment

/-- `r3akt_protocol::Command`. -/
structure ProtocolCommand where
  name : String
  args : Value
  correlationId : Option String

/-- `Ack`. -/
structure Ack where
  envelopeId : Uuid
  detail : Option String
  correlationId : Option String

/-- `Payload`. -/
inductive Payload where
  | nodeHello (hello : NodeHello)
  | heartbeat (beat : Heartbeat)
  | healthTelemetry (telemetry : HealthTelemetry)
  | telemetrySample (telemetry : TelemetrySample)
  | topicMessage (message : TopicMessage)
  | command (command : ProtocolCommand)
  | ackAccepted (ack : Ack)
  | ackRejected (ack : Ack)
  | ackCompleted (ack : Ack)

/-- `ProtocolEnvelope`, with the fields the hub reads. -/
structure ProtocolEnvelope where
  id : Uuid
  dedupeKey : Option String
  source : String
  destination : Destination
  topic : String
  timestamp : Instant
  ttlSeconds : Nat
  payload : Payload

/-- `correlation_id`. -/
def ProtocolEnvelope.correlationId (envelope : ProtocolEnvelope) : Option String :=
  match envelope.payload with
  | .topicMessage message => message.correlationId
  | .command command => command.correlationId
  | .ackAccepted ack | .ackRejected ack | .ackCompleted ack => ack.correlationId
  | .nodeHello _ | .heartbeat _ | .healthTelemetry _ | .telemetrySample _ => none

/-! ## As JSON -/

instance : ToValue HealthStatus :=
  ⟨fun
    | .nominal => .string "Nominal"
    | .degraded => .string "Degraded"
    | .offline => .string "Offline"⟩

instance : ToValue TelemetryMetric :=
  ⟨fun metric => .object [("name", toValue metric.name), ("value", toValue metric.value), ("unit", toValue metric.unit)]⟩

instance : ToValue HealthTelemetry :=
  ⟨fun telemetry => .object [
    ("status", toValue telemetry.status), ("metrics", toValue telemetry.metrics),
    ("observed_at", toValue telemetry.observedAt.rfc3339)]⟩

instance : ToValue ProtocolCommand :=
  ⟨fun command => .object [
    ("name", toValue command.name), ("args", command.args), ("correlation_id", toValue command.correlationId)]⟩

instance : ToValue Ack :=
  ⟨fun ack => .object [
    ("envelope_id", toValue ack.envelopeId.hyphenated), ("detail", toValue ack.detail),
    ("correlation_id", toValue ack.correlationId)]⟩

instance : ToValue TopicAttachment :=
  ⟨fun attachment => .object [
    ("name", toValue attachment.name), ("data", toValue (attachment.data.map UInt8.toNat)),
    ("media_type", toValue attachment.mediaType), ("category", toValue attachment.category)]⟩

instance : ToValue Payload :=
  ⟨fun
    | .nodeHello hello => .object [("NodeHello", .object [
        ("display_name", toValue hello.displayName), ("capabilities", toValue hello.capabilities)])]
    | .heartbeat beat => .object [("Heartbeat", .object [
        ("status", toValue beat.status), ("sequence", toValue beat.sequence)])]
    | .healthTelemetry telemetry => .object [("HealthTelemetry", toValue telemetry)]
    | .telemetrySample telemetry => .object [("TelemetrySample", .object [
        ("telemetry", telemetry.telemetry), ("timestamp_s", toValue telemetry.timestampS)])]
    | .topicMessage message => .object [("TopicMessage", .object [
        ("body", toValue message.body), ("content_type", toValue message.contentType),
        ("correlation_id", toValue message.correlationId), ("attachments", toValue message.attachments)])]
    | .command command => .object [("Command", toValue command)]
    | .ackAccepted ack => .object [("AckAccepted", toValue ack)]
    | .ackRejected ack => .object [("AckRejected", toValue ack)]
    | .ackCompleted ack => .object [("AckCompleted", toValue ack)]⟩

/-- `protocol_destination_payload`. -/
def protocolDestinationPayload : Destination → Value
  | .node nodeId => .object [("kind", toValue "node"), ("value", toValue nodeId)]
  | .topic topic => .object [("kind", toValue "topic"), ("value", toValue topic)]
  | .broadcast => .object [("kind", toValue "broadcast"), ("value", toValue "broadcast")]

/-- `reticulumd_inbound_envelope_metadata`. -/
def reticulumdInboundEnvelopeMetadata (envelope : ProtocolEnvelope) : Value :=
  .object [
    ("source", toValue envelope.source),
    ("destination", protocolDestinationPayload envelope.destination),
    ("topic", toValue envelope.topic),
    ("envelope_id", toValue envelope.id.hyphenated),
    ("dedupe_key", toValue envelope.dedupeKey),
    ("timestamp", toValue envelope.timestamp.rfc3339),
    ("ttl_seconds", toValue envelope.ttlSeconds),
    ("correlation_id", toValue envelope.correlationId)]

/-! ## Events of the daemon -/

/-- `ReticulumdAnnounceRecord`, as far as the import reads it. -/
structure ReticulumdAnnounce where
  id : String
  peer : String
  timestamp : Int
  aspect : Option String := none
  name : Option String := none
  nameSource : Option String := none
  firstSeen : Int
  appDataHex : Option String := none
  capabilities : List String := []
  interface : Option String := none

/-- `ReticulumdEventRecord`, as far as the hub reads it. -/
structure ReticulumdEvent where
  eventId : String
  eventType : String
  messageId : Option String := none
  payload : Value := .null

/-- `ReticulumdEventBatch`, as far as the hub reads it. -/
structure ReticulumdEventBatch where
  events : List ReticulumdEvent := []
  nextCursor : Option String := none

end TelemetryHub
