import TelemetryHub.Server.Attachments
import TelemetryHub.Server.Commands

/-!
# Inbound envelopes

What the hub does with an envelope: a topic message is kept and relayed, telemetry is
kept, a command is carried out. That it has been processed is known by the event that
is recorded of it last.
-/

namespace TelemetryHub

open Lib ServerM

/-! ## Known envelopes -/

/-- The key an envelope is recognised by. -/
def ProtocolEnvelope.key (envelope : ProtocolEnvelope) : Option String :=
  (envelope.dedupeKey.map trim).filter fun value => !value.isEmpty

/-- The key of the envelope an event was recorded of. -/
def SystemEventRecord.dedupeKey (event : SystemEventRecord) : Option String :=
  (event.metadata.get "dedupe_key").bind Value.asStr

/-- `reticulumd_inbound_was_already_processed`. -/
def AppState.inboundWasAlreadyProcessed (s : AppState) (envelope : ProtocolEnvelope) : Bool :=
  envelope.key.any fun key => s.systemEvents.any fun event => event.dedupeKey == some key

/-! ## Topic messages -/

/-- `GROUP_CHAT_INBOUND_TEXT_MAX_CHARS`. -/
def groupChatInboundTextMaxChars : Nat := 500

/-- `sanitize_group_chat_text`. -/
def sanitizeGroupChatText (body : String) : Except String String :=
  let trimmed := trim body
  if trimmed.isEmpty then .error "message is empty"
  else if groupChatInboundTextMaxChars < trimmed.length then .error "message exceeds 500 characters"
  else .ok (String.ofList (trimmed.toList.map fun c =>
    if isControl c ∧ c ≠ '\t' ∧ c ≠ '\n' ∧ c ≠ '\r' then '?' else c))

/-- The mode a message counts as, by where its envelope goes. -/
def Destination.deliveryMode : Destination → DeliveryMode
  | node _ => .targeted
  | topic _ => .fanout
  | broadcast => .broadcast

/-- The node an envelope goes to. -/
def Destination.nodeId : Destination → Option String
  | node nodeId => some nodeId
  | topic _ | broadcast => none

/-- The record of an inbound message. -/
def inboundRecord (envelope : ProtocolEnvelope) (message : TopicMessage) (sanitizedBody : String)
    (attachments : List ChatAttachmentRecord) : OutboundMessageRecord where
  messageId := envelope.id.hyphenated
  topicId := some envelope.topic
  destination := envelope.destination.nodeId
  sender := envelope.source
  content := sanitizedBody
  deliveryMode := envelope.destination.deliveryMode
  deliveryMethod := "reticulumd_inbound"
  deliveryPolicyReason := "reticulumd_poll"
  deliveryState := "received"
  deliveryMetadata := .object [
    ("direction", toValue "inbound"),
    ("source", toValue envelope.source),
    ("content_type", toValue message.contentType),
    ("correlation_id", toValue message.correlationId),
    ("reticulumd_inbound", toValue true),
    ("attachment_count", toValue attachments.length)]
  createdTsMs := envelope.timestamp.timestampMillis
  attachments

/-- The list after one more inbound message: the oldest beyond 500 go, whatever they are. -/
def pushInbound (messages : List OutboundMessageRecord) (record : OutboundMessageRecord) :
    List OutboundMessageRecord :=
  (messages ++ [record]).drop ((messages ++ [record]).length - 500)

section

variable [ServerHost]

/-- `record_inbound_topic_message`. -/
def recordInboundTopicMessage (envelope : ProtocolEnvelope) (message : TopicMessage) (sanitizedBody : String) :
    ServerM OutboundMessageRecord := do
  let attachments ← storeInboundTopicAttachments envelope.topic message.attachments
  let record := inboundRecord envelope message sanitizedBody attachments
  update fun s => { s with messages := pushInbound s.messages record }
  persistOutboundMessageRow record
  return record

omit [ServerHost] in
/-- Sorted, and each once. -/
def sortedUnique (destinations : List String) : List String := (sortBy compare destinations).eraseDups

/-- `active_generic_lxmf_relay_destinations`. -/
def activeGenericLxmfRelayDestinations (source : String) : ServerM (List String) := do
  let now ← unixNowMs
  let sourceKey := normalizeIdentityKey source
  let active (client : RosterClient) : Option String :=
    (normalizeIdentityKey client.identity).filter fun identity =>
      sourceKey != some identity && !client.paused &&
        (ServerHost.parseRfc3339Millis client.lastSeen).any fun lastSeen =>
          decide (now - ServerHost.recentRuntimePresenceWindowMs ≤ lastSeen)
  return sortedUnique ((← state).clients.values.filterMap active)

/-- `active_direct_subscriber_relay_destinations`. -/
def activeDirectSubscriberRelayDestinations (source : String) (subscribers : List String) : ServerM (List String) := do
  let now ← unixNowMs
  let announces := (← state).loadIdentityAnnounces
  let announced (destination : String) : Bool :=
    announces.any fun record =>
      decide (now - Host.recentAnnounceWindowMs ≤ record.lastSeenTsMs) &&
        identityAnnounceMatchesDestination record destination
  return sortedUnique ((normalizedKeys subscribers).filter fun destination =>
    normalizeIdentityKey source != some destination && announced destination)

/-- Whom a topic message is relayed to: the destinations, and whether they are the active
ones of the topic `direct`. -/
def relayDestinations (source topicId : String) (subscribed : List String) : ServerM (List String × Bool) := do
  if !eqIgnoreAsciiCase (trim topicId) "direct" then return (subscribed, false)
  let activeSubscribers ← activeDirectSubscriberRelayDestinations source subscribed
  if !activeSubscribers.isEmpty then return (activeSubscribers, true)
  let activeDestinations ← activeGenericLxmfRelayDestinations source
  if activeDestinations.isEmpty then return (subscribed, false)
  return (activeDestinations, true)

/-- `relay_reticulumd_inbound_topic_message`. -/
def relayReticulumdInboundTopicMessage (envelope : ProtocolEnvelope) (message : TopicMessage)
    (inbound : OutboundMessageRecord) : ServerM Unit := do
  let topicId := envelope.topic
  let source := envelope.source
  let subscribed := ((← state).topicSubscriberDestinations topicId).filter fun destination => destination != source
  let isDirectTopic := eqIgnoreAsciiCase (trim topicId) "direct"
  let (destinations, directActiveRelay) ← relayDestinations source topicId subscribed
  if destinations.isEmpty then return ()
  let destinations := sortedUnique destinations
  let content := (← state).relaySenderDisplayName source ++ " > " ++ inbound.content
  let relay ← recordOutboundMessageWithMetadata content (some topicId) none [] true (.object [
    ("reticulumd_inbound_relay", toValue true),
    ("reticulumd_inbound_default_direct_relay", toValue (subscribed.isEmpty && isDirectTopic)),
    ("reticulumd_inbound_direct_active_relay", toValue directActiveRelay),
    ("inbound_message_id", toValue inbound.messageId),
    ("source", toValue source),
    ("direction", toValue "outbound"),
    ("exclude_destinations", toValue [source]),
    ("target_destinations", if isDirectTopic then toValue destinations else .null),
    ("content_type", toValue message.contentType),
    ("correlation_id", toValue message.correlationId)])
  let _ ← recordSystemEvent "reticulumd_inbound_topic_relay" "Inbound Reticulum topic message relayed to subscribers"
    (.object [
      ("inbound_message_id", toValue inbound.messageId),
      ("relay_message_id", toValue relay.messageId),
      ("topic_id", toValue topicId),
      ("source", toValue source),
      ("recipient_count", toValue destinations.length),
      ("recipients", toValue destinations)])
  return ()

/-- The arm of a topic message that is no command. -/
def processTopicMessage (envelope : ProtocolEnvelope) (message : TopicMessage) : ServerM Unit := do
  match sanitizeGroupChatText message.body with
  | .error reason => do
    let _ ← sendReticulumdInboundTextReply envelope.source envelope.topic
      ⟨"message.reject", .object [], message.correlationId⟩ ("message rejected: " ++ reason)
    return ()
  | .ok sanitizedBody => do
    let inbound ← recordInboundTopicMessage envelope message sanitizedBody
    touchReticulumdInboundClient envelope.source true
    relayReticulumdInboundTopicMessage envelope message inbound
    let _ ← recordSystemEvent "reticulumd_inbound_topic_message" message.body (reticulumdInboundEnvelopeMetadata envelope)
    return ()

/-! ## Telemetry -/

omit [ServerHost] in
/-- `telemetry_identity_key`. -/
def telemetryIdentityKey (identity : String) : Option String := normalizeIdentityKey identity

omit [ServerHost] in
/-- The two records are of one peer. -/
def samePeer (peerKey : String) (existing : TelemetryRecord) : Bool :=
  telemetryIdentityKey existing.peerDestination == some peerKey

omit [ServerHost] in
/-- The source is the hub's own. -/
def AppState.isOwnSource (s : AppState) (peerDestination : String) : Bool :=
  (s.reticulumdSource.bind telemetryIdentityKey).any fun sourceKey => telemetryIdentityKey peerDestination == some sourceKey

omit [ServerHost] in
/-- The record of the peer that is kept instead of an older one. -/
def newerTelemetry (records : List TelemetryRecord) (record : TelemetryRecord) : Option TelemetryRecord :=
  (telemetryIdentityKey record.peerDestination).bind fun peerKey =>
    (records.find? (samePeer peerKey)).filter fun existing => decide (record.timestampS < existing.timestampS)

omit [ServerHost] in
/-- The records after one more: the peer's others go. -/
def withTelemetry (records : List TelemetryRecord) (record : TelemetryRecord) : List TelemetryRecord :=
  (match telemetryIdentityKey record.peerDestination with
    | some peerKey => records.filter fun existing => !samePeer peerKey existing
    | none => records) ++ [record]

omit [ServerHost] in
/-- `record_telemetry`, without a display name. -/
def recordTelemetry (peerDestination : String) (telemetry : Value) (timestampS : Int) : ServerM TelemetryRecord := do
  let record : TelemetryRecord :=
    { peerDestination, timestampS, telemetry, displayName := none, identityLabel := none }
  if (← state).isOwnSource peerDestination then return record
  match newerTelemetry (← state).telemetryRecords record with
  | some existing => return existing
  | none => do
    update fun s => { s with telemetryRecords := withTelemetry s.telemetryRecords record }
    persistTelemetryRecordRow record
    return record

/-! ## The envelope -/

/-- A command, and the event of it. -/
def processCommandPayload (envelope : ProtocolEnvelope) (command : ProtocolCommand)
    (commandSource : List (String × Value)) : ServerM Unit := do
  processReticulumdInboundCommand envelope command
  let metadata := commandSource.foldl (fun metadata entry => metadata.insert entry.1 entry.2)
    ((reticulumdInboundEnvelopeMetadata envelope).insert "command" (toValue command))
  let _ ← recordSystemEvent "reticulumd_inbound_command" command.name metadata
  return ()

/-- What is done with a payload. -/
def processPayload (envelope : ProtocolEnvelope) : ServerM Unit :=
  match envelope.payload with
  | .topicMessage message =>
    match plainLxmfCommandFromMessageBody message.body with
    | some command => processCommandPayload envelope command [("command_source", toValue "plain_lxmf_text")]
    | none => processTopicMessage envelope message
  | .healthTelemetry telemetry => do
    let _ ← recordTelemetry envelope.source (toValue telemetry) (telemetry.observedAt.timestampMillis / 1000)
    let _ ← recordSystemEvent "reticulumd_inbound_health_telemetry"
      "Inbound R3AKT health telemetry received from reticulumd" (reticulumdInboundEnvelopeMetadata envelope)
    return ()
  | .telemetrySample telemetry => do
    let _ ← recordTelemetry envelope.source telemetry.telemetry
      (telemetry.timestampS.getD (envelope.timestamp.timestampMillis / 1000))
    let _ ← recordSystemEvent "reticulumd_inbound_lxmf_telemetry" "Inbound LXMF telemetry received from reticulumd"
      (reticulumdInboundEnvelopeMetadata envelope)
    return ()
  | .command command => processCommandPayload envelope command []
  | .nodeHello _ | .heartbeat _ | .ackAccepted _ | .ackRejected _ | .ackCompleted _ => do
    let _ ← recordSystemEvent "reticulumd_inbound_envelope" "Inbound R3AKT envelope received from reticulumd"
      ((reticulumdInboundEnvelopeMetadata envelope).insert "payload" (toValue envelope.payload))
    return ()

/-- `process_reticulumd_inbound_envelope`. -/
def processReticulumdInboundEnvelope (envelope : ProtocolEnvelope) : ServerM Unit := do
  if (← state).inboundWasAlreadyProcessed envelope then return ()
  touchReticulumdInboundClient envelope.source false
  processPayload envelope

end
end TelemetryHub
