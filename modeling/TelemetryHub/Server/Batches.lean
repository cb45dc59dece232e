import TelemetryHub.Server.Inbound

/-!
# Batches of events

What the daemon delivers is decoded, the announces are imported and the envelopes
processed one after another, and the cursor of the stream is saved when all of it is
done. A message whose command field is malformed is set aside, any other that does not
decode ends the batch.
-/

namespace TelemetryHub

open Lib ServerM

/-! ## Decoding a message -/

/-- `DirectLxmfCommandResult`. -/
inductive DirectLxmfCommandResult where
  | noCommand
  | valid (command : ProtocolCommand)
  | malformed (reason : String)

/-- `optional_field_value`. -/
def optionalFieldValue (fields : List (String × Value)) (keys : List String) : Option Value :=
  keys.findSome? fun key =>
    (fields.lookup key).or ((fields.find? fun field => eqIgnoreAsciiCase field.1 key).map Prod.snd)

/-- `optional_field_string`. -/
def optionalFieldString (fields : List (String × Value)) (keys : List String) : Option String :=
  (((optionalFieldValue fields keys).bind Value.asStr).map trim).filter fun value => !value.isEmpty

/-- `optional_message_string`. -/
def optionalMessageString (message : Value) (keys : List String) : Option String :=
  ((keys.findSome? fun key => (message.get key).bind Value.asStr).map trim).filter fun value => !value.isEmpty

/-- The key of a command's entry that names it. -/
def commandSelector (command : Value) : Option String :=
  ["command_type", "Command", "0"].find? command.containsKey

/-- The arguments of a command's entry. -/
def directCommandArgs (selector : String) (command : Value) : Value :=
  if selector = "command_type" then ((command.get "args").filter Value.isObject).getD (.object [])
  else
    let explicitArgs : Value :=
      match command.get "args" with
      | some (.object fields) => .object fields
      | some value => .object [("args", value)]
      | none => .object []
    ((command.asObject.getD []).filter fun field => !(["Command", "0", "command_id", "args"].contains field.1)).foldl
      (fun args field => args.insert field.1 field.2) explicitArgs

/-- `direct_lxmf_command` of an entry. -/
def directLxmfCommandEntry (command : Value) : DirectLxmfCommandResult :=
  if !command.isObject then .malformed "first field 0x09 command entry must be an object"
  else match commandSelector command with
    | none => .malformed "first field 0x09 command entry has no command_type, Command, or 0 selector"
    | some selector =>
      match (((command.get selector).bind Value.asStr).map trim).filter fun value => !value.isEmpty with
      | none => .malformed ("field 0x09 selector \"" ++ selector ++ "\" must be a non-empty string")
      | some name => .valid {
          name
          args := directCommandArgs selector command
          correlationId := (((command.get "command_id").bind Value.asStr).map trim).filter fun value => !value.isEmpty }

/-- `direct_lxmf_command`. -/
def directLxmfCommand (fields : Option (List (String × Value))) : DirectLxmfCommandResult :=
  match fields.bind fun fields => optionalFieldValue fields ["9", "FIELD_COMMANDS"] with
  | none => .noCommand
  | some (.array []) => .malformed "field 0x09 command list is empty"
  | some (.array (command :: _)) => directLxmfCommandEntry command
  | some command => directLxmfCommandEntry command

/-- `ProtocolEnvelope::new`: a fresh id and the time. -/
def newEnvelope (source : String) (destination : Destination) (topic : String) (payload : Payload)
    (dedupeKey : Option String) : ServerM ProtocolEnvelope := fun w =>
  (.ok { id := w.draws 0, dedupeKey, source, destination, topic, timestamp := w.clock 0, ttlSeconds := 300, payload },
    { w with clock := fun n => w.clock (n + 1), draws := fun n => w.draws (n + 1) })

section

variable [ServerHost]

/-- `direct_lxmf_fallback_envelope`. -/
def directLxmfFallbackEnvelope (fields : Option (List (String × Value))) (message : Value)
    (source localSource : String) : ServerM (Option ProtocolEnvelope) := do
  let dedupeKey := (((message.get "id").bind Value.asStr).getD localSource)
  match ServerHost.directLxmfTelemetry fields message with
  | some telemetry => do
    let envelope ← newEnvelope source (.topic "telemetry") "telemetry" (.telemetrySample telemetry) (some dedupeKey)
    return some envelope
  | none =>
    let attachments := ServerHost.directLxmfAttachments fields
    let content := (optionalMessageString message ["content", "text", "body"]).getD ""
    if content.isEmpty && attachments.isEmpty then return none
    let field (keys : List String) : Option String := fields.bind fun fields => optionalFieldString fields keys
    let topic := ((field ["TopicID", "topic_id", "topic", "Topic"]).or
      (optionalMessageString message ["topic", "topic_id", "TopicID"])).getD "direct"
    let contentType := ((optionalMessageString message ["content_type", "contentType"]).or
      (field ["content_type", "contentType"])).getD "text/plain"
    let correlationId := (optionalMessageString message ["correlation_id", "correlationId"]).or
      (field ["correlation_id", "correlationId"])
    let envelope ← newEnvelope source (.topic topic) topic
      (.topicMessage { body := content, contentType, correlationId, attachments }) (some dedupeKey)
    return some envelope

omit [ServerHost] in
/-- `TransportError::Receive`. -/
def receiveError (text : String) : ApiError := .internal ("transport receive failed: " ++ text)

/-- `direct_lxmf_message_envelope`. -/
def directLxmfMessageEnvelope (message : Value) (localSource : String) : ServerM (Option ProtocolEnvelope) := do
  let fields := (message.get "fields").bind Value.asObject
  let source := (optionalMessageString message ["source", "source_hash", "source_id"]).getD "unknown"
  match directLxmfCommand fields with
  | .noCommand => directLxmfFallbackEnvelope fields message source localSource
  | .valid command => do
    let teamUid := fields.bind fun fields => optionalFieldString fields ["11", "FIELD_GROUP", "group", "Group"]
    let args := (teamUid.map fun teamUid => command.args.insert "_rem_team_uid" (toValue teamUid)).getD command.args
    let dedupeKey := ((message.get "id").bind Value.asStr).filter fun value => !(trim value).isEmpty
    let envelope ← newEnvelope source (.node localSource) "rem-directory" (.command { command with args }) dedupeKey
    return some envelope
  | .malformed reason =>
    let messageId := ((((message.get "id").bind Value.asStr).map trim).filter fun value => !value.isEmpty).getD "unknown"
    throw (receiveError ("malformed LXMF FIELD_COMMANDS (0x09) in message " ++ messageId ++ " from " ++ source ++ ": " ++ reason))

/-- `reticulumd_message_to_envelope`. -/
def reticulumdMessageToEnvelope (message : Value) (localSource : String) : ServerM (Option ProtocolEnvelope) := do
  match ((message.get "fields").bind fun fields => fields.get "r3akt_payload_b64").bind Value.asStr with
  | some payloadB64 => do
    let bytes ← Proc.orThrow (Host.base64Decode payloadB64) (receiveError (ServerHost.base64DecodeError payloadB64))
    let envelope ← ((ServerHost.decodeMsgpack bytes).mapError receiveError : Except ApiError ProtocolEnvelope)
    return some envelope
  | none => directLxmfMessageEnvelope message localSource

/-- `reticulumd_event_to_envelope`, of an inbound event. -/
def reticulumdEventToEnvelope (event : ReticulumdEvent) (localSource : String) : ServerM (Option ProtocolEnvelope) :=
  reticulumdMessageToEnvelope ((event.payload.get "message").getD event.payload) localSource

/-! ## Setting aside -/

omit [ServerHost] in
/-- `quarantine_was_recorded`. -/
def AppState.quarantineWasRecorded (s : AppState) (quarantineKey : String) : Bool :=
  s.systemEvents.any fun event =>
    event.eventType == "reticulumd_inbound_message_quarantined" &&
      (event.metadata.get "quarantine_key").bind Value.asStr == some quarantineKey

omit [ServerHost] in
/-- `is_malformed_field_commands_error`. -/
def isMalformedFieldCommandsError (error : String) : Bool := textContains error "malformed LXMF FIELD_COMMANDS (0x09)"

omit [ServerHost] in
/-- `message_id`. -/
def messageIdOf (message : Value) : Option String :=
  ["id", "message_id", "messageId"].findSome? fun key =>
    (((message.get key).bind Value.asStr).map trim).filter fun value => !value.isEmpty

omit [ServerHost] in
/-- `event_message_id`. -/
def eventMessageId (event : ReticulumdEvent) : Option String :=
  (event.messageId.filter fun value => !(trim value).isEmpty).or ((event.payload.get "message").bind messageIdOf)

/-- `message_quarantine_key`. -/
def messageQuarantineKey (message : Value) (source : String) : String :=
  match messageIdOf message with
  | some messageId => "message:" ++ source ++ ":" ++ messageId
  | none => "message:" ++ source ++ ":sha256:" ++ ServerHost.sha256LowerHex (Host.valueText message)

omit [ServerHost] in
/-- `quarantine_message`. -/
def quarantineMessage (quarantineKey source : String) (eventId messageId : Option String) (error : String) :
    ServerM Unit := do
  if (← state).quarantineWasRecorded quarantineKey then return ()
  recordSystemEventBestEffort "reticulumd_inbound_message_quarantined" "Malformed LXMF inbound message quarantined"
    (.object [
      ("quarantine_key", toValue quarantineKey),
      ("source", toValue source),
      ("event_id", toValue eventId),
      ("message_id", toValue messageId),
      ("error", toValue error)])

omit [ServerHost] in
/-- What is decoded is handed on; what is malformed is set aside, once. -/
def decodeOrQuarantine (quarantineKey source : String) (eventId messageId : Option String)
    (decode : ServerM (Option ProtocolEnvelope)) : ServerM (Option ProtocolEnvelope) := do
  if (← state).quarantineWasRecorded quarantineKey then return none
  match ← Proc.attempt decode with
  | .ok envelope => return envelope
  | .error error =>
    if !isMalformedFieldCommandsError error.text then throw (.internal error.text)
    quarantineMessage quarantineKey source eventId messageId error.text
    return none

/-- `decode_event_or_quarantine`. -/
def decodeEventOrQuarantine (event : ReticulumdEvent) (source : String) : ServerM (Option ProtocolEnvelope) :=
  decodeOrQuarantine ("event:" ++ event.eventId) source (some event.eventId) (eventMessageId event)
    (reticulumdEventToEnvelope event source)

/-- `decode_message_or_quarantine`. -/
def decodeMessageOrQuarantine (message : Value) (source : String) : ServerM (Option ProtocolEnvelope) :=
  decodeOrQuarantine (messageQuarantineKey message source) source none (messageIdOf message)
    (reticulumdMessageToEnvelope message source)

/-! ## The cursor -/

omit [ServerHost] in
/-- `save_reticulumd_event_cursor`. -/
def saveReticulumdEventCursor (cursor : String) : ServerM Unit := do
  let store ← Proc.orThrow (← state).sqlite (.serviceUnavailable "RCH SQLite state unavailable")
  update fun s => { s with sqlite := some { store with eventCursor := cursor } }

omit [ServerHost] in
/-- `clear_reticulumd_event_cursor`. -/
def clearReticulumdEventCursor : ServerM Unit :=
  update fun s => { s with sqlite := s.sqlite.map fun store => { store with eventCursor := "" } }

/-! ## A batch -/

/-- What the loop over a batch collects. -/
structure BatchPass where
  announces : List ReticulumdAnnounce := []
  envelopes : List ProtocolEnvelope := []

/-- One round of the loop over a batch. -/
def collectEvent (source : String) (pass : BatchPass) (event : ReticulumdEvent) : ServerM BatchPass := do
  if event.eventType = "announce_received" then do
    let announce ← ((ServerHost.decodeAnnounce event.payload).mapError .internal : Except ApiError ReticulumdAnnounce)
    return { pass with announces := pass.announces ++ [announce] }
  else if event.eventType = "inbound" ∨ event.eventType = "InboundMessageReceived" then do
    let envelope ← decodeEventOrQuarantine event source
    return { pass with envelopes := pass.envelopes ++ envelope.toList }
  else return pass

/-- `process_reticulumd_event_batch`. -/
def processReticulumdEventBatch (source : String) (batch : ReticulumdEventBatch) : ServerM (Option String) := do
  let pass ← batch.events.foldlM (collectEvent source) {}
  let _ ← importReticulumdAnnounceBatch pass.announces true
  pass.envelopes.forM processReticulumdInboundEnvelope
  match batch.nextCursor with
  | some cursor => saveReticulumdEventCursor cursor
  | none => clearReticulumdEventCursor
  return batch.nextCursor

/-! ## Histories -/

/-- One message of the history: its envelope counts. -/
def recoverMessage (source : String) (recovered : Nat) (message : Value) : ServerM Nat := do
  match ← reticulumdMessageToEnvelope message source with
  | some envelope => do
    processReticulumdInboundEnvelope envelope
    return recovered + 1
  | none => return recovered

/-- The inbound messages of the pages of a history: a hundred pages are read. -/
def historyMessages (pages : List (List Value)) : List Value :=
  (pages.take 100).flatten.filter fun message =>
    ((message.get "direction").bind Value.asStr).any fun direction => eqIgnoreAsciiCase direction "in"

/-- `recover_lxmf_zmq_history_after_stream_gap`, on the pages of the history. -/
def recoverLxmfZmqHistoryAfterStreamGap (source : String) (pages : List (List Value)) : ServerM Nat :=
  (historyMessages pages).foldlM (recoverMessage source) 0

/-- A message of the list that came in for the hub. -/
def isListedInbound (source : String) (message : Value) : Bool :=
  let direction := toAsciiLowercase (((message.get "direction").bind Value.asStr).getD "")
  (direction == "in" || direction == "inbound") &&
    eqIgnoreAsciiCase (((message.get "destination").bind Value.asStr).getD "") source

/-- One message of the list. -/
def processListedMessage (source : String) (message : Value) : ServerM Unit := do
  if !isListedInbound source message then return ()
  match ← decodeMessageOrQuarantine message source with
  | none => return ()
  | some envelope =>
    if (← state).inboundWasAlreadyProcessed envelope then return ()
    processReticulumdInboundEnvelope envelope

/-- `process_reticulumd_list_messages_result`. -/
def processReticulumdListMessagesResult (source : String) (result : Value) : ServerM Unit :=
  match (result.get "messages").bind Value.asArray with
  | none => pure ()
  | some messages => messages.reverse.forM (processListedMessage source)

/-- `process_lxmf_zmq_event_worker_tick` on what was polled: a gap in the stream is made
good from the history first. -/
def processLxmfZmqEventWorkerTick (source : String) (batch : ReticulumdEventBatch) (pages : List (List Value)) :
    ServerM (Option String) := do
  if batch.events.any fun event => event.eventType == "StreamGap" then do
    let recovered ← recoverLxmfZmqHistoryAfterStreamGap source pages
    recordSystemEventBestEffort "reticulumd_event_stream_gap_recovered"
      "Recovered retained LXMF messages after a ZeroMQ event stream gap"
      (.object [("recovered_messages", toValue recovered)])
  processReticulumdEventBatch source batch

end
end TelemetryHub
