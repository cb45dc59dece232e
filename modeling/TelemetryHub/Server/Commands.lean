import TelemetryHub.Core.Dispatch
import TelemetryHub.Server.Roster

/-!
# Inbound commands

A command comes as plain text or in its own field. Those of the roster and of the
topics are carried out on the shared state, those of the registry on a core loaded
for them.
-/

namespace TelemetryHub

open Lib ServerM

/-! ## Reading a command -/

/-- `GROUP_CHAT_COMMAND_BODY_MAX_BYTES`. -/
def groupChatCommandBodyMaxBytes : Nat := 1024

/-- `plain_lxmf_command_from_message_body`. -/
def plainLxmfCommandFromMessageBody (body : String) : Option ProtocolCommand :=
  if groupChatCommandBodyMaxBytes < body.utf8ByteSize then none
  else
    let normalized := trimChars ((trimChars body.toList).dropWhile fun c => c = '\\' ∨ c = '/')
    if normalized.isEmpty ∨ normalized = trimChars body.toList then none
    else match (splitWhitespace normalized).map String.ofList with
      | [] => none
      | name :: args =>
        if (trim name).isEmpty then none
        else some {
          name := trim name
          args := if args.isEmpty then .object [] else .object [("args", toValue args)]
          correlationId := none }

/-- `command_arg_text`. -/
def commandArgText (args : Value) (keys : List String) : Option String :=
  keys.findSome? fun key => (((args.get key).bind Value.asStr).map trim).filter fun value => !value.isEmpty

/-- `command_arg_text_with_position`. -/
def commandArgTextWithPosition (args : Value) (keys : List String) (position : Nat) : Option String :=
  (commandArgText args keys).or
    (((((args.get "args").bind Value.asArray).bind fun values => values[position]?).bind Value.asStr).map trim |>.filter
      fun value => !value.isEmpty)

/-- `command_topic_id`. -/
def commandTopicId (command : ProtocolCommand) : Option String :=
  (commandArgText command.args ["topic_id", "TopicID", "topicId", "topic_path", "TopicPath", "path"]).or
    (((((command.args.get "topics").bind Value.asArray).bind List.head?).bind Value.asStr).map trim |>.filter
      fun value => !value.isEmpty)

/-- The arms of `process_reticulumd_inbound_command`. -/
inductive InboundCommand where
  | join
  | leave
  | pause
  | resume
  | nick
  | users
  | help
  | subscribeTopic
  | createTopic
  | mission
  | checklist
  | unknown
  deriving DecidableEq

/-- The names of the arms before the registry's. -/
def inboundCommandNames : List (List String × InboundCommand) :=
  [(["join", "mission.join", "ji", "jion", "on", "oi"], .join),
    (["leave", "mission.leave"], .leave),
    (["pause", "mission.pause"], .pause),
    (["resume", "mission.resume"], .resume),
    (["nick", "nickname", "mission.nick"], .nick),
    (["users", "mission.users"], .users),
    (["help", "commands", "mission.help"], .help),
    (["subscribetopic", "subscribe_topic", "topic.subscribe"], .subscribeTopic),
    (["createtopic", "create_topic", "topic.create"], .createTopic)]

/-- The arm a command is carried out in. -/
def ProtocolCommand.arm (command : ProtocolCommand) : InboundCommand :=
  let name := toAsciiLowercase (trim command.name)
  match lookupRow inboundCommandNames name with
  | some arm => arm
  | none =>
    if isSupportedMissionCommand name then .mission
    else if isSupportedChecklistCommand name then .checklist
    else .unknown

/-! ## Replies -/

variable [ServerHost]

/-- `send_reticulumd_inbound_text_reply`. -/
def sendReticulumdInboundTextReply (source topic : String) (command : ProtocolCommand) (content : String) :
    ServerM OutboundMessageRecord :=
  recordOutboundMessageWithMetadata content none (some source) [] true (.object [
    ("reticulumd_inbound_command_reply", toValue true),
    ("source", toValue "r3akt-rch-server"),
    ("direction", toValue "outbound"),
    ("inbound_source", toValue source),
    ("inbound_topic", toValue topic),
    ("command", toValue command.name),
    ("correlation_id", toValue command.correlationId),
    ("delivery_receipt_required", toValue false),
    ("max_attempts", toValue 1)])

omit [ServerHost] in
/-- `GROUP_CHAT_JOIN_REPLAY_MAX_MESSAGES`. -/
def groupChatJoinReplayMaxMessages : Nat := 10

omit [ServerHost] in
/-- A message a joiner is shown: an inbound one of the topic, of somebody else's. -/
def isReplayed (topicId : String) (sourceKey : Option String) (message : OutboundMessageRecord) : Bool :=
  message.topicId == some topicId && (metadataBool message "reticulumd_inbound").getD false &&
    normalizeIdentityKey message.sender != sourceKey && !(trim message.content).isEmpty

/-- The messages a joiner is shown: the latest of them. -/
def AppState.replayedMessages (s : AppState) (source topicId : String) : List OutboundMessageRecord :=
  let canonical := sortBy (fun left right => compare left.createdTsMs right.createdTsMs)
    (s.messages.filter (isReplayed topicId (normalizeIdentityKey source)))
  canonical.drop (canonical.length - groupChatJoinReplayMaxMessages)

/-- One message of a replay. -/
def replayMessage (source topicId : String) (command : ProtocolCommand) (inbound : OutboundMessageRecord) :
    ServerM OutboundMessageRecord :=
  recordOutboundMessageWithMetadata ("[replay:" ++ topicId ++ "]\n" ++ inbound.content) none (some source) [] true
    (.object [
      ("reticulumd_join_replay", toValue true),
      ("source", toValue "r3akt-rch-server"),
      ("direction", toValue "outbound"),
      ("inbound_source", toValue inbound.sender),
      ("inbound_topic", toValue topicId),
      ("inbound_message_id", toValue inbound.messageId),
      ("command", toValue command.name),
      ("correlation_id", toValue command.correlationId),
      ("delivery_receipt_required", toValue false)])

/-- `replay_recent_reticulumd_topic_messages_to_joiner`. -/
def replayRecentReticulumdTopicMessagesToJoiner (source topic : String) (command : ProtocolCommand) :
    ServerM (List OutboundMessageRecord) := do
  let topicId := trim topic
  if topicId.isEmpty then return []
  ((← state).replayedMessages source topicId).mapM (replayMessage source topicId command)

/-! ## Roster and topics -/

/-- The arm `join`. -/
def joinSource (source topic : String) (command : ProtocolCommand) : ServerM Unit := do
  let _ ← upsertRosterClient source fun client => { client with paused := false }
  let reply ← sendReticulumdInboundTextReply source topic command "joined"
  let replayed ← replayRecentReticulumdTopicMessagesToJoiner source topic command
  let _ ← recordSystemEvent "reticulumd_inbound_join" "Inbound Reticulum source joined" (.object [
    ("source", toValue source),
    ("command", toValue command.name),
    ("correlation_id", toValue command.correlationId),
    ("reply_message_id", toValue reply.messageId),
    ("replay_count", toValue replayed.length),
    ("replay_message_ids", toValue (replayed.map (·.messageId)))])
  return ()

/-- The arms that rewrite the source's client and say so. -/
def rewriteSource (source topic : String) (command : ProtocolCommand) (rewrite : RosterClient → RosterClient)
    (content : String) : ServerM Unit := do
  let _ ← upsertRosterClient source rewrite
  let _ ← sendReticulumdInboundTextReply source topic command content
  return ()

/-- The arm `leave`. -/
def leaveSource (source topic : String) (command : ProtocolCommand) : ServerM Unit := do
  let removed ← removeRosterClient source
  let _ ← sendReticulumdInboundTextReply source topic command (if removed then "left" else "not joined")
  return ()

/-- An arm that answers. -/
def answerSource (source topic : String) (command : ProtocolCommand) (content : String) : ServerM Unit := do
  let _ ← sendReticulumdInboundTextReply source topic command content
  return ()

/-- The arm `nick`. -/
def nickSource (source topic : String) (command : ProtocolCommand) : ServerM Unit :=
  match commandArgTextWithPosition command.args ["nickname", "nick", "name"] 0 with
  | none => answerSource source topic command "nickname is required"
  | some nickname =>
    match normalizeRosterNicknameForServer nickname with
    | .error reason => answerSource source topic command reason
    | .ok nickname =>
      rewriteSource source topic command (fun client => { client with nickname := some nickname })
        ("nick set to " ++ nickname)

omit [ServerHost] in
/-- `plain_lxmf_help_reply`. -/
def plainLxmfHelpReply : String :=
  "RCH commands:\n/join - join chat and replay recent messages\n/leave - leave chat\n" ++
  "/pause - stop receiving group relays\n/resume - receive group relays again\n" ++
  "/nick <name> - set your display name\n/users - list joined users\n/help - show this help\n" ++
  "Legacy backslash commands still work, for example \\join or \\help."

omit [ServerHost] in
/-- `subscribe_reticulumd_inbound_source`. -/
def subscribeReticulumdInboundSource (source topicId : String) (command : ProtocolCommand) : ServerM Unit := do
  if (trim source).isEmpty then return ()
  if !(← state).topics.contains topicId then throw (.notFound ("Topic not found: " ++ topicId))
  let subscriber : TopicSubscriber :=
    { subscriberId := source ++ ":" ++ topicId
      destination := source
      topicId
      rejectTests := none
      metadata := .object [
        ("source", toValue "reticulumd_inbound_command"),
        ("command", toValue command.name),
        ("correlation_id", toValue command.correlationId)] }
  update fun s => { s with subscribers := s.subscribers.insert subscriber.subscriberId subscriber }
  persistSubscriberRow subscriber

omit [ServerHost] in
/-- The arm `topic.subscribe`. -/
def subscribeSource (source : String) (command : ProtocolCommand) : ServerM Unit := do
  let topicId ← Proc.orThrow (commandTopicId command) (.badRequest "TopicID is required")
  subscribeReticulumdInboundSource source topicId command

omit [ServerHost] in
/-- `build_topic`. -/
def buildTopic (topicId topicName topicPath topicDescription : Option String) : ServerM TopicEntry := do
  let missing : ApiError := .badRequest "TopicName and TopicPath are required"
  let topicName ← Proc.orThrow (topicName.filter fun value => !(trim value).isEmpty) missing
  let topicPath ← Proc.orThrow (topicPath.filter fun value => !(trim value).isEmpty) missing
  let topicId ←
    match topicId.bind normalizeTopicId with
    | some topicId => pure topicId
    | none => newEventId
  return { topicId, topicName, topicPath, topicDescription := topicDescription.getD "" }

omit [ServerHost] in
/-- The arm `topic.create`: a topic that is there stays. -/
def createTopicOf (command : ProtocolCommand) : ServerM Unit := do
  let topic ← buildTopic (commandTopicId command)
    (commandArgText command.args ["topic_name", "TopicName", "name"])
    (commandArgText command.args ["topic_path", "TopicPath", "path"])
    (commandArgText command.args ["topic_description", "TopicDescription", "description"])
  let entry := ((← state).topics.get topic.topicId).getD topic
  update fun s => { s with topics := s.topics.insert topic.topicId entry }
  persistTopicRow entry

/-! ## The registry -/

omit [ServerHost] in
/-- `mission_sync_command_from_reticulumd`. -/
def missionSyncCommandFromReticulumd (envelope : ProtocolEnvelope) (command : ProtocolCommand) :
    MissionCommandEnvelope where
  commandId := (command.correlationId.filter fun value => !(trim value).isEmpty).getD envelope.id.hyphenated
  source := ⟨envelope.source, none⟩
  timestamp := envelope.timestamp.rfc3339
  commandType := command.name
  args := command.args
  correlationId := command.correlationId
  topics := [envelope.topic]

instance : ToValue CommandResultStatus :=
  ⟨fun
    | .accepted => .string "accepted"
    | .rejected => .string "rejected"
    | .completed => .string "result"⟩

instance : ToValue CommandResultEnvelope :=
  ⟨fun result =>
    let text (key : String) (value : Option String) : List (String × Value) :=
      (value.map fun value => (key, toValue value)).toList
    .object (
      [("command_id", toValue result.commandId), ("status", toValue result.status)] ++
        text "detail" result.detail ++ text "reason_code" result.reasonCode ++ text "reason" result.reason ++
        (if result.requiredCapabilities.isEmpty then [] else
          [("required_capabilities", toValue result.requiredCapabilities)]) ++
        text "accepted_at" result.acceptedAt ++ text "by_identity" result.byIdentity ++
        text "correlation_id" result.correlationId ++
        (if result.result.isNull then [] else [("result", result.result)]))⟩

omit [ServerHost] in
/-- `mission_response_fields`: the fields by their numbers, as text. -/
def missionResponseFields (response : MissionSyncResponse) (teamUid : Option String) : Value :=
  .object ([("10", toValue response.results)] ++ (response.event.map fun event => ("13", event)).toList ++
    (teamUid.map fun teamUid => ("11", toValue teamUid)).toList)

omit [ServerHost] in
/-- `mission_uid_from_response_fields`. -/
def missionUidFromResponseFields (response : MissionSyncResponse) : Option String :=
  let filled (value : Option Value) : Option String :=
    ((value.bind Value.asStr).map trim).filter fun text => !text.isEmpty
  response.event.bind fun event =>
    ((event.get "payload").filter Value.isObject).bind fun payload =>
      let eventType := ((event.get "event_type").bind Value.asStr).getD ""
      ((filled ((payload.get "mission_uid").or (payload.get "mission_id"))).or
        (if startsWith eventType "mission.registry.mission." then filled (payload.get "uid") else none)).or
        (if response.results.result.isObject then
          filled ((response.results.result.get "mission_uid").or (response.results.result.get "mission_id"))
        else none)

omit [ServerHost] in
/-- `reticulum_destination_hash`. -/
def reticulumDestinationHash (value : String) : Option String :=
  (normalizeIdentityKey value).filter fun value =>
    (value.utf8ByteSize == 32 || value.utf8ByteSize == 64) && value.toList.all isAsciiHexdigit

omit [ServerHost] in
/-- The identities a member of a team is reached at. -/
def memberDestinations (clientLinks : HSet (String × String)) (member : TeamMemberRecord) : List String :=
  (member.rnsIdentity :: (sortBy compare (clientLinks.toList.filterMap fun link =>
    if link.1 = member.uid then some link.2 else none))).filterMap reticulumDestinationHash

omit [ServerHost] in
/-- `mission_team_member_destinations`. -/
def AppState.missionTeamMemberDestinations (s : AppState) (missionUid : String) : List String :=
  match s.sqlite with
  | none => []
  | some store =>
    let rows := store.registry
    let teamUids := (rows.missionTeamLinks.toList.filter fun link => link.1 == missionUid).map Prod.snd
    let members := (sortBy (fun left right => compare left.uid right.uid) rows.teamMembers.values).filter fun member => member.teamUid.any teamUids.contains
    (members.flatMap (memberDestinations rows.teamMemberClientLinks)).eraseDups

/-- `send_mission_sync_response_to_source`. -/
def sendMissionSyncResponseToSource (source topic : String) (command : ProtocolCommand)
    (response : MissionSyncResponse) (teamUid : Option String) : ServerM OutboundMessageRecord :=
  recordOutboundMessageWithMetadata response.content none (some source) [] true (.object [
    ("reticulumd_inbound_command_reply", toValue true),
    ("source", toValue "r3akt-rch-server"),
    ("direction", toValue "outbound"),
    ("inbound_source", toValue source),
    ("inbound_topic", toValue topic),
    ("command", toValue command.name),
    ("correlation_id", toValue command.correlationId),
    ("lxmf_fields", missionResponseFields response teamUid)])

/-- One message of the fanout of a response. -/
def fanoutToMember (response : MissionSyncResponse) (event : Value) (missionUid teamUid : Option String)
    (destination : String) : ServerM Unit := do
  let eventType := ((event.get "event_type").bind Value.asStr).getD ""
  let _ ← recordOutboundMessageWithMetadata (trim ("r3akt mission event " ++ eventType)) none (some destination) [] true
    (.object [
      ("reticulumd_inbound_mission_team_fanout", toValue true),
      ("source", toValue "r3akt-rch-server"),
      ("direction", toValue "outbound"),
      ("mission_uid", toValue missionUid),
      ("team_uid", toValue teamUid),
      ("lxmf_fields", missionResponseFields response teamUid)])
  return ()

/-- `fanout_mission_sync_response_to_team`. -/
def fanoutMissionSyncResponseToTeam (response : MissionSyncResponse) (teamUid : Option String)
    (teamDestinations : Option (List String)) : ServerM Unit := do
  match response.event with
  | none => return ()
  | some event =>
    let missionUid := missionUidFromResponseFields response
    let s ← state
    let destinations :=
      match teamDestinations, missionUid with
      | some destinations, _ => destinations
      | none, some missionUid => s.missionTeamMemberDestinations missionUid
      | none, none => []
    destinations.forM (fanoutToMember response event missionUid teamUid)

/-- What the source and its team are told of a command. -/
def sendMissionSyncResponse (source topic : String) (command : ProtocolCommand) (teamUid : Option String)
    (teamDestinations : Option (List String)) (response : MissionSyncResponse) : ServerM Unit := do
  let _ ← sendMissionSyncResponseToSource source topic command response teamUid
  fanoutMissionSyncResponseToTeam response teamUid teamDestinations

/-- The command on the core loaded for it: the destinations of its team, and the responses. -/
def runRegistryCommand (envelope : ProtocolEnvelope) (command : ProtocolCommand) (teamUid : Option String)
    (checklist : Bool) : CoreM (Option (List String) × List MissionSyncResponse) := do
  let core ← CoreM.core
  let teamDestinations ←
    match teamUid with
    | none => pure none
    | some teamUid => do
      let destinations ← core.remTeamRoutingDestinations envelope.source teamUid
      pure (some destinations)
  let missionCommand := missionSyncCommandFromReticulumd envelope command
  let responses ←
    if checklist then handleChecklistSyncCommand missionCommand else handleMissionSyncCommand missionCommand
  return (teamDestinations, responses)

/-- `process_reticulumd_inbound_mission_sync_command`. -/
def processReticulumdInboundMissionSyncCommand (envelope : ProtocolEnvelope) (command : ProtocolCommand)
    (checklist : Bool) : ServerM Unit := do
  let store ← Proc.orThrow (← state).sqlite (.serviceUnavailable "RCH SQLite state unavailable")
  let before ← ((if checklist then .ok store.loadChecklistCommandCore else store.loadR3aktReadCore).mapError
    fun error => .internal error.text : Except ApiError RchCore)
  let teamUid := (((command.args.get "_rem_team_uid").bind Value.asStr).map trim).filter fun value => !value.isEmpty
  let (outcome, after) ← onCore before (runRegistryCommand envelope command teamUid checklist)
  update fun s => { s with
    sqlite := some (if checklist then store.saveChecklistCommandDelta before after
      else store.saveR3aktCommandDelta before after) }
  match outcome with
  | .ok (teamDestinations, responses) =>
    responses.forM (sendMissionSyncResponse envelope.source envelope.topic command teamUid teamDestinations)
  -- the handlers of the registry answer with an error, they do not end in one
  | .error _ => return ()

/-! ## The command -/

/-- The arms of `process_reticulumd_inbound_command`, each as the source's. -/
def runInboundCommand (envelope : ProtocolEnvelope) (command : ProtocolCommand) : InboundCommand → ServerM Unit
  | .join => joinSource envelope.source envelope.topic command
  | .leave => leaveSource envelope.source envelope.topic command
  | .pause => rewriteSource envelope.source envelope.topic command (fun client => { client with paused := true }) "paused"
  | .resume =>
    rewriteSource envelope.source envelope.topic command (fun client => { client with paused := false }) "resumed"
  | .nick => nickSource envelope.source envelope.topic command
  | .users => do
    let users := (← state).rosterUsersReply
    answerSource envelope.source envelope.topic command users
  | .help => answerSource envelope.source envelope.topic command plainLxmfHelpReply
  | .subscribeTopic => subscribeSource envelope.source command
  | .createTopic => createTopicOf command
  | .mission => processReticulumdInboundMissionSyncCommand envelope command false
  | .checklist => processReticulumdInboundMissionSyncCommand envelope command true
  | .unknown => pure ()

/-- `process_reticulumd_inbound_command`. -/
def processReticulumdInboundCommand (envelope : ProtocolEnvelope) (command : ProtocolCommand) : ServerM Unit := do
  touchReticulumdInboundClient envelope.source false
  runInboundCommand envelope command command.arm

end TelemetryHub
