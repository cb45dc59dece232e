import TelemetryHub.Core.Missions

/-!
# Mission changes and log entries
-/

namespace TelemetryHub

open Lib CoreM

/-- `push_unique_keyword`. -/
def pushUniqueKeyword (keywords : List String) (keyword : String) : List String :=
  if keywords.contains keyword then keywords else keywords ++ [keyword]

/-- The loop of `ensure_marker_exists` over the references of a record. -/
def ensureMarkersExist (core : RchCore) (markerRefs : List String) : Except RchCoreError Unit :=
  markerRefs.forM (ensureMarkerExists core)

section

variable [Host]

/-- `append_mecp_keywords`. -/
def appendMecpKeywords (keywords : List String) (content : String) : List String :=
  (Host.mecpKeywords content).foldl pushUniqueKeyword keywords

/-- The change type of `upsert_mission_change_from_args`. -/
def changeTypeFromArgs (args : Value) (current : Option MissionChangeRecord) :
    Except RchCoreError String :=
  if args.containsKey "change_type" then
    normalizeMissionChangeType ((args.get "change_type").bind valueAsStr)
  else .ok ((current.map MissionChangeRecord.changeType).getD "ADD_CONTENT")

/-- A time an argument names, else the record's, else `now`. -/
def timestampOr (timestamp current : Option Int) : CoreM Int :=
  match timestamp.or current with
  | some timestamp => pure timestamp
  | none => utcNowMs

/-- `upsert_mission_change_from_args`. -/
def upsertMissionChangeFromArgs (args : Value) : CoreM MissionChangeRecord := do
  let uid ← orNewUuid (optionalText args ["uid"])
  let missionUid ← requiredText args ["mission_uid", "mission_id"]
  let core ← core
  if !core.missions.contains missionUid then throw .missionNotFound
  let hashes ← stringList (args.get "hashes") "hashes"
  ensureMarkersExist core hashes
  let current := core.missionChanges.get uid
  let timestampMs ← timestampOr (← optionalTimestampMs args ["timestamp"])
    (current.map MissionChangeRecord.timestampMs)
  let changeType ← changeTypeFromArgs args current
  let delta := (args.get "delta").getD (.object [])
  if !delta.isObject then throw (.invalidPayload "delta must be an object")
  let change : MissionChangeRecord :=
    { uid, missionUid, timestampMs, changeType, hashes, delta
      name := (optionalTextOrEmpty args ["name"]).or (current.bind MissionChangeRecord.name)
      teamMemberRnsIdentity := (optionalTextOrEmpty args ["team_member_rns_identity"]).or
        (current.bind MissionChangeRecord.teamMemberRnsIdentity)
      notes := (optionalTextOrEmpty args ["notes"]).or (current.bind MissionChangeRecord.notes)
      isFederatedChange := ((optionalBool args "is_federated_change").or
        (current.map MissionChangeRecord.isFederatedChange)).getD false }
  update fun core => { core with missionChanges := core.missionChanges.insert uid change }
  return change

omit [Host] in
/-- `ensure_default_log_mission`. -/
def ensureDefaultLogMission : CoreM Unit := do
  if !(← core).missions.contains "mission-default" then
    let now ← utcNowMs
    let mission : MissionRecord := .blank "mission-default" "Mission Default"
      "Synthetic mission used for missionless log submissions." now
    update fun core => { core with missions := core.missions.insert "mission-default" mission }

/-- `resolve_log_mission_uid`. -/
def resolveLogMissionUid (args : Value) : CoreM String := do
  match optionalText args ["mission_uid", "mission_id"] with
  | some missionUid =>
    if !(← core).missions.contains missionUid then throw .missionNotFound
    return missionUid
  | none =>
    ensureDefaultLogMission
    return "mission-default"

/-- `resolve_log_callsign`. -/
def resolveLogCallsign (command : MissionCommandEnvelope) (args : Value)
    (current : Option LogEntryRecord) : Option String :=
  (((optionalTextOrEmpty args ["callsign", "author_callsign"]).bind noneIfEmpty).or
    (current.bind LogEntryRecord.callsign)).or command.source.displayName

/-- The content hashes of `upsert_log_entry_from_args`. -/
def contentHashesFromArgs (core : RchCore) (args : Value) (current : Option LogEntryRecord) :
    Except RchCoreError (List String) := do
  if args.containsKey "content_hashes" || args.containsKey "contenthashes" then
    let hashes ← stringList ((args.get "content_hashes").or (args.get "contenthashes")) "content_hashes"
    ensureMarkersExist core hashes
    return hashes
  else return (current.map LogEntryRecord.contentHashes).getD []

/-- The keywords of `upsert_log_entry_from_args`. -/
def logKeywordsFromArgs (args : Value) (content : String) (current : Option LogEntryRecord) :
    Except RchCoreError (List String) := do
  let keywords ← patchedList args "keywords" ((current.map LogEntryRecord.keywords).getD [])
  return appendMecpKeywords keywords content

/-- The delta of an automatic log change. -/
def logDelta (entry : LogEntryRecord) : Value :=
  .object [
    ("op", toValue "upsert"),
    ("entry_uid", toValue entry.entryUid),
    ("mission_uid", toValue entry.missionUid),
    ("callsign", toValue entry.callsign),
    ("content", toValue entry.content),
    ("server_time", toValue (millisToRfc3339 entry.serverTimeMs)),
    ("client_time", toValue entry.clientTime),
    ("keywords", toValue entry.keywords),
    ("mecp", Host.mecpLogEntryValue entry.content),
    ("content_hashes", toValue entry.contentHashes)]

/-- `record_auto_log_change`. -/
def recordAutoLogChange (entry : LogEntryRecord) : CoreM Unit := do
  let changeUid ← newUuid
  let timestampMs ← utcNowMs
  let emittedAt ← utcNowRfc3339
  let change : MissionChangeRecord :=
    { uid := changeUid, missionUid := entry.missionUid, name := some "mission.log_entry.upserted",
      teamMemberRnsIdentity := none, timestampMs, notes := none, changeType := "ADD_CONTENT",
      isFederatedChange := false, hashes := entry.contentHashes
      delta := .object [
        ("version", toValue (1 : Nat)),
        ("contract_version", toValue "mission.delta.v1"),
        ("source_event_type", toValue "mission.log_entry.upserted"),
        ("emitted_at", toValue emittedAt),
        ("logs", .array [logDelta entry]),
        ("assets", .array []),
        ("tasks", .array []),
        ("checklists", .array [])] }
  update fun core => { core with missionChanges := core.missionChanges.insert changeUid change }

/-- `upsert_log_entry_from_args`. The default mission is there before the rest
of the arguments is read. -/
def upsertLogEntryFromArgs (command : MissionCommandEnvelope) (args : Value) :
    CoreM LogEntryRecord := do
  let entryUid ← orNewUuid (optionalText args ["entry_uid", "uid"])
  let missionUid ← resolveLogMissionUid args
  let core ← core
  let current := core.logEntries.get entryUid
  let content ← Proc.orThrow
    ((optionalText args ["content"]).or (current.map LogEntryRecord.content))
    (.invalidPayload "content is required")
  let now ← utcNowMs
  let contentHashes ← contentHashesFromArgs core args current
  let keywords ← logKeywordsFromArgs args content current
  let serverTime ← optionalTimestampMs args ["server_time", "servertime"]
  let entry : LogEntryRecord :=
    { entryUid, missionUid, content, contentHashes, keywords
      callsign := resolveLogCallsign command args current
      serverTimeMs := (serverTime.or (current.map LogEntryRecord.serverTimeMs)).getD now
      clientTime := (optionalTextOrEmpty args ["client_time", "clientTime", "clienttime"]).or
        (current.bind LogEntryRecord.clientTime)
      createdTsMs := (current.map LogEntryRecord.createdTsMs).getD now
      updatedTsMs := now }
  update fun core => { core with logEntries := core.logEntries.insert entryUid entry }
  recordAutoLogChange entry
  return entry

/-- `apply_registry_log_command`. -/
def applyRegistryLogCommand (command : MissionCommandEnvelope) : CoreM EventEnvelope := do
  let missionUid := optionalText command.args ["mission_uid", "mission_id"]
  match command.commandType with
  | "mission.registry.mission_change.upsert" =>
    let change ← upsertMissionChangeFromArgs command.args
    return event "mission.registry.mission_change.upserted" command (missionChangeValue change)
  | "mission.registry.mission_change.list" =>
    return event "mission.registry.mission_change.listed" command
      (.object [("mission_changes", .array ((← core).missionChangeValues missionUid))])
  | "mission.registry.log_entry.upsert" =>
    let entry ← upsertLogEntryFromArgs command command.args
    return event "mission.registry.log_entry.upserted" command (logEntryValue entry)
  | "mission.registry.log_entry.list" =>
    return event "mission.registry.log_entry.listed" command
      (.object [("log_entries", .array ((← core).logEntryValues missionUid
        (optionalText command.args ["marker_ref"])))])
  | other => throw (.unsupportedCommand other)

end
end TelemetryHub
