import TelemetryHub.Core.Topics
import TelemetryHub.Server.Callbacks

/-!
# The tables

The rows the handlers write one by one, and the core a command of the registry runs
on: it is loaded from the tables, and what the command has changed is saved.
-/

namespace TelemetryHub

open Lib ServerM

namespace SqliteStore

/-- `upsert_topic`. -/
def upsertTopic (record : TopicRecord) (store : SqliteStore) : SqliteStore :=
  { store with topics := store.topics.filter (·.topicId != record.topicId) ++ [record] }

/-- `upsert_subscriber`. -/
def upsertSubscriber (record : SubscriberRecord) (store : SqliteStore) : SqliteStore :=
  { store with
    subscribers :=
      store.subscribers.filter (fun row => !(row.nodeId == record.nodeId && row.topicId == record.topicId)) ++
        [record] }

/-- `upsert_client`. -/
def upsertClient (record : ClientRecord) (store : SqliteStore) : SqliteStore :=
  { store with clients := store.clients.filter (·.identity != record.identity) ++ [record] }

/-- `delete_client`. -/
def deleteClient (identity : String) (store : SqliteStore) : SqliteStore :=
  { store with clients := store.clients.filter (·.identity != identity) }

/-- `insert_telemetry_record`: the peer's older rows go. -/
def insertTelemetryRecord (record : TelemetryRecord) (store : SqliteStore) : SqliteStore :=
  { store with
    telemetryRecords :=
      store.telemetryRecords.filter (fun row => !eqIgnoreAsciiCase row.peerDestination record.peerDestination) ++
        [record] }

/-- `insert_file_attachment_with_next_id`. -/
def insertFileAttachment (record : FileAttachmentRecord) (store : SqliteStore) : FileAttachmentRecord × SqliteStore :=
  let record := { record with fileId := saturatingAddU64 ((store.fileAttachments.map (·.fileId)).max?.getD 0) 1 }
  (record, { store with fileAttachments := store.fileAttachments ++ [record] })

end SqliteStore

/-- `with_required_core_store_write`. -/
def withRequiredCoreStoreWrite {α : Type} (operation : SqliteStore → α × SqliteStore) : ServerM α := do
  ensureKillSwitchPersistenceUnlocked
  let store ← Proc.orThrow (← state).sqlite (.serviceUnavailable "RCH SQLite state unavailable")
  update fun s => { s with sqlite := some (operation store).2 }
  return (operation store).1

/-- `insert_file_attachment_row`. -/
def insertFileAttachmentRow (record : FileAttachmentRecord) : ServerM FileAttachmentRecord :=
  withRequiredCoreStoreWrite (SqliteStore.insertFileAttachment record)

/-- `persist_telemetry_record_row`. -/
def persistTelemetryRecordRow (record : TelemetryRecord) : ServerM Unit :=
  withCoreStoreWrite (·.insertTelemetryRecord record)

/-- `delete_client_row`. -/
def deleteClientRow (identity : String) : ServerM Unit := withCoreStoreWrite (·.deleteClient identity)

/-- `persist_topic_row`. -/
def persistTopicRow (topic : TopicEntry) : ServerM Unit := do
  let nowMs ← unixNowMs
  withCoreStoreWrite (·.upsertTopic {
    topicId := topic.topicId
    topicName := topic.topicName
    topicPath := topic.topicPath
    topicDescription := topic.topicDescription
    retention := .persistent
    visibility := .isPublic
    createdTsMs := nowMs
    lastActivityTsMs := nowMs })

/-- `persist_subscriber_row`. -/
def persistSubscriberRow (subscriber : TopicSubscriber) : ServerM Unit := do
  let nowMs ← unixNowMs
  withCoreStoreWrite (·.upsertSubscriber {
    nodeId := subscriber.destination
    topicId := subscriber.topicId
    firstSeenTsMs := nowMs
    lastSeenTsMs := nowMs
    rejectTests := subscriber.rejectTests
    metadata := subscriber.metadata })

/-- `persist_client_row`. -/
def persistClientRow [ServerHost] (client : RosterClient) : ServerM Unit := do
  let lastSeenTsMs ← orNowMs (ServerHost.parseRfc3339Millis client.lastSeen)
  withCoreStoreWrite (·.upsertClient {
    identity := client.identity
    firstSeenTsMs := (ServerHost.parseRfc3339Millis client.firstSeen).getD lastSeenTsMs
    lastSeenTsMs
    nickname := client.nickname
    role := client.role
    paused := client.paused
    textOnly := client.textOnly
    lastChatTsMs := client.lastChatTsMs })

/-! ## The registry -/

/-- `save_payload_delta`: the rows that were there and are gone are deleted, those that
are there are written. -/
def savePayloadDelta {K V : Type} [DecidableEq K] (before after table : Dict K V) : Dict K V :=
  after.toPairs.foldl (fun table row => table.insert row.1 row.2)
    (table.retain fun key _ => !before.contains key || after.contains key)

/-- `save_payload_delta` of a table of links. -/
def saveLinkDelta {K : Type} [DecidableEq K] (before after table : HSet K) : HSet K :=
  (table.retain fun key => !before.contains key || after.contains key).extend after.toList

/-- `save_payload_delta` of the audit events: a core loads none of them. -/
def saveAuditEventDelta (after table : List MissionAuditEvent) : List MissionAuditEvent :=
  table.filter (fun row => !after.any (·.eventId == row.eventId)) ++ after

namespace SqliteStore

/-- The topics of a core loaded from the tables. -/
def coreTopics (store : SqliteStore) : Except RchCoreError (Dict String TopicRecord) :=
  (sortBy (fun left right => compare left.topicId right.topicId) store.topics).foldlM (fun topics topic => do
    let topicId ← requireTopicId topic.topicId "topic invariant violation: topic_id is empty"
    if topics.contains topicId then
      throw (.invalidPayload ("topic invariant violation: duplicate normalized topic '" ++ topicId ++ "'"))
    return topics.insert topicId { topic with topicId }) ∅

/-- The subscribers of a core loaded from the tables. -/
def coreSubscribers (store : SqliteStore) : Except RchCoreError (Dict (String × String) SubscriberRecord) :=
  (sortBy (fun left right => (compare left.topicId right.topicId).then (compare left.nodeId right.nodeId))
    store.subscribers).foldlM (fun subscribers subscriber => do
      let nodeId ← requireNodeId subscriber.nodeId "subscriber invariant violation: destination is empty"
      let topicId ←
        match normalizeSubscriberTopicId subscriber.topicId with
        | some topicId => pure topicId
        | none => invalidPayload "subscriber invariant violation: topic_id is invalid"
      if subscribers.contains (nodeId, topicId) then
        throw (.invalidPayload "subscriber invariant violation: duplicate normalized destination/topic pair")
      return subscribers.insert (nodeId, topicId) { subscriber with nodeId, topicId }) ∅

/-- `RchCore::from_snapshot(load_r3akt_read_snapshot())`. -/
def loadR3aktReadCore (store : SqliteStore) : Except RchCoreError RchCore := do
  let topics ← store.coreTopics
  let subscribers ← store.coreSubscribers
  return { store.registry with
    topics
    subscribers
    messages := []
    clients := store.clients.foldl (fun clients client =>
      match normalizeHash client.identity with
      | some identity => clients.insert identity client
      | none => clients) ∅
    identityAnnounces := store.loadIdentityAnnounces.foldl (fun announces announce =>
      announces.insert announce.destinationHash announce) ∅
    identityStates := store.identityStates.foldl (fun states record => states.insert record.identity record) ∅
    identityRemModes := store.loadIdentityRemModes.foldl (fun modes mode => modes.insert mode.identity mode) ∅
    auditEvents := []
    systemEvents := []
    telemetryRecords := []
    fileAttachments := ∅
    commandResults := ∅ }

/-- `RchCore::from_snapshot(load_checklist_command_snapshot())`. -/
def loadChecklistCommandCore (store : SqliteStore) : RchCore :=
  let rows := store.registry
  { RchCore.new with
    checklists := rows.checklists
    checklistTemplates := rows.checklistTemplates
    checklistColumns := rows.checklistColumns
    checklistTasks := rows.checklistTasks
    checklistCells := rows.checklistCells
    checklistFeedPublications := rows.checklistFeedPublications
    missions := rows.missions
    teams := rows.teams
    missionTeamLinks := rows.missionTeamLinks
    teamMembers := rows.teamMembers
    teamMemberClientLinks := rows.teamMemberClientLinks
    missionChanges := rows.missionChanges
    taskSkillRequirements := rows.taskSkillRequirements
    assignments := rows.assignments
    assignmentAssetLinks := rows.assignmentAssetLinks }

/-- `save_skill_assignment_delta_tables`. -/
def saveSkillAssignmentDelta (before after rows : RchCore) : RchCore :=
  { rows with
    skills := savePayloadDelta before.skills after.skills rows.skills
    teamMemberSkills := savePayloadDelta before.teamMemberSkills after.teamMemberSkills rows.teamMemberSkills
    taskSkillRequirements :=
      savePayloadDelta before.taskSkillRequirements after.taskSkillRequirements rows.taskSkillRequirements
    assignments := savePayloadDelta before.assignments after.assignments rows.assignments
    assignmentAssetLinks := saveLinkDelta before.assignmentAssetLinks after.assignmentAssetLinks rows.assignmentAssetLinks }

/-- `save_r3akt_command_delta`. -/
def saveR3aktCommandDelta (before after : RchCore) (store : SqliteStore) : SqliteStore :=
  let rows := saveSkillAssignmentDelta before after store.registry
  { store with registry := { rows with
      markers := savePayloadDelta before.markers after.markers rows.markers
      zones := savePayloadDelta before.zones after.zones rows.zones
      missions := savePayloadDelta before.missions after.missions rows.missions
      missionChanges := savePayloadDelta before.missionChanges after.missionChanges rows.missionChanges
      logEntries := savePayloadDelta before.logEntries after.logEntries rows.logEntries
      eamSnapshots := savePayloadDelta before.eamSnapshots after.eamSnapshots rows.eamSnapshots
      teams := savePayloadDelta before.teams after.teams rows.teams
      missionTeamLinks := saveLinkDelta before.missionTeamLinks after.missionTeamLinks rows.missionTeamLinks
      missionZoneLinks := saveLinkDelta before.missionZoneLinks after.missionZoneLinks rows.missionZoneLinks
      missionMarkerLinks := saveLinkDelta before.missionMarkerLinks after.missionMarkerLinks rows.missionMarkerLinks
      teamMembers := savePayloadDelta before.teamMembers after.teamMembers rows.teamMembers
      teamMemberClientLinks :=
        saveLinkDelta before.teamMemberClientLinks after.teamMemberClientLinks rows.teamMemberClientLinks
      assets := savePayloadDelta before.assets after.assets rows.assets
      identityCapabilities :=
        savePayloadDelta before.identityCapabilities after.identityCapabilities rows.identityCapabilities
      missionAccessAssignments :=
        savePayloadDelta before.missionAccessAssignments after.missionAccessAssignments rows.missionAccessAssignments
      subjectOperationRights :=
        savePayloadDelta before.subjectOperationRights after.subjectOperationRights rows.subjectOperationRights
      auditEvents := saveAuditEventDelta after.auditEvents rows.auditEvents
      commandResults := savePayloadDelta before.commandResults after.commandResults rows.commandResults } }

/-- `save_checklist_command_delta`. -/
def saveChecklistCommandDelta (before after : RchCore) (store : SqliteStore) : SqliteStore :=
  let rows := saveSkillAssignmentDelta before after store.registry
  { store with registry := { rows with
      checklists := savePayloadDelta before.checklists after.checklists rows.checklists
      checklistTemplates :=
        savePayloadDelta before.checklistTemplates after.checklistTemplates rows.checklistTemplates
      checklistColumns := savePayloadDelta before.checklistColumns after.checklistColumns rows.checklistColumns
      checklistTasks := savePayloadDelta before.checklistTasks after.checklistTasks rows.checklistTasks
      checklistCells := savePayloadDelta before.checklistCells after.checklistCells rows.checklistCells
      checklistFeedPublications :=
        savePayloadDelta before.checklistFeedPublications after.checklistFeedPublications
          rows.checklistFeedPublications
      missionChanges := savePayloadDelta before.missionChanges after.missionChanges rows.missionChanges
      auditEvents := saveAuditEventDelta after.auditEvents rows.auditEvents
      commandResults := savePayloadDelta before.commandResults after.commandResults rows.commandResults } }

end SqliteStore
end TelemetryHub
