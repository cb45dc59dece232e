import TelemetryHub.Core.Listing

/-!
# Payloads

The JSON a handler answers with: one function for each record type, and the
deltas a mission change carries.
-/

namespace TelemetryHub

open Lib

section

variable [Host]

/-- A time that may be missing. -/
def optionalTime (timestampMs : Option Int) : Option String := timestampMs.map millisToRfc3339

/-- `checklist_column_record_value`. -/
def checklistColumnRecordValue (column : ChecklistColumnRecord) : Value :=
  .object [
    ("column_uid", toValue column.columnUid),
    ("column_name", toValue column.columnName),
    ("display_order", toValue column.displayOrder),
    ("column_type", toValue column.columnType),
    ("column_editable", toValue column.columnEditable),
    ("background_color", toValue column.backgroundColor),
    ("text_color", toValue column.textColor),
    ("is_removable", toValue column.isRemovable),
    ("system_key", toValue column.systemKey)]

/-- `checklist_feed_publication_value`. -/
def checklistFeedPublicationValue (publication : ChecklistFeedPublicationRecord) : Value :=
  .object [
    ("publication_uid", toValue publication.publicationUid),
    ("checklist_uid", toValue publication.checklistUid),
    ("mission_feed_uid", toValue publication.missionFeedUid),
    ("published_at", toValue (millisToRfc3339 publication.publishedTsMs)),
    ("published_by_team_member_rns_identity", toValue publication.publishedByTeamMemberRnsIdentity)]

/-- `marker_value`. -/
def markerValue (marker : MarkerRecord) : Value :=
  let timestamp := millisToRfc3339 marker.updatedTsMs
  .object [
    ("object_destination_hash", toValue marker.objectDestinationHash),
    ("origin_rch", toValue marker.originRch),
    ("type", toValue marker.markerType),
    ("name", toValue marker.name),
    ("category", toValue marker.category),
    ("symbol", toValue marker.symbol),
    ("notes", toValue marker.notes),
    ("position", .object [("lat", toValue marker.lat), ("lon", toValue marker.lon)]),
    ("time", toValue timestamp),
    ("stale_at", toValue timestamp),
    ("created_at", toValue (millisToRfc3339 marker.createdTsMs)),
    ("updated_at", toValue timestamp)]

/-- `zone_value`. -/
def zoneValue (zone : ZoneRecord) : Value :=
  .object [
    ("zone_id", toValue zone.zoneId),
    ("name", toValue zone.name),
    ("points", .array (zone.points.map fun point =>
      .object [("lat", toValue point.lat), ("lon", toValue point.lon)])),
    ("created_at", toValue (millisToRfc3339 zone.createdTsMs)),
    ("updated_at", toValue (millisToRfc3339 zone.updatedTsMs))]

/-- `mission_change_value`. -/
def missionChangeValue (change : MissionChangeRecord) : Value :=
  .object [
    ("uid", toValue change.uid),
    ("mission_uid", toValue change.missionUid),
    ("mission_id", toValue change.missionUid),
    ("name", toValue change.name),
    ("team_member_rns_identity", toValue change.teamMemberRnsIdentity),
    ("timestamp", toValue (millisToRfc3339 change.timestampMs)),
    ("notes", toValue change.notes),
    ("change_type", toValue change.changeType),
    ("is_federated_change", toValue change.isFederatedChange),
    ("hashes", toValue change.hashes),
    ("delta", change.delta)]

/-- `log_entry_value`. -/
def logEntryValue (entry : LogEntryRecord) : Value :=
  .object [
    ("entry_uid", toValue entry.entryUid),
    ("mission_uid", toValue entry.missionUid),
    ("callsign", toValue entry.callsign),
    ("content", toValue entry.content),
    ("server_time", toValue (millisToRfc3339 entry.serverTimeMs)),
    ("client_time", toValue entry.clientTime),
    ("content_hashes", toValue entry.contentHashes),
    ("keywords", toValue entry.keywords),
    ("mecp", Host.mecpLogEntryValue entry.content),
    ("created_at", toValue (millisToRfc3339 entry.createdTsMs)),
    ("updated_at", toValue (millisToRfc3339 entry.updatedTsMs))]

/-- `eam_value`. -/
def eamValue (eam : EamSnapshotRecord) : Value :=
  .object [
    ("eam_uid", toValue eam.eamUid),
    ("callsign", toValue eam.callsign),
    ("group_name", toValue eam.groupName),
    ("team_member_uid", toValue eam.teamMemberUid),
    ("team_uid", toValue eam.teamUid),
    ("reported_by", toValue eam.reportedBy),
    ("reported_at", toValue (millisToRfc3339 eam.reportedTsMs)),
    ("overall_status", toValue eam.overallStatus),
    ("security_status", toValue eam.securityStatus),
    ("capability_status", toValue eam.capabilityStatus),
    ("preparedness_status", toValue eam.preparednessStatus),
    ("medical_status", toValue eam.medicalStatus),
    ("mobility_status", toValue eam.mobilityStatus),
    ("comms_status", toValue eam.commsStatus),
    ("notes", toValue eam.notes),
    ("confidence", toValue eam.confidence),
    ("ttl_seconds", toValue eam.ttlSeconds),
    ("source", toValue eam.source)]

/-- `team_value`. -/
def teamValue (team : TeamRecord) : Value :=
  .object [
    ("uid", toValue team.uid),
    ("mission_uid", toValue team.missionUid),
    ("mission_uids", toValue team.missionUids),
    ("color", toValue team.color),
    ("team_name", toValue team.teamName),
    ("team_description", toValue team.teamDescription),
    ("created_at", toValue (millisToRfc3339 team.createdTsMs)),
    ("updated_at", toValue (millisToRfc3339 team.updatedTsMs))]

/-- `team_member_value`. -/
def teamMemberValue (member : TeamMemberRecord) : Value :=
  .object [
    ("uid", toValue member.uid),
    ("team_uid", toValue member.teamUid),
    ("rns_identity", toValue member.rnsIdentity),
    ("display_name", toValue member.displayName),
    ("icon", toValue member.icon),
    ("role", toValue member.role),
    ("callsign", toValue member.callsign),
    ("freq", toValue member.freq),
    ("email", toValue member.email),
    ("phone", toValue member.phone),
    ("modulation", toValue member.modulation),
    ("availability", toValue member.availability),
    ("certifications", toValue member.certifications),
    ("last_active", toValue member.lastActive),
    ("client_identities", toValue member.clientIdentities),
    ("created_at", toValue (millisToRfc3339 member.createdTsMs)),
    ("updated_at", toValue (millisToRfc3339 member.updatedTsMs))]

/-- `asset_value`. -/
def assetValue (asset : AssetRecord) : Value :=
  .object [
    ("asset_uid", toValue asset.assetUid),
    ("team_member_uid", toValue asset.teamMemberUid),
    ("name", toValue asset.name),
    ("asset_type", toValue asset.assetType),
    ("serial_number", toValue asset.serialNumber),
    ("status", toValue asset.status),
    ("location", toValue asset.location),
    ("notes", toValue asset.notes),
    ("created_at", toValue (millisToRfc3339 asset.createdTsMs)),
    ("updated_at", toValue (millisToRfc3339 asset.updatedTsMs))]

/-- `skill_value`. -/
def skillValue (skill : SkillRecord) : Value :=
  .object [
    ("skill_uid", toValue skill.skillUid),
    ("name", toValue skill.name),
    ("category", toValue skill.category),
    ("description", toValue skill.description),
    ("proficiency_scale", toValue skill.proficiencyScale),
    ("created_at", toValue (millisToRfc3339 skill.createdTsMs)),
    ("updated_at", toValue (millisToRfc3339 skill.updatedTsMs))]

omit [Host] in
/-- `team_member_skill_value`. -/
def teamMemberSkillValue (record : TeamMemberSkillRecord) : Value :=
  .object [
    ("uid", toValue record.uid),
    ("team_member_rns_identity", toValue record.teamMemberRnsIdentity),
    ("skill_uid", toValue record.skillUid),
    ("level", toValue record.level),
    ("validated_by", toValue record.validatedBy),
    ("validated_at", toValue record.validatedAt),
    ("expires_at", toValue record.expiresAt)]

omit [Host] in
/-- `task_skill_requirement_value`. -/
def taskSkillRequirementValue (record : TaskSkillRequirementRecord) : Value :=
  .object [
    ("uid", toValue record.uid),
    ("task_uid", toValue record.taskUid),
    ("skill_uid", toValue record.skillUid),
    ("minimum_level", toValue record.minimumLevel),
    ("is_mandatory", toValue record.isMandatory)]

omit [Host] in
/-- `mission_access_assignment_value`. -/
def missionAccessAssignmentValue (assignment : MissionAccessAssignment) : Value :=
  .object [
    ("mission_uid", toValue assignment.missionUid),
    ("subject_type", toValue assignment.subjectType),
    ("subject_id", toValue assignment.subjectId),
    ("role", toValue assignment.role)]

omit [Host] in
/-- `topic_value`. -/
def topicValue (topic : TopicRecord) (subscriberCount : Nat) : Value :=
  .object [
    ("topic_id", toValue topic.topicId),
    ("TopicID", toValue topic.topicId),
    ("topic_name", toValue topic.topicName),
    ("TopicName", toValue topic.topicName),
    ("topic_path", toValue topic.topicPath),
    ("TopicPath", toValue topic.topicPath),
    ("topic_description", toValue topic.topicDescription),
    ("TopicDescription", toValue topic.topicDescription),
    ("visibility", toValue (if topic.visibility = .restricted then "restricted" else "public")),
    ("retention", toValue (if topic.retention = .ephemeral then "ephemeral" else "persistent")),
    ("subscriber_count", toValue subscriberCount),
    ("SubscriberCount", toValue subscriberCount),
    ("created_ts", toValue topic.createdTsMs),
    ("last_activity_ts", toValue topic.lastActivityTsMs)]

omit [Host] in
/-- `subscriber_value`. -/
def subscriberValue (subscriber : SubscriberRecord) : Value :=
  .object [
    ("subscriber_id", toValue subscriber.nodeId),
    ("SubscriberID", toValue subscriber.nodeId),
    ("destination", toValue subscriber.nodeId),
    ("Destination", toValue subscriber.nodeId),
    ("topic_id", toValue subscriber.topicId),
    ("TopicID", toValue subscriber.topicId),
    ("reject_tests", toValue subscriber.rejectTests),
    ("RejectTests", toValue subscriber.rejectTests),
    ("metadata", subscriber.metadata),
    ("Metadata", subscriber.metadata)]

omit [Host] in
/-- One item of `client_values`. -/
def clientValue (client : ClientRecord) : Value :=
  .object [
    ("identity", toValue client.identity),
    ("nickname", toValue client.nickname),
    ("role", toValue client.role),
    ("paused", toValue client.paused),
    ("text_only", toValue client.textOnly),
    ("first_seen_ts_ms", toValue client.firstSeenTsMs),
    ("last_seen_ts_ms", toValue client.lastSeenTsMs),
    ("last_chat_ts_ms", toValue client.lastChatTsMs)]

/-- One item of `recent_audit_event_values`. -/
def auditEventValue (event : MissionAuditEvent) : Value :=
  .object [
    ("id", toValue event.eventId),
    ("timestamp", toValue (millisToRfc3339 event.timestampMs)),
    ("type", toValue "mission_command_processed"),
    ("message", toValue "mission command processed"),
    ("metadata", .object [
      ("command_id", toValue event.commandId),
      ("command_type", if event.commandType.isEmpty then .null else toValue event.commandType),
      ("identity", toValue event.sourceIdentity),
      ("event_type", toValue event.eventType)]),
    ("origin", .null)]

/-! ## Values that read the core -/

namespace RchCore

variable (core : RchCore)

/-- `assignment_value`. -/
def assignmentValue (assignment : AssignmentRecord) : Value :=
  .object [
    ("assignment_uid", toValue assignment.assignmentUid),
    ("mission_uid", toValue assignment.missionUid),
    ("task_uid", toValue assignment.taskUid),
    ("team_member_rns_identity", toValue assignment.teamMemberRnsIdentity),
    ("assigned_by", toValue assignment.assignedBy),
    ("assigned_at", toValue (millisToRfc3339 assignment.assignedTsMs)),
    ("due_dtg", toValue assignment.dueDtg),
    ("status", toValue assignment.status),
    ("notes", toValue assignment.notes),
    ("assets", toValue (core.assignmentAssets assignment.assignmentUid assignment.assets))]

/-- `template_column_values`. -/
def templateColumnValues (templateUid : String) : List Value :=
  (sortBy (fun left right => compare left.displayOrder right.displayOrder)
    (core.checklistColumns.values.filter fun column => column.templateUid == some templateUid)).map
    checklistColumnRecordValue

/-- `checklist_template_value`. -/
def checklistTemplateValue (template : ChecklistTemplateRecord) : Value :=
  .object [
    ("uid", toValue template.uid),
    ("template_name", toValue template.templateName),
    ("description", toValue template.description),
    ("created_at", toValue (millisToRfc3339 template.createdTsMs)),
    ("created_by_team_member_rns_identity", toValue template.createdByTeamMemberRnsIdentity),
    ("updated_at", toValue (millisToRfc3339 template.updatedTsMs)),
    ("source_template_uid", toValue template.sourceTemplateUid),
    ("server_only", toValue template.serverOnly),
    ("columns", .array (core.templateColumnValues template.uid))]

/-- `checklist_cell_values`. -/
def checklistCellValues (taskUid : String) : List Value :=
  (sortBy (fun left right => compare left.columnUid right.columnUid)
    (core.checklistCells.values.filter fun cell => cell.taskUid == taskUid)).map fun cell =>
    .object [
      ("cell_uid", toValue cell.cellUid),
      ("task_uid", toValue cell.taskUid),
      ("column_uid", toValue cell.columnUid),
      ("value", toValue cell.value),
      ("updated_at", toValue (millisToRfc3339 cell.updatedTsMs)),
      ("updated_by_team_member_rns_identity", toValue cell.updatedByTeamMemberRnsIdentity)]

/-- `checklist_task_values`. -/
def checklistTaskValues (checklistUid : String) : List Value :=
  (sortBy (fun left right => compare left.number right.number)
    (core.checklistTasks.values.filter fun task => task.checklistUid == checklistUid)).map fun task =>
    .object [
      ("task_uid", toValue task.taskUid),
      ("number", toValue task.number),
      ("user_status", toValue task.userStatus),
      ("task_status", toValue task.taskStatus),
      ("is_late", toValue task.isLate),
      ("custom_status", toValue task.customStatus),
      ("due_relative_minutes", toValue task.dueRelativeMinutes),
      ("due_dtg", toValue (optionalTime task.dueTsMs)),
      ("notes", toValue task.notes),
      ("row_background_color", toValue task.rowBackgroundColor),
      ("line_break_enabled", toValue task.lineBreakEnabled),
      ("completed_at", toValue (optionalTime task.completedTsMs)),
      ("completed_by_team_member_rns_identity", toValue task.completedByTeamMemberRnsIdentity),
      ("legacy_value", toValue task.legacyValue),
      ("cells", .array (core.checklistCellValues task.taskUid))]

/-- `checklist_feed_publication_values`. -/
def checklistFeedPublicationValues (checklistUid : String) : List Value :=
  (sortBy (fun left right =>
    (compare right.publishedTsMs left.publishedTsMs).then
      (compare left.publicationUid right.publicationUid))
    (core.checklistFeedPublications.values.filter fun publication =>
      publication.checklistUid == checklistUid)).map checklistFeedPublicationValue

/-- `checklist_value`. -/
def checklistValue (checklist : ChecklistRecord) : Value :=
  .object [
    ("uid", toValue checklist.uid),
    ("mission_id", toValue checklist.missionUid),
    ("mission_uid", toValue checklist.missionUid),
    ("template_uid", toValue checklist.templateUid),
    ("template_version", toValue checklist.templateVersion),
    ("template_name", toValue checklist.templateName),
    ("name", toValue checklist.name),
    ("description", toValue checklist.description),
    ("start_time", toValue (millisToRfc3339 checklist.startTsMs)),
    ("mode", toValue checklist.mode),
    ("sync_state", toValue checklist.syncState),
    ("origin_type", toValue checklist.originType),
    ("checklist_status", toValue checklist.checklistStatus),
    ("created_at", toValue (millisToRfc3339 checklist.createdTsMs)),
    ("created_by_team_member_rns_identity", toValue checklist.createdByTeamMemberRnsIdentity),
    ("updated_at", toValue (millisToRfc3339 checklist.updatedTsMs)),
    ("uploaded_at", toValue (optionalTime checklist.uploadedTsMs)),
    ("progress_percent", toValue checklist.progressPercent),
    ("counts", .object [
      ("pending_count", toValue checklist.pendingCount),
      ("late_count", toValue checklist.lateCount),
      ("complete_count", toValue checklist.completeCount)]),
    ("columns", .array ((core.columnsForChecklist checklist.uid).map checklistColumnRecordValue)),
    ("tasks", .array (core.checklistTaskValues checklist.uid)),
    ("feed_publications", .array (core.checklistFeedPublicationValues checklist.uid))]

/-- `mission_value`. -/
def missionValue (mission : MissionRecord) : Value :=
  .object [
    ("uid", toValue mission.uid),
    ("mission_name", toValue mission.missionName),
    ("description", toValue mission.description),
    ("topic_id", toValue mission.topicId),
    ("path", toValue mission.path),
    ("classification", toValue mission.classification),
    ("tool", toValue mission.tool),
    ("keywords", toValue mission.keywords),
    ("parent_uid", toValue mission.parentUid),
    ("children", toValue (core.missionChildren mission.uid)),
    ("feeds", toValue mission.feeds),
    ("zones", toValue (core.missionZoneIds mission.uid)),
    ("markers", toValue (core.missionMarkerIds mission.uid)),
    ("password_hash", toValue mission.passwordHash),
    ("default_role", toValue mission.defaultRole),
    ("mission_priority", toValue mission.missionPriority),
    ("mission_status", toValue mission.missionStatus),
    ("owner_role", toValue mission.ownerRole),
    ("token", toValue mission.token),
    ("invite_only", toValue mission.inviteOnly),
    ("expiration", toValue mission.expiration),
    ("mission_rde_role", toValue mission.missionRdeRole),
    ("created_at", toValue (millisToRfc3339 mission.createdTsMs)),
    ("updated_at", toValue (millisToRfc3339 mission.updatedTsMs))]

/-- `topic_value` with the current number of subscribers. -/
def topicValueWithCount (topic : TopicRecord) : Value :=
  topicValue topic (core.subscriberList topic.topicId).length

/-- `mission_change_values`. -/
def missionChangeValues (missionUid : Option String) : List Value :=
  (core.missionChangeList.filter fun change =>
    missionUid.all fun uid => change.missionUid == uid).map missionChangeValue

/-- `log_entry_values`. -/
def logEntryValues (missionUid markerRef : Option String) : List Value :=
  ((core.logEntryList.filter fun entry => missionUid.all fun uid => entry.missionUid == uid).filter
    fun entry => markerRef.all fun markerRef => entry.contentHashes.contains markerRef).map
    logEntryValue

/-- `team_values`. -/
def teamValues (missionUid : Option String) : List Value :=
  (core.teamList.filter fun team => missionUid.all fun uid => team.missionUids.contains uid).map
    teamValue

/-- `team_member_values`. -/
def teamMemberValues (teamUid : Option String) : List Value :=
  (core.teamMemberList.filter fun member =>
    teamUid.all fun uid => member.teamUid == some uid).map teamMemberValue

/-- `team_member_subject_values`. -/
def teamMemberSubjectValues (missionUid : Option String) : List Value :=
  let missionUids (member : TeamMemberRecord) : List String :=
    member.teamUid.elim [] core.teamMissionIds
  (core.teamMemberList.filter fun member =>
    missionUid.all fun uid => (missionUids member).contains uid).map fun member =>
    .object [
      ("subject_type", toValue "team_member"),
      ("subject_id", toValue member.uid),
      ("team_member_uid", toValue member.uid),
      ("rns_identity", toValue member.rnsIdentity),
      ("display_name", toValue member.displayName),
      ("team_uid", toValue member.teamUid),
      ("team_name", toValue ((member.teamUid.bind core.teams.get).map TeamRecord.teamName)),
      ("client_identities", toValue member.clientIdentities),
      ("mission_uids", toValue (missionUids member))]

omit [Host] in
/-- `mission_access_assignment_values`. -/
def missionAccessAssignmentValues (missionUid subjectType subjectId : Option String) : List Value :=
  let subjectType := subjectType.bind fun value => (normalizeSubjectType value).toOption
  let subjectId := subjectType.bind fun subjectType =>
    subjectId.bind fun subjectId => (normalizeSubjectId subjectType subjectId).toOption
  (core.missionAccessAssignmentRecords.filter fun assignment =>
    (missionUid.all fun uid => assignment.missionUid == uid) &&
      (subjectType.all fun value => assignment.subjectType == value) &&
      (subjectId.all fun value => assignment.subjectId == value)).map missionAccessAssignmentValue

/-- `asset_values`. -/
def assetValues (teamMemberUid : Option String) : List Value :=
  (core.assetList.filter fun asset =>
    teamMemberUid.all fun uid => asset.teamMemberUid == some uid).map assetValue

omit [Host] in
/-- `team_member_skill_values`. -/
def teamMemberSkillValues (identity : Option String) : List Value :=
  (core.teamMemberSkillList.filter fun record =>
    identity.all fun identity => record.teamMemberRnsIdentity == identity).map teamMemberSkillValue

omit [Host] in
/-- `task_skill_requirement_values`. -/
def taskSkillRequirementValues (taskUid : Option String) : List Value :=
  (core.taskSkillRequirementList.filter fun record =>
    taskUid.all fun taskUid => record.taskUid == taskUid).map taskSkillRequirementValue

/-- `assignment_values`. -/
def assignmentValues (missionUid taskUid : Option String) : List Value :=
  ((core.assignmentList.filter fun record =>
    missionUid.all fun uid => record.missionUid == uid).filter fun record =>
    taskUid.all fun uid => record.taskUid == uid).map core.assignmentValue

/-- The expansions `all` stands for. -/
def missionExpansions : List String :=
  ["topic", "teams", "team_members", "assets", "mission_changes", "log_entries", "assignments",
    "checklists", "mission_rde"]

/-- The expansions one token of `expand` asks for. -/
def expandToken (raw : String) : List String :=
  let token := toAsciiLowercase (trim raw)
  let mapped :=
    match token with
    | "team" => "teams"
    | "members" | "member" | "team_members" | "teammembers" => "team_members"
    | "changes" | "change" => "mission_changes"
    | "logs" | "log" | "entries" => "log_entries"
    | "assignment" => "assignments"
    | "checklist" => "checklists"
    | "rde" => "mission_rde"
    | other => other
  if mapped = "all" then missionExpansions
  else if mapped ∈ missionExpansions then [mapped]
  else []

/-- `mission_expand_values`. -/
def missionExpandValues (args : Value) : List String :=
  match args.get "expand" with
  | none => []
  | some (.string text) => (splitOnChar ',' text).flatMap expandToken
  | some (.array values) => (values.filterMap Value.asStr).flatMap expandToken
  | some expand => expandToken (Host.valueText expand)

/-- `mission_value_with_args`. -/
def missionValueWithArgs (mission : MissionRecord) (args : Value) : Value :=
  let expand := missionExpandValues args
  let teamUids := core.missionTeamIdsForExpand mission.uid
  let members := core.teamMemberList.filter fun member =>
    member.teamUid.any fun teamUid => teamUids.contains teamUid
  let section_ (name : String) (item : Value) (payload : Value) : Value :=
    if expand.contains name then payload.insert name item else payload
  section_ "mission_rde" (.object [
      ("mission_uid", toValue mission.uid),
      ("role", toValue mission.missionRdeRole),
      ("updated_at", toValue (millisToRfc3339 mission.updatedTsMs))]) <|
  section_ "checklists" (.array ((core.checklistList.filter fun checklist =>
    checklist.missionUid == some mission.uid).map core.checklistValue)) <|
  section_ "assignments" (.array (core.assignmentValues (some mission.uid) none)) <|
  section_ "log_entries" (.array (core.logEntryValues (some mission.uid) none)) <|
  section_ "mission_changes" (.array (core.missionChangeValues (some mission.uid))) <|
  section_ "assets" (.array ((core.assetList.filter fun asset =>
    asset.teamMemberUid.any fun uid => (members.map TeamMemberRecord.uid).contains uid).map
    assetValue)) <|
  section_ "team_members" (.array (members.map teamMemberValue)) <|
  section_ "teams" (.array ((core.teamList.filter fun team =>
    teamUids.contains team.uid).map teamValue)) <|
  section_ "topic" (((mission.topicId.bind core.topics.get).map core.topicValueWithCount).getD .null) <|
  core.missionValue mission

/-- `limited_mission_values`. -/
def limitedMissionValues (args : Value) : List Value :=
  let limit := (((args.get "limit").bind valueAsI64).map fun value => (max 1 (min value 2000)).toNat).getD 200
  (core.missionList.take limit).map fun mission => core.missionValueWithArgs mission args

end RchCore

/-! ## Deltas of a mission change -/

omit [Host] in
/-- `payload.get(key).cloned().unwrap_or(Value::Null)`. -/
def payloadField (payload : Value) (key : String) : Value := (payload.get key).getD .null

/-- The envelope every delta is sent in. -/
def missionChangeDelta (sourceEventType : String) (emittedAt : String)
    (assets tasks checklists : List Value) : Value :=
  .object [
    ("version", toValue (1 : Nat)),
    ("contract_version", toValue "r3akt.mission.change.v1"),
    ("source_event_type", toValue sourceEventType),
    ("emitted_at", toValue emittedAt),
    ("logs", .array []),
    ("assets", .array assets),
    ("tasks", .array tasks),
    ("checklists", .array checklists)]

omit [Host] in
/-- `asset_mission_delta`. -/
def assetMissionDelta (asset : AssetRecord) (sourceEventType : String) : Value :=
  .object [
    ("op", toValue (if sourceEventType = "mission.asset.deleted" then "delete" else "upsert")),
    ("asset_uid", toValue asset.assetUid),
    ("team_member_uid", toValue asset.teamMemberUid),
    ("name", toValue asset.name),
    ("asset_type", toValue asset.assetType),
    ("status", toValue asset.status),
    ("location", toValue asset.location),
    ("notes", toValue asset.notes)]

omit [Host] in
/-- `assignment_mission_delta`. -/
def assignmentMissionDelta (core : RchCore) (assignment : AssignmentRecord) (op : String)
    (assetUid : Option String) : Value :=
  let delta : Value := .object [
    ("op", toValue op),
    ("mission_uid", toValue assignment.missionUid),
    ("task_uid", toValue assignment.taskUid),
    ("assignment_uid", toValue assignment.assignmentUid),
    ("team_member_rns_identity", toValue assignment.teamMemberRnsIdentity),
    ("status", toValue assignment.status),
    ("due_dtg", toValue assignment.dueDtg),
    ("notes", toValue assignment.notes),
    ("assets", toValue (core.assignmentAssets assignment.assignmentUid assignment.assets))]
  match assetUid with
  | some assetUid => delta.insert "asset_uid" (toValue assetUid)
  | none => delta

/-- `checklist_task_from_payload`. -/
def checklistTaskFromPayload (payload args : Value) : Option Value := do
  let tasks ← (payload.get "tasks").bind Value.asArray
  let taskUid ← optionalText args ["task_uid"]
  tasks.find? fun task => (task.get "task_uid").bind valueAsStr == some taskUid

/-- `checklist_task_row_added_delta`. -/
def checklistTaskRowAddedDelta (payload args : Value) : Option Value := do
  let tasks ← (payload.get "tasks").bind Value.asArray
  let selected ←
    match optionalText args ["task_uid"], (args.get "number").bind valueAsI64 with
    | some taskUid, _ => tasks.find? fun task => (task.get "task_uid").bind valueAsStr == some taskUid
    | none, some number =>
      tasks.reverse.find? fun task => (task.get "number").bind valueAsI64 == some number
    | none, none => tasks.getLast?
  return .object [
    ("op", toValue "row_added"),
    ("mission_uid", payloadField payload "mission_id"),
    ("checklist_uid", payloadField payload "uid"),
    ("task_uid", payloadField selected "task_uid"),
    ("number", payloadField selected "number"),
    ("status", payloadField selected "task_status"),
    ("user_status", payloadField selected "user_status"),
    ("due_dtg", payloadField selected "due_dtg"),
    ("due_relative_minutes", payloadField selected "due_relative_minutes"),
    ("notes", payloadField selected "notes"),
    ("legacy_value", payloadField selected "legacy_value")]

omit [Host] in
/-- `payload.get("mission_uid").or_else(|| payload.get("mission_id"))`. -/
def payloadMission (payload : Value) : Value :=
  ((payload.get "mission_uid").or (payload.get "mission_id")).getD .null

omit [Host] in
/-- The fields every task delta starts with. -/
def taskDeltaHead (op : String) (payload selected : Value) : List (String × Value) :=
  [("op", toValue op),
    ("mission_uid", payloadMission payload),
    ("checklist_uid", payloadField payload "uid"),
    ("task_uid", payloadField selected "task_uid"),
    ("number", payloadField selected "number"),
    ("notes", payloadField selected "notes"),
    ("legacy_value", payloadField selected "legacy_value")]

/-- `checklist_task_row_style_delta`. -/
def checklistTaskRowStyleDelta (payload args : Value) : Option Value := do
  let selected ← checklistTaskFromPayload payload args
  return .object (taskDeltaHead "row_style_set" payload selected ++ [
    ("row_background_color", payloadField selected "row_background_color"),
    ("line_break_enabled", payloadField selected "line_break_enabled")])

/-- `checklist_task_cell_set_delta`. -/
def checklistTaskCellSetDelta (payload args : Value) : Option Value × Option String :=
  match checklistTaskFromPayload payload args, optionalText args ["column_uid"] with
  | some selected, some columnUid =>
    let cell := ((selected.get "cells").bind Value.asArray).bind fun cells =>
      cells.find? fun cell => (cell.get "column_uid").bind valueAsStr == some columnUid
    let updatedBy := ((cell.bind fun cell => cell.get "updated_by_team_member_rns_identity").bind
      valueAsStr).bind noneIfEmpty
    (some (.object (taskDeltaHead "cell_set" payload selected ++ [
      ("column_uid", toValue columnUid),
      ("value", (cell.bind fun cell => cell.get "value").getD .null),
      ("updated_by_team_member_rns_identity", toValue updatedBy),
      ("updated_at", (cell.bind fun cell => cell.get "updated_at").getD .null)])), updatedBy)
  | _, _ => (none, none)

/-- `checklist_task_status_set_delta`. -/
def checklistTaskStatusSetDelta (payload args : Value) (previousStatus : Option String) :
    Option Value × Option String :=
  match checklistTaskFromPayload payload args with
  | none => (none, none)
  | some selected =>
    let changedBy :=
      (optionalTextOrEmpty args ["changed_by_team_member_rns_identity"]).bind noneIfEmpty
    (some (.object (taskDeltaHead "status_set" payload selected ++ [
      ("previous_status", toValue previousStatus),
      ("current_status", payloadField selected "task_status"),
      ("user_status", payloadField selected "user_status"),
      ("changed_by_team_member_rns_identity", toValue changedBy),
      ("changed_at", payloadField selected "updated_at"),
      ("completed_at", payloadField selected "completed_at"),
      ("due_dtg", payloadField selected "due_dtg")])), changedBy)

/-- `checklist_task_row_deleted_delta`. -/
def checklistTaskRowDeletedDelta (core : RchCore) (args : Value) : Option Value := do
  let checklistUid ← optionalText args ["checklist_uid"]
  let taskUid ← optionalText args ["task_uid"]
  let checklist ← core.checklists.get checklistUid
  let task ← (core.checklistTasks.get taskUid).filter fun task => task.checklistUid == checklistUid
  return .object [
    ("op", toValue "row_deleted"),
    ("mission_uid", toValue checklist.missionUid),
    ("checklist_uid", toValue checklistUid),
    ("task_uid", toValue task.taskUid),
    ("number", toValue task.number),
    ("status", toValue task.taskStatus),
    ("user_status", toValue task.userStatus)]

end
end TelemetryHub
