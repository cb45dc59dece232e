import Mathlib.Data.List.Sort
import TelemetryHub.Core.Args

/-!
# Listings

The core's records in the order its accessors list them.
-/

namespace TelemetryHub

open Lib

/-- `sort_by`: a stable sort. -/
def sortBy {α : Type} (cmp : α → α → Ordering) (records : List α) : List α :=
  records.insertionSort fun left right => cmp left right ≠ .gt

theorem sortBy_perm {α : Type} (cmp : α → α → Ordering) (records : List α) : (sortBy cmp records).Perm records :=
  List.perm_insertionSort _ _

theorem mem_sortBy {α : Type} {cmp : α → α → Ordering} {records : List α} {a : α} :
    a ∈ sortBy cmp records ↔ a ∈ records := (sortBy_perm cmp records).mem_iff

/-- `max_by`: of several largest the last. -/
def maxBy {α : Type} (cmp : α → α → Ordering) (items : List α) : Option α :=
  items.foldl (fun best item =>
    match best with
    | some other => if cmp other item = .gt then some other else some item
    | none => some item) none

namespace RchCore

variable (core : RchCore)

/-- `RchCore::topics`. -/
def topicList : List TopicRecord :=
  sortBy (fun left right =>
    (compare left.createdTsMs right.createdTsMs).then (compare left.topicId right.topicId))
    core.topics.values

/-- `RchCore::subscribers`. -/
def subscriberList (topicId : String) : List SubscriberRecord :=
  match normalizeTopicId topicId with
  | none => []
  | some topicId =>
    sortBy (fun left right => compare left.nodeId right.nodeId)
      ((core.subscribers.toPairs.filter fun e => e.1.2 == topicId).map Prod.snd)

/-- `RchCore::clients`. -/
def clientList : List ClientRecord :=
  sortBy (fun left right => compare left.identity right.identity) core.clients.values

/-- `RchCore::identity_announces`. -/
def identityAnnounceList : List IdentityAnnounceRecord :=
  sortBy (fun left right => compare left.destinationHash right.destinationHash)
    core.identityAnnounces.values

/-- `RchCore::identity_states`. -/
def identityStateList : List IdentityStateRecord :=
  sortBy (fun left right => compare left.identity right.identity) core.identityStates.values

/-- `RchCore::identity_rem_modes`. -/
def identityRemModeList : List IdentityRemModeRecord :=
  sortBy (fun left right => compare left.identity right.identity) core.identityRemModes.values

/-- `RchCore::markers`. -/
def markerList : List MarkerRecord :=
  sortBy (fun left right => compare left.objectDestinationHash right.objectDestinationHash)
    core.markers.values

/-- `RchCore::zones`. -/
def zoneList : List ZoneRecord :=
  sortBy (fun left right => compare left.zoneId right.zoneId) core.zones.values

/-- `RchCore::missions`. -/
def missionList : List MissionRecord :=
  sortBy (fun left right =>
    (compare right.createdTsMs left.createdTsMs).then (compare left.uid right.uid))
    core.missions.values

/-- `RchCore::mission_changes`. -/
def missionChangeList : List MissionChangeRecord :=
  sortBy (fun left right =>
    (compare right.timestampMs left.timestampMs).then (compare left.uid right.uid))
    core.missionChanges.values

/-- `RchCore::file_attachments`. -/
def fileAttachmentList : List FileAttachmentRecord :=
  sortBy (fun left right => compare left.fileId right.fileId) core.fileAttachments.values

/-- `RchCore::log_entries`. -/
def logEntryList : List LogEntryRecord :=
  sortBy (fun left right =>
    (compare right.serverTimeMs left.serverTimeMs).then (compare left.entryUid right.entryUid))
    core.logEntries.values

/-- `RchCore::eam_snapshots`. -/
def eamSnapshotList : List EamSnapshotRecord :=
  sortBy (fun left right =>
    (compare left.callsign right.callsign).then (compare left.teamMemberUid right.teamMemberUid))
    core.eamSnapshots.values

/-- `RchCore::teams`. -/
def teamList : List TeamRecord :=
  sortBy (fun left right => compare left.teamName right.teamName) core.teams.values

/-- `RchCore::team_members`. -/
def teamMemberList : List TeamMemberRecord :=
  sortBy (fun left right => compare left.displayName right.displayName) core.teamMembers.values

/-- `RchCore::assets`. -/
def assetList : List AssetRecord :=
  sortBy (fun left right => compare left.name right.name) core.assets.values

/-- `RchCore::skills`. -/
def skillList : List SkillRecord :=
  sortBy (fun left right => compare left.name right.name) core.skills.values

/-- `RchCore::team_member_skills`. -/
def teamMemberSkillList : List TeamMemberSkillRecord :=
  sortBy (fun left right =>
    (compare left.teamMemberRnsIdentity right.teamMemberRnsIdentity).then
      (compare left.skillUid right.skillUid))
    core.teamMemberSkills.values

/-- `RchCore::task_skill_requirements`. -/
def taskSkillRequirementList : List TaskSkillRequirementRecord :=
  sortBy (fun left right =>
    (compare left.taskUid right.taskUid).then (compare left.skillUid right.skillUid))
    core.taskSkillRequirements.values

/-- `RchCore::assignments`. -/
def assignmentList : List AssignmentRecord :=
  sortBy (fun left right =>
    (compare right.assignedTsMs left.assignedTsMs).then
      (compare left.assignmentUid right.assignmentUid))
    core.assignments.values

/-- `RchCore::checklists`. -/
def checklistList : List ChecklistRecord :=
  sortBy (fun left right => compare left.name right.name) core.checklists.values

/-- `RchCore::checklist_templates`. -/
def checklistTemplateList : List ChecklistTemplateRecord :=
  sortBy (fun left right => compare left.templateName right.templateName)
    core.checklistTemplates.values

/-- `RchCore::checklist_columns`. -/
def checklistColumnList : List ChecklistColumnRecord :=
  sortBy (fun left right =>
    ((compare left.checklistUid right.checklistUid).then
      (compare left.templateUid right.templateUid)).then
      (compare left.displayOrder right.displayOrder))
    core.checklistColumns.values

/-- `RchCore::checklist_tasks`. -/
def checklistTaskList : List ChecklistTaskRecord :=
  sortBy (fun left right =>
    (compare left.checklistUid right.checklistUid).then (compare left.number right.number))
    core.checklistTasks.values

/-- `RchCore::checklist_cells`. -/
def checklistCellList : List ChecklistCellRecord :=
  sortBy (fun left right =>
    (compare left.taskUid right.taskUid).then (compare left.columnUid right.columnUid))
    core.checklistCells.values

/-- `RchCore::checklist_feed_publications`. -/
def checklistFeedPublicationList : List ChecklistFeedPublicationRecord :=
  sortBy (fun left right =>
    ((compare left.checklistUid right.checklistUid).then
      (compare right.publishedTsMs left.publishedTsMs)).then
      (compare left.publicationUid right.publicationUid))
    core.checklistFeedPublications.values

/-- `mission_access_assignment_records`. -/
def missionAccessAssignmentRecords : List MissionAccessAssignment :=
  sortBy (fun left right =>
    ((compare left.missionUid right.missionUid).then
      (compare left.subjectType right.subjectType)).then
      (compare left.subjectId right.subjectId))
    core.missionAccessAssignments.values

/-- `subject_operation_right_records`. -/
def subjectOperationRightRecords : List SubjectOperationRight :=
  sortBy (fun left right =>
    ((((compare left.subjectType right.subjectType).then
      (compare left.subjectId right.subjectId)).then
      (compare left.operation right.operation)).then
      (compare left.scopeType right.scopeType)).then
      (compare left.scopeId right.scopeId))
    core.subjectOperationRights.values

/-- `identity_capability_grant_records`. -/
def identityCapabilityGrantRecords : List IdentityCapabilityGrant :=
  sortBy (fun left right =>
    (compare left.identity right.identity).then (compare left.capability right.capability))
    (core.identityCapabilities.toPairs.flatMap fun e =>
      e.2.toList.map fun capability => { identity := e.1, capability := capability })

/-- The pairs of a link set, sorted as the link records are. -/
def linkRecords (links : HSet (String × String)) : List (String × String) :=
  sortBy (fun left right => (compare left.1 right.1).then (compare left.2 right.2)) links.toList

/-- The second components of the pairs that start with `key`, sorted. -/
def linkedTo (links : HSet (String × String)) (key : String) : List String :=
  sortBy compare ((links.toList.filter fun link => link.1 == key).map Prod.snd)

/-- `mission_zone_ids`. -/
def missionZoneIds (missionUid : String) : List String := linkedTo core.missionZoneLinks missionUid

/-- `mission_marker_ids`. -/
def missionMarkerIds (missionUid : String) : List String :=
  linkedTo core.missionMarkerLinks missionUid

/-- `team_member_client_ids`. -/
def teamMemberClientIds (uid : String) : List String := linkedTo core.teamMemberClientLinks uid

/-- `assignment_assets`. -/
def assignmentAssets (assignmentUid : String) (fallbackAssets : List String) : List String :=
  let assets := linkedTo core.assignmentAssetLinks assignmentUid
  if assets.isEmpty then fallbackAssets else assets

/-- `mission_children`. -/
def missionChildren (missionUid : String) : List String :=
  sortBy compare ((core.missions.values.filter fun mission =>
    mission.parentUid == some missionUid).map MissionRecord.uid)

/-- `team_mission_ids`. -/
def teamMissionIds (teamUid : String) : List String :=
  let linked := (core.missionTeamLinks.toList.filter fun link => link.2 == teamUid).map Prod.fst
  dedupeNonEmpty (linked ++ ((core.teams.get teamUid).bind TeamRecord.missionUid).toList)

/-- `mission_team_ids_for_expand`. -/
def missionTeamIdsForExpand (missionUid : String) : List String :=
  let linked := (core.missionTeamLinks.toList.filter fun link => link.1 == missionUid).map Prod.snd
  dedupeNonEmpty (linked ++ (core.teams.values.filter fun team =>
    team.missionUid == some missionUid).map TeamRecord.uid)

/-- `mission_uids_for_topic`. -/
def missionUidsForTopic (topicId : String) : List String :=
  match normalizeTopicId topicId with
  | none => []
  | some topicId =>
    (core.missions.values.filter fun mission => mission.topicId == some topicId).map MissionRecord.uid

/-- `mission_uids_for_team_member`. -/
def missionUidsForTeamMember (memberUid : String) : List String :=
  match (core.teamMembers.get memberUid).bind TeamMemberRecord.teamUid with
  | none => []
  | some teamUid => core.teamMissionIds teamUid

/-- `columns_for_checklist`. -/
def columnsForChecklist (checklistUid : String) : List ChecklistColumnRecord :=
  sortBy (fun left right => compare left.displayOrder right.displayOrder)
    (core.checklistColumns.values.filter fun column => column.checklistUid == some checklistUid)

/-- `identity_blocked`. -/
def identityBlocked (identity : String) : Bool :=
  (core.identityStates.get identity).any fun state => state.isBanned || state.isBlackholed

/-- `effective_rem_connected_mode`. -/
def effectiveRemConnectedMode : Bool :=
  core.identityRemModes.values.any fun record => eqIgnoreAsciiCase (trim record.mode) "connected"

end RchCore
end TelemetryHub
