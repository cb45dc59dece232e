import TelemetryHub.Edits.Rights
import TelemetryHub.Core.Snapshot
import TelemetryHub.Lib.Filing

/-!
# Whole snapshots

What `snapshot` takes and `from_snapshot` builds beside the topics, the subscriptions and the
skill records: the tables under one key, the links, the lists and the rights. None of it is
refused.
-/

namespace TelemetryHub

open Lib CoreM

/-- `RchCoreSnapshot`, in all its tables. -/
structure WholeSnapshot extends RchCoreSnapshot where
  messages : List MessageRecord
  clients : List ClientRecord
  identityAnnounces : List IdentityAnnounceRecord
  identityStates : List IdentityStateRecord
  identityRemModes : List IdentityRemModeRecord
  auditEvents : List MissionAuditEvent
  systemEvents : List SystemEventRecord
  telemetryRecords : List TelemetryRecord
  markers : List MarkerRecord
  zones : List ZoneRecord
  missions : List MissionRecord
  missionChanges : List MissionChangeRecord
  logEntries : List LogEntryRecord
  fileAttachments : List FileAttachmentRecord
  eamSnapshots : List EamSnapshotRecord
  teams : List TeamRecord
  missionTeamLinks : List (String × String)
  missionZoneLinks : List (String × String)
  missionMarkerLinks : List (String × String)
  teamMembers : List TeamMemberRecord
  teamMemberClientLinks : List (String × String)
  assets : List AssetRecord
  skills : List SkillRecord
  assignments : List AssignmentRecord
  assignmentAssetLinks : List (String × String)
  checklists : List ChecklistRecord
  checklistTemplates : List ChecklistTemplateRecord
  checklistColumns : List ChecklistColumnRecord
  checklistTasks : List ChecklistTaskRecord
  checklistCells : List ChecklistCellRecord
  checklistFeedPublications : List ChecklistFeedPublicationRecord
  commandResults : List CommandResultEnvelope
  identityCapabilities : List IdentityCapabilityGrant
  missionAccessAssignments : List MissionAccessAssignment
  subjectOperationRights : List SubjectOperationRight
  authorizationRequired : Bool

/-- `snapshot`. -/
def RchCore.wholeSnapshot (core : RchCore) : WholeSnapshot where
  toRchCoreSnapshot := core.snapshot
  messages := core.messages
  clients := core.clientList
  identityAnnounces := core.identityAnnounceList
  identityStates := core.identityStateList
  identityRemModes := core.identityRemModeList
  auditEvents := core.auditEvents
  systemEvents := core.systemEvents
  telemetryRecords := core.telemetryRecords
  markers := core.markerList
  zones := core.zoneList
  missions := core.missionList
  missionChanges := core.missionChangeList
  logEntries := core.logEntryList
  fileAttachments := core.fileAttachmentList
  eamSnapshots := core.eamSnapshotList
  teams := core.teamList
  missionTeamLinks := RchCore.linkRecords core.missionTeamLinks
  missionZoneLinks := RchCore.linkRecords core.missionZoneLinks
  missionMarkerLinks := RchCore.linkRecords core.missionMarkerLinks
  teamMembers := core.teamMemberList
  teamMemberClientLinks := RchCore.linkRecords core.teamMemberClientLinks
  assets := core.assetList
  skills := core.skillList
  assignments := core.assignmentList
  assignmentAssetLinks := RchCore.linkRecords core.assignmentAssetLinks
  checklists := core.checklistList
  checklistTemplates := core.checklistTemplateList
  checklistColumns := core.checklistColumnList
  checklistTasks := core.checklistTaskList
  checklistCells := core.checklistCellList
  checklistFeedPublications := core.checklistFeedPublicationList
  commandResults := sortBy (fun left right => compare left.commandId right.commandId) core.commandResults.values
  identityCapabilities := core.identityCapabilityGrantRecords
  missionAccessAssignments := core.missionAccessAssignmentRecords
  subjectOperationRights := core.subjectOperationRightRecords
  authorizationRequired := core.authorizationRequired

/-- `grant_identity_capability`, on the table. -/
def withGrant (capabilities : Dict String (HSet String)) (grant : IdentityCapabilityGrant) : Dict String (HSet String) :=
  match normalizeHash grant.identity with
  | some identity => addValue capabilities (identity, grant.capability)
  | none => capabilities

theorem run_grantIdentityCapability (identity capability : String) (w : World) :
    (grantIdentityCapability identity capability).run w = (.ok (), { w with core := { w.core with
      identityCapabilities := withGrant w.core.identityCapabilities { identity, capability } } }) := by
  unfold grantIdentityCapability withGrant
  dsimp only
  cases normalizeHash identity <;> rfl

/-- The identity a client is filed under. -/
def ClientRecord.key (client : ClientRecord) : Option String := normalizeHash client.identity

/-- `from_snapshot`. -/
def RchCore.fromWholeSnapshot (snapshot : WholeSnapshot) : Except RchCoreError RchCore := do
  let core ← RchCore.fromSnapshot snapshot.toRchCoreSnapshot
  return { core with
    messages := snapshot.messages
    clients := refileSome ClientRecord.key snapshot.clients
    identityAnnounces := refile IdentityAnnounceRecord.destinationHash id snapshot.identityAnnounces
    identityStates := refile IdentityStateRecord.identity id snapshot.identityStates
    identityRemModes := refile IdentityRemModeRecord.identity id snapshot.identityRemModes
    auditEvents := snapshot.auditEvents
    systemEvents := snapshot.systemEvents
    telemetryRecords := snapshot.telemetryRecords
    markers := refile MarkerRecord.objectDestinationHash id snapshot.markers
    zones := refile ZoneRecord.zoneId id snapshot.zones
    missions := refile MissionRecord.uid id snapshot.missions
    missionChanges := refile MissionChangeRecord.uid id snapshot.missionChanges
    logEntries := refile LogEntryRecord.entryUid id snapshot.logEntries
    fileAttachments := refile FileAttachmentRecord.fileId id snapshot.fileAttachments
    eamSnapshots := refile EamSnapshotRecord.eamUid id snapshot.eamSnapshots
    teams := refile TeamRecord.uid id snapshot.teams
    missionTeamLinks := HSet.extend ∅ snapshot.missionTeamLinks
    missionZoneLinks := HSet.extend ∅ snapshot.missionZoneLinks
    missionMarkerLinks := HSet.extend ∅ snapshot.missionMarkerLinks
    teamMembers := refile TeamMemberRecord.uid id snapshot.teamMembers
    teamMemberClientLinks := HSet.extend ∅ snapshot.teamMemberClientLinks
    assets := refile AssetRecord.assetUid id snapshot.assets
    skills := refile SkillRecord.skillUid id snapshot.skills
    assignments := refile AssignmentRecord.assignmentUid id snapshot.assignments
    assignmentAssetLinks := HSet.extend ∅ snapshot.assignmentAssetLinks
    checklists := refile ChecklistRecord.uid id snapshot.checklists
    checklistTemplates := refile ChecklistTemplateRecord.uid id snapshot.checklistTemplates
    checklistColumns := refile ChecklistColumnRecord.columnUid id snapshot.checklistColumns
    checklistTasks := refile ChecklistTaskRecord.taskUid id snapshot.checklistTasks
    checklistCells := refile ChecklistCellRecord.cellUid id snapshot.checklistCells
    checklistFeedPublications := refile ChecklistFeedPublicationRecord.publicationUid id snapshot.checklistFeedPublications
    commandResults := refile CommandResultEnvelope.commandId id snapshot.commandResults
    identityCapabilities := snapshot.identityCapabilities.foldl withGrant ∅
    missionAccessAssignments := refile MissionAccessAssignment.key id snapshot.missionAccessAssignments
    subjectOperationRights := refile SubjectOperationRight.key id snapshot.subjectOperationRights
    authorizationRequired := snapshot.authorizationRequired }

end TelemetryHub
