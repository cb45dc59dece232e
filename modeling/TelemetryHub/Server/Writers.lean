import TelemetryHub.Core.WholeSnapshot
import TelemetryHub.Lib.DeltaSave
import TelemetryHub.Runs.Mirrors
import TelemetryHub.Server.Tables

/-!
# Writers of the store

A command is carried out on a core loaded for it, table by table, and the core is saved over the
tables it was loaded from, by the requests and by the inbound worker, each on a connection of its
own. Nothing keeps one of them from saving while another has loaded and not saved yet.
-/

namespace TelemetryHub

open Lib

/-! ## Tables -/

/-- What is in a row: a payload, or the value of a setting. -/
inductive StoreRow where
  | topic (record : TopicRecord)
  | subscriber (record : SubscriberRecord)
  | client (record : ClientRecord)
  | identityAnnounce (record : IdentityAnnounceRecord)
  | identityState (record : IdentityStateRecord)
  | identityRemMode (record : IdentityRemModeRecord)
  | marker (record : MarkerRecord)
  | zone (record : ZoneRecord)
  | mission (record : MissionRecord)
  | missionChange (record : MissionChangeRecord)
  | logEntry (record : LogEntryRecord)
  | eamSnapshot (record : EamSnapshotRecord)
  | team (record : TeamRecord)
  | link (record : String × String)
  | teamMember (record : TeamMemberRecord)
  | asset (record : AssetRecord)
  | skill (record : SkillRecord)
  | teamMemberSkill (record : TeamMemberSkillRecord)
  | taskSkillRequirement (record : TaskSkillRequirementRecord)
  | assignment (record : AssignmentRecord)
  | checklist (record : ChecklistRecord)
  | checklistTemplate (record : ChecklistTemplateRecord)
  | checklistColumn (record : ChecklistColumnRecord)
  | checklistTask (record : ChecklistTaskRecord)
  | checklistCell (record : ChecklistCellRecord)
  | checklistFeedPublication (record : ChecklistFeedPublicationRecord)
  | commandResult (record : CommandResultEnvelope)
  | identityCapability (record : IdentityCapabilityGrant)
  | missionAccessAssignment (record : MissionAccessAssignment)
  | subjectOperationRight (record : SubjectOperationRight)
  | setting (value : String)

/-- A table: the records of a snapshot that are in it, the texts of their key columns, and their
payloads, which are read back as they are. -/
structure StoreTable where
  name : String
  Record : Type
  field : WholeSnapshot → List Record
  key : Record → List String
  payload : Record → StoreRow
  record : StoreRow → Option Record
  record_payload : ∀ r, record (payload r) = some r

/-- The rows of a snapshot. -/
def StoreTable.rows (table : StoreTable) (snapshot : WholeSnapshot) : List (List String × StoreRow) :=
  (table.field snapshot).map fun r => (table.key r, table.payload r)

def topicsTable : StoreTable :=
  ⟨"rch_topics", TopicRecord, (·.topics), fun r => [r.topicId], .topic,
    fun | .topic r => some r | _ => none, fun _ => rfl⟩

def subscribersTable : StoreTable :=
  ⟨"rch_subscribers", SubscriberRecord, (·.subscribers), fun r => [r.nodeId, r.topicId], .subscriber,
    fun | .subscriber r => some r | _ => none, fun _ => rfl⟩

def clientsTable : StoreTable :=
  ⟨"rch_clients", ClientRecord, (·.clients), fun r => [r.identity], .client,
    fun | .client r => some r | _ => none, fun _ => rfl⟩

def identityAnnouncesTable : StoreTable :=
  ⟨"rch_identity_announces", IdentityAnnounceRecord, (·.identityAnnounces), fun r => [r.destinationHash],
    .identityAnnounce, fun | .identityAnnounce r => some r | _ => none, fun _ => rfl⟩

def identityStatesTable : StoreTable :=
  ⟨"rch_identity_states", IdentityStateRecord, (·.identityStates), fun r => [r.identity], .identityState,
    fun | .identityState r => some r | _ => none, fun _ => rfl⟩

def identityRemModesTable : StoreTable :=
  ⟨"rch_identity_rem_modes", IdentityRemModeRecord, (·.identityRemModes), fun r => [r.identity], .identityRemMode,
    fun | .identityRemMode r => some r | _ => none, fun _ => rfl⟩

def markersTable : StoreTable :=
  ⟨"rch_markers", MarkerRecord, (·.markers), fun r => [r.objectDestinationHash], .marker,
    fun | .marker r => some r | _ => none, fun _ => rfl⟩

def zonesTable : StoreTable :=
  ⟨"rch_zones", ZoneRecord, (·.zones), fun r => [r.zoneId], .zone, fun | .zone r => some r | _ => none, fun _ => rfl⟩

def missionsTable : StoreTable :=
  ⟨"rch_missions", MissionRecord, (·.missions), fun r => [r.uid], .mission,
    fun | .mission r => some r | _ => none, fun _ => rfl⟩

def missionChangesTable : StoreTable :=
  ⟨"rch_mission_changes", MissionChangeRecord, (·.missionChanges), fun r => [r.uid], .missionChange,
    fun | .missionChange r => some r | _ => none, fun _ => rfl⟩

def logEntriesTable : StoreTable :=
  ⟨"rch_log_entries", LogEntryRecord, (·.logEntries), fun r => [r.entryUid], .logEntry,
    fun | .logEntry r => some r | _ => none, fun _ => rfl⟩

def eamSnapshotsTable : StoreTable :=
  ⟨"rch_eam_snapshots", EamSnapshotRecord, (·.eamSnapshots), fun r => [r.eamUid], .eamSnapshot,
    fun | .eamSnapshot r => some r | _ => none, fun _ => rfl⟩

def teamsTable : StoreTable :=
  ⟨"rch_teams", TeamRecord, (·.teams), fun r => [r.uid], .team, fun | .team r => some r | _ => none, fun _ => rfl⟩

/-- A table of links. -/
def linksTable (name : String) (field : WholeSnapshot → List (String × String)) : StoreTable :=
  ⟨name, String × String, field, fun r => [r.1, r.2], .link, fun | .link r => some r | _ => none, fun _ => rfl⟩

def missionTeamLinksTable : StoreTable := linksTable "rch_mission_team_links" (·.missionTeamLinks)

def missionZoneLinksTable : StoreTable := linksTable "rch_mission_zone_links" (·.missionZoneLinks)

def missionMarkerLinksTable : StoreTable := linksTable "rch_mission_marker_links" (·.missionMarkerLinks)

def teamMembersTable : StoreTable :=
  ⟨"rch_team_members", TeamMemberRecord, (·.teamMembers), fun r => [r.uid], .teamMember,
    fun | .teamMember r => some r | _ => none, fun _ => rfl⟩

def teamMemberClientLinksTable : StoreTable := linksTable "rch_team_member_client_links" (·.teamMemberClientLinks)

def assetsTable : StoreTable :=
  ⟨"rch_assets", AssetRecord, (·.assets), fun r => [r.assetUid], .asset,
    fun | .asset r => some r | _ => none, fun _ => rfl⟩

def skillsTable : StoreTable :=
  ⟨"rch_skills", SkillRecord, (·.skills), fun r => [r.skillUid], .skill,
    fun | .skill r => some r | _ => none, fun _ => rfl⟩

def teamMemberSkillsTable : StoreTable :=
  ⟨"rch_team_member_skills", TeamMemberSkillRecord, (·.teamMemberSkills),
    fun r => [r.teamMemberRnsIdentity, r.skillUid], .teamMemberSkill,
    fun | .teamMemberSkill r => some r | _ => none, fun _ => rfl⟩

def taskSkillRequirementsTable : StoreTable :=
  ⟨"rch_task_skill_requirements", TaskSkillRequirementRecord, (·.taskSkillRequirements),
    fun r => [r.taskUid, r.skillUid], .taskSkillRequirement,
    fun | .taskSkillRequirement r => some r | _ => none, fun _ => rfl⟩

def assignmentsTable : StoreTable :=
  ⟨"rch_assignments", AssignmentRecord, (·.assignments), fun r => [r.assignmentUid], .assignment,
    fun | .assignment r => some r | _ => none, fun _ => rfl⟩

def assignmentAssetLinksTable : StoreTable := linksTable "rch_assignment_asset_links" (·.assignmentAssetLinks)

def checklistsTable : StoreTable :=
  ⟨"rch_checklists", ChecklistRecord, (·.checklists), fun r => [r.uid], .checklist,
    fun | .checklist r => some r | _ => none, fun _ => rfl⟩

def checklistTemplatesTable : StoreTable :=
  ⟨"rch_checklist_templates", ChecklistTemplateRecord, (·.checklistTemplates), fun r => [r.uid], .checklistTemplate,
    fun | .checklistTemplate r => some r | _ => none, fun _ => rfl⟩

def checklistColumnsTable : StoreTable :=
  ⟨"rch_checklist_columns", ChecklistColumnRecord, (·.checklistColumns), fun r => [r.columnUid], .checklistColumn,
    fun | .checklistColumn r => some r | _ => none, fun _ => rfl⟩

def checklistTasksTable : StoreTable :=
  ⟨"rch_checklist_tasks", ChecklistTaskRecord, (·.checklistTasks), fun r => [r.taskUid], .checklistTask,
    fun | .checklistTask r => some r | _ => none, fun _ => rfl⟩

def checklistCellsTable : StoreTable :=
  ⟨"rch_checklist_cells", ChecklistCellRecord, (·.checklistCells), fun r => [r.cellUid], .checklistCell,
    fun | .checklistCell r => some r | _ => none, fun _ => rfl⟩

def checklistFeedPublicationsTable : StoreTable :=
  ⟨"rch_checklist_feed_publications", ChecklistFeedPublicationRecord, (·.checklistFeedPublications),
    fun r => [r.publicationUid], .checklistFeedPublication,
    fun | .checklistFeedPublication r => some r | _ => none, fun _ => rfl⟩

def commandResultsTable : StoreTable :=
  ⟨"rch_command_results", CommandResultEnvelope, (·.commandResults), fun r => [r.commandId], .commandResult,
    fun | .commandResult r => some r | _ => none, fun _ => rfl⟩

def identityCapabilitiesTable : StoreTable :=
  ⟨"rch_identity_capabilities", IdentityCapabilityGrant, (·.identityCapabilities),
    fun r => [r.identity, r.capability], .identityCapability,
    fun | .identityCapability r => some r | _ => none, fun _ => rfl⟩

def missionAccessAssignmentsTable : StoreTable :=
  ⟨"rch_mission_access_assignments", MissionAccessAssignment, (·.missionAccessAssignments),
    fun r => [r.missionUid, r.subjectType, r.subjectId], .missionAccessAssignment,
    fun | .missionAccessAssignment r => some r | _ => none, fun _ => rfl⟩

def subjectOperationRightsTable : StoreTable :=
  ⟨"rch_subject_operation_rights", SubjectOperationRight, (·.subjectOperationRights),
    fun r => [r.subjectType, r.subjectId, r.operation, r.scopeType, r.scopeId], .subjectOperationRight,
    fun | .subjectOperationRight r => some r | _ => none, fun _ => rfl⟩

/-! ## Loads and saves -/

/-- The tables whose rows have keys of theirs, by their names. -/
abbrev StoreRows : Type := String → Dict (List String) StoreRow

/-- What the database holds; the audit events have no key. -/
structure Store where
  tables : StoreRows
  auditEvents : List MissionAuditEvent

/-- `load_payload_rows`, in the order of the keys: the maps of a core have none. -/
def loadRows (tables : StoreRows) (table : StoreTable) : List table.Record :=
  (sortBy (fun left right => compare left.1 right.1) (tables table.name).toPairs).filterMap fun row => table.record row.2

/-- The two ways in which commands reach the store. -/
inductive WriterKind where
  | r3akt
  | checklist

/-- `load_r3akt_read_snapshot`, of what its statements have read. -/
def loadR3aktReadSnapshot (tables : StoreRows) : WholeSnapshot where
  topics := loadRows tables topicsTable
  subscribers := loadRows tables subscribersTable
  messages := []
  clients := loadRows tables clientsTable
  identityAnnounces := loadRows tables identityAnnouncesTable
  identityStates := loadRows tables identityStatesTable
  identityRemModes := loadRows tables identityRemModesTable
  auditEvents := []
  systemEvents := []
  telemetryRecords := []
  markers := loadRows tables markersTable
  zones := loadRows tables zonesTable
  missions := loadRows tables missionsTable
  missionChanges := loadRows tables missionChangesTable
  logEntries := loadRows tables logEntriesTable
  fileAttachments := []
  eamSnapshots := loadRows tables eamSnapshotsTable
  teams := loadRows tables teamsTable
  missionTeamLinks := loadRows tables missionTeamLinksTable
  missionZoneLinks := loadRows tables missionZoneLinksTable
  missionMarkerLinks := loadRows tables missionMarkerLinksTable
  teamMembers := loadRows tables teamMembersTable
  teamMemberClientLinks := loadRows tables teamMemberClientLinksTable
  assets := loadRows tables assetsTable
  skills := loadRows tables skillsTable
  teamMemberSkills := loadRows tables teamMemberSkillsTable
  taskSkillRequirements := loadRows tables taskSkillRequirementsTable
  assignments := loadRows tables assignmentsTable
  assignmentAssetLinks := loadRows tables assignmentAssetLinksTable
  checklists := loadRows tables checklistsTable
  checklistTemplates := loadRows tables checklistTemplatesTable
  checklistColumns := loadRows tables checklistColumnsTable
  checklistTasks := loadRows tables checklistTasksTable
  checklistCells := loadRows tables checklistCellsTable
  checklistFeedPublications := loadRows tables checklistFeedPublicationsTable
  commandResults := []
  identityCapabilities := loadRows tables identityCapabilitiesTable
  missionAccessAssignments := loadRows tables missionAccessAssignmentsTable
  subjectOperationRights := loadRows tables subjectOperationRightsTable
  authorizationRequired := match (tables "rch_settings").get ["authorization_required"] with
    | some (.setting value) => value == "true"
    | _ => false

/-- `load_checklist_command_snapshot`, of what its statements have read. -/
def loadChecklistCommandSnapshot (tables : StoreRows) : WholeSnapshot :=
  { RchCore.new.wholeSnapshot with
    checklists := loadRows tables checklistsTable
    checklistTemplates := loadRows tables checklistTemplatesTable
    checklistColumns := loadRows tables checklistColumnsTable
    checklistTasks := loadRows tables checklistTasksTable
    checklistCells := loadRows tables checklistCellsTable
    checklistFeedPublications := loadRows tables checklistFeedPublicationsTable
    missions := loadRows tables missionsTable
    teams := loadRows tables teamsTable
    missionTeamLinks := loadRows tables missionTeamLinksTable
    teamMembers := loadRows tables teamMembersTable
    teamMemberClientLinks := loadRows tables teamMemberClientLinksTable
    missionChanges := loadRows tables missionChangesTable
    taskSkillRequirements := loadRows tables taskSkillRequirementsTable
    assignments := loadRows tables assignmentsTable
    assignmentAssetLinks := loadRows tables assignmentAssetLinksTable }

namespace WriterKind

def load : WriterKind → StoreRows → WholeSnapshot
  | r3akt, tables => loadR3aktReadSnapshot tables
  | checklist, tables => loadChecklistCommandSnapshot tables

/-- The tables that the load reads, a statement each and in their order. -/
def statements : WriterKind → List String
  | r3akt => ["rch_topics", "rch_subscribers", "rch_clients", "rch_identity_announces", "rch_identity_states",
      "rch_identity_rem_modes", "rch_markers", "rch_zones", "rch_missions", "rch_mission_changes", "rch_log_entries",
      "rch_eam_snapshots", "rch_teams", "rch_mission_team_links", "rch_mission_zone_links", "rch_mission_marker_links",
      "rch_team_members", "rch_team_member_client_links", "rch_assets", "rch_skills", "rch_team_member_skills",
      "rch_task_skill_requirements", "rch_assignments", "rch_assignment_asset_links", "rch_checklists",
      "rch_checklist_templates", "rch_checklist_columns", "rch_checklist_tasks", "rch_checklist_cells",
      "rch_checklist_feed_publications", "rch_identity_capabilities", "rch_mission_access_assignments",
      "rch_subject_operation_rights", "rch_settings"]
  | checklist => ["rch_checklists", "rch_checklist_templates", "rch_checklist_columns", "rch_checklist_tasks",
      "rch_checklist_cells", "rch_checklist_feed_publications", "rch_missions", "rch_teams", "rch_mission_team_links",
      "rch_team_members", "rch_team_member_client_links", "rch_mission_changes", "rch_task_skill_requirements",
      "rch_assignments", "rch_assignment_asset_links"]

/-- The tables that are loaded and saved. -/
def kept : WriterKind → List StoreTable
  | r3akt => [markersTable, zonesTable, missionsTable, missionChangesTable, logEntriesTable, eamSnapshotsTable,
      teamsTable, missionTeamLinksTable, missionZoneLinksTable, missionMarkerLinksTable, teamMembersTable,
      teamMemberClientLinksTable, assetsTable, skillsTable, teamMemberSkillsTable, taskSkillRequirementsTable,
      assignmentsTable, assignmentAssetLinksTable, identityCapabilitiesTable, missionAccessAssignmentsTable,
      subjectOperationRightsTable]
  | checklist => [checklistsTable, checklistTemplatesTable, checklistColumnsTable, checklistTasksTable,
      checklistCellsTable, checklistFeedPublicationsTable, taskSkillRequirementsTable, assignmentsTable,
      assignmentAssetLinksTable, missionChangesTable]

/-- The tables that are saved and were not loaded. -/
def added : WriterKind → List StoreTable
  | r3akt => [commandResultsTable]
  | checklist => [skillsTable, teamMemberSkillsTable, commandResultsTable]

/-- The tables of `save_registry_delta_tables` and of `save_checklist_delta_tables`. -/
def tables (kind : WriterKind) : List StoreTable := kind.kept ++ kind.added

end WriterKind

/-- `sql_key_string`, of texts. -/
def sqlKeyString (columns : List String) : String := joinWith "\u001f" columns

/-- `save_payload_delta`, of one table. -/
def StoreTable.savePayloadDelta (before after : WholeSnapshot) (tables : StoreRows) (table : StoreTable) : StoreRows :=
  fun name =>
    if name = table.name then saveRows sqlKeyString (table.rows before) (table.rows after) (tables name) else tables name

/-- `save_r3akt_command_delta` and `save_checklist_command_delta`, each in one transaction. A core
is loaded without audit events: all that it has are new. -/
def WriterKind.save (kind : WriterKind) (before after : WholeSnapshot) (store : Store) : Store where
  tables := kind.tables.foldl (StoreTable.savePayloadDelta before after) store.tables
  auditEvents := store.auditEvents ++ after.auditEvents

/-! ## Writers -/

/-- A command under way: the tables that are still to be read for it, those that have been, and
what is to be saved once it has run. -/
structure Window where
  kind : WriterKind
  toRead : List String
  seen : StoreRows
  after : Option WholeSnapshot

/-- The store and the commands under way, by their threads. -/
structure WriterSystem where
  store : Store
  windows : ℕ → Option Window

/-- What a thread does next: to load, a statement at a time; to run its command, with what the
clock and the random source give it; to give up; to save. -/
inductive WriterAction where
  | start (thread : ℕ) (kind : WriterKind)
  | read (thread : ℕ)
  | run (thread : ℕ) (method : CoreM Unit) (clock : ℕ → Instant) (draws : ℕ → Uuid)
  | drop (thread : ℕ)
  | save (thread : ℕ)

/-- A core as it was loaded and as it is saved. -/
structure SavedCopy where
  kind : WriterKind
  before : WholeSnapshot
  after : WholeSnapshot

namespace Window

/-- The next statement of the load. -/
def read (window : Window) (tables : StoreRows) : Window :=
  match window.toRead with
  | [] => window
  | name :: toRead => { window with toRead, seen := Function.update window.seen name (tables name) }

/-- The command, on the core built from what was loaded. -/
def run (window : Window) (method : CoreM Unit) (clock : ℕ → Instant) (draws : ℕ → Uuid) : Window :=
  match window.toRead, RchCore.fromWholeSnapshot (window.kind.load window.seen) with
  | [], .ok core => { window with after := some (method.run { core, clock, draws }).2.core.wholeSnapshot }
  | _, _ => window

/-- What is saved of it. -/
def copy (window : Window) : Option SavedCopy :=
  window.after.map fun after => ⟨window.kind, window.kind.load window.seen, after⟩

end Window

namespace WriterSystem

/-- The system with the window of a thread. -/
def withWindow (s : WriterSystem) (thread : ℕ) (window : Option Window) : WriterSystem :=
  { s with windows := Function.update s.windows thread window }

/-- What the thread can save. -/
def ready (s : WriterSystem) (thread : ℕ) : Option SavedCopy := (s.windows thread).bind Window.copy

/-- One step of a thread. -/
def act (s : WriterSystem) : WriterAction → WriterSystem
  | .start thread kind => s.withWindow thread (some ⟨kind, kind.statements, fun _ => ∅, none⟩)
  | .read thread => s.withWindow thread ((s.windows thread).map fun window => window.read s.store.tables)
  | .run thread method clock draws =>
    s.withWindow thread ((s.windows thread).map fun window => window.run method clock draws)
  | .drop thread => s.withWindow thread none
  | .save thread =>
    match s.ready thread with
    | some copy => { s.withWindow thread none with store := copy.kind.save copy.before copy.after s.store }
    | none => s

/-- What the step saves. -/
def saved (s : WriterSystem) : WriterAction → Option SavedCopy
  | .save thread => s.ready thread
  | _ => none

/-- The system behind the steps, in any order. -/
def acts (s : WriterSystem) (actions : List WriterAction) : WriterSystem := actions.foldl act s

/-- The copies that the steps save, in their order. -/
def copies : WriterSystem → List WriterAction → List SavedCopy
  | _, [] => []
  | s, action :: actions => (s.saved action).toList ++ (s.act action).copies actions

end WriterSystem

/-! ## Rows that are filed -/

/-- The tables that are saved. -/
def savedTables : List StoreTable :=
  WriterKind.r3akt.kept ++ [checklistsTable, checklistTemplatesTable, checklistColumnsTable, checklistTasksTable,
    checklistCellsTable, checklistFeedPublicationsTable, commandResultsTable]

/-- Every row of the tables that are saved is a record of its table, under the key of it. -/
def StoreRows.Filed (tables : StoreRows) : Prop :=
  ∀ table ∈ savedTables, ∀ key row, (tables table.name).get key = some row → ∃ r, row = table.payload r ∧ table.key r = key

theorem WriterKind.tables_saved (kind : WriterKind) : kind.tables ⊆ savedTables := by
  cases kind <;> simp [tables, kept, added, savedTables]

theorem nodup_savedTables : (savedTables.map StoreTable.name).Nodup := by
  decide +kernel

theorem WriterKind.nodup_tables (kind : WriterKind) : (kind.tables.map StoreTable.name).Nodup := by
  cases kind <;> decide +kernel

/-- Tables of one name are one table. -/
theorem savedTables_unique {table table' : StoreTable} (mem : table ∈ savedTables) (mem' : table' ∈ savedTables)
    (same : table.name = table'.name) : table = table' :=
  List.inj_on_of_nodup_map nodup_savedTables mem mem' same

/-- The rows under which a load reads a table are those of the table. -/
theorem fileRows_loadRows {tables : StoreRows} (filed : tables.Filed) {table : StoreTable} (mem : table ∈ savedTables)
    (key : List String) :
    (fileRows ((loadRows tables table).map fun r => (table.key r, table.payload r))).get key = (tables table.name).get key := by
  have same : ∀ rows : List (List String × StoreRow), (∀ row ∈ rows, (tables table.name).get row.1 = some row.2) →
      (rows.filterMap fun row => table.record row.2).map (fun r => (table.key r, table.payload r)) = rows := by
    intro rows stored
    induction rows with
    | nil => rfl
    | cons row rows ih =>
      obtain ⟨r, payload, here⟩ := filed table mem row.1 row.2 (stored row List.mem_cons_self)
      rw [List.filterMap_cons_some (payload ▸ table.record_payload r), List.map_cons,
        ih fun later there => stored later (List.mem_cons_of_mem _ there), here, ← payload]
  have perm := sortBy_perm (fun left right : List String × StoreRow => compare left.1 right.1) (tables table.name).toPairs
  rw [loadRows, same _ fun row there => Dict.mem_toPairs.1 (perm.mem_iff.1 there)]
  refine Option.ext fun row => ?_
  rw [get_fileRows_iff ((perm.map Prod.fst).nodup_iff.2 (Dict.nodup_toPairs _)), perm.mem_iff, Dict.mem_toPairs]

/-! ## One save -/

section

variable {before after : WholeSnapshot} {tables : StoreRows}

theorem foldl_savePayloadDelta_of_notMem {list : List StoreTable} {name : String}
    (absent : name ∉ list.map StoreTable.name) : list.foldl (StoreTable.savePayloadDelta before after) tables name = tables name := by
  induction list generalizing tables with
  | nil => rfl
  | cons table list ih =>
    rw [List.map_cons, List.mem_cons, not_or] at absent
    rw [List.foldl_cons, ih absent.2, StoreTable.savePayloadDelta, if_neg absent.1]

theorem foldl_savePayloadDelta_of_mem {list : List StoreTable} (nodup : (list.map StoreTable.name).Nodup)
    {table : StoreTable} (mem : table ∈ list) : list.foldl (StoreTable.savePayloadDelta before after) tables table.name =
      saveRows sqlKeyString (table.rows before) (table.rows after) (tables table.name) := by
  induction list generalizing tables with
  | nil => exact absurd mem List.not_mem_nil
  | cons first list ih =>
    rw [List.map_cons, List.nodup_cons] at nodup
    rw [List.foldl_cons]
    rcases List.mem_cons.1 mem with rfl | later
    · rw [foldl_savePayloadDelta_of_notMem nodup.1, StoreTable.savePayloadDelta, if_pos rfl]
    · rw [ih nodup.2 later, StoreTable.savePayloadDelta, if_neg]
      intro same
      exact nodup.1 (same ▸ List.mem_map_of_mem later)

end

/-- The server's tables, which are kept as maps, are saved alike where the keys that go can be told
from the others. -/
theorem get_savePayloadDelta {K V : Type} [DecidableEq K] {text : K → String} {before after : Dict K V}
    (apart : KeysApart text before.toPairs after.toPairs) (table : Dict K V) (k : K) :
    (savePayloadDelta before after table).get k = (saveRows text before.toPairs after.toPairs table).get k := by
  have keys : ∀ m : Dict K V, k ∈ m.toPairs.map Prod.fst ↔ m.contains k = true := by
    intro m
    rw [Dict.contains_iff, List.mem_map]
    constructor
    · rintro ⟨row, mem, rfl⟩
      exact ⟨row.2, Dict.mem_toPairs.1 mem⟩
    · rintro ⟨v, stored⟩
      exact ⟨(k, v), Dict.mem_toPairs.2 stored, rfl⟩
  rw [savePayloadDelta, Lib.get_foldl_insert, get_saveRows, Dict.get_retain]
  have gone : k ∈ goneKeys text before.toPairs after.toPairs ↔ before.contains k = true ∧ after.contains k = false := by
    rw [← keys, ← Bool.not_eq_true, ← keys]
    constructor
    · intro mem
      obtain ⟨found, absent⟩ := mem_goneKeys.1 mem
      refine ⟨(keysByText_some found).1, fun there => absent ?_⟩
      obtain ⟨row, here, rfl⟩ := List.mem_map.1 there
      exact List.mem_map.2 ⟨row, here, rfl⟩
    · exact fun ⟨mem, absent⟩ => goneKeys_iff_apart.2 apart k mem absent
  congr 1
  by_cases goes : k ∈ goneKeys text before.toPairs after.toPairs
  · obtain ⟨had, has⟩ := gone.1 goes
    rw [if_pos goes, had, has]
    simp
  · rw [if_neg goes]
    cases had : before.contains k with
    | false => cases table.get k <;> rfl
    | true =>
      have has : after.contains k = true := by
        by_contra hasNot
        exact goes (gone.2 ⟨had, Bool.eq_false_of_not_eq_true hasNot⟩)
      rw [has]
      cases table.get k <;> rfl

namespace SavedCopy

/-- What is written of the copy into the table of that name. -/
def rows (copy : SavedCopy) (name : String) : Save (List String) StoreRow :=
  match copy.kind.tables.find? fun table => table.name == name with
  | some table => ⟨table.rows copy.before, table.rows copy.after⟩
  | none => ⟨[], []⟩

/-- The store behind the save of the copy. -/
def savedOver (copy : SavedCopy) (store : Store) : Store := copy.kind.save copy.before copy.after store

variable {copy : SavedCopy} {store : Store}

theorem rows_of_notMem {name : String} (absent : name ∉ copy.kind.tables.map StoreTable.name) :
    copy.rows name = ⟨[], []⟩ := by
  have none : (copy.kind.tables.find? fun table => table.name == name) = none := by
    rw [List.find?_eq_none]
    intro table mem same
    exact absent (beq_iff_eq.1 same ▸ List.mem_map_of_mem mem)
  rw [rows, none]

theorem rows_of_mem {table : StoreTable} (mem : table ∈ copy.kind.tables) :
    copy.rows table.name = ⟨table.rows copy.before, table.rows copy.after⟩ := by
  unfold rows
  split
  · rename_i table' found
    have same := List.find?_some found
    rw [savedTables_unique (copy.kind.tables_saved (List.mem_of_find?_eq_some found)) (copy.kind.tables_saved mem)
      (beq_iff_eq.1 same)]
  · rename_i none
    exact absurd (beq_self_eq_true table.name) (List.find?_eq_none.1 none table mem)

theorem savedOver_tables (name : String) : (copy.savedOver store).tables name =
    saveRows sqlKeyString (copy.rows name).before (copy.rows name).after (store.tables name) := by
  unfold savedOver WriterKind.save
  dsimp only
  by_cases named : name ∈ copy.kind.tables.map StoreTable.name
  · obtain ⟨table, mem, rfl⟩ := List.mem_map.1 named
    rw [foldl_savePayloadDelta_of_mem copy.kind.nodup_tables mem, rows_of_mem mem]
  · rw [foldl_savePayloadDelta_of_notMem named, rows_of_notMem named]
    rfl

/-- A save files what it writes. -/
theorem savedOver_filed (filed : store.tables.Filed) : (copy.savedOver store).tables.Filed := by
  intro table saved key row stored
  rw [savedOver_tables, get_saveRows, Option.or_eq_some_iff] at stored
  rcases stored with written | ⟨-, left⟩
  · by_cases named : table.name ∈ copy.kind.tables.map StoreTable.name
    · obtain ⟨table', mem, same⟩ := List.mem_map.1 named
      obtain rfl := savedTables_unique (copy.kind.tables_saved mem) saved same
      rw [rows_of_mem mem] at written
      obtain ⟨r, -, here⟩ := List.mem_map.1 (mem_of_get_fileRows written)
      obtain ⟨rfl, rfl⟩ := Prod.ext_iff.1 here
      exact ⟨r, rfl, rfl⟩
    · rw [rows_of_notMem named] at written
      exact absurd ((Dict.get_empty key).symm.trans written) (Option.some_ne_none row).symm
  · split at left
    · exact absurd left (Option.some_ne_none row).symm
    · exact filed table saved key row left

end SavedCopy

/-! ## Runs -/

namespace WriterSystem

variable {s : WriterSystem} {thread : ℕ}

theorem withWindow_self (window : Option Window) : (s.withWindow thread window).windows thread = window :=
  Function.update_self ..

theorem withWindow_other {other : ℕ} (apart : other ≠ thread) (window : Option Window) :
    (s.withWindow thread window).windows other = s.windows other :=
  Function.update_of_ne apart ..

theorem act_store (action : WriterAction) :
    (s.act action).store = (s.saved action).elim s.store fun copy => copy.savedOver s.store := by
  cases action with
  | save thread =>
    unfold act saved
    dsimp only
    split
    · rename_i copy ready
      rw [ready]
      rfl
    · rename_i none
      rw [none]
      rfl
  | _ => rfl

theorem acts_filed (filed : s.store.tables.Filed) (actions : List WriterAction) : (s.acts actions).store.tables.Filed := by
  induction actions generalizing s with
  | nil => exact filed
  | cons action actions ih =>
    refine ih (s := s.act action) ?_
    rw [act_store]
    cases s.saved action with
    | none => exact filed
    | some copy => exact copy.savedOver_filed filed

/-- The tables behind a run are the saves of its copies, one after another. -/
theorem acts_tables (actions : List WriterAction) (name : String) : (s.acts actions).store.tables name =
    ((s.copies actions).map fun copy => copy.rows name).foldl
      (fun table save => saveRows sqlKeyString save.before save.after table) (s.store.tables name) := by
  induction actions generalizing s with
  | nil => rfl
  | cons action actions ih =>
    have step := ih (s := s.act action)
    rw [act_store] at step
    rw [copies, List.map_append, List.foldl_append]
    cases saved : s.saved action with
    | none =>
      rw [saved] at step
      exact step
    | some copy =>
      rw [saved, Option.elim_some, SavedCopy.savedOver_tables] at step
      exact step

theorem acts_auditEvents (actions : List WriterAction) : (s.acts actions).store.auditEvents =
    s.store.auditEvents ++ (s.copies actions).flatMap fun copy => copy.after.auditEvents := by
  induction actions generalizing s with
  | nil => exact (List.append_nil _).symm
  | cons action actions ih =>
    have step := ih (s := s.act action)
    rw [act_store] at step
    rw [copies, List.flatMap_append, ← List.append_assoc]
    cases saved : s.saved action with
    | none =>
      rw [saved] at step
      rw [Option.toList_none, List.flatMap_nil, List.append_nil]
      exact step
    | some copy =>
      rw [saved] at step
      rw [Option.toList_some, List.flatMap_singleton]
      exact step

/-- Of the copies that a run saves, in whatever order its threads load, run and save, the last one
that has a key or has lost it decides the row under it, changed by its command or not; what none
decides stays as it was. No audit event goes. -/
theorem last_save_decides (s : WriterSystem) (actions : List WriterAction) :
    (∀ name key, ((s.acts actions).store.tables name).get key =
      ((s.copies actions).reverse.find? fun copy =>
        Decides sqlKeyString (copy.rows name).before (copy.rows name).after key).elim ((s.store.tables name).get key)
          fun copy => (fileRows (copy.rows name).after).get key) ∧
      (s.acts actions).store.auditEvents =
        s.store.auditEvents ++ (s.copies actions).flatMap fun copy => copy.after.auditEvents := by
  refine ⟨fun name key => ?_, acts_auditEvents actions⟩
  rw [acts_tables, get_saves, ← List.map_reverse, List.find?_map, Option.elim_map]
  rfl

/-! ### A drill -/

/-- An empty database and no command under way. -/
def idle : WriterSystem := ⟨⟨fun _ => ∅, []⟩, fun _ => none⟩

/-- A thread loads. -/
def loads (thread : ℕ) : List WriterAction :=
  .start thread .r3akt :: List.replicate WriterKind.r3akt.statements.length (.read thread)

/-- The thread carries out the command. -/
def runs (thread : ℕ) (command : MissionCommandEnvelope) : WriterAction :=
  letI := Host.blank
  .run thread (do let _ ← handleCommand command) (World.atEpoch RchCore.new).clock (World.atEpoch RchCore.new).draws

/-- The name of the mission that is stored. -/
def missionName (s : WriterSystem) : Option String :=
  match (s.store.tables "rch_missions").get ["a"] with
  | some (.mission mission) => some mission.missionName
  | _ => none

/-- The mission under another name. -/
def renameMission : MissionCommandEnvelope :=
  drillCommand "2" "mission.registry.mission.upsert" [("uid", .string "a"), ("mission_name", .string "b")]

-- The second thread has loaded the mission before the first one renames it. It creates a team
-- member, and the mission has its old name back.
example :
    letI created := idle.acts (loads 0 ++ [runs 0 (createMission "1" "a"), .save 0] ++ loads 1 ++ loads 0)
    (created.acts [runs 0 renameMission, .save 0]).missionName = some "b" ∧
      (created.acts [runs 0 renameMission, .save 0, runs 1 createMember, .save 1]).missionName = some "a" := by
  decide +kernel

/-! ## Commands without another save in between -/

/-- What the thread has read is what the tables hold. -/
def Current (s : WriterSystem) (thread : ℕ) (kind : WriterKind) : Prop :=
  ∀ window, s.windows thread = some window → window.kind = kind ∧
    (∀ name ∈ kind.statements, name ∉ window.toRead → window.seen name = s.store.tables name) ∧
    (window.after.isSome → window.toRead = [])

/-- Nothing is saved, nor is the command of the thread begun anew. -/
def Undisturbed (thread : ℕ) (actions : List WriterAction) : Prop :=
  ∀ action ∈ actions, (∀ other, action ≠ .save other) ∧ ∀ kind, action ≠ .start thread kind

theorem current_start (s : WriterSystem) (thread : ℕ) (kind : WriterKind) : (s.act (.start thread kind)).Current thread kind := by
  intro window here
  obtain rfl := Option.some.inj ((withWindow_self _).symm.trans here)
  exact ⟨rfl, fun name mem unread => absurd mem unread, nofun⟩

theorem Current.withWindow {kind : WriterKind} (h : s.Current thread kind) {other : ℕ} {window : Option Window}
    (own : other = thread → ∀ w, window = some w → w.kind = kind ∧
      (∀ name ∈ kind.statements, name ∉ w.toRead → w.seen name = s.store.tables name) ∧ (w.after.isSome → w.toRead = [])) :
    (s.withWindow other window).Current thread kind := by
  intro w here
  by_cases same : thread = other
  · subst same
    exact own rfl w ((withWindow_self _).symm.trans here)
  · exact h w ((withWindow_other same _).symm.trans here)

theorem Current.act {kind : WriterKind} (h : s.Current thread kind) {action : WriterAction}
    (noSave : ∀ other, action ≠ .save other) (noStart : ∀ kind', action ≠ .start thread kind') :
    (s.act action).Current thread kind := by
  cases action with
  | start other kind' => exact h.withWindow fun same => absurd (same ▸ rfl) (noStart kind')
  | read other =>
    refine h.withWindow fun same w here => ?_
    subst same
    obtain ⟨window, there, rfl⟩ := Option.map_eq_some_iff.1 here
    obtain ⟨rfl, seen, ran⟩ := h window there
    unfold Window.read
    split
    · exact ⟨rfl, seen, ran⟩
    · rename_i name toRead rest
      refine ⟨rfl, fun name' mem unread => ?_, fun some => absurd (rest.symm.trans (ran some)) nofun⟩
      dsimp only
      rw [Function.update_apply]
      split
      · rename_i here
        rw [here]
      · rename_i other
        exact seen name' mem (by rw [rest, List.mem_cons]; exact not_or.2 ⟨other, unread⟩)
  | run other method clock draws =>
    refine h.withWindow fun same w here => ?_
    subst same
    obtain ⟨window, there, rfl⟩ := Option.map_eq_some_iff.1 here
    obtain ⟨rfl, seen, ran⟩ := h window there
    unfold Window.run
    split
    · rename_i core done _
      exact ⟨rfl, seen, fun _ => done⟩
    · exact ⟨rfl, seen, ran⟩
  | drop other => exact h.withWindow fun _ _ here => absurd here nofun
  | save other => exact absurd rfl (noSave other)

theorem Current.acts {kind : WriterKind} (h : s.Current thread kind) {actions : List WriterAction}
    (undisturbed : Undisturbed thread actions) : (s.acts actions).Current thread kind := by
  induction actions generalizing s with
  | nil => exact h
  | cons action actions ih =>
    have here := undisturbed action List.mem_cons_self
    exact ih (h.act here.1 here.2) fun later mem => undisturbed later (List.mem_cons_of_mem _ mem)

/-- What is saved was loaded from the tables as they are. -/
theorem Current.ready {kind : WriterKind} (h : s.Current thread kind) {copy : SavedCopy} (ready : s.ready thread = some copy) :
    copy.kind = kind ∧ ∃ seen : StoreRows, copy.before = kind.load seen ∧
      ∀ name ∈ kind.statements, seen name = s.store.tables name := by
  obtain ⟨window, here, copied⟩ := Option.bind_eq_some_iff.1 ready
  obtain ⟨after, ran, rfl⟩ := Option.map_eq_some_iff.1 copied
  obtain ⟨rfl, seen, read⟩ := h window here
  refine ⟨rfl, window.seen, rfl, fun name mem => seen name mem ?_⟩
  rw [read (ran ▸ rfl)]
  exact List.not_mem_nil

end WriterSystem

/-- A table that is kept is read by a statement of the load, and only by it. -/
theorem WriterKind.kept_loaded (kind : WriterKind) : kind.kept.Forall fun table =>
    table.name ∈ kind.statements ∧ ∀ tables, table.field (kind.load tables) = loadRows tables table := by
  cases kind <;> repeat' first
    | exact ⟨by decide, fun _ => rfl⟩
    | constructor

/-- The rows of the table are those of the snapshot. -/
def Store.Holds (store : Store) (table : StoreTable) (snapshot : WholeSnapshot) : Prop :=
  ∀ key, (store.tables table.name).get key = (fileRows (table.rows snapshot)).get key

/-- A load reads the records back. -/
theorem Store.Holds.loadRows_perm {store : Store} {table : StoreTable} {snapshot : WholeSnapshot}
    (holds : store.Holds table snapshot) (nodup : ((table.rows snapshot).map Prod.fst).Nodup) :
    (loadRows store.tables table).Perm (table.field snapshot) := by
  have rows : (store.tables table.name).toPairs.Perm (table.rows snapshot) := by
    refine (List.perm_ext_iff_of_nodup (Dict.nodup_toPairs _).of_map nodup.of_map).2 fun row => ?_
    rw [Dict.mem_toPairs, holds, get_fileRows_iff nodup]
  have records : (table.rows snapshot).filterMap (fun row => table.record row.2) = table.field snapshot := by
    rw [StoreTable.rows, List.filterMap_map]
    exact (List.filterMap_congr fun r _ => table.record_payload r).trans List.filterMap_some
  rw [← records]
  exact ((sortBy_perm _ _).trans rows).filterMap _

/-- Keys of one column are their own texts. -/
theorem keysApart_of_single {table : StoreTable} (single : ∀ r, ∃ text, table.key r = [text]) (before after : WholeSnapshot) :
    KeysApart sqlKeyString (table.rows before) (table.rows after) := by
  have column : ∀ key ∈ (table.rows before).map Prod.fst ++ (table.rows after).map Prod.fst, key = [sqlKeyString key] := by
    intro key mem
    rw [StoreTable.rows, StoreTable.rows, List.map_map, List.map_map, List.mem_append, List.mem_map, List.mem_map] at mem
    obtain ⟨r, -, rfl⟩ | ⟨r, -, rfl⟩ := mem <;>
    · obtain ⟨text, here⟩ := single r
      rw [Function.comp_apply, here]
      rfl
  refine .of_injective fun key mem key' mem' same => ?_
  rw [column key mem, column key' mem', same]

/-- A command that is begun, loaded, run and saved while nothing else is saved leaves in each table
that it loaded exactly the rows of its core, provided that the keys that went can be told from the
others by their texts, as those of one column can; the records are then what the next load reads.
The tables that it does not save stay as they were. -/
theorem saved_exactly (s : WriterSystem) (filed : s.store.tables.Filed) (earlier between : List WriterAction) (thread : ℕ)
    (kind : WriterKind) (undisturbed : WriterSystem.Undisturbed thread between) (copy : SavedCopy)
    (ready : (s.acts (earlier ++ .start thread kind :: between)).ready thread = some copy) :
    (∀ table ∈ kind.kept,
      ((s.acts (earlier ++ .start thread kind :: between ++ [.save thread])).store.Holds table copy.after ↔
          KeysApart sqlKeyString (table.rows copy.before) (table.rows copy.after)) ∧
        ((∀ r, ∃ text, table.key r = [text]) →
          (s.acts (earlier ++ .start thread kind :: between ++ [.save thread])).store.Holds table copy.after) ∧
        ((s.acts (earlier ++ .start thread kind :: between ++ [.save thread])).store.Holds table copy.after →
          ((table.rows copy.after).map Prod.fst).Nodup →
          (loadRows (s.acts (earlier ++ .start thread kind :: between ++ [.save thread])).store.tables table).Perm
            (table.field copy.after))) ∧
      ∀ name ∉ kind.tables.map StoreTable.name,
        (s.acts (earlier ++ .start thread kind :: between ++ [.save thread])).store.tables name =
          (s.acts (earlier ++ .start thread kind :: between)).store.tables name := by
  have current : (s.acts (earlier ++ .start thread kind :: between)).Current thread kind := by
    rw [WriterSystem.acts, List.foldl_append, List.foldl_cons]
    exact (WriterSystem.current_start _ thread kind).acts undisturbed
  have filed' := WriterSystem.acts_filed filed (earlier ++ .start thread kind :: between)
  have saved (name : String) : (s.acts (earlier ++ .start thread kind :: between ++ [.save thread])).store.tables name =
      (copy.savedOver (s.acts (earlier ++ .start thread kind :: between)).store).tables name := by
    rw [WriterSystem.acts, List.foldl_append]
    change ((s.acts (earlier ++ .start thread kind :: between)).act (.save thread)).store.tables name = _
    rw [WriterSystem.act_store, WriterSystem.saved, ready]
    rfl
  generalize s.acts (earlier ++ .start thread kind :: between) = s' at *
  generalize s.acts (earlier ++ .start thread kind :: between ++ [.save thread]) = s'' at *
  obtain ⟨rfl, seen, loaded, read⟩ := current.ready ready
  refine ⟨fun table mem => ?_, fun name absent => ?_⟩
  · have inside : table ∈ copy.kind.tables := List.mem_append_left _ mem
    obtain ⟨stated, field⟩ := List.forall_iff_forall_mem.1 copy.kind.kept_loaded table mem
    have whole : ∀ key, (s'.store.tables table.name).get key = (fileRows (table.rows copy.before)).get key := by
      intro key
      have same : loadRows seen table = loadRows s'.store.tables table := by
        rw [loadRows, loadRows, read _ stated]
      rw [StoreTable.rows, loaded, field, same, fileRows_loadRows filed' (copy.kind.tables_saved inside)]
    have exact_iff : s''.store.Holds table copy.after ↔ KeysApart sqlKeyString (table.rows copy.before) (table.rows copy.after) := by
      rw [← saveRows_exact_iff whole]
      refine forall_congr' fun key => ?_
      rw [saved, SavedCopy.savedOver_tables, SavedCopy.rows_of_mem inside]
    exact ⟨exact_iff, fun single => exact_iff.2 (keysApart_of_single single _ _), fun holds nodup => holds.loadRows_perm nodup⟩
  · rw [saved, SavedCopy.savedOver_tables, SavedCopy.rows_of_notMem absent]
    rfl

open WriterSystem in
/-- A mission that is created is in the table. -/
theorem saved_exactly_drill : ∃ copy, (idle.acts (loads 0 ++ [runs 0 (createMission "1" "a")])).ready 0 = some copy ∧
    copy.after.missions.map MissionRecord.uid = ["a"] ∧
    (idle.acts (loads 0 ++ [runs 0 (createMission "1" "a")] ++ [.save 0])).store.Holds missionsTable copy.after := by
  have missions : ((idle.acts (loads 0 ++ [runs 0 (createMission "1" "a")])).ready 0).map
      (fun copy => copy.after.missions.map MissionRecord.uid) = some ["a"] := by
    decide +kernel
  obtain ⟨copy, ready, uids⟩ := Option.map_eq_some_iff.1 missions
  refine ⟨copy, ready, uids, ?_⟩
  have filed : idle.store.tables.Filed := fun _ _ key row stored => absurd ((Dict.get_empty key).symm.trans stored) nofun
  have undisturbed : Undisturbed 0 (List.replicate WriterKind.r3akt.statements.length (.read 0) ++
      [runs 0 (createMission "1" "a")]) := by
    intro action mem
    rcases List.mem_append.1 mem with read | run
    · rw [List.eq_of_mem_replicate read]
      simp
    · rw [List.mem_singleton.1 run]
      simp [runs]
  have kept : missionsTable ∈ WriterKind.r3akt.kept := by simp [WriterKind.kept]
  exact ((saved_exactly idle filed [] _ 0 .r3akt undisturbed copy ready).1 missionsTable kept).2.1 fun _ => ⟨_, rfl⟩

end TelemetryHub
