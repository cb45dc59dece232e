import TelemetryHub.Core.Checklists

/-!
# The checklist commands

CSV import, the mission change every checklist command records, and the
dispatcher.
-/

namespace TelemetryHub

open Lib CoreM

section

variable [Host]

/-! ## CSV import -/

omit [Host] in
/-- `split_whitespace`. -/
def splitWhitespace (text : List Char) : List (List Char) :=
  (text.splitOnP isWhitespace).filter fun word => !word.isEmpty

omit [Host] in
/-- `normalize_csv_header`. -/
def normalizeCsvHeader (value : String) : String :=
  let spaced := (toAsciiLowercase value).toList.map fun c => if c = '_' ∨ c = '-' then ' ' else c
  joinWith " " ((splitWhitespace spaced).map String.ofList)

omit [Host] in
/-- `parse_due_minutes`. -/
def parseDueMinutes (value : String) : Option Int :=
  let text := trim value
  let text := if startsWith text "+" then String.ofList (text.toList.drop 1) else text
  if text.isEmpty then none else parseI64 text

omit [Host] in
/-- One cell of a CSV record, without byte-order marks and outer blanks. -/
def csvCell (cell : String) : String :=
  trim (String.ofList (cell.toList.filter fun c => c ≠ '\uFEFF'))

/-- The rows of `csv_base64` that are not blank. -/
def csvRowsFromArgs (args : Value) : Except RchCoreError (List (List String)) := do
  let encoded ← requiredText args ["csv_base64"]
  let some decoded := Host.base64Decode encoded | invalidPayload "csv_base64 is invalid"
  let (records, problem) := Host.csvRecords (Host.decodeUtf8 decoded)
  if let some problem := problem then invalidPayload problem
  return (records.map fun record => record.map csvCell).filter fun row =>
    row.any fun cell => !cell.isEmpty

omit [Host] in
/-- The headers of the import, one for each of `maxColumns` columns. -/
def csvHeaders (headerRow : List String) (maxColumns : Nat) : List String :=
  (List.range maxColumns).map fun index =>
    ((headerRow[index]?).filter fun value => !(trim value).isEmpty).getD
      ("Column " ++ toString (index + 1))

omit [Host] in
/-- The column that holds the due minutes. -/
def csvDueHeaderIndex (headers : List String) : Option Nat :=
  headers.findIdx? fun header =>
    normalizeCsvHeader header ∈ ["due", "due relative minutes", "due minutes"]

omit [Host] in
/-- The due column of an import. -/
def csvDueColumn (name : String) : Value :=
  .object [
    ("column_name", toValue name),
    ("column_type", toValue "RELATIVE_TIME"),
    ("column_editable", toValue false),
    ("is_removable", toValue false),
    ("system_key", toValue "DUE_RELATIVE_DTG")]

omit [Host] in
/-- A text column of an import. -/
def csvTextColumn (name : String) : Value :=
  .object [
    ("column_name", toValue name),
    ("column_type", toValue "SHORT_STRING"),
    ("column_editable", toValue true),
    ("is_removable", toValue true)]

omit [Host] in
/-- The columns of the new checklist, and for every header that is not the due
column its index with the display order of its column. -/
def csvColumns (headers : List String) (dueIndex : Option Nat) : List Value × List (Nat × Nat) :=
  let indexed := headers.zipIdx
  match dueIndex with
  | some due =>
    (indexed.map fun (header, index) =>
        if index = due then csvDueColumn (if header.isEmpty then "Due" else header)
        else csvTextColumn header,
      (indexed.filter fun entry => entry.2 ≠ due).map fun (_, index) => (index, index + 1))
  | none =>
    (csvDueColumn "Due" :: headers.map csvTextColumn,
      indexed.map fun (_, index) => (index, index + 2))

/-- The name a checklist imported from `filename` gets. -/
def csvChecklistName (filename : String) : String :=
  ((Host.fileStem filename).filter fun stem => !stem.isEmpty).getD "Checklist CSV"

/-- The identity an import is recorded under. -/
def csvSourceIdentity (command : MissionCommandEnvelope) : String :=
  (optionalText command.args ["source_identity"]).getD command.source.rnsIdentity

/-- The create command `import_checklist_csv` builds. -/
def csvCreateCommand (command : MissionCommandEnvelope) (filename : String) (columns : List Value) :
    MissionCommandEnvelope :=
  { command with
    commandType := "checklist.create.online"
    args := .object [
      ("name", toValue (csvChecklistName filename)),
      ("description", toValue ("Imported from " ++ filename)),
      ("origin_type", toValue "CSV_IMPORT"),
      ("mission_uid", toValue (optionalText command.args ["mission_uid", "mission_id"])),
      ("columns", .array columns),
      ("source_identity", toValue (csvSourceIdentity command))] }

omit [Host] in
/-- The arguments of the task row of a CSV row. -/
def csvTaskArgs (row : List String) (dueIndex : Option Nat) (rowNumber : Nat) : Value :=
  let due := (dueIndex.bind fun index => row[index]?).bind parseDueMinutes
  let legacyValue := (row.zipIdx.find? fun (value, index) =>
    !value.isEmpty && dueIndex != some index).map Prod.fst
  .object [
    ("number", toValue rowNumber),
    ("due_relative_minutes", toValue due),
    ("legacy_value", toValue legacyValue)]

/-- Fill the cell of one header. -/
def importCsvCell (command : MissionCommandEnvelope) (checklistUid taskUid : String)
    (row : List String) (header : Nat × String) : CoreM Unit := do
  match (row[header.1]?).filter fun value => !value.isEmpty with
  | some value => do
    let args : Value := .object [
      ("value", toValue value),
      ("updated_by_team_member_rns_identity", toValue (csvSourceIdentity command))]
    let _ ← setChecklistTaskCell checklistUid taskUid header.2 args
  | none => pure ()

/-- One task row of the import. -/
def importCsvRow (command : MissionCommandEnvelope) (checklistUid : String) (width : Nat)
    (dueIndex : Option Nat) (headerColumnUids : List (Nat × String)) (entry : List String × Nat) :
    CoreM Unit := do
  let row := (List.range width).map fun index => (entry.1[index]?).getD ""
  let rowNumber := entry.2 + 1
  let updated ← addChecklistTaskRow checklistUid (csvTaskArgs row dueIndex rowNumber)
  let task ← Proc.orThrow ((← core).checklistTasks.values.find? fun task =>
      task.checklistUid == updated.uid && task.number == (rowNumber : Int))
    (.invalidPayload "Checklist import failed to create task row")
  headerColumnUids.forM (importCsvCell command checklistUid task.taskUid row)

/-- `import_checklist_csv`. -/
def importChecklistCsv (command : MissionCommandEnvelope) : CoreM Value := do
  let filename := (optionalText command.args ["csv_filename"]).getD "checklist.csv"
  let rows ← csvRowsFromArgs command.args
  match rows with
  | headerRow :: firstRow :: otherRows =>
    let taskRows := firstRow :: otherRows
    let maxColumns := (headerRow :: taskRows).foldl (fun width row => max width row.length) 0
    if maxColumns = 0 then throw (.invalidPayload "CSV header row is empty")
    let headers := csvHeaders headerRow maxColumns
    let dueIndex := csvDueHeaderIndex headers
    let (columns, headerDisplayOrders) := csvColumns headers dueIndex
    let checklist ← createChecklistFromArgs (csvCreateCommand command filename columns)
      "ONLINE" "SYNCED"
    let createdColumns := ((← core).columnsForChecklist checklist.uid).map fun column =>
      (column.displayOrder, column.columnUid)
    let headerColumnUids := headerDisplayOrders.filterMap fun (index, order) =>
      (lookupLast createdColumns (order : Int)).map fun columnUid => (index, columnUid)
    taskRows.zipIdx.forM
      (importCsvRow command checklist.uid headers.length dueIndex headerColumnUids)
    let imported ← Proc.orThrow ((← core).checklists.get checklist.uid)
      (.invalidPayload "Checklist import failed")
    return (← core).checklistValue imported
  | _ => throw (.invalidPayload "CSV must include a header row and at least one task row")

/-! ## Mission changes -/

/-- The mission change of a checklist command: `emit_auto_checklist_created`,
`_uploaded`, `_task_row_added` and `_task_mutation_mission_change`. `delta` gives
its tasks and its checklists; without a delta only the mission is checked. -/
def emitAutoChecklistMissionChange (command : MissionCommandEnvelope) (payload : Value)
    (sourceEventType changeType : String) (member : Option String)
    (delta : Option (List Value × List Value)) : CoreM Unit := do
  let missionUid := (optionalText payload ["mission_uid", "mission_id"]).getD ""
  if !missionUid.isEmpty && !(← core).missions.contains missionUid then throw .missionNotFound
  match delta with
  | none => pure ()
  | some (tasks, checklists) =>
    let now ← utcNowMs
    let uid ← newUuid
    recordMissionChange command
      { uid, missionUid, name := some sourceEventType, teamMemberRnsIdentity := member,
        timestampMs := now, notes := none, changeType, isFederatedChange := false, hashes := [],
        delta := missionChangeDelta sourceEventType (millisToRfc3339 now) [] tasks checklists }

/-- `emit_auto_checklist_created_mission_change`. -/
def emitAutoChecklistCreated (command : MissionCommandEnvelope) (payload : Value) : CoreM Unit :=
  emitAutoChecklistMissionChange command payload "mission.checklist.created" "ADD_CONTENT"
    (optionalTextOrEmpty payload ["created_by_team_member_rns_identity"]) (some ([], [payload]))

/-- `emit_auto_checklist_uploaded_mission_change`. -/
def emitAutoChecklistUploaded (command : MissionCommandEnvelope) (payload : Value) : CoreM Unit :=
  emitAutoChecklistMissionChange command payload "mission.checklist.uploaded" "ADD_CONTENT"
    ((optionalTextOrEmpty command.args ["source_identity"]).bind noneIfEmpty) (some ([], [payload]))

/-- `emit_auto_checklist_task_row_added_mission_change`. -/
def emitAutoChecklistTaskRowAdded (command : MissionCommandEnvelope) (payload : Value) :
    CoreM Unit :=
  emitAutoChecklistMissionChange command payload "mission.checklist.task.row.added" "ADD_CONTENT"
    none ((checklistTaskRowAddedDelta payload command.args).map fun delta => ([delta], []))

/-- `emit_auto_checklist_task_mutation_mission_change`. -/
def emitAutoChecklistTaskMutation (command : MissionCommandEnvelope) (payload : Value)
    (sourceEventType : String) (delta : Option Value) (member : Option String)
    (changeType : String) : CoreM Unit :=
  emitAutoChecklistMissionChange command payload sourceEventType changeType member
    (delta.map fun delta => ([delta], []))

/-! ## The dispatcher -/

omit [Host] in
/-- `checklist_event_type`. -/
def checklistEventType (commandType : String) : String :=
  match commandType with
  | "checklist.template.create" | "checklist.template.clone" => "checklist.template.created"
  | "checklist.template.delete" => "checklist.template.deleted"
  | "checklist.template.list" | "checklist.template.get" | "checklist.template.update" =>
    "checklist.template.updated"
  | "checklist.create.online" | "checklist.create.offline" => "checklist.created"
  | "checklist.list.active" | "checklist.get" | "checklist.task.row.add"
  | "checklist.task.row.delete" | "checklist.task.row.style.set" | "checklist.task.cell.set" =>
    "checklist.progress.changed"
  | "checklist.delete" => "checklist.deleted"
  | "checklist.join" => "checklist.joined"
  | "checklist.upload" => "checklist.uploaded"
  | "checklist.import.csv" => "checklist.imported.csv"
  | "checklist.feed.publish" => "checklist.feed.published"
  | "checklist.task.status.set" => "checklist.task.status.changed"
  | _ => "checklist.updated"

/-- `checklist_update_added_shareable_mission`. -/
def checklistUpdateAddedShareableMission (previousMissionUid : Option String) (payload : Value) :
    Bool :=
  match (optionalText payload ["mission_uid", "mission_id"]).bind noneIfEmpty with
  | none => false
  | some current =>
    if previousMissionUid.map trim = some current then false
    else eqIgnoreAsciiCase ((optionalText payload ["mode"]).getD "") "ONLINE" &&
      eqIgnoreAsciiCase ((optionalText payload ["sync_state"]).getD "") "SYNCED"

/-- `self.checklists.get(..).ok_or(..)` on the argument `checklist_uid`. -/
def checklistFromArgs (args : Value) : CoreM ChecklistRecord := do
  let checklistUid ← requiredText args ["checklist_uid"]
  Proc.orThrow ((← core).checklists.get checklistUid) (checklistNotFound checklistUid)

/-- The payload part of `apply_checklist_command`. -/
def checklistCommandPayload (command : MissionCommandEnvelope) : CoreM Value := do
  let args := command.args
  match command.commandType with
  | "checklist.template.list" | "checklist.template.get" | "checklist.template.create"
  | "checklist.template.update" | "checklist.template.clone" | "checklist.template.delete" =>
    applyChecklistTemplateCommand command
  | "checklist.create.online" =>
    let checklist ← createChecklistFromArgs command "ONLINE" "SYNCED"
    return (← core).checklistValue checklist
  | "checklist.create.offline" =>
    let checklist ← createChecklistFromArgs command "OFFLINE" "LOCAL_ONLY"
    return (← core).checklistValue checklist
  | "checklist.list.active" =>
    let core ← core
    return .object [("checklists", .array (core.checklistList.map core.checklistValue))]
  | "checklist.get" | "checklist.join" =>
    let checklist ← checklistFromArgs args
    return (← core).checklistValue checklist
  | "checklist.update" =>
    let checklistUid ← requiredText args ["checklist_uid"]
    let patch ← Proc.orThrow (args.get "patch")
      (.invalidPayload "checklist_uid and patch are required")
    let checklist ← updateChecklistFromPatch checklistUid patch
    return (← core).checklistValue checklist
  | "checklist.delete" => deleteChecklist (← requiredText args ["checklist_uid"])
  | "checklist.upload" =>
    let checklist ← uploadChecklist (← requiredText args ["checklist_uid"])
    return (← core).checklistValue checklist
  | "checklist.import.csv" => importChecklistCsv command
  | "checklist.feed.publish" =>
    let checklistUid ← requiredText args ["checklist_uid"]
    let missionFeedUid ← requiredText args ["mission_feed_uid"]
    return checklistFeedPublicationValue
      (← publishChecklistFeed checklistUid missionFeedUid command)
  | "checklist.task.row.add" | "checklist.task.row.delete" | "checklist.task.row.style.set"
  | "checklist.task.cell.set" | "checklist.task.status.set" => applyChecklistTaskCommand command
  | other => throw (.unsupportedCommand other)

/-- What `apply_checklist_command` keeps of the state before the command. -/
structure ChecklistBefore where
  taskStatus : Option String
  deletedTaskDelta : Option Value
  rowExists : Bool
  missionUid : Option String

/-- The reads at the head of `apply_checklist_command`. -/
def ChecklistBefore.read (core : RchCore) (args : Value) : ChecklistBefore :=
  let task := (optionalText args ["task_uid"]).bind core.checklistTasks.get
  { taskStatus := task.map ChecklistTaskRecord.taskStatus
    deletedTaskDelta := checklistTaskRowDeletedDelta core args
    rowExists := (optionalText args ["checklist_uid"]).any fun checklistUid =>
      task.any fun task => task.checklistUid == checklistUid
    missionUid := (((optionalText args ["checklist_uid"]).bind core.checklists.get).bind
      ChecklistRecord.missionUid).bind noneIfEmpty }

/-- The mission changes at the end of `apply_checklist_command`. -/
def emitChecklistMissionChanges (command : MissionCommandEnvelope) (before : ChecklistBefore)
    (payload : Value) : CoreM Unit := do
  let args := command.args
  match command.commandType with
  | "checklist.create.online" | "checklist.import.csv" => emitAutoChecklistCreated command payload
  | "checklist.upload" => emitAutoChecklistUploaded command payload
  | "checklist.update" =>
    if checklistUpdateAddedShareableMission before.missionUid payload then
      emitAutoChecklistCreated command payload
  | "checklist.task.row.add" =>
    if !before.rowExists then emitAutoChecklistTaskRowAdded command payload
  | "checklist.task.row.style.set" =>
    emitAutoChecklistTaskMutation command payload "mission.checklist.task.row.style_set"
      (checklistTaskRowStyleDelta payload args) none "ADD_CONTENT"
  | "checklist.task.cell.set" =>
    let (delta, member) := checklistTaskCellSetDelta payload args
    emitAutoChecklistTaskMutation command payload "mission.checklist.task.cell_set" delta member
      "ADD_CONTENT"
  | "checklist.task.status.set" =>
    let (delta, member) := checklistTaskStatusSetDelta payload args before.taskStatus
    emitAutoChecklistTaskMutation command payload "mission.checklist.task.status_set" delta member
      "ADD_CONTENT"
  | "checklist.task.row.delete" =>
    emitAutoChecklistTaskMutation command payload "mission.checklist.task.row.deleted"
      before.deletedTaskDelta none "REMOVE_CONTENT"
  | _ => pure ()

/-- `apply_checklist_command`. -/
def applyChecklistCommand (command : MissionCommandEnvelope) : CoreM EventEnvelope := do
  let before := ChecklistBefore.read (← core) command.args
  let payload ← checklistCommandPayload command
  emitChecklistMissionChanges command before payload
  return event (checklistEventType command.commandType) command payload

end
end TelemetryHub
