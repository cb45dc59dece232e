import TelemetryHub.Core.Assets

/-!
# Checklists

Templates, checklists with their columns, task rows and cells, and the mission
changes a checklist command records on the way.
-/

namespace TelemetryHub

open Lib CoreM

/-- The error for a checklist that is not there. -/
def checklistNotFound (checklistUid : String) : RchCoreError :=
  .invalidPayload ("Checklist '" ++ checklistUid ++ "' not found")

/-- The error for a template that is not there. -/
def templateNotFound (templateUid : String) : RchCoreError :=
  .invalidPayload ("Checklist template '" ++ templateUid ++ "' not found")

/-- The error for a task that is not a row of the checklist. -/
def checklistTaskNotFound (taskUid : String) : RchCoreError :=
  .invalidPayload ("Checklist task '" ++ taskUid ++ "' not found")

/-! ## Status -/

/-- `derive_task_status`. -/
def deriveTaskStatus (userStatus : String) (dueTsMs completedTsMs : Option Int) :
    CoreM (String × Bool) := do
  if userStatus = "COMPLETE" then
    match dueTsMs, completedTsMs with
    | some due, some completed =>
      if completed > due then return ("COMPLETE_LATE", true) else return ("COMPLETE", false)
    | _, _ => return ("COMPLETE", false)
  else
    match dueTsMs with
    | some due => if (← utcNowMs) > due then return ("LATE", true) else return ("PENDING", false)
    | none => return ("PENDING", false)

/-- One turn of the loop of `recompute_checklist_status`. -/
def refreshTaskStatus (taskUid : String) : CoreM ChecklistTaskRecord := do
  let task ← Proc.orThrow ((← core).checklistTasks.get taskUid) (.invalidPayload "task disappeared")
  let (taskStatus, isLate) ← deriveTaskStatus task.userStatus task.dueTsMs task.completedTsMs
  let task := { task with taskStatus, isLate }
  update fun core => { core with checklistTasks := core.checklistTasks.insert taskUid task }
  return task

/-- The tasks of a checklist. -/
def checklistTaskUids (core : RchCore) (checklistUid : String) : List String :=
  (core.checklistTasks.values.filter fun task => task.checklistUid == checklistUid).map
    ChecklistTaskRecord.taskUid

/-- `u32::try_from(..).unwrap_or(u32::MAX)` as a float. -/
def countAsFloat (count : Nat) : Float := Float.ofNat (min count (2 ^ 32 - 1))

/-- The percentage of completed tasks, to two decimals. -/
def progressPercent (complete total : Nat) : Float :=
  if total = 0 then 0.0
  else ((countAsFloat complete / countAsFloat total) * 100.0 * 100.0).round / 100.0

/-- The status of a checklist from the counts of its tasks. -/
def checklistStatusOf (pending late complete : Nat) (hasCompleteLate : Bool) : String :=
  if pending + complete = 0 ∨ pending > 0 ∧ late = 0 then "PENDING"
  else if pending = 0 ∧ hasCompleteLate then "COMPLETE_LATE"
  else if pending = 0 then "COMPLETE"
  else "LATE"

/-- The counts and the status that a checklist has with these tasks. -/
def ChecklistRecord.recounted (checklist : ChecklistRecord) (tasks : List ChecklistTaskRecord) :
    ChecklistRecord :=
  let done := tasks.filter fun task => task.userStatus == "COMPLETE"
  let open_ := tasks.filter fun task => task.userStatus != "COMPLETE"
  let late := (open_.filter fun task => task.taskStatus == "LATE").length
  let hasCompleteLate := done.any fun task => task.taskStatus == "COMPLETE_LATE"
  { checklist with
    pendingCount := open_.length
    lateCount := late
    completeCount := done.length
    progressPercent := TelemetryHub.progressPercent done.length (open_.length + done.length)
    checklistStatus := checklistStatusOf open_.length late done.length hasCompleteLate }

/-- `recompute_checklist_status`. -/
def recomputeChecklistStatus (checklistUid : String) : CoreM ChecklistRecord := do
  let tasks ← (checklistTaskUids (← core) checklistUid).mapM refreshTaskStatus
  let checklist ← Proc.orThrow ((← core).checklists.get checklistUid) (checklistNotFound checklistUid)
  let checklist := { checklist.recounted tasks with updatedTsMs := ← utcNowMs }
  update fun core => { core with checklists := core.checklists.insert checklistUid checklist }
  return checklist

/-- `checklist_task_mut`: a row of the checklist. -/
def checklistTaskOf (checklistUid taskUid : String) : CoreM ChecklistTaskRecord := do
  if !(← core).checklists.contains checklistUid then throw (checklistNotFound checklistUid)
  Proc.orThrow (((← core).checklistTasks.get taskUid).filter fun task =>
    task.checklistUid == checklistUid) (checklistTaskNotFound taskUid)

section

variable [Host]

/-! ## Columns -/

omit [Host] in
/-- `checklist_columns_from_args`. -/
def checklistColumnsFromArgs (value : Option Value) : Except RchCoreError (List Value) :=
  match value with
  | none | some .null => .ok []
  | some (.array items) =>
    if items.all Value.isObject then .ok items else invalidPayload "columns must contain objects"
  | some (.bool _) | some (.number _) | some (.string _) | some (.object _) =>
    invalidPayload "columns must be a list"

omit [Host] in
/-- `default_checklist_columns`. -/
def defaultChecklistColumns : List Value :=
  [.object [
      ("column_name", toValue "Due"),
      ("display_order", toValue (1 : Nat)),
      ("column_type", toValue "RELATIVE_TIME"),
      ("column_editable", toValue false),
      ("is_removable", toValue false),
      ("system_key", toValue "DUE_RELATIVE_DTG")],
    .object [
      ("column_name", toValue "Task"),
      ("display_order", toValue (2 : Nat)),
      ("column_type", toValue "SHORT_STRING"),
      ("column_editable", toValue true),
      ("is_removable", toValue true)]]

omit [Host] in
/-- `defaulted_checklist_columns`. -/
def defaultedChecklistColumns (columns : List Value) : List Value :=
  if columns.isEmpty then defaultChecklistColumns else columns

/-- `validate_checklist_columns`. -/
def validateChecklistColumns (columns : List Value) : Except RchCoreError Unit :=
  let dueColumns := (defaultedChecklistColumns columns).filter fun column =>
    optionalText column ["system_key"] = some "DUE_RELATIVE_DTG"
  match dueColumns with
  | [due] =>
    if optionalText due ["column_type"] ≠ some "RELATIVE_TIME" then
      invalidPayload "DUE_RELATIVE_DTG column must be RELATIVE_TIME"
    else if (optionalBool due "is_removable").getD true then
      invalidPayload "DUE_RELATIVE_DTG column cannot be removable"
    else .ok ()
  | _ => invalidPayload "Exactly one DUE_RELATIVE_DTG system column is required"

/-- A column as `replace_template_columns` and `insert_checklist_columns` write
it: `checklistUid` and `templateUid` say whose it is, `nameKeys` where its name is. -/
def columnRecord (checklistUid templateUid : Option String) (nameKeys : List String) (now : Int)
    (index : Nat) (column : Value) (columnUid : String) : ChecklistColumnRecord :=
  { columnUid, checklistUid, templateUid
    columnName := (optionalText column nameKeys).getD "Column"
    displayOrder := ((column.get "display_order").bind valueAsI64).getD (index + 1)
    columnType := ((optionalText column ["column_type"]).bind fun value =>
      (normalizeChecklistColumnType value).toOption).getD "SHORT_STRING"
    columnEditable := (optionalBool column "column_editable").getD true
    backgroundColor := (optionalTextOrEmpty column ["background_color"]).bind noneIfEmpty
    textColor := (optionalTextOrEmpty column ["text_color"]).bind noneIfEmpty
    isRemovable := (optionalBool column "is_removable").getD true
    systemKey := (optionalTextOrEmpty column ["system_key"]).bind noneIfEmpty
    createdTsMs := now
    updatedTsMs := now }

omit [Host] in
/-- Insert a column for every value, from position `index` on. -/
def insertColumns (record : Nat → Value → String → ChecklistColumnRecord) :
    Nat → List Value → CoreM Unit
  | _, [] => return
  | index, column :: rest => do
    let columnUid ← newUuid
    let record' := record index column columnUid
    update fun core => { core with checklistColumns := core.checklistColumns.insert columnUid record' }
    insertColumns record (index + 1) rest

/-- `insert_checklist_columns`. -/
def insertChecklistColumns (checklistUid : String) (columns : List Value) (now : Int) : CoreM Unit :=
  insertColumns (columnRecord (some checklistUid) none ["column_name"] now) 0
    (defaultedChecklistColumns columns)

/-- `replace_template_columns`. -/
def replaceTemplateColumns (templateUid : String) (columns : List Value) (now : Int) :
    CoreM Unit := do
  update fun core =>
    { core with checklistColumns := core.checklistColumns.retain fun _ column =>
        column.templateUid != some templateUid }
  insertColumns (columnRecord none (some templateUid) ["column_name", "name"] now) 0 columns

/-! ## Templates -/

/-- `create_checklist_template`. -/
def createChecklistTemplate (template : Value) (sourceTemplateUid : Option String) :
    CoreM ChecklistTemplateRecord := do
  let now ← utcNowMs
  let uid ← orNewUuid (optionalText template ["uid"])
  let createdAt ← optionalTimestampMs template ["created_at"]
  let updatedAt ← optionalTimestampMs template ["updated_at"]
  let record : ChecklistTemplateRecord :=
    { uid
      templateName := (optionalText template ["template_name", "name"]).getD "Template"
      description := (optionalTextOrEmpty template ["description"]).getD ""
      createdByTeamMemberRnsIdentity :=
        (optionalText template ["created_by_team_member_rns_identity", "created_by"]).getD "unknown"
      sourceTemplateUid := sourceTemplateUid.or
        ((optionalTextOrEmpty template ["source_template_uid"]).bind noneIfEmpty)
      serverOnly := (optionalBool template "server_only").getD true
      createdTsMs := createdAt.getD now
      updatedTsMs := updatedAt.getD now }
  let columns := defaultedChecklistColumns (← checklistColumnsFromArgs (template.get "columns"))
  validateChecklistColumns columns
  update fun core => { core with checklistTemplates := core.checklistTemplates.insert uid record }
  replaceTemplateColumns uid columns now
  return record

/-- The columns of a patched template, where the patch has columns. -/
def patchTemplateColumns (templateUid : String) (patch : Value) : CoreM Unit := do
  if patch.containsKey "columns" then
    let columns ← checklistColumnsFromArgs (patch.get "columns")
    validateChecklistColumns columns
    replaceTemplateColumns templateUid columns (← utcNowMs)

/-- `update_checklist_template`. -/
def updateChecklistTemplate (templateUid : String) (patch : Value) :
    CoreM ChecklistTemplateRecord := do
  if !(← core).checklistTemplates.contains templateUid then throw (templateNotFound templateUid)
  patchTemplateColumns templateUid patch
  let template ← Proc.orThrow ((← core).checklistTemplates.get templateUid)
    (.invalidPayload "template disappeared")
  let template := { template with
    templateName := (optionalText patch ["template_name", "name"]).getD template.templateName
    description := (optionalTextOrEmpty patch ["description"]).getD template.description
    sourceTemplateUid := patchedText patch ["source_template_uid"] template.sourceTemplateUid
    updatedTsMs := ← utcNowMs }
  update fun core =>
    { core with checklistTemplates := core.checklistTemplates.insert templateUid template }
  return template

/-- `clone_checklist_template`. -/
def cloneChecklistTemplate (command : MissionCommandEnvelope) (sourceUid name : String) :
    CoreM ChecklistTemplateRecord := do
  let source ← Proc.orThrow ((← core).checklistTemplates.get sourceUid) (templateNotFound sourceUid)
  let columns := (← core).templateColumnValues sourceUid
  let description := (optionalTextOrEmpty command.args ["description"]).getD source.description
  let payload : Value := .object [
    ("template_name", toValue name),
    ("description", toValue description),
    ("created_by_team_member_rns_identity", toValue command.source.rnsIdentity),
    ("source_template_uid", toValue sourceUid),
    ("columns", .array columns)]
  createChecklistTemplate payload (some sourceUid)

/-- `delete_checklist_template`. -/
def deleteChecklistTemplate (templateUid : String) : CoreM Value := do
  let template ← Proc.orThrow ((← core).checklistTemplates.get templateUid)
    (templateNotFound templateUid)
  let payload := (← core).checklistTemplateValue template
  update fun core => { core with
    checklistTemplates := core.checklistTemplates.remove templateUid
    checklistColumns := core.checklistColumns.retain fun _ column =>
      column.templateUid != some templateUid }
  return payload

/-- `apply_checklist_template_command`. -/
def applyChecklistTemplateCommand (command : MissionCommandEnvelope) : CoreM Value := do
  let args := command.args
  match command.commandType with
  | "checklist.template.list" =>
    let core ← core
    return .object [("templates",
      .array (core.checklistTemplateList.map core.checklistTemplateValue))]
  | "checklist.template.get" =>
    let templateUid ← requiredText args ["template_uid"]
    let template ← Proc.orThrow ((← core).checklistTemplates.get templateUid)
      (templateNotFound templateUid)
    return (← core).checklistTemplateValue template
  | "checklist.template.create" =>
    let template ← Proc.orThrow (args.get "template") (.invalidPayload "template is required")
    let template ← createChecklistTemplate template none
    return (← core).checklistTemplateValue template
  | "checklist.template.update" =>
    let templateUid ← requiredText args ["template_uid"]
    let patch ← Proc.orThrow (args.get "patch")
      (.invalidPayload "template_uid and patch are required")
    let template ← updateChecklistTemplate templateUid patch
    return (← core).checklistTemplateValue template
  | "checklist.template.clone" =>
    let sourceUid ← requiredText args ["source_template_uid"]
    let name ← requiredText args ["template_name"]
    let template ← cloneChecklistTemplate command sourceUid name
    return (← core).checklistTemplateValue template
  | "checklist.template.delete" =>
    deleteChecklistTemplate (← requiredText args ["template_uid"])
  | other => throw (.unsupportedCommand other)

/-! ## Task rows and cells -/

/-- What `add_checklist_task_row` reads of its arguments. -/
structure TaskRowTimes where
  number : Int
  dueRelativeMinutes : Option Int
  dueTsMs : Option Int

/-- The number and the due time of a row. -/
def taskRowTimesFromArgs (checklist : ChecklistRecord) (args : Value) :
    Except RchCoreError TaskRowTimes := do
  let number := (← optionalI64 args "number").getD 1
  let dueRelativeMinutes := (← optionalI64 args "due_relative_minutes").or
    (if args.containsKey "due_dtg" then none else some (i64 (number * 30)))
  let dueTsMs := (← optionalTimestampMs args ["due_dtg"]).or
    (dueRelativeMinutes.map fun minutes => i64 (checklist.startTsMs + i64 (minutes * 60000)))
  return { number, dueRelativeMinutes, dueTsMs }

omit [Host] in
/-- An empty cell of a new row for every column. -/
def insertEmptyCells (taskUid : String) (now : Int) : List ChecklistColumnRecord → CoreM Unit
  | [] => return
  | column :: rest => do
    let cellUid ← newUuid
    let cell : ChecklistCellRecord :=
      { cellUid, taskUid, columnUid := column.columnUid, value := none, updatedTsMs := now,
        updatedByTeamMemberRnsIdentity := none }
    update fun core => { core with checklistCells := core.checklistCells.insert cellUid cell }
    insertEmptyCells taskUid now rest

/-- A new row of `add_checklist_task_row` with its cells. -/
def insertChecklistTask (checklistUid taskUid : String) (times : TaskRowTimes) (args : Value)
    (now : Int) : CoreM Unit := do
  let (taskStatus, isLate) ← deriveTaskStatus "PENDING" times.dueTsMs none
  let task : ChecklistTaskRecord :=
    { taskUid, checklistUid, number := times.number, userStatus := "PENDING", taskStatus, isLate,
      customStatus := none, dueRelativeMinutes := times.dueRelativeMinutes, dueTsMs := times.dueTsMs
      notes := (optionalTextOrEmpty args ["notes"]).bind noneIfEmpty
      rowBackgroundColor := (optionalTextOrEmpty args ["row_background_color"]).bind noneIfEmpty
      lineBreakEnabled := (optionalBool args "line_break_enabled").getD false
      completedTsMs := none
      completedByTeamMemberRnsIdentity := none
      legacyValue := (optionalTextOrEmpty args ["legacy_value"]).bind noneIfEmpty
      createdTsMs := now
      updatedTsMs := now }
  update fun core => { core with checklistTasks := core.checklistTasks.insert taskUid task }
  insertEmptyCells taskUid now ((← core).columnsForChecklist checklistUid)

/-- The row of `add_checklist_task_row`: a task of the checklist written over, or a
new one. -/
def putChecklistTask (checklistUid taskUid : String) (times : TaskRowTimes) (args : Value)
    (now : Int) : CoreM Unit := do
  match (← core).checklistTasks.get taskUid with
  | some existingTask =>
    if existingTask.checklistUid ≠ checklistUid then throw (checklistTaskNotFound taskUid)
    let task := { existingTask with
      number := times.number
      dueRelativeMinutes := times.dueRelativeMinutes
      dueTsMs := times.dueTsMs
      legacyValue := (optionalTextOrEmpty args ["legacy_value"]).bind noneIfEmpty
      notes := (optionalTextOrEmpty args ["notes"]).bind noneIfEmpty
      updatedTsMs := now }
    update fun core => { core with checklistTasks := core.checklistTasks.insert taskUid task }
  | none => insertChecklistTask checklistUid taskUid times args now

/-- `add_checklist_task_row`. -/
def addChecklistTaskRow (checklistUid : String) (args : Value) : CoreM ChecklistRecord := do
  let checklist ← Proc.orThrow ((← core).checklists.get checklistUid) (checklistNotFound checklistUid)
  let times ← taskRowTimesFromArgs checklist args
  let now ← utcNowMs
  let taskUid ← orNewUuid (optionalText args ["task_uid"])
  putChecklistTask checklistUid taskUid times args now
  recomputeChecklistStatus checklistUid

omit [Host] in
/-- `delete_checklist_task_row`. -/
def deleteChecklistTaskRow (checklistUid taskUid : String) : CoreM ChecklistRecord := do
  let task ← checklistTaskOf checklistUid taskUid
  update fun core => { core with
    checklistTasks := core.checklistTasks.remove taskUid
    checklistCells := core.checklistCells.retain fun _ cell => cell.taskUid != task.taskUid }
  recomputeChecklistStatus checklistUid

/-- `set_checklist_task_row_style`. -/
def setChecklistTaskRowStyle (checklistUid taskUid : String) (args : Value) :
    CoreM ChecklistRecord := do
  let task ← checklistTaskOf checklistUid taskUid
  let task := { task with
    rowBackgroundColor := patchedText args ["row_background_color"] task.rowBackgroundColor
    lineBreakEnabled := (optionalBool args "line_break_enabled").getD task.lineBreakEnabled
    updatedTsMs := ← utcNowMs }
  update fun core => { core with checklistTasks := core.checklistTasks.insert taskUid task }
  recomputeChecklistStatus checklistUid

omit [Host] in
/-- The cell of a task and a column. -/
def findCell (core : RchCore) (taskUid columnUid : String) : Option ChecklistCellRecord :=
  core.checklistCells.values.find? fun cell => cell.taskUid == taskUid && cell.columnUid == columnUid

/-- `set_checklist_task_cell`. -/
def setChecklistTaskCell (checklistUid taskUid columnUid : String) (args : Value) :
    CoreM ChecklistRecord := do
  let _ ← checklistTaskOf checklistUid taskUid
  if !((← core).checklistColumns.get columnUid).any fun column =>
      column.checklistUid == some checklistUid then
    throw (.invalidPayload ("Checklist column '" ++ columnUid ++ "' not found"))
  let now ← utcNowMs
  let existing := findCell (← core) taskUid columnUid
  let cellUid ← orNewUuid (existing.map ChecklistCellRecord.cellUid)
  let cell : ChecklistCellRecord :=
    { cellUid, taskUid, columnUid
      value := ((args.get "value").bind valueAsStr).bind noneIfEmpty
      updatedTsMs := now
      updatedByTeamMemberRnsIdentity :=
        ((optionalTextOrEmpty args ["updated_by_team_member_rns_identity"]).bind noneIfEmpty).or
          (existing.bind ChecklistCellRecord.updatedByTeamMemberRnsIdentity) }
  update fun core => { core with checklistCells := core.checklistCells.insert cellUid cell }
  recomputeChecklistStatus checklistUid

/-- `set_checklist_task_status`. -/
def setChecklistTaskStatus (checklistUid taskUid : String) (args : Value) :
    CoreM ChecklistRecord := do
  let task ← checklistTaskOf checklistUid taskUid
  let userStatus ← normalizeChecklistUserStatus ((optionalText args ["user_status"]).getD "")
  let now ← utcNowMs
  let task := { task with
    userStatus
    completedTsMs := if userStatus = "COMPLETE" then task.completedTsMs.or (some now) else none
    completedByTeamMemberRnsIdentity :=
      if userStatus = "COMPLETE" then
        ((optionalTextOrEmpty args ["changed_by_team_member_rns_identity"]).bind noneIfEmpty).or
          task.completedByTeamMemberRnsIdentity
      else none }
  let (taskStatus, isLate) ← deriveTaskStatus userStatus task.dueTsMs task.completedTsMs
  let task := { task with taskStatus, isLate, updatedTsMs := now }
  update fun core => { core with checklistTasks := core.checklistTasks.insert taskUid task }
  recomputeChecklistStatus checklistUid

/-- `apply_checklist_task_command`. -/
def applyChecklistTaskCommand (command : MissionCommandEnvelope) : CoreM Value := do
  let args := command.args
  let checklistUid ← requiredText args ["checklist_uid"]
  let checklist ←
    match command.commandType with
    | "checklist.task.row.add" => addChecklistTaskRow checklistUid args
    | "checklist.task.row.delete" =>
      let taskUid ← requiredText args ["task_uid"]
      deleteChecklistTaskRow checklistUid taskUid
    | "checklist.task.row.style.set" =>
      let taskUid ← requiredText args ["task_uid"]
      setChecklistTaskRowStyle checklistUid taskUid args
    | "checklist.task.cell.set" =>
      let taskUid ← requiredText args ["task_uid"]
      let columnUid ← requiredText args ["column_uid"]
      setChecklistTaskCell checklistUid taskUid columnUid args
    | "checklist.task.status.set" =>
      let taskUid ← requiredText args ["task_uid"]
      setChecklistTaskStatus checklistUid taskUid args
    | other => throw (.unsupportedCommand other)
  return (← core).checklistValue checklist

/-! ## Checklists -/

omit [Host] in
/-- `collect` into a map: of two pairs with one key the later stays. -/
def lookupLast {K V : Type} [BEq K] (pairs : List (K × V)) (key : K) : Option V :=
  pairs.reverse.lookup key

/-- The column an initial cell names, by its uid, its order or its name. -/
def initialCellColumn (core : RchCore) (checklistUid : String)
    (columns : List ChecklistColumnRecord) (cell : Value) : Option String :=
  let byOrder (key : String) : Option String :=
    ((optionalI64 cell key).toOption.join).bind
      (lookupLast (columns.map fun column => (column.displayOrder, column.columnUid)))
  let byName : Option String :=
    (optionalText cell ["column_name"]).bind fun name =>
      lookupLast (columns.map fun column =>
        (toAsciiLowercase (trim column.columnName), column.columnUid)) (toAsciiLowercase (trim name))
  let byUid : Option String :=
    (optionalText cell ["column_uid"]).filter fun columnUid =>
      (core.checklistColumns.get columnUid).any fun column => column.checklistUid == some checklistUid
  ((byUid.or (byOrder "column_order")).or (byOrder "display_order")).or byName

/-- One cell of an initial task row. -/
def setInitialCell (checklistUid taskUid : String) (columns : List ChecklistColumnRecord)
    (cell : Value) : CoreM Unit := do
  match initialCellColumn (← core) checklistUid columns cell with
  | some columnUid => do
    let _ ← setChecklistTaskCell checklistUid taskUid columnUid cell
  | none => pure ()

/-- One task of `insert_initial_checklist_tasks_from_args`. -/
def insertInitialChecklistTask (checklistUid : String) (columns : List ChecklistColumnRecord)
    (task : Value) : CoreM Unit := do
  let existingTaskUids := checklistTaskUids (← core) checklistUid
  let _ ← addChecklistTaskRow checklistUid task
  let newTaskUid := (checklistTaskUids (← core) checklistUid).find? fun taskUid =>
    !existingTaskUids.contains taskUid
  match newTaskUid, (task.get "cells").bind Value.asArray with
  | some taskUid, some cells => cells.forM (setInitialCell checklistUid taskUid columns)
  | _, _ => pure ()

/-- `insert_initial_checklist_tasks_from_args`. -/
def insertInitialChecklistTasksFromArgs (checklistUid : String) (tasks : Option Value) :
    CoreM Unit := do
  match tasks.bind Value.asArray with
  | some tasks =>
    let columns := (← core).columnsForChecklist checklistUid
    tasks.forM (insertInitialChecklistTask checklistUid columns)
  | none => pure ()

/-- The template of a new checklist, with the columns it supplies. -/
def checklistTemplateFromArgs (core : RchCore) (templateUid : Option String) (columns : List Value) :
    Except RchCoreError (Option String × List Value) :=
  match templateUid with
  | none => .ok (none, columns)
  | some templateUid =>
    match core.checklistTemplates.get templateUid with
    | none => .error (templateNotFound templateUid)
    | some template => .ok (some template.templateName,
        if columns.isEmpty then core.templateColumnValues templateUid else columns)

omit [Host] in
/-- The mission of a record must exist if it has one. -/
def ensureMissionExists (core : RchCore) (missionUid : Option String) : Except RchCoreError Unit :=
  if missionUid.all core.missions.contains then .ok () else .error .missionNotFound

/-- The record of a new checklist: what `create_checklist_from_args` reads once
it knows the uid to be new. -/
def newChecklistFromArgs (command : MissionCommandEnvelope) (mode defaultSyncState uid name : String)
    (missionUid templateUid templateName : Option String) (now : Int) :
    Except RchCoreError ChecklistRecord := do
  let args := command.args
  let startTime ← optionalTimestampMs args ["start_time"]
  let templateVersion ← optionalI64 args "template_version"
  let mode ← normalizeChecklistMode mode
  let syncState ← normalizeChecklistSyncState
    ((optionalText args ["sync_state"]).getD defaultSyncState)
  let originType ← normalizeChecklistOrigin
    ((optionalText args ["origin_type"]).getD "BLANK_TEMPLATE")
  return {
    uid, missionUid, templateUid, templateName, name, mode, syncState, originType
    templateVersion := templateVersion.or (some 1)
    description := (optionalTextOrEmpty args ["description"]).getD ""
    startTsMs := startTime.getD now
    checklistStatus := "PENDING"
    createdByTeamMemberRnsIdentity :=
      (optionalText args ["source_identity", "created_by_team_member_rns_identity"]).getD
        command.source.rnsIdentity
    createdTsMs := now
    updatedTsMs := now
    uploadedTsMs := none
    progressPercent := 0.0
    pendingCount := 0
    lateCount := 0
    completeCount := 0 }

/-- `create_checklist_from_args`. The checklist and its columns are there before
the task rows are read. -/
def createChecklistFromArgs (command : MissionCommandEnvelope) (mode defaultSyncState : String) :
    CoreM ChecklistRecord := do
  let args := command.args
  let name ← requiredText args ["name"]
  let columns ← checklistColumnsFromArgs (args.get "columns")
  let templateUid := optionalText args ["template_uid"]
  let (templateName, columns) ← checklistTemplateFromArgs (← core) templateUid columns
  if mode = "ONLINE" && columns.isEmpty && templateUid.isNone then
    throw (.invalidPayload "template_uid is required")
  validateChecklistColumns columns
  let missionUid := optionalText args ["mission_uid", "mission_id"]
  ensureMissionExists (← core) missionUid
  let now ← utcNowMs
  let uid ← orNewUuid (optionalText args ["checklist_uid", "uid"])
  match (← core).checklists.get uid with
  | some existing => return existing
  | none =>
    let checklist ← newChecklistFromArgs command mode defaultSyncState uid name missionUid
      templateUid templateName now
    update fun core => { core with checklists := core.checklists.insert uid checklist }
    insertChecklistColumns uid columns now
    insertInitialChecklistTasksFromArgs uid (args.get "tasks")
    let _ ← recomputeChecklistStatus uid
    return ((← core).checklists.get uid).getD checklist

omit [Host] in
/-- `get_mut` on a checklist known to be there. -/
def modifyChecklist (checklistUid : String) (f : ChecklistRecord → ChecklistRecord)
    (core : RchCore) : RchCore :=
  match core.checklists.get checklistUid with
  | some checklist => { core with checklists := core.checklists.insert checklistUid (f checklist) }
  | none => core

/-- An enumerated field of `update_checklist_from_patch`: read, checked and
written to the stored checklist. -/
def patchChecklistEnum (checklistUid : String) (patch : Value) (key : String)
    (normalize : String → Except RchCoreError String)
    (set : String → ChecklistRecord → ChecklistRecord) : CoreM Unit := do
  match optionalText patch [key] with
  | some value =>
    let value ← normalize value
    update (modifyChecklist checklistUid (set value))
  | none => pure ()

/-- The mission of `update_checklist_from_patch`. -/
def patchChecklistMission (checklistUid : String) (patch : Value) : CoreM Unit := do
  if patch.containsKey "mission_uid" || patch.containsKey "mission_id" then
    let missionUid := (optionalTextOrEmpty patch ["mission_uid", "mission_id"]).bind noneIfEmpty
    ensureMissionExists (← core) missionUid
    update (modifyChecklist checklistUid fun checklist => { checklist with missionUid })

/-- `update_checklist_from_patch`: every field is written before the next is read. -/
def updateChecklistFromPatch (checklistUid : String) (patch : Value) : CoreM ChecklistRecord := do
  if !(← core).checklists.contains checklistUid then throw (checklistNotFound checklistUid)
  update (modifyChecklist checklistUid fun checklist => { checklist with
    name := (optionalText patch ["name"]).getD checklist.name
    description := (optionalTextOrEmpty patch ["description"]).getD checklist.description })
  patchChecklistMission checklistUid patch
  patchChecklistEnum checklistUid patch "mode" normalizeChecklistMode
    fun mode checklist => { checklist with mode }
  patchChecklistEnum checklistUid patch "sync_state" normalizeChecklistSyncState
    fun syncState checklist => { checklist with syncState }
  patchChecklistEnum checklistUid patch "origin_type" normalizeChecklistOrigin
    fun originType checklist => { checklist with originType }
  patchChecklistEnum checklistUid patch "checklist_status" normalizeTaskStatus
    fun checklistStatus checklist => { checklist with checklistStatus }
  let checklist ← Proc.orThrow ((← core).checklists.get checklistUid) (checklistNotFound checklistUid)
  let checklist := { checklist with updatedTsMs := ← utcNowMs }
  update fun core => { core with checklists := core.checklists.insert checklistUid checklist }
  return checklist

/-- `delete_checklist`. -/
def deleteChecklist (checklistUid : String) : CoreM Value := do
  let checklist ← Proc.orThrow ((← core).checklists.get checklistUid) (checklistNotFound checklistUid)
  update fun core => { core with checklists := core.checklists.remove checklistUid }
  let payload := (← core).checklistValue checklist
  update fun core =>
    let taskUids := checklistTaskUids core checklistUid
    let assignmentUids := (core.assignments.values.filter fun assignment =>
      taskUids.contains assignment.taskUid).map AssignmentRecord.assignmentUid
    { core with
      checklistTasks := core.checklistTasks.retain fun _ task => task.checklistUid != checklistUid
      checklistColumns := core.checklistColumns.retain fun _ column =>
        column.checklistUid != some checklistUid
      checklistCells := core.checklistCells.retain fun _ cell => !taskUids.contains cell.taskUid
      checklistFeedPublications := core.checklistFeedPublications.retain fun _ publication =>
        publication.checklistUid != checklistUid
      taskSkillRequirements := core.taskSkillRequirements.retain fun _ requirement =>
        !taskUids.contains requirement.taskUid
      assignments := core.assignments.retain fun _ assignment =>
        !taskUids.contains assignment.taskUid
      assignmentAssetLinks := core.assignmentAssetLinks.retain fun link =>
        !assignmentUids.contains link.1 }
  return payload

omit [Host] in
/-- `upload_checklist`. -/
def uploadChecklist (checklistUid : String) : CoreM ChecklistRecord := do
  let checklist ← Proc.orThrow ((← core).checklists.get checklistUid) (checklistNotFound checklistUid)
  let now ← utcNowMs
  let checklist := { checklist with
    syncState := "SYNCED"
    uploadedTsMs := some now
    updatedTsMs := now }
  update fun core => { core with checklists := core.checklists.insert checklistUid checklist }
  return checklist

/-- `publish_checklist_feed`. -/
def publishChecklistFeed (checklistUid missionFeedUid : String) (command : MissionCommandEnvelope) :
    CoreM ChecklistFeedPublicationRecord := do
  let checklist ← Proc.orThrow ((← core).checklists.get checklistUid) (checklistNotFound checklistUid)
  if checklist.mode = "OFFLINE" && checklist.syncState != "SYNCED" then
    throw (.invalidPayload "Offline checklists must be SYNCED before publication")
  let publicationUid ← newUuid
  let publishedTsMs ← utcNowMs
  let publication : ChecklistFeedPublicationRecord :=
    { publicationUid, checklistUid, missionFeedUid, publishedTsMs
      publishedByTeamMemberRnsIdentity :=
        (optionalText command.args ["source_identity", "published_by_team_member_rns_identity"]).getD
          command.source.rnsIdentity }
  update fun core =>
    { core with checklistFeedPublications :=
        core.checklistFeedPublications.insert publicationUid publication }
  return publication

end
end TelemetryHub
