import TelemetryHub.Edits.Journal
import TelemetryHub.Core.ChecklistCommands

/-!
# What the checklist commands write

Their own tables, and the journal. The one command that reaches the assignments is the
deletion of a checklist, which takes those of its tasks along, and their links.
-/

namespace TelemetryHub

open Lib CoreM

/-- The core without the rows of the checklist and what refers to them. -/
def RchCore.withoutChecklistRows (core : RchCore) (checklistUid : String) : RchCore :=
  let taskUids := checklistTaskUids core checklistUid
  let assignmentUids := (core.assignments.values.filter fun assignment =>
    taskUids.contains assignment.taskUid).map AssignmentRecord.assignmentUid
  { core with
    checklistTasks := core.checklistTasks.retain fun _ task => task.checklistUid != checklistUid
    checklistColumns := core.checklistColumns.retain fun _ column => column.checklistUid != some checklistUid
    checklistCells := core.checklistCells.retain fun _ cell => !taskUids.contains cell.taskUid
    checklistFeedPublications := core.checklistFeedPublications.retain fun _ publication =>
      publication.checklistUid != checklistUid
    taskSkillRequirements := core.taskSkillRequirements.retain fun _ requirement =>
      !taskUids.contains requirement.taskUid
    assignments := core.assignments.retain fun _ assignment => !taskUids.contains assignment.taskUid
    assignmentAssetLinks := core.assignmentAssetLinks.retain fun link => !assignmentUids.contains link.1 }

/-- One write of a checklist command. -/
inductive ChecklistEdit (core : RchCore) : RchCore → Prop
  | tables (checklists : Dict String ChecklistRecord) (checklistTemplates : Dict String ChecklistTemplateRecord)
      (checklistColumns : Dict String ChecklistColumnRecord) (checklistTasks : Dict String ChecklistTaskRecord)
      (checklistCells : Dict String ChecklistCellRecord)
      (checklistFeedPublications : Dict String ChecklistFeedPublicationRecord) :
      ChecklistEdit core { core with
        checklists, checklistTemplates, checklistColumns, checklistTasks, checklistCells, checklistFeedPublications }
  | delete (checklistUid : String) : ChecklistEdit core (core.withoutChecklistRows checklistUid)
  | journal {core' : RchCore} (entry : JournalEdit core core') : ChecklistEdit core core'

/-- A step of a checklist command: a write, a reading of the clock or a draw. -/
def ChecklistWorldStep (w w' : World) : Prop := w'.core = w.core ∨ ChecklistEdit w.core w'.core

/-- The method gets where it gets by such steps. -/
def Checklists {α : Type} (m : CoreM α) : Prop := Proc.Walks ChecklistWorldStep m

/-! ## Steps -/

namespace Checklists

variable {α β : Type}

theorem pure (a : α) : Checklists (Pure.pure a : CoreM α) := Proc.Walks.pure a

theorem throw (e : RchCoreError) : Checklists (MonadExcept.throw e : CoreM α) := Proc.Walks.throw e

theorem bind {m : CoreM β} {k : β → CoreM α} (hm : Checklists m) (hk : ∀ b, Checklists (k b)) : Checklists (m >>= k) :=
  Proc.Walks.bind hm hk

theorem ite {c : Prop} [Decidable c] {m m' : CoreM α} (hm : Checklists m) (hm' : Checklists m') :
    Checklists (if c then m else m') := Proc.Walks.ite hm hm'

/-- `if c { return Err(e) }` before the rest. -/
theorem guard {c : Prop} [Decidable c] {e : RchCoreError} {k : β → CoreM α} {m : CoreM α} (hm : Checklists m) :
    Checklists (if c then MonadExcept.throw e >>= k else m) := Proc.Walks.guard hm

theorem forM {items : List β} {body : β → CoreM PUnit} (h : ∀ b, Checklists (body b)) : Checklists (items.forM body) :=
  Proc.Walks.forM h

theorem orThrow (x : Option α) (e : RchCoreError) : Checklists (Proc.orThrow x e : CoreM α) := Proc.Walks.orThrow x e

/-- `self`, read. -/
theorem read {k : RchCore → CoreM α} (h : ∀ core, Checklists (k core)) : Checklists (core >>= k) :=
  bind (Proc.Walks.step fun _ => .inl rfl) h

/-- A check, and what follows it. -/
theorem checked {x : Except RchCoreError β} {k : β → CoreM α} (h : ∀ b, Checklists (k b)) : Checklists (liftM x >>= k) :=
  bind (Proc.Walks.check x) h

theorem required {x : Option β} {e : RchCoreError} {k : β → CoreM α} (h : ∀ b, Checklists (k b)) :
    Checklists (Proc.orThrow x e >>= k) := bind (orThrow x e) h

/-- The clock, read. -/
theorem clock {k : Int → CoreM α} (h : ∀ t, Checklists (k t)) : Checklists (utcNowMs >>= k) :=
  bind (Proc.Walks.bind (Proc.Walks.step fun _ => .inl rfl) fun _ => Proc.Walks.pure _) h

theorem draw {k : String → CoreM α} (h : ∀ uid, Checklists (k uid)) : Checklists (newUuid >>= k) :=
  bind (Proc.Walks.step fun _ => .inl rfl) h

theorem drawUnless {value : Option String} {k : String → CoreM α} (h : ∀ uid, Checklists (k uid)) :
    Checklists (orNewUuid value >>= k) := by
  cases value with
  | some uid => exact h uid
  | none => exact draw h

theorem edit {f : RchCore → RchCore} (edits : ∀ core, ChecklistEdit core (f core)) : Checklists (update f) :=
  Proc.Walks.step fun w => .inr (edits w.core)

/-- A write, and what follows it. -/
theorem write {f : RchCore → RchCore} {k : Unit → CoreM α} (edits : ∀ core, ChecklistEdit core (f core))
    (h : Checklists (k ())) : Checklists (update f >>= k) := bind (edit edits) fun _ => h

end Checklists

/-! ## Rows -/

theorem deriveTaskStatus_walks (userStatus : String) (dueTsMs completedTsMs : Option Int) :
    Checklists (deriveTaskStatus userStatus dueTsMs completedTsMs) := by
  unfold deriveTaskStatus
  refine .ite ?_ ?_
  · split
    · exact .ite (.pure _) (.pure _)
    · exact .pure _
  · split
    · exact .clock fun _ => .ite (.pure _) (.pure _)
    · exact .pure _

theorem recomputeChecklistStatus_walks (checklistUid : String) : Checklists (recomputeChecklistStatus checklistUid) := by
  unfold recomputeChecklistStatus
  refine .read fun _ => .bind (Proc.Walks.mapM fun taskUid => ?_) fun _ => .read fun _ => .required fun _ => .clock fun _ => ?_
  · unfold refreshTaskStatus
    show Checklists _
    refine .read fun _ => .required fun _ => .bind (deriveTaskStatus_walks _ _ _) fun _ => ?_
    exact .write (fun _ => .tables _ _ _ _ _ _) (.pure _)
  · exact .write (fun _ => .tables _ _ _ _ _ _) (.pure _)

theorem checklistTaskOf_walks (checklistUid taskUid : String) : Checklists (checklistTaskOf checklistUid taskUid) := by
  unfold checklistTaskOf
  exact .read fun _ => .guard (.read fun _ => .orThrow _ _)

section

variable [Host]

omit [Host] in
theorem insertEmptyCells_walks (taskUid : String) (now : Int) (columns : List ChecklistColumnRecord) :
    Checklists (insertEmptyCells taskUid now columns) := by
  induction columns with
  | nil => exact .pure _
  | cons column rest ih =>
    unfold insertEmptyCells
    exact .draw fun _ => .write (fun _ => .tables _ _ _ _ _ _) ih

theorem putChecklistTask_walks (checklistUid taskUid : String) (times : TaskRowTimes) (args : Value) (now : Int) :
    Checklists (putChecklistTask checklistUid taskUid times args now) := by
  unfold putChecklistTask
  refine .read fun core => ?_
  split
  · exact .guard (Checklists.edit fun _ => .tables _ _ _ _ _ _)
  · unfold insertChecklistTask
    refine .bind (deriveTaskStatus_walks _ _ _) fun _ => .write (fun _ => .tables _ _ _ _ _ _) ?_
    exact .read fun _ => insertEmptyCells_walks _ _ _

theorem addChecklistTaskRow_walks (checklistUid : String) (args : Value) :
    Checklists (addChecklistTaskRow checklistUid args) := by
  unfold addChecklistTaskRow
  refine .read fun _ => .required fun _ => .checked fun _ => .clock fun _ => .drawUnless fun _ => ?_
  exact .bind (putChecklistTask_walks _ _ _ _ _) fun _ => recomputeChecklistStatus_walks _

theorem setChecklistTaskCell_walks (checklistUid taskUid columnUid : String) (args : Value) :
    Checklists (setChecklistTaskCell checklistUid taskUid columnUid args) := by
  unfold setChecklistTaskCell
  refine .bind (checklistTaskOf_walks _ _) fun _ => .read fun _ => .guard (.clock fun _ => .read fun _ => ?_)
  refine .drawUnless fun _ => .write (fun _ => .tables _ _ _ _ _ _) ?_
  exact recomputeChecklistStatus_walks _

theorem setChecklistTaskStatus_walks (checklistUid taskUid : String) (args : Value) :
    Checklists (setChecklistTaskStatus checklistUid taskUid args) := by
  unfold setChecklistTaskStatus
  refine .bind (checklistTaskOf_walks _ _) fun task => ?_
  apply Checklists.checked
  intro userStatus
  refine .clock fun now => .bind (deriveTaskStatus_walks _ _ _) ?_
  rintro ⟨taskStatus, isLate⟩
  exact .write (fun _ => .tables _ _ _ _ _ _) (recomputeChecklistStatus_walks _)

theorem applyChecklistTaskCommand_walks (command : MissionCommandEnvelope) :
    Checklists (applyChecklistTaskCommand command) := by
  unfold applyChecklistTaskCommand
  dsimp only
  refine .checked fun checklistUid => ?_
  have answered (m : CoreM ChecklistRecord) (h : Checklists m) :
      Checklists (m >>= fun checklist => do return (← core).checklistValue checklist) :=
    .bind h fun _ => .read fun _ => .pure _
  split
  · exact answered _ (addChecklistTaskRow_walks _ _)
  · refine .checked fun taskUid => answered _ ?_
    unfold deleteChecklistTaskRow
    refine .bind (checklistTaskOf_walks _ _) fun _ => .write (fun _ => .tables _ _ _ _ _ _) ?_
    exact recomputeChecklistStatus_walks _
  · refine .checked fun taskUid => answered _ ?_
    unfold setChecklistTaskRowStyle
    refine .bind (checklistTaskOf_walks _ _) fun _ => .clock fun _ => .write (fun _ => .tables _ _ _ _ _ _) ?_
    exact recomputeChecklistStatus_walks _
  · exact .checked fun taskUid => .checked fun columnUid => answered _ (setChecklistTaskCell_walks _ _ _ _)
  · exact .checked fun taskUid => answered _ (setChecklistTaskStatus_walks _ _ _)
  · exact .throw _

/-! ## Templates -/

omit [Host] in
theorem insertColumns_walks (record : Nat → Value → String → ChecklistColumnRecord) (columns : List Value) :
    ∀ index, Checklists (insertColumns record index columns) := by
  induction columns with
  | nil => exact fun _ => .pure _
  | cons column rest ih =>
    intro index
    unfold insertColumns
    exact .draw fun _ => .write (fun _ => .tables _ _ _ _ _ _) (ih _)

theorem replaceTemplateColumns_walks (templateUid : String) (columns : List Value) (now : Int) :
    Checklists (replaceTemplateColumns templateUid columns now) :=
  .write (fun _ => .tables _ _ _ _ _ _) (insertColumns_walks _ _ _)

theorem createChecklistTemplate_walks (template : Value) (sourceTemplateUid : Option String) :
    Checklists (createChecklistTemplate template sourceTemplateUid) := by
  unfold createChecklistTemplate
  refine .clock fun _ => .drawUnless fun _ => .checked fun _ => .checked fun _ => .checked fun _ => .checked fun _ => ?_
  refine .write (fun _ => .tables _ _ _ _ _ _) ?_
  exact .bind (replaceTemplateColumns_walks _ _ _) fun _ => .pure _

theorem applyChecklistTemplateCommand_walks (command : MissionCommandEnvelope) :
    Checklists (applyChecklistTemplateCommand command) := by
  unfold applyChecklistTemplateCommand
  dsimp only
  split
  · exact .read fun _ => .pure _
  · exact .checked fun _ => .read fun _ => .required fun _ => .read fun _ => .pure _
  · refine .required fun _ => .bind (createChecklistTemplate_walks _ _) fun _ => ?_
    exact .read fun _ => .pure _
  · refine .checked fun _ => .required fun _ => .bind ?_ fun _ => .read fun _ => .pure _
    unfold updateChecklistTemplate
    refine .read fun _ => .guard (.bind ?_ fun _ => .read fun _ => .required fun _ => .clock fun _ => ?_)
    · unfold patchTemplateColumns
      exact .ite (.checked fun _ => .checked fun _ => .clock fun _ => replaceTemplateColumns_walks _ _ _) (.pure _)
    · exact .write (fun _ => .tables _ _ _ _ _ _) (.pure _)
  · refine .checked fun _ => .checked fun _ => .bind ?_ fun _ => .read fun _ => .pure _
    unfold cloneChecklistTemplate
    exact .read fun _ => .required fun _ => .read fun _ => createChecklistTemplate_walks _ _
  · refine .checked fun _ => ?_
    unfold deleteChecklistTemplate
    refine .read fun _ => .required fun _ => .read fun _ => ?_
    exact .write (fun _ => .tables _ _ _ _ _ _) (.pure _)
  · exact .throw _

/-! ## Checklists -/

theorem insertInitialChecklistTasksFromArgs_walks (checklistUid : String) (tasks : Option Value) :
    Checklists (insertInitialChecklistTasksFromArgs checklistUid tasks) := by
  unfold insertInitialChecklistTasksFromArgs
  split
  · refine .read fun _ => .forM fun task => ?_
    unfold insertInitialChecklistTask
    refine .read fun _ => .bind (addChecklistTaskRow_walks _ _) fun _ => .read fun _ => ?_
    dsimp only
    split
    · refine .forM fun cell => ?_
      unfold setInitialCell
      refine .read fun _ => ?_
      split
      · exact .bind (setChecklistTaskCell_walks _ _ _ _) fun _ => .pure _
      · exact .pure _
    · exact .pure _
  · exact .pure _

theorem createChecklistFromArgs_walks (command : MissionCommandEnvelope) (mode defaultSyncState : String) :
    Checklists (createChecklistFromArgs command mode defaultSyncState) := by
  unfold createChecklistFromArgs
  dsimp only
  refine .checked fun _ => .checked fun _ => .read fun _ => .checked fun _ => .guard (.checked fun _ => ?_)
  refine .read fun _ => .checked fun _ => .clock fun _ => .drawUnless fun uid => .read fun _ => ?_
  split
  · exact .pure _
  · refine .checked fun _ => .write (fun _ => .tables _ _ _ _ _ _) (.bind (insertColumns_walks _ _ _) fun _ => ?_)
    refine .bind (insertInitialChecklistTasksFromArgs_walks _ _) fun _ => ?_
    exact .bind (recomputeChecklistStatus_walks _) fun _ => .read fun _ => .pure _

omit [Host] in
theorem modifyChecklist_walks (checklistUid : String) (f : ChecklistRecord → ChecklistRecord) :
    Checklists (update (modifyChecklist checklistUid f)) := by
  refine .edit fun core => ?_
  unfold modifyChecklist
  split
  · exact .tables _ _ _ _ _ _
  · exact .tables _ _ _ _ _ _

theorem patchChecklistEnum_walks (checklistUid : String) (patch : Value) (key : String)
    (normalize : String → Except RchCoreError String) (set : String → ChecklistRecord → ChecklistRecord) :
    Checklists (patchChecklistEnum checklistUid patch key normalize set) := by
  unfold patchChecklistEnum
  split
  · exact .checked fun _ => modifyChecklist_walks _ _
  · exact .pure _

theorem updateChecklistFromPatch_walks (checklistUid : String) (patch : Value) :
    Checklists (updateChecklistFromPatch checklistUid patch) := by
  unfold updateChecklistFromPatch
  refine .read fun _ => .guard (.bind (modifyChecklist_walks _ _) fun _ => .bind ?_ fun _ => ?_)
  · unfold patchChecklistMission
    exact .ite (.read fun _ => .checked fun _ => modifyChecklist_walks _ _) (.pure _)
  refine .bind (patchChecklistEnum_walks _ _ _ _ _) fun _ => .bind (patchChecklistEnum_walks _ _ _ _ _) fun _ => ?_
  refine .bind (patchChecklistEnum_walks _ _ _ _ _) fun _ => .bind (patchChecklistEnum_walks _ _ _ _ _) fun _ => ?_
  exact .read fun _ => .required fun _ => .clock fun _ => .write (fun _ => .tables _ _ _ _ _ _) (.pure _)

theorem deleteChecklist_walks (checklistUid : String) : Checklists (deleteChecklist checklistUid) := by
  unfold deleteChecklist
  refine .read fun _ => .required fun _ => .write (fun _ => .tables _ _ _ _ _ _) (.read fun _ => ?_)
  exact .write (fun core => .delete checklistUid) (.pure _)

/-! ## Import -/

theorem importChecklistCsv_walks (command : MissionCommandEnvelope) : Checklists (importChecklistCsv command) := by
  unfold importChecklistCsv
  dsimp only
  refine .checked fun rows => ?_
  split
  · refine .guard (.bind (createChecklistFromArgs_walks _ _ _) fun checklist => .read fun _ => ?_)
    refine .bind (.forM fun entry => ?_) fun _ => .read fun _ => .required fun _ => .read fun _ => .pure _
    unfold importCsvRow
    dsimp only
    refine .bind (addChecklistTaskRow_walks _ _) fun _ => .read fun _ => .required fun task => .forM fun header => ?_
    unfold importCsvCell
    split
    · exact .bind (setChecklistTaskCell_walks _ _ _ _) fun _ => .pure _
    · exact .pure _
  · exact .throw _

/-! ## Commands -/

theorem checklistCommandPayload_walks (command : MissionCommandEnvelope) : Checklists (checklistCommandPayload command) := by
  unfold checklistCommandPayload
  dsimp only
  have named : Checklists (do
      let checklist ← checklistFromArgs command.args
      return (← core).checklistValue checklist) := by
    unfold checklistFromArgs
    exact .bind (.checked fun _ => .read fun _ => .orThrow _ _) fun _ => .read fun _ => .pure _
  split
  · exact applyChecklistTemplateCommand_walks _
  · exact applyChecklistTemplateCommand_walks _
  · exact applyChecklistTemplateCommand_walks _
  · exact applyChecklistTemplateCommand_walks _
  · exact applyChecklistTemplateCommand_walks _
  · exact applyChecklistTemplateCommand_walks _
  · exact .bind (createChecklistFromArgs_walks _ _ _) fun _ => .read fun _ => .pure _
  · exact .bind (createChecklistFromArgs_walks _ _ _) fun _ => .read fun _ => .pure _
  · exact .read fun _ => .pure _
  · exact named
  · exact named
  · refine .checked fun _ => .required fun _ => .bind (updateChecklistFromPatch_walks _ _) fun _ => ?_
    exact .read fun _ => .pure _
  · exact .checked fun _ => deleteChecklist_walks _
  · refine .checked fun _ => .bind ?_ fun _ => .read fun _ => .pure _
    unfold uploadChecklist
    exact .read fun _ => .required fun _ => .clock fun _ => .write (fun _ => .tables _ _ _ _ _ _) (.pure _)
  · exact importChecklistCsv_walks _
  · refine .checked fun _ => .checked fun _ => .bind ?_ fun _ => .pure _
    unfold publishChecklistFeed
    refine .read fun _ => .required fun _ => .guard (.draw fun _ => .clock fun _ => ?_)
    exact .write (fun _ => .tables _ _ _ _ _ _) (.pure _)
  · exact applyChecklistTaskCommand_walks _
  · exact applyChecklistTaskCommand_walks _
  · exact applyChecklistTaskCommand_walks _
  · exact applyChecklistTaskCommand_walks _
  · exact applyChecklistTaskCommand_walks _
  · exact .throw _

theorem emitAutoChecklistMissionChange_walks (command : MissionCommandEnvelope) (payload : Value)
    (sourceEventType changeType : String) (member : Option String) (delta : Option (List Value × List Value)) :
    Checklists (emitAutoChecklistMissionChange command payload sourceEventType changeType member delta) := by
  unfold emitAutoChecklistMissionChange
  dsimp only
  refine .read fun _ => .guard ?_
  split
  · exact .pure _
  · refine .clock fun _ => .draw fun _ => ?_
    unfold recordMissionChange
    refine .write (fun _ => .journal (.change _ _ rfl)) ?_
    unfold recordAuditEvent
    exact .draw fun _ => .clock fun _ => .edit fun _ => .journal (.audit _)

theorem applyChecklistCommand_walks (command : MissionCommandEnvelope) : Checklists (applyChecklistCommand command) := by
  unfold applyChecklistCommand
  refine .read fun _ => .bind (checklistCommandPayload_walks _) fun payload => .bind ?_ fun _ => .pure _
  have emitted (sourceEventType changeType member delta) :
      Checklists (emitAutoChecklistMissionChange command payload sourceEventType changeType member delta) :=
    emitAutoChecklistMissionChange_walks _ _ _ _ _ _
  unfold emitChecklistMissionChanges
  dsimp only
  split
  · exact emitted _ _ _ _
  · exact emitted _ _ _ _
  · exact emitted _ _ _ _
  · exact .ite (emitted _ _ _ _) (.pure _)
  · exact .ite (emitted _ _ _ _) (.pure _)
  · exact emitted _ _ _ _
  · exact emitted _ _ _ _
  · exact emitted _ _ _ _
  · exact emitted _ _ _ _
  · exact .pure _

end

end TelemetryHub
