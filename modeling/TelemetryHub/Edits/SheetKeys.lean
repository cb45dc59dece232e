import TelemetryHub.Lib.Composite
import TelemetryHub.Lib.Maintained
import TelemetryHub.Edits.Import

/-!
# The keys of the checklist tables

The checklist commands file what they write under the uid it has. Some of them read a record,
change it and file it again under the uid they looked it up with, so that the keys of one
write rest on those of all the writes before it.
-/

namespace TelemetryHub

open Lib CoreM

/-- A method that keeps an invariant of the core, and returns what is as `P` says. -/
def Sustains (J : RchCore → Prop) {α : Type} (P : α → Prop) (m : CoreM α) : Prop :=
  Proc.Maintains (fun w : World => J w.core) P m

/-! ## Steps -/

namespace Sustains

variable {J : RchCore → Prop} {α β : Type} {P : α → Prop} {P' : β → Prop}

theorem pure {a : α} (h : P a) : Sustains J P (Pure.pure a : CoreM α) := Proc.Maintains.pure h

theorem throw (e : RchCoreError) : Sustains J P (MonadExcept.throw e : CoreM α) := Proc.Maintains.throw e

theorem bind {m : CoreM β} {k : β → CoreM α} (hm : Sustains J P' m) (hk : ∀ b, P' b → Sustains J P (k b)) :
    Sustains J P (m >>= k) := Proc.Maintains.bind hm hk

theorem andThen {m : CoreM β} {k : β → CoreM α} (hm : Sustains J (fun _ => True) m) (hk : ∀ b, Sustains J P (k b)) :
    Sustains J P (m >>= k) := Proc.Maintains.andThen hm hk

theorem ite {c : Prop} [Decidable c] {m m' : CoreM α} (hm : Sustains J P m) (hm' : Sustains J P m') :
    Sustains J P (if c then m else m') := Proc.Maintains.ite (fun _ => hm) fun _ => hm'

/-- `if c { return Err(e) }` before the rest. -/
theorem guard {c : Prop} [Decidable c] {e : RchCoreError} {k : β → CoreM α} {m : CoreM α} (hm : Sustains J P m) :
    Sustains J P (if c then MonadExcept.throw e >>= k else m) := Proc.Maintains.guard fun _ => hm

theorem checked {x : Except RchCoreError β} {k : β → CoreM α} (hk : ∀ b, x = .ok b → Sustains J P (k b)) :
    Sustains J P ((liftM x : Proc RchCoreError World β) >>= k) := Proc.Maintains.checked hk

theorem required {x : Option β} {e : RchCoreError} {k : β → CoreM α} (hk : ∀ b, x = some b → Sustains J P (k b)) :
    Sustains J P (Proc.orThrow x e >>= k) := Proc.Maintains.required hk

theorem orThrow {x : Option α} {e : RchCoreError} (h : ∀ a, x = some a → P a) : Sustains J P (Proc.orThrow x e : CoreM α) :=
  Proc.Maintains.orThrow h

theorem forM {items : List β} {body : β → CoreM PUnit} (h : ∀ b, Sustains J (fun _ => True) (body b)) :
    Sustains J (fun _ => True) (items.forM body) := Proc.Maintains.forM h

/-- `self`, read: what the invariant says of it is known from there on. -/
theorem read {k : RchCore → CoreM α} (h : ∀ core, J core → Sustains J P (k core)) : Sustains J P (core >>= k) :=
  fun w holds => h w.core holds w holds

/-- The clock, read. -/
theorem clock {k : Int → CoreM α} (h : ∀ t, Sustains J P (k t)) : Sustains J P (utcNowMs >>= k) :=
  andThen (fun _ holds => ⟨holds, fun _ _ => trivial⟩) h

theorem draw {k : String → CoreM α} (h : ∀ uid, Sustains J P (k uid)) : Sustains J P (newUuid >>= k) :=
  andThen (fun _ holds => ⟨holds, fun _ _ => trivial⟩) h

theorem drawUnless {value : Option String} {k : String → CoreM α} (h : ∀ uid, Sustains J P (k uid)) :
    Sustains J P (orNewUuid value >>= k) := by
  cases value with
  | some uid => exact h uid
  | none => exact draw h

theorem edit {f : RchCore → RchCore} (keeps : ∀ core, J core → J (f core)) : Sustains J (fun _ => True) (update f) :=
  fun w holds => ⟨keeps w.core holds, fun _ _ => trivial⟩

/-- A write, and what follows it. -/
theorem write {f : RchCore → RchCore} {k : Unit → CoreM α} (keeps : ∀ core, J core → J (f core)) (h : Sustains J P (k ())) :
    Sustains J P (update f >>= k) := andThen (edit keeps) fun _ => h

end Sustains

/-! ## Keys -/

/-- The rows of the checklist tables and the mission changes are filed under their uids. -/
structure SheetKeys (core : RchCore) : Prop where
  checklists : Filed ChecklistRecord.uid id core.checklists
  templates : Filed ChecklistTemplateRecord.uid id core.checklistTemplates
  columns : Filed ChecklistColumnRecord.columnUid id core.checklistColumns
  tasks : Filed ChecklistTaskRecord.taskUid id core.checklistTasks
  cells : Filed ChecklistCellRecord.cellUid id core.checklistCells
  publications : Filed ChecklistFeedPublicationRecord.publicationUid id core.checklistFeedPublications
  changes : Filed MissionChangeRecord.uid id core.missionChanges

namespace SheetKeys

variable {core core' : RchCore}

theorem putChecklist (h : SheetKeys core) {uid : String} {checklist : ChecklistRecord} (key : uid = checklist.uid) :
    SheetKeys { core with checklists := core.checklists.insert uid checklist } := by
  subst key
  exact { h with checklists := h.checklists.insert checklist }

theorem putTemplate (h : SheetKeys core) {uid : String} {template : ChecklistTemplateRecord} (key : uid = template.uid) :
    SheetKeys { core with checklistTemplates := core.checklistTemplates.insert uid template } := by
  subst key
  exact { h with templates := h.templates.insert template }

theorem putColumn (h : SheetKeys core) {uid : String} {column : ChecklistColumnRecord} (key : uid = column.columnUid) :
    SheetKeys { core with checklistColumns := core.checklistColumns.insert uid column } := by
  subst key
  exact { h with columns := h.columns.insert column }

theorem putTask (h : SheetKeys core) {uid : String} {task : ChecklistTaskRecord} (key : uid = task.taskUid) :
    SheetKeys { core with checklistTasks := core.checklistTasks.insert uid task } := by
  subst key
  exact { h with tasks := h.tasks.insert task }

theorem putCell (h : SheetKeys core) {uid : String} {cell : ChecklistCellRecord} (key : uid = cell.cellUid) :
    SheetKeys { core with checklistCells := core.checklistCells.insert uid cell } := by
  subst key
  exact { h with cells := h.cells.insert cell }

theorem putPublication (h : SheetKeys core) {uid : String} {publication : ChecklistFeedPublicationRecord}
    (key : uid = publication.publicationUid) :
    SheetKeys { core with checklistFeedPublications := core.checklistFeedPublications.insert uid publication } := by
  subst key
  exact { h with publications := h.publications.insert publication }

theorem putChange (h : SheetKeys core) {uid : String} {change : MissionChangeRecord} (key : uid = change.uid) :
    SheetKeys { core with missionChanges := core.missionChanges.insert uid change } := by
  subst key
  exact { h with changes := h.changes.insert change }

theorem new : SheetKeys RchCore.new where
  checklists := .empty
  templates := .empty
  columns := .empty
  tasks := .empty
  cells := .empty
  publications := .empty
  changes := .empty

theorem journal (h : SheetKeys core) (edit : JournalEdit core core') : SheetKeys core' := by
  cases edit with
  | change uid record key => exact h.putChange key.symm
  | _ => exact { h with }

end SheetKeys

/-- What the checklist methods keep, with what is known of what they return. -/
abbrev KeepsSheets {α : Type} (P : α → Prop) (m : CoreM α) : Prop := Sustains SheetKeys P m

/-- Nothing is known of what it returns. -/
abbrev SheetKeeping {α : Type} (m : CoreM α) : Prop := Sustains SheetKeys (fun _ => True) m

/-! ## Rows -/

theorem deriveTaskStatus_keeping (userStatus : String) (dueTsMs completedTsMs : Option Int) :
    SheetKeeping (deriveTaskStatus userStatus dueTsMs completedTsMs) := by
  unfold deriveTaskStatus
  refine .ite ?_ ?_
  · split
    · exact .ite (.pure trivial) (.pure trivial)
    · exact .pure trivial
  · split
    · exact .clock fun _ => .ite (.pure trivial) (.pure trivial)
    · exact .pure trivial

/-- A row is filed again under the uid it was found with. -/
theorem refreshTaskStatus_keeping (taskUid : String) : SheetKeeping (refreshTaskStatus taskUid) := by
  unfold refreshTaskStatus
  refine .read fun core keys => .required fun task stored => .andThen (deriveTaskStatus_keeping _ _ _) fun _ => ?_
  exact .write (fun _ h => h.putTask (keys.tasks taskUid task stored)) (.pure trivial)

theorem recomputeChecklistStatus_keeping (checklistUid : String) : SheetKeeping (recomputeChecklistStatus checklistUid) := by
  unfold recomputeChecklistStatus
  refine .read fun _ _ => .andThen (Proc.Maintains.mapM refreshTaskStatus_keeping) fun _ => ?_
  refine .read fun core keys => .required fun checklist stored => .clock fun _ => ?_
  exact .write (fun _ h => h.putChecklist (keys.checklists checklistUid checklist stored)) (.pure trivial)

/-- The row that is found has the uid it is asked for with. -/
theorem checklistTaskOf_keeping (checklistUid taskUid : String) :
    KeepsSheets (fun task : ChecklistTaskRecord => taskUid = task.taskUid) (checklistTaskOf checklistUid taskUid) := by
  unfold checklistTaskOf
  refine .read fun _ _ => .guard (.read fun core keys => .orThrow fun task found => ?_)
  exact keys.tasks _ _ (Option.filter_eq_some_iff.1 found).1

section

variable [Host]

omit [Host] in
theorem insertEmptyCells_keeping (taskUid : String) (now : Int) (columns : List ChecklistColumnRecord) :
    SheetKeeping (insertEmptyCells taskUid now columns) := by
  induction columns with
  | nil => exact .pure trivial
  | cons column rest ih =>
    unfold insertEmptyCells
    exact .draw fun _ => .write (fun _ h => h.putCell rfl) ih

theorem putChecklistTask_keeping (checklistUid taskUid : String) (times : TaskRowTimes) (args : Value) (now : Int) :
    SheetKeeping (putChecklistTask checklistUid taskUid times args now) := by
  unfold putChecklistTask
  refine .read fun core keys => ?_
  split
  · rename_i existingTask stored
    exact .guard (.edit fun _ h => h.putTask (keys.tasks taskUid existingTask stored))
  · unfold insertChecklistTask
    refine .andThen (deriveTaskStatus_keeping _ _ _) fun _ => .write (fun _ h => h.putTask rfl) ?_
    exact .read fun _ _ => insertEmptyCells_keeping _ _ _

theorem addChecklistTaskRow_keeping (checklistUid : String) (args : Value) :
    SheetKeeping (addChecklistTaskRow checklistUid args) := by
  unfold addChecklistTaskRow
  refine .read fun _ _ => .required fun _ _ => .checked fun _ _ => .clock fun _ => .drawUnless fun _ => ?_
  exact .andThen (putChecklistTask_keeping _ _ _ _ _) fun _ => recomputeChecklistStatus_keeping _

omit [Host] in
theorem deleteChecklistTaskRow_keeping (checklistUid taskUid : String) :
    SheetKeeping (deleteChecklistTaskRow checklistUid taskUid) := by
  unfold deleteChecklistTaskRow
  refine .bind (checklistTaskOf_keeping _ _) fun _ _ => .write (fun _ h => ?_) (recomputeChecklistStatus_keeping _)
  exact { h with tasks := h.tasks.remove _, cells := h.cells.retain _ }

theorem setChecklistTaskRowStyle_keeping (checklistUid taskUid : String) (args : Value) :
    SheetKeeping (setChecklistTaskRowStyle checklistUid taskUid args) := by
  unfold setChecklistTaskRowStyle
  refine .bind (checklistTaskOf_keeping _ _) fun task key => .clock fun _ => ?_
  exact .write (fun _ h => h.putTask key) (recomputeChecklistStatus_keeping _)

theorem setChecklistTaskCell_keeping (checklistUid taskUid columnUid : String) (args : Value) :
    SheetKeeping (setChecklistTaskCell checklistUid taskUid columnUid args) := by
  unfold setChecklistTaskCell
  refine .bind (checklistTaskOf_keeping _ _) fun _ _ => .read fun _ _ => .guard (.clock fun _ => .read fun _ _ => ?_)
  exact .drawUnless fun _ => .write (fun _ h => h.putCell rfl) (recomputeChecklistStatus_keeping _)

theorem setChecklistTaskStatus_keeping (checklistUid taskUid : String) (args : Value) :
    SheetKeeping (setChecklistTaskStatus checklistUid taskUid args) := by
  unfold setChecklistTaskStatus
  refine .bind (checklistTaskOf_keeping _ _) fun task key => .checked fun _ _ => .clock fun _ => ?_
  refine .andThen (deriveTaskStatus_keeping _ _ _) ?_
  rintro ⟨taskStatus, isLate⟩
  exact .write (fun _ h => h.putTask key) (recomputeChecklistStatus_keeping _)

theorem applyChecklistTaskCommand_keeping (command : MissionCommandEnvelope) :
    SheetKeeping (applyChecklistTaskCommand command) := by
  unfold applyChecklistTaskCommand
  dsimp only
  refine .checked fun checklistUid _ => ?_
  have answered (m : CoreM ChecklistRecord) (h : SheetKeeping m) :
      SheetKeeping (m >>= fun checklist => do return (← core).checklistValue checklist) :=
    .andThen h fun _ => .read fun _ _ => .pure trivial
  split
  · exact answered _ (addChecklistTaskRow_keeping _ _)
  · exact .checked fun taskUid _ => answered _ (deleteChecklistTaskRow_keeping _ _)
  · exact .checked fun taskUid _ => answered _ (setChecklistTaskRowStyle_keeping _ _ _)
  · exact .checked fun taskUid _ => .checked fun columnUid _ => answered _ (setChecklistTaskCell_keeping _ _ _ _)
  · exact .checked fun taskUid _ => answered _ (setChecklistTaskStatus_keeping _ _ _)
  · exact .throw _

/-! ## Templates -/

omit [Host] in
/-- Columns that have the uids they are filed under. -/
theorem insertColumns_keeping {record : Nat → Value → String → ChecklistColumnRecord}
    (own : ∀ index column uid, uid = (record index column uid).columnUid) (columns : List Value) :
    ∀ index, SheetKeeping (insertColumns record index columns) := by
  induction columns with
  | nil => exact fun _ => .pure trivial
  | cons column rest ih =>
    intro index
    unfold insertColumns
    exact .draw fun _ => .write (fun _ h => h.putColumn (own _ _ _)) (ih _)

theorem replaceTemplateColumns_keeping (templateUid : String) (columns : List Value) (now : Int) :
    SheetKeeping (replaceTemplateColumns templateUid columns now) :=
  .write (fun _ h => { h with columns := h.columns.retain _ }) (insertColumns_keeping (fun _ _ _ => rfl) _ _)

theorem createChecklistTemplate_keeping (template : Value) (sourceTemplateUid : Option String) :
    SheetKeeping (createChecklistTemplate template sourceTemplateUid) := by
  unfold createChecklistTemplate
  refine .clock fun _ => .drawUnless fun _ => .checked fun _ _ => .checked fun _ _ => .checked fun _ _ => ?_
  refine .checked fun _ _ => .write (fun _ h => h.putTemplate rfl) ?_
  exact .andThen (replaceTemplateColumns_keeping _ _ _) fun _ => .pure trivial

theorem updateChecklistTemplate_keeping (templateUid : String) (patch : Value) :
    SheetKeeping (updateChecklistTemplate templateUid patch) := by
  unfold updateChecklistTemplate
  refine .read fun _ _ => .guard (.andThen ?_ fun _ => ?_)
  · unfold patchTemplateColumns
    refine .ite (.checked fun _ _ => .checked fun _ _ => ?_) (.pure trivial)
    exact .clock fun _ => replaceTemplateColumns_keeping _ _ _
  · refine .read fun core keys => .required fun template stored => .clock fun _ => ?_
    exact .write (fun _ h => h.putTemplate (keys.templates templateUid template stored)) (.pure trivial)

theorem applyChecklistTemplateCommand_keeping (command : MissionCommandEnvelope) :
    SheetKeeping (applyChecklistTemplateCommand command) := by
  unfold applyChecklistTemplateCommand
  dsimp only
  split
  · exact .read fun _ _ => .pure trivial
  · exact .checked fun _ _ => .read fun _ _ => .required fun _ _ => .read fun _ _ => .pure trivial
  · refine .required fun _ _ => .andThen (createChecklistTemplate_keeping _ _) fun _ => ?_
    exact .read fun _ _ => .pure trivial
  · refine .checked fun _ _ => .required fun _ _ => .andThen (updateChecklistTemplate_keeping _ _) fun _ => ?_
    exact .read fun _ _ => .pure trivial
  · refine .checked fun _ _ => .checked fun _ _ => .andThen ?_ fun _ => .read fun _ _ => .pure trivial
    unfold cloneChecklistTemplate
    exact .read fun _ _ => .required fun _ _ => .read fun _ _ => createChecklistTemplate_keeping _ _
  · refine .checked fun _ _ => ?_
    unfold deleteChecklistTemplate
    refine .read fun _ _ => .required fun _ _ => .read fun _ _ => .write (fun _ h => ?_) (.pure trivial)
    exact { h with templates := h.templates.remove _, columns := h.columns.retain _ }
  · exact .throw _

/-! ## Checklists -/

theorem insertInitialChecklistTasksFromArgs_keeping (checklistUid : String) (tasks : Option Value) :
    SheetKeeping (insertInitialChecklistTasksFromArgs checklistUid tasks) := by
  unfold insertInitialChecklistTasksFromArgs
  split
  · refine .read fun _ _ => .forM fun task => ?_
    unfold insertInitialChecklistTask
    refine .read fun _ _ => .andThen (addChecklistTaskRow_keeping _ _) fun _ => .read fun _ _ => ?_
    dsimp only
    split
    · refine .forM fun cell => ?_
      unfold setInitialCell
      refine .read fun _ _ => ?_
      split
      · exact .andThen (setChecklistTaskCell_keeping _ _ _ _) fun _ => .pure trivial
      · exact .pure trivial
    · exact .pure trivial
  · exact .pure trivial

theorem createChecklistFromArgs_keeping (command : MissionCommandEnvelope) (mode defaultSyncState : String) :
    SheetKeeping (createChecklistFromArgs command mode defaultSyncState) := by
  unfold createChecklistFromArgs
  dsimp only
  refine .checked fun _ _ => .checked fun _ _ => .read fun _ _ => .checked fun _ _ => .guard (.checked fun _ _ => ?_)
  refine .read fun _ _ => .checked fun _ _ => .clock fun _ => .drawUnless fun uid => .read fun _ _ => ?_
  split
  · exact .pure trivial
  · refine .checked fun checklist new => .write (fun _ h => h.putChecklist (newChecklistFromArgs_uid new).symm) ?_
    refine .andThen (insertColumns_keeping (fun _ _ _ => rfl) _ _) fun _ => ?_
    refine .andThen (insertInitialChecklistTasksFromArgs_keeping _ _) fun _ => ?_
    exact .andThen (recomputeChecklistStatus_keeping _) fun _ => .read fun _ _ => .pure trivial

omit [Host] in
/-- A change of a stored checklist that leaves its uid. -/
theorem modifyChecklist_keeping (checklistUid : String) {f : ChecklistRecord → ChecklistRecord}
    (own : ∀ checklist, (f checklist).uid = checklist.uid) : SheetKeeping (update (modifyChecklist checklistUid f)) := by
  refine .edit fun core h => ?_
  unfold modifyChecklist
  split
  · rename_i checklist stored
    exact h.putChecklist ((h.checklists _ _ stored).trans (own checklist).symm)
  · exact h

theorem patchChecklistEnum_keeping (checklistUid : String) (patch : Value) (key : String)
    (normalize : String → Except RchCoreError String) {set : String → ChecklistRecord → ChecklistRecord}
    (own : ∀ value checklist, (set value checklist).uid = checklist.uid) :
    SheetKeeping (patchChecklistEnum checklistUid patch key normalize set) := by
  unfold patchChecklistEnum
  split
  · exact .checked fun value _ => modifyChecklist_keeping _ (own value)
  · exact .pure trivial

theorem updateChecklistFromPatch_keeping (checklistUid : String) (patch : Value) :
    SheetKeeping (updateChecklistFromPatch checklistUid patch) := by
  unfold updateChecklistFromPatch
  refine .read fun _ _ => .guard (.andThen (modifyChecklist_keeping _ fun _ => rfl) fun _ => .andThen ?_ fun _ => ?_)
  · unfold patchChecklistMission
    exact .ite (.read fun _ _ => .checked fun _ _ => modifyChecklist_keeping _ fun _ => rfl) (.pure trivial)
  refine .andThen (patchChecklistEnum_keeping _ _ _ _ fun _ _ => rfl) fun _ => ?_
  refine .andThen (patchChecklistEnum_keeping _ _ _ _ fun _ _ => rfl) fun _ => ?_
  refine .andThen (patchChecklistEnum_keeping _ _ _ _ fun _ _ => rfl) fun _ => ?_
  refine .andThen (patchChecklistEnum_keeping _ _ _ _ fun _ _ => rfl) fun _ => ?_
  refine .read fun core keys => .required fun checklist stored => .clock fun _ => ?_
  exact .write (fun _ h => h.putChecklist (keys.checklists checklistUid checklist stored)) (.pure trivial)

theorem deleteChecklist_keeping (checklistUid : String) : SheetKeeping (deleteChecklist checklistUid) := by
  unfold deleteChecklist
  refine .read fun _ _ => .required fun _ _ => ?_
  refine .write (fun _ h => { h with checklists := h.checklists.remove _ }) (.read fun _ _ => ?_)
  refine .write (fun _ h => ?_) (.pure trivial)
  exact { h with
    tasks := h.tasks.retain _
    columns := h.columns.retain _
    cells := h.cells.retain _
    publications := h.publications.retain _ }

omit [Host] in
theorem uploadChecklist_keeping (checklistUid : String) : SheetKeeping (uploadChecklist checklistUid) := by
  unfold uploadChecklist
  refine .read fun core keys => .required fun checklist stored => .clock fun _ => ?_
  exact .write (fun _ h => h.putChecklist (keys.checklists checklistUid checklist stored)) (.pure trivial)

theorem publishChecklistFeed_keeping (checklistUid missionFeedUid : String) (command : MissionCommandEnvelope) :
    SheetKeeping (publishChecklistFeed checklistUid missionFeedUid command) := by
  unfold publishChecklistFeed
  refine .read fun _ _ => .required fun _ _ => .guard (.draw fun _ => .clock fun _ => ?_)
  exact .write (fun _ h => h.putPublication rfl) (.pure trivial)

/-! ## Import -/

theorem importChecklistCsv_keeping (command : MissionCommandEnvelope) : SheetKeeping (importChecklistCsv command) := by
  unfold importChecklistCsv
  dsimp only
  refine .checked fun rows _ => ?_
  split
  · refine .guard (.andThen (createChecklistFromArgs_keeping _ _ _) fun checklist => .read fun _ _ => ?_)
    refine .andThen (.forM fun entry => ?_) fun _ => .read fun _ _ => .required fun _ _ => .read fun _ _ => .pure trivial
    unfold importCsvRow
    dsimp only
    refine .andThen (addChecklistTaskRow_keeping _ _) fun _ => .read fun _ _ => .required fun task _ => .forM fun header => ?_
    unfold importCsvCell
    split
    · exact .andThen (setChecklistTaskCell_keeping _ _ _ _) fun _ => .pure trivial
    · exact .pure trivial
  · exact .throw _

/-! ## Commands -/

theorem checklistCommandPayload_keeping (command : MissionCommandEnvelope) :
    SheetKeeping (checklistCommandPayload command) := by
  unfold checklistCommandPayload
  dsimp only
  have named : SheetKeeping (do
      let checklist ← checklistFromArgs command.args
      return (← core).checklistValue checklist) := by
    refine .andThen ?_ fun _ => .read fun _ _ => .pure trivial
    unfold checklistFromArgs
    exact .checked fun _ _ => .read fun _ _ => .orThrow fun _ _ => trivial
  split
  · exact applyChecklistTemplateCommand_keeping _
  · exact applyChecklistTemplateCommand_keeping _
  · exact applyChecklistTemplateCommand_keeping _
  · exact applyChecklistTemplateCommand_keeping _
  · exact applyChecklistTemplateCommand_keeping _
  · exact applyChecklistTemplateCommand_keeping _
  · exact .andThen (createChecklistFromArgs_keeping _ _ _) fun _ => .read fun _ _ => .pure trivial
  · exact .andThen (createChecklistFromArgs_keeping _ _ _) fun _ => .read fun _ _ => .pure trivial
  · exact .read fun _ _ => .pure trivial
  · exact named
  · exact named
  · refine .checked fun _ _ => .required fun _ _ => .andThen (updateChecklistFromPatch_keeping _ _) fun _ => ?_
    exact .read fun _ _ => .pure trivial
  · exact .checked fun _ _ => deleteChecklist_keeping _
  · exact .checked fun _ _ => .andThen (uploadChecklist_keeping _) fun _ => .read fun _ _ => .pure trivial
  · exact importChecklistCsv_keeping _
  · exact .checked fun _ _ => .checked fun _ _ => .andThen (publishChecklistFeed_keeping _ _ _) fun _ => .pure trivial
  · exact applyChecklistTaskCommand_keeping _
  · exact applyChecklistTaskCommand_keeping _
  · exact applyChecklistTaskCommand_keeping _
  · exact applyChecklistTaskCommand_keeping _
  · exact applyChecklistTaskCommand_keeping _
  · exact .throw _

theorem emitAutoChecklistMissionChange_keeping (command : MissionCommandEnvelope) (payload : Value)
    (sourceEventType changeType : String) (member : Option String) (delta : Option (List Value × List Value)) :
    SheetKeeping (emitAutoChecklistMissionChange command payload sourceEventType changeType member delta) := by
  unfold emitAutoChecklistMissionChange
  dsimp only
  refine .read fun _ _ => .guard ?_
  split
  · exact .pure trivial
  · refine .clock fun _ => .draw fun _ => ?_
    unfold recordMissionChange
    refine .write (fun _ h => h.putChange rfl) ?_
    unfold recordAuditEvent
    exact .draw fun _ => .clock fun _ => .edit fun _ h => { h with }

theorem applyChecklistCommand_keeping (command : MissionCommandEnvelope) : SheetKeeping (applyChecklistCommand command) := by
  unfold applyChecklistCommand
  refine .read fun _ _ => .andThen (checklistCommandPayload_keeping _) fun payload => .andThen ?_ fun _ => .pure trivial
  have emitted (sourceEventType changeType member delta) :
      SheetKeeping (emitAutoChecklistMissionChange command payload sourceEventType changeType member delta) :=
    emitAutoChecklistMissionChange_keeping _ _ _ _ _ _
  unfold emitChecklistMissionChanges
  dsimp only
  split
  · exact emitted _ _ _ _
  · exact emitted _ _ _ _
  · exact emitted _ _ _ _
  · exact .ite (emitted _ _ _ _) (.pure trivial)
  · exact .ite (emitted _ _ _ _) (.pure trivial)
  · exact emitted _ _ _ _
  · exact emitted _ _ _ _
  · exact emitted _ _ _ _
  · exact emitted _ _ _ _
  · exact .pure trivial

end

end TelemetryHub
