import TelemetryHub.Core.Logic
import TelemetryHub.Core.Normal
import TelemetryHub.Core.ChecklistCommands

/-!
# What the task row commands write

The rows and cells of one checklist, and the counts that every row command ends
with. None of these writes touches a column or another checklist's rows.
-/

namespace TelemetryHub

open Lib CoreM

/-- The tasks are stored under their uids. -/
def TasksKeyed (core : RchCore) : Prop :=
  ∀ uid task, core.checklistTasks.get uid = some task → task.taskUid = uid

/-- The columns are stored under their uids. -/
def ColumnsKeyed (core : RchCore) : Prop :=
  ∀ uid column, core.checklistColumns.get uid = some column → column.columnUid = uid

/-- The task and the column belong to one checklist. -/
def CellOwned (core : RchCore) (taskUid columnUid : String) : Prop :=
  ∃ task key column, core.checklistTasks.get taskUid = some task ∧
    core.checklistColumns.get key = some column ∧ (key = columnUid ∨ column.columnUid = columnUid) ∧
    column.checklistUid = some task.checklistUid

/-- One write to the rows of the checklist. -/
inductive RowEdit (checklistUid : String) (core : RchCore) : RchCore → Prop
  | create (taskUid : String) (task : ChecklistTaskRecord) (key : task.taskUid = taskUid)
      (owner : task.checklistUid = checklistUid) (known : core.checklists.contains checklistUid = true)
      (absent : core.checklistTasks.get taskUid = none) :
      RowEdit checklistUid core { core with checklistTasks := core.checklistTasks.insert taskUid task }
  | patch (taskUid : String) (old task : ChecklistTaskRecord)
      (stored : core.checklistTasks.get taskUid = some old) (key : task.taskUid = old.taskUid)
      (owner : task.checklistUid = old.checklistUid) :
      RowEdit checklistUid core { core with checklistTasks := core.checklistTasks.insert taskUid task }
  | cell (cellUid : String) (cell : ChecklistCellRecord) (key : cell.cellUid = cellUid)
      (owned : CellOwned core cell.taskUid cell.columnUid) :
      RowEdit checklistUid core { core with checklistCells := core.checklistCells.insert cellUid cell }
  | recount (uid : String) (old checklist : ChecklistRecord)
      (stored : core.checklists.get uid = some old) (key : checklist.uid = old.uid)
      (mission : checklist.missionUid = old.missionUid) :
      RowEdit checklistUid core { core with checklists := core.checklists.insert uid checklist }

/-! ## What the row commands leave alone -/

/-- What stays true of a core whose rows are written. -/
structure RowFrame (checklistUid : String) (core core' : RchCore) : Prop where
  columns : core'.checklistColumns = core.checklistColumns
  missions : core'.missions = core.missions
  checklists : ∀ uid, core'.checklists.contains uid = core.checklists.contains uid
  checklistMissions : ∀ uid checklist', core'.checklists.get uid = some checklist' →
    ∃ checklist, core.checklists.get uid = some checklist ∧
      checklist'.missionUid = checklist.missionUid ∧ checklist'.uid = checklist.uid
  tasks : ∀ uid task, core.checklistTasks.get uid = some task →
    ∃ task', core'.checklistTasks.get uid = some task' ∧ task'.taskUid = task.taskUid ∧
      task'.checklistUid = task.checklistUid
  newTasks : ∀ uid task', core'.checklistTasks.get uid = some task' →
    core.checklistTasks.get uid = none → task'.taskUid = uid ∧ task'.checklistUid = checklistUid

theorem RowFrame.refl {checklistUid : String} (core : RchCore) : RowFrame checklistUid core core where
  columns := rfl
  missions := rfl
  checklists _ := rfl
  checklistMissions _ checklist h := ⟨checklist, h, rfl, rfl⟩
  tasks _ task h := ⟨task, h, rfl, rfl⟩
  newTasks uid task' h hnone := by
    rw [h] at hnone
    cases hnone

theorem RowFrame.trans {checklistUid : String} {core core' core'' : RchCore}
    (h : RowFrame checklistUid core core') (h' : RowFrame checklistUid core' core'') :
    RowFrame checklistUid core core'' where
  columns := h'.columns.trans h.columns
  missions := h'.missions.trans h.missions
  checklists uid := (h'.checklists uid).trans (h.checklists uid)
  checklistMissions uid checklist'' hget := by
    obtain ⟨checklist', hget', hmission', huid'⟩ := h'.checklistMissions uid checklist'' hget
    obtain ⟨checklist, hget, hmission, huid⟩ := h.checklistMissions uid checklist' hget'
    exact ⟨checklist, hget, hmission'.trans hmission, huid'.trans huid⟩
  tasks uid task hget := by
    obtain ⟨task', hget', hkey, howner⟩ := h.tasks uid task hget
    obtain ⟨task'', hget'', hkey', howner'⟩ := h'.tasks uid task' hget'
    exact ⟨task'', hget'', hkey'.trans hkey, howner'.trans howner⟩
  newTasks uid task'' hget hnone := by
    cases hget' : core'.checklistTasks.get uid with
    | none => exact h'.newTasks uid task'' hget hget'
    | some task' =>
      obtain ⟨hkey, howner⟩ := h.newTasks uid task' hget' hnone
      obtain ⟨task₂, hget₂, hkey', howner'⟩ := h'.tasks uid task' hget'
      obtain rfl := Option.some.inj (hget₂.symm.trans hget)
      exact ⟨hkey'.trans hkey, howner'.trans howner⟩

/-- A task written over a stored one, or where there is none. -/
theorem RowFrame.of_task {checklistUid : String} {core : RchCore} {taskUid : String}
    {task : ChecklistTaskRecord}
    (replaced : ∀ old, core.checklistTasks.get taskUid = some old →
      task.taskUid = old.taskUid ∧ task.checklistUid = old.checklistUid)
    (new : core.checklistTasks.get taskUid = none →
      task.taskUid = taskUid ∧ task.checklistUid = checklistUid) :
    RowFrame checklistUid core
      { core with checklistTasks := core.checklistTasks.insert taskUid task } where
  columns := rfl
  missions := rfl
  checklists _ := rfl
  checklistMissions _ checklist h := ⟨checklist, h, rfl, rfl⟩
  tasks uid old hget := by
    by_cases huid : uid = taskUid
    · subst huid
      obtain ⟨hkey, howner⟩ := replaced old hget
      exact ⟨task, Dict.get_insert_self _ _ _, hkey, howner⟩
    · exact ⟨old, by rw [Dict.get_insert_ne huid, hget], rfl, rfl⟩
  newTasks uid task' hget hnone := by
    rw [Dict.get_insert] at hget
    split at hget
    · subst uid
      obtain rfl := Option.some.inj hget
      exact new hnone
    · rw [hget] at hnone
      cases hnone

theorem RowEdit.frame {checklistUid : String} {core core' : RchCore}
    (h : RowEdit checklistUid core core') : RowFrame checklistUid core core' := by
  cases h with
  | create taskUid task key owner known absent =>
    refine .of_task (fun old hold => ?_) fun _ => ⟨key, owner⟩
    rw [absent] at hold
    cases hold
  | patch taskUid old task stored key owner =>
    refine .of_task (fun old' hold => ?_) fun hnone => ?_
    · obtain rfl := Option.some.inj (stored.symm.trans hold)
      exact ⟨key, owner⟩
    · rw [stored] at hnone
      cases hnone
  | cell cellUid cell key owned => exact { RowFrame.refl core with }
  | recount uid old checklist stored key mission =>
    refine { RowFrame.refl core with checklists := fun uid' => ?_, checklistMissions := ?_ }
    · rw [Bool.eq_iff_iff, Dict.contains_insert, or_iff_right_iff_imp]
      rintro rfl
      exact Dict.contains_iff.2 ⟨old, stored⟩
    · intro uid' checklist' hget
      rw [Dict.get_insert] at hget
      split at hget
      · subst uid'
        obtain rfl := Option.some.inj hget
        exact ⟨old, stored, mission, key⟩
      · exact ⟨checklist', hget, rfl, rfl⟩

/-- A run of row edits keeps what one keeps. -/
theorem rowFrame_of_steps {checklistUid : String} {core core' : RchCore}
    (h : Relation.ReflTransGen (RowEdit checklistUid) core core') :
    RowFrame checklistUid core core' := by
  induction h with
  | refl => exact .refl _
  | tail _ hlast ih => exact ih.trans hlast.frame

theorem RowFrame.tasksKeyed {checklistUid : String} {core core' : RchCore}
    (h : RowFrame checklistUid core core') (keyed : TasksKeyed core) : TasksKeyed core' := by
  intro uid task' hget
  cases hold : core.checklistTasks.get uid with
  | none => exact (h.newTasks uid task' hget hold).1
  | some task =>
    obtain ⟨task₂, hget₂, hkey, -⟩ := h.tasks uid task hold
    obtain rfl := Option.some.inj (hget₂.symm.trans hget)
    exact hkey.trans (keyed uid task hold)

theorem RowFrame.contains_task {checklistUid : String} {core core' : RchCore}
    (h : RowFrame checklistUid core core') {uid : String}
    (hcontains : core.checklistTasks.contains uid = true) :
    core'.checklistTasks.contains uid = true := by
  obtain ⟨task, hget⟩ := Dict.contains_iff.1 hcontains
  obtain ⟨task', hget', -⟩ := h.tasks uid task hget
  exact Dict.contains_iff.2 ⟨task', hget'⟩

/-! ## Counting -/

section

variable {drawn : String → Prop} {clean : Prop} {core₀ : RchCore}

theorem deriveTaskStatus_spec (userStatus : String) (dueTsMs completedTsMs : Option Int) :
    Spec drawn (deriveTaskStatus userStatus dueTsMs completedTsMs) core₀
      fun r core' => core' = core₀ ∧ ∃ b, r = .ok b := by
  unfold deriveTaskStatus
  refine Proc.Spec.ite (fun _ => ?_) fun _ => ?_
  · split
    · exact Proc.Spec.ite (fun _ => Proc.Spec.pure ⟨rfl, _, rfl⟩) fun _ => Proc.Spec.pure ⟨rfl, _, rfl⟩
    · exact Proc.Spec.pure ⟨rfl, _, rfl⟩
  · split
    · refine Spec.clock fun now => ?_
      exact Proc.Spec.ite (fun _ => Proc.Spec.pure ⟨rfl, _, rfl⟩) fun _ => Proc.Spec.pure ⟨rfl, _, rfl⟩
    · exact Proc.Spec.pure ⟨rfl, _, rfl⟩

theorem refreshTaskStatus_spec (checklistUid taskUid : String)
    (known : clean → core₀.checklistTasks.contains taskUid = true) :
    Spec drawn (refreshTaskStatus taskUid) core₀
      (Proc.Finishes clean (RowEdit checklistUid) core₀) := by
  unfold refreshTaskStatus
  refine Spec.read ?_
  refine Proc.Spec.require (fun task stored => ?_) fun hnone => .excluded .refl fun hclean => ?_
  · refine Spec.reading (deriveTaskStatus_spec _ _ _) fun status => ?_
    refine Spec.write (Proc.Spec.pure (.ok (.single ?_) trivial))
    exact .patch _ task _ stored rfl rfl
  · have hknown := known hclean
    rw [Dict.contains, hnone] at hknown
    cases hknown

/-- The tasks of a checklist are stored under their uids. -/
theorem contains_of_checklistTaskUids {core : RchCore} {checklistUid taskUid : String}
    (keyed : TasksKeyed core) (h : taskUid ∈ checklistTaskUids core checklistUid) :
    ∃ task, core.checklistTasks.get taskUid = some task ∧ task.checklistUid = checklistUid := by
  obtain ⟨task, hmem, rfl⟩ := List.mem_map.1 h
  obtain ⟨hvalue, howner⟩ := List.mem_filter.1 hmem
  obtain ⟨uid, hget⟩ := Dict.mem_values.1 hvalue
  obtain rfl := keyed uid task hget
  exact ⟨task, hget, by simpa using howner⟩

/-- The checklist a row command returns is the stored one, recounted. -/
def Recounted (core : RchCore) (checklistUid : String) (checklist : ChecklistRecord) : Prop :=
  ∃ old, core.checklists.get checklistUid = some old ∧ checklist.missionUid = old.missionUid ∧
    checklist.uid = old.uid

theorem recomputeChecklistStatus_spec (checklistUid : String)
    (keyed : clean → TasksKeyed core₀)
    (known : clean → core₀.checklists.contains checklistUid = true) :
    Spec drawn (recomputeChecklistStatus checklistUid) core₀
      (Proc.Completes clean (RowEdit checklistUid)
        (fun checklist _ => Recounted core₀ checklistUid checklist) core₀) := by
  unfold recomputeChecklistStatus
  refine Spec.read ?_
  refine .andThen (P := fun _ _ => True) (Proc.Spec.mapM_finishes fun taskUid hmem core' hsteps => ?_)
    fun tasks core' hsteps _ => ?_
  · refine refreshTaskStatus_spec checklistUid taskUid fun hclean => ?_
    obtain ⟨task, hget, -⟩ := contains_of_checklistTaskUids (keyed hclean) hmem
    exact (rowFrame_of_steps hsteps).contains_task (Dict.contains_iff.2 ⟨task, hget⟩)
  · have frame := rowFrame_of_steps hsteps
    refine Spec.read ?_
    refine Proc.Spec.require (fun checklist stored => ?_) fun hnone => .excluded .refl fun hclean => ?_
    · refine Spec.clock fun now => ?_
      refine Spec.write (Proc.Spec.pure (.ok (.single (.recount _ checklist _ stored rfl rfl)) ?_))
      obtain ⟨old, hold, hmission, huid⟩ := frame.checklistMissions _ _ stored
      exact ⟨old, hold, hmission, huid⟩
    · have hknown := known hclean
      rw [← frame.checklists, Dict.contains, hnone] at hknown
      cases hknown

/-- After the writes of a row command the checklist is recounted. -/
theorem recount_after {checklistUid : String} {core' : RchCore}
    (hsteps : Relation.ReflTransGen (RowEdit checklistUid) core₀ core')
    (keyed : clean → TasksKeyed core₀)
    (known : clean → core₀.checklists.contains checklistUid = true) :
    Spec drawn (recomputeChecklistStatus checklistUid) core'
      (Proc.Completes clean (RowEdit checklistUid)
        (fun checklist _ => Recounted core₀ checklistUid checklist) core') := by
  have frame := rowFrame_of_steps hsteps
  refine (recomputeChecklistStatus_spec checklistUid (fun hclean => frame.tasksKeyed (keyed hclean))
    fun hclean => ?_).mono fun r core'' h => ⟨h.steps, h.total, fun checklist hr => ?_⟩
  · rw [frame.checklists]
    exact known hclean
  · obtain ⟨old', hold', hmission', huid'⟩ := h.value checklist hr
    obtain ⟨old, hold, hmission, huid⟩ := frame.checklistMissions _ _ hold'
    exact ⟨old, hold, hmission'.trans hmission, huid'.trans huid⟩

/-- A row of the checklist, if it is there. -/
theorem checklistTaskOf_spec (checklistUid taskUid : String) :
    Spec drawn (checklistTaskOf checklistUid taskUid) core₀ fun r core' => core' = core₀ ∧
      (∀ task, r = .ok task → core₀.checklists.contains checklistUid = true ∧
        core₀.checklistTasks.get taskUid = some task ∧ task.checklistUid = checklistUid) ∧
      (∀ task, core₀.checklists.contains checklistUid = true →
        core₀.checklistTasks.get taskUid = some task → task.checklistUid = checklistUid →
        r = .ok task) := by
  unfold checklistTaskOf
  refine Spec.read ?_
  refine Proc.Spec.guard (fun hmissing => ?_) fun hpresent => ?_
  · refine ⟨rfl, fun task h => absurd h error_ne_ok, fun task hknown => ?_⟩
    rw [hknown] at hmissing
    cases hmissing
  · refine Spec.read ?_
    have known : core₀.checklists.contains checklistUid = true := by simpa using hpresent
    unfold Proc.orThrow
    cases hfound : (core₀.checklistTasks.get taskUid).filter fun task =>
        task.checklistUid == checklistUid with
    | some task =>
      obtain ⟨hget, howner⟩ := Option.filter_eq_some_iff.1 hfound
      refine Proc.Spec.pure ⟨rfl, ?_, ?_⟩
      · rintro _ ⟨⟩
        exact ⟨known, hget, by simpa using howner⟩
      · intro task' _ hget' _
        rw [Option.some.inj (hget.symm.trans hget')]
    | none =>
      refine Proc.Spec.throw ⟨rfl, fun task h => absurd h error_ne_ok, fun task _ hget howner => ?_⟩
      have : (core₀.checklistTasks.get taskUid).filter (fun task => task.checklistUid == checklistUid) =
          some task := Option.filter_eq_some_iff.2 ⟨hget, by simpa using howner⟩
      rw [hfound] at this
      cases this

/-- A command on a row that is there. -/
theorem onRow {α : Type} {checklistUid taskUid : String} {k : ChecklistTaskRecord → CoreM α}
    {P : α → RchCore → Prop}
    (hk : ∀ task, core₀.checklists.contains checklistUid = true →
      core₀.checklistTasks.get taskUid = some task → task.checklistUid = checklistUid →
      Spec drawn (k task) core₀ (Proc.Yields clean (RowEdit checklistUid) P core₀)) :
    Spec drawn (checklistTaskOf checklistUid taskUid >>= k) core₀
      (Proc.Yields clean (RowEdit checklistUid) P core₀) := by
  refine Proc.Spec.bind (checklistTaskOf_spec checklistUid taskUid) (fun task core' h => ?_)
    fun e core' h => ?_
  · obtain ⟨rfl, hfound, -⟩ := h
    obtain ⟨hknown, hget, howner⟩ := hfound task rfl
    exact hk task hknown hget howner
  · obtain ⟨rfl, -⟩ := h
    exact .unchanged

end

/-! ## Rows -/

section

variable [Host] {drawn : String → Prop} {clean : Prop} {core₀ : RchCore}

/-- The number and the times of a row can be read. -/
def TaskRowReadable (args : Value) : Prop :=
  ∃ checklist times, taskRowTimesFromArgs checklist args = .ok times

/-- Whether the times of a row can be read does not depend on its checklist. -/
theorem TaskRowReadable.times {args : Value} (h : TaskRowReadable args) (checklist : ChecklistRecord) :
    ∃ times, taskRowTimesFromArgs checklist args = .ok times := by
  obtain ⟨other, times, htimes⟩ := h
  obtain ⟨number, hnumber, h⟩ := bind_eq_ok.1 htimes
  obtain ⟨minutes, hminutes, h⟩ := bind_eq_ok.1 h
  obtain ⟨due, hdue, -⟩ := bind_eq_ok.1 h
  unfold taskRowTimesFromArgs
  rw [hnumber, hminutes, hdue]
  exact ⟨_, rfl⟩

/-- The task the row names is one of the checklist, or there is none yet. -/
def TaskRowOwned (core : RchCore) (checklistUid : String) (args : Value) : Prop :=
  ∀ uid task, optionalText args ["task_uid"] = some uid → core.checklistTasks.get uid = some task →
    task.checklistUid = checklistUid

omit [Host] in
theorem insertEmptyCells_spec {checklistUid taskUid : String} (now : Int)
    {columns : List ChecklistColumnRecord} {task : ChecklistTaskRecord}
    (htask : core₀.checklistTasks.get taskUid = some task) (howner : task.checklistUid = checklistUid)
    (hcolumns : ∀ column ∈ columns, column.checklistUid = some checklistUid ∧
      ∃ key, core₀.checklistColumns.get key = some column) :
    Spec drawn (insertEmptyCells taskUid now columns) core₀
      (Proc.Finishes clean (RowEdit checklistUid) core₀) := by
  induction columns generalizing core₀ with
  | nil => exact .finished
  | cons column rest ih =>
    obtain ⟨⟨hcolumn, key, hkey⟩, hrest⟩ := List.forall_mem_cons.1 hcolumns
    unfold insertEmptyCells
    refine Spec.draw fun cellUid _ => ?_
    refine Spec.write (Proc.Spec.afterEdit (.cell _ _ rfl ?_) (ih htask hrest))
    exact ⟨task, key, column, htask, hkey, .inr rfl, by rw [hcolumn, howner]⟩

omit [Host] in
/-- The columns of a checklist are stored and say so. -/
theorem mem_columnsForChecklist {core : RchCore} {checklistUid : String}
    {column : ChecklistColumnRecord} (h : column ∈ core.columnsForChecklist checklistUid) :
    column.checklistUid = some checklistUid ∧ ∃ key, core.checklistColumns.get key = some column := by
  unfold RchCore.columnsForChecklist sortBy at h
  rw [List.mem_insertionSort] at h
  obtain ⟨hvalue, howner⟩ := List.mem_filter.1 h
  exact ⟨by simpa using howner, Dict.mem_values.1 hvalue⟩

theorem insertChecklistTask_spec {checklistUid taskUid : String} (times : TaskRowTimes) (args : Value)
    (now : Int) (known : core₀.checklists.contains checklistUid = true)
    (absent : core₀.checklistTasks.get taskUid = none) :
    Spec drawn (insertChecklistTask checklistUid taskUid times args now) core₀
      (Proc.Finishes clean (RowEdit checklistUid) core₀) := by
  unfold insertChecklistTask
  refine Spec.reading (deriveTaskStatus_spec _ _ _) fun status => ?_
  refine Spec.write ?_
  refine Spec.read ?_
  refine Proc.Spec.afterEdit (.create _ _ rfl rfl known absent) ?_
  refine insertEmptyCells_spec now (Dict.get_insert_self _ _ _) rfl fun column hcolumn => ?_
  exact mem_columnsForChecklist hcolumn

end
end TelemetryHub
