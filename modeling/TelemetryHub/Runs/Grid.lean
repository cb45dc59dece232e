import TelemetryHub.Runs.Mirrors
import TelemetryHub.Runs.Sheets

/-!
# The grid of tasks and columns

Whatever is added and deleted, each task of a checklist has one cell in each column of the
checklist, and each cell is in such a place.
-/

namespace TelemetryHub

open Lib CoreM

/-- The owner is there. -/
def ColumnOwner.known (core : RchCore) : ColumnOwner → Bool
  | checklist uid => core.checklists.contains uid
  | template uid => core.checklistTemplates.contains uid

/-- The cells of a task in a column. -/
def RchCore.cellsAt (core : RchCore) (taskUid columnUid : String) : List ChecklistCellRecord :=
  core.checklistCells.values.filter fun cell => cell.taskUid == taskUid && cell.columnUid == columnUid

/-- The cell is of a task and of a column of one checklist. -/
def CellPlaced (core : RchCore) (cell : ChecklistCellRecord) : Prop :=
  ∃ task column, core.checklistTasks.get cell.taskUid = some task ∧ core.checklistColumns.get cell.columnUid = some column ∧
    column.checklistUid = some task.checklistUid

/-- The sheets are whole. -/
structure SheetsWhole (core : RchCore) : Prop where
  taskKeys : ∀ uid task, core.checklistTasks.get uid = some task → task.taskUid = uid
  taskOwners : ∀ uid task, core.checklistTasks.get uid = some task → core.checklists.contains task.checklistUid = true
  columnKeys : ∀ uid column, core.checklistColumns.get uid = some column → column.columnUid = uid
  columnOwners : ∀ uid column, core.checklistColumns.get uid = some column →
    ∃ owner : ColumnOwner, owner.known core = true ∧ ∀ other : ColumnOwner, other.has column = true ↔ other = owner
  cellKeys : CellsFiled core.checklistCells
  cellPlaces : ∀ cell ∈ core.checklistCells.values, CellPlaced core cell
  grid : ∀ taskUid task columnUid column, core.checklistTasks.get taskUid = some task →
    core.checklistColumns.get columnUid = some column → column.checklistUid = some task.checklistUid →
      (core.cellsAt taskUid columnUid).length = 1

/-! ## What is put in -/

namespace ColumnsPut

variable {fresh : Prop} {record : Nat → Value → String → ChecklistColumnRecord} {index : Nat} {given : List Value}
  {table table' : Dict String ChecklistColumnRecord} {uid : String} {column : ChecklistColumnRecord}

theorem kept (put : ColumnsPut fresh record index given table table') (sure : fresh) (stored : table.get uid = some column) :
    table'.get uid = some column := by
  induction put with
  | nil => exact stored
  | cons new absent tail ih =>
    apply ih
    rw [Dict.get_insert_ne, stored]
    rintro rfl
    exact absurd ((absent sure).symm.trans stored) nofun

theorem source (put : ColumnsPut fresh record index given table table') (stored : table'.get uid = some column) :
    table.get uid = some column ∨ ∃ index value, column = record index value uid := by
  induction put with
  | nil => exact .inl stored
  | cons new absent tail ih =>
    rename_i index value _ _ _
    refine (ih stored).elim (fun before => ?_) .inr
    rw [Dict.get_insert] at before
    split at before
    · rename_i here
      rw [here]
      exact .inr ⟨index, value, (Option.some.inj before).symm⟩
    · exact .inl before

end ColumnsPut

namespace CellsPut

variable {fresh : Prop} {taskUid : String} {now : Int} {columns : List ChecklistColumnRecord}
  {cells cells' : Dict String ChecklistCellRecord}

theorem source (put : CellsPut fresh taskUid now columns cells cells') (sure : fresh) {cell : ChecklistCellRecord}
    (mem : cell ∈ cells'.values) :
    cell ∈ cells.values ∨ cell.taskUid = taskUid ∧ ∃ column ∈ columns, cell.columnUid = column.columnUid := by
  induction put with
  | nil => exact .inl mem
  | cons new absent tail ih =>
    rename_i column rest _ _
    rcases ih mem with before | ⟨task, column', there, same⟩
    · rw [Dict.values_insert_absent (absent sure)] at before
      rcases List.mem_cons.1 before with rfl | before
      · exact .inr ⟨rfl, column, List.mem_cons_self, rfl⟩
      · exact .inl before
    · exact .inr ⟨task, column', List.mem_cons_of_mem _ there, same⟩

/-- How many cells are anywhere once the new ones are put in. -/
theorem length_at (put : CellsPut fresh taskUid now columns cells cells') (sure : fresh) (task columnUid : String) :
    (cells'.values.filter fun cell => cell.taskUid == task && cell.columnUid == columnUid).length =
      (cells.values.filter fun cell => cell.taskUid == task && cell.columnUid == columnUid).length +
        if task = taskUid then (columns.filter fun column => column.columnUid == columnUid).length else 0 := by
  induction put with
  | nil => simp
  | cons new absent tail ih =>
    rename_i column rest _ _
    rw [ih, Dict.values_insert_absent (absent sure)]
    by_cases here : task = taskUid
    · subst here
      by_cases this : column.columnUid = columnUid
      · simp [this]
        omega
      · simp [this]
    · simp [here, Ne.symm here]

end CellsPut

/-- A column that is put in is its owner's, under the uid it was drawn. -/
theorem ColumnOwner.has_column [Host] (owner other : ColumnOwner) (now : Int) (index : Nat) (value : Value) (uid : String) :
    other.has (owner.column now index value uid) = true ↔ other = owner := by
  cases owner with
  | checklist name =>
    cases other with
    | checklist name' =>
      rw [ColumnOwner.checklist.injEq, @eq_comm _ name']
      simp [ColumnOwner.has, ColumnOwner.column, columnRecord]
    | template name' => simp [ColumnOwner.has, ColumnOwner.column, columnRecord]
  | template name =>
    cases other with
    | checklist name' => simp [ColumnOwner.has, ColumnOwner.column, columnRecord]
    | template name' =>
      rw [ColumnOwner.template.injEq, @eq_comm _ name']
      simp [ColumnOwner.has, ColumnOwner.column, columnRecord]

theorem ColumnOwner.column_key [Host] (owner : ColumnOwner) (now : Int) (index : Nat) (value : Value) (uid : String) :
    (owner.column now index value uid).columnUid = uid := by
  cases owner <;> rfl

/-! ## What each step keeps -/

namespace SheetsWhole

variable {core core' : RchCore}

theorem new : SheetsWhole RchCore.new := by
  have empty {V : Type} {key : String} {value : V} (stored : (∅ : Dict String V).get key = some value) : False :=
    absurd ((Dict.get_empty key).symm.trans stored) nofun
  exact ⟨fun _ _ stored => (empty stored).elim, fun _ _ stored => (empty stored).elim, fun _ _ stored => (empty stored).elim,
    fun _ _ stored => (empty stored).elim, fun _ _ stored => (empty stored).elim, fun _ mem => absurd mem List.not_mem_nil,
    fun _ _ _ _ stored => (empty stored).elim⟩

theorem of_same (h : SheetsWhole core) (same : core'.sheets = core.sheets) : SheetsWhole core' := by
  have checklists : core'.checklists = core.checklists := congrArg SheetTables.checklists same
  have templates : core'.checklistTemplates = core.checklistTemplates := congrArg SheetTables.templates same
  have columns : core'.checklistColumns = core.checklistColumns := congrArg SheetTables.columns same
  have tasks : core'.checklistTasks = core.checklistTasks := congrArg SheetTables.tasks same
  have cells : core'.checklistCells = core.checklistCells := congrArg SheetTables.cells same
  have known : ∀ owner : ColumnOwner, owner.known core' = owner.known core := by
    intro owner
    cases owner with
    | checklist uid => rw [ColumnOwner.known, checklists, ColumnOwner.known]
    | template uid => rw [ColumnOwner.known, templates, ColumnOwner.known]
  constructor
  · rw [tasks]
    exact h.taskKeys
  · rw [tasks, checklists]
    exact h.taskOwners
  · rw [columns]
    exact h.columnKeys
  · simp only [known, columns]
    exact h.columnOwners
  · rw [cells]
    exact h.cellKeys
  · unfold CellPlaced
    rw [cells, tasks, columns]
    exact h.cellPlaces
  · unfold RchCore.cellsAt
    rw [cells, tasks, columns]
    exact h.grid

/-- The columns of what has no tasks may change. -/
theorem recolumn (h : SheetsWhole core) (tasks : core'.checklistTasks = core.checklistTasks)
    (cells : core'.checklistCells = core.checklistCells)
    (contains : ∀ uid, core.checklists.contains uid = true → core'.checklists.contains uid = true)
    (sound : ∀ uid column, core'.checklistColumns.get uid = some column → column.columnUid = uid ∧
      ∃ owner : ColumnOwner, owner.known core' = true ∧ ∀ other : ColumnOwner, other.has column = true ↔ other = owner)
    (agree : ∀ uid column checklistUid, column.checklistUid = some checklistUid → core.checklists.contains checklistUid = true →
      (core'.checklistColumns.get uid = some column ↔ core.checklistColumns.get uid = some column)) : SheetsWhole core' := by
  constructor
  · rw [tasks]
    exact h.taskKeys
  · rw [tasks]
    exact fun uid task stored => contains _ (h.taskOwners uid task stored)
  · exact fun uid column stored => (sound uid column stored).1
  · exact fun uid column stored => (sound uid column stored).2
  · rw [cells]
    exact h.cellKeys
  · intro cell mem
    rw [cells] at mem
    obtain ⟨task, column, row, field, same⟩ := h.cellPlaces cell mem
    refine ⟨task, column, tasks ▸ row, ?_, same⟩
    exact (agree _ _ _ same (h.taskOwners _ _ row)).2 field
  · intro taskUid task columnUid column row field same
    rw [tasks] at row
    rw [RchCore.cellsAt, cells]
    exact h.grid taskUid task columnUid column row ((agree _ _ _ same (h.taskOwners _ _ row)).1 field) same

/-- The owner of a column, by its checklist. -/
theorem owner_eq (h : SheetsWhole core) {uid checklistUid : String} {column : ChecklistColumnRecord}
    (stored : core.checklistColumns.get uid = some column) (named : column.checklistUid = some checklistUid) :
    ∀ other : ColumnOwner, other.has column = true ↔ other = .checklist checklistUid := by
  obtain ⟨owner, -, only⟩ := h.columnOwners uid column stored
  have mine : (ColumnOwner.checklist checklistUid).has column = true := by simp [ColumnOwner.has, named]
  rw [(only _).1 mine]
  exact only

/-- No column of a checklist is a template's. -/
theorem untemplated (h : SheetsWhole core) {uid checklistUid : String} {column : ChecklistColumnRecord}
    (stored : core.checklistColumns.get uid = some column) (named : column.checklistUid = some checklistUid)
    (templateUid : String) : (column.templateUid != some templateUid) = true := by
  rw [bne_iff_ne]
  intro same
  have other := (h.owner_eq stored named (.template templateUid)).1 (by simp [ColumnOwner.has, same])
  exact nomatch other

theorem createChecklist [Host] (h : SheetsWhole core) {uid : String} {checklist : ChecklistRecord} {given : List Value} {now : Int}
    {table : Dict String ChecklistColumnRecord} (absent : core.checklists.get uid = none)
    {fresh : Prop} (sure : fresh) (put : ColumnsPut fresh ((ColumnOwner.checklist uid).column now) 0 given core.checklistColumns table) :
    SheetsWhole { core with checklists := core.checklists.insert uid checklist, checklistColumns := table } := by
  have grown : ∀ other, core.checklists.contains other = true → (core.checklists.insert uid checklist).contains other = true :=
    fun other there => Dict.contains_insert.2 (.inr there)
  refine h.recolumn rfl rfl grown (fun key column stored => ?_) fun key column checklistUid named there => ⟨fun stored => ?_, put.kept sure⟩
  · rcases put.source stored with before | ⟨index, value, rfl⟩
    · obtain ⟨owner, known, only⟩ := h.columnOwners key column before
      refine ⟨h.columnKeys key column before, owner, ?_, only⟩
      cases owner with
      | checklist other => exact grown other known
      | template other => exact known
    · exact ⟨ColumnOwner.column_key _ _ _ _ _, .checklist uid, Dict.contains_insert.2 (.inl rfl),
        fun other => ColumnOwner.has_column _ _ _ _ _ _⟩
  · rcases put.source stored with before | ⟨index, value, rfl⟩
    · exact before
    · have same := (ColumnOwner.has_column (.checklist uid) (.checklist checklistUid) now index value key).1 (by simp [ColumnOwner.has, named])
      obtain rfl := ColumnOwner.checklist.inj same
      rw [Dict.contains, absent] at there
      cases there

/-- The columns of a template, replaced or taken away. -/
theorem retemplate [Host] (h : SheetsWhole core) {uid : String} {given : List Value} {now : Int}
    {templates : Dict String ChecklistTemplateRecord} {table : Dict String ChecklistColumnRecord}
    (others : ∀ other, other ≠ uid → core.checklistTemplates.contains other = true → templates.contains other = true)
    (there : given ≠ [] → templates.contains uid = true)
    {fresh : Prop} (sure : fresh) (put : ColumnsPut fresh ((ColumnOwner.template uid).column now) 0 given
      (core.checklistColumns.retain fun _ column => column.templateUid != some uid) table) :
    SheetsWhole { core with checklistTemplates := templates, checklistColumns := table } := by
  have retained : ∀ key column, (core.checklistColumns.retain fun _ column => column.templateUid != some uid).get key = some column ↔
      core.checklistColumns.get key = some column ∧ (column.templateUid != some uid) = true := by
    intro key column
    rw [Dict.get_retain, Option.filter_eq_some_iff]
  have some_ : ∀ index value key, table.get key = some ((ColumnOwner.template uid).column now index value key) →
      (core.checklistColumns.retain fun _ column => column.templateUid != some uid).get key =
        some ((ColumnOwner.template uid).column now index value key) ∨ given ≠ [] := by
    intro index value key stored
    cases put with
    | nil => exact .inl stored
    | cons => exact .inr (List.cons_ne_nil _ _)
  refine h.recolumn rfl rfl (fun _ there => there) (fun key column stored => ?_) fun key column checklistUid named _ => ⟨fun stored => ?_, fun stored => ?_⟩
  · rcases put.source stored with before | ⟨index, value, rfl⟩
    · obtain ⟨before, apart⟩ := (retained key column).1 before
      obtain ⟨owner, known, only⟩ := h.columnOwners key column before
      refine ⟨h.columnKeys key column before, owner, ?_, only⟩
      cases owner with
      | checklist other => exact known
      | template other =>
        refine others other ?_ known
        rintro rfl
        have mine := (only (.template other)).2 rfl
        rw [ColumnOwner.has, beq_iff_eq] at mine
        exact absurd mine (bne_iff_ne.1 apart)
    · refine ⟨ColumnOwner.column_key _ _ _ _ _, .template uid, ?_, fun other => ColumnOwner.has_column _ _ _ _ _ _⟩
      rcases some_ index value key stored with before | full
      · have apart := ((retained key _).1 before).2
        exact absurd rfl (bne_iff_ne.1 apart)
      · exact there full
  · rcases put.source stored with before | ⟨index, value, rfl⟩
    · exact ((retained key column).1 before).1
    · exact absurd named nofun
  · exact put.kept sure ((retained key column).2 ⟨stored, h.untemplated stored named uid⟩)

/-- Records written where they keep their owners. -/
theorem rerecord (h : SheetsWhole core) (columns : core'.checklistColumns = core.checklistColumns)
    (tasks : core'.checklistTasks = core.checklistTasks) (cells : core'.checklistCells = core.checklistCells)
    (known : ∀ owner : ColumnOwner, owner.known core = true → owner.known core' = true) : SheetsWhole core' := by
  refine h.recolumn tasks cells (fun uid => known (.checklist uid)) (fun uid column stored => ?_) fun _ _ _ _ _ => by rw [columns]
  rw [columns] at stored
  obtain ⟨owner, there, only⟩ := h.columnOwners uid column stored
  exact ⟨h.columnKeys uid column stored, owner, known owner there, only⟩

theorem patchChecklist (h : SheetsWhole core) {uid : String} {checklist : ChecklistRecord} :
    SheetsWhole { core with checklists := core.checklists.insert uid checklist } := by
  refine h.rerecord rfl rfl rfl fun owner there => ?_
  cases owner with
  | checklist other => exact Dict.contains_insert.2 (.inr there)
  | template other => exact there

theorem patchTemplate (h : SheetsWhole core) {uid : String} {template : ChecklistTemplateRecord} :
    SheetsWhole { core with checklistTemplates := core.checklistTemplates.insert uid template } := by
  refine h.rerecord rfl rfl rfl fun owner there => ?_
  cases owner with
  | checklist other => exact there
  | template other => exact Dict.contains_insert.2 (.inr there)

/-- A task written over one of its checklist. -/
theorem patchRow (h : SheetsWhole core) {uid : String} {old task : ChecklistTaskRecord}
    (stored : core.checklistTasks.get uid = some old) (key : task.taskUid = old.taskUid)
    (owner : task.checklistUid = old.checklistUid) :
    SheetsWhole { core with checklistTasks := core.checklistTasks.insert uid task } := by
  have source : ∀ uid' task', (core.checklistTasks.insert uid task).get uid' = some task' →
      ∃ before, core.checklistTasks.get uid' = some before ∧ task'.taskUid = before.taskUid ∧
        task'.checklistUid = before.checklistUid := by
    intro uid' task' stored'
    rw [Dict.get_insert] at stored'
    split at stored'
    · rename_i here
      obtain rfl := Option.some.inj stored'
      exact ⟨old, here ▸ stored, key, owner⟩
    · exact ⟨task', stored', rfl, rfl⟩
  constructor
  · intro uid' task' stored'
    obtain ⟨before, there, same, -⟩ := source uid' task' stored'
    exact same.trans (h.taskKeys uid' before there)
  · intro uid' task' stored'
    obtain ⟨before, there, -, same⟩ := source uid' task' stored'
    rw [same]
    exact h.taskOwners uid' before there
  · exact h.columnKeys
  · exact h.columnOwners
  · exact h.cellKeys
  · intro cell mem
    obtain ⟨before, column, row, field, same⟩ := h.cellPlaces cell mem
    by_cases here : cell.taskUid = uid
    · rw [here, stored] at row
      obtain rfl := Option.some.inj row
      refine ⟨task, column, ?_, field, same.trans (congrArg some owner.symm)⟩
      show (core.checklistTasks.insert uid task).get cell.taskUid = some task
      rw [here, Dict.get_insert_self]
    · refine ⟨before, column, ?_, field, same⟩
      show (core.checklistTasks.insert uid task).get cell.taskUid = some before
      rw [Dict.get_insert_ne here, row]
  · intro taskUid task' columnUid column row field same
    obtain ⟨before, there, -, owned⟩ := source taskUid task' row
    exact h.grid taskUid before columnUid column there field (owned ▸ same)

/-- A checklist has each of its columns once. -/
theorem columns_once (h : SheetsWhole core) {columnUid checklistUid : String} {column : ChecklistColumnRecord}
    (field : core.checklistColumns.get columnUid = some column) (named : column.checklistUid = some checklistUid) :
    ((core.columnsForChecklist checklistUid).filter fun column => column.columnUid == columnUid).length = 1 := by
  have single : (core.checklistColumns.values.filter fun column =>
      column.columnUid == columnUid && column.checklistUid == some checklistUid) = [column] := by
    refine Dict.filter_values_single field ?_ fun other column' stored looked => ?_
    · simp [h.columnKeys columnUid column field, named]
    · rw [Bool.and_eq_true, beq_iff_eq] at looked
      exact (h.columnKeys other column' stored).symm.trans looked.1
  have sorted := (sortBy_perm (fun left right => compare left.displayOrder right.displayOrder)
    (core.checklistColumns.values.filter fun column => column.checklistUid == some checklistUid)).filter
      fun column => column.columnUid == columnUid
  rw [RchCore.columnsForChecklist, sorted.length_eq, List.filter_filter, single, List.length_singleton]

/-- A new task, with its cells. -/
theorem addRow (h : SheetsWhole core) {uid : String} {task : ChecklistTaskRecord} {now : Int}
    {cells : Dict String ChecklistCellRecord} (key : task.taskUid = uid) (absent : core.checklistTasks.get uid = none)
    (owned : core.checklists.contains task.checklistUid = true)
    {fresh : Prop} (sure : fresh) (put : CellsPut fresh uid now (core.columnsForChecklist task.checklistUid) core.checklistCells cells) :
    SheetsWhole { core with checklistTasks := core.checklistTasks.insert uid task, checklistCells := cells } := by
  have source : ∀ uid' task', (core.checklistTasks.insert uid task).get uid' = some task' →
      uid' = uid ∧ task' = task ∨ uid' ≠ uid ∧ core.checklistTasks.get uid' = some task' := by
    intro uid' task' stored
    rw [Dict.get_insert] at stored
    split at stored
    · rename_i here
      exact .inl ⟨here, (Option.some.inj stored).symm⟩
    · rename_i apart
      exact .inr ⟨apart, stored⟩
  constructor
  · intro uid' task' stored
    rcases source uid' task' stored with ⟨rfl, rfl⟩ | ⟨-, before⟩
    · exact key
    · exact h.taskKeys uid' task' before
  · intro uid' task' stored
    rcases source uid' task' stored with ⟨-, rfl⟩ | ⟨-, before⟩
    · exact owned
    · exact h.taskOwners uid' task' before
  · exact h.columnKeys
  · exact h.columnOwners
  · exact put.filed h.cellKeys
  · intro cell mem
    rcases put.source sure mem with before | ⟨here, column, there, same⟩
    · obtain ⟨task', column, row, field, same⟩ := h.cellPlaces cell before
      refine ⟨task', column, ?_, field, same⟩
      show (core.checklistTasks.insert uid task).get cell.taskUid = some task'
      rw [Dict.get_insert_ne, row]
      intro here
      rw [here] at row
      cases absent.symm.trans row
    · refine ⟨task, column, ?_, ?_, ?_⟩
      · show (core.checklistTasks.insert uid task).get cell.taskUid = some task
        rw [here, Dict.get_insert_self]
      · show core.checklistColumns.get cell.columnUid = some column
        obtain ⟨columnUid, stored⟩ := Dict.mem_values.1 (List.mem_filter.1 (mem_sortBy.1 there)).1
        rw [same, h.columnKeys columnUid column stored, stored]
      · simpa using (List.mem_filter.1 (mem_sortBy.1 there)).2
  · intro taskUid task' columnUid column row field same
    have count := put.length_at sure taskUid columnUid
    show (cells.values.filter _).length = 1
    rw [count]
    rcases source taskUid task' row with ⟨rfl, rfl⟩ | ⟨apart, before⟩
    · have none : (core.checklistCells.values.filter fun cell => cell.taskUid == taskUid && cell.columnUid == columnUid) = [] := by
        rw [List.filter_eq_nil_iff]
        intro cell mem here
        rw [Bool.and_eq_true, beq_iff_eq] at here
        obtain ⟨task', -, row', -⟩ := h.cellPlaces cell mem
        rw [here.1] at row'
        cases absent.symm.trans row'
      rw [none, if_pos rfl, h.columns_once field same]
      rfl
    · rw [if_neg apart]
      exact h.grid taskUid task' columnUid column before field same

/-- Tasks taken away with their cells. -/
theorem dropRows (h : SheetsWhole core) {tasks : Dict String ChecklistTaskRecord} {cells : Dict String ChecklistCellRecord}
    (gone : String → Bool)
    (left : ∀ uid task, tasks.get uid = some task ↔ core.checklistTasks.get uid = some task ∧ gone uid = false)
    (emptied : cells = core.checklistCells.retain fun _ cell => !gone cell.taskUid) :
    SheetsWhole { core with checklistTasks := tasks, checklistCells := cells } := by
  have kept : ∀ uid cell, cells.get uid = some cell ↔ core.checklistCells.get uid = some cell ∧ gone cell.taskUid = false := by
    intro uid cell
    rw [emptied, Dict.get_retain, Option.filter_eq_some_iff, Bool.not_eq_true']
  constructor
  · exact fun uid task stored => h.taskKeys uid task ((left uid task).1 stored).1
  · exact fun uid task stored => h.taskOwners uid task ((left uid task).1 stored).1
  · exact h.columnKeys
  · exact h.columnOwners
  · exact fun uid cell stored => h.cellKeys uid cell ((kept uid cell).1 stored).1
  · intro cell mem
    obtain ⟨uid, stored⟩ := Dict.mem_values.1 mem
    obtain ⟨before, there⟩ := (kept uid cell).1 stored
    obtain ⟨task, column, row, field, same⟩ := h.cellPlaces cell (Dict.mem_values.2 ⟨uid, before⟩)
    exact ⟨task, column, (left _ _).2 ⟨row, there⟩, field, same⟩
  · intro taskUid task columnUid column row field same
    obtain ⟨before, there⟩ := (left taskUid task).1 row
    have unchanged : (cells.values.filter fun cell => cell.taskUid == taskUid && cell.columnUid == columnUid) =
        core.cellsAt taskUid columnUid := by
      rw [emptied]
      refine Dict.filter_values_retain fun _ cell _ here => ?_
      rw [Bool.and_eq_true, beq_iff_eq] at here
      rw [here.1, there]
      rfl
    show (cells.values.filter _).length = 1
    rw [unchanged]
    exact h.grid taskUid task columnUid column before field same

theorem deleteRow (h : SheetsWhole core) {uid : String} {task : ChecklistTaskRecord}
    (stored : core.checklistTasks.get uid = some task) :
    SheetsWhole { core with
      checklistTasks := core.checklistTasks.remove uid
      checklistCells := core.checklistCells.retain fun _ cell => cell.taskUid != task.taskUid } := by
  refine h.dropRows (fun uid' => uid' == uid) (fun uid' task' => ?_) ?_
  · rw [Dict.get_remove]
    by_cases here : uid' = uid
    · simp [here]
    · simp [here]
  · rw [h.taskKeys uid task stored]
    rfl

/-- A cell written where one is. -/
theorem setCell (h : SheetsWhole core) {uid : String} {cell : ChecklistCellRecord} {task : ChecklistTaskRecord}
    {column : ChecklistColumnRecord} (key : cell.cellUid = uid) (row : core.checklistTasks.get cell.taskUid = some task)
    (field : core.checklistColumns.get cell.columnUid = some column) (same : column.checklistUid = some task.checklistUid)
    (place : (findCell core cell.taskUid cell.columnUid).map ChecklistCellRecord.cellUid = some uid ∨
      findCell core cell.taskUid cell.columnUid = none) :
    SheetsWhole { core with checklistCells := core.checklistCells.insert uid cell } := by
  have one := h.grid cell.taskUid task cell.columnUid column row field same
  have found : ∃ old, findCell core cell.taskUid cell.columnUid = some old ∧ core.checklistCells.get uid = some old := by
    rcases place with held | missing
    · obtain ⟨old, found, mine⟩ := Option.map_eq_some_iff.1 held
      obtain ⟨uid', stored⟩ := Dict.mem_values.1 (List.mem_of_find?_eq_some found)
      have filed : uid' = uid := (h.cellKeys uid' old stored).symm.trans mine
      exact ⟨old, found, filed ▸ stored⟩
    · have none : core.cellsAt cell.taskUid cell.columnUid = [] := by
        rw [RchCore.cellsAt, List.filter_eq_nil_iff]
        exact fun other mem => List.find?_eq_none.1 missing other mem
      rw [none] at one
      exact absurd one nofun
  obtain ⟨old, found, stored⟩ := found
  have place' := List.find?_some found
  rw [Bool.and_eq_true, beq_iff_eq, beq_iff_eq] at place'
  constructor
  · exact h.taskKeys
  · exact h.taskOwners
  · exact h.columnKeys
  · exact h.columnOwners
  · exact h.cellKeys.insert key
  · intro other mem
    obtain ⟨uid', there⟩ := Dict.mem_values.1 mem
    have there : (core.checklistCells.insert uid cell).get uid' = some other := there
    rw [Dict.get_insert] at there
    split at there
    · obtain rfl := Option.some.inj there
      exact ⟨task, column, row, field, same⟩
    · exact h.cellPlaces other (Dict.mem_values.2 ⟨uid', there⟩)
  · intro taskUid task' columnUid column' row' field' same'
    have count : ((core.checklistCells.insert uid cell).values.filter fun other =>
        other.taskUid == taskUid && other.columnUid == columnUid).length = (core.cellsAt taskUid columnUid).length := by
      refine Dict.length_filter_values_insert stored ?_
      rw [place'.1, place'.2]
    exact count.trans (h.grid taskUid task' columnUid column' row' field' same')

theorem deleteChecklist (h : SheetsWhole core) (uid : String) :
    SheetsWhole ({ core with checklists := core.checklists.remove uid }.withoutChecklistRows uid) := by
  -- first the rows go, with nothing else, then the columns and the checklist
  have gone : ∀ taskUid task, core.checklistTasks.get taskUid = some task →
      ((checklistTaskUids core uid).contains taskUid = true ↔ task.checklistUid = uid) := by
    intro taskUid task stored
    rw [List.contains_iff_mem, checklistTaskUids, List.mem_map]
    constructor
    · rintro ⟨other, mem, same⟩
      obtain ⟨mem, mine⟩ := List.mem_filter.1 mem
      obtain ⟨key, stored'⟩ := Dict.mem_values.1 mem
      have filed : key = taskUid := (h.taskKeys key other stored').symm.trans same
      rw [filed, stored] at stored'
      rw [Option.some.inj stored']
      simpa using mine
    · intro mine
      refine ⟨task, List.mem_filter.2 ⟨Dict.mem_values.2 ⟨taskUid, stored⟩, ?_⟩, h.taskKeys taskUid task stored⟩
      simpa using mine
  have rows : SheetsWhole { core with
      checklistTasks := core.checklistTasks.retain fun _ task => task.checklistUid != uid
      checklistCells := core.checklistCells.retain fun _ cell => !(checklistTaskUids core uid).contains cell.taskUid } := by
    refine h.dropRows (fun taskUid => (checklistTaskUids core uid).contains taskUid) (fun taskUid task => ?_) rfl
    rw [Dict.get_retain, Option.filter_eq_some_iff]
    refine and_congr_right fun stored => ?_
    rw [bne_iff_ne, ← Bool.not_eq_true, gone taskUid task stored]
  have retained : ∀ key column, (core.checklistColumns.retain fun _ column => column.checklistUid != some uid).get key = some column ↔
      core.checklistColumns.get key = some column ∧ column.checklistUid ≠ some uid := by
    intro key column
    rw [Dict.get_retain, Option.filter_eq_some_iff, bne_iff_ne]
  have others : ∀ other, other ≠ uid → core.checklists.contains other = true → (core.checklists.remove uid).contains other = true := by
    intro other apart there
    obtain ⟨checklist, stored⟩ := Dict.contains_iff.1 there
    refine Dict.contains_iff.2 ⟨checklist, ?_⟩
    rw [Dict.get_remove, if_neg apart, stored]
  constructor
  · exact rows.taskKeys
  · intro taskUid task stored
    refine others _ ?_ (rows.taskOwners taskUid task stored)
    have apart := (Option.filter_eq_some_iff.1 (Dict.get_retain.symm.trans stored)).2
    simpa using apart
  · exact fun key column stored => h.columnKeys key column ((retained key column).1 stored).1
  · intro key column stored
    obtain ⟨before, apart⟩ := (retained key column).1 stored
    obtain ⟨owner, known, only⟩ := h.columnOwners key column before
    refine ⟨owner, ?_, only⟩
    cases owner with
    | template other => exact known
    | checklist other =>
      refine others other ?_ known
      rintro rfl
      have mine := (only (.checklist other)).2 rfl
      rw [ColumnOwner.has, beq_iff_eq] at mine
      exact apart mine
  · exact rows.cellKeys
  · intro cell mem
    obtain ⟨task, column, row, field, same⟩ := rows.cellPlaces cell mem
    refine ⟨task, column, row, (retained _ _).2 ⟨field, ?_⟩, same⟩
    rw [same]
    have apart := (Option.filter_eq_some_iff.1 (Dict.get_retain.symm.trans row)).2
    simpa using apart
  · exact fun taskUid task columnUid column row field same =>
      rows.grid taskUid task columnUid column row ((retained columnUid column).1 field).1 same

/-- Each step leaves the sheets whole. -/
theorem step [Host] (h : SheetsWhole core) {grant : SheetGrant} (sure : grant.fresh) (edit : SheetEdit grant core core') :
    SheetsWhole core' := by
  cases edit with
  | createChecklist uid checklist columns now table absent enumerated valid given put => exact h.createChecklist absent sure put
  | patchChecklist uid old checklist stored enumerated => exact h.patchChecklist
  | deleteChecklist uid => exact h.deleteChecklist uid
  | createTemplate uid template columns now table valid some_ given put =>
    exact h.retemplate (fun _ _ there => Dict.contains_insert.2 (.inr there)) (fun _ => Dict.contains_insert.2 (.inl rfl)) sure put
  | replaceColumns uid columns now table stored valid given put => exact h.retemplate (fun _ _ there => there) (fun _ => stored) sure put
  | patchTemplate uid template stored => exact h.patchTemplate
  | deleteTemplate uid =>
    have nothing : ColumnsPut True ((ColumnOwner.template uid).column 0) 0 []
        (core.checklistColumns.retain fun _ column => column.templateUid != some uid) _ := .nil 0 _
    refine h.retemplate (fun other apart there => ?_) (fun full => absurd rfl full) trivial nothing
    obtain ⟨template, stored⟩ := Dict.contains_iff.1 there
    refine Dict.contains_iff.2 ⟨template, ?_⟩
    rw [Dict.get_remove, if_neg apart, stored]
  | addRow uid task now cells key absent owned number user status put => exact h.addRow key absent owned sure put
  | patchRow uid old task stored key owner number user status => exact h.patchRow stored key owner
  | deleteRow uid task stored => exact h.deleteRow stored
  | setCell uid cell task column key row field same place => exact h.setCell key row field same (place.imp_right And.left)
  | publish => exact h.of_same rfl
  | audit => exact h.of_same rfl
  | change => exact h.of_same rfl

end SheetsWhole

/-! ## Numbers -/

/-- A task is where it was and has the number that it had, or one that is given. -/
def NumbersGiven (number : String → Int → Prop) (core core' : RchCore) : Prop :=
  ∀ uid task, core'.checklistTasks.get uid = some task →
    (∃ old, core.checklistTasks.get uid = some old ∧ old.checklistUid = task.checklistUid ∧ old.number = task.number) ∨
      number uid task.number

namespace NumbersGiven

variable {number : String → Int → Prop} {core core' core'' : RchCore}

theorem of_same (same : core'.checklistTasks = core.checklistTasks) : NumbersGiven number core core' :=
  fun _ task stored => .inl ⟨task, same ▸ stored, rfl, rfl⟩

theorem trans (first : NumbersGiven number core core') (second : NumbersGiven number core' core'') :
    NumbersGiven number core core'' := by
  intro uid task stored
  rcases second uid task stored with ⟨old, there, owner, kept⟩ | given
  · rw [← owner, ← kept]
    exact first uid old there
  · exact .inr given

/-- A task put in, over another one or none. -/
theorem insert {uid : String} {task : ChecklistTaskRecord}
    (put : (∃ old, core.checklistTasks.get uid = some old ∧ old.checklistUid = task.checklistUid ∧ old.number = task.number) ∨
      number uid task.number) (tasks : core'.checklistTasks = core.checklistTasks.insert uid task) :
    NumbersGiven number core core' := by
  intro uid' task' stored
  rw [tasks, Dict.get_insert] at stored
  split at stored
  · rename_i here
    rw [here, ← Option.some.inj stored]
    exact put
  · exact .inl ⟨task', stored, rfl, rfl⟩

/-- Tasks taken away. -/
theorem of_fewer (fewer : ∀ uid task, core'.checklistTasks.get uid = some task → core.checklistTasks.get uid = some task) :
    NumbersGiven number core core' := fun uid task stored => .inl ⟨task, fewer uid task stored, rfl, rfl⟩

/-- A row written over may keep another's number but not its own, so the owner comes along. -/
theorem step [Host] {grant : SheetGrant} (edit : SheetEdit grant core core') : NumbersGiven grant.number core core' := by
  cases edit with
  | addRow uid task now cells key absent owned number user status put => exact insert (.inr number) rfl
  | patchRow uid old task stored key owner number user status =>
    refine insert (number.imp_left fun kept => ?_) rfl
    exact ⟨old, stored, owner.symm, kept.symm⟩
  | deleteRow uid task stored =>
    refine of_fewer fun uid' task' there => ?_
    have there : (core.checklistTasks.remove uid).get uid' = some task' := there
    rw [Dict.get_remove] at there
    split at there
    · cases there
    · exact there
  | deleteChecklist uid =>
    refine of_fewer fun uid' task' there => ?_
    have there : (core.checklistTasks.retain fun _ task => task.checklistUid != uid).get uid' = some task' := there
    rw [Dict.get_retain] at there
    exact (Option.filter_eq_some_iff.1 there).1
  | _ => exact of_same rfl

end NumbersGiven

/-! ## Runs -/

section

variable [Host]

/-- A command with fresh draws leaves the sheets whole. -/
theorem SheetsWhole.after {entry : CommandEntry} {command : MissionCommandEnvelope} {w : World}
    (fresh : entry.DrawsFresh command w) (h : SheetsWhole w.core) : SheetsWhole (entry.after command w).core :=
  entry.after_sheets True command w (fun _ => fresh) (fun _ => h.cellKeys) (fun _ _ same h => h.of_same same)
    (fun _ _ h edit => h.step trivial edit) h

/-- A command gives no number but those in its arguments, whatever it draws. -/
theorem NumbersGiven.after (entry : CommandEntry) (command : MissionCommandEnvelope) (w : World) :
    NumbersGiven (GivesNumber command) w.core (entry.after command w).core :=
  entry.after_sheets (P := NumbersGiven (GivesNumber command) w.core) False command w False.elim False.elim
    (fun _ _ same before => before.trans (.of_same (congrArg SheetTables.tasks same)))
    (fun _ _ before edit => before.trans (.step edit)) (.of_same rfl)

theorem run_sheetsWhole {core : RchCore} (run : CommandRun CommandEntry.DrawsFresh RchCore.new core) : SheetsWhole core :=
  run.holds .new fun _ _ _ fresh h => h.after fresh

/-- In every state that commands reach whose draws are fresh there is one cell for each task
and column of one checklist, and no other cell. A command leaves a task where it was with the
number that it had, or gives it the number that is in its arguments. -/
theorem task_cells_grid :
    (∀ core, CommandRun CommandEntry.DrawsFresh RchCore.new core →
      (∀ taskUid task columnUid column, core.checklistTasks.get taskUid = some task →
        core.checklistColumns.get columnUid = some column → column.checklistUid = some task.checklistUid →
          ∃ cell, core.cellsAt taskUid columnUid = [cell]) ∧
      ∀ cell ∈ core.checklistCells.values, CellPlaced core cell) ∧
    ∀ (entry : CommandEntry) command (w : World), NumbersGiven (GivesNumber command) w.core (entry.after command w).core := by
  refine ⟨fun core run => ?_, .after⟩
  have whole := run_sheetsWhole run
  refine ⟨fun taskUid task columnUid column row field same => ?_, whole.cellPlaces⟩
  exact List.length_eq_one_iff.1 (whole.grid taskUid task columnUid column row field same)

end

/-! ## A drill -/

/-- A row added to a checklist. -/
def addRowCommand (commandId taskUid : String) : MissionCommandEnvelope :=
  drillCommand commandId "checklist.task.row.add" [("checklist_uid", .string "drill"), ("task_uid", .string taskUid)]

/-- A checklist to which a row is added. -/
def rowDrill : List MissionCommandEnvelope :=
  [addRowCommand "2" "a", drillCommand "1" "checklist.create.offline" [("checklist_uid", .string "drill"), ("name", .string "Drill")]]

theorem rowDrill_fresh : @DrillFresh Host.blank (addRowCommand "3" "b" :: rowDrill) := by decide +kernel

/-- Each row has a cell in each column before the second one is added, which gets the number
one. -/
theorem task_cells_grid_drill :
    letI := Host.blank
    (drillWorld rowDrill).core.checklistTasks.values.length = 1 ∧ (drillWorld rowDrill).core.checklistColumns.values.length = 2 ∧
      (∀ taskUid task columnUid column, (drillWorld rowDrill).core.checklistTasks.get taskUid = some task →
        (drillWorld rowDrill).core.checklistColumns.get columnUid = some column → column.checklistUid = some task.checklistUid →
          ∃ cell, (drillWorld rowDrill).core.cellsAt taskUid columnUid = [cell]) ∧
      NumbersGiven (GivesNumber (addRowCommand "3" "b")) (drillWorld rowDrill).core
        (CommandEntry.command.after (addRowCommand "3" "b") (drillWorld rowDrill)).core := by
  let _ := Host.blank
  have before := rowDrill_fresh.earlier.run
  refine ⟨by decide +kernel, by decide +kernel, (task_cells_grid.1 _ before).1, ?_⟩
  exact task_cells_grid.2 .command _ (drillWorld rowDrill)

/-- Two tasks of one checklist with one number. -/
theorem task_numbers_repeat :
    letI := Host.blank
    CommandRun CommandEntry.DrawsFresh RchCore.new (drillWorld (addRowCommand "3" "b" :: rowDrill)).core ∧
      ∃ a ∈ (drillWorld (addRowCommand "3" "b" :: rowDrill)).core.checklistTasks.get "a",
      ∃ b ∈ (drillWorld (addRowCommand "3" "b" :: rowDrill)).core.checklistTasks.get "b",
        a.checklistUid = b.checklistUid ∧ a.taskUid ≠ b.taskUid ∧ a.number = b.number := by
  let _ := Host.blank
  refine ⟨rowDrill_fresh.run, ?_⟩
  decide +kernel

end TelemetryHub
