import TelemetryHub.Lib.Entries
import TelemetryHub.Edits.SheetCommands

/-!
# What an import writes

A table is imported as a checklist with a column for each header, then row by row: a task with
an empty cell in each column, and over the empty cells the texts of the row.
-/

namespace TelemetryHub

open Lib CoreM

/-! ## Fresh uuids -/

/-- The first `k` draws are apart from each other, and nothing in the sheets has them. -/
structure FreshUids (k : Nat) (core : RchCore) (draws : Nat → Uuid) : Prop extends FreshDraws k core draws where
  checklists : ∀ n, n < k → core.checklists.get (draws n).simple = none
  tasks : ∀ n, n < k → core.checklistTasks.get (draws n).simple = none

section

variable {V : Type} {j k : Nat} {core core' : RchCore} {draws : Nat → Uuid}

theorem FreshUids.mono (fresh : FreshUids k core draws) (fewer : j ≤ k) : FreshUids j core draws where
  toFreshDraws := fresh.toFreshDraws.mono fewer
  checklists n bound := fresh.checklists n (by omega)
  tasks n bound := fresh.tasks n (by omega)

/-- What is left of the draws is fresh where the others are the only new keys. -/
theorem FreshUids.later (fresh : FreshUids (j + k) core draws)
    (columns : KeysDrawn j draws core.checklistColumns core'.checklistColumns)
    (cells : KeysDrawn j draws core.checklistCells core'.checklistCells)
    (checklists : KeysDrawn j draws core.checklists core'.checklists)
    (tasks : KeysDrawn j draws core.checklistTasks core'.checklistTasks) : FreshUids k core' (drawsFrom j draws) := by
  have others : ∀ n, n < k → ∀ m, m < j → (draws m).simple ≠ (draws (n + j)).simple := by
    intro n bound m less same
    have equal := fresh.apart m (n + j) (by omega) (by omega) same
    omega
  refine ⟨fresh.toFreshDraws.later columns cells, fun n bound => ?_, fun n bound => ?_⟩
  · exact checklists _ (fresh.checklists (n + j) (by omega)) (others n bound)
  · exact tasks _ (fresh.tasks (n + j) (by omega)) (others n bound)

/-- No new keys where as many keys are taken. -/
theorem KeysDrawn.of_map {W : Type} {table table' : Dict String V} {f : V → W}
    (same : ∀ uid, (table'.get uid).map f = (table.get uid).map f) : KeysDrawn k draws table table' := by
  intro uid absent _
  have there := same uid
  rw [absent, Option.map_none] at there
  exact Option.map_eq_none_iff.1 there

end

/-! ## What a recount leaves -/

/-- A task but for its status, which is derived. -/
def ChecklistTaskRecord.row (task : ChecklistTaskRecord) : ChecklistTaskRecord := { task with taskStatus := "", isLate := false }

/-- A task whose row is the same is still there. -/
theorem ChecklistTaskRecord.row_kept {tasks tasks' : Dict String ChecklistTaskRecord} {uid : String} {task : ChecklistTaskRecord}
    (same : (tasks'.get uid).map row = (tasks.get uid).map row) (stored : tasks.get uid = some task) :
    ∃ new, tasks'.get uid = some new ∧ new.row = task.row := by
  rw [stored] at same
  exact Option.map_eq_some_iff.1 same

/-- The core but for the statuses and the counts of the checklists. -/
structure CountsOnly (core core' : RchCore) : Prop where
  columns : core'.checklistColumns = core.checklistColumns
  cells : core'.checklistCells = core.checklistCells
  tasks : ∀ uid, (core'.checklistTasks.get uid).map ChecklistTaskRecord.row = (core.checklistTasks.get uid).map ChecklistTaskRecord.row
  checklists : ∀ uid, (core'.checklists.get uid).map ChecklistRecord.uid = (core.checklists.get uid).map ChecklistRecord.uid

namespace CountsOnly

variable {core core' core'' : RchCore} {draws : Nat → Uuid} {j k : Nat}

theorem refl : CountsOnly core core := ⟨rfl, rfl, fun _ => rfl, fun _ => rfl⟩

theorem trans (first : CountsOnly core core') (second : CountsOnly core' core'') : CountsOnly core core'' where
  columns := second.columns.trans first.columns
  cells := second.cells.trans first.cells
  tasks uid := (second.tasks uid).trans (first.tasks uid)
  checklists uid := (second.checklists uid).trans (first.checklists uid)

theorem fresh (h : CountsOnly core core') (fresh : FreshUids k core draws) : FreshUids k core' draws := by
  refine ⟨⟨fresh.apart, h.columns ▸ fresh.columns, h.cells ▸ fresh.cells⟩, fun n bound => ?_, fun n bound => ?_⟩
  · have none := h.checklists (draws n).simple
    rw [fresh.checklists n bound] at none
    exact Option.map_eq_none_iff.1 none
  · have none := h.tasks (draws n).simple
    rw [fresh.tasks n bound] at none
    exact Option.map_eq_none_iff.1 none

end CountsOnly

theorem refreshTaskStatus_returns (taskUid : String) {core₀ : RchCore} {draws : Nat → Uuid} :
    Proc.Spec drawsSeen (refreshTaskStatus taskUid) (core₀, draws)
      (Proc.Returns fun _ v => v.2 = draws ∧ CountsOnly core₀ v.1) := by
  unfold refreshTaskStatus
  refine seenRead (Proc.Returns.required fun task stored => derivedThen fun status late _ => seenWrite ?_)
  refine Proc.Returns.pure ⟨rfl, rfl, rfl, fun uid => ?_, fun _ => rfl⟩
  rw [Dict.get_insert]
  split
  · rename_i here
    rw [here, stored]
    rfl
  · rfl

theorem recomputeChecklistStatus_returns (checklistUid : String) {core₀ : RchCore} {draws : Nat → Uuid} :
    Proc.Spec drawsSeen (recomputeChecklistStatus checklistUid) (core₀, draws)
      (Proc.Returns fun checklist v => v.2 = draws ∧ CountsOnly core₀ v.1 ∧
        (core₀.checklists.get checklistUid).map ChecklistRecord.uid = some checklist.uid) := by
  have refreshed : ∀ (taskUids : List String) {core₀}, Proc.Spec drawsSeen (taskUids.mapM refreshTaskStatus) (core₀, draws)
      (Proc.Returns fun _ v => v.2 = draws ∧ CountsOnly core₀ v.1) := by
    intro taskUids
    induction taskUids with
    | nil => exact Proc.Returns.pure ⟨rfl, .refl⟩
    | cons taskUid rest ih =>
      intro core₀
      rw [List.mapM_cons]
      refine Proc.Returns.bind (refreshTaskStatus_returns taskUid) fun _ v first => ?_
      obtain ⟨core₁, _⟩ := v
      obtain ⟨rfl, first⟩ := first
      refine Proc.Returns.bind ih fun _ v rest => ?_
      exact Proc.Returns.pure ⟨rest.1, first.trans rest.2⟩
  unfold recomputeChecklistStatus
  refine seenRead (Proc.Returns.bind (refreshed _) fun tasks v kept => ?_)
  obtain ⟨core₁, _⟩ := v
  obtain ⟨rfl, kept⟩ := kept
  refine seenRead (Proc.Returns.required fun checklist stored => seenClock fun now => seenWrite ?_)
  have uid := kept.checklists checklistUid
  rw [stored] at uid
  refine Proc.Returns.pure ⟨rfl, kept.trans ⟨rfl, rfl, fun _ => rfl, fun uid' => ?_⟩, uid.symm⟩
  rw [Dict.get_insert]
  split
  · rename_i here
    rw [here, stored]
    rfl
  · rfl

/-! ## Cells -/

/-- The task has one cell in the column, and this is its value. -/
def CellIs (cells : Dict String ChecklistCellRecord) (taskUid columnUid : String) (value : Option String) : Prop :=
  ∃ uid cell, cells.get uid = some cell ∧ cell.taskUid = taskUid ∧ cell.columnUid = columnUid ∧ cell.value = value ∧
    ∀ uid' cell', cells.get uid' = some cell' → cell'.taskUid = taskUid → cell'.columnUid = columnUid → uid' = uid

namespace CellIs

variable {cells : Dict String ChecklistCellRecord} {taskUid columnUid : String} {value : Option String}

theorem values (h : CellIs cells taskUid columnUid value) :
    (cells.values.filter fun cell => cell.taskUid == taskUid && cell.columnUid == columnUid).map ChecklistCellRecord.value = [value] := by
  obtain ⟨uid, cell, stored, row, column, rfl, only⟩ := h
  rw [Dict.filter_values_single stored (by simp [row, column])]
  · rfl
  · intro uid' cell' stored' looked
    obtain ⟨row', column'⟩ : cell'.taskUid = taskUid ∧ cell'.columnUid = columnUid := by simpa using looked
    exact only uid' cell' stored' row' column'

/-- The cell of a place that has one is found, under its uid. -/
theorem found {core : RchCore} (h : CellIs core.checklistCells taskUid columnUid value) (filed : CellsFiled core.checklistCells) :
    ∃ cell, findCell core taskUid columnUid = some cell ∧ core.checklistCells.get cell.cellUid = some cell ∧
      cell.taskUid = taskUid ∧ cell.columnUid = columnUid := by
  obtain ⟨uid, cell, stored, row, column, -, only⟩ := h
  have some_ : (findCell core taskUid columnUid).isSome := by
    refine List.find?_isSome.2 ⟨cell, Dict.mem_values.2 ⟨uid, stored⟩, ?_⟩
    simp [row, column]
  obtain ⟨cell', found⟩ := Option.isSome_iff_exists.1 some_
  obtain ⟨row', column'⟩ : cell'.taskUid = taskUid ∧ cell'.columnUid = columnUid := by simpa using List.find?_some found
  obtain ⟨uid', stored'⟩ := Dict.mem_values.1 (List.mem_of_find?_eq_some found)
  refine ⟨cell', found, ?_, row', column'⟩
  rw [filed uid' cell' stored']
  exact stored'

/-- A cell of another place is written, over one of another place or none. -/
theorem insert_other (h : CellIs cells taskUid columnUid value) {uid : String} {cell : ChecklistCellRecord}
    (apart : ¬(cell.taskUid = taskUid ∧ cell.columnUid = columnUid))
    (elsewhere : ∀ old, cells.get uid = some old → ¬(old.taskUid = taskUid ∧ old.columnUid = columnUid)) :
    CellIs (cells.insert uid cell) taskUid columnUid value := by
  obtain ⟨uid₀, cell₀, stored, row, column, held, only⟩ := h
  refine ⟨uid₀, cell₀, ?_, row, column, held, fun uid' cell' stored' row' column' => ?_⟩
  · rw [Dict.get_insert_ne, stored]
    rintro rfl
    exact elsewhere cell₀ stored ⟨row, column⟩
  · rw [Dict.get_insert] at stored'
    split at stored'
    · rw [← Option.some.inj stored'] at row' column'
      exact absurd ⟨row', column'⟩ apart
    · exact only uid' cell' stored' row' column'

/-- The cell of the place is written over. -/
theorem insert_same (h : CellIs cells taskUid columnUid value) {cell old : ChecklistCellRecord} {uid : String}
    (stored : cells.get uid = some old) (place : old.taskUid = taskUid ∧ old.columnUid = columnUid)
    (row : cell.taskUid = taskUid) (column : cell.columnUid = columnUid) {value' : Option String} (set : cell.value = value') :
    CellIs (cells.insert uid cell) taskUid columnUid value' := by
  obtain ⟨uid₀, cell₀, -, -, -, -, only⟩ := h
  refine ⟨uid, cell, Dict.get_insert_self _ _ _, row, column, set, fun uid' cell' stored' row' column' => ?_⟩
  rw [Dict.get_insert] at stored'
  split at stored'
  · assumption
  · rw [only uid' cell' stored' row' column', only uid old stored place.1 place.2]

end CellIs

/-- What changes of a core where only cells of the task in these columns change. -/
structure CellsSet (taskUid : String) (columnUids : List String) (core core' : RchCore) : Prop where
  columns : core'.checklistColumns = core.checklistColumns
  tasks : ∀ uid, (core'.checklistTasks.get uid).map ChecklistTaskRecord.row = (core.checklistTasks.get uid).map ChecklistTaskRecord.row
  checklists : ∀ uid, (core'.checklists.get uid).map ChecklistRecord.uid = (core.checklists.get uid).map ChecklistRecord.uid
  filed : CellsFiled core'.checklistCells
  keys : ∀ uid, core.checklistCells.get uid = none → core'.checklistCells.get uid = none
  placed : ∀ uid cell, core'.checklistCells.get uid = some cell →
    cell.taskUid = taskUid ∧ cell.columnUid ∈ columnUids ∨ core.checklistCells.get uid = some cell
  others : ∀ other columnUid value, other ≠ taskUid → CellIs core.checklistCells other columnUid value →
    CellIs core'.checklistCells other columnUid value

theorem CellsSet.refl {taskUid : String} {columnUids : List String} {core : RchCore} (filed : CellsFiled core.checklistCells) :
    CellsSet taskUid columnUids core core :=
  ⟨rfl, fun _ => rfl, fun _ => rfl, filed, fun _ absent => absent, fun _ _ stored => .inr stored, fun _ _ _ _ held => held⟩

theorem CellsSet.trans {taskUid : String} {columnUids : List String} {core core' core'' : RchCore}
    (first : CellsSet taskUid columnUids core core') (second : CellsSet taskUid columnUids core' core'') :
    CellsSet taskUid columnUids core core'' where
  columns := second.columns.trans first.columns
  tasks uid := (second.tasks uid).trans (first.tasks uid)
  checklists uid := (second.checklists uid).trans (first.checklists uid)
  filed := second.filed
  keys uid absent := second.keys uid (first.keys uid absent)
  placed uid cell stored := (second.placed uid cell stored).elim .inl (first.placed uid cell)
  others other columnUid value apart held := second.others other columnUid value apart (first.others other columnUid value apart held)

section

variable [Host] {core₀ : RchCore} {draws : Nat → Uuid}

/-- A cell that is there is set to the text of the arguments, and nothing is drawn. -/
theorem setChecklistTaskCell_returns (checklistUid taskUid : String) {columnUids : List String} {columnUid : String}
    (known : columnUid ∈ columnUids) {args : Value} {before : Option String}
    {text : String} (given : ((args.get "value").bind valueAsStr).bind noneIfEmpty = some text)
    (filed : CellsFiled core₀.checklistCells) (held : CellIs core₀.checklistCells taskUid columnUid before) :
    Proc.Spec drawsSeen (setChecklistTaskCell checklistUid taskUid columnUid args) (core₀, draws)
      (Proc.Returns fun _ v => v.2 = draws ∧ CellsSet taskUid columnUids core₀ v.1 ∧
        CellIs v.1.checklistCells taskUid columnUid (some text) ∧
        ∀ other value, other ≠ columnUid → CellIs core₀.checklistCells taskUid other value →
          CellIs v.1.checklistCells taskUid other value) := by
  obtain ⟨existing, found, stored, row, column⟩ := held.found filed
  unfold setChecklistTaskCell
  have read : Proc.Spec drawsSeen (checklistTaskOf checklistUid taskUid) (core₀, draws) (Proc.Returns fun _ v => v = (core₀, draws)) := by
    unfold checklistTaskOf
    exact seenRead (Proc.Returns.guard fun _ => seenRead (Proc.Returns.orThrow fun _ _ => rfl))
  refine Proc.Returns.bind read fun _ v same => ?_
  subst same
  refine seenRead (Proc.Returns.guard fun _ => seenClock fun now => seenRead ?_)
  rw [found]
  dsimp only [Option.map_some]
  refine seenNamed existing.cellUid (seenWrite ?_)
  rw [given]
  refine (recomputeChecklistStatus_returns checklistUid).mono fun r v h a returned => ?_
  obtain ⟨same, kept, -⟩ := h a returned
  have elsewhere : ∀ other columnUid', ¬(taskUid = other ∧ columnUid = columnUid') →
      ∀ old, core₀.checklistCells.get existing.cellUid = some old → ¬(old.taskUid = other ∧ old.columnUid = columnUid') := by
    intro other columnUid' apart old there
    rw [← Option.some.inj (stored.symm.trans there), row, column]
    exact apart
  refine ⟨same, ⟨kept.columns, kept.tasks, kept.checklists, ?_, fun uid absent => ?_, fun uid cell there => ?_, ?_⟩, ?_, ?_⟩
  · rw [kept.cells]
    exact filed.insert rfl
  · rw [kept.cells, Dict.get_insert_ne, absent]
    rintro rfl
    exact absurd (absent.symm.trans stored) nofun
  · rw [kept.cells, Dict.get_insert] at there
    split at there
    · rw [← Option.some.inj there]
      exact .inl ⟨rfl, known⟩
    · exact .inr there
  · intro other columnUid' value apart held'
    rw [kept.cells]
    exact held'.insert_other (fun here => apart here.1.symm) (elsewhere other columnUid' fun here => apart here.1.symm)
  · rw [kept.cells]
    exact held.insert_same stored ⟨row, column⟩ rfl rfl rfl
  · intro other value apart held'
    rw [kept.cells]
    exact held'.insert_other (fun here => apart here.2.symm) (elsewhere taskUid other fun here => apart here.2.symm)

/-! ## Rows -/

omit [Host] in
/-- The values of the cells of a row once its text for a header is in the column of the header,
where it is not empty. -/
def overwritten (row : List String) (values : String → Option String) (header : Nat × String) : String → Option String :=
  match (row[header.1]?).filter fun text => !text.isEmpty with
  | some text => Function.update values header.2 (some text)
  | none => values

omit [Host] in
/-- And once that is done for each header. -/
def written (row : List String) (headers : List (Nat × String)) (before : String → Option String) : String → Option String :=
  headers.foldl (overwritten row) before

omit [Host] in
theorem overwritten_other {row : List String} {values : String → Option String} {header : Nat × String} {columnUid : String}
    (other : columnUid ≠ header.2) : overwritten row values header columnUid = values columnUid := by
  unfold overwritten
  cases (row[header.1]?).filter fun text => !text.isEmpty with
  | some text => exact Function.update_of_ne other _ _
  | none => rfl

omit [Host] in
theorem overwritten_self {row : List String} {values : String → Option String} {header : Nat × String}
    (empty : values header.2 = none) :
    overwritten row values header header.2 = (row[header.1]?).filter fun text => !text.isEmpty := by
  unfold overwritten
  cases (row[header.1]?).filter fun text => !text.isEmpty with
  | some text => exact Function.update_self _ _ _
  | none => exact empty

omit [Host] in
theorem written_other {row : List String} {headers : List (Nat × String)} {columnUid : String}
    (other : columnUid ∉ headers.map Prod.snd) (before : String → Option String) :
    written row headers before columnUid = before columnUid := by
  induction headers generalizing before with
  | nil => rfl
  | cons header rest ih =>
    rw [List.map_cons, List.mem_cons, not_or] at other
    exact (ih other.2 _).trans (overwritten_other other.1)

omit [Host] in
/-- A column of one header gets the text of the header, and none for an empty one. -/
theorem written_header {row : List String} {headers : List (Nat × String)} (apart : (headers.map Prod.snd).Nodup)
    {header : Nat × String} (mem : header ∈ headers) (before : String → Option String) (empty : before header.2 = none) :
    written row headers before header.2 = (row[header.1]?).filter fun text => !text.isEmpty := by
  induction headers generalizing before with
  | nil => exact nomatch mem
  | cons first rest ih =>
    obtain ⟨alone, apart⟩ := List.nodup_cons.1 apart
    rcases List.mem_cons.1 mem with rfl | mem
    · exact (written_other alone _).trans (overwritten_self empty)
    · refine ih apart mem _ ?_
      have other : header.2 ≠ first.2 := fun same => alone (same ▸ List.mem_map_of_mem mem)
      exact (overwritten_other other).trans empty

/-- The texts of a row are written over the cells that are there. -/
theorem importCsvCells_returns (command : MissionCommandEnvelope) (checklistUid taskUid : String) {row : List String}
    (trimmed : ∀ text ∈ row, trim text = text) {columnUids : List String} {headers : List (Nat × String)}
    (known : ∀ header ∈ headers, header.2 ∈ columnUids) :
    ∀ {core₀ : RchCore} {draws : Nat → Uuid} {before : String → Option String}, CellsFiled core₀.checklistCells →
      (∀ uid ∈ columnUids, CellIs core₀.checklistCells taskUid uid (before uid)) →
      Proc.Spec drawsSeen (headers.forM (importCsvCell command checklistUid taskUid row)) (core₀, draws)
        (Proc.Returns fun _ v => v.2 = draws ∧ CellsSet taskUid columnUids core₀ v.1 ∧
          ∀ uid ∈ columnUids, CellIs v.1.checklistCells taskUid uid (written row headers before uid)) := by
  induction headers with
  | nil => exact fun filed held => Proc.Returns.pure ⟨rfl, .refl filed, held⟩
  | cons header rest ih =>
    intro core₀ draws before filed held
    obtain ⟨here, known⟩ := List.forall_mem_cons.1 known
    have first : Proc.Spec drawsSeen (importCsvCell command checklistUid taskUid row header) (core₀, draws)
        (Proc.Returns fun _ v => v.2 = draws ∧ CellsSet taskUid columnUids core₀ v.1 ∧
          ∀ uid ∈ columnUids, CellIs v.1.checklistCells taskUid uid (written row [header] before uid)) := by
      rw [written, List.foldl_cons, List.foldl_nil]
      unfold importCsvCell overwritten
      cases looked : (row[header.1]?).filter fun text => !text.isEmpty with
      | none => exact Proc.Returns.pure ⟨rfl, .refl filed, held⟩
      | some text =>
        obtain ⟨there, some_⟩ := Option.filter_eq_some_iff.1 looked
        have same : trim text = text := trimmed text (List.mem_of_getElem? there)
        have nonempty : text.isEmpty = false := by simpa using some_
        have given : ∀ identity : String, (((Value.object [("value", toValue text),
            ("updated_by_team_member_rns_identity", toValue identity)]).get "value").bind valueAsStr).bind noneIfEmpty = some text := by
          simp [Value.get, Value.asObject, toValue, valueAsStr, noneIfEmpty, same, nonempty]
        dsimp only
        refine Proc.Returns.bind (setChecklistTaskCell_returns checklistUid taskUid here (given _) filed (held _ here)) ?_
        rintro _ ⟨core₁, _⟩ ⟨rfl, set, written, others⟩
        refine Proc.Returns.pure ⟨rfl, set, fun uid mem => ?_⟩
        by_cases mine : uid = header.2
        · rw [mine, Function.update_self]
          exact written
        · rw [Function.update_of_ne mine]
          exact others uid _ mine (held uid mem)
    refine Proc.Returns.bind first ?_
    rintro _ ⟨core₁, _⟩ ⟨rfl, set, written⟩
    refine (ih known set.filed written).mono fun r v h a returned => ?_
    obtain ⟨same, set', written'⟩ := h a returned
    exact ⟨same, set.trans set', written'⟩

omit [Host] in
theorem parseI64_within {text : String} {n : Int} (parsed : parseI64 text = some n) : inI64 n = true :=
  (Option.filter_eq_some_iff.1 parsed).2

omit [Host] in
theorem parseDueMinutes_within {text : String} {minutes : Int} (parsed : parseDueMinutes text = some minutes) :
    inI64 minutes = true := by
  simp only [parseDueMinutes, Option.ite_none_left_eq_some] at parsed
  exact parseI64_within parsed.2

omit [Host] in
/-- A number in range is read as it is. -/
theorem valueAsI64_int {n : Int} (within : inI64 n = true) : valueAsI64 (.number (.int n)) = some n := by
  unfold valueAsI64 Value.asI64
  dsimp only
  rw [if_pos within, Option.some_or]

/-- The minutes of a row, by its text for the due column or by its number. -/
def csvMinutes (row : List String) (dueIndex : Option Nat) (rowNumber : Nat) : Int :=
  ((dueIndex.bind fun index => row[index]?).bind parseDueMinutes).getD (i64 ((rowNumber : Int) * 30))

theorem csvTaskArgs_times {row : List String} {dueIndex : Option Nat} {rowNumber : Nat} {checklist : ChecklistRecord}
    {times : TaskRowTimes} (read : taskRowTimesFromArgs checklist (csvTaskArgs row dueIndex rowNumber) = .ok times) :
    times.number = rowNumber ∧ times.dueRelativeMinutes = some (csvMinutes row dueIndex rowNumber) := by
  obtain ⟨number, given, read⟩ := bind_eq_ok.1 read
  obtain ⟨minutes, timed, read⟩ := bind_eq_ok.1 read
  obtain ⟨due, -, read⟩ := bind_eq_ok.1 read
  have numbered := csvTaskArgs_number given
  rw [← Except.ok.inj read]
  refine ⟨numbered, ?_⟩
  have undated : (csvTaskArgs row dueIndex rowNumber).containsKey "due_dtg" = false := by
    simp [csvTaskArgs, Value.containsKey, Value.get, Value.asObject, List.lookup_cons]
  have field : (csvTaskArgs row dueIndex rowNumber).get "due_relative_minutes" =
      some (toValue ((dueIndex.bind fun index => row[index]?).bind parseDueMinutes)) := by
    simp [csvTaskArgs, Value.get, Value.asObject, List.lookup_cons]
  dsimp only
  rw [undated, numbered, if_neg Bool.false_ne_true, csvMinutes]
  unfold optionalI64 optionalNumber at timed
  rw [field] at timed
  cases parsed : (dueIndex.bind fun index => row[index]?).bind parseDueMinutes with
  | none =>
    rw [parsed] at timed
    rw [← Except.ok.inj timed, Option.none_or, Option.getD_none]
  | some value =>
    obtain ⟨text, -, parse⟩ := Option.bind_eq_some_iff.1 parsed
    have within := parseDueMinutes_within parse
    rw [parsed] at timed
    simp only [toValue, Option.elim_some, Value.isNull, Bool.false_eq_true, if_false, valueAsI64_int within] at timed
    rw [← Except.ok.inj timed, Option.some_or, Option.getD_some]

omit [Host] in
theorem CellsPut.kept {taskUid : String} {now : Int} {columns : List ChecklistColumnRecord}
    {cells cells' : Dict String ChecklistCellRecord} (put : CellsPut True taskUid now columns cells cells') {other columnUid : String}
    {value : Option String} (apart : other ≠ taskUid ∨ columnUid ∉ columns.map ChecklistColumnRecord.columnUid)
    (held : CellIs cells other columnUid value) : CellIs cells' other columnUid value := by
  induction put with
  | nil => exact held
  | cons uid absent tail ih =>
    refine ih (apart.imp_right fun out mem => out (List.mem_cons_of_mem _ mem)) (held.insert_other ?_ fun old there => ?_)
    · rintro ⟨rfl, rfl⟩
      exact apart.elim (fun other => other rfl) fun out => out List.mem_cons_self
    · exact absurd ((absent trivial).symm.trans there) nofun

omit [Host] in
/-- A task without cells has an empty one in each column once they are put in. -/
theorem CellsPut.empty {taskUid : String} {now : Int} {columns : List ChecklistColumnRecord}
    {cells cells' : Dict String ChecklistCellRecord} (put : CellsPut True taskUid now columns cells cells')
    (apart : (columns.map ChecklistColumnRecord.columnUid).Nodup)
    (none_ : ∀ uid cell, cells.get uid = some cell → cell.taskUid = taskUid →
      cell.columnUid ∉ columns.map ChecklistColumnRecord.columnUid) :
    ∀ column ∈ columns, CellIs cells' taskUid column.columnUid none := by
  induction put with
  | nil => exact fun _ mem => nomatch mem
  | cons uid absent tail ih =>
    rename_i column rest cells _
    obtain ⟨alone, apart⟩ := List.nodup_cons.1 apart
    rw [List.forall_mem_cons]
    constructor
    · refine tail.kept (.inr alone) ⟨uid, _, Dict.get_insert_self _ _ _, rfl, rfl, rfl, fun uid' cell' there row here => ?_⟩
      rw [Dict.get_insert] at there
      split at there
      · assumption
      · exact absurd (here ▸ List.mem_cons_self) (none_ uid' cell' there row)
    · refine ih apart fun uid' cell' there row mem => ?_
      rw [Dict.get_insert] at there
      split at there
      · rw [← Option.some.inj there] at mem
        exact alone mem
      · exact none_ uid' cell' there row (List.mem_cons_of_mem _ mem)

omit [Host] in
theorem CellsPut.source_get {taskUid : String} {now : Int} {columns : List ChecklistColumnRecord}
    {cells cells' : Dict String ChecklistCellRecord} (put : CellsPut True taskUid now columns cells cells') {uid : String}
    {cell : ChecklistCellRecord} (stored : cells'.get uid = some cell) :
    cells.get uid = some cell ∨ cell.taskUid = taskUid ∧ cell.columnUid ∈ columns.map ChecklistColumnRecord.columnUid := by
  induction put with
  | nil => exact .inl stored
  | cons new absent tail ih =>
    refine (ih stored).elim (fun before => ?_) fun ⟨row, mem⟩ => .inr ⟨row, List.mem_cons_of_mem _ mem⟩
    rw [Dict.get_insert] at before
    split at before
    · rw [← Option.some.inj before]
      exact .inr ⟨rfl, List.mem_cons_self⟩
    · exact .inl before

/-- The task that a row of the table becomes. -/
structure TaskOfRow (checklistUid : String) (row : List String) (dueIndex : Option Nat) (rowNumber : Nat) (task : ChecklistTaskRecord) :
    Prop where
  owner : task.checklistUid = checklistUid
  number : task.number = rowNumber
  minutes : task.dueRelativeMinutes = some (csvMinutes row dueIndex rowNumber)
  legacy : task.legacyValue = ((row.zipIdx.find? fun entry => !entry.1.isEmpty && dueIndex != some entry.2).map Prod.fst)

omit [Host] in
theorem TaskOfRow.of_row {checklistUid : String} {row : List String} {dueIndex : Option Nat} {rowNumber : Nat}
    {task task' : ChecklistTaskRecord} (h : TaskOfRow checklistUid row dueIndex rowNumber task) (same : task'.row = task.row) :
    TaskOfRow checklistUid row dueIndex rowNumber task' where
  owner := (congrArg ChecklistTaskRecord.checklistUid same).trans h.owner
  number := (congrArg ChecklistTaskRecord.number same).trans h.number
  minutes := (congrArg ChecklistTaskRecord.dueRelativeMinutes same).trans h.minutes
  legacy := (congrArg ChecklistTaskRecord.legacyValue same).trans h.legacy

/-- The core behind a row that is added for the table. -/
structure RowAdded (checklistUid : String) (columns : List ChecklistColumnRecord) (row : List String) (dueIndex : Option Nat)
    (rowNumber : Nat) (taskUid : String) (core core' : RchCore) : Prop where
  sameColumns : core'.checklistColumns = core.checklistColumns
  checklists : ∀ uid, (core'.checklists.get uid).map ChecklistRecord.uid = (core.checklists.get uid).map ChecklistRecord.uid
  absent : core.checklistTasks.get taskUid = none
  task : ∃ task, core'.checklistTasks.get taskUid = some task ∧ task.taskUid = taskUid ∧ TaskOfRow checklistUid row dueIndex rowNumber task
  others : ∀ uid, uid ≠ taskUid →
    (core'.checklistTasks.get uid).map ChecklistTaskRecord.row = (core.checklistTasks.get uid).map ChecklistTaskRecord.row
  cells : ∃ now, CellsPut True taskUid now columns core.checklistCells core'.checklistCells

omit [Host] in
/-- What is recounted behind a row does not touch it. -/
theorem RowAdded.recounted {checklistUid : String} {columns : List ChecklistColumnRecord} {row : List String} {dueIndex : Option Nat}
    {rowNumber : Nat} {taskUid : String} {core core' core'' : RchCore}
    (h : RowAdded checklistUid columns row dueIndex rowNumber taskUid core core') (kept : CountsOnly core' core'') :
    RowAdded checklistUid columns row dueIndex rowNumber taskUid core core'' := by
  refine ⟨kept.columns.trans h.sameColumns, fun uid => (kept.checklists uid).trans (h.checklists uid), h.absent, ?_,
    fun uid other => (kept.tasks uid).trans (h.others uid other), kept.cells ▸ h.cells⟩
  obtain ⟨task, stored, key, made⟩ := h.task
  obtain ⟨new, there, same⟩ := ChecklistTaskRecord.row_kept (kept.tasks taskUid) stored
  exact ⟨new, there, (congrArg ChecklistTaskRecord.taskUid same).trans key, made.of_row same⟩

/-- The arguments of a row name no task, and the text that is not for a column. -/
theorem csvTaskArgs_texts {row : List String} (trimmed : ∀ text ∈ row, trim text = text) (dueIndex : Option Nat) (rowNumber : Nat) :
    optionalText (csvTaskArgs row dueIndex rowNumber) ["task_uid"] = none ∧
      (optionalTextOrEmpty (csvTaskArgs row dueIndex rowNumber) ["legacy_value"]).bind noneIfEmpty =
        (row.zipIdx.find? fun entry => !entry.1.isEmpty && dueIndex != some entry.2).map Prod.fst := by
  have fields : (csvTaskArgs row dueIndex rowNumber).get "task_uid" = none ∧
      (csvTaskArgs row dueIndex rowNumber).get "legacy_value" =
        some (toValue ((row.zipIdx.find? fun entry => !entry.1.isEmpty && dueIndex != some entry.2).map Prod.fst)) := by
    constructor <;> simp [csvTaskArgs, Value.get, Value.asObject, List.lookup_cons]
  obtain ⟨unnamed, legacy⟩ := fields
  have object : (csvTaskArgs row dueIndex rowNumber).asObject.isSome = true := rfl
  obtain ⟨fields, object⟩ := Option.isSome_iff_exists.1 object
  simp only [optionalText, optionalTextOrEmpty, findText, object, Option.bind_some, List.findSome?_cons, List.findSome?_nil, unnamed, legacy,
    Option.bind_none, Option.map_none, Option.filter_none, true_and]
  cases found : row.zipIdx.find? fun entry => !entry.1.isEmpty && dueIndex != some entry.2 with
  | none => rfl
  | some entry =>
    obtain ⟨text, index⟩ := entry
    have some_ := List.find?_some found
    have nonempty : text.isEmpty = false := by
      rw [Bool.and_eq_true, Bool.not_eq_true'] at some_
      exact some_.1
    have mem : text ∈ row := List.mem_of_getElem? (List.mem_zipIdx_iff_getElem?.1 (List.mem_of_find?_eq_some found))
    simp [toValue, valueAsStr, noneIfEmpty, trimmed text mem, nonempty]

/-- A row is added under the first draw, its cells under the next. -/
theorem addCsvRow_returns (checklistUid : String) {row : List String} (trimmed : ∀ text ∈ row, trim text = text)
    (dueIndex : Option Nat) (rowNumber rest : Nat) {core₀ : RchCore} {draws : Nat → Uuid} {columns : List ChecklistColumnRecord}
    (listed : core₀.columnsForChecklist checklistUid = columns) (fresh : FreshUids (1 + columns.length + rest) core₀ draws) :
    Proc.Spec drawsSeen (addChecklistTaskRow checklistUid (csvTaskArgs row dueIndex rowNumber)) (core₀, draws)
      (Proc.Returns fun checklist v => RowAdded checklistUid columns row dueIndex rowNumber (draws 0).simple core₀ v.1 ∧
        (core₀.checklists.get checklistUid).map ChecklistRecord.uid = some checklist.uid ∧ FreshUids rest v.1 v.2) := by
  obtain ⟨unnamed, legacy⟩ := csvTaskArgs_texts trimmed dueIndex rowNumber
  unfold addChecklistTaskRow
  refine seenRead (Proc.Returns.required fun checklist there => Proc.Returns.checked fun times read => seenClock fun now => ?_)
  obtain ⟨number, minutes⟩ := csvTaskArgs_times read
  rw [unnamed]
  have added : Proc.Spec drawsSeen (putChecklistTask checklistUid (draws 0).simple times (csvTaskArgs row dueIndex rowNumber) now)
      (core₀, drawsFrom 1 draws) (Proc.Returns fun _ v => RowAdded checklistUid columns row dueIndex rowNumber (draws 0).simple core₀ v.1 ∧
        FreshUids rest v.1 v.2) := by
    have absent := fresh.tasks 0 (by omega)
    unfold putChecklistTask
    refine seenRead ?_
    rw [absent]
    unfold insertChecklistTask
    dsimp only
    refine derivedThen fun status late _ => seenWrite (seenRead ?_)
    have listed' : ∀ table, ({ core₀ with checklistTasks := table } : RchCore).columnsForChecklist checklistUid = columns := fun _ => listed
    rw [listed']
    refine (insertEmptyCells_puts True).mono ?_
    rintro r v ⟨-, cells, rfl, put⟩ - -
    have next : ∀ task, FreshUids (columns.length + rest)
        { core₀ with checklistTasks := core₀.checklistTasks.insert (draws 0).simple task } (drawsFrom 1 draws) :=
      fun task => FreshUids.later (fresh.mono (by omega)) .refl .refl .refl (KeysDrawn.insert task)
    obtain ⟨put, drawn⟩ := put fun _ => ((next _).mono (by omega)).toFreshDraws
    refine ⟨⟨rfl, fun _ => rfl, absent, ⟨_, Dict.get_insert_self _ _ _, rfl, rfl, number, minutes, legacy⟩, fun uid other => ?_, now, put⟩, ?_⟩
    · rw [Dict.get_insert_ne other]
    · exact (next _).later .refl (drawn trivial) .refl .refl
  refine seenDraw (Proc.Returns.bind added ?_)
  rintro _ ⟨core₁, draws₁⟩ ⟨row, fresh⟩
  refine (recomputeChecklistStatus_returns checklistUid).mono fun r v h checklist returned => ?_
  obtain ⟨same, kept, uid⟩ := h checklist returned
  refine ⟨row.recounted kept, (row.checklists checklistUid).symm.trans uid, ?_⟩
  rw [same]
  exact kept.fresh fresh

/-! ## Tables -/

/-- The texts of a row, one for each of `width` headers. -/
def csvRow (width : Nat) (row : List String) : List String := (List.range width).map fun index => (row[index]?).getD ""

omit [Host] in
theorem csvRow_trimmed {width : Nat} {row : List String} (trimmed : ∀ text ∈ row, trim text = text) :
    ∀ text ∈ csvRow width row, trim text = text := by
  intro text mem
  obtain ⟨index, -, rfl⟩ := List.mem_map.1 mem
  cases there : row[index]? with
  | none => rfl
  | some text => exact trimmed text (List.mem_of_getElem? there)

/-- Where a table goes: the checklist with its columns, and the columns of the headers that are
not the due one. -/
structure CsvTarget where
  checklistUid : String
  columns : List ChecklistColumnRecord
  width : Nat
  dueIndex : Option Nat
  headers : List (Nat × String)

/-- The columns are apart, and those of the headers are among them. -/
structure CsvTarget.Sound (target : CsvTarget) : Prop where
  apart : (target.columns.map ChecklistColumnRecord.columnUid).Nodup
  known : ∀ header ∈ target.headers, header.2 ∈ target.columns.map ChecklistColumnRecord.columnUid

/-- The values of the cells of a row. -/
def CsvTarget.values (target : CsvTarget) (row : List String) : String → Option String :=
  written (csvRow target.width row) target.headers fun _ => none

/-- A row of the table is a task, and its texts are in the columns of their headers. -/
structure RowIn (target : CsvTarget) (core : RchCore) (entry : List String × Nat) (taskUid : String) : Prop where
  task : ∃ task, core.checklistTasks.get taskUid = some task ∧ task.taskUid = taskUid ∧
    TaskOfRow target.checklistUid (csvRow target.width entry.1) target.dueIndex (entry.2 + 1) task
  cells : ∀ uid ∈ target.columns.map ChecklistColumnRecord.columnUid,
    CellIs core.checklistCells taskUid uid (target.values entry.1 uid)

/-- The rows of the table that are in, and no other tasks of the checklist. -/
structure Imported (target : CsvTarget) (done : List (List String × Nat)) (core : RchCore) : Prop where
  columns : core.columnsForChecklist target.checklistUid = target.columns
  checklist : (core.checklists.get target.checklistUid).map ChecklistRecord.uid = some target.checklistUid
  keys : ∀ uid task, core.checklistTasks.get uid = some task → task.taskUid = uid
  filed : CellsFiled core.checklistCells
  placed : ∀ uid cell, core.checklistCells.get uid = some cell → ∃ task, core.checklistTasks.get cell.taskUid = some task ∧
    (task.checklistUid = target.checklistUid → cell.columnUid ∈ target.columns.map ChecklistColumnRecord.columnUid)
  rows : ∃ taskUids, List.Forall₂ (RowIn target core) done taskUids ∧
    ∀ uid task, core.checklistTasks.get uid = some task → task.checklistUid = target.checklistUid → uid ∈ taskUids

omit [Host] in
theorem CellsSet.fresh {taskUid : String} {columnUids : List String} {core core' : RchCore} {k : Nat}
    (set : CellsSet taskUid columnUids core core')
    (fresh : FreshUids k core draws) : FreshUids k core' draws := by
  refine ⟨⟨fresh.apart, set.columns ▸ fresh.columns, fun n bound => set.keys _ (fresh.cells n bound)⟩, fun n bound => ?_, fun n bound => ?_⟩
  · have none := set.checklists (draws n).simple
    rw [fresh.checklists n bound] at none
    exact Option.map_eq_none_iff.1 none
  · have none := set.tasks (draws n).simple
    rw [fresh.tasks n bound] at none
    exact Option.map_eq_none_iff.1 none

omit [Host] in
/-- Each of the tasks is one of the rows. -/
theorem RowIn.of_mem {target : CsvTarget} {core : RchCore} {done : List (List String × Nat)} {taskUids : List String} {taskUid : String}
    (rows : List.Forall₂ (RowIn target core) done taskUids) (mem : taskUid ∈ taskUids) : ∃ entry ∈ done, RowIn target core entry taskUid := by
  induction rows with
  | nil => exact nomatch mem
  | cons first _ ih =>
    rcases List.mem_cons.1 mem with rfl | mem
    · exact ⟨_, List.mem_cons_self, first⟩
    · obtain ⟨entry, there, row⟩ := ih mem
      exact ⟨entry, List.mem_cons_of_mem _ there, row⟩

namespace Imported

variable {target : CsvTarget} {done : List (List String × Nat)} {core core' core'' : RchCore} {entry : List String × Nat}
  {taskUid : String}

omit [Host] in
/-- The task of a number that is not yet in is the one that is added. -/
theorem found (h : Imported target done core) (next : entry.2 ∉ done.map Prod.snd)
    (added : RowAdded target.checklistUid target.columns (csvRow target.width entry.1) target.dueIndex (entry.2 + 1) taskUid core core')
    {task : ChecklistTaskRecord}
    (looked : (core'.checklistTasks.values.find? fun task =>
      task.checklistUid == target.checklistUid && task.number == ((entry.2 + 1 : Nat) : Int)) = some task) : task.taskUid = taskUid := by
  obtain ⟨owner, number⟩ : task.checklistUid = target.checklistUid ∧ task.number = ((entry.2 + 1 : Nat) : Int) := by
    simpa using List.find?_some looked
  obtain ⟨uid, stored⟩ := Dict.mem_values.1 (List.mem_of_find?_eq_some looked)
  by_cases new : uid = taskUid
  · obtain ⟨made, there, key, -⟩ := added.task
    rw [new, there] at stored
    rw [← Option.some.inj stored, key]
  · obtain ⟨taskUids, rows, all⟩ := h.rows
    obtain ⟨old, there, row⟩ := ChecklistTaskRecord.row_kept (added.others uid new).symm stored
    have mem := all uid old there ((congrArg ChecklistTaskRecord.checklistUid row).trans owner)
    obtain ⟨before, earlier, ⟨task', there', -, made⟩, -⟩ := RowIn.of_mem rows mem
    have number' : old.number = ((before.2 + 1 : Nat) : Int) := by
      rw [Option.some.inj (there.symm.trans there'), made.number]
    have numbers : ((before.2 + 1 : Nat) : Int) = ((entry.2 + 1 : Nat) : Int) :=
      number'.symm.trans ((congrArg ChecklistTaskRecord.number row).trans number)
    have equal : before.2 = entry.2 := by omega
    exact absurd (equal ▸ List.mem_map_of_mem earlier) next

omit [Host] in
/-- The row that is added is in once its texts are set. -/
theorem next (h : Imported target done core)
    (added : RowAdded target.checklistUid target.columns (csvRow target.width entry.1) target.dueIndex (entry.2 + 1) taskUid core core')
    (set : CellsSet taskUid (target.columns.map ChecklistColumnRecord.columnUid) core' core'')
    (cells : ∀ uid ∈ target.columns.map ChecklistColumnRecord.columnUid, CellIs core''.checklistCells taskUid uid (target.values entry.1 uid)) :
    Imported target (done ++ [entry]) core'' := by
  obtain ⟨now, put⟩ := added.cells
  obtain ⟨taskUids, rows, all⟩ := h.rows
  -- the tasks but for their statuses, from end to end
  have others : ∀ uid, uid ≠ taskUid →
      (core''.checklistTasks.get uid).map ChecklistTaskRecord.row = (core.checklistTasks.get uid).map ChecklistTaskRecord.row :=
    fun uid other => (set.tasks uid).trans (added.others uid other)
  have kept : ∀ before uid, RowIn target core before uid → RowIn target core'' before uid := by
    rintro before uid ⟨⟨task, stored, key, made⟩, held⟩
    have other : uid ≠ taskUid := by
      rintro rfl
      exact absurd (added.absent.symm.trans stored) nofun
    refine ⟨?_, fun columnUid mem => ?_⟩
    · obtain ⟨new, there, row⟩ := ChecklistTaskRecord.row_kept (others uid other) stored
      exact ⟨new, there, (congrArg ChecklistTaskRecord.taskUid row).trans key, made.of_row row⟩
    · exact set.others uid columnUid _ other (put.kept (.inl other) (held columnUid mem))
  have new : RowIn target core'' entry taskUid := by
    refine ⟨?_, cells⟩
    obtain ⟨task, stored, key, made⟩ := added.task
    obtain ⟨new, there, row⟩ := ChecklistTaskRecord.row_kept (set.tasks taskUid) stored
    exact ⟨new, there, (congrArg ChecklistTaskRecord.taskUid row).trans key, made.of_row row⟩
  refine ⟨?_, ?_, fun uid task stored => ?_, set.filed, fun uid cell stored => ?_, taskUids ++ [taskUid], ?_, fun uid task stored owner => ?_⟩
  · rw [← h.columns, RchCore.columnsForChecklist, set.columns, added.sameColumns]
    rfl
  · rw [set.checklists, added.checklists, h.checklist]
  · by_cases mine : uid = taskUid
    · obtain ⟨⟨made, there, key, -⟩, -⟩ := new
      rw [mine, there] at stored
      rw [← Option.some.inj stored, key, mine]
    · obtain ⟨old, there, row⟩ := ChecklistTaskRecord.row_kept (others uid mine).symm stored
      exact (congrArg ChecklistTaskRecord.taskUid row).symm.trans (h.keys uid old there)
  · obtain ⟨⟨made, there, -⟩, -⟩ := new
    rcases set.placed uid cell stored with ⟨mine, mem⟩ | before
    · exact ⟨made, mine ▸ there, fun _ => mem⟩
    · rcases put.source_get before with before | ⟨mine, mem⟩
      · obtain ⟨task, stored', column⟩ := h.placed uid cell before
        have other : cell.taskUid ≠ taskUid := by
          intro mine
          rw [mine] at stored'
          exact absurd (added.absent.symm.trans stored') nofun
        obtain ⟨kept, there, row⟩ := ChecklistTaskRecord.row_kept (others cell.taskUid other) stored'
        exact ⟨kept, there, fun owner => column ((congrArg ChecklistTaskRecord.checklistUid row).symm.trans owner)⟩
      · exact ⟨made, mine ▸ there, fun _ => mem⟩
  · exact List.rel_append (rows.imp kept) (.cons new .nil)
  · by_cases mine : uid = taskUid
    · exact List.mem_append_right _ (mine ▸ List.mem_singleton_self _)
    · obtain ⟨old, there, row⟩ := ChecklistTaskRecord.row_kept (others uid mine).symm stored
      exact List.mem_append_left _ (all uid old there ((congrArg ChecklistTaskRecord.checklistUid row).trans owner))

end Imported

/-- One row of the table. -/
theorem importCsvRow_returns (command : MissionCommandEnvelope) {target : CsvTarget} (sound : target.Sound)
    {done : List (List String × Nat)} {entry : List String × Nat} (trimmed : ∀ text ∈ entry.1, trim text = text)
    (next : entry.2 ∉ done.map Prod.snd) (rest : Nat) {core₀ : RchCore} {draws : Nat → Uuid} (imported : Imported target done core₀)
    (fresh : FreshUids (1 + target.columns.length + rest) core₀ draws) :
    Proc.Spec drawsSeen (importCsvRow command target.checklistUid target.width target.dueIndex target.headers entry) (core₀, draws)
      (Proc.Returns fun _ v => Imported target (done ++ [entry]) v.1 ∧ FreshUids rest v.1 v.2) := by
  have trimmed : ∀ text ∈ csvRow target.width entry.1, trim text = text := csvRow_trimmed trimmed
  unfold importCsvRow
  refine Proc.Returns.bind (addCsvRow_returns target.checklistUid trimmed target.dueIndex (entry.2 + 1) rest imported.columns fresh) ?_
  rintro updated ⟨core₁, draws₁⟩ ⟨added, uid, fresh⟩
  have same : updated.uid = target.checklistUid := Option.some.inj (uid.symm.trans imported.checklist)
  refine seenRead (Proc.Returns.required fun task looked => ?_)
  rw [same] at looked
  rw [imported.found next added looked]
  -- the new task has no cells but the empty ones
  obtain ⟨now, put⟩ := added.cells
  have empty := put.empty sound.apart fun uid cell stored row => by
    obtain ⟨task, there, -⟩ := imported.placed uid cell stored
    rw [row, added.absent] at there
    exact nomatch there
  have held : ∀ uid ∈ target.columns.map ChecklistColumnRecord.columnUid, CellIs core₁.checklistCells (draws 0).simple uid none := by
    intro uid mem
    obtain ⟨column, there, rfl⟩ := List.mem_map.1 mem
    exact empty column there
  refine (importCsvCells_returns command target.checklistUid (draws 0).simple trimmed sound.known (put.filed imported.filed) held).mono ?_
  intro r v h value returned
  obtain ⟨same, set, written⟩ := h value returned
  refine ⟨imported.next added set written, ?_⟩
  rw [same]
  exact set.fresh fresh

/-- The rows before those to come are in, and the draws are fresh for those. -/
def ImportedTo (target : CsvTarget) (taskRows : List (List String)) (rest : List (List String × Nat)) (v : RchCore × (Nat → Uuid)) : Prop :=
  ∃ done, done ++ rest = taskRows.zipIdx ∧ Imported target done v.1 ∧
    FreshUids (rest.length * (1 + target.columns.length)) v.1 v.2

/-- The rows of the table, one after the other. -/
theorem importCsvRows_returns (command : MissionCommandEnvelope) {target : CsvTarget} (sound : target.Sound)
    {taskRows : List (List String)} (trimmed : ∀ row ∈ taskRows, ∀ text ∈ row, trim text = text) {core₀ : RchCore} {draws : Nat → Uuid}
    (imported : Imported target [] core₀) (fresh : FreshUids (taskRows.length * (1 + target.columns.length)) core₀ draws) :
    Proc.Spec drawsSeen (taskRows.zipIdx.forM (importCsvRow command target.checklistUid target.width target.dueIndex target.headers))
      (core₀, draws) (Proc.Returns fun _ v => Imported target taskRows.zipIdx v.1) := by
  have start : ImportedTo target taskRows taskRows.zipIdx (core₀, draws) :=
    ⟨[], rfl, imported, by rwa [List.length_zipIdx]⟩
  have looped : Proc.Spec drawsSeen
      (taskRows.zipIdx.forM (importCsvRow command target.checklistUid target.width target.dueIndex target.headers))
      (core₀, draws) (Proc.Returns fun _ => ImportedTo target taskRows []) := by
    refine Proc.Returns.forM start ?_
    rintro entry rest ⟨core₁, draws₁⟩ ⟨done, all, imported, fresh⟩
    have mem : entry ∈ taskRows.zipIdx := all ▸ List.mem_append_right _ List.mem_cons_self
    have next : entry.2 ∉ done.map Prod.snd := by
      have numbers : (taskRows.zipIdx.map Prod.snd).Nodup := by
        rw [List.zipIdx_map_snd]
        exact List.nodup_range'
      rw [← all, List.map_append, List.map_cons] at numbers
      exact fun early => (List.nodup_append.1 numbers).2.2 _ early _ List.mem_cons_self rfl
    rw [List.length_cons, Nat.succ_mul, Nat.add_comm] at fresh
    refine (importCsvRow_returns command sound (trimmed _ ?_) next _ imported fresh).mono fun r v h value returned => ?_
    · exact List.mem_of_getElem? (List.mem_zipIdx_iff_getElem?.1 mem)
    · obtain ⟨imported, fresh⟩ := h value returned
      exact ⟨done ++ [entry], by rw [List.append_assoc, ← all]; rfl, imported, fresh⟩
  refine looped.mono fun r v h value returned => ?_
  obtain ⟨done, all, imported, -⟩ := h value returned
  rw [List.append_nil] at all
  exact all ▸ imported

/-! ## The checklist of a table -/

/-- A checklist that is new, with the columns that it is given. -/
structure ChecklistCreated (checklistUid : String) (columns : List Value) (core core' : RchCore) : Prop where
  columns : ∃ now, ColumnsPut True ((ColumnOwner.checklist checklistUid).column now) 0 columns core.checklistColumns core'.checklistColumns
  cells : core'.checklistCells = core.checklistCells
  tasks : ∀ uid, (core'.checklistTasks.get uid).map ChecklistTaskRecord.row = (core.checklistTasks.get uid).map ChecklistTaskRecord.row
  checklist : (core'.checklists.get checklistUid).map ChecklistRecord.uid = some checklistUid

theorem csvCreateCommand_unnamed (command : MissionCommandEnvelope) (filename : String) (columns : List Value) :
    optionalText (csvCreateCommand command filename columns).args ["checklist_uid", "uid"] = none := by
  have fields : (csvCreateCommand command filename columns).args.get "checklist_uid" = none ∧
      (csvCreateCommand command filename columns).args.get "uid" = none := by
    constructor <;> simp [csvCreateCommand, Value.get, Value.asObject, List.lookup_cons]
  unfold optionalText optionalTextOrEmpty findText
  cases (csvCreateCommand command filename columns).args.asObject with
  | none => rfl
  | some object =>
    simp only [Option.bind_some, List.findSome?_cons, List.findSome?_nil, fields.1, fields.2, Option.bind_none, Option.map_none,
      Option.filter_none]

theorem newChecklistFromArgs_uid {command : MissionCommandEnvelope} {mode defaultSyncState uid name : String}
    {missionUid templateUid templateName : Option String} {now : Int} {checklist : ChecklistRecord}
    (h : newChecklistFromArgs command mode defaultSyncState uid name missionUid templateUid templateName now = .ok checklist) :
    checklist.uid = uid := by
  obtain ⟨startTime, -, h⟩ := bind_eq_ok.1 h
  obtain ⟨templateVersion, -, h⟩ := bind_eq_ok.1 h
  obtain ⟨mode', -, h⟩ := bind_eq_ok.1 h
  obtain ⟨syncState, -, h⟩ := bind_eq_ok.1 h
  obtain ⟨originType, -, h⟩ := bind_eq_ok.1 h
  rw [← Except.ok.inj h]

omit [Host] in
theorem insertColumns_returns {record : Nat → Value → String → ChecklistColumnRecord} {columns : List Value} {rest : Nat}
    {core₀ : RchCore} {draws : Nat → Uuid} (fresh : FreshUids (columns.length + rest) core₀ draws) :
    Proc.Spec drawsSeen (insertColumns record 0 columns) (core₀, draws) (Proc.Returns fun _ v =>
      (v.1.checklists = core₀.checklists ∧ v.1.checklistTasks = core₀.checklistTasks ∧ v.1.checklistCells = core₀.checklistCells) ∧
        ColumnsPut True record 0 columns core₀.checklistColumns v.1.checklistColumns ∧ FreshUids rest v.1 v.2) := by
  refine (insertColumns_puts True).mono ?_
  rintro r v ⟨-, table, rfl, put⟩ _ _
  obtain ⟨put, drawn⟩ := put fun _ => (fresh.mono (by omega)).toFreshDraws
  exact ⟨⟨rfl, rfl, rfl⟩, put, fresh.later (drawn trivial) .refl .refl .refl⟩

/-- The checklist takes the first draw, its columns the next. -/
theorem createCsvChecklist_returns (command : MissionCommandEnvelope) (filename : String) {columns : List Value} (some_ : columns ≠ [])
    (rest : Nat) {core₀ : RchCore} {draws : Nat → Uuid} (fresh : FreshUids (1 + columns.length + rest) core₀ draws) :
    Proc.Spec drawsSeen (createChecklistFromArgs (csvCreateCommand command filename columns) "ONLINE" "SYNCED") (core₀, draws)
      (Proc.Returns fun checklist v => checklist.uid = (draws 0).simple ∧ ChecklistCreated (draws 0).simple columns core₀ v.1 ∧
        FreshUids rest v.1 v.2) := by
  obtain ⟨given, untemplated, untasked⟩ := csvCreateCommand_fields command filename columns
  unfold createChecklistFromArgs
  dsimp only
  rw [given, untemplated, untasked, csvCreateCommand_unnamed]
  refine Proc.Returns.checked fun name _ => Proc.Returns.checked fun columns' parsed => seenRead (Proc.Returns.checked fun templated same => ?_)
  obtain rfl := checklistColumnsFromArgs_array parsed
  obtain rfl := Except.ok.inj same
  dsimp only
  have defaulted : defaultedChecklistColumns columns' = columns' := by
    rw [defaultedChecklistColumns, if_neg (by simpa using some_)]
  refine Proc.Returns.guard fun _ => Proc.Returns.checked fun _ _ => seenRead (Proc.Returns.checked fun _ _ => ?_)
  refine seenClock fun now => seenDraw (seenRead ?_)
  rw [fresh.checklists 0 (by omega)]
  dsimp only
  refine Proc.Returns.checked fun checklist new => seenWrite ?_
  have uid := newChecklistFromArgs_uid new
  unfold insertChecklistColumns
  rw [defaulted]
  have next : FreshUids (columns'.length + rest)
      { core₀ with checklists := core₀.checklists.insert (draws 0).simple checklist } (drawsFrom 1 draws) :=
    FreshUids.later (fresh.mono (by omega)) .refl .refl (KeysDrawn.insert checklist) .refl
  refine Proc.Returns.bind (insertColumns_returns next) ?_
  rintro _ ⟨core₁, draws₁⟩ ⟨⟨checklists, tasks, cells⟩, put, fresh⟩
  have listed : (core₁.checklists.get (draws 0).simple).map ChecklistRecord.uid = some (draws 0).simple := by
    rw [checklists, Dict.get_insert_self, Option.map_some, uid]
  have untasked : insertInitialChecklistTasksFromArgs (draws 0).simple none = pure () := rfl
  rw [untasked, pure_bind]
  refine Proc.Returns.bind (recomputeChecklistStatus_returns _) ?_
  rintro _ ⟨core₂, _⟩ ⟨rfl, kept, -⟩
  have listed' := (kept.checklists (draws 0).simple).trans listed
  refine seenRead (Proc.Returns.pure ⟨?_, ⟨⟨now, ?_⟩, ?_, ?_, listed'⟩, kept.fresh fresh⟩)
  · obtain ⟨stored, there, uid'⟩ := Option.map_eq_some_iff.1 listed'
    rw [there, Option.getD_some, uid']
  · rw [kept.columns]
    exact put
  · exact kept.cells.trans cells
  · rw [← tasks]
    exact kept.tasks

end

end TelemetryHub
