import TelemetryHub.Core.Logic
import TelemetryHub.Core.Vocabularies
import TelemetryHub.Edits.Checklists

/-!
# Checklists as sheets

A checklist is a sheet of tasks and columns with a cell for each of both. What the checklist
commands write is told in steps that each leave the sheets whole, where no drawn uuid is the
uid of a column or a cell already.
-/

namespace TelemetryHub

open Lib CoreM

/-! ## Fresh draws -/

/-- The draws behind the first `k`. -/
def drawsFrom (k : Nat) (draws : Nat → Uuid) : Nat → Uuid := fun n => draws (n + k)

@[simp] theorem drawsFrom_zero (draws : Nat → Uuid) : drawsFrom 0 draws = draws := rfl

@[simp] theorem drawsFrom_drawsFrom (j k : Nat) (draws : Nat → Uuid) :
    drawsFrom k (drawsFrom j draws) = drawsFrom (j + k) draws := by
  funext n
  show draws (n + k + j) = draws (n + (j + k))
  congr 1
  omega

/-- The first `k` draws are apart from each other, and no column or cell has them. -/
structure FreshDraws (k : Nat) (core : RchCore) (draws : Nat → Uuid) : Prop where
  apart : ∀ i j, i < k → j < k → (draws i).simple = (draws j).simple → i = j
  columns : ∀ n, n < k → core.checklistColumns.get (draws n).simple = none
  cells : ∀ n, n < k → core.checklistCells.get (draws n).simple = none

/-- The cells are stored under their uids. -/
def CellsFiled (cells : Dict String ChecklistCellRecord) : Prop := ∀ uid cell, cells.get uid = some cell → cell.cellUid = uid

/-- The new keys are among the first `k` draws. -/
def KeysDrawn {V : Type} (k : Nat) (draws : Nat → Uuid) (table table' : Dict String V) : Prop :=
  ∀ uid, table.get uid = none → (∀ n, n < k → (draws n).simple ≠ uid) → table'.get uid = none

section

variable {V : Type} {j k : Nat} {core core' : RchCore} {draws : Nat → Uuid} {table table' table'' : Dict String V}

theorem CellsFiled.insert {cells : Dict String ChecklistCellRecord} (filed : CellsFiled cells) {uid : String}
    {cell : ChecklistCellRecord} (key : cell.cellUid = uid) : CellsFiled (cells.insert uid cell) := by
  intro uid' cell' stored
  rw [Dict.get_insert] at stored
  split at stored
  · rename_i here
    rw [← Option.some.inj stored, key, here]
  · exact filed uid' cell' stored

theorem CellsFiled.retain {cells : Dict String ChecklistCellRecord} (filed : CellsFiled cells)
    (p : String → ChecklistCellRecord → Bool) : CellsFiled (cells.retain p) := by
  intro uid cell stored
  rw [Dict.get_retain] at stored
  exact filed uid cell (Option.filter_eq_some_iff.1 stored).1

theorem KeysDrawn.refl : KeysDrawn k draws table table := fun _ absent _ => absent

theorem KeysDrawn.retain (drawn : KeysDrawn k draws table table') (p : String → V → Bool) :
    KeysDrawn k draws table (table'.retain p) := by
  intro uid absent apart
  rw [Dict.get_retain, drawn uid absent apart]
  rfl

theorem KeysDrawn.trans (first : KeysDrawn j draws table table') (second : KeysDrawn k (drawsFrom j draws) table' table'') :
    KeysDrawn (j + k) draws table table'' := by
  intro uid absent apart
  refine second uid (first uid absent fun n bound => apart n (by omega)) fun n bound => ?_
  exact apart (n + j) (by omega)

/-- The first draw taken for a key. -/
theorem KeysDrawn.insert (value : V) : KeysDrawn 1 draws table (table.insert (draws 0).simple value) := by
  intro uid absent apart
  rw [Dict.get_insert_ne, absent]
  exact fun here => apart 0 Nat.one_pos here.symm

/-- Some of the draws that are fresh. -/
theorem FreshDraws.mono (fresh : FreshDraws k core draws) (fewer : j ≤ k) : FreshDraws j core draws where
  apart m n hm hn same := fresh.apart m n (by omega) (by omega) same
  columns n bound := fresh.columns n (by omega)
  cells n bound := fresh.cells n (by omega)

/-- What is left of the draws is fresh where the others are the only new keys. -/
theorem FreshDraws.later (fresh : FreshDraws (j + k) core draws)
    (columns : KeysDrawn j draws core.checklistColumns core'.checklistColumns)
    (cells : KeysDrawn j draws core.checklistCells core'.checklistCells) : FreshDraws k core' (drawsFrom j draws) := by
  have others : ∀ n, n < k → ∀ m, m < j → (draws m).simple ≠ (draws (n + j)).simple := by
    intro n bound m less same
    have equal := fresh.apart m (n + j) (by omega) (by omega) same
    omega
  refine ⟨fun m n hm hn same => ?_, fun n bound => ?_, fun n bound => ?_⟩
  · have equal := fresh.apart (m + j) (n + j) (by omega) (by omega) same
    omega
  · exact columns _ (fresh.columns (n + j) (by omega)) (others n bound)
  · exact cells _ (fresh.cells (n + j) (by omega)) (others n bound)

end

/-- A core in sight of the draws to come. -/
def drawsSeen : Proc.Observation World (RchCore × (Nat → Uuid)) where
  view w := (w.core, w.draws)
  rest _ := True

section

variable {α : Type} {core₀ : RchCore} {draws : Nat → Uuid} {Q : Except RchCoreError α → RchCore × (Nat → Uuid) → Prop}

theorem seenRead {k : RchCore → CoreM α} (h : Proc.Spec drawsSeen (k core₀) (core₀, draws) Q) :
    Proc.Spec drawsSeen (core >>= k) (core₀, draws) Q := by
  intro w seen rest
  obtain ⟨rfl, rfl⟩ := Prod.mk.inj seen
  exact h w seen rest

theorem seenClock {v : RchCore × (Nat → Uuid)} {k : Int → CoreM α} (h : ∀ now, Proc.Spec drawsSeen (k now) v Q) :
    Proc.Spec drawsSeen (utcNowMs >>= k) v Q :=
  fun w seen rest => h _ { w with clock := fun n => w.clock (n + 1) } seen rest

theorem seenDraw {k : String → CoreM α} (h : Proc.Spec drawsSeen (k (draws 0).simple) (core₀, drawsFrom 1 draws) Q) :
    Proc.Spec drawsSeen (newUuid >>= k) (core₀, draws) Q := by
  intro w seen rest
  obtain ⟨rfl, rfl⟩ := Prod.mk.inj seen
  exact h { w with draws := drawsFrom 1 w.draws } rfl rest

/-- No draw where a uid is named. -/
theorem seenNamed (uid : String) {k : String → CoreM α} {v : RchCore × (Nat → Uuid)} (h : Proc.Spec drawsSeen (k uid) v Q) :
    Proc.Spec drawsSeen (orNewUuid (some uid) >>= k) v Q := h

theorem seenWrite {f : RchCore → RchCore} {k : Unit → CoreM α} (h : Proc.Spec drawsSeen (k ()) (f core₀, draws) Q) :
    Proc.Spec drawsSeen (update f >>= k) (core₀, draws) Q := by
  intro w seen rest
  obtain ⟨rfl, rfl⟩ := Prod.mk.inj seen
  exact h { w with core := f w.core } rfl rest

/-- A write that ends the method. -/
theorem seenLastWrite {f : RchCore → RchCore} {Q : Except RchCoreError Unit → RchCore × (Nat → Uuid) → Prop}
    (h : Q (.ok ()) (f core₀, draws)) : Proc.Spec drawsSeen (update f) (core₀, draws) Q := by
  rw [← bind_pure (update f)]
  exact seenWrite (Proc.Spec.pure h)

end

/-! ## Columns and cells put in -/

/-- Whose a column is. -/
inductive ColumnOwner where
  | checklist (uid : String)
  | template (uid : String)
  deriving DecidableEq

/-- The owner has the column. -/
def ColumnOwner.has : ColumnOwner → ChecklistColumnRecord → Bool
  | checklist uid, column => column.checklistUid == some uid
  | template uid, column => column.templateUid == some uid

/-- The columns of the owner. -/
def RchCore.columnsOf (core : RchCore) (owner : ColumnOwner) : List ChecklistColumnRecord :=
  core.checklistColumns.values.filter owner.has

/-- A column of a list as it is written for the owner. -/
def ColumnOwner.column [Host] (owner : ColumnOwner) (now : Int) (index : Nat) (column : Value) (uid : String) :
    ChecklistColumnRecord :=
  match owner with
  | checklist owner => columnRecord (some owner) none ["column_name"] now index column uid
  | template owner => columnRecord none (some owner) ["column_name", "name"] now index column uid

/-- The columns of a list written under drawn uids, new ones where the draws are fresh, from
position `index` on. -/
inductive ColumnsPut (fresh : Prop) (record : Nat → Value → String → ChecklistColumnRecord) :
    Nat → List Value → Dict String ChecklistColumnRecord → Dict String ChecklistColumnRecord → Prop
  | nil (index columns) : ColumnsPut fresh record index [] columns columns
  | cons {index column rest columns columns'} (uid : String) (absent : fresh → columns.get uid = none)
      (tail : ColumnsPut fresh record (index + 1) rest (columns.insert uid (record index column uid)) columns') :
      ColumnsPut fresh record index (column :: rest) columns columns'

/-- Empty cells of a task written under drawn uids. -/
inductive CellsPut (fresh : Prop) (taskUid : String) (now : Int) :
    List ChecklistColumnRecord → Dict String ChecklistCellRecord → Dict String ChecklistCellRecord → Prop
  | nil (cells) : CellsPut fresh taskUid now [] cells cells
  | cons {column rest cells cells'} (uid : String) (absent : fresh → cells.get uid = none)
      (tail : CellsPut fresh taskUid now rest (cells.insert uid
        { cellUid := uid, taskUid, columnUid := column.columnUid, value := none, updatedTsMs := now,
          updatedByTeamMemberRnsIdentity := none }) cells') : CellsPut fresh taskUid now (column :: rest) cells cells'

theorem CellsPut.filed {fresh : Prop} {taskUid : String} {now : Int} {columns : List ChecklistColumnRecord}
    {cells cells' : Dict String ChecklistCellRecord} (put : CellsPut fresh taskUid now columns cells cells') (h : CellsFiled cells) :
    CellsFiled cells' := by
  induction put with
  | nil => exact h
  | cons new absent tail ih => exact ih (h.insert rfl)

/-- A list of columns takes a draw for each. -/
theorem insertColumns_puts (fresh : Prop) {record : Nat → Value → String → ChecklistColumnRecord} {columns : List Value} :
    ∀ {index : Nat} {core₀ : RchCore} {draws : Nat → Uuid},
      Proc.Spec drawsSeen (insertColumns record index columns) (core₀, draws) fun r v' =>
        r = .ok () ∧ ∃ table, v' = ({ core₀ with checklistColumns := table }, drawsFrom columns.length draws) ∧
          ((fresh → FreshDraws columns.length core₀ draws) → ColumnsPut fresh record index columns core₀.checklistColumns table ∧
            (fresh → KeysDrawn columns.length draws core₀.checklistColumns table)) := by
  induction columns with
  | nil => exact fun {index core₀ draws} => Proc.Spec.pure ⟨rfl, core₀.checklistColumns, rfl, fun _ => ⟨.nil _ _, fun _ => .refl⟩⟩
  | cons column rest ih =>
    intro index core₀ draws
    rw [insertColumns]
    refine seenDraw (seenWrite (ih.mono ?_))
    rintro r v' ⟨rfl, table, rfl, tail⟩
    rw [drawsFrom_drawsFrom, List.length_cons, Nat.add_comm rest.length 1]
    refine ⟨rfl, table, rfl, fun draws => ?_⟩
    obtain ⟨put, drawn⟩ := tail fun sure => (draws sure).later (KeysDrawn.insert _) .refl
    refine ⟨.cons _ (fun sure => (draws sure).columns 0 (by omega)) put, fun sure => ?_⟩
    exact (KeysDrawn.insert _).trans (drawn sure)

/-- The cells of a task take a draw for each column. -/
theorem insertEmptyCells_puts (fresh : Prop) {taskUid : String} {now : Int} {columns : List ChecklistColumnRecord} :
    ∀ {core₀ : RchCore} {draws : Nat → Uuid},
      Proc.Spec drawsSeen (insertEmptyCells taskUid now columns) (core₀, draws) fun r v' =>
        r = .ok () ∧ ∃ table, v' = ({ core₀ with checklistCells := table }, drawsFrom columns.length draws) ∧
          ((fresh → FreshDraws columns.length core₀ draws) → CellsPut fresh taskUid now columns core₀.checklistCells table ∧
            (fresh → KeysDrawn columns.length draws core₀.checklistCells table)) := by
  induction columns with
  | nil => exact fun {core₀ draws} => Proc.Spec.pure ⟨rfl, core₀.checklistCells, rfl, fun _ => ⟨.nil _, fun _ => .refl⟩⟩
  | cons column rest ih =>
    intro core₀ draws
    rw [insertEmptyCells]
    refine seenDraw (seenWrite (ih.mono ?_))
    rintro r v' ⟨rfl, table, rfl, tail⟩
    rw [drawsFrom_drawsFrom, List.length_cons, Nat.add_comm rest.length 1]
    refine ⟨rfl, table, rfl, fun draws => ?_⟩
    obtain ⟨put, drawn⟩ := tail fun sure => (draws sure).later .refl (KeysDrawn.insert _)
    refine ⟨.cons _ (fun sure => (draws sure).cells 0 (by omega)) put, fun sure => ?_⟩
    exact (KeysDrawn.insert _).trans (drawn sure)

/-! ## Steps -/

/-- The enumerated fields of the checklist are in their vocabularies. -/
structure ChecklistRecord.Enumerated (checklist : ChecklistRecord) : Prop where
  mode : checklist.mode ∈ checklistModes
  syncState : checklist.syncState ∈ checklistSyncStates
  originType : checklist.originType ∈ checklistOrigins
  checklistStatus : checklist.checklistStatus ∈ taskStatuses

/-- What a command gives: lists of columns for owners, numbers for tasks, and maybe a blank
user status; and whether its draws are known to be fresh. -/
structure SheetGrant where
  fresh : Prop
  columns : ColumnOwner → List Value → Prop
  number : String → Int → Prop
  blankStatus : Prop

/-- One step of a checklist command that gives so much. -/
inductive SheetEdit [Host] (grant : SheetGrant) (core : RchCore) : RchCore → Prop
  | createChecklist (uid : String) (checklist : ChecklistRecord) (columns : List Value) (now : Int)
      (table : Dict String ChecklistColumnRecord) (absent : core.checklists.get uid = none)
      (enumerated : checklist.Enumerated) (valid : validateChecklistColumns columns = .ok ())
      (given : grant.columns (.checklist uid) (defaultedChecklistColumns columns))
      (put : ColumnsPut grant.fresh ((ColumnOwner.checklist uid).column now) 0 (defaultedChecklistColumns columns) core.checklistColumns table) :
      SheetEdit grant core { core with checklists := core.checklists.insert uid checklist, checklistColumns := table }
  | patchChecklist (uid : String) (old checklist : ChecklistRecord) (stored : core.checklists.get uid = some old)
      (enumerated : old.Enumerated → checklist.Enumerated) :
      SheetEdit grant core { core with checklists := core.checklists.insert uid checklist }
  | deleteChecklist (uid : String) :
      SheetEdit grant core ({ core with checklists := core.checklists.remove uid }.withoutChecklistRows uid)
  | createTemplate (uid : String) (template : ChecklistTemplateRecord) (columns : List Value) (now : Int)
      (table : Dict String ChecklistColumnRecord) (valid : validateChecklistColumns columns = .ok ()) (some_ : columns ≠ [])
      (given : grant.columns (.template uid) columns)
      (put : ColumnsPut grant.fresh ((ColumnOwner.template uid).column now) 0 columns
        (core.checklistColumns.retain fun _ column => column.templateUid != some uid) table) :
      SheetEdit grant core { core with checklistTemplates := core.checklistTemplates.insert uid template, checklistColumns := table }
  | replaceColumns (uid : String) (columns : List Value) (now : Int) (table : Dict String ChecklistColumnRecord)
      (stored : core.checklistTemplates.contains uid = true) (valid : validateChecklistColumns columns = .ok ())
      (given : grant.columns (.template uid) columns)
      (put : ColumnsPut grant.fresh ((ColumnOwner.template uid).column now) 0 columns
        (core.checklistColumns.retain fun _ column => column.templateUid != some uid) table) :
      SheetEdit grant core { core with checklistColumns := table }
  | patchTemplate (uid : String) (template : ChecklistTemplateRecord) (stored : core.checklistTemplates.contains uid = true) :
      SheetEdit grant core { core with checklistTemplates := core.checklistTemplates.insert uid template }
  | deleteTemplate (uid : String) :
      SheetEdit grant core { core with
        checklistTemplates := core.checklistTemplates.remove uid
        checklistColumns := core.checklistColumns.retain fun _ column => column.templateUid != some uid }
  | addRow (uid : String) (task : ChecklistTaskRecord) (now : Int) (cells : Dict String ChecklistCellRecord)
      (key : task.taskUid = uid) (absent : core.checklistTasks.get uid = none)
      (owned : core.checklists.contains task.checklistUid = true) (number : grant.number uid task.number)
      (user : task.userStatus = "PENDING") (status : task.taskStatus ∈ taskStatuses)
      (put : CellsPut grant.fresh uid now (core.columnsForChecklist task.checklistUid) core.checklistCells cells) :
      SheetEdit grant core { core with checklistTasks := core.checklistTasks.insert uid task, checklistCells := cells }
  | patchRow (uid : String) (old task : ChecklistTaskRecord) (stored : core.checklistTasks.get uid = some old)
      (key : task.taskUid = old.taskUid) (owner : task.checklistUid = old.checklistUid)
      (number : task.number = old.number ∨ grant.number uid task.number)
      (user : task.userStatus = old.userStatus ∨ task.userStatus ∈ userStatuses ∨ grant.blankStatus ∧ task.userStatus = "")
      (status : task.taskStatus = old.taskStatus ∨ task.taskStatus ∈ taskStatuses) :
      SheetEdit grant core { core with checklistTasks := core.checklistTasks.insert uid task }
  | deleteRow (uid : String) (task : ChecklistTaskRecord) (stored : core.checklistTasks.get uid = some task) :
      SheetEdit grant core { core with
        checklistTasks := core.checklistTasks.remove uid
        checklistCells := core.checklistCells.retain fun _ cell => cell.taskUid != task.taskUid }
  | setCell (uid : String) (cell : ChecklistCellRecord) (task : ChecklistTaskRecord) (column : ChecklistColumnRecord)
      (key : cell.cellUid = uid) (row : core.checklistTasks.get cell.taskUid = some task)
      (field : core.checklistColumns.get cell.columnUid = some column) (same : column.checklistUid = some task.checklistUid)
      (place : (findCell core cell.taskUid cell.columnUid).map ChecklistCellRecord.cellUid = some uid ∨
        findCell core cell.taskUid cell.columnUid = none ∧ (grant.fresh → core.checklistCells.get uid = none)) :
      SheetEdit grant core { core with checklistCells := core.checklistCells.insert uid cell }
  | publish (publications : Dict String ChecklistFeedPublicationRecord) :
      SheetEdit grant core { core with checklistFeedPublications := publications }
  | audit (record : MissionAuditEvent) : SheetEdit grant core { core with auditEvents := core.auditEvents ++ [record] }
  | change (uid : String) (record : MissionChangeRecord) (known : record.changeType ∈ missionChangeTypes) :
      SheetEdit grant core { core with missionChanges := core.missionChanges.insert uid record }

/-! ## Methods -/

section

variable [Host] {grant : SheetGrant} {α β : Type}

/-- The cells stay filed and the new columns and cells have their keys from the first draws. -/
structure Drawn (k : Nat) (draws : Nat → Uuid) (core core' : RchCore) : Prop where
  filed : CellsFiled core'.checklistCells
  columns : KeysDrawn k draws core.checklistColumns core'.checklistColumns
  cells : KeysDrawn k draws core.checklistCells core'.checklistCells

/-- Steps that take the first draws, which are fresh where they are to be. -/
def SheetSteps (grant : SheetGrant) (v v' : RchCore × (Nat → Uuid)) : Prop :=
  ∃ k, v'.2 = drawsFrom k v.2 ∧ ((grant.fresh → FreshDraws k v.1 v.2) → (grant.fresh → CellsFiled v.1.checklistCells) →
    Relation.ReflTransGen (SheetEdit grant) v.1 v'.1 ∧ (grant.fresh → Drawn k v.2 v.1 v'.1))

namespace SheetSteps

variable {core core' : RchCore} {draws : Nat → Uuid} {v v' v'' : RchCore × (Nat → Uuid)}

theorem refl : SheetSteps grant v v := ⟨0, rfl, fun _ filed => ⟨.refl, fun sure => ⟨filed sure, .refl, .refl⟩⟩⟩

theorem trans (first : SheetSteps grant v v') (second : SheetSteps grant v' v'') : SheetSteps grant v v'' := by
  obtain ⟨j, here, steps⟩ := first
  obtain ⟨k, there, steps'⟩ := second
  refine ⟨j + k, by rw [there, here, drawsFrom_drawsFrom], fun fresh filed => ?_⟩
  obtain ⟨path, drawn⟩ := steps (fun sure => (fresh sure).mono (by omega)) filed
  rw [here] at steps'
  obtain ⟨path', drawn'⟩ := steps' (fun sure => (fresh sure).later (drawn sure).columns (drawn sure).cells) fun sure => (drawn sure).filed
  refine ⟨path.trans path', fun sure => ⟨(drawn' sure).filed, ?_, ?_⟩⟩
  · exact (drawn sure).columns.trans (drawn' sure).columns
  · exact (drawn sure).cells.trans (drawn' sure).cells

theorem of_gen (steps : Relation.ReflTransGen (SheetSteps grant) v v') : SheetSteps grant v v' := by
  induction steps with
  | refl => exact refl
  | tail _ step ih => exact ih.trans step

theorem draw : SheetSteps grant (core, draws) (core, drawsFrom 1 draws) :=
  ⟨1, rfl, fun _ filed => ⟨.refl, fun sure => ⟨filed sure, .refl, .refl⟩⟩⟩

/-- A step that takes no draw. -/
theorem edit (step : SheetEdit grant core core')
    (columns : KeysDrawn 0 draws core.checklistColumns core'.checklistColumns)
    (cells : CellsFiled core.checklistCells → KeysDrawn 0 draws core.checklistCells core'.checklistCells)
    (filed : CellsFiled core.checklistCells → CellsFiled core'.checklistCells) :
    SheetSteps grant (core, draws) (core', draws) :=
  ⟨0, rfl, fun _ there => ⟨.single step, fun sure => ⟨filed (there sure), columns, cells (there sure)⟩⟩⟩

/-- A step on other tables than those of the columns and the cells. -/
theorem other (step : SheetEdit grant core core') (columns : core'.checklistColumns = core.checklistColumns)
    (cells : core'.checklistCells = core.checklistCells) : SheetSteps grant (core, draws) (core', draws) := by
  refine edit step ?_ (fun _ => ?_) fun filed => cells ▸ filed
  · rw [columns]
    exact .refl
  · rw [cells]
    exact .refl

end SheetSteps

/-- The method gets where it gets by such steps. -/
abbrev Sheets (grant : SheetGrant) (m : CoreM α) : Prop := Proc.Moves drawsSeen (SheetSteps grant) m

namespace Sheets

/-- `self`, read for what does not matter to the steps. -/
theorem read {k : RchCore → CoreM α} (hk : ∀ core, Sheets grant (k core)) : Sheets grant (core >>= k) :=
  fun v => seenRead (hk v.1 v)

theorem clock {k : Int → CoreM α} (hk : ∀ now, Sheets grant (k now)) : Sheets grant (utcNowMs >>= k) :=
  fun v => seenClock fun now => hk now v

/-- What is drawn is no key of a column or a cell. -/
theorem draw_ {k : String → CoreM α} {core₀ : RchCore} {draws : Nat → Uuid}
    (hk : ∀ uid draws, Proc.Spec drawsSeen (k uid) (core₀, draws) (Proc.Outcome False (SheetSteps grant) (core₀, draws))) :
    Proc.Spec drawsSeen (newUuid >>= k) (core₀, draws) (Proc.Outcome False (SheetSteps grant) (core₀, draws)) :=
  seenDraw (Proc.Moves.behind (.single .draw) (hk _ _))

theorem drawUnless {value : Option String} {k : String → CoreM α} {core₀ : RchCore} {draws : Nat → Uuid}
    (hk : ∀ uid draws, (∀ named, value = some named → uid = named) →
      Proc.Spec drawsSeen (k uid) (core₀, draws) (Proc.Outcome False (SheetSteps grant) (core₀, draws))) :
    Proc.Spec drawsSeen (orNewUuid value >>= k) (core₀, draws) (Proc.Outcome False (SheetSteps grant) (core₀, draws)) := by
  cases value with
  | some uid => exact hk uid draws fun _ same => Option.some.inj same
  | none => exact draw_ fun uid draws => hk uid draws nofun

theorem draw {k : String → CoreM α} (hk : ∀ uid, Sheets grant (k uid)) : Sheets grant (newUuid >>= k) :=
  fun _ => draw_ fun uid draws => hk uid (_, draws)

/-- A write that is a step, and what follows it. -/
theorem write {f : RchCore → RchCore} {k : Unit → CoreM α} {core₀ : RchCore} {draws : Nat → Uuid}
    (step : SheetSteps grant (core₀, draws) (f core₀, draws)) (hk : Sheets grant (k ())) :
    Proc.Spec drawsSeen (update f >>= k) (core₀, draws) (Proc.Outcome False (SheetSteps grant) (core₀, draws)) :=
  seenWrite (Proc.Moves.behind (.single step) (hk _))

/-- A write that is a step and ends the method. -/
theorem lastWrite {f : RchCore → RchCore} {core₀ : RchCore} {draws : Nat → Uuid}
    (step : SheetSteps grant (core₀, draws) (f core₀, draws)) :
    Proc.Spec drawsSeen (update f) (core₀, draws) (Proc.Outcome False (SheetSteps grant) (core₀, draws)) :=
  seenLastWrite ⟨.single step, False.elim, fun _ _ => trivial⟩

end Sheets

omit [Host] in
theorem derivedStatus_reads (userStatus : String) (dueTsMs completedTsMs : Option Int) {v : RchCore × (Nat → Uuid)} :
    Proc.Spec drawsSeen (deriveTaskStatus userStatus dueTsMs completedTsMs) v fun r v' =>
      v' = v ∧ ∃ status late, r = .ok (status, late) ∧ status ∈ taskStatuses := by
  have known : "PENDING" ∈ taskStatuses ∧ "COMPLETE" ∈ taskStatuses ∧ "COMPLETE_LATE" ∈ taskStatuses ∧
      "LATE" ∈ taskStatuses := by decide
  obtain ⟨pending, complete, completeLate, late⟩ := known
  unfold deriveTaskStatus
  refine Proc.Spec.ite (fun _ => ?_) fun _ => ?_
  · split
    · refine Proc.Spec.ite (fun _ => ?_) fun _ => ?_
      · exact Proc.Spec.pure ⟨rfl, _, _, rfl, completeLate⟩
      · exact Proc.Spec.pure ⟨rfl, _, _, rfl, complete⟩
    · exact Proc.Spec.pure ⟨rfl, _, _, rfl, complete⟩
  · split
    · refine seenClock fun now => Proc.Spec.ite (fun _ => ?_) fun _ => ?_
      · exact Proc.Spec.pure ⟨rfl, _, _, rfl, late⟩
      · exact Proc.Spec.pure ⟨rfl, _, _, rfl, pending⟩
    · exact Proc.Spec.pure ⟨rfl, _, _, rfl, pending⟩

omit [Host] in
/-- After a derivation of a status. -/
theorem derivedThen {userStatus : String} {dueTsMs completedTsMs : Option Int} {k : String × Bool → CoreM α}
    {v : RchCore × (Nat → Uuid)} {Q : Except RchCoreError α → RchCore × (Nat → Uuid) → Prop}
    (h : ∀ status late, status ∈ taskStatuses → Proc.Spec drawsSeen (k (status, late)) v Q) :
    Proc.Spec drawsSeen (deriveTaskStatus userStatus dueTsMs completedTsMs >>= k) v Q := by
  refine Proc.Spec.bind (derivedStatus_reads _ _ _) ?_ ?_
  · rintro ⟨status, late⟩ v' ⟨rfl, status', late', same, known⟩
    obtain ⟨rfl, rfl⟩ := Prod.mk.inj (Except.ok.inj same)
    exact h _ _ known
  · rintro e v' ⟨-, _, _, failed, -⟩
    exact nomatch failed

/-! ## Rows -/

theorem refreshTaskStatus_sheets (taskUid : String) : Sheets grant (refreshTaskStatus taskUid) := by
  rintro ⟨core₀, draws⟩
  unfold refreshTaskStatus
  refine seenRead (Proc.Spec.required fun task stored => derivedThen fun status late known => ?_)
  exact Sheets.write (.other (.patchRow taskUid task _ stored rfl rfl (.inl rfl) (.inl rfl) (.inr known)) rfl rfl) (.pure _)

omit [Host] in
theorem statusOf_known (pending late complete : Nat) (completeLate : Bool) :
    checklistStatusOf pending late complete completeLate ∈ taskStatuses := by
  unfold checklistStatusOf
  split
  · decide
  · split
    · decide
    · split
      · decide
      · decide

theorem recomputeChecklistStatus_sheets (checklistUid : String) : Sheets grant (recomputeChecklistStatus checklistUid) := by
  have refreshed : ∀ taskUids : List String, Sheets grant (taskUids.mapM refreshTaskStatus) := by
    intro taskUids
    induction taskUids with
    | nil => exact .pure _
    | cons taskUid rest ih =>
      rw [List.mapM_cons]
      exact .bind (refreshTaskStatus_sheets taskUid) fun _ => .bind ih fun _ => .pure _
  unfold recomputeChecklistStatus
  refine Sheets.read fun core => .bind (refreshed _) fun tasks => ?_
  rintro ⟨core₀, draws⟩
  refine seenRead (Proc.Spec.required fun checklist stored => seenClock fun now => ?_)
  refine Sheets.write (.other (.patchChecklist checklistUid checklist _ stored fun h => ?_) rfl rfl) (.pure _)
  exact ⟨h.mode, h.syncState, h.originType, statusOf_known _ _ _ _⟩

theorem addChecklistTaskRow_sheets (checklistUid : String) (args : Value)
    (number : ∀ taskUid checklist times, (∀ named, optionalText args ["task_uid"] = some named → taskUid = named) →
      taskRowTimesFromArgs checklist args = .ok times → grant.number taskUid times.number) :
    Sheets grant (addChecklistTaskRow checklistUid args) := by
  rintro ⟨core₀, draws⟩
  unfold addChecklistTaskRow
  refine seenRead (Proc.Spec.required fun checklist there => Proc.Spec.checked fun times read => ?_)
  refine seenClock fun now => Sheets.drawUnless fun taskUid draws named => ?_
  refine Proc.Moves.follow ?_ fun _ => recomputeChecklistStatus_sheets _
  unfold putChecklistTask
  refine seenRead ?_
  split
  · rename_i existing stored
    refine Proc.Spec.guarded fun owner => Sheets.lastWrite (.other ?_ rfl rfl)
    exact .patchRow taskUid existing _ stored rfl rfl (.inr (number _ _ _ named read)) (.inl rfl) (.inl rfl)
  · rename_i absent
    unfold insertChecklistTask
    refine derivedThen fun status late known => seenWrite (seenRead ?_)
    refine (insertEmptyCells_puts grant.fresh).mono ?_
    rintro r v' ⟨rfl, cells, rfl, put⟩
    have contained : core₀.checklists.contains checklistUid = true := Dict.contains_iff.2 ⟨_, there⟩
    refine ⟨.single ⟨_, rfl, fun fresh filed => ?_⟩, False.elim, fun _ _ => trivial⟩
    obtain ⟨put, drawn⟩ := put fun sure => ⟨(fresh sure).apart, (fresh sure).columns, (fresh sure).cells⟩
    refine ⟨.single ?_, fun sure => ⟨put.filed (filed sure), .refl, drawn sure⟩⟩
    exact .addRow taskUid _ now cells rfl absent contained (number _ _ _ named read) rfl known put

/-- A method on a row of the checklist. -/
theorem onRow_sheets {checklistUid taskUid : String} {k : ChecklistTaskRecord → CoreM α} {core₀ : RchCore} {draws : Nat → Uuid}
    (hk : ∀ task, core₀.checklistTasks.get taskUid = some task → task.checklistUid = checklistUid →
      Proc.Spec drawsSeen (k task) (core₀, draws) (Proc.Outcome False (SheetSteps grant) (core₀, draws))) :
    Proc.Spec drawsSeen (checklistTaskOf checklistUid taskUid >>= k) (core₀, draws)
      (Proc.Outcome False (SheetSteps grant) (core₀, draws)) := by
  unfold checklistTaskOf
  rw [bind_assoc]
  refine seenRead ?_
  by_cases missing : (!core₀.checklists.contains checklistUid) = true
  · rw [if_pos missing]
    exact Proc.Spec.failed
  · rw [if_neg missing, bind_assoc]
    refine seenRead (Proc.Spec.required fun task found => ?_)
    obtain ⟨stored, owner⟩ := Option.filter_eq_some_iff.1 found
    exact hk task stored (by simpa using owner)

theorem deleteChecklistTaskRow_sheets (checklistUid taskUid : String) :
    Sheets grant (deleteChecklistTaskRow checklistUid taskUid) := by
  rintro ⟨core₀, draws⟩
  unfold deleteChecklistTaskRow
  refine onRow_sheets fun task stored _ => ?_
  refine Sheets.write (.edit (.deleteRow taskUid task stored) .refl ?_ ?_) (recomputeChecklistStatus_sheets checklistUid)
  · exact fun _ => KeysDrawn.refl.retain _
  · exact fun filed => filed.retain _

theorem setChecklistTaskRowStyle_sheets (checklistUid taskUid : String) (args : Value) :
    Sheets grant (setChecklistTaskRowStyle checklistUid taskUid args) := by
  rintro ⟨core₀, draws⟩
  unfold setChecklistTaskRowStyle
  refine onRow_sheets fun task stored _ => seenClock fun now => ?_
  refine Sheets.write (.other ?_ rfl rfl) (recomputeChecklistStatus_sheets checklistUid)
  exact .patchRow taskUid task _ stored rfl rfl (.inl rfl) (.inl rfl) (.inl rfl)

theorem setChecklistTaskCell_sheets (checklistUid taskUid columnUid : String) (args : Value) :
    Sheets grant (setChecklistTaskCell checklistUid taskUid columnUid args) := by
  rintro ⟨core₀, draws⟩
  unfold setChecklistTaskCell
  refine onRow_sheets fun task stored owner => seenRead (Proc.Spec.guarded fun known => ?_)
  have known : ((core₀.checklistColumns.get columnUid).any fun column => column.checklistUid == some checklistUid) = true := by
    simpa using known
  obtain ⟨column, field, same⟩ := (Option.any_eq_true _ _).1 known
  have same : column.checklistUid = some task.checklistUid := by
    rw [owner]
    simpa using same
  refine seenClock fun now => seenRead ?_
  cases found : findCell core₀ taskUid columnUid with
  | some existing =>
    obtain ⟨key, held⟩ := Dict.mem_values.1 (List.mem_of_find?_eq_some found)
    -- the cell that is there is written over
    dsimp only
    refine seenNamed existing.cellUid (Sheets.write (.edit ?_ .refl (fun filed uid absent _ => ?_) ?_) (recomputeChecklistStatus_sheets checklistUid))
    · exact .setCell existing.cellUid _ task column rfl stored field same (.inl (congrArg _ found))
    · dsimp only
      rw [Dict.get_insert_ne, absent]
      rintro rfl
      rw [filed key existing held] at absent
      cases absent.symm.trans held
    · exact fun filed => filed.insert rfl
  | none =>
    refine seenDraw (seenWrite (Proc.Moves.behind (.single ⟨1, rfl, fun fresh filed => ?_⟩) (recomputeChecklistStatus_sheets checklistUid _)))
    refine ⟨.single ?_, fun sure => ⟨(filed sure).insert rfl, .refl, KeysDrawn.insert _⟩⟩
    exact .setCell _ _ task column rfl stored field same (.inr ⟨found, fun sure => (fresh sure).cells 0 Nat.one_pos⟩)

theorem setChecklistTaskStatus_sheets (checklistUid taskUid : String) (args : Value)
    (blank : optionalText args ["user_status"] = none → grant.blankStatus) :
    Sheets grant (setChecklistTaskStatus checklistUid taskUid args) := by
  rintro ⟨core₀, draws⟩
  unfold setChecklistTaskStatus
  refine onRow_sheets fun task stored _ => Proc.Spec.checked fun userStatus read => seenClock fun now => ?_
  have user : userStatus ∈ userStatuses ∨ grant.blankStatus ∧ userStatus = "" := by
    refine (normalizeEnum_member read).imp_right fun ⟨empty, unset⟩ => ⟨blank ?_, unset⟩
    cases given : optionalText args ["user_status"] with
    | none => rfl
    | some text =>
      rw [given] at empty
      obtain ⟨trimmed, nonempty⟩ := optionalText_trimmed given
      rw [Option.getD_some, trimmed, nonempty] at empty
      exact absurd empty nofun
  refine derivedThen fun status late known => ?_
  refine Sheets.write (.other ?_ rfl rfl) (recomputeChecklistStatus_sheets checklistUid)
  exact .patchRow taskUid task _ stored rfl rfl (.inl rfl) (.inr user) (.inr known)

/-- The task commands, by the number and the blank status they may give. -/
theorem applyChecklistTaskCommand_sheets (command : MissionCommandEnvelope)
    (number : command.commandType = "checklist.task.row.add" → ∀ taskUid checklist times,
      (∀ named, optionalText command.args ["task_uid"] = some named → taskUid = named) →
        taskRowTimesFromArgs checklist command.args = .ok times → grant.number taskUid times.number)
    (blank : command.commandType = "checklist.task.status.set" → optionalText command.args ["user_status"] = none →
      grant.blankStatus) : Sheets grant (applyChecklistTaskCommand command) := by
  unfold applyChecklistTaskCommand
  dsimp only
  refine .checked fun checklistUid _ => ?_
  have answered (m : CoreM ChecklistRecord) (h : Sheets grant m) :
      Sheets grant (m >>= fun checklist => do return (← core).checklistValue checklist) :=
    .bind h fun _ => Sheets.read fun _ => .pure _
  split
  · rename_i add
    exact answered _ (addChecklistTaskRow_sheets _ _ (number add))
  · exact .checked fun _ _ => answered _ (deleteChecklistTaskRow_sheets _ _)
  · exact .checked fun _ _ => answered _ (setChecklistTaskRowStyle_sheets _ _ _)
  · exact .checked fun _ _ => .checked fun _ _ => answered _ (setChecklistTaskCell_sheets _ _ _ _)
  · rename_i set
    exact .checked fun _ _ => answered _ (setChecklistTaskStatus_sheets _ _ _ (blank set))
  · exact .throw _

/-! ## Templates -/

/-- The columns of a template replaced. -/
theorem replaceTemplateColumns_puts (fresh : Prop) (templateUid : String) (columns : List Value) (now : Int) {core₀ : RchCore}
    {draws : Nat → Uuid} :
    Proc.Spec drawsSeen (replaceTemplateColumns templateUid columns now) (core₀, draws) fun r v' =>
      r = .ok () ∧ ∃ table, v' = ({ core₀ with checklistColumns := table }, drawsFrom columns.length draws) ∧
        ((fresh → FreshDraws columns.length core₀ draws) →
          ColumnsPut fresh ((ColumnOwner.template templateUid).column now) 0 columns
            (core₀.checklistColumns.retain fun _ column => column.templateUid != some templateUid) table ∧
          (fresh → KeysDrawn columns.length draws core₀.checklistColumns table)) := by
  unfold replaceTemplateColumns
  refine seenWrite ((insertColumns_puts fresh).mono ?_)
  rintro r v' ⟨rfl, table, rfl, put⟩
  refine ⟨rfl, table, rfl, fun given => ?_⟩
  have gone : KeysDrawn 0 draws core₀.checklistColumns
      (core₀.checklistColumns.retain fun _ column => column.templateUid != some templateUid) := KeysDrawn.refl.retain _
  obtain ⟨put, drawn⟩ := put fun sure =>
    ⟨(given sure).apart, fun n bound => gone _ ((given sure).columns n bound) nofun, (given sure).cells⟩
  refine ⟨put, fun sure => ?_⟩
  have both := gone.trans (drawn sure)
  rwa [Nat.zero_add] at both

theorem createChecklistTemplate_sheets (template : Value) (sourceTemplateUid : Option String)
    (given : ∀ uid columns, checklistColumnsFromArgs (template.get "columns") = .ok columns →
      grant.columns (.template uid) (defaultedChecklistColumns columns)) :
    Sheets grant (createChecklistTemplate template sourceTemplateUid) := by
  rintro ⟨core₀, draws⟩
  unfold createChecklistTemplate
  refine seenClock fun now => Sheets.drawUnless fun uid draws _ => ?_
  refine Proc.Spec.checked fun createdAt _ => Proc.Spec.checked fun updatedAt _ => ?_
  refine Proc.Spec.checked fun columns parsed => Proc.Spec.checked fun _ valid => ?_
  refine seenWrite (Proc.Spec.bind (replaceTemplateColumns_puts grant.fresh _ _ _) ?_ ?_)
  · rintro - v' ⟨-, table, rfl, put⟩
    have some_ : defaultedChecklistColumns columns ≠ [] := by
      unfold defaultedChecklistColumns
      split
      · exact List.cons_ne_nil _ _
      · simpa using ‹¬columns.isEmpty = true›
    refine Proc.Spec.done (.single ⟨_, rfl, fun fresh filed => ?_⟩)
    obtain ⟨put, drawn⟩ := put fun sure => ⟨(fresh sure).apart, (fresh sure).columns, (fresh sure).cells⟩
    refine ⟨.single ?_, fun sure => ⟨filed sure, drawn sure, .refl⟩⟩
    exact .createTemplate uid _ _ now table valid some_ (given uid columns parsed) put
  · rintro e v' ⟨failed, -⟩
    exact nomatch failed

theorem updateChecklistTemplate_sheets (templateUid : String) (patch : Value) {core₀ : RchCore} {draws : Nat → Uuid}
    (given : ∀ columns, core₀.checklistTemplates.contains templateUid = true → patch.containsKey "columns" = true →
      checklistColumnsFromArgs (patch.get "columns") = .ok columns → grant.columns (.template templateUid) columns) :
    Proc.Spec drawsSeen (updateChecklistTemplate templateUid patch) (core₀, draws)
      (Proc.Outcome False (SheetSteps grant) (core₀, draws)) := by
  unfold updateChecklistTemplate
  refine seenRead (Proc.Spec.guarded fun known => Proc.Moves.follow ?_ fun _ => ?_)
  · unfold patchTemplateColumns
    refine Proc.Spec.ite (fun has => ?_) fun _ => Proc.Spec.answer
    refine Proc.Spec.checked fun columns parsed => Proc.Spec.checked fun _ valid => seenClock fun now => ?_
    refine (replaceTemplateColumns_puts grant.fresh _ _ _).mono ?_
    rintro r v' ⟨rfl, table, rfl, put⟩
    refine ⟨.single ⟨_, rfl, fun fresh filed => ?_⟩, False.elim, fun _ _ => trivial⟩
    obtain ⟨put, drawn⟩ := put fresh
    have there : core₀.checklistTemplates.contains templateUid = true := by simpa using known
    refine ⟨.single ?_, fun sure => ⟨filed sure, drawn sure, .refl⟩⟩
    exact .replaceColumns templateUid columns now table there valid (given columns there has parsed) put
  · rintro ⟨core₁, draws₁⟩
    refine seenRead (Proc.Spec.required fun template stored => seenClock fun now => ?_)
    exact Sheets.write (.other (.patchTemplate templateUid _ (Dict.contains_iff.2 ⟨_, stored⟩)) rfl rfl) (.pure _)

theorem deleteChecklistTemplate_sheets (templateUid : String) : Sheets grant (deleteChecklistTemplate templateUid) := by
  rintro ⟨core₀, draws⟩
  unfold deleteChecklistTemplate
  refine seenRead (Proc.Spec.required fun template _ => seenRead ?_)
  refine Sheets.write (.edit (.deleteTemplate templateUid) (KeysDrawn.refl.retain _) ?_ ?_) (.pure _)
  · exact fun _ => .refl
  · exact fun filed => filed

end
end TelemetryHub
