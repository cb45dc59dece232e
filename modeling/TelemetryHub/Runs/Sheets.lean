import TelemetryHub.Lib.Entries
import TelemetryHub.Edits.SheetCommands
import TelemetryHub.Runs.Commands

/-!
# Sheets along a run

Each task of a checklist has a cell in each column of it, and no cell is anywhere else. The
steps of the checklist commands keep that, and the commands of the other families leave the
sheets alone.
-/

namespace TelemetryHub

open Lib CoreM

/-- The tables of the sheets. -/
structure SheetTables where
  checklists : Dict String ChecklistRecord
  templates : Dict String ChecklistTemplateRecord
  columns : Dict String ChecklistColumnRecord
  tasks : Dict String ChecklistTaskRecord
  cells : Dict String ChecklistCellRecord

def RchCore.sheets (core : RchCore) : SheetTables :=
  ⟨core.checklists, core.checklistTemplates, core.checklistColumns, core.checklistTasks, core.checklistCells⟩

/-! ## Runs -/

section

variable [Host]

omit [Host] in
theorem JournalEdit.sheets {core core' : RchCore} (entry : JournalEdit core core') : core'.sheets = core.sheets := by
  cases entry <;> rfl

/-- A write of another family leaves the sheets as they are. -/
theorem CommandFamily.Edit.sheets {family : CommandFamily} (other : family ≠ .checklist) {core core' : RchCore}
    (edit : family.Edit core core') : core'.sheets = core.sheets := by
  have assets : ∀ core core', AssetEdit core core' → core'.sheets = core.sheets := by
    intro core core' edit
    cases edit with
    | journal entry => exact entry.sheets
    | _ => rfl
  cases family with
  | asset => exact assets _ _ edit
  | skill => exact assets _ _ edit
  | assignment => exact assets _ _ edit
  | checklist => exact absurd rfl other
  | _ => cases edit <;> rfl

omit [Host] in
/-- A step of the journal, which leaves the draws to those that are still to come. -/
def DrawStep (w w' : World) : Prop :=
  (w'.core = w.core ∨ JournalEdit w.core w'.core) ∧ ∃ k, w'.draws = drawsFrom k w.draws

omit [Host] in
theorem drawMoves : JournalMoves DrawStep where
  read := .step fun _ => ⟨.inl rfl, 0, rfl⟩
  clock := .step fun _ => ⟨.inl rfl, 0, rfl⟩
  draw := .step fun _ => ⟨.inl rfl, 1, rfl⟩
  write edit _ := .step fun w => ⟨.inr (edit w.core), 0, rfl⟩

omit [Host] in
theorem drawSteps_keep {w w' : World} (steps : Relation.ReflTransGen DrawStep w w') :
    w'.core.sheets = w.core.sheets ∧ ∃ k, w'.draws = drawsFrom k w.draws := by
  induction steps with
  | refl => exact ⟨rfl, 0, rfl⟩
  | tail _ step ih =>
    obtain ⟨same, k, draws⟩ := ih
    obtain ⟨edit, k', draws'⟩ := step
    refine ⟨?_, k + k', ?_⟩
    · rcases edit with core | edit
      · rw [core, same]
      · rw [edit.sheets, same]
    · rw [draws', draws, drawsFrom_drawsFrom]

/-- What a command gives depends on the sheets only. -/
theorem GivesColumns.of_same {core core' : RchCore} {command : MissionCommandEnvelope} {owner : ColumnOwner}
    {given : List Value} (h : GivesColumns core command owner given) (same : core'.sheets = core.sheets) :
    GivesColumns core' command owner given := by
  have templates : core'.checklistTemplates = core.checklistTemplates := congrArg SheetTables.templates same
  have columns : core'.checklistColumns = core.checklistColumns := congrArg SheetTables.columns same
  have values : core'.templateColumnValues = core.templateColumnValues := by
    funext uid
    rw [RchCore.templateColumnValues, columns, RchCore.templateColumnValues]
  cases h with
  | templateCreate template columns uid type named parsed => exact .templateCreate template columns uid type named parsed
  | templateUpdate patch columns uid type template there named has parsed =>
    exact .templateUpdate patch _ uid type template (templates ▸ there) named has parsed
  | templateClone source uid type named =>
    rw [← values]
    exact .templateClone source uid type named
  | create columns columns' name uid type parsed templated =>
    refine .create columns columns' name uid type parsed ?_
    unfold checklistTemplateFromArgs at templated ⊢
    rw [templates, values]
    exact templated
  | importCsv headerRow taskRows uid type rows => exact .importCsv headerRow taskRows uid type rows

theorem sheetGrant_same (fresh : Prop) {core core' : RchCore} (same : core'.sheets = core.sheets)
    (command : MissionCommandEnvelope) : sheetGrant fresh core' command = sheetGrant fresh core command := by
  have gives : GivesColumns core' command = GivesColumns core command := by
    funext owner given
    exact propext ⟨fun h => h.of_same same.symm, fun h => h.of_same same⟩
  unfold sheetGrant
  rw [gives]

/-- The draws that the command makes are fresh, however many they are as the draws that are
left tell. -/
def CommandEntry.DrawsFresh (entry : CommandEntry) (command : MissionCommandEnvelope) (w : World) : Prop :=
  ∀ k, (entry.after command w).draws = drawsFrom k w.draws → FreshDraws k w.core w.draws

/-- What depends on the sheets only and is preserved by the steps of a command, whose draws are
fresh where they are to be, the command preserves. -/
theorem CommandEntry.after_sheets {P : RchCore → Prop} (fresh : Prop) (entry : CommandEntry) (command : MissionCommandEnvelope)
    (w : World) (draws : fresh → entry.DrawsFresh command w) (filed : fresh → CellsFiled w.core.checklistCells)
    (others : ∀ core core', core'.sheets = core.sheets → P core → P core')
    (edits : ∀ core core', P core → SheetEdit (sheetGrant fresh w.core command) core core' → P core') (h : P w.core) :
    P (entry.after command w).core := by
  rcases entry.after_cases drawMoves command w with quiet | ⟨family, w', before, behind⟩
  · exact others _ _ (drawSteps_keep quiet).1 h
  · obtain ⟨same, k, drawn⟩ := drawSteps_keep before
    obtain ⟨same', k'', drawn''⟩ := drawSteps_keep behind
    have h' : P w'.core := others _ _ same h
    refine others _ _ same' ?_
    by_cases checklists : family = .checklist
    · subst checklists
      have columns : w'.core.checklistColumns = w.core.checklistColumns := congrArg SheetTables.columns same
      have cells : w'.core.checklistCells = w.core.checklistCells := congrArg SheetTables.cells same
      have spec : Proc.Spec drawsSeen (applyChecklistCommand command) (w'.core, w'.draws)
          (Proc.Outcome False (SheetSteps (sheetGrant fresh w'.core command)) (w'.core, w'.draws)) :=
        applyChecklistCommand_sheets command w'.core w'.draws
      rw [sheetGrant_same fresh same] at spec
      obtain ⟨k', drawn', steps⟩ := SheetSteps.of_gen (spec w' rfl trivial).1.steps
      have all : (entry.after command w).draws = drawsFrom (k + (k' + k'')) w.draws := by
        rw [drawn'', show ((CommandFamily.checklist.apply command).run w').2.draws = _ from drawn', drawn,
          drawsFrom_drawsFrom, drawsFrom_drawsFrom]
      have rest : fresh → FreshDraws k' w'.core w'.draws := by
        intro sure
        rw [drawn]
        refine ((draws sure _ all).mono (by omega : k + k' ≤ k + (k' + k''))).later ?_ ?_
        · rw [columns]
          exact .refl
        · rw [cells]
          exact .refl
      have path : Relation.ReflTransGen (SheetEdit (sheetGrant fresh w.core command)) w'.core
          ((CommandFamily.checklist.apply command).run w').2.core := (steps rest fun sure => cells ▸ filed sure).1
      generalize ((CommandFamily.checklist.apply command).run w').2.core = core' at path ⊢
      induction path with
      | refl => exact h'
      | tail _ edit ih => exact edits _ _ ih edit
    · exact family.apply_holds checklists (fun core core' h edit => others core core' (edit.sheets checklists) h) command w' h'

end

/-! ## Drills with draws of their own -/

instance (k : Nat) (core : RchCore) (draws : Nat → Uuid) : Decidable (FreshDraws k core draws) :=
  decidable_of_iff ((∀ i < k, ∀ j < k, (draws i).simple = (draws j).simple → i = j) ∧
      (∀ n < k, core.checklistColumns.get (draws n).simple = none) ∧ ∀ n < k, core.checklistCells.get (draws n).simple = none)
    ⟨fun ⟨apart, columns, cells⟩ => ⟨fun i j hi hj => apart i hi j hj, columns, cells⟩,
      fun fresh => ⟨fun i hi j hj => fresh.apart i j hi hj, fresh.columns, fresh.cells⟩⟩

/-- The draws of a command with so many commands before it, some of its own and then one over
and over. -/
def drillDraws (earlier : Nat) : Nat → Uuid := fun n => Uuid.ofNat (24 * earlier + min n 23)

section

variable [Host]

/-- The world of the next command behind commands with draws of their own, the latest first. -/
def drillWorld : List MissionCommandEnvelope → World
  | [] => ⟨RchCore.new, fun _ => ⟨0, "1970-01-01T00:00:00Z"⟩, drillDraws 0⟩
  | command :: earlier => ⟨(CommandEntry.command.after command (drillWorld earlier)).core,
      fun _ => ⟨0, "1970-01-01T00:00:00Z"⟩, drillDraws (earlier.length + 1)⟩

theorem drillWorld_draws (commands : List MissionCommandEnvelope) : (drillWorld commands).draws = drillDraws commands.length := by
  cases commands <;> rfl

/-- Each command of the drill draws less than there is, and what it draws is fresh. -/
def DrillFresh : List MissionCommandEnvelope → Prop
  | [] => True
  | command :: earlier => DrillFresh earlier ∧
      (CommandEntry.command.after command (drillWorld earlier)).draws 0 ≠ drillDraws earlier.length 23 ∧
      ∀ k < 23, (CommandEntry.command.after command (drillWorld earlier)).draws 0 = drillDraws earlier.length k →
        FreshDraws k (drillWorld earlier).core (drillDraws earlier.length)

def DrillFresh.decide : (commands : List MissionCommandEnvelope) → Decidable (DrillFresh commands)
  | [] => .isTrue trivial
  | _ :: earlier => @instDecidableAnd _ _ (DrillFresh.decide earlier) inferInstance

instance (commands : List MissionCommandEnvelope) : Decidable (DrillFresh commands) := DrillFresh.decide commands

theorem DrillFresh.earlier {command : MissionCommandEnvelope} {earlier : List MissionCommandEnvelope}
    (h : DrillFresh (command :: earlier)) : DrillFresh earlier := h.1

/-- The latest command of a drill has fresh draws. -/
theorem DrillFresh.latest {command : MissionCommandEnvelope} {earlier : List MissionCommandEnvelope}
    (h : DrillFresh (command :: earlier)) : CommandEntry.command.DrawsFresh command (drillWorld earlier) := by
  intro k left
  obtain ⟨-, some_, each⟩ := h
  have first : (CommandEntry.command.after command (drillWorld earlier)).draws 0 = drillDraws earlier.length k := by
    rw [← drillWorld_draws]
    simpa [drawsFrom] using congrFun left 0
  rw [drillWorld_draws]
  by_cases less : k < 23
  · exact each k less first
  · refine absurd (first.trans ?_) some_
    unfold drillDraws
    congr 2
    omega

/-- A drill with fresh draws is a run. -/
theorem DrillFresh.run {commands : List MissionCommandEnvelope} (h : DrillFresh commands) :
    CommandRun CommandEntry.DrawsFresh RchCore.new (drillWorld commands).core := by
  induction commands with
  | nil => exact .refl _
  | cons command earlier ih =>
    have fresh : CommandEntry.command.DrawsFresh command
        ⟨(drillWorld earlier).core, (drillWorld earlier).clock, (drillWorld earlier).draws⟩ := h.latest
    exact .step (ih h.earlier) fresh

end
end TelemetryHub
