import Mathlib.Data.List.Forall2
import TelemetryHub.Runs.Grid

/-!
# The column of the due time

Every checklist and every template has one column of the due time, and the columns it has are
those of a list that it was given. The update of a template checks the list that stands in for
an empty one and installs the empty one.
-/

namespace TelemetryHub

open Lib CoreM

/-- The column is the one of the due time, by its system key. -/
def ChecklistColumnRecord.isDue (column : ChecklistColumnRecord) : Bool := column.systemKey == some "DUE_RELATIVE_DTG"

/-- One of the columns is that of the due time, of its type and there to stay. -/
def DueOnce (columns : List ChecklistColumnRecord) : Prop :=
  ∃ due, columns.filter ChecklistColumnRecord.isDue = [due] ∧ due.columnType = "RELATIVE_TIME" ∧ due.isRemovable = false

/-- The display order a column of a list is given, its place by default. -/
def givenOrder (column : Value) (index : Nat) : Int := ((column.get "display_order").bind valueAsI64).getD (index + 1)

/-- The columns are those of the list, as they are written for the owner. -/
def Installed [Host] (owner : ColumnOwner) (given : List Value) (columns : List ChecklistColumnRecord) : Prop :=
  ∃ now records, columns.Perm records ∧
    List.Forall₂ (fun entry column => ∃ uid, column = owner.column now entry.2 entry.1 uid) given.zipIdx records

section

variable [Host]

/-! ## Lists -/

theorem validateChecklistColumns_defaulted (columns : List Value) :
    validateChecklistColumns (defaultedChecklistColumns columns) = validateChecklistColumns columns := by
  have twice : defaultedChecklistColumns (defaultedChecklistColumns columns) = defaultedChecklistColumns columns := by
    unfold defaultedChecklistColumns
    split
    · rfl
    · rfl
  unfold validateChecklistColumns
  rw [twice]

omit [Host] in
theorem defaultedChecklistColumns_ne_nil (columns : List Value) : defaultedChecklistColumns columns ≠ [] := by
  unfold defaultedChecklistColumns
  split
  · exact List.cons_ne_nil _ _
  · rename_i some_
    simpa using some_

/-- What the check of a list says of one that is not empty. -/
theorem validateChecklistColumns_due {given : List Value} (valid : validateChecklistColumns given = .ok ()) (some_ : given ≠ []) :
    ∃ due, given.filter (fun column => optionalText column ["system_key"] = some "DUE_RELATIVE_DTG") = [due] ∧
      optionalText due ["column_type"] = some "RELATIVE_TIME" ∧ (optionalBool due "is_removable").getD true = false := by
  have same : defaultedChecklistColumns given = given := by
    rw [defaultedChecklistColumns, if_neg (by simpa using some_)]
  unfold validateChecklistColumns at valid
  rw [same] at valid
  dsimp only at valid
  split at valid
  · rename_i due single
    split at valid
    · exact nomatch valid
    · rename_i typed
      split at valid
      · exact nomatch valid
      · rename_i stays
        exact ⟨due, single, not_not.1 typed, Bool.eq_false_of_not_eq_true stays⟩
  · exact nomatch valid

/-- The key of a column is the text of its value, where that is not blank. -/
theorem ColumnOwner.column_due (owner : ColumnOwner) (now : Int) (index : Nat) (value : Value) (uid : String) :
    (owner.column now index value uid).isDue = true ↔ optionalText value ["system_key"] = some "DUE_RELATIVE_DTG" := by
  have key : (owner.column now index value uid).systemKey = (optionalTextOrEmpty value ["system_key"]).bind noneIfEmpty := by
    cases owner <;> rfl
  rw [ChecklistColumnRecord.isDue, key, beq_iff_eq, optionalText, optionalTextOrEmpty]
  cases findText value ["system_key"] with
  | none => simp
  | some raw =>
    rw [Option.map_some, Option.bind_some, noneIfEmpty, Option.filter_some, trim_trim]
    cases (trim raw).isEmpty with
    | true => simp
    | false => exact Iff.rfl

theorem ColumnOwner.column_type (owner : ColumnOwner) (now : Int) (index : Nat) {value : Value} (uid : String)
    (typed : optionalText value ["column_type"] = some "RELATIVE_TIME") :
    (owner.column now index value uid).columnType = "RELATIVE_TIME" := by
  have written : (owner.column now index value uid).columnType =
      ((optionalText value ["column_type"]).bind fun value => (normalizeChecklistColumnType value).toOption).getD "SHORT_STRING" := by
    cases owner <;> rfl
  have known : normalizeChecklistColumnType "RELATIVE_TIME" = .ok "RELATIVE_TIME" := by decide
  rw [written, typed, Option.bind_some, known]
  rfl

theorem ColumnOwner.column_removable (owner : ColumnOwner) (now : Int) (index : Nat) (value : Value) (uid : String) :
    (owner.column now index value uid).isRemovable = (optionalBool value "is_removable").getD true := by
  cases owner <;> rfl

theorem ColumnOwner.column_order (owner : ColumnOwner) (now : Int) (index : Nat) (value : Value) (uid : String) :
    (owner.column now index value uid).displayOrder = givenOrder value index := by
  cases owner <;> rfl

omit [Host] in
theorem DueOnce.perm {columns columns' : List ChecklistColumnRecord} (h : DueOnce columns) (perm : columns'.Perm columns) :
    DueOnce columns' := by
  obtain ⟨due, single, typed, stays⟩ := h
  have filtered := perm.filter ChecklistColumnRecord.isDue
  rw [single] at filtered
  exact ⟨due, List.perm_singleton.1 filtered, typed, stays⟩

/-- A list that is not empty and passes the check installs the column once. -/
theorem Installed.dueOnce {owner : ColumnOwner} {given : List Value} {columns : List ChecklistColumnRecord}
    (installed : Installed owner given columns) (valid : validateChecklistColumns given = .ok ()) (some_ : given ≠ []) :
    DueOnce columns := by
  obtain ⟨now, records, perm, each⟩ := installed
  refine DueOnce.perm ?_ perm
  obtain ⟨due, single, typed, stays⟩ := validateChecklistColumns_due valid some_
  have alike : Relator.LiftFun (fun (entry : Value × Nat) column => ∃ uid, column = owner.column now entry.2 entry.1 uid) Iff
      (fun entry => (decide (optionalText entry.1 ["system_key"] = some "DUE_RELATIVE_DTG")) = true)
      (fun column => column.isDue = true) := by
    rintro entry column ⟨uid, rfl⟩
    exact decide_eq_true_iff.trans (owner.column_due now entry.2 entry.1 uid).symm
  have filtered := List.rel_filter alike each
  have entries : ∃ index, given.zipIdx.filter (fun entry => decide (optionalText entry.1 ["system_key"] = some "DUE_RELATIVE_DTG")) =
      [(due, index)] := by
    have mapped : (given.zipIdx.filter fun entry => decide (optionalText entry.1 ["system_key"] = some "DUE_RELATIVE_DTG")).map Prod.fst =
        [due] := by
      rw [← single, ← List.zipIdx_map_fst 0 given, List.filter_map, List.zipIdx_map_fst]
      rfl
    obtain ⟨entry, alone, same⟩ := List.map_eq_singleton_iff.1 mapped
    subst same
    exact ⟨entry.2, alone⟩
  obtain ⟨index, alone⟩ := entries
  rw [alone] at filtered
  obtain ⟨column, rest, ⟨uid, rfl⟩, none, split⟩ := List.forall₂_cons_left_iff.1 filtered
  rw [List.forall₂_nil_left_iff.1 none] at split
  exact ⟨_, split, owner.column_type now index uid typed, (owner.column_removable now index due uid).trans stays⟩

/-- The display orders are the ones that the list gives. -/
theorem Installed.orders {owner : ColumnOwner} {given : List Value} {columns : List ChecklistColumnRecord}
    (installed : Installed owner given columns) :
    (columns.map ChecklistColumnRecord.displayOrder).Perm (given.zipIdx.map fun entry => givenOrder entry.1 entry.2) := by
  obtain ⟨now, records, perm, each⟩ := installed
  refine (perm.map _).trans (.of_eq ?_)
  clear perm
  generalize given.zipIdx = entries at each ⊢
  induction each with
  | nil => rfl
  | cons one _ ih =>
    obtain ⟨uid, rfl⟩ := one
    rw [List.map_cons, List.map_cons, ih, owner.column_order]

/-! ## What each step keeps -/

namespace ColumnsPut

variable {fresh : Prop} {owner other : ColumnOwner} {now : Int} {index : Nat} {given : List Value}
  {table table' : Dict String ChecklistColumnRecord}

theorem others (put : ColumnsPut fresh (owner.column now) index given table table') (sure : fresh) (apart : other ≠ owner) :
    table'.values.filter other.has = table.values.filter other.has := by
  induction put with
  | nil => rfl
  | cons uid absent tail ih =>
    rename_i index value _ _ _
    have unowned : ¬other.has (owner.column now index value uid) = true :=
      fun has => apart ((owner.has_column other now index value uid).1 has)
    rw [ih, Dict.values_insert_absent (absent sure), List.filter_cons_of_neg unowned]

/-- The columns of the owner are there behind those that were. -/
theorem own (put : ColumnsPut fresh (owner.column now) index given table table') (sure : fresh) :
    ∃ records, List.Forall₂ (fun entry column => ∃ uid, column = owner.column now entry.2 entry.1 uid) (given.zipIdx index) records ∧
      (table'.values.filter owner.has).Perm (records ++ table.values.filter owner.has) := by
  induction put with
  | nil => exact ⟨[], .nil, .refl _⟩
  | cons uid absent tail ih =>
    rename_i index value _ _ _
    obtain ⟨records, each, there⟩ := ih
    have owned : owner.has (owner.column now index value uid) = true := (owner.has_column owner now index value uid).2 rfl
    rw [Dict.values_insert_absent (absent sure), List.filter_cons_of_pos owned] at there
    exact ⟨_, .cons ⟨uid, rfl⟩ each, there.trans List.perm_middle⟩

end ColumnsPut

namespace SheetsWhole

variable {core : RchCore}

omit [Host] in
/-- An owner that is not there has no columns. -/
theorem unknown_empty (h : SheetsWhole core) {owner : ColumnOwner} (unknown : owner.known core = false) :
    core.columnsOf owner = [] := by
  rw [RchCore.columnsOf, List.filter_eq_nil_iff]
  intro column mem mine
  obtain ⟨uid, stored⟩ := Dict.mem_values.1 mem
  obtain ⟨owner', known, only⟩ := h.columnOwners uid column stored
  rw [(only owner).1 mine, known] at unknown
  exact nomatch unknown

omit [Host] in
/-- With the columns of one owner gone those of the others are there. -/
theorem without_others (h : SheetsWhole core) {owner other : ColumnOwner} (apart : other ≠ owner) :
    (core.checklistColumns.retain fun _ column => !owner.has column).values.filter other.has = core.columnsOf other := by
  refine Dict.filter_values_retain fun uid column stored mine => ?_
  obtain ⟨owner', -, only⟩ := h.columnOwners uid column stored
  rw [Bool.not_eq_true']
  refine Bool.eq_false_of_not_eq_true fun here => apart ?_
  rw [(only other).1 mine, (only owner).1 here]

end SheetsWhole

omit [Host] in
theorem without_own (columns : Dict String ChecklistColumnRecord) (owner : ColumnOwner) :
    (columns.retain fun _ column => !owner.has column).values.filter owner.has = [] := by
  rw [List.filter_eq_nil_iff]
  intro column mem mine
  obtain ⟨uid, stored⟩ := Dict.mem_values.1 mem
  rw [Dict.get_retain] at stored
  have gone := (Option.filter_eq_some_iff.1 stored).2
  rw [mine] at gone
  exact nomatch gone

/-- An owner that is there has the columns that it had, or those of a list that it is given. -/
def ColumnsGiven (gives : ColumnOwner → List Value → Prop) (core core' : RchCore) : Prop :=
  ∀ owner : ColumnOwner, owner.known core' = true →
    (owner.known core = true ∧ (core'.columnsOf owner).Perm (core.columnsOf owner)) ∨
      ∃ given, gives owner given ∧ validateChecklistColumns given = .ok () ∧ Installed owner given (core'.columnsOf owner)

namespace ColumnsGiven

variable {gives : ColumnOwner → List Value → Prop} {core core' core'' : RchCore}

/-- The columns stay, and no owner is new. -/
theorem of_fewer (known : ∀ owner : ColumnOwner, owner.known core' = true → owner.known core = true)
    (columns : core'.checklistColumns = core.checklistColumns) : ColumnsGiven gives core core' := by
  intro owner there
  refine .inl ⟨known owner there, ?_⟩
  rw [RchCore.columnsOf, columns]
  exact .refl _

theorem of_same (same : core'.sheets = core.sheets) : ColumnsGiven gives core core' := by
  have checklists : core'.checklists = core.checklists := congrArg SheetTables.checklists same
  have templates : core'.checklistTemplates = core.checklistTemplates := congrArg SheetTables.templates same
  refine of_fewer (fun owner there => ?_) (congrArg SheetTables.columns same)
  cases owner with
  | checklist uid => exact (congrArg (fun table => table.contains uid) checklists).symm.trans there
  | template uid => exact (congrArg (fun table => table.contains uid) templates).symm.trans there

theorem trans (first : ColumnsGiven gives core core') (second : ColumnsGiven gives core' core'') :
    ColumnsGiven gives core core'' := by
  intro owner there
  rcases second owner there with ⟨known, same⟩ | given
  · rcases first owner known with ⟨known', same'⟩ | ⟨given, gave, valid, now, records, perm, each⟩
    · exact .inl ⟨known', same.trans same'⟩
    · exact .inr ⟨given, gave, valid, now, records, same.trans perm, each⟩
  · exact .inr given

/-- A list put in for an owner that had no columns. -/
theorem of_put {owner : ColumnOwner} {given : List Value} {now : Int} {table : Dict String ChecklistColumnRecord}
    {fresh : Prop} (sure : fresh) (put : ColumnsPut fresh (owner.column now) 0 given table core'.checklistColumns) (gave : gives owner given)
    (valid : validateChecklistColumns given = .ok ()) (none : table.values.filter owner.has = [])
    (others : ∀ other : ColumnOwner, other ≠ owner → table.values.filter other.has = core.columnsOf other ∧
      (other.known core' = true → other.known core = true)) : ColumnsGiven gives core core' := by
  intro other there
  by_cases mine : other = owner
  · subst mine
    obtain ⟨records, each, perm⟩ := put.own sure
    rw [none, List.append_nil] at perm
    exact .inr ⟨given, gave, valid, now, records, perm, each⟩
  · obtain ⟨same, known⟩ := others other mine
    refine .inl ⟨known there, ?_⟩
    rw [RchCore.columnsOf, put.others sure mine, same]

/-- An owner taken away with its columns. -/
theorem of_retain (h : SheetsWhole core) {gone : ColumnOwner}
    (columns : core'.checklistColumns = core.checklistColumns.retain fun _ column => !gone.has column)
    (known : ∀ other : ColumnOwner, other.known core' = true → other ≠ gone ∧ other.known core = true) :
    ColumnsGiven gives core core' := by
  intro owner there
  obtain ⟨apart, before⟩ := known owner there
  refine .inl ⟨before, ?_⟩
  rw [RchCore.columnsOf, columns, h.without_others apart]

omit [Host] in
theorem contains_of_remove {V : Type} {table : Dict String V} {uid uid' : String} (there : (table.remove uid).contains uid' = true) :
    uid' ≠ uid ∧ table.contains uid' = true := by
  obtain ⟨value, stored⟩ := Dict.contains_iff.1 there
  rw [Dict.get_remove] at stored
  split at stored
  · cases stored
  · rename_i apart
    exact ⟨apart, Dict.contains_iff.2 ⟨value, stored⟩⟩

/-- Each step leaves an owner its columns or installs a list. -/
theorem step {grant : SheetGrant} (sure : grant.fresh) (h : SheetsWhole core) (edit : SheetEdit grant core core') :
    ColumnsGiven grant.columns core core' := by
  cases edit with
  | createChecklist uid checklist columns now table absent enumerated valid given put =>
    have unknown : (ColumnOwner.checklist uid).known core = false := Dict.contains_eq_false.2 absent
    refine of_put sure put given (by rw [validateChecklistColumns_defaulted, valid]) (h.unknown_empty unknown) fun other apart => ?_
    refine ⟨rfl, fun there => ?_⟩
    cases other with
    | template uid' => exact there
    | checklist uid' =>
      refine (Dict.contains_insert.1 there).resolve_left fun same => ?_
      exact apart (congrArg _ same)
  | patchChecklist uid old checklist stored enumerated =>
    refine of_fewer (fun owner there => ?_) rfl
    cases owner with
    | template uid' => exact there
    | checklist uid' =>
      rcases Dict.contains_insert.1 there with rfl | there
      · exact Dict.contains_iff.2 ⟨old, stored⟩
      · exact there
  | deleteChecklist uid =>
    have gone : (core.checklistColumns.retain fun _ column => column.checklistUid != some uid) =
        core.checklistColumns.retain fun _ column => !(ColumnOwner.checklist uid).has column := rfl
    refine of_retain h gone fun other there => ?_
    cases other with
    | template uid' => exact ⟨nofun, there⟩
    | checklist uid' =>
      obtain ⟨apart, before⟩ := contains_of_remove there
      exact ⟨fun same => apart (ColumnOwner.checklist.inj same), before⟩
  | createTemplate uid template columns now table valid some_ given put =>
    refine of_put sure put given valid (without_own _ (.template uid)) fun other apart => ⟨h.without_others apart, fun there => ?_⟩
    cases other with
    | checklist uid' => exact there
    | template uid' => exact (Dict.contains_insert.1 there).resolve_left fun same => apart (congrArg _ same)
  | replaceColumns uid columns now table stored valid given put =>
    exact of_put sure put given valid (without_own _ (.template uid)) fun other apart => ⟨h.without_others apart, fun there => there⟩
  | patchTemplate uid template stored =>
    refine of_fewer (fun owner there => ?_) rfl
    cases owner with
    | checklist uid' => exact there
    | template uid' =>
      rcases Dict.contains_insert.1 there with rfl | there
      · exact stored
      · exact there
  | deleteTemplate uid =>
    have gone : (core.checklistColumns.retain fun _ column => column.templateUid != some uid) =
        core.checklistColumns.retain fun _ column => !(ColumnOwner.template uid).has column := rfl
    refine of_retain h gone fun other there => ?_
    cases other with
    | checklist uid' => exact ⟨nofun, there⟩
    | template uid' =>
      obtain ⟨apart, before⟩ := contains_of_remove there
      exact ⟨fun same => apart (ColumnOwner.template.inj same), before⟩
  | _ => exact of_fewer (fun owner there => by cases owner <;> exact there) rfl

end ColumnsGiven

/-! ## Runs -/

omit [Host] in
/-- The command replaces the columns of a template that is there by an empty list. -/
def EmptiesTemplate (core : RchCore) (command : MissionCommandEnvelope) : Prop :=
  ∃ uid patch, command.commandType = "checklist.template.update" ∧ requiredText command.args ["template_uid"] = .ok uid ∧
    core.checklistTemplates.contains uid = true ∧ command.args.get "patch" = some patch ∧ patch.containsKey "columns" = true ∧
    checklistColumnsFromArgs (patch.get "columns") = .ok []

/-- The draws of the command are fresh, and it empties no template. -/
def KeepsDueColumns (entry : CommandEntry) (command : MissionCommandEnvelope) (w : World) : Prop :=
  entry.DrawsFresh command w ∧ ¬EmptiesTemplate w.core command

/-- Where a command gives no columns it empties a template. -/
theorem GivesColumns.some {core : RchCore} {command : MissionCommandEnvelope} {owner : ColumnOwner} {given : List Value}
    (gives : GivesColumns core command owner given) (fills : ¬EmptiesTemplate core command) : given ≠ [] := by
  cases gives with
  | templateUpdate patch columns uid type template there named has parsed =>
    rintro rfl
    exact fills ⟨uid, patch, type, template, there, named, has, parsed⟩
  | _ => exact defaultedChecklistColumns_ne_nil _

/-- A command with fresh draws leaves an owner its columns or installs a list that it gives. -/
theorem ColumnsGiven.after {entry : CommandEntry} {command : MissionCommandEnvelope} {w : World}
    (fresh : entry.DrawsFresh command w) (h : SheetsWhole w.core) :
    ColumnsGiven (GivesColumns w.core command) w.core (entry.after command w).core := by
  have kept := entry.after_sheets (P := fun core => SheetsWhole core ∧ ColumnsGiven (GivesColumns w.core command) w.core core)
    True command w (fun _ => fresh) (fun _ => h.cellKeys)
    (fun _ _ same before => ⟨before.1.of_same same, before.2.trans (.of_same same)⟩)
    (fun _ _ before edit => ⟨before.1.step trivial edit, before.2.trans (.step trivial before.1 edit)⟩) ⟨h, .of_same rfl⟩
  exact kept.2

/-- The sheets are whole and every owner has the column of the due time. -/
structure DueColumns (core : RchCore) : Prop where
  whole : SheetsWhole core
  due : ∀ owner : ColumnOwner, owner.known core = true → DueOnce (core.columnsOf owner)

theorem DueColumns.after {entry : CommandEntry} {command : MissionCommandEnvelope} {w : World}
    (keeps : KeepsDueColumns entry command w) (h : DueColumns w.core) : DueColumns (entry.after command w).core := by
  obtain ⟨fresh, fills⟩ := keeps
  refine ⟨h.whole.after fresh, fun owner known => ?_⟩
  rcases ColumnsGiven.after fresh h.whole owner known with ⟨before, same⟩ | ⟨given, gives, valid, installed⟩
  · exact (h.due owner before).perm same
  · exact installed.dueOnce valid (gives.some fills)

theorem run_dueColumns {core : RchCore} (run : CommandRun KeepsDueColumns RchCore.new core) : DueColumns core := by
  refine run.holds ⟨.new, fun owner known => ?_⟩ fun _ _ _ keeps h => h.after keeps
  have unknown : owner.known RchCore.new = false := by cases owner <;> rfl
  rw [unknown] at known
  exact nomatch known

/-- In every run that empties no template each checklist and each template has one column of
the due time, and a command leaves it its columns or installs a list that it gives, with the
display orders of the list. -/
theorem due_columns_kept :
    (∀ core, CommandRun KeepsDueColumns RchCore.new core → ∀ owner : ColumnOwner, owner.known core = true →
      DueOnce (core.columnsOf owner)) ∧
    ∀ (entry : CommandEntry) command (w : World), CommandRun KeepsDueColumns RchCore.new w.core → KeepsDueColumns entry command w →
      ∀ owner : ColumnOwner, owner.known (entry.after command w).core = true →
        (owner.known w.core = true ∧ ((entry.after command w).core.columnsOf owner).Perm (w.core.columnsOf owner)) ∨
        ∃ given, GivesColumns w.core command owner given ∧ Installed owner given ((entry.after command w).core.columnsOf owner) ∧
          (((entry.after command w).core.columnsOf owner).map ChecklistColumnRecord.displayOrder).Perm
            (given.zipIdx.map fun column => givenOrder column.1 column.2) := by
  refine ⟨fun core run => (run_dueColumns run).due, fun entry command w run keeps owner known => ?_⟩
  rcases ColumnsGiven.after keeps.1 (run_dueColumns run).whole owner known with kept | ⟨given, gives, -, installed⟩
  · exact .inl kept
  · exact .inr ⟨given, gives, installed, installed.orders⟩

end

/-! ## A drill -/

/-- A template, by default with the columns of the default list. -/
def createTemplate : MissionCommandEnvelope :=
  drillCommand "1" "checklist.template.create" [("template", .object [("uid", .string "t")])]

/-- The columns of the template set to null. -/
def emptyTemplate : MissionCommandEnvelope :=
  drillCommand "2" "checklist.template.update" [("template_uid", .string "t"), ("patch", .object [("columns", .null)])]

theorem templateDrill_fresh : @DrillFresh Host.blank [emptyTemplate, createTemplate] := by decide +kernel

/-- The template has the column of the due time. -/
theorem due_columns_kept_drill :
    letI := Host.blank
    (ColumnOwner.template "t").known (drillWorld [createTemplate]).core = true ∧
      DueOnce ((drillWorld [createTemplate]).core.columnsOf (.template "t")) := by
  let _ := Host.blank
  have fills : ¬EmptiesTemplate (drillWorld []).core createTemplate := by
    rintro ⟨-, -, type, -⟩
    exact absurd type (by decide)
  have keeps : KeepsDueColumns .command createTemplate
      ⟨(drillWorld []).core, (drillWorld []).clock, (drillWorld []).draws⟩ := ⟨templateDrill_fresh.earlier.latest, fills⟩
  have run : CommandRun KeepsDueColumns RchCore.new (drillWorld [createTemplate]).core := .step (.refl _) keeps
  have known : (ColumnOwner.template "t").known (drillWorld [createTemplate]).core = true := by decide +kernel
  exact ⟨known, due_columns_kept.1 _ run _ known⟩

/-- The template is there and has no columns. -/
theorem template_emptied :
    letI := Host.blank
    CommandRun CommandEntry.DrawsFresh RchCore.new (drillWorld [emptyTemplate, createTemplate]).core ∧
      (ColumnOwner.template "t").known (drillWorld [emptyTemplate, createTemplate]).core = true ∧
      ¬DueOnce ((drillWorld [emptyTemplate, createTemplate]).core.columnsOf (.template "t")) := by
  let _ := Host.blank
  have none : (drillWorld [emptyTemplate, createTemplate]).core.columnsOf (.template "t") = [] := by decide +kernel
  refine ⟨templateDrill_fresh.run, by decide +kernel, ?_⟩
  rw [none]
  rintro ⟨due, single, -⟩
  exact nomatch single

end TelemetryHub
