import TelemetryHub.Edits.Sheets

/-!
# What the checklist commands give the sheets

Each command goes by steps of the sheets, with the lists of columns and the numbers that are
in its arguments, in the template it names or in the table it imports.
-/

namespace TelemetryHub

open Lib CoreM

section

variable [Host] {grant : SheetGrant} {fresh : Prop} {α β : Type}

omit [Host] in
/-- A list of objects is read as it is. -/
theorem checklistColumnsFromArgs_array {items columns : List Value}
    (parsed : checklistColumnsFromArgs (some (.array items)) = .ok columns) : columns = items := by
  unfold checklistColumnsFromArgs at parsed
  dsimp only at parsed
  split at parsed
  · exact (Except.ok.inj parsed).symm
  · exact nomatch parsed

/-- What a command gives of columns. -/
inductive GivesColumns (core : RchCore) (command : MissionCommandEnvelope) : ColumnOwner → List Value → Prop
  | templateCreate (template : Value) (columns : List Value) (uid : String)
      (type : command.commandType = "checklist.template.create") (named : command.args.get "template" = some template)
      (parsed : checklistColumnsFromArgs (template.get "columns") = .ok columns) :
      GivesColumns core command (.template uid) (defaultedChecklistColumns columns)
  | templateUpdate (patch : Value) (columns : List Value) (uid : String)
      (type : command.commandType = "checklist.template.update") (template : requiredText command.args ["template_uid"] = .ok uid)
      (there : core.checklistTemplates.contains uid = true) (named : command.args.get "patch" = some patch) (has : patch.containsKey "columns" = true)
      (parsed : checklistColumnsFromArgs (patch.get "columns") = .ok columns) :
      GivesColumns core command (.template uid) columns
  | templateClone (source uid : String) (type : command.commandType = "checklist.template.clone")
      (named : requiredText command.args ["source_template_uid"] = .ok source) :
      GivesColumns core command (.template uid) (defaultedChecklistColumns (core.templateColumnValues source))
  | create (columns columns' : List Value) (templateName : Option String) (uid : String)
      (type : command.commandType = "checklist.create.online" ∨ command.commandType = "checklist.create.offline")
      (parsed : checklistColumnsFromArgs (command.args.get "columns") = .ok columns)
      (templated : checklistTemplateFromArgs core (optionalText command.args ["template_uid"]) columns =
        .ok (templateName, columns')) :
      GivesColumns core command (.checklist uid) (defaultedChecklistColumns columns')
  | importCsv (headerRow : List String) (taskRows : List (List String)) (uid : String)
      (type : command.commandType = "checklist.import.csv")
      (rows : csvRowsFromArgs command.args = .ok (headerRow :: taskRows)) :
      GivesColumns core command (.checklist uid) (defaultedChecklistColumns
        (csvColumns (csvHeaders headerRow ((headerRow :: taskRows).foldl (fun width row => max width row.length) 0))
          (csvDueHeaderIndex (csvHeaders headerRow
            ((headerRow :: taskRows).foldl (fun width row => max width row.length) 0)))).1)

/-- The arguments of a row name the task, or no task. -/
def RowNames (args : Value) (taskUid : String) : Prop := ∀ named, optionalText args ["task_uid"] = some named → taskUid = named

/-- What a command gives of numbers. -/
inductive GivesNumber (command : MissionCommandEnvelope) : String → Int → Prop
  | add (taskUid : String) (number : Option Int) (type : command.commandType = "checklist.task.row.add")
      (named : RowNames command.args taskUid) (read : optionalI64 command.args "number" = .ok number) :
      GivesNumber command taskUid (number.getD 1)
  | create (tasks : List Value) (task : Value) (taskUid : String) (number : Option Int)
      (type : command.commandType = "checklist.create.online" ∨ command.commandType = "checklist.create.offline")
      (listed : (command.args.get "tasks").bind Value.asArray = some tasks) (one : task ∈ tasks)
      (named : RowNames task taskUid) (read : optionalI64 task "number" = .ok number) :
      GivesNumber command taskUid (number.getD 1)
  | importCsv (headerRow : List String) (taskRows : List (List String)) (taskUid : String) (index : Nat)
      (type : command.commandType = "checklist.import.csv")
      (rows : csvRowsFromArgs command.args = .ok (headerRow :: taskRows)) (row : index < taskRows.length) :
      GivesNumber command taskUid (index + 1)

/-- The command sets a user status to blank text, or to none. -/
def GivesBlankUserStatus (command : MissionCommandEnvelope) : Prop :=
  command.commandType = "checklist.task.status.set" ∧ optionalText command.args ["user_status"] = none

/-- What a command gives the sheets, with fresh draws or any. -/
def sheetGrant (fresh : Prop) (core : RchCore) (command : MissionCommandEnvelope) : SheetGrant where
  fresh
  columns := GivesColumns core command
  number := GivesNumber command
  blankStatus := GivesBlankUserStatus command

/-! ## Checklists -/

theorem taskRowTimes_number {checklist : ChecklistRecord} {args : Value} {times : TaskRowTimes}
    (read : taskRowTimesFromArgs checklist args = .ok times) :
    ∃ number, optionalI64 args "number" = .ok number ∧ times.number = number.getD 1 := by
  obtain ⟨number, given, read⟩ := bind_eq_ok.1 read
  obtain ⟨minutes, -, read⟩ := bind_eq_ok.1 read
  obtain ⟨due, -, read⟩ := bind_eq_ok.1 read
  exact ⟨number, given, (congrArg TaskRowTimes.number (Except.ok.inj read)).symm⟩

theorem insertInitialChecklistTasksFromArgs_sheets (checklistUid : String) (tasks : Option Value)
    (given : ∀ items task taskUid number, tasks.bind Value.asArray = some items → task ∈ items → RowNames task taskUid →
      optionalI64 task "number" = .ok number → grant.number taskUid (number.getD 1)) :
    Sheets grant (insertInitialChecklistTasksFromArgs checklistUid tasks) := by
  unfold insertInitialChecklistTasksFromArgs
  split
  · rename_i items named
    refine Sheets.read fun core => .forM fun task mem => ?_
    unfold insertInitialChecklistTask
    refine Sheets.read fun _ => .bind ?_ fun _ => Sheets.read fun _ => ?_
    · refine addChecklistTaskRow_sheets _ _ fun taskUid checklist times mine read => ?_
      obtain ⟨number, read, same⟩ := taskRowTimes_number read
      rw [same]
      exact given items task taskUid number named mem mine read
    · dsimp only
      split
      · refine .forM fun cell _ => ?_
        unfold setInitialCell
        refine Sheets.read fun core => ?_
        split
        · exact .bind (setChecklistTaskCell_sheets _ _ _ _) fun _ => .pure _
        · exact .pure _
      · exact .pure _
  · exact .pure _

theorem newChecklistFromArgs_enumerated {command : MissionCommandEnvelope} {mode defaultSyncState uid name : String}
    {missionUid templateUid templateName : Option String} {now : Int} {checklist : ChecklistRecord}
    (modeGiven : (trim mode).isEmpty = false) (syncGiven : (trim defaultSyncState).isEmpty = false)
    (h : newChecklistFromArgs command mode defaultSyncState uid name missionUid templateUid templateName now = .ok checklist) :
    checklist.Enumerated := by
  obtain ⟨startTime, -, h⟩ := bind_eq_ok.1 h
  obtain ⟨templateVersion, -, h⟩ := bind_eq_ok.1 h
  obtain ⟨mode', readMode, h⟩ := bind_eq_ok.1 h
  obtain ⟨syncState, readSync, h⟩ := bind_eq_ok.1 h
  obtain ⟨originType, readOrigin, h⟩ := bind_eq_ok.1 h
  have pending : "PENDING" ∈ taskStatuses := by decide
  rw [← Except.ok.inj h]
  refine ⟨normalizeEnum_known readMode modeGiven, normalizeEnum_known readSync (optionalText_nonblank syncGiven),
    normalizeEnum_known readOrigin (optionalText_nonblank (by decide)), pending⟩

theorem createChecklistFromArgs_sheets (command : MissionCommandEnvelope) (mode defaultSyncState : String) {core₀ : RchCore}
    {draws : Nat → Uuid}
    (modeGiven : (trim mode).isEmpty = false) (syncGiven : (trim defaultSyncState).isEmpty = false)
    (given : ∀ uid columns columns' templateName, checklistColumnsFromArgs (command.args.get "columns") = .ok columns →
      checklistTemplateFromArgs core₀ (optionalText command.args ["template_uid"]) columns = .ok (templateName, columns') →
        grant.columns (.checklist uid) (defaultedChecklistColumns columns'))
    (numbers : ∀ items task taskUid number, (command.args.get "tasks").bind Value.asArray = some items → task ∈ items →
      RowNames task taskUid → optionalI64 task "number" = .ok number → grant.number taskUid (number.getD 1)) :
    Proc.Spec drawsSeen (createChecklistFromArgs command mode defaultSyncState) (core₀, draws)
      (Proc.Outcome False (SheetSteps grant) (core₀, draws)) := by
  unfold createChecklistFromArgs
  dsimp only
  refine Proc.Spec.checked fun name _ => Proc.Spec.checked fun columns parsed => seenRead ?_
  refine Proc.Spec.checked fun templated fromTemplate => ?_
  obtain ⟨templateName, columns'⟩ := templated
  refine Proc.Spec.guarded fun _ => Proc.Spec.checked fun _ valid => seenRead (Proc.Spec.checked fun _ _ => ?_)
  refine seenClock fun now => Sheets.drawUnless fun uid draws _ => seenRead ?_
  split
  · exact Proc.Spec.answer
  · rename_i absent
    refine Proc.Spec.checked fun checklist new => seenWrite (Proc.Spec.bind (insertColumns_puts grant.fresh) ?_ ?_)
    · rintro - v' ⟨-, table, rfl, put⟩
      have steps : SheetSteps grant (core₀, draws) ({ core₀ with
          checklists := core₀.checklists.insert uid checklist, checklistColumns := table }, drawsFrom (defaultedChecklistColumns columns').length draws) := by
        refine ⟨_, rfl, fun fresh filed => ?_⟩
        obtain ⟨put, drawn⟩ := put fun sure => ⟨(fresh sure).apart, (fresh sure).columns, (fresh sure).cells⟩
        refine ⟨.single ?_, fun sure => ⟨filed sure, drawn sure, .refl⟩⟩
        exact .createChecklist uid checklist columns' now table absent (newChecklistFromArgs_enumerated modeGiven syncGiven new)
          valid (given uid columns columns' templateName parsed fromTemplate) put
      refine Proc.Moves.behind (.single steps) (Proc.Moves.follow (insertInitialChecklistTasksFromArgs_sheets _ _ numbers _) fun _ => ?_)
      exact .bind (recomputeChecklistStatus_sheets _) fun _ => Sheets.read fun _ => .pure _
    · rintro e v' ⟨failed, -⟩
      exact nomatch failed

theorem modifyChecklist_sheets (checklistUid : String) {f : ChecklistRecord → ChecklistRecord}
    (kept : ∀ checklist : ChecklistRecord, checklist.Enumerated → (f checklist).Enumerated) :
    Sheets grant (update (modifyChecklist checklistUid f)) := by
  rintro ⟨core₀, draws⟩
  cases stored : core₀.checklists.get checklistUid with
  | none =>
    have same : modifyChecklist checklistUid f core₀ = core₀ := by rw [modifyChecklist, stored]
    refine Sheets.lastWrite ?_
    rw [same]
    exact .refl
  | some checklist =>
    have changed : modifyChecklist checklistUid f core₀ =
        { core₀ with checklists := core₀.checklists.insert checklistUid (f checklist) } := by rw [modifyChecklist, stored]
    refine Sheets.lastWrite ?_
    rw [changed]
    exact .other (.patchChecklist checklistUid checklist _ stored (kept checklist)) rfl rfl

theorem patchChecklistEnum_sheets (checklistUid : String) (patch : Value) (key fieldName : String) (allowedValues : List String)
    {normalize : String → Except RchCoreError String} (reads : ∀ value, normalize value = normalizeEnum value fieldName allowedValues)
    {set : String → ChecklistRecord → ChecklistRecord}
    (kept : ∀ value ∈ allowedValues, ∀ checklist : ChecklistRecord, checklist.Enumerated → (set value checklist).Enumerated) :
    Sheets grant (patchChecklistEnum checklistUid patch key normalize set) := by
  unfold patchChecklistEnum
  split
  · rename_i text given
    obtain ⟨trimmed, nonempty⟩ := optionalText_trimmed given
    refine .checked fun value read => modifyChecklist_sheets _ (kept value ?_)
    rw [reads] at read
    exact normalizeEnum_known read (by rw [trimmed, nonempty])
  · exact .pure _

theorem updateChecklistFromPatch_sheets (checklistUid : String) (patch : Value) :
    Sheets grant (updateChecklistFromPatch checklistUid patch) := by
  unfold updateChecklistFromPatch
  refine Sheets.read fun _ => .guard fun _ => .bind (modifyChecklist_sheets _ fun _ h => ⟨h.mode, h.syncState, h.originType, h.checklistStatus⟩)
    fun _ => .bind ?_ fun _ => ?_
  · unfold patchChecklistMission
    refine .ite (fun _ => Sheets.read fun _ => .checked fun _ _ => ?_) fun _ => .pure _
    exact modifyChecklist_sheets _ fun _ h => ⟨h.mode, h.syncState, h.originType, h.checklistStatus⟩
  refine .bind (patchChecklistEnum_sheets _ _ _ "mode" checklistModes (fun _ => rfl) fun _ known _ h =>
    ⟨known, h.syncState, h.originType, h.checklistStatus⟩) fun _ => ?_
  refine .bind (patchChecklistEnum_sheets _ _ _ "sync_state" checklistSyncStates (fun _ => rfl) fun _ known _ h =>
    ⟨h.mode, known, h.originType, h.checklistStatus⟩) fun _ => ?_
  refine .bind (patchChecklistEnum_sheets _ _ _ "origin_type" checklistOrigins (fun _ => rfl) fun _ known _ h =>
    ⟨h.mode, h.syncState, known, h.checklistStatus⟩) fun _ => ?_
  refine .bind (patchChecklistEnum_sheets _ _ _ "status" taskStatuses (fun _ => rfl) fun _ known _ h =>
    ⟨h.mode, h.syncState, h.originType, known⟩) fun _ => ?_
  rintro ⟨core₀, draws⟩
  refine seenRead (Proc.Spec.required fun checklist stored => seenClock fun now => ?_)
  refine Sheets.write (.other (.patchChecklist _ checklist _ stored fun h => ?_) rfl rfl) (.pure _)
  exact ⟨h.mode, h.syncState, h.originType, h.checklistStatus⟩

theorem deleteChecklist_sheets (checklistUid : String) : Sheets grant (deleteChecklist checklistUid) := by
  rintro ⟨core₀, draws⟩
  unfold deleteChecklist
  refine seenRead (Proc.Spec.required fun checklist _ => seenWrite (seenRead (seenWrite ?_)))
  refine Proc.Spec.done (.single (.edit (.deleteChecklist checklistUid) (KeysDrawn.refl.retain _) ?_ ?_))
  · exact fun _ => KeysDrawn.refl.retain _
  · exact fun filed => filed.retain _

/-! ## Import -/

omit [Host] in
theorem csvTaskArgs_number {row : List String} {dueIndex : Option Nat} {rowNumber : Nat} {number : Option Int}
    (read : optionalI64 (csvTaskArgs row dueIndex rowNumber) "number" = .ok number) : number.getD 1 = rowNumber := by
  have field : (csvTaskArgs row dueIndex rowNumber).get "number" = some (.number (.int rowNumber)) := by
    simp [csvTaskArgs, Value.get, Value.asObject, toValue]
  unfold optionalI64 optionalNumber at read
  rw [field] at read
  dsimp only at read
  rw [if_neg (by simp [Value.isNull])] at read
  split at read
  · rename_i n value
    rw [← Except.ok.inj read]
    unfold valueAsI64 Value.asI64 at value
    dsimp only at value
    split at value
    · exact (Option.some.inj value).symm
    · simp [Value.asStr] at value
  · cases read

theorem importCsvRow_sheets (command : MissionCommandEnvelope) (checklistUid : String) (width : Nat) (dueIndex : Option Nat)
    (headerColumnUids : List (Nat × String)) (entry : List String × Nat) (given : ∀ taskUid, grant.number taskUid (entry.2 + 1)) :
    Sheets grant (importCsvRow command checklistUid width dueIndex headerColumnUids entry) := by
  unfold importCsvRow
  dsimp only
  refine .bind (addChecklistTaskRow_sheets _ _ fun taskUid checklist times _ read => ?_) fun _ => Sheets.read fun _ => .required fun task _ => ?_
  · obtain ⟨number, read, same⟩ := taskRowTimes_number read
    rw [same, csvTaskArgs_number read]
    exact given taskUid
  · refine .forM fun header _ => ?_
    unfold importCsvCell
    split
    · exact .bind (setChecklistTaskCell_sheets _ _ _ _) fun _ => .pure _
    · exact .pure _

theorem csvCreateCommand_fields (command : MissionCommandEnvelope) (filename : String) (columns : List Value) :
    (csvCreateCommand command filename columns).args.get "columns" = some (.array columns) ∧
      optionalText (csvCreateCommand command filename columns).args ["template_uid"] = none ∧
      (csvCreateCommand command filename columns).args.get "tasks" = none := by
  refine ⟨?_, ?_, ?_⟩
  · simp [csvCreateCommand, Value.get, Value.asObject, List.lookup_cons]
  · simp [csvCreateCommand, optionalText, optionalTextOrEmpty, findText, Value.get, Value.asObject, List.lookup_cons]
  · simp [csvCreateCommand, Value.get, Value.asObject, List.lookup_cons]

theorem importChecklistCsv_sheets (command : MissionCommandEnvelope) (core₀ : RchCore) (draws : Nat → Uuid)
    (type : command.commandType = "checklist.import.csv") :
    Proc.Spec drawsSeen (importChecklistCsv command) (core₀, draws)
      (Proc.Outcome False (SheetSteps (sheetGrant fresh core₀ command)) (core₀, draws)) := by
  unfold importChecklistCsv
  dsimp only
  refine Proc.Spec.checked fun rows parsed => ?_
  split
  · rename_i headerRow firstRow otherRows
    refine Proc.Spec.guarded fun _ => Proc.Moves.follow ?_ fun checklist => Sheets.read fun core => ?_
    · refine createChecklistFromArgs_sheets _ _ _ (by decide) (by decide) ?_ ?_
      · intro uid columns columns' templateName listed templated
        obtain ⟨given, untemplated, -⟩ := csvCreateCommand_fields command
          ((optionalText command.args ["csv_filename"]).getD "checklist.csv") _
        rw [given] at listed
        rw [untemplated] at templated
        have same := checklistColumnsFromArgs_array listed
        have same' : columns = columns' := congrArg Prod.snd (Except.ok.inj templated)
        rw [← same', same]
        exact .importCsv headerRow (firstRow :: otherRows) uid type parsed
      · intro items task taskUid number named
        rw [(csvCreateCommand_fields command _ _).2.2] at named
        exact nomatch named
    · refine .bind (.forM fun entry mem => ?_) fun _ => Sheets.read fun _ => .required fun _ _ => Sheets.read fun _ => .pure _
      have row := List.snd_lt_of_mem_zipIdx mem
      refine importCsvRow_sheets _ _ _ _ _ _ fun taskUid => ?_
      exact .importCsv headerRow (firstRow :: otherRows) taskUid entry.2 type parsed (by simpa using row)
  · exact Proc.Spec.failed

/-! ## Commands -/

theorem applyChecklistTemplateCommand_sheets (command : MissionCommandEnvelope) (core₀ : RchCore) (draws : Nat → Uuid) :
    Proc.Spec drawsSeen (applyChecklistTemplateCommand command) (core₀, draws)
      (Proc.Outcome False (SheetSteps (sheetGrant fresh core₀ command)) (core₀, draws)) := by
  have valued (template : ChecklistTemplateRecord) : Sheets (sheetGrant fresh core₀ command) (do
      return (← core).checklistTemplateValue template : CoreM Value) := Sheets.read fun _ => .pure _
  unfold applyChecklistTemplateCommand
  dsimp only
  split
  · exact seenRead Proc.Spec.answer
  · exact Proc.Spec.checked fun _ _ => seenRead (Proc.Spec.required fun _ _ => valued _ _)
  · rename_i create
    refine Proc.Spec.required fun template named => Proc.Moves.follow (createChecklistTemplate_sheets _ _ ?_ _) valued
    exact fun uid columns parsed => .templateCreate template columns uid create named parsed
  · rename_i update
    refine Proc.Spec.checked fun uid template => Proc.Spec.required fun patch named => ?_
    refine Proc.Moves.follow (updateChecklistTemplate_sheets _ _ ?_) valued
    exact fun columns there has parsed => .templateUpdate patch columns uid update template there named has parsed
  · rename_i clone
    refine Proc.Spec.checked fun source named => Proc.Spec.checked fun name _ => Proc.Moves.follow ?_ valued
    unfold cloneChecklistTemplate
    refine seenRead (Proc.Spec.required fun template _ => seenRead (createChecklistTemplate_sheets _ _ ?_ _))
    intro uid columns parsed
    have field : Value.get (.object [("template_name", toValue name),
        ("description", toValue ((optionalTextOrEmpty command.args ["description"]).getD template.description)),
        ("created_by_team_member_rns_identity", toValue command.source.rnsIdentity),
        ("source_template_uid", toValue source), ("columns", .array (core₀.templateColumnValues source))]) "columns" =
          some (.array (core₀.templateColumnValues source)) := by
      simp [Value.get, Value.asObject, List.lookup_cons]
    rw [field] at parsed
    rw [checklistColumnsFromArgs_array parsed]
    exact .templateClone source uid clone named
  · exact Proc.Spec.checked fun _ _ => deleteChecklistTemplate_sheets _ _
  · exact Proc.Spec.failed

theorem checklistCommandPayload_sheets (command : MissionCommandEnvelope) (core₀ : RchCore) (draws : Nat → Uuid) :
    Proc.Spec drawsSeen (checklistCommandPayload command) (core₀, draws)
      (Proc.Outcome False (SheetSteps (sheetGrant fresh core₀ command)) (core₀, draws)) := by
  have valued (checklist : ChecklistRecord) : Sheets (sheetGrant fresh core₀ command) (do
      return (← core).checklistValue checklist : CoreM Value) := Sheets.read fun _ => .pure _
  have named : Sheets (sheetGrant fresh core₀ command) (do
      let checklist ← checklistFromArgs command.args
      return (← core).checklistValue checklist : CoreM Value) := by
    unfold checklistFromArgs
    refine .bind ?_ valued
    exact .checked fun _ _ => Sheets.read fun _ => .orThrow _ _
  have created (mode defaultSyncState : String) (modeGiven : (trim mode).isEmpty = false)
      (syncGiven : (trim defaultSyncState).isEmpty = false)
      (type : command.commandType = "checklist.create.online" ∨ command.commandType = "checklist.create.offline") :
      Proc.Spec drawsSeen (do
        let checklist ← createChecklistFromArgs command mode defaultSyncState
        return (← core).checklistValue checklist : CoreM Value) (core₀, draws)
        (Proc.Outcome False (SheetSteps (sheetGrant fresh core₀ command)) (core₀, draws)) := by
    refine Proc.Moves.follow (createChecklistFromArgs_sheets _ _ _ modeGiven syncGiven ?_ ?_) valued
    · exact fun uid columns columns' templateName parsed templated => .create columns columns' templateName uid type parsed templated
    · exact fun items task taskUid number listed one named read => .create items task taskUid number type listed one named read
  have rows : Sheets (sheetGrant fresh core₀ command) (applyChecklistTaskCommand command) := by
    refine applyChecklistTaskCommand_sheets command (fun add taskUid checklist times named read => ?_) fun set blank => ⟨set, blank⟩
    obtain ⟨number, read, same⟩ := taskRowTimes_number read
    rw [same]
    exact .add taskUid number add named read
  unfold checklistCommandPayload
  dsimp only
  split
  · exact applyChecklistTemplateCommand_sheets command core₀ draws
  · exact applyChecklistTemplateCommand_sheets command core₀ draws
  · exact applyChecklistTemplateCommand_sheets command core₀ draws
  · exact applyChecklistTemplateCommand_sheets command core₀ draws
  · exact applyChecklistTemplateCommand_sheets command core₀ draws
  · exact applyChecklistTemplateCommand_sheets command core₀ draws
  · rename_i online
    exact created _ _ (by decide) (by decide) (.inl online)
  · rename_i offline
    exact created _ _ (by decide) (by decide) (.inr offline)
  · exact seenRead Proc.Spec.answer
  · exact named _
  · exact named _
  · refine Proc.Spec.checked fun _ _ => Proc.Spec.required fun _ _ => ?_
    exact Proc.Moves.bind (updateChecklistFromPatch_sheets _ _) valued _
  · exact Proc.Spec.checked fun _ _ => deleteChecklist_sheets _ _
  · refine Proc.Spec.checked fun uid _ => Proc.Moves.follow ?_ valued
    unfold uploadChecklist
    refine seenRead (Proc.Spec.required fun checklist stored => seenClock fun now => ?_)
    have synced : "SYNCED" ∈ checklistSyncStates := by decide
    refine Sheets.write (.other (.patchChecklist uid checklist _ stored fun h => ?_) rfl rfl) (.pure _)
    exact ⟨h.mode, synced, h.originType, h.checklistStatus⟩
  · rename_i type
    exact importChecklistCsv_sheets command core₀ draws type
  · refine Proc.Spec.checked fun _ _ => Proc.Spec.checked fun _ _ => Proc.Moves.follow ?_ fun _ => .pure _
    unfold publishChecklistFeed
    refine seenRead (Proc.Spec.required fun checklist _ => Proc.Spec.guarded fun _ => ?_)
    refine Sheets.draw_ fun uid draws => seenClock fun now => ?_
    exact Sheets.write (.other (.publish _) rfl rfl) (.pure _)
  · exact rows _
  · exact rows _
  · exact rows _
  · exact rows _
  · exact rows _
  · exact Proc.Spec.failed

theorem emitAutoChecklistMissionChange_sheets (command : MissionCommandEnvelope) (payload : Value)
    (sourceEventType changeType : String) (member : Option String) (delta : Option (List Value × List Value))
    (known : changeType ∈ missionChangeTypes) :
    Sheets grant (emitAutoChecklistMissionChange command payload sourceEventType changeType member delta) := by
  unfold emitAutoChecklistMissionChange
  dsimp only
  refine Sheets.read fun _ => .guard fun _ => ?_
  split
  · exact .pure _
  · refine Sheets.clock fun now => Sheets.draw fun uid => ?_
    unfold recordMissionChange recordAuditEvent
    rintro ⟨core₀, draws⟩
    refine Sheets.write (.other (.change _ _ known) rfl rfl) (Sheets.draw fun _ => Sheets.clock fun _ => ?_)
    rintro ⟨core₁, draws₁⟩
    exact Sheets.lastWrite (.other (.audit _) rfl rfl)

/-- A checklist command goes by steps of the sheets, and gives what its arguments give. -/
theorem applyChecklistCommand_sheets (command : MissionCommandEnvelope) (core₀ : RchCore) (draws : Nat → Uuid) :
    Proc.Spec drawsSeen (applyChecklistCommand command) (core₀, draws)
      (Proc.Outcome False (SheetSteps (sheetGrant fresh core₀ command)) (core₀, draws)) := by
  unfold applyChecklistCommand
  refine seenRead (Proc.Moves.follow (checklistCommandPayload_sheets command core₀ draws) fun payload => .bind ?_ fun _ => .pure _)
  have known : "ADD_CONTENT" ∈ missionChangeTypes ∧ "REMOVE_CONTENT" ∈ missionChangeTypes := by decide
  obtain ⟨add, remove⟩ := known
  have emitted (sourceEventType member delta) {changeType} (known : changeType ∈ missionChangeTypes) :
      Sheets (sheetGrant fresh core₀ command) (emitAutoChecklistMissionChange command payload sourceEventType changeType member delta) :=
    emitAutoChecklistMissionChange_sheets _ _ _ _ _ _ known
  unfold emitChecklistMissionChanges
  dsimp only
  split
  · exact emitted _ _ _ add
  · exact emitted _ _ _ add
  · exact emitted _ _ _ add
  · exact .ite (fun _ => emitted _ _ _ add) fun _ => .pure _
  · exact .ite (fun _ => emitted _ _ _ add) fun _ => .pure _
  · exact emitted _ _ _ add
  · exact emitted _ _ _ add
  · exact emitted _ _ _ add
  · exact emitted _ _ _ remove
  · exact .pure _

end
end TelemetryHub
