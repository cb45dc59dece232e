import TelemetryHub.Runs.ChecklistTables

/-!
# The counts of a checklist

What the checklist commands do to the counts, and what holds of them along a run.
-/

namespace TelemetryHub

open Lib CoreM

section

variable {ticks : Int → Prop} {patched : String → String → Prop}

/-! ## Columns and templates -/

section

variable [Host]

omit [Host] in
theorem insertColumns_keeps (record : Nat → Value → String → ChecklistColumnRecord) (columns : List Value) :
    ∀ index, Proc.Keeps (checklistsSeen ticks) (insertColumns record index columns) := by
  induction columns with
  | nil => exact fun _ => .pure _
  | cons column rest ih =>
    intro index
    unfold insertColumns
    exact keeps_draw.bind fun _ => .bind (keeps_update fun _ => rfl) fun _ => ih _

theorem replaceTemplateColumns_keeps (templateUid : String) (columns : List Value) (now : Int) :
    Proc.Keeps (checklistsSeen ticks) (replaceTemplateColumns templateUid columns now) :=
  .bind (keeps_update fun _ => rfl) fun _ => insertColumns_keeps _ _ _

theorem createChecklistTemplate_keeps (template : Value) (sourceTemplateUid : Option String) :
    Proc.Keeps (checklistsSeen ticks) (createChecklistTemplate template sourceTemplateUid) := by
  unfold createChecklistTemplate
  refine keeps_clock.bind fun now => (keeps_orNewUuid _).bind fun uid => ?_
  refine (keeps_check _).bind fun createdAt => (keeps_check _).bind fun updatedAt => ?_
  refine (keeps_check _).bind fun columns => (keeps_check _).bind fun _ => ?_
  refine .bind (keeps_update fun _ => rfl) fun _ => ?_
  exact (replaceTemplateColumns_keeps _ _ _).bind fun _ => .pure _

theorem applyChecklistTemplateCommand_keeps (command : MissionCommandEnvelope) :
    Proc.Keeps (checklistsSeen ticks) (applyChecklistTemplateCommand command) := by
  unfold applyChecklistTemplateCommand
  dsimp only
  split
  · exact keeps_core.bind fun _ => .pure _
  · refine (keeps_check _).bind fun _ => keeps_core.bind fun _ => ?_
    exact (Proc.Keeps.orThrow _ _).bind fun _ => keeps_core.bind fun _ => .pure _
  · refine (Proc.Keeps.orThrow _ _).bind fun _ => ?_
    exact (createChecklistTemplate_keeps _ _).bind fun _ => keeps_core.bind fun _ => .pure _
  · refine (keeps_check _).bind fun _ => (Proc.Keeps.orThrow _ _).bind fun _ => ?_
    refine .bind ?_ fun _ => keeps_core.bind fun _ => .pure _
    unfold updateChecklistTemplate
    refine keeps_core.bind fun _ => .guard (.bind ?_ fun _ => keeps_core.bind fun _ => ?_)
    · unfold patchTemplateColumns
      refine .ite ?_ (.pure _)
      refine (keeps_check _).bind fun _ => (keeps_check _).bind fun _ => keeps_clock.bind fun _ => ?_
      exact replaceTemplateColumns_keeps _ _ _
    · refine (Proc.Keeps.orThrow _ _).bind fun _ => keeps_clock.bind fun _ => ?_
      exact .bind (keeps_update fun _ => rfl) fun _ => .pure _
  · refine (keeps_check _).bind fun _ => (keeps_check _).bind fun _ => ?_
    refine .bind ?_ fun _ => keeps_core.bind fun _ => .pure _
    unfold cloneChecklistTemplate
    refine keeps_core.bind fun _ => (Proc.Keeps.orThrow _ _).bind fun _ => keeps_core.bind fun _ => ?_
    exact createChecklistTemplate_keeps _ _
  · refine (keeps_check _).bind fun _ => ?_
    unfold deleteChecklistTemplate
    refine keeps_core.bind fun _ => (Proc.Keeps.orThrow _ _).bind fun _ => keeps_core.bind fun _ => ?_
    exact .bind (keeps_update fun _ => rfl) fun _ => .pure _
  · exact .throw _

end

/-! ## Checklists -/

section

variable [Host]

theorem setInitialCell_tables (checklistUid taskUid : String) (columns : List ChecklistColumnRecord) (cell : Value) :
    Tables ticks patched (setInitialCell checklistUid taskUid columns cell) := by
  unfold setInitialCell
  refine .after keeps_core fun core => ?_
  split
  · refine .bind (fun t sound => ?_) fun _ => .pure _
    exact (setChecklistTaskCell_tables sound _ _ _).mono fun _ _ h => h.1
  · exact .pure _

theorem insertInitialChecklistTasksFromArgs_tables (checklistUid : String) (tasks : Option Value) :
    Tables ticks patched (insertInitialChecklistTasksFromArgs checklistUid tasks) := by
  unfold insertInitialChecklistTasksFromArgs
  split
  · refine .after keeps_core fun core => .forM fun task => ?_
    unfold insertInitialChecklistTask
    refine .after keeps_core fun core' => ?_
    refine .bind (fun t sound => (addChecklistTaskRow_tables sound _).mono fun _ _ h => h.1) fun _ => ?_
    refine .after keeps_core fun core'' => ?_
    dsimp only
    split
    · exact .forM fun cell => setInitialCell_tables _ _ _ _
    · exact .pure _
  · exact .pure _

/-- A new checklist counts no task. -/
theorem newChecklistFromArgs_counts {command : MissionCommandEnvelope} {mode defaultSyncState uid name : String}
    {missionUid templateUid templateName : Option String} {now : Int} {checklist : ChecklistRecord}
    (h : newChecklistFromArgs command mode defaultSyncState uid name missionUid templateUid templateName now =
      .ok checklist) : checklist.counts = (0, 0, 0, 0.0) ∧ checklist.checklistStatus = "PENDING" := by
  obtain ⟨startTime, -, h⟩ := bind_eq_ok.1 h
  obtain ⟨templateVersion, -, h⟩ := bind_eq_ok.1 h
  obtain ⟨mode, -, h⟩ := bind_eq_ok.1 h
  obtain ⟨syncState, -, h⟩ := bind_eq_ok.1 h
  obtain ⟨originType, -, h⟩ := bind_eq_ok.1 h
  obtain rfl := Except.ok.inj h
  exact ⟨rfl, rfl⟩

omit [Host] in
/-- A checklist without tasks goes into the tables. -/
theorem ChecklistTables.Sound.putChecklist {t : ChecklistTables} (sound : t.Sound) {uid : String}
    (absent : t.checklists.get uid = none) {checklist : ChecklistRecord} (counts : checklist.counts = (0, 0, 0, 0.0))
    (status : checklist.checklistStatus = "PENDING") :
    t.Step ticks patched { t with checklists := t.checklists.insert uid checklist } where
  sound := ⟨sound.keyed, fun uid task stored => Dict.contains_insert.2 (.inr (sound.owned uid task stored))⟩
  each uid' checklist' stored := by
    have found : (t.checklists.insert uid checklist).get uid' = some checklist' := stored
    have none : t.tasksOf uid = [] := sound.tasksOf_absent absent
    rw [Dict.get_insert] at found
    split at found
    · next here =>
      subst here
      obtain rfl := Option.some.inj found
      have tasks : ({ t with checklists := t.checklists.insert uid' checklist } : ChecklistTables).tasksOf uid' = [] := none
      simp only [ChecklistRecord.counts, Prod.mk.injEq] at counts
      obtain ⟨pending, late, complete, progress⟩ := counts
      refine .tallied ?_ (.inl ?_)
      · rw [tasks]
        refine ⟨fun task mem => absurd mem List.not_mem_nil, ?_, complete, late, progress⟩
        rw [pending, complete]
        rfl
      · rw [tasks, status]
        rfl
    · exact .kept checklist' found rfl rfl (.inl rfl)

theorem createChecklistFromArgs_tables (command : MissionCommandEnvelope) (mode defaultSyncState : String) :
    Tables ticks patched (createChecklistFromArgs command mode defaultSyncState) := by
  unfold createChecklistFromArgs
  dsimp only
  refine .after (keeps_check _) fun name => .after (keeps_check _) fun columns => ?_
  refine .after keeps_core fun core => .after (keeps_check _) fun template => .guard ?_
  refine .after (keeps_check _) fun _ => .after keeps_core fun core => .after (keeps_check _) fun _ => ?_
  refine .after keeps_clock fun now => .after (keeps_orNewUuid _) fun uid t sound => ?_
  refine readTables fun core seen => ?_
  subst seen
  split
  · exact Proc.Spec.pure (.refl sound)
  · next absent =>
    refine Proc.Spec.check (fun checklist created => ?_) fun _ _ => .refl sound
    obtain ⟨counts, status⟩ := newChecklistFromArgs_counts created
    have step : core.checklistTables.Step ticks patched
        { core.checklistTables with checklists := core.checklistTables.checklists.insert uid checklist } :=
      sound.putChecklist absent counts status
    refine writeChecklist ?_
    have rest (m : CoreM ChecklistRecord) (h : Tables ticks patched m) :
        Proc.Spec (checklistsSeen ticks) m
          { core.checklistTables with checklists := core.checklistTables.checklists.insert uid checklist }
          fun _ t' => core.checklistTables.Step ticks patched t' :=
      (h _ step.sound).mono fun _ _ h' => step.trans h'
    refine rest _ (.after (insertColumns_keeps _ _ _) fun _ => ?_)
    refine .bind (insertInitialChecklistTasksFromArgs_tables _ _) fun _ => ?_
    exact .bind (recomputeChecklistStatus_step _) fun _ => .after keeps_core fun _ => .pure _

omit [Host] in
/-- A checklist written over with the counts it has. -/
theorem ChecklistTables.Sound.patchChecklist {t : ChecklistTables} (sound : t.Sound) {uid : String}
    {old checklist : ChecklistRecord} (stored : t.checklists.get uid = some old) (counts : checklist.counts = old.counts)
    (status : checklist.checklistStatus = old.checklistStatus ∨ patched uid checklist.checklistStatus) :
    t.Step ticks patched { t with checklists := t.checklists.insert uid checklist } where
  sound := ⟨sound.keyed, fun uid task stored => Dict.contains_insert.2 (.inr (sound.owned uid task stored))⟩
  each uid' checklist' stored' := by
    have found : (t.checklists.insert uid checklist).get uid' = some checklist' := stored'
    rw [Dict.get_insert] at found
    split at found
    · next here =>
      subst here
      obtain rfl := Option.some.inj found
      exact .kept old stored rfl counts status
    · exact .kept checklist' found rfl rfl (.inl rfl)

omit [Host] in
theorem modifyChecklist_tables {uid : String} {f : ChecklistRecord → ChecklistRecord}
    (counts : ∀ checklist, (f checklist).counts = checklist.counts)
    (status : ∀ checklist, (f checklist).checklistStatus = checklist.checklistStatus ∨
      patched uid (f checklist).checklistStatus) : Tables ticks patched (update (modifyChecklist uid f)) := by
  rintro t sound w rfl clock
  refine ⟨?_, clock⟩
  show w.core.checklistTables.Step ticks patched (modifyChecklist uid f w.core).checklistTables
  unfold modifyChecklist
  split
  · next checklist stored => exact sound.patchChecklist stored (counts checklist) (status checklist)
  · exact .refl sound

theorem patchChecklistEnum_tables {uid : String} {patch : Value} {key : String}
    {normalize : String → Except RchCoreError String} {set : String → ChecklistRecord → ChecklistRecord}
    (counts : ∀ value checklist, (set value checklist).counts = checklist.counts)
    (status : ∀ text value checklist, optionalText patch [key] = some text → normalize text = .ok value →
      (set value checklist).checklistStatus = checklist.checklistStatus ∨
        patched uid (set value checklist).checklistStatus) :
    Tables ticks patched (patchChecklistEnum uid patch key normalize set) := by
  unfold patchChecklistEnum
  split
  · next text named =>
    intro t sound
    refine Proc.Spec.check (fun value normal => ?_) fun _ _ => .refl sound
    exact modifyChecklist_tables (counts value) (fun checklist => status text value checklist named normal) t sound
  · exact .pure _

/-- The patch gives the checklist the status. -/
def PatchesStatus (checklistUid : String) (patch : Value) (uid status : String) : Prop :=
  uid = checklistUid ∧ ∃ text, optionalText patch ["checklist_status"] = some text ∧ normalizeTaskStatus text = .ok status

theorem updateChecklistFromPatch_tables (checklistUid : String) (patch : Value) :
    Tables ticks (PatchesStatus checklistUid patch) (updateChecklistFromPatch checklistUid patch) := by
  unfold updateChecklistFromPatch
  refine .after keeps_core fun _ => .guard ?_
  refine .bind (modifyChecklist_tables (fun _ => rfl) fun _ => .inl rfl) fun _ => ?_
  refine .bind ?_ fun _ => ?_
  · unfold patchChecklistMission
    refine .ite (.after keeps_core fun _ => .after (keeps_check _) fun _ => ?_) (.pure _)
    exact modifyChecklist_tables (fun _ => rfl) fun _ => .inl rfl
  refine .bind (patchChecklistEnum_tables (fun _ _ => rfl) fun _ _ _ _ _ => .inl rfl) fun _ => ?_
  refine .bind (patchChecklistEnum_tables (fun _ _ => rfl) fun _ _ _ _ _ => .inl rfl) fun _ => ?_
  refine .bind (patchChecklistEnum_tables (fun _ _ => rfl) fun _ _ _ _ _ => .inl rfl) fun _ => ?_
  refine .bind (patchChecklistEnum_tables (fun _ _ => rfl) fun text value _ named normal =>
    .inr ⟨rfl, text, named, normal⟩) fun _ => ?_
  intro t sound
  refine readTables fun core seen => ?_
  subst seen
  refine Proc.Spec.require (fun checklist stored => ?_) fun _ => .refl sound
  refine readClock fun updatedTsMs _ => writeChecklist (Proc.Spec.pure ?_)
  exact sound.patchChecklist stored rfl (.inl rfl)

theorem deleteChecklist_tables (checklistUid : String) : Tables ticks patched (deleteChecklist checklistUid) := by
  intro t sound
  unfold deleteChecklist
  refine readTables fun core seen => ?_
  subst seen
  have kept : ∀ uid task, (core.checklistTasks.retain fun _ task => task.checklistUid != checklistUid).get uid =
      some task → core.checklistTasks.get uid = some task ∧ task.checklistUid ≠ checklistUid := by
    intro uid task stored
    rw [Dict.get_retain] at stored
    obtain ⟨stored, other⟩ := Option.filter_eq_some_iff.1 stored
    exact ⟨stored, by simpa using other⟩
  refine Proc.Spec.require (fun checklist stored => ?_) fun _ => .refl sound
  refine writeTables (g := fun t => { t with checklists := t.checklists.remove checklistUid }) (fun _ => ?_) ?_
  · rfl
  refine readTables fun core' _ => ?_
  refine writeTables (g := fun t => { t with
    tasks := t.tasks.retain fun _ task => task.checklistUid != checklistUid }) (fun _ => ?_) (Proc.Spec.pure ⟨⟨?_, ?_⟩, ?_⟩)
  · rfl
  · intro uid task stored
    exact sound.keyed uid task (kept uid task stored).1
  · intro uid task stored
    obtain ⟨stored', other⟩ := kept uid task stored
    show (core.checklists.remove checklistUid).contains task.checklistUid = true
    rw [Dict.contains, Dict.get_remove, if_neg other]
    exact sound.owned uid task stored'
  · intro uid checklist' stored'
    have found : (core.checklists.remove checklistUid).get uid = some checklist' := stored'
    rw [Dict.get_remove] at found
    split at found
    · cases found
    · next other =>
      refine .kept checklist' found (Dict.filter_values_retain fun _ task _ here => ?_) rfl (.inl rfl)
      rw [beq_iff_eq] at here
      rw [here]
      simpa using other

omit [Host] in
theorem uploadChecklist_tables (checklistUid : String) : Tables ticks patched (uploadChecklist checklistUid) := by
  intro t sound
  unfold uploadChecklist
  refine readTables fun core seen => ?_
  subst seen
  refine Proc.Spec.require (fun checklist stored => ?_) fun _ => .refl sound
  refine readClock fun now _ => writeChecklist (Proc.Spec.pure ?_)
  exact sound.patchChecklist stored rfl (.inl rfl)

theorem publishChecklistFeed_keeps (checklistUid missionFeedUid : String) (command : MissionCommandEnvelope) :
    Proc.Keeps (checklistsSeen ticks) (publishChecklistFeed checklistUid missionFeedUid command) := by
  unfold publishChecklistFeed
  refine keeps_core.bind fun _ => (Proc.Keeps.orThrow _ _).bind fun _ => .guard ?_
  exact keeps_draw.bind fun _ => keeps_clock.bind fun _ => .bind (keeps_update fun _ => rfl) fun _ => .pure _

/-! ## Import -/

theorem importCsvRow_tables (command : MissionCommandEnvelope) (checklistUid : String) (width : Nat)
    (dueIndex : Option Nat) (headerColumnUids : List (Nat × String)) (entry : List String × Nat) :
    Tables ticks patched (importCsvRow command checklistUid width dueIndex headerColumnUids entry) := by
  unfold importCsvRow
  dsimp only
  refine .bind (fun t sound => (addChecklistTaskRow_tables sound _).mono fun _ _ h => h.1) fun updated => ?_
  refine .after keeps_core fun _ => .after (Proc.Keeps.orThrow _ _) fun task => .forM fun header => ?_
  unfold importCsvCell
  split
  · refine .bind (fun t sound => ?_) fun _ => .pure _
    exact (setChecklistTaskCell_tables sound _ _ _).mono fun _ _ h => h.1
  · exact .pure _

theorem importChecklistCsv_tables (command : MissionCommandEnvelope) :
    Tables ticks patched (importChecklistCsv command) := by
  unfold importChecklistCsv
  dsimp only
  refine .after (keeps_check _) fun rows => ?_
  split
  · refine .guard ?_
    refine .bind (createChecklistFromArgs_tables _ _ _) fun checklist => .after keeps_core fun _ => ?_
    refine .bind (.forM fun entry => importCsvRow_tables _ _ _ _ _ _) fun _ => ?_
    exact .after keeps_core fun _ => .after (Proc.Keeps.orThrow _ _) fun _ => .after keeps_core fun _ => .pure _
  · exact .throw _

/-! ## Commands -/

theorem emitAutoChecklistMissionChange_keeps (command : MissionCommandEnvelope) (payload : Value)
    (sourceEventType changeType : String) (member : Option String) (delta : Option (List Value × List Value)) :
    Proc.Keeps (checklistsSeen ticks)
      (emitAutoChecklistMissionChange command payload sourceEventType changeType member delta) := by
  unfold emitAutoChecklistMissionChange
  refine keeps_core.bind fun _ => .guard ?_
  split
  · exact .pure _
  · refine keeps_clock.bind fun _ => keeps_draw.bind fun _ => ?_
    unfold recordMissionChange recordAuditEvent
    refine .bind (keeps_update fun _ => rfl) fun _ => ?_
    exact keeps_draw.bind fun _ => keeps_clock.bind fun _ => keeps_update fun _ => rfl

theorem emitChecklistMissionChanges_keeps (command : MissionCommandEnvelope) (before : ChecklistBefore)
    (payload : Value) : Proc.Keeps (checklistsSeen ticks) (emitChecklistMissionChanges command before payload) := by
  unfold emitChecklistMissionChanges
  dsimp only
  split
  · exact emitAutoChecklistMissionChange_keeps _ _ _ _ _ _
  · exact emitAutoChecklistMissionChange_keeps _ _ _ _ _ _
  · exact emitAutoChecklistMissionChange_keeps _ _ _ _ _ _
  · exact .ite (emitAutoChecklistMissionChange_keeps _ _ _ _ _ _) (.pure _)
  · exact .ite (emitAutoChecklistMissionChange_keeps _ _ _ _ _ _) (.pure _)
  · exact emitAutoChecklistMissionChange_keeps _ _ _ _ _ _
  · exact emitAutoChecklistMissionChange_keeps _ _ _ _ _ _
  · exact emitAutoChecklistMissionChange_keeps _ _ _ _ _ _
  · exact emitAutoChecklistMissionChange_keeps _ _ _ _ _ _
  · exact .pure _

/-- An accepted row command leaves the checklist it names with its tasks counted. -/
theorem applyChecklistTaskCommand_tables {t : ChecklistTables} (sound : t.Sound) (command : MissionCommandEnvelope) :
    Proc.Spec (checklistsSeen ticks) (applyChecklistTaskCommand command) t fun r t' => t.Step ticks patched t' ∧
      ∀ uid payload, requiredText command.args ["checklist_uid"] = .ok uid → r = .ok payload →
        ∃ checklist, CountSettled ticks t' uid checklist := by
  unfold applyChecklistTaskCommand
  dsimp only
  refine Proc.Spec.check (fun checklistUid named => ?_) fun _ _ => ⟨.refl sound, fun _ _ _ h => absurd h error_ne_ok⟩
  have refused : ∀ e : RchCoreError, t.Step ticks patched t ∧ ∀ uid (payload : Value),
      requiredText command.args ["checklist_uid"] = .ok uid → Except.error e = .ok payload →
        ∃ checklist, CountSettled ticks t uid checklist := fun e => ⟨.refl sound, fun _ _ _ h => absurd h error_ne_ok⟩
  have answered (m : CoreM ChecklistRecord)
      (h : Proc.Spec (checklistsSeen ticks) m t (RowDone ticks patched t checklistUid)) :
      Proc.Spec (checklistsSeen ticks) (m >>= fun checklist => do return (← core).checklistValue checklist) t
        fun r t' => t.Step ticks patched t' ∧ ∀ uid payload, requiredText command.args ["checklist_uid"] = .ok uid →
          r = .ok payload → ∃ checklist, CountSettled ticks t' uid checklist := by
    refine Proc.Spec.bind h (fun checklist t' done => ?_) fun e t' done => ?_
    · refine readTables fun core _ => Proc.Spec.pure ⟨done.1, ?_⟩
      intro uid payload named' _
      obtain rfl := Except.ok.inj (named.symm.trans named')
      exact ⟨checklist, done.2 checklist rfl⟩
    · exact ⟨done.1, fun _ _ _ h => absurd h error_ne_ok⟩
  split
  · exact answered _ (addChecklistTaskRow_tables sound _)
  · exact Proc.Spec.check (fun taskUid _ => answered _ (deleteChecklistTaskRow_tables sound _)) fun e _ => refused e
  · exact Proc.Spec.check (fun taskUid _ => answered _ (setChecklistTaskRowStyle_tables sound _ _)) fun e _ => refused e
  · refine Proc.Spec.check (fun taskUid _ => ?_) fun e _ => refused e
    exact Proc.Spec.check (fun columnUid _ => answered _ (setChecklistTaskCell_tables sound _ _ _)) fun e _ => refused e
  · exact Proc.Spec.check (fun taskUid _ => answered _ (setChecklistTaskStatus_tables sound _ _)) fun e _ => refused e
  · exact Proc.Spec.throw (refused _)

/-- The command is an update that gives the checklist the status. -/
def StatusPatched (command : MissionCommandEnvelope) (uid status : String) : Prop :=
  command.commandType = "checklist.update" ∧ ∃ checklistUid patch,
    requiredText command.args ["checklist_uid"] = .ok checklistUid ∧ command.args.get "patch" = some patch ∧
      PatchesStatus checklistUid patch uid status

omit [Host] in
theorem Tables.mono {α : Type} {m : CoreM α} {patched' : String → String → Prop} (h : Tables ticks patched m)
    (more : ∀ uid status, patched uid status → patched' uid status) : Tables ticks patched' m :=
  fun t sound => (h t sound).mono fun _ _ step => step.mono (fun _ tick => tick) more

theorem checklistCommandPayload_tables (command : MissionCommandEnvelope) :
    Tables ticks (StatusPatched command) (checklistCommandPayload command) := by
  unfold checklistCommandPayload
  dsimp only
  have rows : Tables ticks (StatusPatched command) (applyChecklistTaskCommand command) := fun t sound =>
    (applyChecklistTaskCommand_tables sound command).mono fun _ _ h => h.1
  have named : Tables ticks (StatusPatched command) (do
      let checklist ← checklistFromArgs command.args
      return (← core).checklistValue checklist) := by
    unfold checklistFromArgs
    refine .after ((keeps_check _).bind fun _ => keeps_core.bind fun _ => .orThrow _ _) fun _ => ?_
    exact .after keeps_core fun _ => .pure _
  split
  · exact .keeps (applyChecklistTemplateCommand_keeps _)
  · exact .keeps (applyChecklistTemplateCommand_keeps _)
  · exact .keeps (applyChecklistTemplateCommand_keeps _)
  · exact .keeps (applyChecklistTemplateCommand_keeps _)
  · exact .keeps (applyChecklistTemplateCommand_keeps _)
  · exact .keeps (applyChecklistTemplateCommand_keeps _)
  · exact .bind (createChecklistFromArgs_tables _ _ _) fun _ => .after keeps_core fun _ => .pure _
  · exact .bind (createChecklistFromArgs_tables _ _ _) fun _ => .after keeps_core fun _ => .pure _
  · exact .after keeps_core fun _ => .pure _
  · exact named
  · exact named
  · next update =>
    intro t sound
    refine Proc.Spec.check (fun checklistUid uid => ?_) fun _ _ => .refl sound
    refine Proc.Spec.require (fun patch given => ?_) fun _ => .refl sound
    refine Tables.bind (Tables.mono (updateChecklistFromPatch_tables checklistUid patch) ?_)
      (fun _ => .after keeps_core fun _ => .pure _) t sound
    exact fun uid' status patched => ⟨update, checklistUid, patch, uid, given, patched⟩
  · exact .after (keeps_check _) fun _ => deleteChecklist_tables _
  · exact .after (keeps_check _) fun _ => .bind (uploadChecklist_tables _) fun _ => .after keeps_core fun _ => .pure _
  · exact importChecklistCsv_tables _
  · refine .after (keeps_check _) fun _ => .after (keeps_check _) fun _ => ?_
    exact .after (publishChecklistFeed_keeps _ _ _) fun _ => .pure _
  · exact rows
  · exact rows
  · exact rows
  · exact rows
  · exact rows
  · exact .throw _

theorem applyChecklistCommand_tables (command : MissionCommandEnvelope) :
    Tables ticks (StatusPatched command) (applyChecklistCommand command) := by
  unfold applyChecklistCommand
  refine .after keeps_core fun _ => .bind (checklistCommandPayload_tables command) fun payload => ?_
  exact .after (emitChecklistMissionChanges_keeps _ _ _) fun _ => .pure _

omit [Host] in
theorem JournalEdit.tables {core core' : RchCore} (edit : JournalEdit core core') :
    core'.checklistTables = core.checklistTables := by
  cases edit <;> rfl

omit [Host] in
theorem AssetEdit.tables {core core' : RchCore} (edit : AssetEdit core core') :
    core'.checklistTables = core.checklistTables := by
  cases edit with
  | journal entry => exact entry.tables
  | _ => rfl

/-- A write of another family leaves the tables as they are. -/
theorem CommandFamily.Edit.tables {family : CommandFamily} (other : family ≠ .checklist) {core core' : RchCore}
    (edit : family.Edit core core') : core'.checklistTables = core.checklistTables := by
  cases family with
  | remRegistry => cases edit <;> rfl
  | clientEvent => cases edit <;> rfl
  | marker => cases edit <;> rfl
  | zone => cases edit <;> rfl
  | mission => cases edit <;> rfl
  | log => cases edit <;> rfl
  | eam => cases edit <;> rfl
  | team => cases edit <;> rfl
  | teamMember => cases edit <;> rfl
  | asset => exact AssetEdit.tables edit
  | skill => exact AssetEdit.tables edit
  | assignment => exact AssetEdit.tables edit
  | rights => cases edit <;> rfl
  | topic => cases edit <;> rfl
  | checklist => exact absurd rfl other

/-- The readings of a clock. -/
def ClockReads (w : World) (now : Int) : Prop := ∃ n, now = (w.clock n).timestampMillis

theorem CommandEntry.after_tables (entry : CommandEntry) (command : MissionCommandEnvelope) (w : World)
    (sound : w.core.checklistTables.Sound) :
    w.core.checklistTables.Step (ClockReads w) (StatusPatched command) (entry.after command w).core.checklistTables := by
  have journal : ∀ core core', JournalEdit core core' → core'.checklistTables = core.checklistTables :=
    fun _ _ edit => edit.tables
  rcases entry.after_cases journalMoves command w with quiet | ⟨family, w', before, behind⟩
  · rw [(journalSteps_keep journal quiet).1]
    exact .refl sound
  · obtain ⟨same, k, clock⟩ := journalSteps_keep journal before
    rw [(journalSteps_keep journal behind).1]
    by_cases checklists : family = .checklist
    · subst checklists
      rw [← same] at sound ⊢
      exact (applyChecklistCommand_tables command _ sound w' rfl fun n => ⟨n + k, by rw [clock]⟩).1
    · rw [family.apply_keeps checklists (fun _ _ edit => edit.tables checklists), same]
      exact .refl sound

/-- What the run reads of the clock and what its updates patch is all in `ticks` and `patched`. -/
def WithinReadings (ticks : Int → Prop) (patched : String → String → Prop) (_ : CommandEntry)
    (command : MissionCommandEnvelope) (w : World) : Prop :=
  (∀ now, ClockReads w now → ticks now) ∧ ∀ uid status, StatusPatched command uid status → patched uid status

omit [Host] in
theorem RchCore.new_tables : RchCore.new.checklistTables.Sound where
  keyed uid task stored := absurd ((Dict.get_empty uid).symm.trans stored) (by simp)
  owned uid task stored := absurd ((Dict.get_empty uid).symm.trans stored) (by simp)

theorem run_tables {core core' : RchCore} (sound : core.checklistTables.Sound)
    (run : CommandRun (WithinReadings ticks patched) core core') :
    core.checklistTables.Step ticks patched core'.checklistTables := by
  induction run with
  | refl => exact .refl sound
  | step _ within ih => exact ih.trans ((CommandEntry.after_tables _ _ _ ih.sound).mono within.1 within.2)

/-- Along every run of commands, accepted or rejected, each checklist counts its tasks, whose
statuses were derived at readings of the clock; its status is the one of the counts, or one
that an update patched. Each command either counts a checklist's tasks at its own readings or
leaves them and the counts as they are, and an accepted row command does count. -/
theorem checklist_counts_kept {core : RchCore} (run : CommandRun (WithinReadings ticks patched) RchCore.new core) :
    (∀ uid checklist, core.checklists.get uid = some checklist →
      Tallied ticks (core.checklistTables.tasksOf uid) checklist ∧
        (checklist.checklistStatus = statusOfTasks (core.checklistTables.tasksOf uid) ∨
          patched uid checklist.checklistStatus)) ∧
    (∀ (entry : CommandEntry) command w, w.core = core →
      core.checklistTables.Step (ClockReads w) (StatusPatched command) (entry.after command w).core.checklistTables) ∧
    ∀ command w uid payload, w.core = core → requiredText command.args ["checklist_uid"] = .ok uid →
      ((applyChecklistTaskCommand command).run w).1 = .ok payload →
        ∃ checklist, CountSettled (ClockReads w) ((applyChecklistTaskCommand command).run w).2.core.checklistTables uid checklist := by
  have step := run_tables RchCore.new_tables run
  refine ⟨?_, ?_, ?_⟩
  · intro uid checklist stored
    cases step.each uid checklist stored with
    | tallied tally status => exact ⟨tally, status⟩
    | kept old absent => exact absurd ((Dict.get_empty uid).symm.trans absent) (by simp)
  · rintro entry command w rfl
    exact entry.after_tables command w step.sound
  · rintro command w uid payload rfl named accepted
    have spec : Proc.Spec (checklistsSeen (ClockReads w)) (applyChecklistTaskCommand command) w.core.checklistTables
        fun r t' => w.core.checklistTables.Step (ClockReads w) (fun _ _ => False) t' ∧ ∀ uid payload,
          requiredText command.args ["checklist_uid"] = .ok uid → r = .ok payload →
            ∃ checklist, CountSettled (ClockReads w) t' uid checklist := applyChecklistTaskCommand_tables step.sound command
    exact (spec w rfl fun n => ⟨n, rfl⟩).1.2 uid payload named accepted

end

end

/-! ## A drill -/

/-- A command with an id, a type and arguments. -/
def drillCommand (commandId commandType : String) (args : List (String × Value)) : MissionCommandEnvelope :=
  { commandId, source := { rnsIdentity := "aa", displayName := none }, timestamp := "", commandType,
    args := .object args, correlationId := none, topics := [] }

/-- A checklist with two tasks. -/
def createDrill : MissionCommandEnvelope :=
  drillCommand "1" "checklist.create.offline"
    [("name", .string "Drill"), ("checklist_uid", .string "drill"),
      ("tasks", .array [.object [("task_uid", .string "a")], .object [("task_uid", .string "b")]])]

def completeTask : MissionCommandEnvelope :=
  drillCommand "2" "checklist.task.status.set"
    [("checklist_uid", .string "drill"), ("task_uid", .string "a"), ("user_status", .string "COMPLETE")]

def patchStatus : MissionCommandEnvelope :=
  drillCommand "3" "checklist.update"
    [("checklist_uid", .string "drill"), ("patch", .object [("checklist_status", .string "COMPLETE")])]

/-- The core behind commands at the Unix epoch. -/
def coreBehind : List MissionCommandEnvelope → RchCore
  | [] => RchCore.new
  | command :: earlier =>
    letI := Host.blank
    (CommandEntry.after .command command (World.atEpoch (coreBehind earlier))).core

/-- A checklist of two tasks of which one is done. -/
theorem checklist_counts_kept_drill :
    letI := Host.blank
    ∃ checklist, (coreBehind [completeTask, createDrill]).checklists.get "drill" = some checklist ∧
      checklist.pendingCount = 1 ∧ checklist.completeCount = 1 ∧
      Tallied (· = 0) ((coreBehind [completeTask, createDrill]).checklistTables.tasksOf "drill") checklist := by
  let _ := Host.blank
  have within (command : MissionCommandEnvelope) (core : RchCore) (other : command.commandType ≠ "checklist.update") :
      WithinReadings (· = 0) (fun _ _ => False) .command command (World.atEpoch core) := by
    constructor
    · rintro now ⟨n, rfl⟩
      rfl
    · rintro uid status ⟨update, -⟩
      exact other update
  have created : CommandRun (WithinReadings (· = 0) fun _ _ => False) RchCore.new (coreBehind [createDrill]) :=
    .step (.refl _) (within createDrill _ (by decide))
  have run : CommandRun (WithinReadings (· = 0) fun _ _ => False) RchCore.new
      (coreBehind [completeTask, createDrill]) :=
    .step created (within completeTask _ (by decide))
  have counts : ((coreBehind [completeTask, createDrill]).checklists.get "drill").map (fun checklist =>
      (checklist.pendingCount, checklist.completeCount)) = some (1, 1) := by decide +kernel
  obtain ⟨checklist, stored, counts⟩ := Option.map_eq_some_iff.1 counts
  obtain ⟨pending, complete⟩ := Prod.mk.inj counts
  exact ⟨checklist, stored, pending, complete, ((checklist_counts_kept run).1 "drill" checklist stored).1⟩

/-- The status is patched to complete, and both tasks are pending. -/
theorem patched_status_apart :
    ((coreBehind [patchStatus, createDrill]).checklists.get "drill").map (fun checklist =>
      (checklist.checklistStatus, checklist.pendingCount, checklist.completeCount)) = some ("COMPLETE", 2, 0) ∧
    statusOfTasks ((coreBehind [patchStatus, createDrill]).checklistTables.tasksOf "drill") = "PENDING" := by
  decide +kernel

end TelemetryHub
