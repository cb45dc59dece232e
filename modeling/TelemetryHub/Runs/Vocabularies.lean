import TelemetryHub.Edits.Enumerations
import TelemetryHub.Runs.Sheets
import TelemetryHub.Runs.Parents

/-!
# Vocabularies along a run

Three fields keep the blank text that they are given: the status of a mission, the type of a
mission change and the user status of a task. Where no command gives any, every enumerated
field is in its vocabulary in every state that is reached.
-/

namespace TelemetryHub

open Lib CoreM

section

variable [Host]

/-- The command gives a field as blank text that keeps it. -/
def GivesBlank (command : MissionCommandEnvelope) : Prop :=
  GivesBlankMissionStatus command ∨ GivesBlankChangeType command ∨ GivesBlankUserStatus command

omit [Host] in
/-- The enumerated fields of missions, checklists and tasks, and those of the other records. -/
structure FieldsKnown (core : RchCore) : Prop where
  missions : core.missions.All fun mission => mission.missionStatus ∈ missionStatuses
  checklists : core.checklists.All ChecklistRecord.Enumerated
  tasks : core.checklistTasks.All fun task => task.userStatus ∈ userStatuses ∧ task.taskStatus ∈ taskStatuses
  records : RecordsKnown core

/-! ## Missions -/

theorem CommandEntry.after_missionStatus (entry : CommandEntry) {command : MissionCommandEnvelope}
    (given : ¬GivesBlankMissionStatus command) (w : World)
    (h : w.core.missions.All fun mission => mission.missionStatus ∈ missionStatuses) :
    (entry.after command w).core.missions.All fun mission => mission.missionStatus ∈ missionStatuses := by
  refine entry.after_holds (P := fun core => core.missions.All fun mission => mission.missionStatus ∈ missionStatuses) command
    ?_ w (fun family w' _ h' => ?_) h
  · intro core core' h edit
    cases edit <;> exact h
  · refine family.apply_missions (P := fun core => core.missions.All fun mission => mission.missionStatus ∈ missionStatuses)
      command (fun core core' same h => same ▸ h) (fun core core' h write => ?_) w' h'
    cases write with
    | put uid mission status parent =>
      refine h.insert ?_
      cases status with
      | member known => exact known
      | before old stored same => exact same ▸ h uid old stored
      | blank blank empty => exact absurd blank given
    | other core' same => exact same ▸ h

/-! ## Checklists -/

omit [Host] in
/-- The enumerated fields of the checklists and their tasks are in their vocabularies. -/
def SheetsKnown (core : RchCore) : Prop :=
  core.checklists.All ChecklistRecord.Enumerated ∧
    core.checklistTasks.All fun task => task.userStatus ∈ userStatuses ∧ task.taskStatus ∈ taskStatuses

theorem SheetsKnown.step {core core' : RchCore} (h : SheetsKnown core) {grant : SheetGrant} (given : ¬grant.blankStatus)
    (edit : SheetEdit grant core core') : SheetsKnown core' := by
  obtain ⟨checklists, tasks⟩ := h
  have pending : "PENDING" ∈ userStatuses := by decide
  cases edit with
  | createChecklist uid checklist columns now table absent enumerated => exact ⟨checklists.insert enumerated, tasks⟩
  | patchChecklist uid old checklist stored enumerated =>
    exact ⟨checklists.insert (enumerated (checklists uid old stored)), tasks⟩
  | deleteChecklist uid => exact ⟨checklists.remove uid, tasks.retain _⟩
  | addRow uid task now cells key absent owned number user status put =>
    exact ⟨checklists, tasks.insert ⟨user ▸ pending, status⟩⟩
  | patchRow uid old task stored key owner number user status =>
    obtain ⟨userBefore, statusBefore⟩ := tasks uid old stored
    refine ⟨checklists, tasks.insert ⟨?_, ?_⟩⟩
    · rcases user with same | known | ⟨blank, -⟩
      · exact same ▸ userBefore
      · exact known
      · exact absurd blank given
    · rcases status with same | known
      · exact same ▸ statusBefore
      · exact known
  | deleteRow uid task stored => exact ⟨checklists, tasks.remove uid⟩
  | _ => exact ⟨checklists, tasks⟩

theorem CommandEntry.after_sheetsKnown (entry : CommandEntry) {command : MissionCommandEnvelope}
    (given : ¬GivesBlankUserStatus command) (w : World) (h : SheetsKnown w.core) : SheetsKnown (entry.after command w).core := by
  refine entry.after_sheets False command w False.elim False.elim (fun core core' same h => ?_)
    (fun core core' h edit => h.step given edit) h
  have checklists : core'.checklists = core.checklists := congrArg SheetTables.checklists same
  have tasks : core'.checklistTasks = core.checklistTasks := congrArg SheetTables.tasks same
  unfold SheetsKnown
  rw [checklists, tasks]
  exact h

/-! ## The other records -/

theorem RecordsKnown.sheet {core core' : RchCore} (h : RecordsKnown core) {grant : SheetGrant}
    (edit : SheetEdit grant core core') : RecordsKnown core' := by
  cases edit with
  | deleteChecklist uid => exact { h with assignments := h.assignments.retain _ }
  | change uid record known => exact { h with changes := h.changes.insert known }
  | _ => exact { h with }

/-- A command of a family that is not looked at for its own records leaves them alone, or takes
members off assets. -/
theorem CommandFamily.Edit.records {family : CommandFamily}
    (other : family ∈ [.remRegistry, .clientEvent, .marker, .zone, .mission, .teamMember, .rights, .topic])
    {core core' : RchCore} (h : RecordsKnown core) (edit : family.Edit core core') : RecordsKnown core' := by
  cases family with
  | teamMember =>
    cases edit with
    | delete uid member assets stored left =>
      refine { h with assets := fun key asset found => ?_ }
      obtain ⟨old, before, ⟨-, rfl⟩ | ⟨-, now, rfl⟩⟩ := left.source found
      · exact h.assets key asset before
      · exact { h.assets key old before with }
    | _ => exact { h with }
  | remRegistry | clientEvent | marker | zone | mission | rights | topic => cases edit <;> exact { h with }
  | _ => exact absurd other (by decide)

theorem CommandFamily.apply_records (family : CommandFamily) {command : MissionCommandEnvelope}
    (given : ¬GivesBlankChangeType command) (w : World) (h : RecordsKnown w.core) :
    RecordsKnown ((family.apply command).run w).2.core := by
  have kept : ∀ {m : CoreM EventEnvelope}, Records m → RecordsKnown (m.run w).2.core := by
    intro m records
    have steps : Relation.ReflTransGen RecordsKept w.core (m.run w).2.core :=
      (records w.core w rfl fun _ => trivial).1.steps
    generalize (m.run w).2.core = core' at steps ⊢
    induction steps with
    | refl => exact h
    | tail _ step ih => exact step ih
  have quiet : ∀ other : family ≠ .checklist,
      family ∈ [.remRegistry, .clientEvent, .marker, .zone, .mission, .teamMember, .rights, .topic] →
        RecordsKnown ((family.apply command).run w).2.core :=
    fun other among => family.apply_holds other (fun _ _ h edit => edit.records among h) command w h
  cases family with
  | asset => exact kept (applyRegistryAssetCommand_records command)
  | skill => exact kept (applyRegistrySkillCommand_records command)
  | assignment => exact kept (applyRegistryAssignmentCommand_records command)
  | team => exact kept (applyRegistryTeamCommand_records command)
  | eam => exact kept (applyRegistryEamCommand_records command)
  | log => exact kept (applyRegistryLogCommand_records command given)
  | checklist =>
    have spec : Proc.Spec drawsSeen (applyChecklistCommand command) (w.core, w.draws)
        (Proc.Outcome False (SheetSteps (sheetGrant False w.core command)) (w.core, w.draws)) :=
      applyChecklistCommand_sheets command w.core w.draws
    obtain ⟨_, -, steps⟩ := SheetSteps.of_gen (spec w rfl trivial).1.steps
    have path : Relation.ReflTransGen (SheetEdit (sheetGrant False w.core command)) w.core
        ((CommandFamily.checklist.apply command).run w).2.core := (steps False.elim False.elim).1
    generalize ((CommandFamily.checklist.apply command).run w).2.core = core' at path ⊢
    induction path with
    | refl => exact h
    | tail _ edit ih => exact ih.sheet edit
  | _ => exact quiet (by decide) (by decide)

omit [Host] in
/-- A step of a front end, which writes no mission change. -/
def QuietStep (w w' : World) : Prop :=
  w'.core = w.core ∨ JournalEdit w.core w'.core ∧ w'.core.missionChanges = w.core.missionChanges

omit [Host] in
theorem quietMoves : JournalMoves QuietStep where
  read := .step fun _ => .inl rfl
  clock := .step fun _ => .inl rfl
  draw := .step fun _ => .inl rfl
  write edit same := .step fun w => .inr ⟨edit w.core, same w.core⟩

omit [Host] in
theorem RecordsKnown.journal {core core' : RchCore} (h : RecordsKnown core) (edit : JournalEdit core core')
    (changes : core'.missionChanges = core.missionChanges) : RecordsKnown core' := by
  refine h.of_same changes ?_ ?_ ?_ ?_ <;> cases edit <;> rfl

omit [Host] in
theorem RecordsKnown.quiet {w w' : World} (h : RecordsKnown w.core) (steps : Relation.ReflTransGen QuietStep w w') :
    RecordsKnown w'.core := by
  induction steps with
  | refl => exact h
  | tail _ step ih =>
    rcases step with same | ⟨edit, changes⟩
    · exact same ▸ ih
    · exact ih.journal edit changes

theorem CommandEntry.after_records (entry : CommandEntry) {command : MissionCommandEnvelope}
    (given : ¬GivesBlankChangeType command) (w : World) (h : RecordsKnown w.core) :
    RecordsKnown (entry.after command w).core := by
  rcases entry.after_cases quietMoves command w with quiet | ⟨family, w', before, behind⟩
  · exact h.quiet quiet
  · exact (family.apply_records given w' (h.quiet before)).quiet behind

/-! ## Runs -/

/-- Along a run without blank texts every enumerated field is in its vocabulary. -/
theorem enumerated_fields_known {core : RchCore}
    (run : CommandRun (fun _ command _ => ¬GivesBlank command) RchCore.new core) : FieldsKnown core := by
  have missions := run.holds (P := fun core => core.missions.All fun mission => mission.missionStatus ∈ missionStatuses)
    .empty fun entry command w given h => entry.after_missionStatus (fun blank => given (.inl blank)) w h
  have sheets := run.holds (P := SheetsKnown) ⟨.empty, .empty⟩ fun entry command w given h =>
    entry.after_sheetsKnown (fun blank => given (.inr (.inr blank))) w h
  have records := run.holds (P := RecordsKnown) ⟨.empty, .empty, .empty, .empty, .empty⟩ fun entry command w given h =>
    entry.after_records (fun blank => given (.inr (.inl blank))) w h
  exact ⟨missions, sheets.1, sheets.2, records⟩

end

/-! ## A drill -/

/-- A mission with a status and a change of it with a type. -/
def namedFields : List MissionCommandEnvelope :=
  [drillCommand "2" "mission.registry.mission_change.upsert"
      [("uid", .string "c"), ("mission_uid", .string "m"), ("change_type", .string "map_layer")],
    drillCommand "1" "mission.registry.mission.upsert" [("uid", .string "m"), ("mission_status", .string " mission_pending")]]

def blankStatus : MissionCommandEnvelope :=
  drillCommand "1" "mission.registry.mission.upsert" [("uid", .string "m"), ("mission_status", .string "")]

/-- The status and the type are stored as the vocabularies have them. -/
theorem enumerated_fields_known_drill :
    ((coreBehind namedFields).missions.get "m").map MissionRecord.missionStatus = some "MISSION_PENDING" ∧
      ((coreBehind namedFields).missionChanges.get "c").map MissionChangeRecord.changeType = some "MAP_LAYER" ∧
      FieldsKnown (coreBehind namedFields) := by
  let _ := Host.blank
  have given : ∀ command ∈ namedFields, ¬GivesBlank command := by
    intro command mem
    rcases List.mem_cons.1 mem with rfl | mem
    · rintro ((⟨type, -⟩ | ⟨type, -⟩) | ⟨-, text, read, blank⟩ | ⟨type, -⟩)
      · exact absurd type (by decide)
      · exact absurd type (by decide)
      · rw [← Option.some.inj (show some "map_layer" = some text from read)] at blank
        exact absurd blank (by decide)
      · exact absurd type (by decide)
    · rw [List.mem_singleton.1 mem]
      rintro ((⟨-, text, read, blank⟩ | ⟨type, -⟩) | ⟨type, -⟩ | ⟨type, -⟩)
      · rw [← Option.some.inj (show some " mission_pending" = some text from read)] at blank
        exact absurd blank (by decide)
      · exact absurd type (by decide)
      · exact absurd type (by decide)
      · exact absurd type (by decide)
  refine ⟨by decide +kernel, by decide +kernel, enumerated_fields_known (coreBehind_run ?_)⟩
  exact fun command mem _ => given command mem

/-- A status of blank text is stored as it is. -/
theorem blank_status_stored :
    letI := Host.blank
    CommandRun (fun _ _ _ => True) RchCore.new (coreBehind [blankStatus]) ∧ ¬FieldsKnown (coreBehind [blankStatus]) := by
  let _ := Host.blank
  refine ⟨coreBehind_run fun _ _ _ => trivial, fun known => ?_⟩
  have stored : ((coreBehind [blankStatus]).missions.get "m").map MissionRecord.missionStatus = some "" := by decide +kernel
  obtain ⟨mission, found, empty⟩ := Option.map_eq_some_iff.1 stored
  have member : mission.missionStatus ∈ missionStatuses := known.missions "m" mission found
  rw [empty] at member
  exact absurd member (by decide)

end TelemetryHub
