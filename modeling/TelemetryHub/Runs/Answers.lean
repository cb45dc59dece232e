import TelemetryHub.Lib.Composite
import TelemetryHub.Runs.Mirrors
import TelemetryHub.Runs.Sheets

/-!
# Answers and the audit trail

What `handle_command` answers is kept under the id of the command and is given again for every
command of that id. The sync front ends neither look there nor write there. Whatever is accepted is
entered in the audit trail, which is only ever added to.
-/

namespace TelemetryHub

open Lib CoreM

/-- The answers are as they were, and the trail has more entries at most. -/
structure TrailKept (core core' : RchCore) : Prop where
  answers : core'.commandResults = core.commandResults
  trail : core.auditEvents <+: core'.auditEvents

theorem TrailKept.refl (core : RchCore) : TrailKept core core := ⟨rfl, List.prefix_rfl⟩

theorem TrailKept.trans {a b c : RchCore} (first : TrailKept a b) (second : TrailKept b c) : TrailKept a c :=
  ⟨second.answers.trans first.answers, first.trail.trans second.trail⟩

theorem TrailKept.of_same {core core' : RchCore} (answers : core'.commandResults = core.commandResults)
    (trail : core'.auditEvents = core.auditEvents) : TrailKept core core' := ⟨answers, trail ▸ List.prefix_rfl⟩

/-- Wherever the method is run it keeps the trail. -/
def Trails {α : Type} (m : CoreM α) : Prop := ∀ w, TrailKept w.core (m.run w).2.core

/-! ## Steps -/

namespace Trails

variable {α β : Type}

theorem of_walks {m : CoreM α} (walks : Proc.Walks (fun w w' => TrailKept w.core w'.core) m) : Trails m := by
  intro w
  have steps := walks w
  generalize (m.run w).2 = w' at steps ⊢
  induction steps with
  | refl => exact .refl _
  | tail _ step ih => exact ih.trans step

theorem pure (a : α) : Trails (Pure.pure a : CoreM α) := fun _ => .refl _

theorem throw (e : RchCoreError) : Trails (MonadExcept.throw e : CoreM α) := fun _ => .refl _

theorem bind {m : CoreM β} {k : β → CoreM α} (hm : Trails m) (hk : ∀ b, Trails (k b)) : Trails (m >>= k) :=
  .of_walks (.bind (.step hm) fun b => .step (hk b))

theorem ite {c : Prop} [Decidable c] {m m' : CoreM α} (hm : Trails m) (hm' : Trails m') :
    Trails (if c then m else m') := .of_walks (.ite (.step hm) (.step hm'))

theorem guard {c : Prop} [Decidable c] {e : RchCoreError} {k : β → CoreM α} {m : CoreM α} (hm : Trails m) :
    Trails (if c then MonadExcept.throw e >>= k else m) := .of_walks (.guard (.step hm))

theorem forM {items : List β} {body : β → CoreM PUnit} (h : ∀ b, Trails (body b)) : Trails (items.forM body) :=
  .of_walks (.forM fun b => .step (h b))

theorem attempt {ε' : Type} {m : CoreM α} (hm : Trails m) : Proc.Walks (fun w w' => TrailKept w.core w'.core)
    (Proc.attempt m : Proc ε' World (Except RchCoreError α)) := .attempt (.step hm)

theorem read {k : RchCore → CoreM α} (h : ∀ core, Trails (k core)) : Trails (core >>= k) := fun w => h w.core w

theorem checked {x : Except RchCoreError β} {k : β → CoreM α} (h : ∀ b, Trails (k b)) : Trails ((liftM x : Proc RchCoreError World β) >>= k) :=
  bind (fun _ => .refl _) h

theorem required {x : Option β} {e : RchCoreError} {k : β → CoreM α} (h : ∀ b, Trails (k b)) :
    Trails (Proc.orThrow x e >>= k) := by
  cases x with
  | none => exact bind (throw e) h
  | some b => exact bind (pure b) h

theorem clock {k : Int → CoreM α} (h : ∀ t, Trails (k t)) : Trails (utcNowMs >>= k) :=
  bind (fun _ => .refl _) h

theorem draw {k : String → CoreM α} (h : ∀ uid, Trails (k uid)) : Trails (newUuid >>= k) :=
  bind (fun _ => .refl _) h

theorem drawUnless {value : Option String} {k : String → CoreM α} (h : ∀ uid, Trails (k uid)) :
    Trails (orNewUuid value >>= k) := by
  cases value with
  | some uid => exact bind (pure uid) h
  | none => exact draw h

/-- A write that neither answers nor reaches the trail. -/
theorem write {f : RchCore → RchCore} {k : Unit → CoreM α} (answers : ∀ core, (f core).commandResults = core.commandResults)
    (trail : ∀ core, (f core).auditEvents = core.auditEvents) (h : Trails (k ())) : Trails (update f >>= k) :=
  bind (fun w => .of_same (answers w.core) (trail w.core)) fun _ => h

end Trails

/-! ## The journal -/

/-- The entry of the trail is the one of the command and its event. -/
structure MissionAuditEvent.Records (record : MissionAuditEvent) (command : MissionCommandEnvelope) (event : EventEnvelope) :
    Prop where
  commandId : record.commandId = command.commandId
  commandType : record.commandType = command.commandType
  sourceIdentity : record.sourceIdentity = (normalizeHash command.source.rnsIdentity).getD command.source.rnsIdentity
  eventType : record.eventType = event.eventType
  payload : record.payload = event.payload

/-- The entry that `record_audit_event` makes. -/
theorem recordAuditEvent_entered (command : MissionCommandEnvelope) (event : EventEnvelope) {core₀ : RchCore} :
    Spec (fun _ => True) (recordAuditEvent command event) core₀ fun r core' => r = .ok () ∧
      ∃ record : MissionAuditEvent, record.Records command event ∧
        core' = { core₀ with auditEvents := core₀.auditEvents ++ [record] } := by
  unfold recordAuditEvent
  refine Spec.draw fun eventId _ => Spec.clock fun timestampMs => Spec.lastWrite ?_
  refine ⟨rfl, _, ?_, rfl⟩
  exact ⟨rfl, rfl, by dsimp only, rfl, rfl⟩

theorem recordAuditEvent_trails (command : MissionCommandEnvelope) (event : EventEnvelope) :
    Trails (recordAuditEvent command event) := by
  intro w
  obtain ⟨-, record, -, entered⟩ := (recordAuditEvent_entered command event w rfl fun _ => trivial).1
  have after : ((recordAuditEvent command event).run w).2.core = _ := entered
  rw [after]
  exact ⟨rfl, List.prefix_append _ _⟩

section

variable [Host]

theorem recordMissionChange_trails (command : MissionCommandEnvelope) (change : MissionChangeRecord) :
    Trails (recordMissionChange command change) :=
  .write (fun _ => rfl) (fun _ => rfl) (recordAuditEvent_trails command _)

/-! ## Assets, skills and assignments -/

theorem upsertAssetFromArgs_trails (args : Value) : Trails (upsertAssetFromArgs args) := by
  unfold upsertAssetFromArgs
  refine .drawUnless fun _ => .clock fun _ => .read fun _ => .checked fun _ => .checked fun _ => ?_
  exact .write (fun _ => rfl) (fun _ => rfl) (.pure _)

theorem emitAutoAssetMissionChanges_trails (command : MissionCommandEnvelope) (missionUids : List String)
    (sourceEventType changeType : String) (asset : AssetRecord) :
    Trails (emitAutoAssetMissionChanges command missionUids sourceEventType changeType asset) := by
  refine .forM fun missionUid => ?_
  unfold emitAutoAssetMissionChange
  exact .read fun _ => .ite (.clock fun _ => .draw fun _ => recordMissionChange_trails command _) (.pure _)

theorem applyRegistryAssetCommand_trails (command : MissionCommandEnvelope) : Trails (applyRegistryAssetCommand command) := by
  unfold applyRegistryAssetCommand
  split
  · refine .read fun _ => .bind (upsertAssetFromArgs_trails _) fun _ => .read fun _ => ?_
    exact .bind (emitAutoAssetMissionChanges_trails _ _ _ _ _) fun _ => .pure _
  · exact .checked fun _ => .read fun _ => .required fun _ => .pure _
  · exact .read fun _ => .pure _
  · refine .checked fun _ => .read fun _ => .required fun _ => .read fun _ => .bind ?_ fun _ => ?_
    · unfold deleteAsset
      exact .read fun _ => .required fun _ => .write (fun _ => rfl) (fun _ => rfl) (.pure _)
    · exact .bind (emitAutoAssetMissionChanges_trails _ _ _ _ _) fun _ => .pure _
  · exact .throw _

theorem applyRegistrySkillCommand_trails (command : MissionCommandEnvelope) : Trails (applyRegistrySkillCommand command) := by
  unfold applyRegistrySkillCommand
  split
  · refine .bind ?_ fun _ => .pure _
    unfold upsertSkillFromArgs
    exact .drawUnless fun _ => .clock fun _ => .read fun _ => .write (fun _ => rfl) (fun _ => rfl) (.pure _)
  · exact .read fun _ => .pure _
  · refine .bind ?_ fun _ => .pure _
    unfold upsertTeamMemberSkillFromArgs
    refine .checked fun _ => .read fun _ => .checked fun _ => .checked fun _ => .guard (.checked fun _ => ?_)
    exact .drawUnless fun _ => .checked fun _ => .write (fun _ => rfl) (fun _ => rfl) (.pure _)
  · exact .read fun _ => .pure _
  · refine .bind ?_ fun _ => .pure _
    unfold upsertTaskSkillRequirementFromArgs
    refine .checked fun _ => .checked fun _ => .read fun _ => .checked fun _ => .guard (.checked fun _ => ?_)
    exact .drawUnless fun _ => .checked fun _ => .write (fun _ => rfl) (fun _ => rfl) (.pure _)
  · exact .read fun _ => .pure _
  · exact .throw _

omit [Host] in
theorem modifyAssignmentAssets_trails (assignmentUid : String) (f : List String → List String) :
    Trails (modifyAssignmentAssets assignmentUid f) :=
  .read fun _ => .required fun _ => .write (fun _ => rfl) (fun _ => rfl) (.pure _)

theorem applyRegistryAssignmentCommand_trails (command : MissionCommandEnvelope) :
    Trails (applyRegistryAssignmentCommand command) := by
  have announced (assignment : AssignmentRecord) (sourceEventType op changeType eventType : String) (assetUid : Option String) :
      Trails (do
        emitAutoAssignmentMissionChange command assignment sourceEventType op changeType assetUid
        return event eventType command ((← core).assignmentValue assignment)) := by
    refine .bind ?_ fun _ => .read fun _ => .pure _
    unfold emitAutoAssignmentMissionChange
    refine .read fun _ => .guard ?_
    refine .clock fun _ => ?_
    refine .draw fun _ => ?_
    exact recordMissionChange_trails command _
  unfold applyRegistryAssignmentCommand
  dsimp only
  split
  · refine .bind ?_ fun _ => announced _ _ _ _ _ _
    unfold upsertAssignmentFromArgs
    refine .drawUnless fun _ => .read fun _ => .required fun _ => .required fun _ => .required fun _ => .guard ?_
    refine .checked fun _ => .checked fun _ => .checked fun _ => .clock fun _ => .checked fun _ => .checked fun _ => ?_
    exact .write (fun _ => rfl) (fun _ => rfl) (.pure _)
  · exact .read fun _ => .pure _
  · refine .checked fun _ => .checked fun _ => .bind ?_ fun _ => announced _ _ _ _ _ _
    unfold setAssignmentAssets
    exact .read fun _ => .checked fun _ => modifyAssignmentAssets_trails _ _
  · refine .checked fun _ => .checked fun _ => .bind ?_ fun _ => announced _ _ _ _ _ _
    unfold linkAssignmentAsset
    refine .checked fun _ => ?_
    refine .read fun _ => ?_
    exact .checked fun _ => modifyAssignmentAssets_trails _ _
  · refine .checked fun _ => .checked fun _ => .bind ?_ fun _ => announced _ _ _ _ _ _
    unfold unlinkAssignmentAsset
    refine .checked fun _ => ?_
    exact modifyAssignmentAssets_trails _ _
  · exact .throw _

/-! ## Commands -/

theorem SheetEdit.trail {grant : SheetGrant} {core core' : RchCore} (edit : SheetEdit grant core core') :
    TrailKept core core' := by
  cases edit with
  | audit record => exact ⟨rfl, List.prefix_append _ _⟩
  | _ => exact .of_same rfl rfl

theorem applyChecklistCommand_trails (command : MissionCommandEnvelope) : Trails (applyChecklistCommand command) := by
  intro w
  have spec : Proc.Spec drawsSeen (applyChecklistCommand command) (w.core, w.draws)
      (Proc.Outcome False (SheetSteps (sheetGrant False w.core command)) (w.core, w.draws)) :=
    applyChecklistCommand_sheets command w.core w.draws
  obtain ⟨k, -, steps⟩ := SheetSteps.of_gen (spec w rfl trivial).1.steps
  have path : Relation.ReflTransGen (SheetEdit (sheetGrant False w.core command)) w.core
      ((applyChecklistCommand command).run w).2.core := (steps False.elim False.elim).1
  generalize ((applyChecklistCommand command).run w).2.core = core' at path ⊢
  induction path with
  | refl => exact .refl _
  | tail _ edit ih => exact ih.trans edit.trail

/-- No handler answers, and none takes from the trail. -/
theorem CommandFamily.apply_trails (family : CommandFamily) (command : MissionCommandEnvelope) :
    Trails (family.apply command) := by
  have quiet (other : family ≠ .checklist) (edits : ∀ core core', family.Edit core core' → TrailKept core core') :
      Trails (family.apply command) := fun w =>
    family.apply_holds other (fun core core' h edit => h.trans (edits core core' edit)) command w (.refl _)
  cases family with
  | asset => exact applyRegistryAssetCommand_trails command
  | skill => exact applyRegistrySkillCommand_trails command
  | assignment => exact applyRegistryAssignmentCommand_trails command
  | checklist => exact applyChecklistCommand_trails command
  | _ =>
    refine quiet (by decide) fun _ _ edit => ?_
    cases edit <;> exact .of_same rfl rfl

theorem applyCommand_trails (command : MissionCommandEnvelope) : Trails (applyCommand command) := by
  unfold applyCommand
  split
  · exact CommandFamily.apply_trails _ command
  · exact .throw _

/-! ## Entries -/

/-- Where the method returns what is good, the command is in the trail behind it. -/
def OnRecord (command : MissionCommandEnvelope) {α : Type} (good : α → Prop) (m : CoreM α) : Prop :=
  ∀ w a, (m.run w).1 = .ok a → good a → ∃ record ∈ (m.run w).2.core.auditEvents, ∃ event, record.Records command event

namespace OnRecord

variable {command : MissionCommandEnvelope} {α β : Type} {good : α → Prop}

omit [Host] in
theorem pure {a : α} (bad : ¬good a) : OnRecord command good (Pure.pure a : CoreM α) := by
  intro w b returned fine
  rw [← show a = b from Except.ok.inj returned] at fine
  exact absurd fine bad

omit [Host] in
theorem bind {m : CoreM β} {k : β → CoreM α} (h : ∀ b, OnRecord command good (k b)) : OnRecord command good (m >>= k) := by
  intro w a returned fine
  rw [Proc.run_bind] at returned ⊢
  cases ran : m.run w with
  | mk r w' =>
    rw [ran] at returned
    cases r with
    | error e => cases returned
    | ok b => exact h b w' a returned fine

omit [Host] in
theorem given {a : β} {k : β → CoreM α} (h : OnRecord command good (k a)) : OnRecord command good (Pure.pure a >>= k) :=
  fun w => h w

omit [Host] in
/-- The entry is made, and what comes after it leaves the trail. -/
theorem recorded {event : EventEnvelope} {k : Unit → CoreM α}
    (kept : ∀ w, w.core.auditEvents <+: ((k ()).run w).2.core.auditEvents) :
    OnRecord command good (recordAuditEvent command event >>= k) := by
  intro w a returned fine
  obtain ⟨done, record, records, entered⟩ := (recordAuditEvent_entered command event w rfl fun _ => trivial).1
  have after : ((recordAuditEvent command event).run w).2.core = _ := entered
  rw [Proc.run_bind] at returned ⊢
  cases ran : (recordAuditEvent command event).run w with
  | mk r w' =>
    rw [ran] at done after
    have ok : r = .ok () := done
    subst ok
    refine ⟨record, (kept w').subset ?_, event, records⟩
    rw [show w'.core = _ from after]
    simp

end OnRecord

/-- The command is accepted by the front end: the answer has its event, or none has to be answered. -/
def CommandEntry.Accepts (entry : CommandEntry) (command : MissionCommandEnvelope) (w : World) : Prop :=
  match entry with
  | .command => ∃ outcome, ((handleCommand command).run w).1 = .ok outcome ∧ outcome.event.isSome
  | .missionSync => ∃ responses, ((handleMissionSyncCommand command).run w).1 = .ok responses ∧
      ∃ response ∈ responses, response.event.isSome
  | .checklistSync => ((handleChecklistSyncCommand command).run w).1 = .ok []

theorem handleCommand_enters (command : MissionCommandEnvelope) :
    OnRecord command (fun outcome : RchCommandOutcome => outcome.event.isSome) (handleCommand command) := by
  unfold handleCommand
  refine .bind fun core => ?_
  split
  · exact .pure (by simp)
  · refine .bind fun answer => ?_
    dsimp only
    split
    · exact .recorded fun w => List.prefix_rfl
    · exact .given (.bind fun _ => .pure (by simp))

theorem handleMissionSyncCommand_enters (command : MissionCommandEnvelope) :
    OnRecord command (fun responses : List MissionSyncResponse => ∃ response ∈ responses, response.event.isSome)
      (handleMissionSyncCommand command) := by
  unfold handleMissionSyncCommand
  split
  · unfold handleRemRegistrySyncCommand
    dsimp only
    split
    · exact .pure (by simp [MissionSyncResponse.ofRemResult])
    refine .bind fun core => ?_
    split
    · exact .pure (by simp [MissionSyncResponse.ofRemResult])
    · exact .pure (by simp [MissionSyncResponse.ofRemResult])
    split
    · exact .pure (by simp [MissionSyncResponse.ofRemResult])
    split
    · exact .pure (by simp [MissionSyncResponse.ofRemResult])
    refine .bind fun accepted => .bind fun answer => ?_
    split
    · exact .recorded fun w => List.prefix_rfl
    · exact .given (.pure (by simp [MissionSyncResponse.ofRemResult]))
  split
  · exact .pure (by simp [MissionSyncResponse.ofResult])
  refine .bind fun core => ?_
  split
  · exact .pure (by simp [MissionSyncResponse.ofResult])
  refine .bind fun core => ?_
  split
  · exact .pure (by simp [MissionSyncResponse.ofResult])
  unfold runMissionSyncCommand
  refine .bind fun accepted => .bind fun answer => ?_
  dsimp only
  split
  · exact .recorded fun w => List.prefix_rfl
  · exact .given (.pure (by simp [MissionSyncResponse.ofResult]))

theorem handleChecklistSyncCommand_enters (command : MissionCommandEnvelope) :
    OnRecord command (fun responses : List MissionSyncResponse => responses = []) (handleChecklistSyncCommand command) := by
  unfold handleChecklistSyncCommand
  split
  · exact .pure (by simp)
  refine .bind fun core => ?_
  split
  · exact .pure (by simp)
  refine .bind fun core => ?_
  split
  · exact .pure (by simp)
  unfold runChecklistSyncCommand
  refine .bind fun answer => ?_
  split
  · exact .recorded fun w => List.prefix_rfl
  · exact .pure (by simp)

/-- What a front end accepts is in the trail behind it. -/
theorem CommandEntry.accepts_entered (entry : CommandEntry) {command : MissionCommandEnvelope} {w : World}
    (accepts : entry.Accepts command w) :
    ∃ record ∈ (entry.after command w).core.auditEvents, ∃ event, record.Records command event := by
  cases entry with
  | command =>
    obtain ⟨outcome, returned, fine⟩ := accepts
    exact handleCommand_enters command w outcome returned fine
  | missionSync =>
    obtain ⟨responses, returned, fine⟩ := accepts
    exact handleMissionSyncCommand_enters command w responses returned fine
  | checklistSync => exact handleChecklistSyncCommand_enters command w [] accepts rfl

/-! ## Front ends -/

/-- The answers are kept, and those added are under the ids of their commands. -/
structure AnswersKept (core core' : RchCore) : Prop where
  kept : ∀ commandId answer, core.commandResults.get commandId = some answer →
    core'.commandResults.get commandId = some answer
  trail : core.auditEvents <+: core'.auditEvents
  filed : Filed CommandResultEnvelope.commandId id core.commandResults →
    Filed CommandResultEnvelope.commandId id core'.commandResults

omit [Host] in
theorem TrailKept.answersKept {core core' : RchCore} (h : TrailKept core core') : AnswersKept core core' :=
  ⟨fun _ _ stored => by rw [h.answers]; exact stored, h.trail, fun filed => by rw [h.answers]; exact filed⟩

omit [Host] in
theorem AnswersKept.trans {a b c : RchCore} (first : AnswersKept a b) (second : AnswersKept b c) : AnswersKept a c :=
  ⟨fun commandId answer stored => second.kept _ _ (first.kept commandId answer stored), first.trail.trans second.trail,
    fun filed => second.filed (first.filed filed)⟩

/-- A command whose id has an answer is given it, and nothing is done. -/
theorem handleCommand_cached {command : MissionCommandEnvelope} {w : World} {answer : CommandResultEnvelope}
    (stored : w.core.commandResults.get command.commandId = some answer) :
    (handleCommand command).run w = (.ok { result := answer, event := none }, w) := by
  unfold handleCommand
  rw [CoreM.run_core_bind, stored]
  rfl

/-- A command whose id has no answer leaves its own. -/
theorem handleCommand_new {command : MissionCommandEnvelope} {w : World}
    (none : w.core.commandResults.get command.commandId = none) :
    ∃ outcome, ((handleCommand command).run w).1 = .ok outcome ∧ outcome.result.commandId = command.commandId ∧
      w.core.auditEvents <+: ((handleCommand command).run w).2.core.auditEvents ∧
      ((handleCommand command).run w).2.core.commandResults =
        w.core.commandResults.insert command.commandId outcome.result := by
  have kept := applyCommand_trails command w
  unfold handleCommand
  rw [CoreM.run_core_bind, none]
  dsimp only
  rw [Proc.run_bind, Proc.run_attempt]
  cases applied : (applyCommand command).run w with
  | mk r w' =>
    rw [applied] at kept
    cases r with
    | error e => exact ⟨_, rfl, rfl, kept.trail, congrArg (Dict.insert · _ _) kept.answers⟩
    | ok event =>
      have behind := kept.trans (recordAuditEvent_trails command event w')
      have done : ((recordAuditEvent command event).run w').1 = .ok () :=
        (recordAuditEvent_entered command event w' rfl fun _ => trivial).1.1
      dsimp only
      rw [Proc.run_bind]
      cases ran : (recordAuditEvent command event).run w' with
      | mk r w'' =>
        rw [ran] at behind done
        have ok : r = .ok () := done
        subst ok
        exact ⟨_, rfl, rfl, behind.trail, congrArg (Dict.insert · _ _) behind.answers⟩

theorem handleCommand_answers (command : MissionCommandEnvelope) (w : World) :
    AnswersKept w.core ((handleCommand command).run w).2.core := by
  cases stored : w.core.commandResults.get command.commandId with
  | some answer =>
    rw [handleCommand_cached stored]
    exact (TrailKept.refl _).answersKept
  | none =>
    obtain ⟨outcome, -, own, trail, answers⟩ := handleCommand_new stored
    refine ⟨fun commandId answer stored' => ?_, trail, fun filed => ?_⟩
    · have other : commandId ≠ command.commandId := by
        rintro rfl
        exact absurd (stored.symm.trans stored') (Option.some_ne_none _).symm
      rw [answers, Dict.get_insert_ne other]
      exact stored'
    · rw [answers, ← own]
      exact filed.insert outcome.result

omit [Host] in
theorem eventEnvelopeValue_trails (command : MissionCommandEnvelope) (event : EventEnvelope) :
    Trails (eventEnvelopeValue command event) := fun _ => .refl _

theorem handleMissionSyncCommand_trails (command : MissionCommandEnvelope) : Trails (handleMissionSyncCommand command) := by
  unfold handleMissionSyncCommand
  split
  · unfold handleRemRegistrySyncCommand
    dsimp only
    split
    · exact .pure _
    refine .read fun core => ?_
    split
    · exact .pure _
    · exact .pure _
    split
    · exact .pure _
    split
    · exact .pure _
    refine .bind (fun _ => .refl _) fun _ => .bind (fun w => CommandFamily.remRegistry.apply_trails command w) fun answer => ?_
    split
    · exact .bind (recordAuditEvent_trails command _) fun _ => .bind (.pure _) fun _ => .pure _
    · exact .bind (.pure _) fun _ => .pure _
  split
  · exact .pure _
  refine .read fun core => ?_
  split
  · exact .pure _
  refine .read fun core => ?_
  split
  · exact .pure _
  unfold runMissionSyncCommand
  refine .bind (fun _ => .refl _) fun _ => .bind (fun w => applyCommand_trails command w) fun answer => ?_
  dsimp only
  split
  · refine .bind (recordAuditEvent_trails command _) fun _ => ?_
    exact .bind (eventEnvelopeValue_trails command _) fun _ => .bind (.pure _) fun _ => .pure _
  · exact .bind (.pure _) fun _ => .pure _

theorem handleChecklistSyncCommand_trails (command : MissionCommandEnvelope) :
    Trails (handleChecklistSyncCommand command) := by
  unfold handleChecklistSyncCommand
  split
  · exact .pure _
  refine .read fun core => ?_
  split
  · exact .pure _
  refine .read fun core => ?_
  split
  · exact .pure _
  unfold runChecklistSyncCommand
  refine .bind (fun w => applyChecklistCommand_trails command w) fun answer => ?_
  split
  · exact .bind (recordAuditEvent_trails command _) fun _ => .pure _
  · exact .pure _

theorem CommandEntry.after_answers (entry : CommandEntry) (command : MissionCommandEnvelope) (w : World) :
    AnswersKept w.core (entry.after command w).core := by
  cases entry with
  | command => exact handleCommand_answers command w
  | missionSync => exact (handleMissionSyncCommand_trails command w).answersKept
  | checklistSync => exact (handleChecklistSyncCommand_trails command w).answersKept

/-- Along a run the answers stay and the trail grows. -/
theorem CommandRun.answers {permitted : CommandEntry → MissionCommandEnvelope → World → Prop} {core core' : RchCore}
    (run : CommandRun permitted core core') : AnswersKept core core' :=
  run.respects (fun core => (TrailKept.refl core).answersKept) AnswersKept.trans
    fun entry command w _ => entry.after_answers command w

/-! ## What a run keeps -/

/-- Whatever `handle_command` answers, it answers the same, and does nothing, to every command of the
same id in every state that commands reach from there. -/
theorem answered_once (command : MissionCommandEnvelope) (w : World) :
    ∃ answer, (((handleCommand command).run w).1.toOption.map RchCommandOutcome.result) = some answer ∧
      ∀ later, CommandRun (fun _ _ _ => True) ((handleCommand command).run w).2.core later → ∀ again w',
        again.commandId = command.commandId → w'.core = later →
          (handleCommand again).run w' = (.ok { result := answer, event := none }, w') := by
  have kept : ∃ answer, (((handleCommand command).run w).1.toOption.map RchCommandOutcome.result) = some answer ∧
      ((handleCommand command).run w).2.core.commandResults.get command.commandId = some answer := by
    cases stored : w.core.commandResults.get command.commandId with
    | some answer =>
      rw [handleCommand_cached stored]
      exact ⟨answer, rfl, stored⟩
    | none =>
      obtain ⟨outcome, returned, -, -, answers⟩ := handleCommand_new stored
      refine ⟨outcome.result, by rw [returned]; rfl, ?_⟩
      rw [answers]
      exact Dict.get_insert_self _ _ _
  obtain ⟨answer, returned, stored⟩ := kept
  refine ⟨answer, returned, fun later run again w' same here => handleCommand_cached ?_⟩
  rw [here, same]
  exact run.answers.kept _ _ stored

/-- Whatever a front end accepts has an entry of its id, its type and its sender in the audit trail of
every state that commands reach from there, behind all the entries that there were before. -/
theorem accepted_on_record {entry : CommandEntry} {command : MissionCommandEnvelope} {w : World}
    (accepts : entry.Accepts command w) {later : RchCore}
    (run : CommandRun (fun _ _ _ => True) (entry.after command w).core later) :
    w.core.auditEvents <+: later.auditEvents ∧
      ∃ record ∈ later.auditEvents, ∃ event, record.Records command event := by
  have grown := (entry.after_answers command w).trans run.answers
  obtain ⟨record, mem, event, records⟩ := entry.accepts_entered accepts
  exact ⟨grown.trail, record, run.answers.trail.subset mem, event, records⟩

end

/-! ## A drill -/

/-- The world behind a mission that comes in over mission sync. -/
def missionSynced : World :=
  letI := Host.blank
  CommandEntry.after .missionSync (createMission "2" "b") (World.atEpoch RchCore.new)

/-- It is on record behind a later command, too. -/
theorem accepted_on_record_drill :
    letI := Host.blank
    ∃ record ∈ (CommandEntry.after .command createTeam (World.atEpoch missionSynced.core)).core.auditEvents,
      record.commandId = "2" := by
  let _ := Host.blank
  have accepts : CommandEntry.Accepts .missionSync (createMission "2" "b") (World.atEpoch RchCore.new) := by
    have answered : ((handleMissionSyncCommand (createMission "2" "b")).run (World.atEpoch RchCore.new)).1.toOption.map
        (fun responses => responses.any fun response => response.event.isSome) = some true := by
      decide +kernel
    cases answer : ((handleMissionSyncCommand (createMission "2" "b")).run (World.atEpoch RchCore.new)).1 with
    | error e =>
      rw [answer] at answered
      cases answered
    | ok responses =>
      rw [answer] at answered
      exact ⟨responses, answer, List.any_eq_true.1 (Option.some.inj answered)⟩
  have run : CommandRun (fun _ _ _ => True) missionSynced.core
      (CommandEntry.after .command createTeam (World.atEpoch missionSynced.core)).core := .step (.refl _) trivial
  obtain ⟨-, record, mem, event, records⟩ := accepted_on_record accepts run
  exact ⟨record, mem, records.commandId⟩

end TelemetryHub
