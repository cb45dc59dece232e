import TelemetryHub.Core.Dispatch
import TelemetryHub.Edits.Markers
import TelemetryHub.Edits.Journal
import TelemetryHub.Edits.Roster
import TelemetryHub.Edits.Topics
import TelemetryHub.Edits.Missions
import TelemetryHub.Edits.Logs
import TelemetryHub.Edits.Eam
import TelemetryHub.Edits.Teams
import TelemetryHub.Edits.Rights
import TelemetryHub.Edits.Assets

/-!
# Runs of commands

The front ends a command comes in by, what a command of each family writes at most, and
what holds along a run once it holds of each command.
-/

namespace TelemetryHub

open Lib CoreM

section

variable [Host]

/-- The front end that a command comes in by. -/
inductive CommandEntry where
  | command
  | missionSync
  | checklistSync

/-- The world behind a command, accepted or rejected. -/
def CommandEntry.after (entry : CommandEntry) (command : MissionCommandEnvelope) (w : World) : World :=
  match entry with
  | .command => ((handleCommand command).run w).2
  | .missionSync => ((handleMissionSyncCommand command).run w).2
  | .checklistSync => ((handleChecklistSyncCommand command).run w).2

/-! ## Families -/

/-- One write of a command of the family; the checklist commands are looked at apart. -/
def CommandFamily.Edit : CommandFamily → RchCore → RchCore → Prop
  | remRegistry | clientEvent => RosterEdit
  | marker | zone => MarkerEdit False
  | mission => MissionEdit
  | log => LogEdit
  | eam => EamEdit False fun _ => True
  | team => TeamEdit False
  | teamMember => MemberEdit
  | asset | skill | assignment => AssetEdit
  | rights => RightsEdit
  | topic => TopicEdit False
  | checklist => fun _ _ => True

theorem announceCutoff_reads {core₀ : RchCore} :
    Spec (fun _ => True) RchCore.announceCutoff core₀ fun r core' => core' = core₀ ∧ ∃ t, r = .ok t := by
  unfold RchCore.announceCutoff
  exact Spec.clock fun now => Proc.Spec.pure ⟨rfl, _, rfl⟩

theorem applyRemRegistryCommand_spec (command : MissionCommandEnvelope) {clean : Prop} {core₀ : RchCore} :
    Spec (fun _ => True) (applyRemRegistryCommand command) core₀ (Proc.Outcome clean RosterEdit core₀) := by
  unfold applyRemRegistryCommand
  split
  · exact .finish (setIdentityRemMode_spec _ _) fun _ _ _ => Spec.read .finished
  · refine Spec.read ?_
    unfold RchCore.remPeerRegistryPayload
    rw [bind_assoc]
    exact Spec.reading announceCutoff_reads fun _ => .answer
  · refine Spec.read ?_
    unfold RchCore.remTeamPeerRegistryPayload
    rw [bind_assoc]
    exact Spec.reading announceCutoff_reads fun _ => .answer
  · exact .failed

/-- A command of a family gets where it gets by the writes of the family. -/
theorem CommandFamily.apply_spec (family : CommandFamily) (other : family ≠ .checklist)
    (command : MissionCommandEnvelope) {core₀ : RchCore} :
    Spec (fun _ => True) (family.apply command) core₀ (Proc.Outcome False family.Edit core₀) := by
  cases family with
  | remRegistry => exact applyRemRegistryCommand_spec command
  | clientEvent => exact applyClientEventCommand_spec command False.elim
  | marker => exact applyMarkerCommand_spec command False.elim False.elim
  | zone => exact applyZoneCommand_spec command False.elim False.elim
  | mission => exact applyRegistryMissionCommand_spec command
  | log => exact applyRegistryLogCommand_spec command False.elim False.elim
  | eam => exact applyRegistryEamCommand_spec command False.elim False.elim
  | team => exact applyRegistryTeamCommand_spec command False.elim False.elim
  | teamMember => exact applyRegistryTeamMemberCommand_spec command False.elim
  | asset => exact applyRegistryAssetCommand_spec command
  | skill => exact applyRegistrySkillCommand_spec command
  | assignment => exact applyRegistryAssignmentCommand_spec command False.elim
  | rights => exact applyRegistryRightsCommand_spec command
  | topic => exact applyTopicCommand_spec command False.elim
  | checklist => exact absurd rfl other

/-- What every write of the family preserves, its commands do. -/
theorem CommandFamily.apply_holds {P : RchCore → Prop} (family : CommandFamily) (other : family ≠ .checklist)
    (edits : ∀ core core', P core → family.Edit core core' → P core') (command : MissionCommandEnvelope) (w : World)
    (h : P w.core) : P ((family.apply command).run w).2.core := by
  have steps : Relation.ReflTransGen family.Edit w.core ((family.apply command).run w).2.core :=
    ((family.apply_spec other command) w rfl fun _ => trivial).1.steps
  generalize ((family.apply command).run w).2.core = core' at steps ⊢
  induction steps with
  | refl => exact h
  | tail _ edit ih => exact edits _ _ ih edit

/-- What every write of the family keeps, its commands keep. -/
theorem CommandFamily.apply_keeps {α : Type} {f : RchCore → α} (family : CommandFamily) (other : family ≠ .checklist)
    (edits : ∀ core core', family.Edit core core' → f core' = f core) (command : MissionCommandEnvelope) (w : World) :
    f ((family.apply command).run w).2.core = f w.core :=
  family.apply_holds (P := fun core => f core = f w.core) other (fun _ _ same edit => (edits _ _ edit).trans same)
    command w rfl

/-! ## Front ends

Before and behind the handler of its family a command reads the clock and draws uuids, and
writes to the journal. -/

/-- A step of the journal, which leaves the clock to the readings that are still to come. -/
def JournalStep (w w' : World) : Prop :=
  (w'.core = w.core ∨ JournalEdit w.core w'.core) ∧ ∃ k, ∀ n, w'.clock n = w.clock (n + k)

omit [Host] in
/-- The moves of the front ends are steps of the relation; they write no mission changes. -/
structure JournalMoves (R : World → World → Prop) : Prop where
  read : Proc.Walks R core
  clock : Proc.Walks R now
  draw : Proc.Walks R newUuid
  write : ∀ {f : RchCore → RchCore}, (∀ core, JournalEdit core (f core)) →
    (∀ core, (f core).missionChanges = core.missionChanges) → Proc.Walks R (update f)

omit [Host] in
theorem journalMoves : JournalMoves JournalStep where
  read := .step fun _ => ⟨.inl rfl, 0, fun _ => rfl⟩
  clock := .step fun _ => ⟨.inl rfl, 1, fun _ => rfl⟩
  draw := .step fun _ => ⟨.inl rfl, 0, fun _ => rfl⟩
  write edit _ := .step fun w => ⟨.inr (edit w.core), 0, fun _ => rfl⟩

section

variable {R : World → World → Prop} (moves : JournalMoves R) (command : MissionCommandEnvelope)
include moves

omit [Host] in
theorem JournalMoves.recordAuditEvent (event : EventEnvelope) : Proc.Walks R (recordAuditEvent command event) := by
  unfold TelemetryHub.recordAuditEvent
  refine moves.draw.bind fun _ => .bind (moves.clock.bind fun _ => .pure _) fun _ => ?_
  exact moves.write (fun _ => .audit _) fun _ => rfl

omit [Host] in
theorem JournalMoves.acceptedResult : Proc.Walks R (acceptedResult command) :=
  .bind (moves.clock.bind fun _ => .pure _) fun _ => .pure _

omit [Host] in
theorem JournalMoves.eventEnvelopeValue (event : EventEnvelope) : Proc.Walks R (eventEnvelopeValue command event) :=
  moves.draw.bind fun _ => .bind (moves.clock.bind fun _ => .pure _) fun _ => .pure _

theorem handleCommand_around : Proc.Around R (applyCommand command) (handleCommand command) := by
  unfold handleCommand
  refine .after moves.read fun core => ?_
  split
  · exact .walks (.pure _)
  · have saved : ∀ outcome : RchCommandOutcome, Proc.Walks R (do
        update fun core =>
          { core with commandResults := core.commandResults.insert command.commandId outcome.result }
        return outcome : CoreM RchCommandOutcome) := by
      intro outcome
      exact .bind (moves.write (fun _ => .result _ _) fun _ => rfl) fun _ => .pure _
    refine .attempt fun outcome => ?_
    dsimp only
    split
    · exact (moves.recordAuditEvent command _).bind fun _ => .bind (.pure _) saved
    · exact .bind (.pure _) saved

theorem runMissionSyncCommand_around :
    Proc.Around R (applyCommand command) (runMissionSyncCommand command) := by
  unfold runMissionSyncCommand
  refine .after (moves.acceptedResult command) fun accepted => .attempt fun outcome => ?_
  dsimp only
  split
  · refine (moves.recordAuditEvent command _).bind fun _ => ?_
    exact (moves.eventEnvelopeValue command _).bind fun _ => .bind (.pure _) fun _ => .pure _
  · exact .bind (.pure _) fun _ => .pure _

theorem handleRemRegistrySyncCommand_around :
    Proc.Around R (applyRemRegistryCommand command) (handleRemRegistrySyncCommand command) := by
  unfold handleRemRegistrySyncCommand
  dsimp only
  split
  · exact .walks (.pure _)
  refine .after moves.read fun core => ?_
  split
  · exact .walks (.pure _)
  · exact .walks (.pure _)
  split
  · exact .walks (.pure _)
  split
  · exact .walks (.pure _)
  refine .after (moves.acceptedResult command) fun accepted => .attempt fun outcome => ?_
  split
  · exact (moves.recordAuditEvent command _).bind fun _ => .bind (.pure _) fun _ => .pure _
  · exact .bind (.pure _) fun _ => .pure _

theorem runChecklistSyncCommand_around :
    Proc.Around R (applyChecklistCommand command) (runChecklistSyncCommand command) := by
  unfold runChecklistSyncCommand
  refine .attempt fun outcome => ?_
  split
  · exact (moves.recordAuditEvent command _).bind fun _ => .pure _
  · exact .pure _

/-- A command runs the handler of one family, or none. -/
theorem CommandEntry.after_cases (entry : CommandEntry) (w : World) :
    Relation.ReflTransGen R w (entry.after command w) ∨
      ∃ family : CommandFamily, ∃ w', Relation.ReflTransGen R w w' ∧
        Relation.ReflTransGen R ((family.apply command).run w').2 (entry.after command w) := by
  have applied : ∀ {α : Type} {m : CoreM α}, Proc.Around R (applyCommand command) m →
      Relation.ReflTransGen R w (m.run w).2 ∨
        ∃ family : CommandFamily, ∃ w', Relation.ReflTransGen R w w' ∧
          Relation.ReflTransGen R ((family.apply command).run w').2 (m.run w).2 := by
    intro α m around
    rcases around w with steps | ⟨w', steps, rest⟩
    · exact .inl steps
    · unfold applyCommand at rest
      split at rest
      · exact .inr ⟨_, w', steps, rest⟩
      · exact .inl (steps.trans rest)
  cases entry with
  | command => exact applied (handleCommand_around moves command)
  | missionSync =>
    show Relation.ReflTransGen R w ((handleMissionSyncCommand command).run w).2 ∨ ∃ family : CommandFamily, ∃ w',
      Relation.ReflTransGen R w w' ∧
        Relation.ReflTransGen R ((family.apply command).run w').2 ((handleMissionSyncCommand command).run w).2
    unfold handleMissionSyncCommand
    split
    · exact (handleRemRegistrySyncCommand_around moves command w).imp_right fun ⟨w', steps, rest⟩ =>
        ⟨.remRegistry, w', steps, rest⟩
    · apply applied
      split
      · exact .walks (.pure _)
      refine .after moves.read fun core => ?_
      split
      · exact .walks (.pure _)
      refine .after moves.read fun core => ?_
      split
      · exact .walks (.pure _)
      · exact runMissionSyncCommand_around moves command
  | checklistSync =>
    have around : Proc.Around R (applyChecklistCommand command) (handleChecklistSyncCommand command) := by
      unfold handleChecklistSyncCommand
      split
      · exact .walks (.pure _)
      refine .after moves.read fun core => ?_
      split
      · exact .walks (.pure _)
      refine .after moves.read fun core => ?_
      split
      · exact .walks (.pure _)
      · exact runChecklistSyncCommand_around moves command
    exact (around w).imp_right fun ⟨w', steps, rest⟩ => ⟨.checklist, w', steps, rest⟩

end

omit [Host] in
/-- What no entry of the journal changes, its steps keep; and the clock reads on. -/
theorem journalSteps_keep {α : Type} {f : RchCore → α} (journal : ∀ core core', JournalEdit core core' → f core' = f core)
    {w w' : World} (steps : Relation.ReflTransGen JournalStep w w') :
    f w'.core = f w.core ∧ ∃ k, ∀ n, w'.clock n = w.clock (n + k) := by
  induction steps with
  | refl => exact ⟨rfl, 0, fun _ => rfl⟩
  | tail _ step ih =>
    obtain ⟨same, k, clock⟩ := ih
    obtain ⟨edit, k', clock'⟩ := step
    refine ⟨?_, k' + k, fun n => ?_⟩
    · rcases edit with core | edit
      · rw [core, same]
      · rw [journal _ _ edit, same]
    · rw [clock', clock, Nat.add_assoc]

omit [Host] in
/-- What every entry of the journal preserves, its steps do. -/
theorem journalSteps_hold {P : RchCore → Prop} (journal : ∀ core core', P core → JournalEdit core core' → P core')
    {w w' : World} (steps : Relation.ReflTransGen JournalStep w w') (h : P w.core) : P w'.core := by
  induction steps with
  | refl => exact h
  | tail _ step ih =>
    rcases step.1 with core | edit
    · rw [core]
      exact ih
    · exact journal _ _ ih edit

/-- What the journal preserves and the family of the command does, the command does. -/
theorem CommandEntry.after_holds {P : RchCore → Prop} (entry : CommandEntry) (command : MissionCommandEnvelope)
    (journal : ∀ core core', P core → JournalEdit core core' → P core') (w : World)
    (families : ∀ (family : CommandFamily) w', Relation.ReflTransGen JournalStep w w' → P w'.core →
      P ((family.apply command).run w').2.core) (h : P w.core) : P (entry.after command w).core := by
  rcases entry.after_cases journalMoves command w with quiet | ⟨family, w', before, behind⟩
  · exact journalSteps_hold journal quiet h
  · exact journalSteps_hold journal behind (families family w' before (journalSteps_hold journal before h))

/-! ## Runs -/

/-- A run of commands, each with a clock and draws of its own, by what each is to satisfy. -/
inductive CommandRun (permitted : CommandEntry → MissionCommandEnvelope → World → Prop) : RchCore → RchCore → Prop
  | refl (core) : CommandRun permitted core core
  | step {core core' entry command clock draws} :
      CommandRun permitted core core' → permitted entry command ⟨core', clock, draws⟩ →
        CommandRun permitted core (entry.after command ⟨core', clock, draws⟩).core

/-- What each permitted command respects, a run of them does. -/
theorem CommandRun.respects {R : RchCore → RchCore → Prop}
    {permitted : CommandEntry → MissionCommandEnvelope → World → Prop} (refl : ∀ core, R core core)
    (trans : ∀ {a b c}, R a b → R b c → R a c)
    (steps : ∀ entry command w, permitted entry command w → R w.core (entry.after command w).core) {core core' : RchCore}
    (run : CommandRun permitted core core') : R core core' := by
  induction run with
  | refl => exact refl _
  | step _ allowed ih => exact trans ih (steps _ _ _ allowed)

/-- What each permitted command preserves holds along a run of them. -/
theorem CommandRun.holds {P : RchCore → Prop} {permitted : CommandEntry → MissionCommandEnvelope → World → Prop}
    {core core' : RchCore} (run : CommandRun permitted core core') (first : P core)
    (steps : ∀ entry command w, permitted entry command w → P w.core → P (entry.after command w).core) : P core' := by
  induction run with
  | refl => exact first
  | step _ allowed ih => exact steps _ _ _ allowed ih

end
end TelemetryHub
