import TelemetryHub.Runs.References

/-!
# What a refused command leaves behind

A handler fails in the middle as often as at the start, and what it has written by then stays
written. The commands of the registry check before they write, but for six that write before a
check of theirs: these leave nothing behind where that check passes.
-/

namespace TelemetryHub

open Lib CoreM

section

variable [Host]

/-- Whatever the command checks after it has written passes, or nothing has been written by then. -/
structure ChecksFirst (core : RchCore) (command : MissionCommandEnvelope) : Prop where
  nickname : command.commandType = "mission.nick" → NicknameChecks core command
  zone : command.commandType = "mission.zone.patch" → ZonePatchChecks core command.args
  entry : command.commandType = "mission.registry.log_entry.upsert" → LogEntryChecks core command.args
  report : command.commandType = "mission.registry.eam.upsert" → EamChecks core command.args
  team : TeamCommandChecks core command
  client : command.commandType = "mission.registry.team_member.client.unlink" → MemberNamedOrUnlinked core command.args

omit [Host] in
/-- A method that is all or nothing has done nothing where it fails. -/
theorem unchanged_of_spec {α : Type} (drawn : String → Prop) (Edit : RchCore → RchCore → Prop) {m : CoreM α} {w : World}
    (spec : Spec drawn m w.core (Proc.Outcome True Edit w.core)) (fresh : ∀ n, drawn (w.draws n).simple)
    {e : RchCoreError} (refused : (m.run w).1 = .error e) : (m.run w).2.core = w.core :=
  (spec w rfl fresh).1.clean trivial e refused

theorem CommandFamily.apply_refused (family : CommandFamily) (registry : family ≠ .checklist)
    (command : MissionCommandEnvelope) (w : World) (checks : ChecksFirst w.core command)
    (assignments : AssignmentsHaveMissions w.core) (fresh : ∀ n, w.core.logEntries.get (w.draws n).simple = none)
    {e : RchCoreError} (refused : ((family.apply command).run w).1 = .error e) :
    ((family.apply command).run w).2.core = w.core := by
  have any {Edit : RchCore → RchCore → Prop} {m : CoreM EventEnvelope}
      (spec : Spec (fun _ => True) m w.core (Proc.Outcome True Edit w.core)) (refused : (m.run w).1 = .error e) :
      (m.run w).2.core = w.core := unchanged_of_spec _ _ spec (fun _ => trivial) refused
  cases family with
  | remRegistry => exact any (applyRemRegistryCommand_spec command) refused
  | clientEvent => exact any (applyClientEventCommand_spec command fun _ => checks.nickname) refused
  | marker =>
    have spec : Spec (fun _ => True) _ _ (Proc.Outcome True (MarkerEdit False) w.core) :=
      applyMarkerCommand_spec command False.elim False.elim
    exact any spec refused
  | zone =>
    have spec : Spec (fun _ => True) _ _ (Proc.Outcome True (MarkerEdit False) w.core) :=
      applyZoneCommand_spec command (fun _ => checks.zone) False.elim
    exact any spec refused
  | mission => exact any (applyRegistryMissionCommand_spec command) refused
  | log =>
    exact unchanged_of_spec (fun uid => w.core.logEntries.get uid = none) LogEdit
      (applyRegistryLogCommand_spec command (fun _ _ new => new) fun _ => checks.entry) fresh refused
  | eam =>
    have spec : Spec (fun _ => True) _ _ (Proc.Outcome True (EamEdit False fun _ => True) w.core) :=
      applyRegistryEamCommand_spec command (fun _ => checks.report) False.elim
    exact any spec refused
  | team =>
    have spec : Spec (fun _ => True) _ _ (Proc.Outcome True (TeamEdit False) w.core) :=
      applyRegistryTeamCommand_spec command (fun _ => checks.team) False.elim
    exact any spec refused
  | teamMember => exact any (applyRegistryTeamMemberCommand_spec command fun _ => checks.client) refused
  | asset => exact any (applyRegistryAssetCommand_spec command) refused
  | skill => exact any (applyRegistrySkillCommand_spec command) refused
  | assignment => exact any (applyRegistryAssignmentCommand_spec command fun _ => assignments) refused
  | rights => exact any (applyRegistryRightsCommand_spec command) refused
  | topic =>
    have spec : Spec (fun _ => True) _ _ (Proc.Outcome True (TopicEdit False) w.core) := applyTopicCommand_spec command False.elim
    exact any spec refused
  | checklist => exact absurd rfl registry

/-- In every state that commands reach, a command of the registry that is refused leaves all of it as
it was, where what it checks after it has written passes. -/
theorem refused_unchanged {core : RchCore} (run : CommandRun (fun _ _ _ => True) RchCore.new core)
    {command : MissionCommandEnvelope} (registry : lookupRow commandFamilies command.commandType ≠ some .checklist)
    (checks : ChecksFirst core command) {w : World} (here : w.core = core)
    (fresh : ∀ n, core.logEntries.get (w.draws n).simple = none) {e : RchCoreError}
    (refused : ((applyCommand command).run w).1 = .error e) : ((applyCommand command).run w).2.core = core := by
  subst here
  have assignments : AssignmentsHaveMissions w.core := fun uid assignment stored =>
    run.references.missions.assignments uid assignment assignment.missionUid stored rfl
  unfold applyCommand at refused ⊢
  split at refused
  · next family found =>
    exact family.apply_refused (fun checklist => registry (found.trans (congrArg some checklist))) command w checks
      assignments fresh refused
  · rfl

end

/-! ## A drill -/

/-- A team is given a colour that is none. -/
def colorTeam : MissionCommandEnvelope :=
  drillCommand "6" "mission.registry.team.upsert" [("uid", .string "t"), ("color", .string "mauve")]

/-- Its colour is refused, and no missions are named that could have been linked before. -/
theorem refused_unchanged_drill :
    letI := Host.blank
    ((applyCommand colorTeam).run (World.atEpoch (coreBehind teamDrill))).2.core = coreBehind teamDrill := by
  let _ := Host.blank
  have checks : ChecksFirst (coreBehind teamDrill) colorTeam := by
    refine ⟨fun type => ?_, fun type => ?_, fun type => ?_, fun type => ?_, ⟨fun _ refs => ?_, fun type => ?_, fun type => ?_⟩,
      fun type => ?_⟩
    case refine_5 => exact absurd refs (by decide)
    all_goals exact absurd type (by decide)
  have none : (coreBehind teamDrill).logEntries.toPairs = [] := by decide +kernel
  have refused : ∃ e, ((applyCommand colorTeam).run (World.atEpoch (coreBehind teamDrill))).1 = .error e := by
    cases answer : ((applyCommand colorTeam).run (World.atEpoch (coreBehind teamDrill))).1 with
    | error e => exact ⟨e, rfl⟩
    | ok event =>
      have failed : ((applyCommand colorTeam).run (World.atEpoch (coreBehind teamDrill))).1.isOk = false := by decide +kernel
      rw [answer] at failed
      cases failed
  obtain ⟨e, refused⟩ := refused
  refine refused_unchanged (coreBehind_run fun _ _ _ => trivial) (by decide) checks rfl (fun n => ?_) refused
  exact Dict.get_of_toPairs_nil none _

end TelemetryHub
