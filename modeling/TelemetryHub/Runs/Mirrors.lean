import TelemetryHub.Runs.Links

/-!
# Links along a run

What the commands on teams, members and status reports do to the links, and what holds of
them behind every command.
-/

namespace TelemetryHub

open Lib CoreM

section

variable [Host] {core₀ : RchCore}

/-! ## Members -/

/-- One write of a status report command, by what it does to what the records list. -/
inductive ReportEdit (core : RchCore) : RchCore → Prop
  | createTeam (uid : String) (team : TeamRecord) (key : team.uid = uid) (absent : core.teams.get uid = none)
      (listed : team.missionUids = []) (first : team.missionUid = none) :
      ReportEdit core { core with teams := core.teams.insert uid team }
  | canonizeTeam (uid : String) (old team : TeamRecord) (stored : core.teams.get uid = some old)
      (key : team.uid = old.uid) (listed : team.missionUids = old.missionUids)
      (first : team.missionUid = old.missionUid) :
      ReportEdit core { core with teams := core.teams.insert uid team }
  | createMember (uid : String) (member : TeamMemberRecord) (absent : core.teamMembers.get uid = none)
      (clients : member.clientIdentities = []) :
      ReportEdit core { core with teamMembers := core.teamMembers.insert uid member }
  | report (eamSnapshots : Dict String EamSnapshotRecord) : ReportEdit core { core with eamSnapshots }

omit [Host] in
theorem ReportEdit.teams {core core' : RchCore} (h : TeamsMirrored core) (edit : ReportEdit core core') :
    TeamsMirrored core' := by
  cases edit with
  | createTeam uid team key absent listed first =>
    refine h.store key (fun old stored => ?_) fun _ => ⟨listed, first⟩
    exact absurd (absent.symm.trans stored) nofun
  | canonizeTeam uid old team stored key listed first =>
    refine h.store (key.trans (h.each uid old stored).key) (fun old' stored' => ?_) fun absent => ?_
    · obtain rfl := Option.some.inj (stored.symm.trans stored')
      exact ⟨listed, first⟩
    · exact absurd (absent.symm.trans stored) nofun
  | createMember => exact h.of_same rfl
  | report => exact h.of_same rfl

omit [Host] in
theorem ReportEdit.members {core core' : RchCore} (h : MembersMirrored core) (edit : ReportEdit core core') :
    MembersMirrored core' := by
  cases edit with
  | createMember uid member absent clients =>
    refine h.store (clients.trans ?_)
    symm
    rw [List.eq_nil_iff_forall_not_mem]
    exact fun identity mem => h.unlinked absent identity (mem_linkedTo.1 mem)
  | _ => exact h.of_same rfl

/-- A team command that sets the links of a team and is refused after that: for the colour of
the team, or because there is no such team. -/
inductive RefusedAfterLinks (core : RchCore) (command : MissionCommandEnvelope) : Prop
  | color (upsert : command.commandType = "mission.registry.team.upsert")
      (refs : teamRefsProvided command.args = true) {missionUids : List String}
      (missions : teamMissionUidsFromArgs core command.args = .ok missionUids)
      (plain : canonicalTeamFromTeamArgs command.args (optionalText command.args ["uid"]) = none)
      (refused : ¬∃ color, teamColorFromArgs command.args none = .ok color)
  | missing (link : command.commandType = "mission.registry.team.mission.link") {teamUid missionUid : String}
      (team : requiredText command.args ["team_uid", "uid"] = .ok teamUid)
      (mission : requiredText command.args ["mission_uid", "mission_id"] = .ok missionUid)
      (known : core.missions.contains missionUid = true) (missing : core.teams.contains teamUid = false)

omit [Host] in
theorem AssetEdit.roster {core core' : RchCore} (edit : AssetEdit core core') :
    core'.linkTables.1 = core.linkTables.1 ∧ core'.linkTables.2.1 = core.linkTables.2.1 := by
  cases edit with
  | journal entry => exact ⟨congrArg (fun t => t.1) entry.linkTables, congrArg (fun t => t.2.1) entry.linkTables⟩
  | _ => exact ⟨rfl, rfl⟩

omit [Host] in
theorem ChecklistEdit.roster {core core' : RchCore} (edit : ChecklistEdit core core') :
    core'.linkTables.1 = core.linkTables.1 ∧ core'.linkTables.2.1 = core.linkTables.2.1 := by
  cases edit with
  | journal entry => exact ⟨congrArg (fun t => t.1) entry.linkTables, congrArg (fun t => t.2.1) entry.linkTables⟩
  | _ => exact ⟨rfl, rfl⟩

/-- The families that write none of the links and none of the records that repeat them. -/
def CommandFamily.LeavesLinks (family : CommandFamily) : Prop :=
  family ∉ [.eam, .team, .teamMember, .asset, .skill, .assignment, .checklist]

instance (family : CommandFamily) : Decidable family.LeavesLinks :=
  inferInstanceAs (Decidable (family ∉ [.eam, .team, .teamMember, .asset, .skill, .assignment, .checklist]))

theorem CommandFamily.Edit.linkTables {family : CommandFamily} (leaves : family.LeavesLinks) {core core' : RchCore}
    (edit : family.Edit core core') : core'.linkTables = core.linkTables := by
  cases family with
  | remRegistry => cases edit <;> rfl
  | clientEvent => cases edit <;> rfl
  | marker => cases edit <;> rfl
  | zone => cases edit <;> rfl
  | mission => cases edit <;> rfl
  | log => cases edit <;> rfl
  | rights => cases edit <;> rfl
  | topic => cases edit <;> rfl
  | _ => exact absurd (by decide) leaves

/-- What the writes of a checklist command preserve, the command does. -/
theorem applyChecklistCommand_holds {P : RchCore → Prop} (edits : ∀ core core', P core → ChecklistEdit core core' → P core')
    (command : MissionCommandEnvelope) (w : World) (h : P w.core) :
    P ((applyChecklistCommand command).run w).2.core := by
  have steps := applyChecklistCommand_walks command w
  generalize ((applyChecklistCommand command).run w).2 = w' at steps ⊢
  induction steps with
  | refl => exact h
  | tail _ step ih =>
    rcases step with core | edit
    · rw [core]
      exact ih
    · exact edits _ _ ih edit

/-- Whether a command is refused behind its links is up to the missions and the teams. -/
theorem RefusedAfterLinks.of_same {core core' : RchCore} {command : MissionCommandEnvelope}
    (h : RefusedAfterLinks core' command) (missions : core'.missions = core.missions) (teams : core'.teams = core.teams) :
    RefusedAfterLinks core command := by
  cases h with
  | color upsert refs named plain refused =>
    have same : teamMissionUidsFromArgs core command.args = teamMissionUidsFromArgs core' command.args := by
      unfold teamMissionUidsFromArgs
      rw [missions]
    exact .color upsert refs (same.trans named) plain refused
  | missing link team mission known missing =>
    rw [missions] at known
    rw [teams] at missing
    exact .missing link team mission known missing

end

/-! ## A drill -/

def createMission (commandId uid : String) : MissionCommandEnvelope :=
  drillCommand commandId "mission.registry.mission.upsert" [("uid", .string uid), ("mission_name", .string uid)]

/-- A team of two missions, the later one named first. -/
def createTeam : MissionCommandEnvelope :=
  drillCommand "3" "mission.registry.team.upsert"
    [("uid", .string "t"), ("mission_uids", .array [.string "b", .string "a"])]

def createMember : MissionCommandEnvelope :=
  drillCommand "4" "mission.registry.team_member.upsert" [("uid", .string "m"), ("rns_identity", .string "aa")]

def linkClient : MissionCommandEnvelope :=
  drillCommand "5" "mission.registry.team_member.client.link"
    [("team_member_uid", .string "m"), ("client_identity", .string "bb")]

def teamDrill : List MissionCommandEnvelope :=
  [linkClient, createMember, createTeam, createMission "2" "b", createMission "1" "a"]

/-- Commands that are all permitted make a run. -/
theorem coreBehind_run {permitted : CommandEntry → MissionCommandEnvelope → World → Prop}
    {commands : List MissionCommandEnvelope} (each : ∀ command ∈ commands, ∀ w, permitted .command command w) :
    letI := Host.blank
    CommandRun permitted RchCore.new (coreBehind commands) := by
  let _ := Host.blank
  induction commands with
  | nil => exact .refl _
  | cons command earlier ih =>
    obtain ⟨here, before⟩ := List.forall_mem_cons.1 each
    exact .step (ih before) (here _)

end TelemetryHub
