import TelemetryHub.Lib.Composite
import TelemetryHub.Lib.References
import TelemetryHub.Runs.Mirrors

/-!
# References along a run

The records and the links of the registry name each other. What a team, a member or an
assignment takes along when it goes, and what never goes, is always there for whoever names
it. Zones, markers and topics go without asking who names them.
-/

namespace TelemetryHub

open Lib CoreM

/-- The teams, the members and their assets and clients. -/
structure RosterReferences (core : RchCore) : Prop where
  teams : RefersInto TeamMemberRecord.teamUid core.teamMembers core.teams
  members : RefersInto AssetRecord.teamMemberUid core.assets core.teamMembers
  clients : LinksInto Prod.fst core.teamMemberClientLinks core.teamMembers

/-- The missions, which never go, and what is linked to them or belongs to them. -/
structure MissionReferences (core : RchCore) : Prop where
  trimmed : ∀ uid, core.missions.contains uid = true → trim uid = uid
  zones : LinksInto Prod.fst core.missionZoneLinks core.missions
  markers : LinksInto Prod.fst core.missionMarkerLinks core.missions
  teams : LinksInto Prod.fst core.missionTeamLinks core.missions
  first : RefersInto TeamRecord.missionUid core.teams core.missions
  entries : RefersInto (fun entry => some entry.missionUid) core.logEntries core.missions
  assignments : RefersInto (fun assignment => some assignment.missionUid) core.assignments core.missions

/-- The assignments, and the assets linked to them. -/
structure AssignmentReferences (core : RchCore) : Prop where
  filed : Filed AssignmentRecord.assignmentUid id core.assignments
  equipped : LinksInto Prod.fst core.assignmentAssetLinks core.assignments

/-- The skills, which never go, and what asks for them. -/
structure SkillReferences (core : RchCore) : Prop where
  members : RefersInto (fun record => some record.skillUid) core.teamMemberSkills core.skills
  requirements : RefersInto (fun record => some record.skillUid) core.taskSkillRequirements core.skills

/-- What the registry never leaves dangling. -/
structure RegistryReferences (core : RchCore) : Prop where
  roster : RosterReferences core
  missions : MissionReferences core
  assignments : AssignmentReferences core
  skills : SkillReferences core

/-- The tables in question, by the groups above. -/
def RchCore.rosterTables (core : RchCore) :
    Dict String TeamMemberRecord × Dict String TeamRecord × Dict String AssetRecord × HSet (String × String) :=
  (core.teamMembers, core.teams, core.assets, core.teamMemberClientLinks)

def RchCore.missionTables (core : RchCore) :
    Dict String MissionRecord × HSet (String × String) × HSet (String × String) × HSet (String × String) ×
      Dict String TeamRecord × Dict String LogEntryRecord × Dict String AssignmentRecord :=
  (core.missions, core.missionZoneLinks, core.missionMarkerLinks, core.missionTeamLinks, core.teams, core.logEntries,
    core.assignments)

def RchCore.skillTables (core : RchCore) :
    Dict String SkillRecord × Dict String TeamMemberSkillRecord × Dict String TaskSkillRequirementRecord :=
  (core.skills, core.teamMemberSkills, core.taskSkillRequirements)

section

variable {core core' : RchCore}

theorem RosterReferences.of_same (h : RosterReferences core) (same : core'.rosterTables = core.rosterTables) :
    RosterReferences core' := by
  obtain ⟨members, teams, assets, clients⟩ : core'.teamMembers = core.teamMembers ∧ core'.teams = core.teams ∧
      core'.assets = core.assets ∧ core'.teamMemberClientLinks = core.teamMemberClientLinks := by
    simpa [RchCore.rosterTables] using same
  exact ⟨members ▸ teams ▸ h.teams, assets ▸ members ▸ h.members, clients ▸ members ▸ h.clients⟩

theorem MissionReferences.of_same (h : MissionReferences core) (same : core'.missionTables = core.missionTables) :
    MissionReferences core' := by
  obtain ⟨missions, zones, markers, links, teams, entries, assignments⟩ : core'.missions = core.missions ∧
      core'.missionZoneLinks = core.missionZoneLinks ∧ core'.missionMarkerLinks = core.missionMarkerLinks ∧
      core'.missionTeamLinks = core.missionTeamLinks ∧ core'.teams = core.teams ∧
      core'.logEntries = core.logEntries ∧ core'.assignments = core.assignments := by
    simpa [RchCore.missionTables] using same
  refine ⟨missions ▸ h.trimmed, zones ▸ missions ▸ h.zones, markers ▸ missions ▸ h.markers, links ▸ missions ▸ h.teams,
    teams ▸ missions ▸ h.first, entries ▸ missions ▸ h.entries, assignments ▸ missions ▸ h.assignments⟩

theorem SkillReferences.of_same (h : SkillReferences core) (same : core'.skillTables = core.skillTables) :
    SkillReferences core' := by
  obtain ⟨skills, members, requirements⟩ : core'.skills = core.skills ∧ core'.teamMemberSkills = core.teamMemberSkills ∧
      core'.taskSkillRequirements = core.taskSkillRequirements := by
    simpa [RchCore.skillTables] using same
  exact ⟨members ▸ skills ▸ h.members, requirements ▸ skills ▸ h.requirements⟩

/-! ## Missions -/

/-- A mission under a trimmed uid, new or changed. -/
theorem MissionReferences.putMission (h : MissionReferences core) {uid : String} (mission : MissionRecord)
    (trimmed : trim uid = uid) : MissionReferences { core with missions := core.missions.insert uid mission } where
  trimmed uid' known := by
    rcases Dict.contains_insert.1 known with rfl | known
    · exact trimmed
    · exact h.trimmed uid' known
  zones := h.zones.insertOwner _ _
  markers := h.markers.insertOwner _ _
  teams := h.teams.insertOwner _ _
  first := h.first.insertOwner _ _
  entries := h.entries.insertOwner _ _
  assignments := h.assignments.insertOwner _ _

/-- A team of no mission, of one that is there, or of the one it had. -/
theorem MissionReferences.putTeam (h : MissionReferences core) (uid : String) (team : TeamRecord)
    (known : ∀ missionUid, team.missionUid = some missionUid → core.missions.contains missionUid = true) :
    MissionReferences { core with teams := core.teams.insert uid team } :=
  { h with first := h.first.insert known }

/-- The missions of a team are there. -/
theorem MissionReferences.teamMissionIds (h : MissionReferences core) {teamUid uid : String}
    (mem : uid ∈ core.teamMissionIds teamUid) : core.missions.contains uid = true := by
  obtain ⟨value, listed, rfl⟩ := mem_dedupeNonEmpty mem
  have known : core.missions.contains value = true := by
    rcases List.mem_append.1 listed with linked | own
    · obtain ⟨link, there, rfl⟩ := List.mem_map.1 linked
      exact h.teams link (List.mem_filter.1 there).1
    · obtain ⟨team, stored, named⟩ := Option.bind_eq_some_iff.1 (Option.mem_toList.1 own)
      exact h.first teamUid team value stored named
  rw [h.trimmed value known]
  exact known

theorem MissionReferences.linkTeam (h : MissionReferences core) {teamUid : String} {missionUids : List String}
    (linkable : MissionsLinkable core teamUid missionUids) :
    MissionReferences (setTeamMissionLinks teamUid missionUids core) := by
  refine { h with teams := (h.teams.retain _).extend fun link linked => ?_ }
  obtain ⟨uid, mem, rfl⟩ := List.mem_map.1 linked
  exact (linkable uid mem).elim id h.teamMissionIds

theorem MissionReferences.putAssignment (h : MissionReferences core) (uid : String) (assignment : AssignmentRecord)
    (known : core.missions.contains assignment.missionUid = true) :
    MissionReferences (storeAssignment assignment uid core) := by
  refine { h with assignments := h.assignments.insert fun missionUid named => ?_ }
  rw [← Option.some.inj named]
  exact known

/-! ## Assignments -/

theorem AssignmentReferences.store (h : AssignmentReferences core) (assignment : AssignmentRecord) :
    AssignmentReferences (storeAssignment assignment assignment.assignmentUid core) where
  filed := h.filed.insert assignment
  equipped := by
    refine LinksInto.extend ((h.equipped.insertOwner _ _).retain _) fun link linked => ?_
    obtain ⟨uid, -, rfl⟩ := List.mem_map.1 linked
    exact Dict.contains_insert.2 (.inl rfl)

theorem AssignmentReferences.of_same (h : AssignmentReferences core)
    (same : core'.linkTables.2.2 = core.linkTables.2.2) : AssignmentReferences core' := by
  obtain ⟨assignments, links⟩ : core'.assignments = core.assignments ∧
      core'.assignmentAssetLinks = core.assignmentAssetLinks := by
    simpa [RchCore.linkTables] using same
  exact ⟨assignments ▸ h.filed, links ▸ assignments ▸ h.equipped⟩

/-! ## Edits -/

theorem JournalEdit.references (h : RegistryReferences core) (edit : JournalEdit core core') : RegistryReferences core' := by
  cases edit <;> exact ⟨h.roster.of_same rfl, h.missions.of_same rfl, h.assignments.of_same rfl, h.skills.of_same rfl⟩

theorem MissionEdit.references (h : RegistryReferences core) (edit : MissionEdit core core') : RegistryReferences core' := by
  refine ⟨h.roster.of_same (by cases edit <;> rfl), ?_, h.assignments.of_same (by cases edit <;> rfl),
    h.skills.of_same (by cases edit <;> rfl)⟩
  have missions := h.missions
  cases edit with
  | create uid mission key trimmed => exact missions.putMission mission trimmed
  | patch uid old mission stored => exact missions.putMission mission (missions.trimmed uid (Dict.contains_iff.2 ⟨old, stored⟩))
  | linkZone missionUid zoneId mission => exact { missions with zones := missions.zones.insert mission }
  | unlinkZone link => exact { missions with zones := missions.zones.erase link }
  | linkMarker missionUid markerRef mission => exact { missions with markers := missions.markers.insert mission }
  | unlinkMarker link => exact { missions with markers := missions.markers.erase link }

theorem LogEdit.references (h : RegistryReferences core) (edit : LogEdit core core') : RegistryReferences core' := by
  refine ⟨h.roster.of_same (by cases edit <;> rfl), ?_, h.assignments.of_same (by cases edit <;> rfl),
    h.skills.of_same (by cases edit <;> rfl)⟩
  have missions := h.missions
  cases edit with
  | defaultMission mission => exact missions.putMission mission (by decide)
  | change => exact missions.of_same rfl
  | entry entryUid record key known =>
    refine { missions with entries := missions.entries.insert fun missionUid named => ?_ }
    rw [← Option.some.inj named]
    exact known

theorem EamEdit.references [Host] {drawn : String → Prop} (h : RegistryReferences core)
    (edit : EamEdit False drawn core core') : RegistryReferences core' := by
  refine ⟨?_, ?_, h.assignments.of_same (by cases edit <;> rfl), h.skills.of_same (by cases edit <;> rfl)⟩
  · have roster := h.roster
    cases edit with
    | createTeam teamUid team => exact { roster with teams := roster.teams.insertOwner teamUid team }
    | canonizeTeam teamUid old team => exact { roster with teams := roster.teams.insertOwner teamUid team }
    | createMember uid teamUid member key named known =>
      refine ⟨roster.teams.insert fun other its => ?_, roster.members.insertOwner uid member, roster.clients.insertOwner uid member⟩
      rw [named] at its
      exact Option.some.inj its ▸ known
    | report => exact roster.of_same rfl
    | delete => exact roster.of_same rfl
  · have missions := h.missions
    cases edit with
    | createTeam teamUid team key none => exact missions.putTeam teamUid team fun missionUid named => absurd (none.symm.trans named) nofun
    | canonizeTeam teamUid old team stored key same =>
      exact missions.putTeam teamUid team fun missionUid named => missions.first teamUid old missionUid stored (same.symm.trans named)
    | createMember => exact missions.of_same rfl
    | report => exact missions.of_same rfl
    | delete => exact missions.of_same rfl

theorem TeamEdit.references (h : RegistryReferences core) {strict : Prop} (edit : TeamEdit strict core core') :
    RegistryReferences core' := by
  refine ⟨?_, ?_, h.assignments.of_same (by cases edit <;> rfl), h.skills.of_same (by cases edit <;> rfl)⟩
  · have roster := h.roster
    cases edit with
    | create uid team => exact { roster with teams := roster.teams.insertOwner uid team }
    | patch uid old team => exact { roster with teams := roster.teams.insertOwner uid team }
    | link => exact roster.of_same rfl
    | linkNew teamUid missionUids team => exact { roster with teams := roster.teams.insertOwner teamUid team }
    | delete teamUid teamMembers left =>
      have source : ∀ uid member, teamMembers.get uid = some member → ∀ named, member.teamUid = some named →
          named ≠ teamUid ∧ ∃ old, core.teamMembers.get uid = some old ∧ old.teamUid = some named := by
        intro uid member stored named its
        obtain ⟨old, before, ⟨stays, rfl⟩ | ⟨-, now, rfl⟩⟩ := left.source stored
        · refine ⟨?_, _, before, its⟩
          rintro rfl
          simp [its] at stays
        · cases its
      have same : ∀ uid, core.teamMembers.contains uid = true → teamMembers.contains uid = true := by
        intro uid there
        obtain ⟨member, stored⟩ := Dict.contains_iff.1 there
        cases stays : member.teamUid == some teamUid with
        | true =>
          obtain ⟨now, after⟩ := left.changed uid member stored stays
          exact Dict.contains_iff.2 ⟨_, after⟩
        | false => exact Dict.contains_iff.2 ⟨_, left.kept uid member stored stays⟩
      refine ⟨?_, roster.members.grow same, roster.clients.grow same⟩
      have kept : RefersInto TeamMemberRecord.teamUid teamMembers core.teams :=
        roster.teams.of_source fun uid member named stored its => ⟨uid, (source uid member stored named its).2⟩
      exact kept.removeOwner fun uid member stored its => (source uid member stored teamUid its).1 rfl
  · have missions := h.missions
    have linked : ∀ link ∈ core.missionTeamLinks, core.missions.contains link.1 = true := missions.teams
    cases edit with
    | create uid team key known =>
      exact missions.putTeam uid team fun missionUid named => (known missionUid named).elim (linked _) id
    | patch uid old team stored key known =>
      refine missions.putTeam uid team fun missionUid named => ?_
      rcases known missionUid named with before | link | known
      · exact missions.first uid old missionUid stored before
      · exact linked _ link
      · exact known
    | link teamUid missionUids linkable => exact missions.linkTeam linkable
    | linkNew teamUid missionUids team linkable key first =>
      refine (missions.linkTeam linkable).putTeam teamUid team fun missionUid named => ?_
      rw [first] at named
      exact (linkable missionUid (List.mem_of_head? named)).elim id missions.teamMissionIds
    | delete teamUid teamMembers =>
      exact { missions with teams := missions.teams.retain _, first := missions.first.remove teamUid }

theorem MemberEdit.references (h : RegistryReferences core) (edit : MemberEdit core core') : RegistryReferences core' := by
  refine ⟨?_, h.missions.of_same (by cases edit <;> rfl), h.assignments.of_same (by cases edit <;> rfl), ?_⟩
  · have roster := h.roster
    cases edit with
    | create uid member key known =>
      exact ⟨roster.teams.insert known, roster.members.insertOwner uid member, roster.clients.insertOwner uid member⟩
    | patch uid old member stored key known =>
      refine ⟨roster.teams.insert fun teamUid named => ?_, roster.members.insertOwner uid member,
        roster.clients.insertOwner uid member⟩
      exact (known teamUid named).elim (roster.teams uid old teamUid stored) id
    | delete uid member assets stored left =>
      have source : ∀ assetUid asset, assets.get assetUid = some asset → ∀ named, asset.teamMemberUid = some named →
          named ≠ uid ∧ ∃ old, core.assets.get assetUid = some old ∧ old.teamMemberUid = some named := by
        intro assetUid asset after named its
        obtain ⟨old, before, ⟨stays, rfl⟩ | ⟨-, now, rfl⟩⟩ := left.source after
        · refine ⟨?_, _, before, its⟩
          rintro rfl
          simp [its] at stays
        · cases its
      have kept : RefersInto AssetRecord.teamMemberUid assets core.teamMembers :=
        roster.members.of_source fun assetUid asset named after its => ⟨assetUid, (source assetUid asset after named its).2⟩
      refine ⟨roster.teams.remove uid, ?_, (roster.clients.retain _).removeOwner fun link linked => ?_⟩
      · exact kept.removeOwner fun assetUid asset after its => (source assetUid asset after uid its).1 rfl
      · simpa using (HSet.mem_retain.1 linked).2
    | linkClient uid identity known => exact { roster with clients := roster.clients.insert known }
    | unlinkClient link => exact { roster with clients := roster.clients.erase link }
  · have skills := h.skills
    cases edit with
    | delete uid member assets => exact { skills with members := skills.members.retain _ }
    | _ => exact skills.of_same rfl

theorem AssetEdit.references (h : RegistryReferences core) (edit : AssetEdit core core') : RegistryReferences core' := by
  obtain ⟨roster, missions, assignments, skills⟩ := h
  cases edit with
  | create assetUid asset key known =>
    exact ⟨{ roster with members := roster.members.insert known }, missions.of_same rfl, assignments.of_same rfl, skills.of_same rfl⟩
  | patch assetUid old asset stored key known =>
    refine ⟨{ roster with members := roster.members.insert fun uid named => ?_ }, missions.of_same rfl,
      assignments.of_same rfl, skills.of_same rfl⟩
    exact (known uid named).elim (roster.members assetUid old uid stored) id
  | delete assetUid =>
    refine ⟨{ roster with members := roster.members.remove assetUid },
      { missions with assignments := missions.assignments.mapValues fun _ => rfl }, ⟨?_, ?_⟩, skills.of_same rfl⟩
    · intro uid assignment stored
      have after : (core.assignments.mapValues _).get uid = some assignment := stored
      rw [Dict.get_mapValues, Option.map_eq_some_iff] at after
      obtain ⟨old, before, rfl⟩ := after
      exact assignments.filed uid old before
    · exact (assignments.equipped.retain _).grow fun uid had => (Dict.contains_mapValues.trans had)
  | createSkill skillUid skill =>
    exact ⟨roster.of_same rfl, missions.of_same rfl, assignments.of_same rfl,
      skills.members.insertOwner skillUid skill, skills.requirements.insertOwner skillUid skill⟩
  | patchSkill skillUid old skill =>
    exact ⟨roster.of_same rfl, missions.of_same rfl, assignments.of_same rfl,
      skills.members.insertOwner skillUid skill, skills.requirements.insertOwner skillUid skill⟩
  | memberSkill record key keyed known =>
    refine ⟨roster.of_same rfl, missions.of_same rfl, assignments.of_same rfl,
      { skills with members := skills.members.insert fun skillUid named => ?_ }⟩
    rw [← Option.some.inj named]
    exact known
  | requirement record key keyed task known =>
    refine ⟨roster.of_same rfl, missions.of_same rfl, assignments.of_same rfl,
      { skills with requirements := skills.requirements.insert fun skillUid named => ?_ }⟩
    rw [← Option.some.inj named]
    exact known
  | assign uid assignment key known =>
    subst key
    exact ⟨roster.of_same rfl, missions.putAssignment _ assignment known, assignments.store assignment, skills.of_same rfl⟩
  | equip uid old assets stored =>
    obtain rfl : uid = old.assignmentUid := assignments.filed uid old stored
    have known : core.missions.contains old.missionUid = true := missions.assignments _ old old.missionUid stored rfl
    exact ⟨roster.of_same rfl, missions.putAssignment _ { old with assets } known, assignments.store { old with assets },
      skills.of_same rfl⟩
  | journal entry => exact entry.references ⟨roster, missions, assignments, skills⟩

/-- The assignments of a deleted checklist's tasks go, and the links of these with them. -/
theorem ChecklistEdit.references (h : RegistryReferences core) (edit : ChecklistEdit core core') :
    RegistryReferences core' := by
  obtain ⟨roster, missions, assignments, skills⟩ := h
  cases edit with
  | tables => exact ⟨roster.of_same rfl, missions.of_same rfl, assignments.of_same rfl, skills.of_same rfl⟩
  | journal entry => exact entry.references ⟨roster, missions, assignments, skills⟩
  | delete checklistUid =>
    refine ⟨roster.of_same rfl, { missions with assignments := missions.assignments.retain _ },
      ⟨assignments.filed.retain _, fun link linked => ?_⟩,
      { skills with requirements := skills.requirements.retain _ }⟩
    obtain ⟨linked, kept⟩ := HSet.mem_retain.1 linked
    obtain ⟨assignment, stored⟩ := Dict.contains_iff.1 (assignments.equipped link linked)
    refine Dict.contains_iff.2 ⟨assignment, ?_⟩
    have stays : (!(checklistTaskUids core checklistUid).contains assignment.taskUid) = true := by
      by_contra gone
      have goes : assignment ∈ core.assignments.values.filter fun assignment =>
          (checklistTaskUids core checklistUid).contains assignment.taskUid :=
        List.mem_filter.2 ⟨Dict.mem_values.2 ⟨_, stored⟩, by simpa using gone⟩
      have named : link.1 ∈ (core.assignments.values.filter fun assignment =>
          (checklistTaskUids core checklistUid).contains assignment.taskUid).map AssignmentRecord.assignmentUid :=
        List.mem_map.2 ⟨assignment, goes, (assignments.filed link.1 assignment stored).symm⟩
      rw [Bool.not_eq_true', ← Bool.not_eq_true, List.contains_iff_mem] at kept
      exact kept named
    exact Dict.get_retain.trans (Option.filter_eq_some_iff.2 ⟨stored, stays⟩)

end

section

variable [Host] {core core' : RchCore}

theorem CommandFamily.Edit.references {family : CommandFamily} (other : family ≠ .checklist) (h : RegistryReferences core)
    (edit : family.Edit core core') : RegistryReferences core' := by
  have quiet (roster : core'.rosterTables = core.rosterTables) (missions : core'.missionTables = core.missionTables)
      (links : core'.linkTables.2.2 = core.linkTables.2.2) (skills : core'.skillTables = core.skillTables) :
      RegistryReferences core' :=
    ⟨h.roster.of_same roster, h.missions.of_same missions, h.assignments.of_same links, h.skills.of_same skills⟩
  cases family with
  | remRegistry => cases edit <;> exact quiet rfl rfl rfl rfl
  | clientEvent => cases edit <;> exact quiet rfl rfl rfl rfl
  | marker => cases edit <;> exact quiet rfl rfl rfl rfl
  | zone => cases edit <;> exact quiet rfl rfl rfl rfl
  | mission => exact MissionEdit.references h edit
  | log => exact LogEdit.references h edit
  | eam => exact EamEdit.references h edit
  | team => exact TeamEdit.references h edit
  | teamMember => exact MemberEdit.references h edit
  | asset => exact AssetEdit.references h edit
  | skill => exact AssetEdit.references h edit
  | assignment => exact AssetEdit.references h edit
  | rights => cases edit <;> exact quiet rfl rfl rfl rfl
  | topic => cases edit <;> exact quiet rfl rfl rfl rfl
  | checklist => exact absurd rfl other

theorem CommandFamily.apply_references (family : CommandFamily) (command : MissionCommandEnvelope) (w : World)
    (h : RegistryReferences w.core) : RegistryReferences ((family.apply command).run w).2.core := by
  by_cases checklists : family = .checklist
  · subst checklists
    exact applyChecklistCommand_holds (fun _ _ h edit => edit.references h) command w h
  · exact family.apply_holds checklists (fun _ _ h edit => edit.references checklists h) command w h

omit [Host] in
theorem RegistryReferences.new : RegistryReferences RchCore.new where
  roster := ⟨.empty, .empty, .empty⟩
  missions := ⟨fun uid known => absurd known (by simp [RchCore.new, Dict.contains]), .empty, .empty, .empty, .empty, .empty, .empty⟩
  assignments := ⟨.empty, .empty⟩
  skills := ⟨.empty, .empty⟩

theorem CommandRun.references {core : RchCore} (run : CommandRun (fun _ _ _ => True) RchCore.new core) :
    RegistryReferences core :=
  run.holds .new fun entry command w _ h =>
    entry.after_holds command (fun _ _ h edit => edit.references h) w
      (fun family w' _ h' => family.apply_references command w' h') h

end

end TelemetryHub
