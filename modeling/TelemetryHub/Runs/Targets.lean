import TelemetryHub.Runs.References
import TelemetryHub.Runs.Sheets

/-!
# What missions are linked to, along a run

A zone, a marker and a topic are deleted without a look at the missions that name them, and a
team is linked before it is looked up. Where no command does either, whatever a mission is
linked to is there.
-/

namespace TelemetryHub

open Lib CoreM

/-- What the missions are linked to is there, and the topic of each mission. -/
structure TargetsHold (core : RchCore) : Prop where
  zones : LinksInto Prod.snd core.missionZoneLinks core.zones
  markers : ∀ link ∈ core.missionMarkerLinks, MarkerKnown core link.2
  teams : LinksInto Prod.snd core.missionTeamLinks core.teams
  topics : RefersInto MissionRecord.topicId core.missions core.topics

/-- The tables in question. -/
structure TargetTables where
  missions : Dict String MissionRecord
  zones : Dict String ZoneRecord
  markers : Dict String MarkerRecord
  teams : Dict String TeamRecord
  topics : Dict String TopicRecord
  zoneLinks : HSet (String × String)
  markerLinks : HSet (String × String)
  teamLinks : HSet (String × String)

def RchCore.targetTables (core : RchCore) : TargetTables :=
  ⟨core.missions, core.zones, core.markers, core.teams, core.topics, core.missionZoneLinks, core.missionMarkerLinks,
    core.missionTeamLinks⟩

section

variable {core core' : RchCore}

theorem TargetsHold.of_same (h : TargetsHold core) (same : core'.targetTables = core.targetTables) : TargetsHold core' := by
  obtain ⟨missions, zones, markers, teams, topics, zoneLinks, markerLinks, teamLinks⟩ :
      core'.missions = core.missions ∧ core'.zones = core.zones ∧ core'.markers = core.markers ∧
      core'.teams = core.teams ∧ core'.topics = core.topics ∧ core'.missionZoneLinks = core.missionZoneLinks ∧
      core'.missionMarkerLinks = core.missionMarkerLinks ∧ core'.missionTeamLinks = core.missionTeamLinks := by
    simpa [RchCore.targetTables] using same
  refine ⟨zoneLinks ▸ zones ▸ h.zones, ?_, teamLinks ▸ teams ▸ h.teams, missions ▸ topics ▸ h.topics⟩
  unfold MarkerKnown
  rw [markerLinks, markers]
  exact h.markers

theorem JournalEdit.targetTables (edit : JournalEdit core core') : core'.targetTables = core.targetTables := by
  cases edit <;> rfl

theorem TargetsHold.putMission (h : TargetsHold core) (uid : String) (mission : MissionRecord)
    (topic : TopicKnown core mission.topicId) : TargetsHold { core with missions := core.missions.insert uid mission } :=
  { h with topics := h.topics.insert topic }

/-- A team that is there may have any links, one that is not none. -/
theorem TargetsHold.linkTeam (h : TargetsHold core) {teamUid : String} {missionUids : List String}
    (known : core.teams.contains teamUid = true ∨ missionUids = []) :
    TargetsHold (setTeamMissionLinks teamUid missionUids core) := by
  refine { h with teams := (h.teams.retain _).extend fun link linked => ?_ }
  obtain ⟨uid, mem, rfl⟩ := List.mem_map.1 linked
  rcases known with there | rfl
  · exact there
  · exact absurd mem List.not_mem_nil

/-- A marker put where there is none, or over one with its local id. -/
theorem TargetsHold.putMarker (h : TargetsHold core) (markerHash : String) (marker : MarkerRecord)
    (same : ∀ old, core.markers.get markerHash = some old → marker.localId = old.localId) :
    TargetsHold { core with markers := core.markers.insert markerHash marker } := by
  refine { h with markers := fun link linked => ?_ }
  obtain ⟨hash, old, stored, named⟩ := h.markers link linked
  by_cases here : hash = markerHash
  · subst here
    refine ⟨hash, marker, Dict.get_insert_self _ _ _, named.imp_right fun own => ?_⟩
    exact (same old stored).trans own
  · exact ⟨hash, old, (Dict.get_insert_ne here).trans stored, named⟩

theorem MarkerEdit.targets (h : TargetsHold core) (edit : MarkerEdit True core core') : TargetsHold core' := by
  cases edit with
  | create markerHash marker key fresh =>
    exact h.putMarker markerHash marker fun old stored => absurd ((fresh trivial).symm.trans stored) nofun
  | patch markerHash old marker stored key localId =>
    refine h.putMarker markerHash marker fun old' stored' => ?_
    rw [localId, Option.some.inj (stored.symm.trans stored')]
  | delete markerHash marker stored unlinked =>
    refine { h with markers := fun link linked => ?_ }
    obtain ⟨hash, old, there, named⟩ := h.markers link linked
    obtain ⟨notHash, notLocal⟩ := unlinked trivial link linked
    have other : hash ≠ markerHash := by
      rintro rfl
      obtain rfl := Option.some.inj (stored.symm.trans there)
      exact named.elim (fun same => notHash same.symm) fun same => notLocal same.symm
    exact ⟨hash, old, by rw [Dict.get_remove, if_neg other, there], named⟩
  | createZone zoneId zone => exact { h with zones := h.zones.insertOwner zoneId zone }
  | patchZone zoneId old zone => exact { h with zones := h.zones.insertOwner zoneId zone }
  | deleteZone zoneId zone stored unlinked => exact { h with zones := h.zones.removeOwner (unlinked trivial) }

theorem MissionEdit.targets (h : TargetsHold core) (edit : MissionEdit core core') : TargetsHold core' := by
  cases edit with
  | create uid mission key trimmed topic => exact h.putMission uid mission topic
  | patch uid old mission stored key topic =>
    refine h.putMission uid mission fun topicId named => ?_
    rcases topic with same | known
    · exact h.topics uid old topicId stored (same.symm.trans named)
    · exact known topicId named
  | linkZone missionUid zoneId mission zone => exact { h with zones := h.zones.insert zone }
  | unlinkZone link => exact { h with zones := h.zones.erase link }
  | linkMarker missionUid markerRef mission marker =>
    refine { h with markers := fun link linked => ?_ }
    rcases HSet.mem_insert.1 linked with rfl | linked
    · exact marker
    · exact h.markers link linked
  | unlinkMarker link => exact { h with markers := fun other linked => h.markers other (HSet.mem_erase.1 linked).2 }

theorem TeamEdit.targets (h : TargetsHold core) (edit : TeamEdit True core core') : TargetsHold core' := by
  cases edit with
  | create uid team => exact { h with teams := h.teams.insertOwner uid team }
  | patch uid old team => exact { h with teams := h.teams.insertOwner uid team }
  | link teamUid missionUids linkable known => exact h.linkTeam (known trivial)
  | linkNew teamUid missionUids team =>
    refine { h with teams := ((h.teams.insertOwner teamUid team).retain _).extend fun link linked => ?_ }
    obtain ⟨uid, -, rfl⟩ := List.mem_map.1 linked
    exact Dict.contains_insert.2 (.inl rfl)
  | delete teamUid teamMembers =>
    refine { h with teams := (h.teams.retain _).removeOwner fun link linked => ?_ }
    simpa using (HSet.mem_retain.1 linked).2

theorem TopicEdit.targets (h : TargetsHold core) (edit : TopicEdit True core core') : TargetsHold core' := by
  cases edit with
  | create topicId topic => exact { h with topics := h.topics.insertOwner topicId topic }
  | patch topicId old topic => exact { h with topics := h.topics.insertOwner topicId topic }
  | delete topicId now unused => exact { h with topics := h.topics.removeOwner (unused trivial) }
  | _ => exact h.of_same rfl

theorem LogEdit.targets (h : TargetsHold core) (edit : LogEdit core core') : TargetsHold core' := by
  cases edit with
  | defaultMission mission key none =>
    exact h.putMission "mission-default" mission fun topicId named => absurd (none.symm.trans named) nofun
  | _ => exact h.of_same rfl

theorem EamEdit.targets [Host] {drawn : String → Prop} (h : TargetsHold core) (edit : EamEdit False drawn core core') :
    TargetsHold core' := by
  cases edit with
  | createTeam teamUid team => exact { h with teams := h.teams.insertOwner teamUid team }
  | canonizeTeam teamUid old team => exact { h with teams := h.teams.insertOwner teamUid team }
  | _ => exact h.of_same rfl

end

/-! ## Commands -/

section

variable [Host] {core core' : RchCore}

/-- The command deletes nothing that a mission names and links no team that is not there, and the
hash drawn for a marker is no marker's yet. -/
structure LeavesTargets (command : MissionCommandEnvelope) (w : World) : Prop where
  zone : command.commandType = "mission.zone.delete" → ZoneDeletable w.core command.args
  marker : command.commandType = "mission.marker.delete" → MarkerDeletable w.core command.args
  topic : command.commandType = "topic.delete" → TopicDeletable w.core command.args
  team : TeamCommandKnown w.core command
  fresh : ∀ n, w.core.markers.get (w.draws n).simple = none

theorem LeavesTargets.of_same {command : MissionCommandEnvelope} {w w' : World} (h : LeavesTargets command w)
    (same : w'.core.targetTables = w.core.targetTables) {k : Nat} (draws : w'.draws = drawsFrom k w.draws) :
    LeavesTargets command w' := by
  obtain ⟨missions, zones, markers, teams, topics, zoneLinks, markerLinks, teamLinks⟩ :
      w'.core.missions = w.core.missions ∧ w'.core.zones = w.core.zones ∧ w'.core.markers = w.core.markers ∧
      w'.core.teams = w.core.teams ∧ w'.core.topics = w.core.topics ∧
      w'.core.missionZoneLinks = w.core.missionZoneLinks ∧ w'.core.missionMarkerLinks = w.core.missionMarkerLinks ∧
      w'.core.missionTeamLinks = w.core.missionTeamLinks := by
    simpa [RchCore.targetTables] using same
  refine ⟨fun type => ?_, fun type => ?_, fun type => ?_, ⟨fun type => ?_, fun type => ?_, fun type => ?_⟩, fun n => ?_⟩
  · unfold ZoneDeletable ZoneUnlinked
    rw [zoneLinks]
    exact h.zone type
  · unfold MarkerDeletable MarkerUnlinked
    rw [markers, markerLinks]
    exact h.marker type
  · unfold TopicDeletable TopicUnused
    rw [missions]
    exact h.topic type
  · unfold TeamWritten
    rw [teams]
    exact h.team.upsert type
  · unfold TeamNamed
    rw [teams]
    exact h.team.link type
  · unfold TeamNamedOrUnlinked
    rw [teams, teamLinks]
    exact h.team.unlink type
  · rw [markers, draws]
    exact h.fresh (n + k)

omit [Host] in
/-- A method that goes by writes which keep the targets keeps them. -/
theorem targets_of_spec {α : Type} (drawn : String → Prop) {m : CoreM α} {Edit : RchCore → RchCore → Prop} {w : World}
    (spec : Spec drawn m w.core (Proc.Outcome False Edit w.core)) (fresh : ∀ n, drawn (w.draws n).simple)
    (edits : ∀ core core', TargetsHold core → Edit core core' → TargetsHold core') (h : TargetsHold w.core) :
    TargetsHold (m.run w).2.core := by
  have steps : Relation.ReflTransGen Edit w.core (m.run w).2.core := (spec w rfl fresh).1.steps
  generalize (m.run w).2.core = core' at steps ⊢
  induction steps with
  | refl => exact h
  | tail _ edit ih => exact edits _ _ ih edit

theorem CommandFamily.apply_targets (family : CommandFamily) (command : MissionCommandEnvelope) (w : World)
    (leaves : LeavesTargets command w) (h : TargetsHold w.core) :
    TargetsHold ((family.apply command).run w).2.core := by
  have quiet (other : family ≠ .checklist)
      (same : ∀ core core', family.Edit core core' → core'.targetTables = core.targetTables) :
      TargetsHold ((family.apply command).run w).2.core :=
    family.apply_holds other (fun core core' h edit => h.of_same (same core core' edit)) command w h
  have assets : ∀ core core', AssetEdit core core' → core'.targetTables = core.targetTables := by
    intro core core' edit
    cases edit with
    | journal entry => exact entry.targetTables
    | _ => rfl
  cases family with
  | remRegistry => exact quiet (by decide) fun _ _ edit => by cases edit <;> rfl
  | clientEvent => exact quiet (by decide) fun _ _ edit => by cases edit <;> rfl
  | marker =>
    exact targets_of_spec (fun uid => w.core.markers.get uid = none)
      (applyMarkerCommand_spec command (fun _ _ new => new) fun _ type => leaves.marker type) leaves.fresh
      (fun _ _ h edit => edit.targets h) h
  | zone =>
    exact targets_of_spec (fun _ => True) (applyZoneCommand_spec command False.elim fun _ type => leaves.zone type)
      (fun _ => trivial) (fun _ _ h edit => edit.targets h) h
  | mission => exact CommandFamily.mission.apply_holds (by decide) (fun _ _ h edit => MissionEdit.targets h edit) command w h
  | log => exact CommandFamily.log.apply_holds (by decide) (fun _ _ h edit => LogEdit.targets h edit) command w h
  | eam => exact CommandFamily.eam.apply_holds (by decide) (fun _ _ h edit => EamEdit.targets h edit) command w h
  | team =>
    exact targets_of_spec (fun _ => True) (applyRegistryTeamCommand_spec command False.elim fun _ => leaves.team)
      (fun _ => trivial) (fun _ _ h edit => edit.targets h) h
  | teamMember => exact quiet (by decide) fun _ _ edit => by cases edit <;> rfl
  | asset => exact quiet (by decide) assets
  | skill => exact quiet (by decide) assets
  | assignment => exact quiet (by decide) assets
  | rights => exact quiet (by decide) fun _ _ edit => by cases edit <;> rfl
  | topic =>
    exact targets_of_spec (fun _ => True) (applyTopicCommand_spec command fun _ type => leaves.topic type)
      (fun _ => trivial) (fun _ _ h edit => edit.targets h) h
  | checklist =>
    refine applyChecklistCommand_holds (fun _ _ h edit => h.of_same ?_) command w h
    cases edit with
    | journal entry => exact entry.targetTables
    | _ => rfl

omit [Host] in
theorem drawSteps_targets {w w' : World} (steps : Relation.ReflTransGen DrawStep w w') :
    w'.core.targetTables = w.core.targetTables := by
  induction steps with
  | refl => rfl
  | tail _ step ih =>
    rcases step.1 with core | edit
    · rw [core, ih]
    · rw [edit.targetTables, ih]

theorem CommandEntry.after_targets (entry : CommandEntry) (command : MissionCommandEnvelope) (w : World)
    (leaves : LeavesTargets command w) (h : TargetsHold w.core) : TargetsHold (entry.after command w).core := by
  rcases entry.after_cases drawMoves command w with quiet | ⟨family, w', before, behind⟩
  · exact h.of_same (drawSteps_targets quiet)
  · obtain ⟨-, k, draws⟩ := drawSteps_keep before
    refine TargetsHold.of_same ?_ (drawSteps_targets behind)
    exact family.apply_targets command w' (leaves.of_same (drawSteps_targets before) draws)
      (h.of_same (drawSteps_targets before))

/-- Along a run whose commands delete no zone, marker or topic that a mission names and link no team
that is not there, every zone, marker and team that a mission is linked to is there, and so is the
topic of every mission. -/
theorem targets_hold {core : RchCore} (run : CommandRun (fun _ => LeavesTargets) RchCore.new core) : TargetsHold core :=
  run.holds ⟨.empty, fun link linked => absurd linked (HSet.not_mem_empty link), .empty, .empty⟩
    fun entry command w leaves h => entry.after_targets command w leaves h

end

/-! ## A drill -/

def createTopic : MissionCommandEnvelope :=
  drillCommand "0" "topic.create"
    [("topic_id", .string "alpha"), ("topic_name", .string "Alpha"), ("topic_path", .string "alpha")]

/-- A mission of a topic. -/
def createTopicMission : MissionCommandEnvelope :=
  drillCommand "1" "mission.registry.mission.upsert"
    [("uid", .string "a"), ("mission_name", .string "a"), ("topic_id", .string "alpha")]

/-- A topic, a mission of it and another one, and a team of both. -/
def targetDrill : List MissionCommandEnvelope := [createTeam, createMission "2" "b", createTopicMission, createTopic]

/-- Where there are no markers, a command that is no deletion and gives no colour leaves the targets. -/
theorem leavesTargets_plain [Host] {command : MissionCommandEnvelope} {w : World}
    (types : command.commandType ∉ ["mission.zone.delete", "mission.marker.delete", "topic.delete",
      "mission.registry.team.mission.link", "mission.registry.team.mission.unlink"])
    (colorless : optionalTextOrEmpty command.args ["color"] = none) (markers : w.core.markers.toPairs = []) :
    LeavesTargets command w := by
  simp only [List.mem_cons, List.not_mem_nil, or_false, not_or] at types
  obtain ⟨zone, marker, topic, link, unlink⟩ := types
  refine ⟨fun type => absurd type zone, fun type => absurd type marker, fun type => absurd type topic,
    ⟨fun _ => .inl fun _ _ => ⟨none, by rw [teamColorFromArgs, colorless]⟩, fun type => absurd type link,
      fun type => absurd type unlink⟩, fun n => Dict.get_of_toPairs_nil markers _⟩

/-- The topic of a mission is there, and the team that is linked to two missions. -/
theorem targets_hold_drill :
    TargetsHold (coreBehind targetDrill) ∧
    ((coreBehind targetDrill).missions.get "a").map MissionRecord.topicId = some (some "alpha") ∧
    (coreBehind targetDrill).missionTeamLinks.toList = [("a", "t"), ("b", "t")] := by
  let _ := Host.blank
  have plain (command : MissionCommandEnvelope) (mem : command ∈ targetDrill) (earlier : List MissionCommandEnvelope)
      (markers : (coreBehind earlier).markers.toPairs = []) :
      LeavesTargets command (World.atEpoch (coreBehind earlier)) := by
    refine leavesTargets_plain ?_ ?_ markers
    · revert command
      decide
    · revert command
      decide
  have run : CommandRun (fun _ => LeavesTargets) RchCore.new (coreBehind targetDrill) :=
    .step (.step (.step (.step (.refl _)
      (plain createTopic (by simp [targetDrill]) [] (by decide +kernel)))
      (plain createTopicMission (by simp [targetDrill]) [createTopic] (by decide +kernel)))
      (plain (createMission "2" "b") (by simp [targetDrill]) [createTopicMission, createTopic] (by decide +kernel)))
      (plain createTeam (by simp [targetDrill]) [createMission "2" "b", createTopicMission, createTopic] (by decide +kernel))
  exact ⟨targets_hold run, by decide +kernel, by decide +kernel⟩

end TelemetryHub
