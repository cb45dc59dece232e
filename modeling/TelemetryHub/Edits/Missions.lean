import TelemetryHub.Core.Logic
import TelemetryHub.Core.Normal
import TelemetryHub.Core.Missions

/-!
# What the mission commands write

A mission is put or changed under its uid, and linked to zones and markers that
are there.
-/

namespace TelemetryHub

open Lib CoreM

/-- The topic of a mission exists. -/
def TopicKnown (core : RchCore) (topicId : Option String) : Prop :=
  ∀ topic, topicId = some topic → core.topics.contains topic = true

/-- A marker goes by the reference, its hash or its local id. -/
def MarkerKnown (core : RchCore) (markerRef : String) : Prop :=
  ∃ markerHash marker, core.markers.get markerHash = some marker ∧
    (markerHash = markerRef ∨ marker.localId = markerRef)

/-- One write of a mission command. -/
inductive MissionEdit (core : RchCore) : RchCore → Prop
  | create (uid : String) (mission : MissionRecord) (key : mission.uid = uid) (trimmed : trim uid = uid)
      (topic : TopicKnown core mission.topicId) :
      MissionEdit core { core with missions := core.missions.insert uid mission }
  | patch (uid : String) (old mission : MissionRecord) (stored : core.missions.get uid = some old)
      (key : mission.uid = old.uid)
      (topic : mission.topicId = old.topicId ∨ TopicKnown core mission.topicId) :
      MissionEdit core { core with missions := core.missions.insert uid mission }
  | linkZone (missionUid zoneId : String) (mission : core.missions.contains missionUid = true)
      (zone : core.zones.contains zoneId = true) :
      MissionEdit core
        { core with missionZoneLinks := core.missionZoneLinks.insert (missionUid, zoneId) }
  | unlinkZone (link : String × String) :
      MissionEdit core { core with missionZoneLinks := core.missionZoneLinks.erase link }
  | linkMarker (missionUid markerRef : String) (mission : core.missions.contains missionUid = true)
      (marker : MarkerKnown core markerRef) :
      MissionEdit core
        { core with missionMarkerLinks := core.missionMarkerLinks.insert (missionUid, markerRef) }
  | unlinkMarker (link : String × String) :
      MissionEdit core { core with missionMarkerLinks := core.missionMarkerLinks.erase link }

theorem ensureMarkerExists_known {core : RchCore} {markerRef : String} (trimmed : trim markerRef = markerRef)
    (h : ensureMarkerExists core markerRef = .ok ()) : MarkerKnown core markerRef := by
  unfold ensureMarkerExists at h
  dsimp only at h
  rw [trimmed] at h
  split at h
  · cases h
  · split at h
    · rename_i hfound
      rw [Bool.or_eq_true] at hfound
      rcases hfound with hfound | hfound
      · obtain ⟨marker, hmarker⟩ := Dict.contains_iff.1 hfound
        exact ⟨_, marker, hmarker, .inl rfl⟩
      · obtain ⟨marker, hmem, hlocal⟩ := List.any_eq_true.1 hfound
        obtain ⟨markerHash, hmarker⟩ := Dict.mem_values.1 hmem
        exact ⟨markerHash, marker, hmarker, .inr (by simpa using hlocal)⟩
    · cases h

section

variable [Host] {drawn : String → Prop} {clean : Prop} {core₀ : RchCore}

theorem missionTopicFromArgs_known {core : RchCore} {args : Value} {current topicId : Option String}
    (h : missionTopicFromArgs core args current = .ok topicId) :
    topicId = current ∨ TopicKnown core topicId := by
  unfold missionTopicFromArgs at h
  split at h
  · rw [← Except.ok.inj h]
    exact .inl rfl
  · split at h
    · rw [← Except.ok.inj h]
      exact .inr fun topic given => by cases given
    · split at h
      · rw [← Except.ok.inj h]
        refine .inr fun topic htopic => ?_
        rw [← Option.some.inj htopic]
        assumption
      · cases h

theorem applyMissionIdentityFields_keeps {core : RchCore} {args : Value}
    {mission patched : MissionRecord} (h : applyMissionIdentityFields core args mission = .ok patched) :
    patched.uid = mission.uid ∧
      (patched.topicId = mission.topicId ∨ TopicKnown core patched.topicId) := by
  unfold applyMissionIdentityFields at h
  dsimp only at h
  split at h
  · obtain ⟨_, h, -⟩ := bind_eq_ok.1 h
    exact nomatch h
  · obtain ⟨topicId, htopic, h⟩ := bind_eq_ok.1 h
    rw [← Except.ok.inj h]
    exact ⟨rfl, missionTopicFromArgs_known htopic⟩

theorem applyOptionalRoleFields_keeps {args : Value} {mission patched : MissionRecord}
    (h : applyOptionalRoleFields args mission = .ok patched) :
    patched.uid = mission.uid ∧ patched.topicId = mission.topicId := by
  obtain ⟨defaultRole, -, h⟩ := bind_eq_ok.1 h
  obtain ⟨ownerRole, -, h⟩ := bind_eq_ok.1 h
  obtain ⟨missionRdeRole, -, h⟩ := bind_eq_ok.1 h
  rw [← Except.ok.inj h]
  exact ⟨rfl, rfl⟩

theorem applyOptionalMissionStatusFields_keeps {args : Value} {mission patched : MissionRecord}
    (h : applyOptionalMissionStatusFields args mission = .ok patched) :
    patched.uid = mission.uid ∧ patched.topicId = mission.topicId := by
  unfold applyOptionalMissionStatusFields at h
  split at h
  all_goals
    obtain ⟨missionStatus, -, h⟩ := bind_eq_ok.1 h
    obtain ⟨missionPriority, -, h⟩ := bind_eq_ok.1 h
    rw [← Except.ok.inj h]
    exact ⟨rfl, rfl⟩

theorem applyMissionMetadataFields_keeps {args : Value} {mission patched : MissionRecord}
    (h : applyMissionMetadataFields args mission = .ok patched) :
    patched.uid = mission.uid ∧ patched.topicId = mission.topicId := by
  obtain ⟨keywords, -, h⟩ := bind_eq_ok.1 h
  obtain ⟨feeds, -, h⟩ := bind_eq_ok.1 h
  obtain ⟨roles, hroles, h⟩ := bind_eq_ok.1 h
  obtain ⟨status, hstatus, h⟩ := bind_eq_ok.1 h
  obtain ⟨huid, htopic⟩ := applyOptionalRoleFields_keeps hroles
  obtain ⟨huid', htopic'⟩ := applyOptionalMissionStatusFields_keeps hstatus
  rw [← Except.ok.inj h]
  exact ⟨huid'.trans huid, htopic'.trans htopic⟩

theorem upsertMissionFromArgs_spec (args : Value) :
    Spec drawn (upsertMissionFromArgs args) core₀ (Proc.Outcome clean MissionEdit core₀) := by
  unfold upsertMissionFromArgs
  refine Spec.drawUnless fun uid hid => ?_
  have trimmed : trim uid = uid := by
    rcases hid with hid | ⟨-, -, u, rfl⟩
    · exact (optionalText_trimmed hid).1
    · exact trim_simple u
  refine Proc.Spec.guarded fun _ => ?_
  refine Spec.clock fun now => ?_
  refine Spec.read ?_
  refine Proc.Spec.checked fun named hnamed => ?_
  refine Proc.Spec.checked fun mission hmission => ?_
  refine Proc.Spec.checked fun _ _ => ?_
  refine Spec.write ?_
  obtain ⟨huid, htopic⟩ := applyMissionIdentityFields_keeps hnamed
  obtain ⟨huid', htopic'⟩ := applyMissionMetadataFields_keeps hmission
  refine Proc.Spec.done (.single ?_)
  cases hget : core₀.missions.get uid with
  | none =>
    rw [hget] at huid htopic
    refine .create _ _ (huid'.trans huid) trimmed fun topic ht => ?_
    have ht : named.topicId = some topic := htopic'.symm.trans ht
    rcases htopic with hnone | known
    · rw [hnone] at ht
      cases ht
    · exact known topic ht
  | some old =>
    rw [hget] at huid htopic
    refine .patch _ old _ hget (huid'.trans huid) ?_
    change mission.topicId = old.topicId ∨ TopicKnown core₀ mission.topicId
    rw [htopic']
    exact htopic

theorem patchMissionFromArgs_spec (args : Value) :
    Spec drawn (patchMissionFromArgs args) core₀ (Proc.Outcome clean MissionEdit core₀) := by
  unfold patchMissionFromArgs
  refine Proc.Spec.checked fun missionUid _ => ?_
  refine Spec.read ?_
  refine Proc.Spec.guarded fun _ => ?_
  exact upsertMissionFromArgs_spec _

omit [Host] in
theorem modifyMission_spec (missionUid : String) (f : Int → MissionRecord → MissionRecord)
    (uid : ∀ now mission, (f now mission).uid = mission.uid)
    (topic : ∀ now mission, (f now mission).topicId = mission.topicId) :
    Spec drawn (modifyMission missionUid f) core₀ (Proc.Outcome clean MissionEdit core₀) := by
  unfold modifyMission
  refine Spec.read ?_
  refine Proc.Spec.required fun mission stored => ?_
  refine Spec.clock fun now => ?_
  refine Spec.write ?_
  exact Proc.Spec.done (.single (.patch _ mission _ stored (uid _ _) (.inl (topic _ _))))

omit [Host] in
/-- A mission that is there is found again. -/
theorem touchMission_spec (missionUid : String) (f : Int → MissionRecord → MissionRecord)
    (uid : ∀ now mission, (f now mission).uid = mission.uid)
    (topic : ∀ now mission, (f now mission).topicId = mission.topicId) {mission : MissionRecord}
    (stored : core₀.missions.get missionUid = some mission) :
    Spec drawn (modifyMission missionUid f) core₀ (Proc.Finishes clean MissionEdit core₀) := by
  unfold modifyMission
  refine Spec.read ?_
  refine Proc.Spec.found stored ?_
  refine Spec.clock fun now => ?_
  refine Spec.write ?_
  exact Proc.Spec.pure (.ok (.single (.patch _ mission _ stored (uid _ _) (.inl (topic _ _)))) trivial)

theorem deleteMissionFromArgs_spec (args : Value) :
    Spec drawn (deleteMissionFromArgs args) core₀ (Proc.Outcome clean MissionEdit core₀) := by
  unfold deleteMissionFromArgs
  refine Proc.Spec.checked fun missionUid _ => ?_
  exact modifyMission_spec _ _ (fun _ _ => rfl) fun _ _ => rfl

theorem setMissionParentFromArgs_spec (args : Value) :
    Spec drawn (setMissionParentFromArgs args) core₀ (Proc.Outcome clean MissionEdit core₀) := by
  unfold setMissionParentFromArgs
  refine Proc.Spec.checked fun missionUid _ => ?_
  refine Spec.read ?_
  refine Proc.Spec.guarded fun _ => ?_
  refine Spec.read ?_
  refine Proc.Spec.checked fun _ _ => ?_
  exact modifyMission_spec _ _ (fun _ _ => rfl) fun _ _ => rfl

omit [Host] in
/-- A write that leaves the missions alone, then the time stamp of its mission. -/
theorem linkThenTouch_spec {missionUid : String} {mission : MissionRecord} {f : RchCore → RchCore}
    (stored : core₀.missions.get missionUid = some mission) (edit : MissionEdit core₀ (f core₀))
    (frame : (f core₀).missions = core₀.missions) :
    Spec drawn (do
      update f
      modifyMission missionUid fun now mission => { mission with updatedTsMs := now }) core₀
      (Proc.Outcome clean MissionEdit core₀) := by
  have stored' : (f core₀).missions.get missionUid = some mission := by
    rw [frame]
    exact stored
  have touch : Spec drawn
      (modifyMission missionUid fun now mission => { mission with updatedTsMs := now }) (f core₀)
      (Proc.Finishes clean MissionEdit (f core₀)) :=
    touchMission_spec _ _ (fun _ _ => rfl) (fun _ _ => rfl) stored'
  exact Spec.write (.conclude (.single edit) touch)

omit [Host] in
theorem linkMissionZone_spec (missionUid zoneId : String) :
    Spec drawn (linkMissionZone missionUid zoneId) core₀ (Proc.Outcome clean MissionEdit core₀) := by
  unfold linkMissionZone
  refine Spec.read ?_
  refine Proc.Spec.required fun mission stored => ?_
  refine Spec.read ?_
  refine Proc.Spec.guarded fun hzone => ?_
  refine linkThenTouch_spec stored (.linkZone _ _ (Dict.contains_iff.2 ⟨_, stored⟩) ?_) rfl
  simpa using hzone

omit [Host] in
theorem unlinkMissionZone_spec (missionUid zoneId : String) :
    Spec drawn (unlinkMissionZone missionUid zoneId) core₀
      (Proc.Outcome clean MissionEdit core₀) := by
  unfold unlinkMissionZone
  refine Spec.read ?_
  refine Proc.Spec.required fun mission stored => ?_
  exact linkThenTouch_spec stored (.unlinkZone _) rfl

omit [Host] in
theorem linkMissionMarker_spec (missionUid markerRef : String) (trimmed : trim markerRef = markerRef) :
    Spec drawn (linkMissionMarker missionUid markerRef) core₀
      (Proc.Outcome clean MissionEdit core₀) := by
  unfold linkMissionMarker
  refine Spec.read ?_
  refine Proc.Spec.checked fun _ hmarker => ?_
  refine Spec.read ?_
  refine Proc.Spec.required fun mission stored => ?_
  refine linkThenTouch_spec stored (.linkMarker _ _ (Dict.contains_iff.2 ⟨_, stored⟩) ?_) rfl
  exact ensureMarkerExists_known trimmed hmarker

omit [Host] in
theorem unlinkMissionMarker_spec (missionUid markerRef : String) :
    Spec drawn (unlinkMissionMarker missionUid markerRef) core₀
      (Proc.Outcome clean MissionEdit core₀) := by
  unfold unlinkMissionMarker
  refine Spec.read ?_
  refine Proc.Spec.required fun mission stored => ?_
  exact linkThenTouch_spec stored (.unlinkMarker _) rfl

theorem setMissionRde_spec (missionUid role : String) :
    Spec drawn (setMissionRde missionUid role) core₀ (Proc.Outcome clean MissionEdit core₀) := by
  unfold setMissionRde
  refine Proc.Spec.checked fun role _ => ?_
  exact .finish (modifyMission_spec _ _ (fun _ _ => rfl) fun _ _ => rfl) fun _ _ _ => .finished

theorem applyRegistryMissionMarkerCommand_spec (command : MissionCommandEnvelope) :
    Spec drawn (applyRegistryMissionMarkerCommand command) core₀
      (Proc.Outcome clean MissionEdit core₀) := by
  unfold applyRegistryMissionMarkerCommand
  refine Proc.Spec.checked fun missionUid _ => ?_
  refine Proc.Spec.checked fun markerRef hmarker => ?_
  have trimmed := (requiredText_trimmed hmarker).1
  split
  · exact .finish (linkMissionMarker_spec _ _ trimmed) fun _ _ _ => Spec.read .finished
  · exact .finish (unlinkMissionMarker_spec _ _) fun _ _ _ => Spec.read .finished
  · exact .failed

theorem applyRegistryMissionCommand_spec (command : MissionCommandEnvelope) :
    Spec drawn (applyRegistryMissionCommand command) core₀
      (Proc.Outcome clean MissionEdit core₀) := by
  unfold applyRegistryMissionCommand
  split
  · exact .finish (upsertMissionFromArgs_spec _) fun _ _ _ => Spec.read .finished
  · refine Proc.Spec.checked fun missionUid _ => ?_
    refine Spec.read ?_
    refine Proc.Spec.required fun mission _ => ?_
    exact Spec.read .answer
  · exact Spec.read .answer
  · exact .finish (patchMissionFromArgs_spec _) fun _ _ _ => Spec.read .finished
  · exact .finish (deleteMissionFromArgs_spec _) fun _ _ _ => Spec.read .finished
  · exact .finish (setMissionParentFromArgs_spec _) fun _ _ _ => Spec.read .finished
  · refine Proc.Spec.checked fun missionUid _ => ?_
    refine Proc.Spec.checked fun zoneId _ => ?_
    exact .finish (linkMissionZone_spec _ _) fun _ _ _ => Spec.read .finished
  · refine Proc.Spec.checked fun missionUid _ => ?_
    refine Proc.Spec.checked fun zoneId _ => ?_
    exact .finish (unlinkMissionZone_spec _ _) fun _ _ _ => Spec.read .finished
  · exact applyRegistryMissionMarkerCommand_spec _
  · exact applyRegistryMissionMarkerCommand_spec _
  · refine Proc.Spec.checked fun missionUid _ => ?_
    refine Proc.Spec.checked fun role _ => ?_
    exact .finish (setMissionRde_spec _ _) fun _ _ _ => .finished
  · exact .failed

end
end TelemetryHub
