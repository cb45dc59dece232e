import TelemetryHub.Core.Logic
import TelemetryHub.Core.Normal
import TelemetryHub.Core.Logs

/-!
# What the log commands write

A log entry without a mission goes to a default mission, which is there before
the rest of the arguments is checked.
-/

namespace TelemetryHub

open Lib CoreM

/-- The checks of `upsert_log_entry_from_args` that follow the default mission. -/
def LogEntryAccepted [Host] (core : RchCore) (args : Value) : Prop :=
  let current := (optionalText args ["entry_uid", "uid"]).bind core.logEntries.get
  ∃ content hashes keywords serverTime,
    (optionalText args ["content"]).or (current.map LogEntryRecord.content) = some content ∧
      contentHashesFromArgs core args current = .ok hashes ∧
      logKeywordsFromArgs args content current = .ok keywords ∧
      optionalTimestampMs args ["server_time", "servertime"] = .ok serverTime

/-- The arguments name a mission, the default mission is there, or the entry is
accepted. -/
def LogEntryChecks [Host] (core : RchCore) (args : Value) : Prop :=
  (optionalText args ["mission_uid", "mission_id"]).isSome = true ∨
    core.missions.contains "mission-default" = true ∨ LogEntryAccepted core args

/-- One write of a log command. -/
inductive LogEdit (core : RchCore) : RchCore → Prop
  | defaultMission (mission : MissionRecord) (key : mission.uid = "mission-default")
      (topic : mission.topicId = none) (absent : core.missions.contains "mission-default" = false) :
      LogEdit core { core with missions := core.missions.insert "mission-default" mission }
  | change (uid : String) (record : MissionChangeRecord) (key : record.uid = uid)
      (mission : core.missions.contains record.missionUid = true) :
      LogEdit core { core with missionChanges := core.missionChanges.insert uid record }
  | entry (entryUid : String) (record : LogEntryRecord) (key : record.entryUid = entryUid)
      (mission : core.missions.contains record.missionUid = true) :
      LogEdit core { core with logEntries := core.logEntries.insert entryUid record }

section

variable [Host] {drawn : String → Prop} {clean : Prop} {core₀ : RchCore}

theorem upsertMissionChangeFromArgs_spec (args : Value) :
    Spec drawn (upsertMissionChangeFromArgs args) core₀ (Proc.Outcome clean LogEdit core₀) := by
  unfold upsertMissionChangeFromArgs
  refine Spec.drawUnless fun uid _ => ?_
  refine Proc.Spec.checked fun missionUid _ => ?_
  refine Spec.read ?_
  refine Proc.Spec.guarded fun hmission => ?_
  refine Proc.Spec.checked fun hashes _ => ?_
  refine Proc.Spec.checked fun _ _ => ?_
  refine Proc.Spec.checked fun timestamp _ => ?_
  refine Spec.reading ?_ fun timestampMs => ?_
  · unfold timestampOr
    split
    · exact Proc.Spec.pure ⟨rfl, _, rfl⟩
    · exact Spec.clockValue
  refine Proc.Spec.checked fun changeType _ => ?_
  refine Proc.Spec.guarded fun _ => ?_
  refine Spec.write ?_
  refine Proc.Spec.done (.single (.change _ _ rfl ?_))
  simpa using hmission

omit [Host] in
theorem ensureDefaultLogMission_spec :
    Spec drawn ensureDefaultLogMission core₀
      (Proc.Yields clean LogEdit (fun _ core' => core'.missions.contains "mission-default" = true ∧
        core'.logEntries = core₀.logEntries ∧ core'.markers = core₀.markers ∧
        (core₀.missions.contains "mission-default" = true → core' = core₀)) core₀) := by
  unfold ensureDefaultLogMission
  refine Spec.read ?_
  refine Proc.Spec.ite (fun habsent => ?_) fun hpresent => ?_
  · have habsent : core₀.missions.contains "mission-default" = false := by simpa using habsent
    refine Spec.clock fun now => ?_
    refine Spec.lastWrite (.ok (.single (.defaultMission _ rfl rfl habsent)) ?_)
    refine ⟨Dict.contains_insert.2 (.inl rfl), rfl, rfl, fun hpresent => ?_⟩
    rw [habsent] at hpresent
    cases hpresent
  · refine Proc.Spec.yield .refl ⟨?_, rfl, rfl, fun _ => rfl⟩
    simpa using hpresent

/-- The mission of an entry; only an entry without one may have written. -/
theorem resolveLogMissionUid_spec (args : Value) :
    Spec drawn (resolveLogMissionUid args) core₀
      (Proc.Yields clean LogEdit (fun uid core' => core'.missions.contains uid = true ∧
        core'.logEntries = core₀.logEntries ∧ core'.markers = core₀.markers ∧
        ((optionalText args ["mission_uid", "mission_id"]).isSome = true ∨
          core₀.missions.contains "mission-default" = true → core' = core₀)) core₀) := by
  unfold resolveLogMissionUid
  split
  · refine Spec.read ?_
    refine Proc.Spec.guarded fun hmission => ?_
    refine Proc.Spec.yield .refl ⟨?_, rfl, rfl, fun _ => rfl⟩
    simpa using hmission
  · rename_i hnone
    refine Proc.Spec.follow ensureDefaultLogMission_spec fun _ core' hsteps h => ?_
    obtain ⟨hdefault, hentries, hmarkers, hsame⟩ := h
    refine Proc.Spec.yield hsteps ⟨hdefault, hentries, hmarkers, ?_⟩
    rintro (hsome | hpresent)
    · rw [hnone] at hsome
      cases hsome
    · exact hsame hpresent

theorem recordAutoLogChange_spec (entry : LogEntryRecord)
    (mission : core₀.missions.contains entry.missionUid = true) :
    Spec drawn (recordAutoLogChange entry) core₀ (Proc.Finishes clean LogEdit core₀) := by
  unfold recordAutoLogChange
  refine Spec.draw fun changeUid _ => ?_
  refine Spec.clock fun timestampMs => ?_
  refine Spec.clockText fun emittedAt => ?_
  exact Spec.lastWrite (.ok (.single (.change _ _ rfl mission)) trivial)

omit [Host] in
/-- The hashes of an entry are looked up among the markers only. -/
theorem ensureMarkersExist_markers {core core' : RchCore} (h : core'.markers = core.markers)
    (markerRefs : List String) : ensureMarkersExist core' markerRefs = ensureMarkersExist core markerRefs := by
  unfold ensureMarkersExist ensureMarkerExists
  rw [h]

theorem contentHashesFromArgs_markers {core core' : RchCore} (h : core'.markers = core.markers)
    (args : Value) (current : Option LogEntryRecord) :
    contentHashesFromArgs core' args current = contentHashesFromArgs core args current := by
  unfold contentHashesFromArgs
  simp only [ensureMarkersExist_markers h]

theorem upsertLogEntryFromArgs_spec (command : MissionCommandEnvelope) (args : Value)
    (fresh : clean → ∀ uid, drawn uid → core₀.logEntries.get uid = none)
    (checks : clean → LogEntryChecks core₀ args) :
    Spec drawn (upsertLogEntryFromArgs command args) core₀ (Proc.Outcome clean LogEdit core₀) := by
  unfold upsertLogEntryFromArgs
  refine Spec.drawUnless fun entryUid hid => ?_
  refine Proc.Spec.follow (resolveLogMissionUid_spec args) fun missionUid core' hsteps h => ?_
  obtain ⟨hmission, hentries, hmarkers, hsame⟩ := h
  refine Spec.read ?_
  rw [hentries]
  -- where a later check fails, no default mission has been set up
  have unwritten : clean → (¬LogEntryAccepted core₀ args) → core' = core₀ := by
    intro hclean hrejected
    rcases checks hclean with hnamed | hpresent | haccepted
    · exact hsame (.inl hnamed)
    · exact hsame (.inr hpresent)
    · exact absurd haccepted hrejected
  have current : clean → core₀.logEntries.get entryUid =
      (optionalText args ["entry_uid", "uid"]).bind core₀.logEntries.get := by
    intro hclean
    rcases hid with hid | ⟨hid, hdrawn, -⟩
    · rw [hid]
      rfl
    · rw [hid]
      exact fresh hclean _ hdrawn
  refine Proc.Spec.require (fun content hcontent => ?_) fun he => .late hsteps fun hclean => ?_
  · refine Spec.clock fun now => ?_
    rw [contentHashesFromArgs_markers hmarkers]
    refine Proc.Spec.check (fun hashes _ => ?_) fun e he => .late hsteps fun hclean => ?_
    · refine Proc.Spec.check (fun keywords _ => ?_) fun e he => .late hsteps fun hclean => ?_
      · refine Proc.Spec.check (fun serverTime _ => ?_) fun e he => .late hsteps fun hclean => ?_
        · refine Spec.write ?_
          refine .conclude (.tail hsteps (.entry _ _ rfl hmission)) ?_
          exact .andThen (recordAutoLogChange_spec _ hmission) fun _ _ _ _ => .finished
        · refine unwritten hclean fun ⟨_, _, _, _, _, _, _, htime⟩ => ?_
          rw [he] at htime
          cases htime
      · refine unwritten hclean fun ⟨content', _, _, _, hcontent', _, hkeywords, _⟩ => ?_
        rw [← current hclean] at hcontent' hkeywords
        obtain rfl := Option.some.inj (hcontent.symm.trans hcontent')
        rw [he] at hkeywords
        cases hkeywords
    · refine unwritten hclean fun ⟨_, _, _, _, _, hhashes, _, _⟩ => ?_
      rw [← current hclean, he] at hhashes
      cases hhashes
  · refine unwritten hclean fun ⟨_, _, _, _, hcontent, _, _, _⟩ => ?_
    rw [← current hclean, he] at hcontent
    cases hcontent

theorem applyRegistryLogCommand_spec (command : MissionCommandEnvelope)
    (fresh : clean → ∀ uid, drawn uid → core₀.logEntries.get uid = none)
    (checks : clean → command.commandType = "mission.registry.log_entry.upsert" →
      LogEntryChecks core₀ command.args) :
    Spec drawn (applyRegistryLogCommand command) core₀ (Proc.Outcome clean LogEdit core₀) := by
  unfold applyRegistryLogCommand
  split
  · exact .finish (upsertMissionChangeFromArgs_spec _) fun _ _ _ => .finished
  · exact Spec.read .answer
  · rename_i htype
    refine .finish (upsertLogEntryFromArgs_spec command _ fresh ?_) fun _ _ _ => .finished
    exact fun hclean => checks hclean htype
  · exact Spec.read .answer
  · exact .failed

end
end TelemetryHub
