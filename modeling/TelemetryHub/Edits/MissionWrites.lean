import TelemetryHub.Edits.Missions
import TelemetryHub.Edits.Logs

/-!
# The status and the parent of a written mission

Each write to the missions puts one record. Its status is that of the record before or is
read from the arguments; a parent that is not the one before has been checked.
-/

namespace TelemetryHub

open Lib CoreM

/-- The values of `normalize_mission_status`. -/
def missionStatuses : List String :=
  ["MISSION_ACTIVE", "MISSION_PENDING", "MISSION_DELETED", "MISSION_COMPLETED_SUCCESS", "MISSION_COMPLETED_FAILED"]

/-- Where a status comes from: the vocabulary, the record before, or blank text. -/
inductive StatusFrom (blank : Prop) (old : Option MissionRecord) (status : String) : Prop
  | member (known : status ∈ missionStatuses)
  | before (mission : MissionRecord) (stored : old = some mission) (same : status = mission.missionStatus)
  | blank (given : blank) (empty : status = "")

/-- One write of a command that may give a blank status. -/
inductive MissionWrite (blank : Prop) (core : RchCore) : RchCore → Prop
  | put (uid : String) (mission : MissionRecord)
      (status : StatusFrom blank (core.missions.get uid) mission.missionStatus)
      (parent : mission.parentUid = (core.missions.get uid).bind MissionRecord.parentUid ∨
        ensureParentChainAcyclic core uid mission.parentUid = .ok ()) :
      MissionWrite blank core { core with missions := core.missions.insert uid mission }
  | other (core' : RchCore) (same : core'.missions = core.missions) : MissionWrite blank core core'

section

variable [Host] {drawn : String → Prop} {blank : Prop} {core₀ : RchCore}

/-- The arguments give a mission status, and its text is blank. -/
def BlankMissionStatus (args : Value) : Prop :=
  ∃ text, (args.get "mission_status").bind valueAsStr = some text ∧ (trim text).isEmpty = true

theorem missionStatus_of_args {args : Value} {status : String}
    (h : normalizeMissionStatus ((args.get "mission_status").bind valueAsStr) = .ok status) :
    status ∈ missionStatuses ∨ BlankMissionStatus args ∧ status = "" := by
  refine (normalizeEnum_member h).imp_right fun ⟨empty, unset⟩ => ⟨?_, unset⟩
  cases given : (args.get "mission_status").bind valueAsStr with
  | none =>
    rw [given] at empty
    exact absurd empty (by decide)
  | some text =>
    rw [given] at empty
    exact ⟨text, given, empty⟩

theorem applyOptionalMissionStatusFields_status {args : Value} {mission patched : MissionRecord}
    (h : applyOptionalMissionStatusFields args mission = .ok patched) :
    (patched.missionStatus = mission.missionStatus ∨ patched.missionStatus ∈ missionStatuses ∨
      BlankMissionStatus args ∧ patched.missionStatus = "") ∧ patched.parentUid = mission.parentUid := by
  unfold applyOptionalMissionStatusFields at h
  split at h
  · obtain ⟨missionStatus, status, h⟩ := bind_eq_ok.1 h
    obtain ⟨missionPriority, -, h⟩ := bind_eq_ok.1 h
    rw [← Except.ok.inj h]
    exact ⟨.inr (missionStatus_of_args status), rfl⟩
  · obtain ⟨missionStatus, status, h⟩ := bind_eq_ok.1 h
    obtain ⟨missionPriority, -, h⟩ := bind_eq_ok.1 h
    rw [← Except.ok.inj h]
    exact ⟨.inl (Except.ok.inj status).symm, rfl⟩

theorem applyMissionMetadataFields_status {args : Value} {mission patched : MissionRecord}
    (h : applyMissionMetadataFields args mission = .ok patched) :
    (patched.missionStatus = mission.missionStatus ∨ patched.missionStatus ∈ missionStatuses ∨
      BlankMissionStatus args ∧ patched.missionStatus = "") ∧ patched.parentUid = mission.parentUid := by
  obtain ⟨keywords, -, h⟩ := bind_eq_ok.1 h
  obtain ⟨feeds, -, h⟩ := bind_eq_ok.1 h
  obtain ⟨roles, hroles, h⟩ := bind_eq_ok.1 h
  obtain ⟨status, hstatus, h⟩ := bind_eq_ok.1 h
  have read := applyOptionalMissionStatusFields_status hstatus
  have unread : roles.missionStatus = mission.missionStatus ∧ roles.parentUid = mission.parentUid := by
    obtain ⟨defaultRole, -, hroles⟩ := bind_eq_ok.1 hroles
    obtain ⟨ownerRole, -, hroles⟩ := bind_eq_ok.1 hroles
    obtain ⟨missionRdeRole, -, hroles⟩ := bind_eq_ok.1 hroles
    rw [← Except.ok.inj hroles]
    exact ⟨rfl, rfl⟩
  rw [← Except.ok.inj h]
  rw [unread.1, unread.2] at read
  exact read

theorem applyMissionIdentityFields_status {core : RchCore} {args : Value} {mission patched : MissionRecord}
    (h : applyMissionIdentityFields core args mission = .ok patched) : patched.missionStatus = mission.missionStatus := by
  unfold applyMissionIdentityFields at h
  dsimp only at h
  split at h
  · obtain ⟨_, h, -⟩ := bind_eq_ok.1 h
    exact nomatch h
  · obtain ⟨topicId, -, h⟩ := bind_eq_ok.1 h
    rw [← Except.ok.inj h]

theorem upsertMissionFromArgs_writes (args : Value) (given : BlankMissionStatus args → blank) :
    Spec drawn (upsertMissionFromArgs args) core₀ (Proc.Outcome False (MissionWrite blank) core₀) := by
  unfold upsertMissionFromArgs
  refine Spec.drawUnless fun uid _ => ?_
  refine Proc.Spec.guarded fun _ => ?_
  refine Spec.clock fun now => ?_
  refine Spec.read ?_
  refine Proc.Spec.checked fun named hnamed => ?_
  refine Proc.Spec.checked fun mission hmission => ?_
  refine Proc.Spec.checked fun _ accepted => ?_
  refine Spec.write ?_
  refine Proc.Spec.done (.single (.put _ _ ?_ (.inr accepted)))
  have identity := applyMissionIdentityFields_status hnamed
  rcases (applyMissionMetadataFields_status hmission).1 with same | member | ⟨empty, unset⟩
  · rw [identity] at same
    cases stored : core₀.missions.get uid with
    | none =>
      rw [stored] at same
      refine .member ?_
      rw [same]
      exact List.mem_cons_self
    | some old =>
      rw [stored] at same
      exact .before old rfl same
  · exact .member member
  · exact .blank (given empty) unset

/-- The arguments of a patch: those under its key, or its own. -/
def patchArgs (args : Value) : Value := ((args.get "patch").filter Value.isObject).getD args

omit [Host] in
theorem lookup_replace_ne {fields : List (String × Value)} {key other : String} (apart : other ≠ key) (item : Value) :
    (fields.map fun field => if field.1 == key then (key, item) else field).lookup other = fields.lookup other := by
  induction fields with
  | nil => rfl
  | cons field fields ih =>
    obtain ⟨name, value⟩ := field
    rw [List.map_cons, List.lookup_cons]
    rw [List.lookup_cons]
    by_cases here : name = key
    · subst here
      have other' : (other == name) = false := beq_eq_false_iff_ne.2 apart
      rw [if_pos (beq_self_eq_true _)]
      dsimp only
      rw [other', ih]
    · rw [if_neg (by simpa using here), ih]

omit [Host] in
theorem Value.get_insert_ne {args : Value} {key other : String} (apart : other ≠ key) (item : Value) :
    (args.insert key item).get other = args.get other := by
  cases args with
  | object fields =>
    show List.lookup other (if _ then _ else _) = List.lookup other fields
    split
    · exact lookup_replace_ne apart item
    · have other' : (other == key) = false := beq_eq_false_iff_ne.2 apart
      rw [List.lookup_append, List.lookup_cons, other', List.lookup_nil, Option.or_none]
  | _ => rfl

theorem patchMissionFromArgs_writes (args : Value) (given : BlankMissionStatus (patchArgs args) → blank) :
    Spec drawn (patchMissionFromArgs args) core₀ (Proc.Outcome False (MissionWrite blank) core₀) := by
  unfold patchMissionFromArgs
  refine Proc.Spec.checked fun missionUid _ => ?_
  refine Spec.read ?_
  refine Proc.Spec.guarded fun _ => ?_
  refine upsertMissionFromArgs_writes _ fun ⟨text, read, empty⟩ => given ⟨text, ?_, empty⟩
  rw [Value.get_insert_ne (by decide)] at read
  exact read

omit [Host] in
/-- A change that leaves the parent alone and does not make up a status. -/
theorem modifyMission_writes (missionUid : String) (f : Int → MissionRecord → MissionRecord)
    (status : ∀ now mission, (f now mission).missionStatus = mission.missionStatus ∨
      (f now mission).missionStatus ∈ missionStatuses)
    (parent : ∀ now mission, (f now mission).parentUid = mission.parentUid ∨
      ensureParentChainAcyclic core₀ missionUid (f now mission).parentUid = .ok ()) :
    Spec drawn (modifyMission missionUid f) core₀ (Proc.Outcome False (MissionWrite blank) core₀) := by
  unfold modifyMission
  refine Spec.read ?_
  refine Proc.Spec.required fun mission stored => ?_
  refine Spec.clock fun now => ?_
  refine Spec.write ?_
  refine Proc.Spec.done (.single (.put _ _ ?_ ?_))
  · exact (status now mission).elim (.before mission stored) .member
  · refine (parent now mission).imp_left fun same => ?_
    rw [same, stored]
    rfl

omit [Host] in
/-- The time stamp of a mission, set. -/
theorem touchMission_writes (missionUid : String) :
    Spec drawn (modifyMission missionUid fun now mission => { mission with updatedTsMs := now }) core₀
      (Proc.Outcome False (MissionWrite blank) core₀) :=
  modifyMission_writes _ _ (fun _ _ => .inl rfl) fun _ _ => .inl rfl

omit [Host] in
/-- A write beside the missions, then the time stamp of one. -/
theorem linkThenTouch_writes {missionUid : String} {f : RchCore → RchCore} (frame : (f core₀).missions = core₀.missions) :
    Spec drawn (do
      update f
      modifyMission missionUid fun now mission => { mission with updatedTsMs := now }) core₀
      (Proc.Outcome False (MissionWrite blank) core₀) := by
  have touched : Spec drawn (modifyMission missionUid fun now mission => { mission with updatedTsMs := now }) (f core₀)
      (Proc.Outcome False (MissionWrite blank) (f core₀)) := touchMission_writes missionUid
  refine Spec.write (touched.mono fun r core' h => ?_)
  exact ⟨.head (.other _ frame) h.steps, False.elim, fun _ _ => trivial⟩

theorem setMissionParentFromArgs_writes (args : Value) :
    Spec drawn (setMissionParentFromArgs args) core₀ (Proc.Outcome False (MissionWrite blank) core₀) := by
  unfold setMissionParentFromArgs
  refine Proc.Spec.checked fun missionUid _ => ?_
  refine Spec.read ?_
  refine Proc.Spec.guarded fun _ => ?_
  refine Spec.read ?_
  refine Proc.Spec.checked fun _ accepted => ?_
  exact modifyMission_writes _ _ (fun _ _ => .inl rfl) fun _ _ => .inr accepted

omit [Host] in
theorem linkMissionZone_writes (missionUid zoneId : String) :
    Spec drawn (linkMissionZone missionUid zoneId) core₀ (Proc.Outcome False (MissionWrite blank) core₀) := by
  unfold linkMissionZone
  refine Spec.read (Proc.Spec.required fun mission _ => ?_)
  refine Spec.read (Proc.Spec.guarded fun _ => ?_)
  exact linkThenTouch_writes rfl

omit [Host] in
theorem unlinkMissionZone_writes (missionUid zoneId : String) :
    Spec drawn (unlinkMissionZone missionUid zoneId) core₀ (Proc.Outcome False (MissionWrite blank) core₀) := by
  unfold unlinkMissionZone
  exact Spec.read (Proc.Spec.required fun mission _ => linkThenTouch_writes rfl)

omit [Host] in
theorem linkMissionMarker_writes (missionUid markerRef : String) :
    Spec drawn (linkMissionMarker missionUid markerRef) core₀ (Proc.Outcome False (MissionWrite blank) core₀) := by
  unfold linkMissionMarker
  refine Spec.read (Proc.Spec.checked fun _ _ => ?_)
  exact Spec.read (Proc.Spec.required fun mission _ => linkThenTouch_writes rfl)

omit [Host] in
theorem unlinkMissionMarker_writes (missionUid markerRef : String) :
    Spec drawn (unlinkMissionMarker missionUid markerRef) core₀ (Proc.Outcome False (MissionWrite blank) core₀) := by
  unfold unlinkMissionMarker
  exact Spec.read (Proc.Spec.required fun mission _ => linkThenTouch_writes rfl)

theorem applyRegistryMissionMarkerCommand_writes (command : MissionCommandEnvelope) :
    Spec drawn (applyRegistryMissionMarkerCommand command) core₀ (Proc.Outcome False (MissionWrite blank) core₀) := by
  unfold applyRegistryMissionMarkerCommand
  refine Proc.Spec.checked fun missionUid _ => ?_
  refine Proc.Spec.checked fun markerRef _ => ?_
  split
  · exact .finish (linkMissionMarker_writes _ _) fun _ _ _ => Spec.read .finished
  · exact .finish (unlinkMissionMarker_writes _ _) fun _ _ _ => Spec.read .finished
  · exact .failed

/-- The command puts a mission whose status is given as blank text. -/
def GivesBlankMissionStatus (command : MissionCommandEnvelope) : Prop :=
  command.commandType = "mission.registry.mission.upsert" ∧ BlankMissionStatus command.args ∨
    command.commandType = "mission.registry.mission.patch" ∧ BlankMissionStatus (patchArgs command.args)

theorem applyRegistryMissionCommand_writes (command : MissionCommandEnvelope) :
    Spec drawn (applyRegistryMissionCommand command) core₀
      (Proc.Outcome False (MissionWrite (GivesBlankMissionStatus command)) core₀) := by
  unfold applyRegistryMissionCommand
  split
  · rename_i upsert
    refine .finish (upsertMissionFromArgs_writes _ fun given => .inl ⟨upsert, given⟩) fun _ _ _ => ?_
    exact Spec.read .finished
  · refine Proc.Spec.checked fun missionUid _ => ?_
    refine Spec.read (Proc.Spec.required fun mission _ => ?_)
    exact Spec.read .answer
  · exact Spec.read .answer
  · rename_i patch
    refine .finish (patchMissionFromArgs_writes _ fun given => .inr ⟨patch, given⟩) fun _ _ _ => ?_
    exact Spec.read .finished
  · have deleted : Spec drawn (deleteMissionFromArgs command.args) core₀
        (Proc.Outcome False (MissionWrite (GivesBlankMissionStatus command)) core₀) := by
      unfold deleteMissionFromArgs
      refine Proc.Spec.checked fun missionUid _ => ?_
      have known : "MISSION_DELETED" ∈ missionStatuses := by decide
      exact modifyMission_writes _ _ (fun _ _ => .inr known) fun _ _ => .inl rfl
    exact .finish deleted fun _ _ _ => Spec.read .finished
  · exact .finish (setMissionParentFromArgs_writes _) fun _ _ _ => Spec.read .finished
  · refine Proc.Spec.checked fun missionUid _ => Proc.Spec.checked fun zoneId _ => ?_
    exact .finish (linkMissionZone_writes _ _) fun _ _ _ => Spec.read .finished
  · refine Proc.Spec.checked fun missionUid _ => Proc.Spec.checked fun zoneId _ => ?_
    exact .finish (unlinkMissionZone_writes _ _) fun _ _ _ => Spec.read .finished
  · exact applyRegistryMissionMarkerCommand_writes _
  · exact applyRegistryMissionMarkerCommand_writes _
  · refine Proc.Spec.checked fun missionUid _ => Proc.Spec.checked fun role _ => ?_
    have rde : Spec drawn (setMissionRde missionUid role) core₀
        (Proc.Outcome False (MissionWrite (GivesBlankMissionStatus command)) core₀) := by
      unfold setMissionRde
      refine Proc.Spec.checked fun role _ => .finish ?_ fun _ _ _ => .finished
      exact modifyMission_writes _ _ (fun _ _ => .inl rfl) fun _ _ => .inl rfl
    exact .finish rde fun _ _ _ => .finished
  · exact .failed

/-! ## The default mission of the log -/

omit [Host] in
theorem ensureDefaultLogMission_writes :
    Spec drawn ensureDefaultLogMission core₀ (Proc.Outcome False (MissionWrite blank) core₀) := by
  unfold ensureDefaultLogMission
  refine Spec.read (Proc.Spec.ite (fun absent => ?_) fun _ => Proc.Spec.done .refl)
  have absent : core₀.missions.get "mission-default" = none := by
    rw [← Dict.contains_eq_false]
    simpa using absent
  have known : "MISSION_ACTIVE" ∈ missionStatuses := by decide
  refine Spec.clock fun now => Spec.lastWrite (.ok (.single (.put _ _ (.member known) (.inl ?_))) trivial)
  rw [absent]
  rfl

theorem upsertLogEntryFromArgs_writes (command : MissionCommandEnvelope) (args : Value) :
    Spec drawn (upsertLogEntryFromArgs command args) core₀ (Proc.Outcome False (MissionWrite blank) core₀) := by
  have resolved : Spec drawn (resolveLogMissionUid args) core₀ (Proc.Outcome False (MissionWrite blank) core₀) := by
    unfold resolveLogMissionUid
    split
    · exact Spec.read (Proc.Spec.guarded fun _ => .answer)
    · exact .finish ensureDefaultLogMission_writes fun _ _ _ => .finished
  have logged : ∀ (entry : LogEntryRecord) {core₁}, Spec drawn (recordAutoLogChange entry) core₁
      (Proc.Finishes False (MissionWrite blank) core₁) := by
    intro entry core₁
    unfold recordAutoLogChange
    refine Spec.draw fun changeUid _ => Spec.clock fun timestampMs => Spec.clockText fun emittedAt => ?_
    exact Spec.lastWrite (.ok (.single (.other _ rfl)) trivial)
  unfold upsertLogEntryFromArgs
  refine Spec.drawUnless fun entryUid _ => ?_
  refine Proc.Spec.follow resolved fun missionUid core' steps _ => ?_
  refine Spec.read (Proc.Spec.require (fun content _ => ?_) fun _ => .late steps False.elim)
  refine Spec.clock fun now => ?_
  refine Proc.Spec.check (fun hashes _ => ?_) fun _ _ => .late steps False.elim
  refine Proc.Spec.check (fun keywords _ => ?_) fun _ _ => .late steps False.elim
  refine Proc.Spec.check (fun serverTime _ => ?_) fun _ _ => .late steps False.elim
  refine Spec.write (.conclude (.tail steps (.other _ rfl)) ?_)
  exact .andThen (logged _) fun _ _ _ _ => .finished

theorem upsertMissionChangeFromArgs_writes (args : Value) :
    Spec drawn (upsertMissionChangeFromArgs args) core₀ (Proc.Outcome False (MissionWrite blank) core₀) := by
  unfold upsertMissionChangeFromArgs
  refine Spec.drawUnless fun uid _ => Proc.Spec.checked fun missionUid _ => ?_
  refine Spec.read (Proc.Spec.guarded fun _ => ?_)
  refine Proc.Spec.checked fun hashes _ => Proc.Spec.checked fun _ _ => Proc.Spec.checked fun timestamp _ => ?_
  refine Spec.reading ?_ fun timestampMs => ?_
  · unfold timestampOr
    split
    · exact Proc.Spec.pure ⟨rfl, _, rfl⟩
    · exact Spec.clockValue
  refine Proc.Spec.checked fun changeType _ => Proc.Spec.guarded fun _ => ?_
  exact Spec.write (Proc.Spec.done (.single (.other _ rfl)))

theorem applyRegistryLogCommand_writes (command : MissionCommandEnvelope) :
    Spec drawn (applyRegistryLogCommand command) core₀ (Proc.Outcome False (MissionWrite blank) core₀) := by
  unfold applyRegistryLogCommand
  split
  · exact .finish (upsertMissionChangeFromArgs_writes _) fun _ _ _ => .finished
  · exact Spec.read .answer
  · exact .finish (upsertLogEntryFromArgs_writes command _) fun _ _ _ => .finished
  · exact Spec.read .answer
  · exact .failed

end
end TelemetryHub
