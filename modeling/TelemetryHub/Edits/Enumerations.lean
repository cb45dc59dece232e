import TelemetryHub.Core.Vocabularies
import TelemetryHub.Edits.Logs
import TelemetryHub.Edits.Eam
import TelemetryHub.Edits.Teams
import TelemetryHub.Edits.Assets

/-!
# The enumerated fields of the records

The fields outside the missions and the checklists. A command keeps each of them in its
vocabulary, but for the change type of a mission change that is given as blank text.
-/

namespace TelemetryHub

open Lib CoreM

/-- The statuses of a report are in their vocabulary. -/
structure EamSnapshotRecord.Known (eam : EamSnapshotRecord) : Prop where
  overall : eam.overallStatus ∈ eamStatuses
  security : eam.securityStatus ∈ eamStatuses
  capability : eam.capabilityStatus ∈ eamStatuses
  preparedness : eam.preparednessStatus ∈ eamStatuses
  medical : eam.medicalStatus ∈ eamStatuses
  mobility : eam.mobilityStatus ∈ eamStatuses
  comms : eam.commsStatus ∈ eamStatuses

/-- The status of an asset is in its vocabulary; its type is any text that is not empty. -/
structure AssetRecord.Known (asset : AssetRecord) : Prop where
  status : asset.status ∈ assetStatuses
  type : asset.assetType.isEmpty = false

/-- The enumerated fields are in their vocabularies, and a team may be without colour. -/
structure RecordsKnown (core : RchCore) : Prop where
  changes : core.missionChanges.All fun change => change.changeType ∈ missionChangeTypes
  teams : core.teams.All fun team => ∀ color, team.color = some color → color ∈ teamColors
  assets : core.assets.All AssetRecord.Known
  assignments : core.assignments.All fun assignment => assignment.status ∈ taskStatuses
  eams : core.eamSnapshots.All EamSnapshotRecord.Known

def RecordsKept (core core' : RchCore) : Prop := RecordsKnown core → RecordsKnown core'

/-- Wherever it starts, the method keeps the fields in their vocabularies. -/
abbrev Records {α : Type} (m : CoreM α) : Prop := Proc.Moves (coreWith fun _ => True) RecordsKept m

namespace Records

variable {α β : Type} {m : CoreM α} {core₀ : RchCore}

theorem read {k : RchCore → CoreM α} (hk : ∀ core, Records (k core)) : Records (core >>= k) :=
  fun core₀ => Spec.read (hk core₀ core₀)

theorem clock {k : Int → CoreM α} (hk : ∀ now, Records (k now)) : Records (utcNowMs >>= k) :=
  fun core₀ => Spec.clock fun now => hk now core₀

theorem draw {k : String → CoreM α} (hk : ∀ uid, Records (k uid)) : Records (newUuid >>= k) :=
  fun core₀ => Spec.draw fun uid _ => hk uid.simple core₀

theorem drawUnless {value : Option String} {k : String → CoreM α} (hk : ∀ uid, Records (k uid)) :
    Records (orNewUuid value >>= k) :=
  fun core₀ => Spec.drawUnless fun uid _ => hk uid core₀

/-- A write where the method is, and what follows it. -/
theorem writeAt {f : RchCore → RchCore} {k : Unit → CoreM α} (kept : RecordsKept core₀ (f core₀)) (hk : Records (k ())) :
    Spec (fun _ => True) (update f >>= k) core₀ (Proc.Outcome False RecordsKept core₀) :=
  Spec.write (Proc.Moves.behind (.single kept) (hk _))

theorem write {f : RchCore → RchCore} {k : Unit → CoreM α} (kept : ∀ core, RecordsKept core (f core)) (hk : Records (k ())) :
    Records (update f >>= k) :=
  fun core₀ => writeAt (kept core₀) hk

theorem lastWrite {f : RchCore → RchCore} (kept : ∀ core, RecordsKept core (f core)) : Records (update f) :=
  fun core₀ => Spec.lastWrite ⟨.single (kept core₀), False.elim, fun _ _ => trivial⟩

/-- A method that only reads, and what follows it. -/
theorem reading {m : CoreM β} {k : β → CoreM α}
    (hm : ∀ core₀, Spec (fun _ => True) m core₀ fun r core' => core' = core₀ ∧ ∃ b, r = .ok b) (hk : ∀ b, Records (k b)) :
    Records (m >>= k) :=
  fun core₀ => Spec.reading (hm core₀) fun b => hk b core₀

end Records

/-- What the fields are kept by where no table with them changes. -/
theorem RecordsKnown.of_same {core core' : RchCore} (known : RecordsKnown core)
    (changes : core'.missionChanges = core.missionChanges) (teams : core'.teams = core.teams) (assets : core'.assets = core.assets)
    (assignments : core'.assignments = core.assignments) (eams : core'.eamSnapshots = core.eamSnapshots) : RecordsKnown core' where
  changes := changes ▸ known.changes
  teams := teams ▸ known.teams
  assets := assets ▸ known.assets
  assignments := assignments ▸ known.assignments
  eams := eams ▸ known.eams

section

variable [Host]

/-! ## The journal -/

omit [Host] in
theorem recordAuditEvent_records (command : MissionCommandEnvelope) (event : EventEnvelope) :
    Records (recordAuditEvent command event) := by
  unfold recordAuditEvent
  exact Records.draw fun _ => Records.clock fun _ => Records.lastWrite fun _ known => { known with }

theorem recordMissionChange_records (command : MissionCommandEnvelope) {change : MissionChangeRecord}
    (type : change.changeType ∈ missionChangeTypes) : Records (recordMissionChange command change) := by
  unfold recordMissionChange
  refine Records.write (fun core known => ?_) (recordAuditEvent_records _ _)
  exact { known with changes := known.changes.insert type }

/-! ## Assets -/

theorem assetStatus_known {args : Value} {current status : String} (read : assetStatusFromArgs args current = .ok status)
    (before : current ∈ assetStatuses) : status ∈ assetStatuses := by
  unfold assetStatusFromArgs at read
  split at read
  · rename_i text given
    obtain ⟨trimmed, nonempty⟩ := optionalText_trimmed given
    exact normalizeEnum_known read (by rw [trimmed, nonempty])
  · exact Except.ok.inj read ▸ before

theorem optionalText_nonempty {args : Value} {keys : List String} {default : String} (nonempty : default.isEmpty = false) :
    ((optionalText args keys).getD default).isEmpty = false := by
  cases given : optionalText args keys with
  | none => exact nonempty
  | some text => exact (optionalText_trimmed given).2

theorem upsertAssetFromArgs_records (args : Value) : Records (upsertAssetFromArgs args) := by
  unfold upsertAssetFromArgs
  refine Records.drawUnless fun assetUid => Records.clock fun now => fun core₀ => Spec.read ?_
  refine Proc.Spec.checked fun teamMemberUid _ => Proc.Spec.checked fun status read => ?_
  refine Records.writeAt (fun known => ?_) (.pure _)
  cases stored : core₀.assets.get assetUid with
  | none =>
    rw [stored] at read
    exact { known with assets := known.assets.insert ⟨assetStatus_known read List.mem_cons_self, optionalText_nonempty rfl⟩ }
  | some old =>
    rw [stored] at read
    obtain ⟨status', type⟩ := known.assets assetUid old stored
    exact { known with assets := known.assets.insert ⟨assetStatus_known read status', optionalText_nonempty type⟩ }

omit [Host] in
theorem deleteAsset_records (assetUid : String) : Records (deleteAsset assetUid) := by
  unfold deleteAsset
  refine Records.read fun core => .required fun asset _ => Records.write (fun core known => ?_) (.pure _)
  exact { known with
    assets := known.assets.remove assetUid
    assignments := known.assignments.mapValues fun _ status => status }

theorem emitAutoAssetMissionChanges_records (command : MissionCommandEnvelope) (missionUids : List String)
    (sourceEventType : String) {changeType : String} (asset : AssetRecord) (type : changeType ∈ missionChangeTypes) :
    Records (emitAutoAssetMissionChanges command missionUids sourceEventType changeType asset) := by
  unfold emitAutoAssetMissionChanges
  refine .forM fun missionUid _ => ?_
  unfold emitAutoAssetMissionChange
  refine Records.read fun core => .ite (fun _ => ?_) fun _ => .pure _
  exact Records.clock fun now => Records.draw fun uid => recordMissionChange_records command type

omit [Host] in
/-- What the hub writes of its own accord. -/
theorem contentTypes_known : "ADD_CONTENT" ∈ missionChangeTypes ∧ "REMOVE_CONTENT" ∈ missionChangeTypes := by decide

theorem applyRegistryAssetCommand_records (command : MissionCommandEnvelope) : Records (applyRegistryAssetCommand command) := by
  obtain ⟨adds, removes⟩ := contentTypes_known
  unfold applyRegistryAssetCommand
  split
  · refine Records.read fun _ => .bind (upsertAssetFromArgs_records _) fun _ => Records.read fun _ => ?_
    exact .bind (emitAutoAssetMissionChanges_records _ _ _ _ adds) fun _ => .pure _
  · exact .checked fun _ _ => Records.read fun _ => .required fun _ _ => .pure _
  · exact Records.read fun _ => .pure _
  · refine .checked fun _ _ => Records.read fun _ => .required fun _ _ => Records.read fun _ => ?_
    refine .bind (deleteAsset_records _) fun _ => ?_
    exact .bind (emitAutoAssetMissionChanges_records _ _ _ _ removes) fun _ => .pure _
  · exact .throw _

/-! ## Skills -/

theorem applyRegistrySkillCommand_records (command : MissionCommandEnvelope) : Records (applyRegistrySkillCommand command) := by
  unfold applyRegistrySkillCommand
  split
  · refine .bind ?_ fun _ => .pure _
    unfold upsertSkillFromArgs
    refine Records.drawUnless fun _ => Records.clock fun _ => Records.read fun _ => ?_
    exact Records.write (fun _ known => { known with }) (.pure _)
  · exact Records.read fun _ => .pure _
  · refine .bind ?_ fun _ => .pure _
    unfold upsertTeamMemberSkillFromArgs
    refine .checked fun _ _ => Records.read fun _ => .checked fun _ _ => .checked fun _ _ => .guard fun _ => ?_
    refine .checked fun _ _ => Records.drawUnless fun _ => .checked fun _ _ => ?_
    exact Records.write (fun _ known => { known with }) (.pure _)
  · exact Records.read fun _ => .pure _
  · refine .bind ?_ fun _ => .pure _
    unfold upsertTaskSkillRequirementFromArgs
    refine .checked fun _ _ => .checked fun _ _ => Records.read fun _ => .checked fun _ _ => .guard fun _ => ?_
    refine .checked fun _ _ => Records.drawUnless fun _ => .checked fun _ _ => ?_
    exact Records.write (fun _ known => { known with }) (.pure _)
  · exact Records.read fun _ => .pure _
  · exact .throw _

/-! ## Assignments -/

omit [Host] in
theorem RecordsKnown.storeAssignment {core : RchCore} (known : RecordsKnown core) {assignment : AssignmentRecord}
    (status : assignment.status ∈ taskStatuses) (assignmentUid : String) :
    RecordsKnown (storeAssignment assignment assignmentUid core) :=
  { known with assignments := known.assignments.insert status }

theorem assignmentStatus_known {args : Value} {current : Option AssignmentRecord} {status : String}
    (read : assignmentStatusFromArgs args current = .ok status)
    (before : ∀ assignment, current = some assignment → assignment.status ∈ taskStatuses) : status ∈ taskStatuses := by
  have pending : "PENDING" ∈ taskStatuses := by decide
  unfold assignmentStatusFromArgs at read
  split at read
  · rename_i text given
    obtain ⟨trimmed, nonempty⟩ := optionalText_trimmed given
    exact normalizeEnum_known read (by rw [trimmed, nonempty])
  · cases current with
    | none => exact Except.ok.inj read ▸ pending
    | some assignment => exact Except.ok.inj read ▸ before assignment rfl

theorem upsertAssignmentFromArgs_records (args : Value) : Records (upsertAssignmentFromArgs args) := by
  unfold upsertAssignmentFromArgs
  refine Records.drawUnless fun assignmentUid => fun core₀ => Spec.read ?_
  refine Proc.Spec.required fun _ _ => Proc.Spec.required fun _ _ => Proc.Spec.required fun _ _ => ?_
  refine Proc.Spec.guarded fun _ => Proc.Spec.checked fun _ _ => Proc.Spec.checked fun _ _ => ?_
  refine Proc.Spec.checked fun _ _ => Spec.clock fun _ => Proc.Spec.checked fun _ _ => ?_
  refine Proc.Spec.checked fun status read => ?_
  refine Records.writeAt (fun known => known.storeAssignment ?_ _) (.pure _)
  exact assignmentStatus_known read fun assignment stored => known.assignments assignmentUid assignment stored

omit [Host] in
theorem modifyAssignmentAssets_records (assignmentUid : String) (f : List String → List String) :
    Records (modifyAssignmentAssets assignmentUid f) := by
  unfold modifyAssignmentAssets
  refine fun core₀ => Spec.read (Proc.Spec.required fun assignment stored => ?_)
  refine Records.writeAt (fun known => ?_) (.pure _)
  exact { known with assignments := known.assignments.insert (known.assignments assignmentUid assignment stored) }

theorem emitAutoAssignmentMissionChange_records (command : MissionCommandEnvelope) (assignment : AssignmentRecord)
    (sourceEventType op : String) {changeType : String} (assetUid : Option String) (type : changeType ∈ missionChangeTypes) :
    Records (emitAutoAssignmentMissionChange command assignment sourceEventType op changeType assetUid) := by
  unfold emitAutoAssignmentMissionChange
  refine Records.read fun core => .guard fun _ => ?_
  exact Records.clock fun now => Records.draw fun uid => recordMissionChange_records command type

theorem applyRegistryAssignmentCommand_records (command : MissionCommandEnvelope) :
    Records (applyRegistryAssignmentCommand command) := by
  obtain ⟨adds, removes⟩ := contentTypes_known
  unfold applyRegistryAssignmentCommand
  dsimp only
  have announced : ∀ (assignment : AssignmentRecord) (sourceEventType op eventType : String) {changeType : String}
      (assetUid : Option String), changeType ∈ missionChangeTypes → Records (do
        emitAutoAssignmentMissionChange command assignment sourceEventType op changeType assetUid
        return event eventType command ((← core).assignmentValue assignment)) := by
    intro assignment sourceEventType op eventType changeType assetUid type
    exact .bind (emitAutoAssignmentMissionChange_records _ _ _ _ _ type) fun _ => Records.read fun _ => .pure _
  split
  · exact .bind (upsertAssignmentFromArgs_records _) fun _ => announced _ _ _ _ _ adds
  · exact Records.read fun _ => .pure _
  · refine .checked fun _ _ => .checked fun _ _ => .bind ?_ fun _ => announced _ _ _ _ _ adds
    unfold setAssignmentAssets
    exact Records.read fun _ => .checked fun _ _ => modifyAssignmentAssets_records _ _
  · refine .checked fun _ _ => .checked fun _ _ => .bind ?_ fun _ => announced _ _ _ _ _ adds
    unfold linkAssignmentAsset
    exact .checked fun _ _ => Records.read fun _ => .checked fun _ _ => modifyAssignmentAssets_records _ _
  · refine .checked fun _ _ => .checked fun _ _ => .bind ?_ fun _ => announced _ _ _ _ _ removes
    unfold unlinkAssignmentAsset
    exact .checked fun _ _ => modifyAssignmentAssets_records _ _
  · exact .throw _

/-! ## Teams -/

/-- The colour of a team that has been named. -/
theorem teamNaming_known {args : Value} {team named : TeamRecord}
    (read : teamNamingFromArgs args (canonicalTeamFromTeamArgs args (optionalText args ["uid"])) team = .ok named)
    (before : ∀ color, team.color = some color → color ∈ teamColors) : ∀ color, named.color = some color → color ∈ teamColors := by
  unfold teamNamingFromArgs at read
  split at read
  · rename_i canonical
    rw [← Except.ok.inj read]
    intro color given
    exact Option.some.inj given ▸ canonicalTeamFromTeamArgs_known canonical
  · obtain ⟨color, colored, read⟩ := bind_eq_ok.1 read
    rw [← Except.ok.inj read]
    unfold teamColorFromArgs at colored
    split at colored
    · exact teamColor_known colored
    · exact Except.ok.inj colored ▸ before

omit [Host] in
theorem RecordsKnown.setTeamMissionLinks {core : RchCore} (known : RecordsKnown core) (teamUid : String)
    (missionUids : List String) : RecordsKnown (setTeamMissionLinks teamUid missionUids core) := { known with }

omit [Host] in
/-- The team that the arguments change, or a new one. -/
theorem RecordsKnown.teamBefore {core : RchCore} (known : RecordsKnown core) (uid : String) {blank : TeamRecord}
    (unset : blank.color = none) : ∀ color, ((core.teams.get uid).getD blank).color = some color → color ∈ teamColors := by
  cases stored : core.teams.get uid with
  | none =>
    rw [Option.getD_none, unset]
    exact nofun
  | some old => exact known.teams uid old stored

theorem upsertTeamFromArgs_records (args : Value) : Records (upsertTeamFromArgs args) := by
  unfold upsertTeamFromArgs
  refine Records.drawUnless fun uid => Records.clock fun now => fun core₀ => Spec.read ?_
  refine Proc.Spec.bind (setTeamMissionsFromArgs_spec uid args _) (fun team core' h => ?_) fun e core' h => ?_
  · have linked : ∃ blank : TeamRecord, blank.color = none ∧ RecordsKept core₀ core' ∧ core'.teams = core₀.teams ∧
        team.color = ((core₀.teams.get uid).getD blank).color := by
      rcases h with ⟨⟨_, failed⟩ | same, rfl⟩ | ⟨-, missionUids, -, linked, rfl⟩
      · exact nomatch failed
      · exact ⟨_, rfl, id, rfl, congrArg TeamRecord.color (Except.ok.inj same)⟩
      · have color := congrArg TeamRecord.color (Except.ok.inj linked)
        exact ⟨_, rfl, fun known => known.setTeamMissionLinks _ _, rfl, color⟩
    obtain ⟨blank, unset, kept, teams, color⟩ := linked
    refine Proc.Moves.behind (.single kept) (Proc.Spec.checked fun named read => ?_)
    refine Records.writeAt (fun known => ?_) (.pure _)
    have named_known := teamNaming_known read (by
      rw [color, ← teams]
      exact known.teamBefore uid unset)
    exact { known with teams := known.teams.insert named_known }
  · rcases h with ⟨-, rfl⟩ | ⟨-, _, -, failed, -⟩
    · exact .unchanged
    · exact nomatch failed

omit [Host] in
theorem updateTeamMissionRefs_records (teamUid : String) (missionUids : List String) :
    Records (updateTeamMissionRefs teamUid missionUids) := by
  unfold updateTeamMissionRefs
  refine fun core₀ => Spec.read (Proc.Spec.required fun team stored => Spec.clock fun now => ?_)
  refine Records.writeAt (fun known => ?_) (.pure _)
  exact { known with teams := known.teams.insert (known.teams teamUid team stored) }

theorem applyRegistryTeamCommand_records (command : MissionCommandEnvelope) : Records (applyRegistryTeamCommand command) := by
  unfold applyRegistryTeamCommand
  split
  · exact .bind (upsertTeamFromArgs_records _) fun _ => .pure _
  · exact .checked fun _ _ => Records.read fun _ => .required fun _ _ => .pure _
  · exact Records.read fun _ => .pure _
  · refine .bind ?_ fun _ => .pure _
    unfold deleteTeamFromArgs
    refine .checked fun _ _ => Records.read fun _ => .required fun _ _ => Records.read fun core => fun core₀ => ?_
    refine Proc.Spec.bind (rewriteWhere_spec _ _ _) (fun teamMembers core' h => ?_) fun e core' h => ?_
    · obtain ⟨rfl, -⟩ := h
      exact Records.writeAt (fun known => { known with teams := known.teams.remove _ }) (.pure _)
    · obtain ⟨-, _, failed, -⟩ := h
      exact nomatch failed
  · refine .bind ?_ fun _ => .pure _
    unfold linkTeamMissionFromArgs
    refine .checked fun _ _ => .checked fun _ _ => Records.read fun _ => .guard fun _ => Records.read fun _ => ?_
    exact Records.write (fun _ known => known.setTeamMissionLinks _ _) (updateTeamMissionRefs_records _ _)
  · refine .bind ?_ fun _ => .pure _
    unfold unlinkTeamMissionFromArgs
    refine .checked fun _ _ => .checked fun _ _ => Records.read fun _ => ?_
    exact Records.write (fun _ known => known.setTeamMissionLinks _ _) (updateTeamMissionRefs_records _ _)
  · exact .throw _

/-! ## Status reports -/

theorem eamStatuses_known {args : Value} {statuses : EamStatuses} (read : EamStatuses.fromArgs args = .ok statuses)
    {eam : EamSnapshotRecord} (overall : eam.overallStatus = aggregateEamStatus statuses)
    (security : eam.securityStatus = statuses.security) (capability : eam.capabilityStatus = statuses.capability)
    (preparedness : eam.preparednessStatus = statuses.preparedness) (medical : eam.medicalStatus = statuses.medical)
    (mobility : eam.mobilityStatus = statuses.mobility) (comms : eam.commsStatus = statuses.comms) : eam.Known := by
  obtain ⟨_, security', read⟩ := bind_eq_ok.1 read
  obtain ⟨_, capability', read⟩ := bind_eq_ok.1 read
  obtain ⟨_, preparedness', read⟩ := bind_eq_ok.1 read
  obtain ⟨_, medical', read⟩ := bind_eq_ok.1 read
  obtain ⟨_, mobility', read⟩ := bind_eq_ok.1 read
  obtain ⟨_, comms', read⟩ := bind_eq_ok.1 read
  obtain rfl := Except.ok.inj read
  refine ⟨overall ▸ aggregateEamStatus_known _, ?_, ?_, ?_, ?_, ?_, ?_⟩
  · exact security ▸ normalizeEamStatus_known security'
  · exact capability ▸ normalizeEamStatus_known capability'
  · exact preparedness ▸ normalizeEamStatus_known preparedness'
  · exact medical ▸ normalizeEamStatus_known medical'
  · exact mobility ▸ normalizeEamStatus_known mobility'
  · exact comms ▸ normalizeEamStatus_known comms'

omit [Host] in
theorem ensureEamTeam_records (teamUid : String) : Records (ensureEamTeam teamUid) := by
  unfold ensureEamTeam
  refine Records.read fun core => ?_
  split
  · refine .required fun color canonical => Records.clock fun now => Records.lastWrite fun core' known => ?_
    refine { known with teams := known.teams.insert fun color' given => ?_ }
    exact Option.some.inj given ▸ canonicalTeamColorForUid_known canonical
  · split
    · rename_i canonical
      refine Records.clock fun now => Records.lastWrite fun core' known => ?_
      refine { known with teams := known.teams.insert fun color' given => ?_ }
      exact Option.some.inj given ▸ canonicalTeamColorForUid_known canonical
    · exact .pure _

theorem ensureEamTeamAndMember_records (teamUid teamMemberUid callsign : String) (args : Value) :
    Records (ensureEamTeamAndMember teamUid teamMemberUid callsign args) := by
  unfold ensureEamTeamAndMember
  refine .checked fun _ _ => .bind (ensureEamTeam_records _) fun _ => ?_
  unfold ensureEamMember
  refine Records.read fun core => ?_
  split
  · exact .ite (fun _ => .throw _) fun _ => .pure _
  · exact .required fun _ _ => Records.clock fun _ => Records.lastWrite fun _ known => { known with }

theorem upsertEamFromArgs_records (args : Value) : Records (upsertEamFromArgs args) := by
  unfold upsertEamFromArgs
  refine .checked fun _ _ => .checked fun _ _ => .checked fun _ _ => .checked fun _ _ => ?_
  refine .bind (ensureEamTeamAndMember_records _ _ _ _) fun _ => Records.read fun core => .checked fun _ _ => ?_
  refine Records.drawUnless fun eamUid => .checked fun _ _ => Records.clock fun now => .checked fun statuses read => ?_
  refine .checked fun _ _ => .checked fun _ _ => .checked fun _ _ => ?_
  refine Records.write (fun core' known => ?_) (.pure _)
  exact { known with eams := known.eams.insert (eamStatuses_known read rfl rfl rfl rfl rfl rfl rfl) }

theorem applyRegistryEamCommand_records (command : MissionCommandEnvelope) : Records (applyRegistryEamCommand command) := by
  unfold applyRegistryEamCommand
  split
  · exact .bind (fun _ => eamValues_spec _ _) fun _ => .pure _
  · exact .bind (upsertEamFromArgs_records _) fun _ => .pure _
  · exact .checked fun _ _ => .bind (fun _ => (activeEamByCallsign_spec _).outcome) fun _ => .pure _
  · exact .checked fun _ _ => .bind (fun _ => latestEamByMember_spec _) fun _ => .pure _
  · refine .checked fun _ _ => .bind ?_ fun _ => .pure _
    unfold deleteEamByCallsign
    refine .bind (fun _ => (activeEamByCallsign_spec _).outcome) fun _ => fun core₀ => Spec.read ?_
    refine Proc.Spec.required fun eam stored => Spec.clock fun now => Records.writeAt (fun known => ?_) (.pure _)
    have before := known.eams _ eam stored
    exact { known with eams := known.eams.insert { before with } }
  · exact .checked fun _ _ => .bind (fun _ => eamTeamSummary_spec _) fun _ => .pure _
  · exact .throw _

/-! ## The log -/

/-- The command gives the change type of a mission change as blank text. -/
def GivesBlankChangeType (command : MissionCommandEnvelope) : Prop :=
  command.commandType = "mission.registry.mission_change.upsert" ∧
    ∃ text, (command.args.get "change_type").bind valueAsStr = some text ∧ (trim text).isEmpty = true

theorem changeType_known {args : Value} {current : Option MissionChangeRecord} {changeType : String}
    (read : changeTypeFromArgs args current = .ok changeType)
    (given : ¬∃ text, (args.get "change_type").bind valueAsStr = some text ∧ (trim text).isEmpty = true)
    (before : ∀ change, current = some change → change.changeType ∈ missionChangeTypes) : changeType ∈ missionChangeTypes := by
  unfold changeTypeFromArgs at read
  split at read
  · refine normalizeEnum_known read ?_
    cases named : (args.get "change_type").bind valueAsStr with
    | none => decide
    | some text => exact Bool.eq_false_iff.2 fun blank => given ⟨text, named, blank⟩
  · cases current with
    | none => exact Except.ok.inj read ▸ contentTypes_known.1
    | some change => exact Except.ok.inj read ▸ before change rfl

theorem upsertMissionChangeFromArgs_records (args : Value)
    (given : ¬∃ text, (args.get "change_type").bind valueAsStr = some text ∧ (trim text).isEmpty = true) :
    Records (upsertMissionChangeFromArgs args) := by
  unfold upsertMissionChangeFromArgs
  refine Records.drawUnless fun uid => .checked fun _ _ => fun core₀ => Spec.read ?_
  refine Proc.Spec.guarded fun _ => Proc.Spec.checked fun _ _ => Proc.Spec.checked fun _ _ => Proc.Spec.checked fun _ _ => ?_
  refine Spec.reading ?_ fun timestampMs => ?_
  · unfold timestampOr
    split
    · exact Proc.Spec.pure ⟨rfl, _, rfl⟩
    · exact Spec.clockValue
  refine Proc.Spec.checked fun changeType read => Proc.Spec.guarded fun _ => Records.writeAt (fun known => ?_) (.pure _)
  exact { known with changes := known.changes.insert (changeType_known read given (known.changes uid)) }

theorem upsertLogEntryFromArgs_records (command : MissionCommandEnvelope) (args : Value) :
    Records (upsertLogEntryFromArgs command args) := by
  have resolved : Records (resolveLogMissionUid args) := by
    unfold resolveLogMissionUid
    split
    · exact Records.read fun _ => .guard fun _ => .pure _
    · refine .bind ?_ fun _ => .pure _
      unfold ensureDefaultLogMission
      refine Records.read fun _ => .ite (fun _ => ?_) fun _ => .pure _
      exact Records.clock fun _ => Records.lastWrite fun _ known => { known with }
  have logged : ∀ entry, Records (recordAutoLogChange entry) := by
    intro entry
    unfold recordAutoLogChange
    refine Records.draw fun uid => Records.clock fun _ => fun core₀ => Spec.clockText fun _ => ?_
    refine Records.lastWrite (fun core known => ?_) core₀
    exact { known with changes := Dict.All.insert known.changes contentTypes_known.1 }
  unfold upsertLogEntryFromArgs
  refine Records.drawUnless fun _ => .bind resolved fun _ => Records.read fun _ => .required fun _ _ => ?_
  refine Records.clock fun _ => .checked fun _ _ => .checked fun _ _ => .checked fun _ _ => ?_
  exact Records.write (fun _ known => { known with }) (.bind (logged _) fun _ => .pure _)

theorem applyRegistryLogCommand_records (command : MissionCommandEnvelope) (given : ¬GivesBlankChangeType command) :
    Records (applyRegistryLogCommand command) := by
  unfold applyRegistryLogCommand
  split
  · rename_i type
    exact .bind (upsertMissionChangeFromArgs_records _ fun blank => given ⟨type, blank⟩) fun _ => .pure _
  · exact Records.read fun _ => .pure _
  · exact .bind (upsertLogEntryFromArgs_records _ _) fun _ => .pure _
  · exact Records.read fun _ => .pure _
  · exact .throw _

end
end TelemetryHub
