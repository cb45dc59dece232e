import TelemetryHub.Edits.Journal

/-!
# What the asset, skill and assignment commands write

Every record names others that are there when it is written. The commands on
assets and assignments end with mission changes.
-/

namespace TelemetryHub

open Lib CoreM

/-- The mission of every assignment is there. -/
def AssignmentsHaveMissions (core : RchCore) : Prop :=
  ∀ uid assignment, core.assignments.get uid = some assignment →
    core.missions.contains assignment.missionUid = true

/-- The core without the asset and what refers to it. -/
def RchCore.withoutAsset (core : RchCore) (assetUid : String) : RchCore :=
  { core with
    assets := core.assets.remove assetUid
    assignmentAssetLinks := core.assignmentAssetLinks.retain fun link => link.2 != assetUid
    assignments := core.assignments.mapValues fun assignment =>
      { assignment with assets := assignment.assets.filter fun item => item != assetUid } }

/-- One write of an asset, skill or assignment command. -/
inductive AssetEdit (core : RchCore) : RchCore → Prop
  | create (assetUid : String) (asset : AssetRecord) (key : asset.assetUid = assetUid)
      (member : ∀ uid, asset.teamMemberUid = some uid → core.teamMembers.contains uid = true) :
      AssetEdit core { core with assets := core.assets.insert assetUid asset }
  | patch (assetUid : String) (old asset : AssetRecord) (stored : core.assets.get assetUid = some old)
      (key : asset.assetUid = old.assetUid)
      (member : ∀ uid, asset.teamMemberUid = some uid →
        old.teamMemberUid = some uid ∨ core.teamMembers.contains uid = true) :
      AssetEdit core { core with assets := core.assets.insert assetUid asset }
  | delete (assetUid : String) : AssetEdit core (core.withoutAsset assetUid)
  | createSkill (skillUid : String) (skill : SkillRecord) (key : skill.skillUid = skillUid) :
      AssetEdit core { core with skills := core.skills.insert skillUid skill }
  | patchSkill (skillUid : String) (old skill : SkillRecord)
      (stored : core.skills.get skillUid = some old) (key : skill.skillUid = old.skillUid) :
      AssetEdit core { core with skills := core.skills.insert skillUid skill }
  | memberSkill (record : TeamMemberSkillRecord) (key : String)
      (keyed : key = record.teamMemberRnsIdentity ++ ":" ++ record.skillUid)
      (skill : core.skills.contains record.skillUid = true) :
      AssetEdit core { core with teamMemberSkills := core.teamMemberSkills.insert key record }
  | requirement (record : TaskSkillRequirementRecord) (key : String)
      (keyed : key = record.taskUid ++ ":" ++ record.skillUid)
      (task : core.checklistTasks.contains record.taskUid = true)
      (skill : core.skills.contains record.skillUid = true) :
      AssetEdit core
        { core with taskSkillRequirements := core.taskSkillRequirements.insert key record }
  | assign (assignmentUid : String) (assignment : AssignmentRecord)
      (key : assignment.assignmentUid = assignmentUid)
      (mission : core.missions.contains assignment.missionUid = true)
      (task : core.checklistTasks.contains assignment.taskUid = true) :
      AssetEdit core (storeAssignment assignment assignmentUid core)
  | equip (assignmentUid : String) (old : AssignmentRecord) (assets : List String)
      (stored : core.assignments.get assignmentUid = some old) :
      AssetEdit core (storeAssignment { old with assets } assignmentUid core)
  | journal {core' : RchCore} (entry : JournalEdit core core') : AssetEdit core core'

section

variable [Host] {drawn : String → Prop} {clean : Prop} {core₀ : RchCore}

theorem recordedMissionChange_spec (command : MissionCommandEnvelope) (change : MissionChangeRecord) :
    Spec drawn (recordMissionChange command change) core₀ (Proc.Finishes clean AssetEdit core₀) :=
  (recordMissionChange_spec command change).mono fun _ _ h => h.mono fun _ _ => .journal

/-! ## Assets -/

theorem assetMemberFromArgs_known {core : RchCore} {args : Value} {current teamMemberUid : Option String}
    (h : assetMemberFromArgs core args current = .ok teamMemberUid) {uid : String}
    (huid : teamMemberUid = some uid) : current = some uid ∨ core.teamMembers.contains uid = true := by
  unfold assetMemberFromArgs at h
  split at h
  · rw [← Except.ok.inj h] at huid
    exact .inl huid
  · split at h
    · rw [← Except.ok.inj h] at huid
      cases huid
    · split at h
      · rw [← Except.ok.inj h] at huid
        rw [← Option.some.inj huid]
        exact .inr ‹_›
      · cases h

theorem upsertAssetFromArgs_spec (args : Value) :
    Spec drawn (upsertAssetFromArgs args) core₀ (Proc.Outcome clean AssetEdit core₀) := by
  unfold upsertAssetFromArgs
  refine Spec.drawUnless fun assetUid _ => ?_
  refine Spec.clock fun now => ?_
  refine Spec.read ?_
  refine Proc.Spec.checked fun teamMemberUid hmember => ?_
  refine Proc.Spec.checked fun status _ => ?_
  refine Spec.write (Proc.Spec.done (.single ?_))
  cases hget : core₀.assets.get assetUid with
  | none =>
    rw [hget] at hmember
    refine .create _ _ rfl fun uid huid => ?_
    rcases assetMemberFromArgs_known hmember huid with hnone | hknown
    · cases hnone
    · exact hknown
  | some old =>
    rw [hget] at hmember
    exact .patch _ old _ hget rfl fun uid huid => assetMemberFromArgs_known hmember huid

theorem emitAutoAssetMissionChanges_spec (command : MissionCommandEnvelope) (missionUids : List String)
    (sourceEventType changeType : String) (asset : AssetRecord) :
    Spec drawn (emitAutoAssetMissionChanges command missionUids sourceEventType changeType asset) core₀
      (Proc.Finishes clean AssetEdit core₀) := by
  unfold emitAutoAssetMissionChanges
  refine Proc.Spec.forM_finishes fun missionUid _ core' _ => ?_
  unfold emitAutoAssetMissionChange
  refine Spec.read ?_
  refine Proc.Spec.ite (fun _ => ?_) fun _ => .finished
  refine Spec.clock fun now => ?_
  refine Spec.draw fun uid _ => ?_
  exact recordedMissionChange_spec command _

omit [Host] in
theorem deleteAsset_spec (assetUid : String) :
    Spec drawn (deleteAsset assetUid) core₀ (Proc.Outcome clean AssetEdit core₀) := by
  unfold deleteAsset
  refine Spec.read ?_
  refine Proc.Spec.required fun asset _ => ?_
  exact Spec.write (Proc.Spec.done (.single (.delete _)))

theorem applyRegistryAssetCommand_spec (command : MissionCommandEnvelope) :
    Spec drawn (applyRegistryAssetCommand command) core₀ (Proc.Outcome clean AssetEdit core₀) := by
  unfold applyRegistryAssetCommand
  split
  · refine Spec.read ?_
    refine .finish (upsertAssetFromArgs_spec _) fun asset _ _ => ?_
    refine Spec.read ?_
    exact .andThen (emitAutoAssetMissionChanges_spec _ _ _ _ _) fun _ _ _ _ => .finished
  · refine Proc.Spec.checked fun assetUid _ => ?_
    refine Spec.read ?_
    exact Proc.Spec.required fun asset _ => .answer
  · exact Spec.read .answer
  · refine Proc.Spec.checked fun assetUid _ => ?_
    refine Spec.read ?_
    refine Proc.Spec.required fun asset _ => ?_
    refine Spec.read ?_
    refine .finish (deleteAsset_spec _) fun asset _ _ => ?_
    exact .andThen (emitAutoAssetMissionChanges_spec _ _ _ _ _) fun _ _ _ _ => .finished
  · exact .failed

/-! ## Skills -/

theorem upsertSkillFromArgs_spec (args : Value) :
    Spec drawn (upsertSkillFromArgs args) core₀ (Proc.Outcome clean AssetEdit core₀) := by
  unfold upsertSkillFromArgs
  refine Spec.drawUnless fun skillUid _ => ?_
  refine Spec.clock fun now => ?_
  refine Spec.read ?_
  refine Spec.write (Proc.Spec.done (.single ?_))
  cases hget : core₀.skills.get skillUid with
  | none => exact .createSkill _ _ rfl
  | some old => exact .patchSkill _ old _ hget rfl

theorem upsertTeamMemberSkillFromArgs_spec (args : Value) :
    Spec drawn (upsertTeamMemberSkillFromArgs args) core₀ (Proc.Outcome clean AssetEdit core₀) := by
  unfold upsertTeamMemberSkillFromArgs
  refine Proc.Spec.checked fun identity _ => ?_
  refine Spec.read ?_
  refine Proc.Spec.checked fun _ _ => ?_
  refine Proc.Spec.checked fun skillUid _ => ?_
  refine Proc.Spec.guarded fun hskill => ?_
  refine Proc.Spec.checked fun level _ => ?_
  refine Spec.drawUnless fun uid _ => ?_
  refine Proc.Spec.checked fun level _ => ?_
  refine Spec.write (Proc.Spec.done (.single (.memberSkill _ _ rfl ?_)))
  simpa using hskill

omit [Host] in
theorem ensureTaskExists_known {core : RchCore} {taskUid : String}
    (h : ensureTaskExists core taskUid = .ok ()) : core.checklistTasks.contains taskUid = true := by
  unfold ensureTaskExists at h
  split at h
  · assumption
  · cases h

theorem upsertTaskSkillRequirementFromArgs_spec (args : Value) :
    Spec drawn (upsertTaskSkillRequirementFromArgs args) core₀
      (Proc.Outcome clean AssetEdit core₀) := by
  unfold upsertTaskSkillRequirementFromArgs
  refine Proc.Spec.checked fun taskUid _ => ?_
  refine Proc.Spec.checked fun skillUid _ => ?_
  refine Spec.read ?_
  refine Proc.Spec.checked fun _ htask => ?_
  refine Proc.Spec.guarded fun hskill => ?_
  refine Proc.Spec.checked fun minimumLevel _ => ?_
  refine Spec.drawUnless fun uid _ => ?_
  refine Proc.Spec.checked fun minimumLevel _ => ?_
  refine Spec.write (Proc.Spec.done (.single ?_))
  refine .requirement _ _ rfl (ensureTaskExists_known htask) ?_
  simpa using hskill

theorem applyRegistrySkillCommand_spec (command : MissionCommandEnvelope) :
    Spec drawn (applyRegistrySkillCommand command) core₀ (Proc.Outcome clean AssetEdit core₀) := by
  unfold applyRegistrySkillCommand
  split
  · exact .finish (upsertSkillFromArgs_spec _) fun _ _ _ => .finished
  · exact Spec.read .answer
  · exact .finish (upsertTeamMemberSkillFromArgs_spec _) fun _ _ _ => .finished
  · exact Spec.read .answer
  · exact .finish (upsertTaskSkillRequirementFromArgs_spec _) fun _ _ _ => .finished
  · exact Spec.read .answer
  · exact .failed

/-! ## Assignments -/

/-- The assignment that a command returns has its mission, where all had theirs. -/
def KnownMission (clean : Prop) (assignment : AssignmentRecord) (core : RchCore) : Prop :=
  clean → core.missions.contains assignment.missionUid = true

theorem upsertAssignmentFromArgs_spec (args : Value) :
    Spec drawn (upsertAssignmentFromArgs args) core₀
      (Proc.Yields clean AssetEdit (KnownMission clean) core₀) := by
  unfold upsertAssignmentFromArgs
  refine Spec.drawUnless fun assignmentUid _ => ?_
  refine Spec.read ?_
  refine Proc.Spec.required fun missionUid _ => ?_
  refine Proc.Spec.required fun taskUid _ => ?_
  refine Proc.Spec.required fun member _ => ?_
  refine Proc.Spec.guarded fun hmission => ?_
  refine Proc.Spec.checked fun _ htask => ?_
  refine Proc.Spec.checked fun _ _ => ?_
  refine Proc.Spec.checked fun assets _ => ?_
  refine Spec.clock fun now => ?_
  refine Proc.Spec.checked fun assignedAt _ => ?_
  refine Proc.Spec.checked fun status _ => ?_
  have mission : core₀.missions.contains missionUid = true := by simpa using hmission
  refine Spec.write (Proc.Spec.yield (.single ?_) fun _ => mission)
  exact .assign _ _ rfl mission (ensureTaskExists_known htask)

omit [Host] in
theorem modifyAssignmentAssets_spec (assignmentUid : String) (f : List String → List String)
    (missions : clean → AssignmentsHaveMissions core₀) :
    Spec drawn (modifyAssignmentAssets assignmentUid f) core₀
      (Proc.Yields clean AssetEdit (KnownMission clean) core₀) := by
  unfold modifyAssignmentAssets
  refine Spec.read ?_
  refine Proc.Spec.required fun assignment stored => ?_
  refine Spec.write (Proc.Spec.yield (.single (.equip _ assignment _ stored)) fun hclean => ?_)
  exact missions hclean _ assignment stored

omit [Host] in
theorem setAssignmentAssets_spec (assignmentUid : String) (assets : List String)
    (missions : clean → AssignmentsHaveMissions core₀) :
    Spec drawn (setAssignmentAssets assignmentUid assets) core₀
      (Proc.Yields clean AssetEdit (KnownMission clean) core₀) := by
  unfold setAssignmentAssets
  refine Spec.read ?_
  exact Proc.Spec.checked fun assets _ => modifyAssignmentAssets_spec _ _ missions

omit [Host] in
theorem linkAssignmentAsset_spec (assignmentUid assetUid : String)
    (missions : clean → AssignmentsHaveMissions core₀) :
    Spec drawn (linkAssignmentAsset assignmentUid assetUid) core₀
      (Proc.Yields clean AssetEdit (KnownMission clean) core₀) := by
  unfold linkAssignmentAsset
  refine Proc.Spec.checked fun assetUid _ => ?_
  refine Spec.read ?_
  exact Proc.Spec.checked fun _ _ => modifyAssignmentAssets_spec _ _ missions

omit [Host] in
theorem unlinkAssignmentAsset_spec (assignmentUid assetUid : String)
    (missions : clean → AssignmentsHaveMissions core₀) :
    Spec drawn (unlinkAssignmentAsset assignmentUid assetUid) core₀
      (Proc.Yields clean AssetEdit (KnownMission clean) core₀) := by
  unfold unlinkAssignmentAsset
  exact Proc.Spec.checked fun assetUid _ => modifyAssignmentAssets_spec _ _ missions

theorem emitAutoAssignmentMissionChange_spec (command : MissionCommandEnvelope)
    (assignment : AssignmentRecord) (sourceEventType op changeType : String)
    (assetUid : Option String) (known : KnownMission clean assignment core₀) :
    Spec drawn (emitAutoAssignmentMissionChange command assignment sourceEventType op changeType assetUid)
      core₀ (Proc.Finishes clean AssetEdit core₀) := by
  unfold emitAutoAssignmentMissionChange
  refine Spec.read ?_
  refine Proc.Spec.ite (fun hmissing => ?_) fun _ => ?_
  · refine Proc.Spec.throw (.excluded .refl fun hclean => ?_)
    rw [known hclean] at hmissing
    cases hmissing
  · refine Spec.clock fun now => ?_
    refine Spec.draw fun uid _ => ?_
    exact recordedMissionChange_spec command _

theorem applyRegistryAssignmentCommand_spec (command : MissionCommandEnvelope)
    (missions : clean → AssignmentsHaveMissions core₀) :
    Spec drawn (applyRegistryAssignmentCommand command) core₀
      (Proc.Outcome clean AssetEdit core₀) := by
  unfold applyRegistryAssignmentCommand
  dsimp only
  have announced : ∀ (assignment : AssignmentRecord) (core' : RchCore)
      (sourceEventType op changeType eventType : String) (assetUid : Option String),
      KnownMission clean assignment core' → Spec drawn (do
        emitAutoAssignmentMissionChange command assignment sourceEventType op changeType assetUid
        return event eventType command ((← core).assignmentValue assignment)) core'
        (Proc.Finishes clean AssetEdit core') := by
    intro assignment core' sourceEventType op changeType eventType assetUid hknown
    refine .andThen (emitAutoAssignmentMissionChange_spec _ _ _ _ _ _ hknown) fun _ _ _ _ => ?_
    exact Spec.read .finished
  split
  · exact .complete (upsertAssignmentFromArgs_spec _) fun _ _ _ h => announced _ _ _ _ _ _ _ h
  · exact Spec.read .answer
  · refine Proc.Spec.checked fun assignmentUid _ => ?_
    refine Proc.Spec.checked fun assets _ => ?_
    exact .complete (setAssignmentAssets_spec _ _ missions) fun _ _ _ h => announced _ _ _ _ _ _ _ h
  · refine Proc.Spec.checked fun assignmentUid _ => ?_
    refine Proc.Spec.checked fun assetUid _ => ?_
    exact .complete (linkAssignmentAsset_spec _ _ missions) fun _ _ _ h => announced _ _ _ _ _ _ _ h
  · refine Proc.Spec.checked fun assignmentUid _ => ?_
    refine Proc.Spec.checked fun assetUid _ => ?_
    exact .complete (unlinkAssignmentAsset_spec _ _ missions) fun _ _ _ h => announced _ _ _ _ _ _ _ h
  · exact .failed

end
end TelemetryHub
