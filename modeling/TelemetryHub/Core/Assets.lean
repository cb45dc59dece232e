import TelemetryHub.Core.Teams

/-!
# Assets, skills and assignments

The commands on assets and assignments also record a mission change, with an
audit event of its own, for every mission they touch.
-/

namespace TelemetryHub

open Lib CoreM

section

variable [Host]

/-! ## Assets -/

/-- The member an asset belongs to, checked to exist when an argument names one. -/
def assetMemberFromArgs (core : RchCore) (args : Value) (current : Option String) :
    Except RchCoreError (Option String) :=
  match optionalTextOrEmpty args ["team_member_uid"] with
  | none => .ok current
  | some teamMemberUid =>
    match noneIfEmpty teamMemberUid with
    | none => .ok none
    | some uid =>
      if core.teamMembers.contains uid then .ok (some uid) else .error .teamMemberNotFound

/-- The status of an asset, checked when an argument names one. -/
def assetStatusFromArgs (args : Value) (current : String) : Except RchCoreError String :=
  match optionalText args ["status"] with
  | some status => normalizeAssetStatus status
  | none => .ok current

/-- `upsert_asset_from_args`. -/
def upsertAssetFromArgs (args : Value) : CoreM AssetRecord := do
  let assetUid ← orNewUuid (optionalText args ["asset_uid"])
  let now ← utcNowMs
  let core ← core
  let asset := (core.assets.get assetUid).getD
    { assetUid, teamMemberUid := none, name := "Asset", assetType := "generic",
      serialNumber := none, status := "AVAILABLE", location := none, notes := none,
      createdTsMs := now, updatedTsMs := now }
  let teamMemberUid ← assetMemberFromArgs core args asset.teamMemberUid
  let status ← assetStatusFromArgs args asset.status
  let asset := { asset with
    teamMemberUid, status
    name := (optionalText args ["name"]).getD asset.name
    assetType := (optionalText args ["asset_type"]).getD asset.assetType
    serialNumber := patchedText args ["serial_number"] asset.serialNumber
    location := patchedText args ["location"] asset.location
    notes := patchedText args ["notes"] asset.notes
    updatedTsMs := now }
  update fun core => { core with assets := core.assets.insert assetUid asset }
  return asset

omit [Host] in
/-- `delete_asset`. -/
def deleteAsset (assetUid : String) : CoreM AssetRecord := do
  let asset ← Proc.orThrow ((← core).assets.get assetUid) .assetNotFound
  update fun core => { core with
    assets := core.assets.remove assetUid
    assignmentAssetLinks := core.assignmentAssetLinks.retain fun link => link.2 != assetUid
    assignments := core.assignments.mapValues fun assignment =>
      { assignment with assets := assignment.assets.filter fun item => item != assetUid } }
  return asset

omit [Host] in
/-- `mission_uids_for_asset_upsert`. -/
def missionUidsForAssetUpsert (core : RchCore) (asset : AssetRecord)
    (previousTeamMemberUid : Option String) : List String :=
  dedupeNonEmpty (asset.teamMemberUid.elim [] core.missionUidsForTeamMember ++
    previousTeamMemberUid.elim [] core.missionUidsForTeamMember)

omit [Host] in
/-- `mission_uids_for_asset_delete`. -/
def missionUidsForAssetDelete (core : RchCore) (assetUid : String) (asset : AssetRecord) :
    List String :=
  let linked := core.assignmentAssetLinks.toList.filterMap fun link =>
    if link.2 == assetUid then (core.assignments.get link.1).map AssignmentRecord.missionUid else none
  let named := (core.assignments.values.filter fun assignment =>
    assignment.assets.contains assetUid).map AssignmentRecord.missionUid
  dedupeNonEmpty (asset.teamMemberUid.elim [] core.missionUidsForTeamMember ++ linked ++ named)

/-- A mission change recorded by a command, with its audit event. -/
def recordMissionChange (command : MissionCommandEnvelope) (change : MissionChangeRecord) :
    CoreM Unit := do
  update fun core => { core with missionChanges := core.missionChanges.insert change.uid change }
  recordAuditEvent command
    (event "mission.registry.mission_change.upserted" command (missionChangeValue change))

/-- One turn of `emit_auto_asset_mission_changes`. -/
def emitAutoAssetMissionChange (command : MissionCommandEnvelope)
    (sourceEventType changeType : String) (asset : AssetRecord) (missionUid : String) :
    CoreM Unit := do
  if (← core).missions.contains missionUid then
    let now ← utcNowMs
    let uid ← newUuid
    recordMissionChange command
      { uid, missionUid, name := some sourceEventType, teamMemberRnsIdentity := none,
        timestampMs := now, notes := none, changeType, isFederatedChange := false, hashes := [],
        delta := missionChangeDelta sourceEventType (millisToRfc3339 now)
          [assetMissionDelta asset sourceEventType] [] [] }

/-- `emit_auto_asset_mission_changes`. -/
def emitAutoAssetMissionChanges (command : MissionCommandEnvelope) (missionUids : List String)
    (sourceEventType changeType : String) (asset : AssetRecord) : CoreM Unit :=
  missionUids.forM (emitAutoAssetMissionChange command sourceEventType changeType asset)

/-- `apply_registry_asset_command`. -/
def applyRegistryAssetCommand (command : MissionCommandEnvelope) : CoreM EventEnvelope := do
  match command.commandType with
  | "mission.registry.asset.upsert" =>
    let core₀ ← core
    let previousTeamMemberUid :=
      ((optionalText command.args ["asset_uid"]).bind core₀.assets.get).bind AssetRecord.teamMemberUid
    let asset ← upsertAssetFromArgs command.args
    let missionUids := missionUidsForAssetUpsert (← core) asset previousTeamMemberUid
    emitAutoAssetMissionChanges command missionUids "mission.asset.upserted" "ADD_CONTENT" asset
    return event "mission.registry.asset.upserted" command (assetValue asset)
  | "mission.registry.asset.get" =>
    let assetUid ← requiredText command.args ["asset_uid"]
    let asset ← Proc.orThrow ((← core).assets.get assetUid) .assetNotFound
    return event "mission.registry.asset.retrieved" command (assetValue asset)
  | "mission.registry.asset.list" =>
    return event "mission.registry.asset.listed" command
      (.object [("assets",
        .array ((← core).assetValues (optionalText command.args ["team_member_uid"])))])
  | "mission.registry.asset.delete" =>
    let assetUid ← requiredText command.args ["asset_uid"]
    let asset ← Proc.orThrow ((← core).assets.get assetUid) .assetNotFound
    let missionUids := missionUidsForAssetDelete (← core) assetUid asset
    let asset ← deleteAsset assetUid
    emitAutoAssetMissionChanges command missionUids "mission.asset.deleted" "REMOVE_CONTENT" asset
    return event "mission.registry.asset.deleted" command (assetValue asset)
  | other => throw (.unsupportedCommand other)

/-! ## Skills -/

/-- `upsert_skill_from_args`. -/
def upsertSkillFromArgs (args : Value) : CoreM SkillRecord := do
  let skillUid ← orNewUuid (optionalText args ["skill_uid"])
  let now ← utcNowMs
  let skill := ((← core).skills.get skillUid).getD
    { skillUid, name := "Skill", category := none, description := none, proficiencyScale := none,
      createdTsMs := now, updatedTsMs := now }
  let skill := { skill with
    name := (optionalText args ["name"]).getD skill.name
    category := patchedText args ["category"] skill.category
    description := patchedText args ["description"] skill.description
    proficiencyScale := patchedText args ["proficiency_scale"] skill.proficiencyScale
    updatedTsMs := now }
  update fun core => { core with skills := core.skills.insert skillUid skill }
  return skill

/-- A text field an argument names, else the current one. -/
def textOrCurrent (args : Value) (key : String) (current : Option String) : Option String :=
  ((optionalTextOrEmpty args [key]).bind noneIfEmpty).or current

omit [Host] in
/-- `ensure_team_member_identity_exists`. -/
def ensureTeamMemberIdentityExists (core : RchCore) (identity : String) : Except RchCoreError Unit :=
  if core.teamMembers.values.any fun member => member.rnsIdentity == identity then .ok ()
  else .error .teamMemberNotFound

/-- `upsert_team_member_skill_from_args`. -/
def upsertTeamMemberSkillFromArgs (args : Value) : CoreM TeamMemberSkillRecord := do
  let identity ← requiredText args ["team_member_rns_identity"]
  let core ← core
  ensureTeamMemberIdentityExists core identity
  let skillUid ← requiredText args ["skill_uid"]
  if !core.skills.contains skillUid then throw .skillNotFound
  let key := identity ++ ":" ++ skillUid
  let current := core.teamMemberSkills.get key
  let level := ((← optionalI64 args "level").or (current.map TeamMemberSkillRecord.level)).getD 0
  let uid ← orNewUuid ((optionalText args ["uid"]).or (current.map TeamMemberSkillRecord.uid))
  let level ← normalizeSkillLevel level "level"
  let record : TeamMemberSkillRecord :=
    { uid, teamMemberRnsIdentity := identity, skillUid, level
      validatedBy := textOrCurrent args "validated_by"
        (current.bind TeamMemberSkillRecord.validatedBy)
      validatedAt := textOrCurrent args "validated_at"
        (current.bind TeamMemberSkillRecord.validatedAt)
      expiresAt := textOrCurrent args "expires_at" (current.bind TeamMemberSkillRecord.expiresAt) }
  update fun core => { core with teamMemberSkills := core.teamMemberSkills.insert key record }
  return record

omit [Host] in
/-- The task a record refers to must exist. -/
def ensureTaskExists (core : RchCore) (taskUid : String) : Except RchCoreError Unit :=
  if core.checklistTasks.contains taskUid then .ok ()
  else invalidPayload ("Checklist task '" ++ taskUid ++ "' not found")

/-- `upsert_task_skill_requirement_from_args`. -/
def upsertTaskSkillRequirementFromArgs (args : Value) : CoreM TaskSkillRequirementRecord := do
  let taskUid ← requiredText args ["task_uid"]
  let skillUid ← requiredText args ["skill_uid"]
  let core ← core
  ensureTaskExists core taskUid
  if !core.skills.contains skillUid then throw .skillNotFound
  let key := taskUid ++ ":" ++ skillUid
  let current := core.taskSkillRequirements.get key
  let minimumLevel := ((← optionalI64 args "minimum_level").or
    (current.map TaskSkillRequirementRecord.minimumLevel)).getD 0
  let uid ← orNewUuid ((optionalText args ["uid"]).or (current.map TaskSkillRequirementRecord.uid))
  let minimumLevel ← normalizeSkillLevel minimumLevel "minimum_level"
  let record : TaskSkillRequirementRecord :=
    { uid, taskUid, skillUid, minimumLevel
      isMandatory := ((optionalBool args "is_mandatory").or
        (current.map TaskSkillRequirementRecord.isMandatory)).getD true }
  update fun core =>
    { core with taskSkillRequirements := core.taskSkillRequirements.insert key record }
  return record

/-- `apply_registry_skill_command`. -/
def applyRegistrySkillCommand (command : MissionCommandEnvelope) : CoreM EventEnvelope := do
  match command.commandType with
  | "mission.registry.skill.upsert" =>
    return event "mission.registry.skill.upserted" command
      (skillValue (← upsertSkillFromArgs command.args))
  | "mission.registry.skill.list" =>
    return event "mission.registry.skill.listed" command
      (.object [("skills", .array ((← core).skillList.map skillValue))])
  | "mission.registry.team_member_skill.upsert" =>
    return event "mission.registry.team_member_skill.upserted" command
      (teamMemberSkillValue (← upsertTeamMemberSkillFromArgs command.args))
  | "mission.registry.team_member_skill.list" =>
    return event "mission.registry.team_member_skill.listed" command
      (.object [("team_member_skills", .array ((← core).teamMemberSkillValues
        (optionalText command.args ["team_member_rns_identity"])))])
  | "mission.registry.task_skill_requirement.upsert" =>
    return event "mission.registry.task_skill_requirement.upserted" command
      (taskSkillRequirementValue (← upsertTaskSkillRequirementFromArgs command.args))
  | "mission.registry.task_skill_requirement.list" =>
    return event "mission.registry.task_skill_requirement.listed" command
      (.object [("task_skill_requirements", .array ((← core).taskSkillRequirementValues
        (optionalText command.args ["task_uid"])))])
  | other => throw (.unsupportedCommand other)

/-! ## Assignments -/

omit [Host] in
/-- `validate_asset_refs`. -/
def validateAssetRefs (core : RchCore) (assets : List String) : Except RchCoreError (List String) := do
  let assets := dedupeNonEmpty assets
  assets.forM fun assetUid =>
    if core.assets.contains assetUid then .ok () else .error .assetNotFound
  return assets

omit [Host] in
/-- `set_assignment_asset_links`. -/
def setAssignmentAssetLinks (assignmentUid : String) (assets : List String) (core : RchCore) :
    RchCore :=
  let kept := core.assignmentAssetLinks.retain fun link => link.1 != assignmentUid
  { core with assignmentAssetLinks := kept.extend (assets.map fun uid => (assignmentUid, uid)) }

omit [Host] in
/-- The assignment with its assets, and the links that mirror them. -/
def storeAssignment (assignment : AssignmentRecord) (assignmentUid : String) (core : RchCore) :
    RchCore :=
  setAssignmentAssetLinks assignmentUid assignment.assets
    { core with assignments := core.assignments.insert assignmentUid assignment }

omit [Host] in
/-- The error of a missing field of an assignment. -/
def assignmentFieldsRequired : RchCoreError :=
  .invalidPayload "mission_uid, task_uid and team_member_rns_identity are required"

/-- The assets of `upsert_assignment_from_args`. -/
def assignmentAssetsFromArgs (core : RchCore) (args : Value) (current : Option AssignmentRecord) :
    Except RchCoreError (List String) := do
  if args.containsKey "assets" then validateAssetRefs core (← stringList (args.get "assets") "assets")
  else return (current.map AssignmentRecord.assets).getD []

/-- The status of `upsert_assignment_from_args`. -/
def assignmentStatusFromArgs (args : Value) (current : Option AssignmentRecord) :
    Except RchCoreError String :=
  match optionalText args ["status"] with
  | some status => normalizeTaskStatus status
  | none => .ok ((current.map AssignmentRecord.status).getD "PENDING")

/-- `upsert_assignment_from_args`. -/
def upsertAssignmentFromArgs (args : Value) : CoreM AssignmentRecord := do
  let assignmentUid ← orNewUuid (optionalText args ["assignment_uid"])
  let core ← core
  let current := core.assignments.get assignmentUid
  let missionUid ← Proc.orThrow ((optionalText args ["mission_uid", "mission_id"]).or
    (current.map AssignmentRecord.missionUid)) assignmentFieldsRequired
  let taskUid ← Proc.orThrow ((optionalText args ["task_uid"]).or
    (current.map AssignmentRecord.taskUid)) assignmentFieldsRequired
  let member ← Proc.orThrow ((optionalText args ["team_member_rns_identity"]).or
    (current.map AssignmentRecord.teamMemberRnsIdentity)) assignmentFieldsRequired
  if !core.missions.contains missionUid then throw .missionNotFound
  ensureTaskExists core taskUid
  ensureTeamMemberIdentityExists core member
  let assets ← assignmentAssetsFromArgs core args current
  let now ← utcNowMs
  let assignedAt ← optionalTimestampMs args ["assigned_at"]
  let status ← assignmentStatusFromArgs args current
  let assignment : AssignmentRecord :=
    { assignmentUid, missionUid, taskUid, teamMemberRnsIdentity := member, status, assets
      assignedBy := textOrCurrent args "assigned_by" (current.bind AssignmentRecord.assignedBy)
      assignedTsMs := (assignedAt.or (current.map AssignmentRecord.assignedTsMs)).getD now
      dueDtg := textOrCurrent args "due_dtg" (current.bind AssignmentRecord.dueDtg)
      notes := textOrCurrent args "notes" (current.bind AssignmentRecord.notes) }
  update (storeAssignment assignment assignmentUid)
  return assignment

omit [Host] in
/-- `get_mut` on an assignment, its assets replaced and the links set. -/
def modifyAssignmentAssets (assignmentUid : String) (f : List String → List String) :
    CoreM AssignmentRecord := do
  let assignment ← Proc.orThrow ((← core).assignments.get assignmentUid) .assignmentNotFound
  let assignment := { assignment with assets := f assignment.assets }
  update (storeAssignment assignment assignmentUid)
  return assignment

omit [Host] in
/-- `set_assignment_assets`. -/
def setAssignmentAssets (assignmentUid : String) (assets : List String) : CoreM AssignmentRecord := do
  let assets ← validateAssetRefs (← core) assets
  modifyAssignmentAssets assignmentUid fun _ => assets

omit [Host] in
/-- `link_assignment_asset`. -/
def linkAssignmentAsset (assignmentUid assetUid : String) : CoreM AssignmentRecord := do
  let assetUid ← requiredNonEmpty assetUid "asset_uid"
  let _ ← validateAssetRefs (← core) [assetUid]
  modifyAssignmentAssets assignmentUid fun assets =>
    if assets.contains assetUid then assets else assets ++ [assetUid]

omit [Host] in
/-- `unlink_assignment_asset`. -/
def unlinkAssignmentAsset (assignmentUid assetUid : String) : CoreM AssignmentRecord := do
  let assetUid ← requiredNonEmpty assetUid "asset_uid"
  modifyAssignmentAssets assignmentUid fun assets => assets.filter fun item => item != assetUid

/-- `emit_auto_assignment_mission_change`. -/
def emitAutoAssignmentMissionChange (command : MissionCommandEnvelope)
    (assignment : AssignmentRecord) (sourceEventType op changeType : String)
    (assetUid : Option String) : CoreM Unit := do
  let core ← core
  if !core.missions.contains assignment.missionUid then throw .missionNotFound
  let now ← utcNowMs
  let taskDelta := assignmentMissionDelta core assignment op assetUid
  let uid ← newUuid
  recordMissionChange command
    { uid, missionUid := assignment.missionUid, name := some sourceEventType,
      teamMemberRnsIdentity := some assignment.teamMemberRnsIdentity, timestampMs := now,
      notes := none, changeType, isFederatedChange := false, hashes := [],
      delta := missionChangeDelta sourceEventType (millisToRfc3339 now) [] [taskDelta] [] }

/-- `apply_registry_assignment_command`. -/
def applyRegistryAssignmentCommand (command : MissionCommandEnvelope) : CoreM EventEnvelope := do
  let args := command.args
  match command.commandType with
  | "mission.registry.assignment.upsert" =>
    let assignment ← upsertAssignmentFromArgs args
    emitAutoAssignmentMissionChange command assignment "mission.assignment.upserted"
      "assignment_upsert" "ADD_CONTENT" none
    return event "mission.registry.assignment.upserted" command ((← core).assignmentValue assignment)
  | "mission.registry.assignment.list" =>
    return event "mission.registry.assignment.listed" command
      (.object [("assignments", .array ((← core).assignmentValues
        (optionalText args ["mission_uid", "mission_id"]) (optionalText args ["task_uid"])))])
  | "mission.registry.assignment.asset.set" =>
    let assignmentUid ← requiredText args ["assignment_uid"]
    let assets ← stringList (args.get "assets") "assets"
    let assignment ← setAssignmentAssets assignmentUid assets
    emitAutoAssignmentMissionChange command assignment "mission.assignment.assets.updated"
      "assignment_assets_set" "ADD_CONTENT" none
    return event "mission.registry.assignment.asset.set" command ((← core).assignmentValue assignment)
  | "mission.registry.assignment.asset.link" =>
    let assignmentUid ← requiredText args ["assignment_uid"]
    let assetUid ← requiredText args ["asset_uid"]
    let assignment ← linkAssignmentAsset assignmentUid assetUid
    emitAutoAssignmentMissionChange command assignment "mission.assignment.asset.linked"
      "assignment_asset_linked" "ADD_CONTENT" (some assetUid)
    return event "mission.registry.assignment.asset.linked" command
      ((← core).assignmentValue assignment)
  | "mission.registry.assignment.asset.unlink" =>
    let assignmentUid ← requiredText args ["assignment_uid"]
    let assetUid ← requiredText args ["asset_uid"]
    let assignment ← unlinkAssignmentAsset assignmentUid assetUid
    emitAutoAssignmentMissionChange command assignment "mission.assignment.asset.unlinked"
      "assignment_asset_unlinked" "REMOVE_CONTENT" (some assetUid)
    return event "mission.registry.assignment.asset.unlinked" command
      ((← core).assignmentValue assignment)
  | other => throw (.unsupportedCommand other)

end
end TelemetryHub
