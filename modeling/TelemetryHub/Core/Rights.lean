import TelemetryHub.Core.Missions

/-!
# Grants, rights and mission roles

What an identity may do is recorded in three collections: capabilities held by
the identity, rights that grant or deny one operation to a subject, and roles a
subject has in a mission.
-/

namespace TelemetryHub

open Lib CoreM

/-- `set_authorization_required`. -/
def setAuthorizationRequired (required : Bool) : CoreM Unit :=
  update fun core => { core with authorizationRequired := required }

/-- `grant_identity_capability`. -/
def grantIdentityCapability (identity capability : String) : CoreM Unit := do
  match normalizeHash identity with
  | some identity =>
    update fun core =>
      let held := (core.identityCapabilities.get identity).getD ∅
      { core with
        identityCapabilities := core.identityCapabilities.insert identity (held.insert capability) }
  | none => pure ()

/-- `revoke_identity_capability`. -/
def revokeIdentityCapability (identity capability : String) : CoreM Bool := do
  match normalizeHash identity with
  | none => return false
  | some identity =>
    match (← core).identityCapabilities.get identity with
    | none => return false
    | some held =>
      let kept := held.erase capability
      update fun core =>
        { core with identityCapabilities :=
            if kept.toList.isEmpty then core.identityCapabilities.remove identity
            else core.identityCapabilities.insert identity kept }
      return held.contains capability

/-- `upsert_operation_right`. -/
def upsertOperationRight (subjectType subjectId operation scopeType scopeId : String)
    (granted : Bool) : CoreM SubjectOperationRight := do
  let subjectType ← normalizeSubjectType subjectType
  let subjectId ← normalizeSubjectId subjectType subjectId
  let operation ← requiredNonEmpty operation "operation"
  let scopeType ← normalizeScopeType scopeType
  let scopeId := normalizeScopeId scopeType scopeId
  let key := (subjectType, subjectId, operation, scopeType, scopeId)
  let grantUid ← orNewUuid
    (((← core).subjectOperationRights.get key).map SubjectOperationRight.grantUid)
  let record : SubjectOperationRight :=
    { grantUid, subjectType, subjectId, operation, scopeType, scopeId, granted }
  update fun core =>
    { core with subjectOperationRights := core.subjectOperationRights.insert key record }
  return record

/-- `grant_operation_right`. -/
def grantOperationRight (subjectType subjectId operation scopeType scopeId : String) :
    CoreM SubjectOperationRight :=
  upsertOperationRight subjectType subjectId operation scopeType scopeId true

/-- `revoke_operation_right`. -/
def revokeOperationRight (subjectType subjectId operation scopeType scopeId : String) :
    CoreM SubjectOperationRight :=
  upsertOperationRight subjectType subjectId operation scopeType scopeId false

/-- `assign_mission_access_role`. -/
def assignMissionAccessRole (missionUid subjectType subjectId role : String) : CoreM Unit := do
  let missionUid ← requiredNonEmpty missionUid "mission_uid"
  let subjectType ← normalizeSubjectType subjectType
  let subjectId ← normalizeSubjectId subjectType subjectId
  let role ← normalizeMissionRole role "role"
  let assignment : MissionAccessAssignment := { missionUid, subjectType, subjectId, role }
  let key := (missionUid, subjectType, subjectId)
  update fun core =>
    { core with missionAccessAssignments := core.missionAccessAssignments.insert key assignment }

section

variable [Host]

/-- The subject a rights command names. -/
def subjectFromArgs (args : Value) : Except RchCoreError (String × String) := do
  let subjectType ← normalizeSubjectType (← requiredText args ["subject_type"])
  let subjectId ← normalizeSubjectId subjectType (← requiredText args ["subject_id"])
  return (subjectType, subjectId)

/-- `mission.registry.rights.mission_access.assign`. -/
def assignMissionAccessFromArgs (args : Value) : CoreM MissionAccessAssignment := do
  let missionUid ← requiredText args ["mission_uid"]
  if !(← core).missions.contains missionUid then throw .missionNotFound
  let (subjectType, subjectId) ← subjectFromArgs args
  if subjectType = "team_member" && !(← core).teamMembers.contains subjectId then
    throw .teamMemberNotFound
  let role := ((optionalText args ["role"]).or
    (((← core).missions.get missionUid).bind MissionRecord.defaultRole)).getD "MISSION_SUBSCRIBER"
  assignMissionAccessRole missionUid subjectType subjectId role
  Proc.orThrow ((← core).missionAccessAssignments.get (missionUid, subjectType, subjectId))
    .assignmentNotFound

/-- `apply_registry_rights_command`. -/
def applyRegistryRightsCommand (command : MissionCommandEnvelope) : CoreM EventEnvelope := do
  let args := command.args
  match command.commandType with
  | "mission.registry.rights.subjects.list" =>
    return event "mission.registry.rights.subjects.listed" command
      (.object [("subjects",
        .array ((← core).teamMemberSubjectValues (optionalText args ["mission_uid"])))])
  | "mission.registry.rights.mission_access.assign" =>
    return event "mission.registry.rights.mission_access.assigned" command
      (missionAccessAssignmentValue (← assignMissionAccessFromArgs args))
  | "mission.registry.rights.mission_access.list" =>
    return event "mission.registry.rights.mission_access.listed" command
      (.object [("mission_access_assignments",
        .array ((← core).missionAccessAssignmentValues (optionalText args ["mission_uid"])
          (optionalText args ["subject_type"]) (optionalText args ["subject_id"])))])
  | "mission.registry.rights.mission_access.revoke" =>
    let missionUid ← requiredText args ["mission_uid"]
    let (subjectType, subjectId) ← subjectFromArgs args
    let key := (missionUid, subjectType, subjectId)
    let deleted := (← core).missionAccessAssignments.contains key
    update fun core =>
      { core with missionAccessAssignments := core.missionAccessAssignments.remove key }
    return event "mission.registry.rights.mission_access.revoked" command (.object [
      ("mission_uid", toValue missionUid),
      ("subject_type", toValue subjectType),
      ("subject_id", toValue subjectId),
      ("deleted", toValue deleted)])
  | other => throw (.unsupportedCommand other)

end
end TelemetryHub
