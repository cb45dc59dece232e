import TelemetryHub.Core.RemDirectory

/-!
# Access control

What an identity may do, and the checks a command passes before it is run.
-/

namespace TelemetryHub

open Lib CoreM

/-! ## Role bundles -/

/-- `MISSION_READONLY_OPERATION_LIST`. -/
def missionReadonlyOperationList : List String :=
  ["checklist.join", "checklist.read", "mission.audit.read", "mission.content.read",
    "mission.join", "mission.leave", "mission.pause", "mission.resume", "mission.nick",
    "mission.users", "mission.registry.asset.read", "mission.registry.assignment.read",
    "mission.registry.log.read", "mission.registry.mission.read", "mission.registry.skill.read",
    "mission.registry.status.read", "mission.registry.team.read", "mission.zone.read",
    "topic.read"]

/-- `MISSION_WRITE_OPERATION_LIST`. -/
def missionWriteOperationList : List String :=
  ["checklist.feed.publish", "checklist.join", "checklist.read", "checklist.upload",
    "checklist.write", "mission.audit.read", "mission.content.read", "mission.content.write",
    "mission.join", "mission.leave", "mission.pause", "mission.resume", "mission.nick",
    "mission.users", "mission.message.send", "mission.registry.assignment.read",
    "mission.registry.assignment.write", "mission.registry.asset.read",
    "mission.registry.log.read", "mission.registry.log.write", "mission.registry.mission.read",
    "mission.registry.skill.read", "mission.registry.status.read", "mission.registry.status.write",
    "mission.registry.team.read", "mission.zone.read", "mission.zone.write", "topic.read",
    "topic.subscribe"]

/-- `MISSION_OWNER_OPERATION_LIST`. -/
def missionOwnerOperationList : List String :=
  ["checklist.feed.publish", "checklist.join", "checklist.read", "checklist.upload",
    "checklist.write", "mission.audit.read", "mission.content.read", "mission.content.write",
    "mission.join", "mission.leave", "mission.pause", "mission.resume", "mission.nick",
    "mission.users", "mission.message.send", "mission.registry.asset.read",
    "mission.registry.asset.write", "mission.registry.assignment.read",
    "mission.registry.assignment.write", "mission.registry.log.read", "mission.registry.log.write",
    "mission.registry.mission.read", "mission.registry.mission.write",
    "mission.registry.skill.read", "mission.registry.skill.write", "mission.registry.status.read",
    "mission.registry.status.write", "mission.registry.team.read", "mission.registry.team.write",
    "mission.zone.delete", "mission.zone.read", "mission.zone.write", "topic.create",
    "topic.delete", "topic.read", "topic.subscribe", "topic.write"]

/-- `FIELD_OPERATOR_OPERATION_LIST`. -/
def fieldOperatorOperationList : List String :=
  ["checklist.join", "checklist.read", "checklist.write", "emergency.alert.send",
    "mission.content.read", "mission.join", "mission.leave", "mission.message.send",
    "mission.registry.assignment.read", "mission.registry.assignment.write",
    "mission.registry.status.read", "mission.registry.status.write", "mission.zone.read",
    "topic.read", "topic.subscribe"]

/-- `TEAM_LEAD_OPERATION_LIST`. -/
def teamLeadOperationList : List String :=
  ["checklist.feed.publish", "checklist.join", "checklist.read", "checklist.upload",
    "checklist.write", "emergency.alert.send", "mission.audit.read", "mission.content.read",
    "mission.content.write", "mission.join", "mission.leave", "mission.message.send",
    "mission.registry.assignment.read", "mission.registry.assignment.write",
    "mission.registry.status.read", "mission.registry.status.write", "mission.registry.team.read",
    "mission.zone.read", "mission.zone.write", "topic.read", "topic.subscribe"]

/-- `INCIDENT_COMMANDER_OPERATION_LIST`. -/
def incidentCommanderOperationList : List String :=
  ["checklist.feed.publish", "checklist.join", "checklist.read", "checklist.template.read",
    "checklist.upload", "checklist.write", "emergency.alert.send", "mission.audit.read",
    "mission.content.read", "mission.content.write", "mission.join", "mission.leave",
    "mission.message.send", "mission.registry.asset.read", "mission.registry.asset.write",
    "mission.registry.assignment.read", "mission.registry.assignment.write",
    "mission.registry.log.read", "mission.registry.log.write", "mission.registry.mission.read",
    "mission.registry.mission.write", "mission.registry.skill.read",
    "mission.registry.skill.write", "mission.registry.status.read",
    "mission.registry.status.write", "mission.registry.team.read", "mission.registry.team.write",
    "mission.zone.delete", "mission.zone.read", "mission.zone.write", "topic.create",
    "topic.delete", "topic.read", "topic.subscribe", "topic.write"]

/-- `LOGISTICS_RESOURCE_MANAGER_OPERATION_LIST`. -/
def logisticsResourceManagerOperationList : List String :=
  ["checklist.join", "checklist.read", "checklist.upload", "checklist.write", "mission.audit.read",
    "mission.content.read", "mission.join", "mission.leave", "mission.message.send",
    "mission.registry.asset.read", "mission.registry.asset.write",
    "mission.registry.assignment.read", "mission.registry.assignment.write",
    "mission.registry.log.read", "mission.registry.log.write", "mission.registry.skill.read",
    "mission.registry.status.read", "mission.registry.status.write", "mission.registry.team.read",
    "mission.zone.read", "topic.read", "topic.subscribe"]

/-- `COMMUNICATIONS_OPERATOR_OPERATION_LIST`. -/
def communicationsOperatorOperationList : List String :=
  ["diagnostics.network.read", "mission.audit.read", "mission.content.read", "mission.join",
    "mission.leave", "mission.message.send", "mission.registry.log.read",
    "mission.registry.log.write", "mission.registry.status.read", "mission.registry.status.write",
    "mission.registry.team.read", "runtime.delivery.read", "runtime.node.read",
    "runtime.routing.read", "topic.create", "topic.delete", "topic.read", "topic.subscribe",
    "topic.write"]

/-- `SYSTEM_ADMIN_OPERATION_LIST`. -/
def systemAdminOperationList : List String :=
  ["admin.backup.write", "admin.config.write", "admin.enrollment.write", "admin.identity.revoke",
    "diagnostics.network.read", "mission.audit.read", "mission.registry.log.read",
    "mission.registry.mission.read", "mission.registry.status.read", "mission.registry.team.read",
    "mission.registry.team.write", "r3akt", "runtime.delivery.read", "runtime.node.read",
    "runtime.routing.read"]

/-- `mission_role_operations`. -/
def missionRoleOperations (role : String) : List String :=
  match role with
  | "MISSION_OWNER" => missionOwnerOperationList
  | "MISSION_SUBSCRIBER" => missionWriteOperationList
  | "MISSION_READONLY_SUBSCRIBER" => missionReadonlyOperationList
  | "FIELD_OPERATOR" => fieldOperatorOperationList
  | "TEAM_LEAD" => teamLeadOperationList
  | "INCIDENT_COMMANDER" => incidentCommanderOperationList
  | "LOGISTICS_RESOURCE_MANAGER" => logisticsResourceManagerOperationList
  | "COMMUNICATIONS_OPERATOR" => communicationsOperatorOperationList
  | "SYSTEM_ADMIN" => systemAdminOperationList
  | _ => []

/-! ## Commands and the capability each needs -/

/-- `is_supported_rem_registry_command`. -/
def isSupportedRemRegistryCommand (commandType : String) : Bool :=
  commandType ∈ ["rem.registry.mode.set", "rem.registry.peers.list", "rem.registry.team_peers.list"]

/-- The mission commands but for those of the REM registry. -/
def missionCommandTypes : List String :=
  ["mission.join", "mission.leave", "mission.pause", "mission.resume", "mission.nick",
    "mission.users", "mission.events.list", "mission.marker.list", "mission.marker.create",
    "mission.marker.position.patch", "mission.marker.patch", "mission.marker.delete",
    "mission.zone.list", "mission.zone.create", "mission.zone.patch", "mission.zone.delete",
    "mission.registry.mission.upsert", "mission.registry.mission.get",
    "mission.registry.mission.list", "mission.registry.mission.patch",
    "mission.registry.mission.delete", "mission.registry.mission.parent.set",
    "mission.registry.mission.zone.link", "mission.registry.mission.zone.unlink",
    "mission.registry.mission.marker.link", "mission.registry.mission.marker.unlink",
    "mission.registry.mission.rde.set", "mission.registry.mission_change.upsert",
    "mission.registry.mission_change.list", "mission.registry.log_entry.upsert",
    "mission.registry.log_entry.list", "mission.registry.eam.list", "mission.registry.eam.upsert",
    "mission.registry.eam.get", "mission.registry.eam.latest", "mission.registry.eam.delete",
    "mission.registry.eam.team.summary", "mission.registry.team.upsert",
    "mission.registry.team.get", "mission.registry.team.list", "mission.registry.team.delete",
    "mission.registry.team.mission.link", "mission.registry.team.mission.unlink",
    "mission.registry.team_member.upsert", "mission.registry.team_member.get",
    "mission.registry.team_member.list", "mission.registry.team_member.delete",
    "mission.registry.team_member.client.link", "mission.registry.team_member.client.unlink",
    "mission.registry.asset.upsert", "mission.registry.asset.get", "mission.registry.asset.list",
    "mission.registry.asset.delete", "mission.registry.skill.upsert",
    "mission.registry.skill.list", "mission.registry.team_member_skill.upsert",
    "mission.registry.team_member_skill.list", "mission.registry.task_skill_requirement.upsert",
    "mission.registry.task_skill_requirement.list", "mission.registry.assignment.upsert",
    "mission.registry.assignment.list", "mission.registry.assignment.asset.set",
    "mission.registry.assignment.asset.link", "mission.registry.assignment.asset.unlink",
    "mission.registry.rights.subjects.list", "mission.registry.rights.mission_access.assign",
    "mission.registry.rights.mission_access.list", "mission.registry.rights.mission_access.revoke",
    "ListTopic", "topic.list", "CreateTopic", "topic.create", "topic.patch", "topic.delete",
    "SubscribeTopic", "CreateSubscriber", "AddSubscriber", "topic.subscribe",
    "topic.subscriber.patch", "topic.subscriber.delete", "mission.message.send", "PublishMessage"]

/-- `is_supported_mission_command`. -/
def isSupportedMissionCommand (commandType : String) : Bool :=
  isSupportedRemRegistryCommand commandType || commandType ∈ missionCommandTypes

/-- The checklist commands. -/
def checklistCommandTypes : List String :=
  ["checklist.template.list", "checklist.template.get", "checklist.template.create",
    "checklist.template.update", "checklist.template.clone", "checklist.template.delete",
    "checklist.create.online", "checklist.create.offline", "checklist.list.active",
    "checklist.get", "checklist.update", "checklist.delete", "checklist.join", "checklist.upload",
    "checklist.import.csv", "checklist.feed.publish", "checklist.task.row.add",
    "checklist.task.row.delete", "checklist.task.row.style.set", "checklist.task.cell.set",
    "checklist.task.status.set"]

/-- `is_supported_checklist_command`. -/
def isSupportedChecklistCommand (commandType : String) : Bool := commandType ∈ checklistCommandTypes

/-- The capability of every mission command, the rows as `required_capability` has them. -/
def missionCapabilities : List (List String × String) :=
  [(["mission.join"], "mission.join"),
    (["mission.leave", "mission.pause", "mission.resume", "mission.nick"], "mission.leave"),
    (["mission.users", "mission.events.list"], "mission.audit.read"),
    (["mission.marker.list"], "mission.content.read"),
    (["mission.marker.create", "mission.marker.position.patch", "mission.marker.patch",
        "mission.marker.delete"], "mission.content.write"),
    (["mission.zone.list"], "mission.zone.read"),
    (["mission.zone.create", "mission.zone.patch"], "mission.zone.write"),
    (["mission.zone.delete"], "mission.zone.delete"),
    (["mission.registry.mission.upsert", "mission.registry.mission.patch",
        "mission.registry.mission.delete", "mission.registry.mission.parent.set",
        "mission.registry.mission.rde.set"], "mission.registry.mission.write"),
    (["mission.registry.mission.zone.link", "mission.registry.mission.zone.unlink"],
      "mission.zone.write"),
    (["mission.registry.mission.marker.link", "mission.registry.mission.marker.unlink"],
      "mission.content.write"),
    (["mission.registry.mission.get", "mission.registry.mission.list"],
      "mission.registry.mission.read"),
    (["mission.registry.mission_change.upsert", "mission.registry.log_entry.upsert"],
      "mission.registry.log.write"),
    (["mission.registry.mission_change.list", "mission.registry.log_entry.list"],
      "mission.registry.log.read"),
    (["mission.registry.eam.upsert", "mission.registry.eam.delete"],
      "mission.registry.status.write"),
    (["mission.registry.eam.list", "mission.registry.eam.get", "mission.registry.eam.latest",
        "mission.registry.eam.team.summary"], "mission.registry.status.read"),
    (["mission.registry.team.upsert", "mission.registry.team.delete",
        "mission.registry.team.mission.link", "mission.registry.team.mission.unlink",
        "mission.registry.team_member.upsert", "mission.registry.team_member.delete",
        "mission.registry.team_member.client.link", "mission.registry.team_member.client.unlink",
        "mission.registry.rights.mission_access.assign",
        "mission.registry.rights.mission_access.revoke"], "mission.registry.team.write"),
    (["mission.registry.team.get", "mission.registry.team.list",
        "mission.registry.team_member.get", "mission.registry.team_member.list"],
      "mission.registry.team.read"),
    (["mission.registry.asset.upsert", "mission.registry.asset.delete"],
      "mission.registry.asset.write"),
    (["mission.registry.asset.get", "mission.registry.asset.list"], "mission.registry.asset.read"),
    (["mission.registry.skill.upsert", "mission.registry.team_member_skill.upsert",
        "mission.registry.task_skill_requirement.upsert"], "mission.registry.skill.write"),
    (["mission.registry.skill.list", "mission.registry.team_member_skill.list",
        "mission.registry.task_skill_requirement.list"], "mission.registry.skill.read"),
    (["mission.registry.assignment.upsert", "mission.registry.assignment.asset.set",
        "mission.registry.assignment.asset.link", "mission.registry.assignment.asset.unlink"],
      "mission.registry.assignment.write"),
    (["mission.registry.assignment.list"], "mission.registry.assignment.read"),
    (["mission.registry.rights.subjects.list", "mission.registry.rights.mission_access.list"],
      "mission.registry.team.read"),
    (["ListTopic", "topic.list"], "topic.read"),
    (["CreateTopic", "topic.create"], "topic.create"),
    (["topic.patch", "topic.subscriber.patch"], "topic.write"),
    (["topic.delete", "topic.subscriber.delete"], "topic.delete"),
    (["SubscribeTopic", "CreateSubscriber", "AddSubscriber", "topic.subscribe"], "topic.subscribe"),
    (["mission.message.send", "PublishMessage"], "mission.message.send")]

/-- `required_capability`. -/
def requiredCapability (commandType : String) : Option String :=
  lookupRow missionCapabilities commandType

/-- The capability of every checklist command, the rows as `checklist_required_capability` has
them. -/
def checklistCapabilities : List (List String × String) :=
  [(["checklist.template.list", "checklist.template.get"], "checklist.template.read"),
    (["checklist.template.create", "checklist.template.update", "checklist.template.clone"],
      "checklist.template.write"),
    (["checklist.template.delete"], "checklist.template.delete"),
    (["checklist.list.active", "checklist.get"], "checklist.read"),
    (["checklist.join"], "checklist.join"),
    (["checklist.upload"], "checklist.upload"),
    (["checklist.feed.publish"], "checklist.feed.publish"),
    (["checklist.create.online", "checklist.create.offline", "checklist.update",
        "checklist.delete", "checklist.import.csv", "checklist.task.row.add",
        "checklist.task.row.delete", "checklist.task.row.style.set", "checklist.task.cell.set",
        "checklist.task.status.set"], "checklist.write")]

/-- `checklist_required_capability`. -/
def checklistRequiredCapability (commandType : String) : Option String :=
  lookupRow checklistCapabilities commandType

/-! ## Effective operations -/

namespace RchCore

variable (core : RchCore)

/-- `has_identity_capability`. -/
def hasIdentityCapability (identity capability : String) : Bool :=
  ((normalizeHash identity).bind core.identityCapabilities.get).any fun held =>
    held.contains capability

/-- `subject_refs_for_identity`. -/
def subjectRefsForIdentity (identity : String) : List (String × String) :=
  match normalizeHash identity with
  | none => []
  | some identity =>
    let members := (core.teamMembers.values.filter fun member =>
      normalizeHash member.rnsIdentity == some identity).map TeamMemberRecord.uid
    let linked := (core.teamMemberClientLinks.toList.filter fun link =>
      normalizeHash link.2 == some identity).map Prod.fst
    ("identity", identity) :: (members ++ linked).map fun uid => ("team_member", uid)

/-- `matching_operation_rights`. -/
def matchingOperationRights (subjectRefs : List (String × String)) (missionUid : Option String) :
    List SubjectOperationRight :=
  core.subjectOperationRights.values.filter fun record =>
    subjectRefs.contains (record.subjectType, record.subjectId) &&
      match record.scopeType with
      | "global" => true
      | "mission" => missionUid == some record.scopeId
      | _ => false

/-- `matching_mission_access_assignments`. -/
def matchingMissionAccessAssignments (subjectRefs : List (String × String))
    (missionUid : Option String) : List MissionAccessAssignment :=
  core.missionAccessAssignments.values.filter fun assignment =>
    (missionUid.all fun uid => assignment.missionUid == uid) &&
      subjectRefs.contains (assignment.subjectType, assignment.subjectId)

/-- `resolve_effective_operations`: what is granted by any source, less what a
right denies. -/
def resolveEffectiveOperations (identity : String) (missionUid : Option String) : List String :=
  let subjectRefs := core.subjectRefsForIdentity identity
  let missionUid := (missionUid.map trim).filter fun uid => !uid.isEmpty
  let capabilities :=
    ((normalizeHash identity).bind core.identityCapabilities.get).elim [] HSet.toList
  let rights := core.matchingOperationRights subjectRefs missionUid
  let granted := (rights.filter SubjectOperationRight.granted).map SubjectOperationRight.operation
  let denied := (rights.filter fun right => !right.granted).map SubjectOperationRight.operation
  let roles := (core.matchingMissionAccessAssignments subjectRefs missionUid).flatMap
    fun assignment => missionRoleOperations assignment.role
  sortBy compare ((capabilities ++ granted ++ roles).filter fun operation =>
    !denied.contains operation).dedup

/-- `authorize_identity_operation`. -/
def authorizeIdentityOperation (identity operation : String) (missionUid : Option String) : Bool :=
  (core.resolveEffectiveOperations identity missionUid).contains operation

/-- `identity_has_mission_operation`. -/
def identityHasMissionOperation (identity missionUid operation : String) : Bool :=
  core.authorizeIdentityOperation identity operation (some missionUid)

section

variable [Host]

/-- `candidate_mission_uids`. -/
def candidateMissionUids (command : MissionCommandEnvelope) : List String :=
  let args := command.args
  let ofType (pre : String) : Bool := startsWith command.commandType pre
  let direct :=
    match optionalText args ["mission_uid", "mission_id"] with
    | some missionUid => [missionUid]
    | none =>
      if command.commandType = "mission.registry.log_entry.upsert" then ["mission-default"] else []
  let topic := (optionalText args ["topic_id", "id"]).elim [] core.missionUidsForTopic
  let team :=
    if ofType "mission.registry.team." || ofType "mission.registry.eam." then
      (optionalText args ["team_uid", "uid"]).elim [] core.teamMissionIds
    else []
  let member :=
    if ofType "mission.registry.team_member." || ofType "mission.registry.eam." then
      (optionalText args ["team_member_uid", "uid"]).elim [] core.missionUidsForTeamMember
    else []
  sortBy compare (direct ++ topic ++ team ++ member).dedup

/-- `has_mission_access_operation`. -/
def hasMissionAccessOperation (command : MissionCommandEnvelope) (operation : String) : Bool :=
  (core.candidateMissionUids command).any fun missionUid =>
    core.identityHasMissionOperation command.source.rnsIdentity missionUid operation

/-- `candidate_checklist_mission_uid`. -/
def candidateChecklistMissionUid (command : MissionCommandEnvelope) : Option String :=
  (optionalText command.args ["mission_uid", "mission_id"]).or
    (((optionalText command.args ["checklist_uid"]).bind core.checklists.get).bind
      ChecklistRecord.missionUid)

/-- `has_checklist_access_operation`. -/
def hasChecklistAccessOperation (command : MissionCommandEnvelope) (operation : String) : Bool :=
  (core.candidateChecklistMissionUid command).any fun missionUid =>
    core.identityHasMissionOperation command.source.rnsIdentity missionUid operation

end

/-- `validate_rem_team_scope`: the reason code and the reason of a rejection. -/
def validateRemTeamScope (command : MissionCommandEnvelope) : Except (String × String) Unit :=
  match (((command.args.get "_rem_team_uid").bind Value.asStr).map trim).filter
    fun value => !value.isEmpty with
  | none => .ok ()
  | some teamUid =>
    if (canonicalTeamForUid teamUid).isNone then
      .error ("invalid_team", "FIELD_GROUP must contain a canonical TEAM UID")
    else if !(core.sharedTeamUidsForRemSource command.source.rnsIdentity).contains teamUid then
      .error ("unauthorized_team", "The REM caller is not a member of the requested TEAM")
    else .ok ()

end RchCore
end TelemetryHub
