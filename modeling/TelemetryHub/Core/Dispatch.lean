import TelemetryHub.Core.Markers
import TelemetryHub.Core.Topics
import TelemetryHub.Core.Logs
import TelemetryHub.Core.Rights
import TelemetryHub.Core.ChecklistCommands
import TelemetryHub.Core.Access

/-!
# The command dispatcher and its front ends

`apply_command` runs a command whoever sent it. `handle_command` adds the result
cache, and the two sync front ends check who may run what.
-/

namespace TelemetryHub

open Lib CoreM

section

variable [Host]

/-- `apply_rem_registry_command`. -/
def applyRemRegistryCommand (command : MissionCommandEnvelope) : CoreM EventEnvelope := do
  match command.commandType with
  | "rem.registry.mode.set" =>
    let mode := (optionalTextOrEmpty command.args ["mode"]).getD ""
    let record ← setIdentityRemMode command.source.rnsIdentity mode
    return event "rem.registry.mode.updated" command (.object [
      ("identity", toValue record.identity),
      ("mode", toValue record.mode),
      ("effective_connected_mode", toValue (← core).effectiveRemConnectedMode),
      ("registered_at_ms", toValue record.updatedTsMs),
      ("updated_at_ms", toValue record.updatedTsMs)])
  | "rem.registry.peers.list" =>
    let payload ← (← core).remPeerRegistryPayload
    return event "rem.registry.peers.listed" command payload
  | "rem.registry.team_peers.list" =>
    let payload ← (← core).remTeamPeerRegistryPayload command.source.rnsIdentity
    return event "rem.registry.team_peers.listed" command payload
  | other => throw (.unsupportedCommand other)

/-- The handlers `apply_command` chooses from. -/
inductive CommandFamily where
  | remRegistry
  | clientEvent
  | marker
  | zone
  | mission
  | log
  | eam
  | team
  | teamMember
  | asset
  | skill
  | assignment
  | rights
  | checklist
  | topic
  deriving DecidableEq

/-- The arms of `apply_command`. -/
def commandFamilies : List (List String × CommandFamily) :=
  [(["rem.registry.mode.set", "rem.registry.peers.list", "rem.registry.team_peers.list"],
      .remRegistry),
    (["mission.join", "mission.leave", "mission.pause", "mission.resume", "mission.nick",
        "mission.users", "mission.events.list"], .clientEvent),
    (["mission.marker.list", "mission.marker.create", "mission.marker.position.patch",
        "mission.marker.patch", "mission.marker.delete"], .marker),
    (["mission.zone.list", "mission.zone.create", "mission.zone.patch", "mission.zone.delete"],
      .zone),
    (["mission.registry.mission.upsert", "mission.registry.mission.get",
        "mission.registry.mission.list", "mission.registry.mission.patch",
        "mission.registry.mission.delete", "mission.registry.mission.parent.set",
        "mission.registry.mission.zone.link", "mission.registry.mission.zone.unlink",
        "mission.registry.mission.marker.link", "mission.registry.mission.marker.unlink",
        "mission.registry.mission.rde.set"], .mission),
    (["mission.registry.mission_change.upsert", "mission.registry.mission_change.list",
        "mission.registry.log_entry.upsert", "mission.registry.log_entry.list"], .log),
    (["mission.registry.eam.list", "mission.registry.eam.upsert", "mission.registry.eam.get",
        "mission.registry.eam.latest", "mission.registry.eam.delete",
        "mission.registry.eam.team.summary"], .eam),
    (["mission.registry.team.upsert", "mission.registry.team.get", "mission.registry.team.list",
        "mission.registry.team.delete", "mission.registry.team.mission.link",
        "mission.registry.team.mission.unlink"], .team),
    (["mission.registry.team_member.upsert", "mission.registry.team_member.get",
        "mission.registry.team_member.list", "mission.registry.team_member.delete",
        "mission.registry.team_member.client.link", "mission.registry.team_member.client.unlink"],
      .teamMember),
    (["mission.registry.asset.upsert", "mission.registry.asset.get",
        "mission.registry.asset.list", "mission.registry.asset.delete"], .asset),
    (["mission.registry.skill.upsert", "mission.registry.skill.list",
        "mission.registry.team_member_skill.upsert", "mission.registry.team_member_skill.list",
        "mission.registry.task_skill_requirement.upsert",
        "mission.registry.task_skill_requirement.list"], .skill),
    (["mission.registry.assignment.upsert", "mission.registry.assignment.list",
        "mission.registry.assignment.asset.set", "mission.registry.assignment.asset.link",
        "mission.registry.assignment.asset.unlink"], .assignment),
    (["mission.registry.rights.subjects.list", "mission.registry.rights.mission_access.assign",
        "mission.registry.rights.mission_access.list",
        "mission.registry.rights.mission_access.revoke"], .rights),
    (["checklist.template.list", "checklist.template.get", "checklist.template.create",
        "checklist.template.update", "checklist.template.clone", "checklist.template.delete",
        "checklist.create.online", "checklist.create.offline", "checklist.list.active",
        "checklist.get", "checklist.update", "checklist.delete", "checklist.join",
        "checklist.upload", "checklist.import.csv", "checklist.feed.publish",
        "checklist.task.row.add", "checklist.task.row.delete", "checklist.task.row.style.set",
        "checklist.task.cell.set", "checklist.task.status.set"], .checklist),
    (["ListTopic", "topic.list", "CreateTopic", "topic.create", "topic.patch", "topic.delete",
        "SubscribeTopic", "CreateSubscriber", "AddSubscriber", "topic.subscribe",
        "topic.subscriber.patch", "topic.subscriber.delete", "mission.message.send",
        "PublishMessage"], .topic)]

/-- The handler of a family. -/
def CommandFamily.apply : CommandFamily → MissionCommandEnvelope → CoreM EventEnvelope
  | remRegistry => applyRemRegistryCommand
  | clientEvent => applyClientEventCommand
  | marker => applyMarkerCommand
  | zone => applyZoneCommand
  | mission => applyRegistryMissionCommand
  | log => applyRegistryLogCommand
  | eam => applyRegistryEamCommand
  | team => applyRegistryTeamCommand
  | teamMember => applyRegistryTeamMemberCommand
  | asset => applyRegistryAssetCommand
  | skill => applyRegistrySkillCommand
  | assignment => applyRegistryAssignmentCommand
  | rights => applyRegistryRightsCommand
  | checklist => applyChecklistCommand
  | topic => applyTopicCommand

/-- `apply_command`. -/
def applyCommand (command : MissionCommandEnvelope) : CoreM EventEnvelope :=
  match lookupRow commandFamilies command.commandType with
  | some family => family.apply command
  | none => throw (.unsupportedCommand command.commandType)

/-! ## Results -/

omit [Host] in
/-- A result of a command with the fields that vary. -/
def commandResult (command : MissionCommandEnvelope) (status : CommandResultStatus)
    (result : Value) (acceptedAt : Option String) : CommandResultEnvelope :=
  { commandId := command.commandId, status, detail := none, reasonCode := none, reason := none,
    requiredCapabilities := [], acceptedAt, byIdentity := none,
    correlationId := command.correlationId, result }

omit [Host] in
/-- `accepted_result`. -/
def acceptedResult (command : MissionCommandEnvelope) : CoreM CommandResultEnvelope := do
  return commandResult command .accepted .null (some (← utcNowRfc3339))

omit [Host] in
/-- `completed_result`. -/
def completedResult (command : MissionCommandEnvelope) (result : Value) : CommandResultEnvelope :=
  commandResult command .completed result none

omit [Host] in
/-- `rejected_result_with_capabilities`. -/
def rejectedResultWithCapabilities (command : MissionCommandEnvelope) (reasonCode reason : String)
    (requiredCapabilities : List String) : CommandResultEnvelope :=
  { commandResult command .rejected .null none with
    detail := some reason, reasonCode := some reasonCode, reason := some reason,
    requiredCapabilities }

omit [Host] in
/-- `rejected_result`. -/
def rejectedResult (command : MissionCommandEnvelope) (reasonCode reason : String) :
    CommandResultEnvelope :=
  rejectedResultWithCapabilities command reasonCode reason []

omit [Host] in
/-- The result of a command that ended in `error`. -/
def errorResult (command : MissionCommandEnvelope) (error : RchCoreError) : CommandResultEnvelope :=
  rejectedResult command error.reasonCode error.text

omit [Host] in
/-- `event_envelope_value`. -/
def eventEnvelopeValue (command : MissionCommandEnvelope) (event : EventEnvelope) : CoreM Value := do
  let eventId ← newUuid
  let timestamp ← utcNowRfc3339
  return .object [
    ("event_id", toValue eventId),
    ("source", .object [("rns_identity", toValue command.source.rnsIdentity)]),
    ("timestamp", toValue timestamp),
    ("event_type", toValue event.eventType),
    ("topics", toValue command.topics),
    ("payload", event.payload)]

omit [Host] in
/-- `rem_event_envelope_value`. -/
def remEventEnvelopeValue (event : EventEnvelope) : Value :=
  .object [
    ("event_type", toValue event.eventType),
    ("payload", event.payload),
    ("source", .object [("rns_identity", toValue (event.source.map RchSource.rnsIdentity))])]

omit [Host] in
/-- `MissionSyncResponse::results`. -/
def MissionSyncResponse.ofResult (result : CommandResultEnvelope) : MissionSyncResponse :=
  { content := "mission-sync", results := result, event := none }

omit [Host] in
/-- `MissionSyncResponse::rem_results`. -/
def MissionSyncResponse.ofRemResult (result : CommandResultEnvelope) : MissionSyncResponse :=
  { content := "", results := result, event := none }

/-! ## Front ends -/

/-- `handle_command`. -/
def handleCommand (command : MissionCommandEnvelope) : CoreM RchCommandOutcome := do
  match (← core).commandResults.get command.commandId with
  | some cached => return { result := cached, event := none }
  | none =>
    let outcome ←
      match ← Proc.attempt (applyCommand command) with
      | .ok event => do
        recordAuditEvent command event
        pure { result := commandResult command .accepted event.payload none, event := some event }
      | .error error => pure { result := errorResult command error, event := none }
    update fun core =>
      { core with commandResults := core.commandResults.insert command.commandId outcome.result }
    return outcome

/-- `handle_rem_registry_sync_command`. -/
def handleRemRegistrySyncCommand (command : MissionCommandEnvelope) :
    CoreM (List MissionSyncResponse) := do
  let reject (code reason : String) : MissionSyncResponse :=
    .ofRemResult (rejectedResult command code reason)
  if !isSupportedRemRegistryCommand command.commandType then
    return [reject "unknown_command" ("Unsupported REM command '" ++ command.commandType ++ "'")]
  let core ← core
  match core.validateRemTeamScope command, normalizeHash command.source.rnsIdentity with
  | .error (code, reason), _ => return [reject code reason]
  | .ok (), none => return [reject "unauthorized" "Source identity is required"]
  | .ok (), some sourceIdentity =>
    if !core.identityHasRemAnnounceCapabilities sourceIdentity then
      return [reject "unauthorized" "REM announce capabilities are required"]
    if command.commandType = "rem.registry.team_peers.list" &&
        (core.sharedTeamUidsForRemSource sourceIdentity).isEmpty then
      return [reject "unauthorized" "TEAM membership is required"]
    let accepted ← acceptedResult command
    let response ←
      match ← Proc.attempt (applyRemRegistryCommand command) with
      | .ok event => do
        recordAuditEvent command event
        pure { content := "", results := completedResult command event.payload,
               event := some (remEventEnvelopeValue event) }
      | .error error => pure (.ofRemResult (errorResult command error))
    return [.ofRemResult accepted, response]

omit [Host] in
/-- The rejection of a command whose capability the source lacks. -/
def unauthorizedResult (command : MissionCommandEnvelope) (capability : String) :
    CommandResultEnvelope :=
  rejectedResultWithCapabilities command "unauthorized"
    ("Capability '" ++ capability ++ "' is required") [capability]

/-- The capability a mission command is refused for. -/
def missionCapabilityMissing (core : RchCore) (command : MissionCommandEnvelope) : Option String :=
  (requiredCapability command.commandType).filter fun capability =>
    core.authorizationRequired &&
      !core.hasIdentityCapability command.source.rnsIdentity capability &&
      !core.hasMissionAccessOperation command capability

/-- The capability a checklist command is refused for. -/
def checklistCapabilityMissing (core : RchCore) (command : MissionCommandEnvelope) : Option String :=
  (checklistRequiredCapability command.commandType).filter fun capability =>
    core.authorizationRequired &&
      !core.hasIdentityCapability command.source.rnsIdentity capability &&
      !core.hasChecklistAccessOperation command capability

/-- `handle_mission_sync_command` past its checks. -/
def runMissionSyncCommand (command : MissionCommandEnvelope) : CoreM (List MissionSyncResponse) := do
  let accepted ← acceptedResult command
  let response ←
    match ← Proc.attempt (applyCommand command) with
    | .ok event => do
      recordAuditEvent command event
      let value ← eventEnvelopeValue command event
      pure { content := "mission-sync", results := completedResult command event.payload,
             event := some value }
    | .error error => pure (.ofResult (errorResult command error))
  return [.ofResult accepted, response]

/-- `handle_mission_sync_command`. -/
def handleMissionSyncCommand (command : MissionCommandEnvelope) :
    CoreM (List MissionSyncResponse) := do
  if startsWith command.commandType "rem.registry." then
    handleRemRegistrySyncCommand command
  else if !isSupportedMissionCommand command.commandType then
    return [.ofResult (rejectedResult command "unknown_command"
      ("Unsupported mission command '" ++ command.commandType ++ "'"))]
  else
    match (← core).validateRemTeamScope command with
    | .error (code, reason) => return [.ofResult (rejectedResult command code reason)]
    | .ok () =>
      match missionCapabilityMissing (← core) command with
      | some capability => return [.ofResult (unauthorizedResult command capability)]
      | none => runMissionSyncCommand command

/-- `handle_checklist_sync_command` past its checks. -/
def runChecklistSyncCommand (command : MissionCommandEnvelope) :
    CoreM (List MissionSyncResponse) := do
  match ← Proc.attempt (applyChecklistCommand command) with
  | .ok event => do
    recordAuditEvent command event
    return []
  | .error error => return [.ofResult (errorResult command error)]

/-- `handle_checklist_sync_command`. -/
def handleChecklistSyncCommand (command : MissionCommandEnvelope) :
    CoreM (List MissionSyncResponse) := do
  if !isSupportedChecklistCommand command.commandType then
    return [.ofResult (rejectedResult command "unknown_command"
      ("Unsupported checklist command '" ++ command.commandType ++ "'"))]
  else
    match (← core).validateRemTeamScope command with
    | .error (code, reason) => return [.ofResult (rejectedResult command code reason)]
    | .ok () =>
      match checklistCapabilityMissing (← core) command with
      | some capability => return [.ofResult (unauthorizedResult command capability)]
      | none => runChecklistSyncCommand command

end
end TelemetryHub
