import TelemetryHub.Core.Roster

/-!
# Missions

The mission commands of the registry. A mission is never removed: deleting it
sets its status.
-/

namespace TelemetryHub

open Lib CoreM

/-- A mission with the defaults of `upsert_mission_from_args`. -/
def MissionRecord.blank (uid missionName description : String) (now : Int) : MissionRecord :=
  { uid, missionName, description, topicId := none, path := none, classification := none,
    tool := none, keywords := [], parentUid := none, feeds := [], passwordHash := none,
    defaultRole := none, missionPriority := none, missionStatus := "MISSION_ACTIVE",
    ownerRole := none, token := none, inviteOnly := false, expiration := none,
    missionRdeRole := none, createdTsMs := now, updatedTsMs := now }

/-- The climb of `ensure_parent_chain_acyclic` from `current`, with what it has
seen. Every turn but the last sees a mission it had not seen, so a fuel of one
more than the number of missions is never used up. -/
def climbParents (missions : Dict String MissionRecord) :
    Nat → List String → Option String → Except RchCoreError Unit
  | _, _, none => .ok ()
  | 0, _, some _ => invalidPayload "mission parent relationship would create a cycle"
  | fuel + 1, seen, some uid =>
    if uid ∈ seen then invalidPayload "mission parent relationship would create a cycle"
    else match missions.get uid with
      | none => invalidPayload ("Parent mission '" ++ uid ++ "' not found")
      | some parent => climbParents missions fuel (uid :: seen) parent.parentUid

/-- `ensure_parent_chain_acyclic`. -/
def ensureParentChainAcyclic (core : RchCore) (missionUid : String) (parentUid : Option String) :
    Except RchCoreError Unit :=
  if parentUid = some missionUid then invalidPayload "parent_uid cannot reference itself"
  else climbParents core.missions (core.missions.values.length + 1) [missionUid] parentUid

/-- `ensure_marker_exists`. -/
def ensureMarkerExists (core : RchCore) (markerRef : String) : Except RchCoreError Unit :=
  let markerRef := trim markerRef
  if markerRef.isEmpty then invalidPayload "marker reference cannot be empty"
  else if core.markers.contains markerRef ||
      core.markers.values.any fun marker => marker.localId == markerRef then .ok ()
  else invalidPayload ("Marker '" ++ markerRef ++ "' not found")

section

variable [Host]

/-- A text field that an argument replaces, an empty one by nothing. -/
def patchedText (args : Value) (keys : List String) (current : Option String) : Option String :=
  match optionalTextOrEmpty args keys with
  | some text => noneIfEmpty text
  | none => current

/-- `resolve_parent_uid`. -/
def resolveParentUid (args : Value) (current : Option String) : Option String :=
  let rawParent := if args.containsKey "parent_uid" then args.get "parent_uid" else args.get "parent"
  match rawParent with
  | none => current
  | some rawParent => (valueAsStr ((rawParent.get "uid").getD rawParent)).bind noneIfEmpty

/-- The topic of a mission, checked to exist when an argument names one. -/
def missionTopicFromArgs (core : RchCore) (args : Value) (current : Option String) :
    Except RchCoreError (Option String) :=
  match optionalTextOrEmpty args ["topic_id"] with
  | none => .ok current
  | some topicId =>
    if topicId.isEmpty then .ok none
    else if core.topics.contains topicId then .ok (some topicId)
    else .error .topicNotFound

/-- `apply_mission_identity_fields`. -/
def applyMissionIdentityFields (core : RchCore) (args : Value) (mission : MissionRecord) :
    Except RchCoreError MissionRecord := do
  let missionName := (optionalText args ["mission_name", "name"]).getD mission.missionName
  if (trim missionName).isEmpty then invalidPayload "mission_name is required"
  let topicId ← missionTopicFromArgs core args mission.topicId
  return { mission with
    missionName, topicId
    description := (optionalTextOrEmpty args ["description"]).getD mission.description
    path := patchedText args ["path"] mission.path
    classification := patchedText args ["classification"] mission.classification
    tool := patchedText args ["tool"] mission.tool
    parentUid := resolveParentUid args mission.parentUid }

/-- A list field that an argument replaces. -/
def patchedList (args : Value) (key : String) (current : List String) :
    Except RchCoreError (List String) :=
  if args.containsKey key then stringList (args.get key) key else .ok current

/-- A role field that an argument replaces. -/
def patchedRole (args : Value) (key : String) (current : Option String) :
    Except RchCoreError (Option String) := do
  match optionalTextOrEmpty args [key] with
  | none => return current
  | some role => return noneIfEmpty (← normalizeMissionRole role key)

/-- `apply_optional_role_fields`. -/
def applyOptionalRoleFields (args : Value) (mission : MissionRecord) :
    Except RchCoreError MissionRecord := do
  let defaultRole ← patchedRole args "default_role" mission.defaultRole
  let ownerRole ← patchedRole args "owner_role" mission.ownerRole
  let missionRdeRole ← patchedRole args "mission_rde_role" mission.missionRdeRole
  return { mission with
    passwordHash := patchedText args ["password_hash"] mission.passwordHash
    defaultRole, ownerRole, missionRdeRole }

/-- The priority that `apply_optional_mission_status_fields` reads. -/
def missionPriorityFromArgs (args : Value) (current : Option Int) :
    Except RchCoreError (Option Int) := do
  if args.containsKey "mission_priority" then
    let priority ← optionalI64 args "mission_priority"
    if priority.all fun priority => 0 ≤ priority && priority ≤ 100 then return priority
    else invalidPayload "mission_priority must be between 0 and 100"
  else return current

/-- `apply_optional_mission_status_fields`. -/
def applyOptionalMissionStatusFields (args : Value) (mission : MissionRecord) :
    Except RchCoreError MissionRecord := do
  let missionStatus ←
    if args.containsKey "mission_status" then
      normalizeMissionStatus ((args.get "mission_status").bind valueAsStr)
    else pure mission.missionStatus
  let missionPriority ← missionPriorityFromArgs args mission.missionPriority
  return { mission with missionStatus, missionPriority }

/-- `apply_mission_metadata_fields`. -/
def applyMissionMetadataFields (args : Value) (mission : MissionRecord) :
    Except RchCoreError MissionRecord := do
  let keywords ← patchedList args "keywords" mission.keywords
  let feeds ← patchedList args "feeds" mission.feeds
  let mission ← applyOptionalRoleFields args { mission with keywords, feeds }
  let mission ← applyOptionalMissionStatusFields args mission
  return { mission with
    token := patchedText args ["token"] mission.token
    inviteOnly := (optionalBool args "invite_only").getD mission.inviteOnly
    expiration := patchedText args ["expiration"] mission.expiration }

/-- `upsert_mission_from_args`. -/
def upsertMissionFromArgs (args : Value) : CoreM MissionRecord := do
  let uid ← orNewUuid (optionalText args ["uid", "mission_id"])
  if (trim uid).isEmpty then throw (.invalidPayload "uid is required")
  let now ← utcNowMs
  let core ← core
  let mission := (core.missions.get uid).getD (.blank uid "Mission" "" now)
  let mission ← applyMissionIdentityFields core args mission
  let mission ← applyMissionMetadataFields args mission
  ensureParentChainAcyclic core uid mission.parentUid
  let mission := { mission with updatedTsMs := now }
  update fun core => { core with missions := core.missions.insert uid mission }
  return mission

/-- `patch_mission_from_args`. -/
def patchMissionFromArgs (args : Value) : CoreM MissionRecord := do
  let missionUid ← requiredText args ["mission_uid", "uid"]
  if !(← core).missions.contains missionUid then throw .missionNotFound
  let patch := ((args.get "patch").filter Value.isObject).getD args
  upsertMissionFromArgs (patch.insert "uid" (toValue missionUid))

/-- `get_mut` on a mission, the changed record written back. -/
def modifyMission (missionUid : String) (f : Int → MissionRecord → MissionRecord) :
    CoreM MissionRecord := do
  let mission ← Proc.orThrow ((← core).missions.get missionUid) .missionNotFound
  let mission := f (← utcNowMs) mission
  update fun core => { core with missions := core.missions.insert missionUid mission }
  return mission

/-- `delete_mission_from_args`. -/
def deleteMissionFromArgs (args : Value) : CoreM MissionRecord := do
  let missionUid ← requiredText args ["mission_uid", "uid"]
  modifyMission missionUid fun now mission =>
    { mission with missionStatus := "MISSION_DELETED", updatedTsMs := now }

/-- `set_mission_parent_from_args`. -/
def setMissionParentFromArgs (args : Value) : CoreM MissionRecord := do
  let missionUid ← requiredText args ["mission_uid", "uid"]
  if !(← core).missions.contains missionUid then throw .missionNotFound
  let parentUid := (optionalTextOrEmpty args ["parent_uid"]).bind noneIfEmpty
  ensureParentChainAcyclic (← core) missionUid parentUid
  modifyMission missionUid fun now mission => { mission with parentUid, updatedTsMs := now }

omit [Host] in
/-- `link_mission_zone`. -/
def linkMissionZone (missionUid zoneId : String) : CoreM MissionRecord := do
  let _ ← Proc.orThrow ((← core).missions.get missionUid) .missionNotFound
  if !(← core).zones.contains zoneId then
    throw (.invalidPayload ("Zone '" ++ zoneId ++ "' not found"))
  update fun core => { core with missionZoneLinks := core.missionZoneLinks.insert (missionUid, zoneId) }
  modifyMission missionUid fun now mission => { mission with updatedTsMs := now }

omit [Host] in
/-- `unlink_mission_zone`. -/
def unlinkMissionZone (missionUid zoneId : String) : CoreM MissionRecord := do
  let _ ← Proc.orThrow ((← core).missions.get missionUid) .missionNotFound
  update fun core => { core with missionZoneLinks := core.missionZoneLinks.erase (missionUid, zoneId) }
  modifyMission missionUid fun now mission => { mission with updatedTsMs := now }

omit [Host] in
/-- `link_mission_marker`. -/
def linkMissionMarker (missionUid markerId : String) : CoreM MissionRecord := do
  ensureMarkerExists (← core) markerId
  let _ ← Proc.orThrow ((← core).missions.get missionUid) .missionNotFound
  update fun core =>
    { core with missionMarkerLinks := core.missionMarkerLinks.insert (missionUid, markerId) }
  modifyMission missionUid fun now mission => { mission with updatedTsMs := now }

omit [Host] in
/-- `unlink_mission_marker`. -/
def unlinkMissionMarker (missionUid markerId : String) : CoreM MissionRecord := do
  let _ ← Proc.orThrow ((← core).missions.get missionUid) .missionNotFound
  update fun core =>
    { core with missionMarkerLinks := core.missionMarkerLinks.erase (missionUid, markerId) }
  modifyMission missionUid fun now mission => { mission with updatedTsMs := now }

/-- `set_mission_rde`. -/
def setMissionRde (missionUid role : String) : CoreM Value := do
  let role ← normalizeMissionRole role "role"
  let mission ← modifyMission missionUid fun now mission =>
    { mission with missionRdeRole := some role, updatedTsMs := now }
  return .object [
    ("mission_uid", toValue missionUid),
    ("role", toValue role),
    ("updated_at", toValue (millisToRfc3339 mission.updatedTsMs))]

/-- `apply_registry_mission_marker_command`. -/
def applyRegistryMissionMarkerCommand (command : MissionCommandEnvelope) : CoreM EventEnvelope := do
  let missionUid ← requiredText command.args ["mission_uid"]
  let markerId ← requiredText command.args ["marker_id", "marker_ref"]
  match command.commandType with
  | "mission.registry.mission.marker.link" =>
    let mission ← linkMissionMarker missionUid markerId
    return event "mission.registry.mission.marker.linked" command ((← core).missionValue mission)
  | "mission.registry.mission.marker.unlink" =>
    let mission ← unlinkMissionMarker missionUid markerId
    return event "mission.registry.mission.marker.unlinked" command ((← core).missionValue mission)
  | other => throw (.unsupportedCommand other)

/-- `apply_registry_mission_command`. -/
def applyRegistryMissionCommand (command : MissionCommandEnvelope) : CoreM EventEnvelope := do
  match command.commandType with
  | "mission.registry.mission.upsert" =>
    let mission ← upsertMissionFromArgs command.args
    return event "mission.registry.mission.upserted" command
      ((← core).missionValueWithArgs mission command.args)
  | "mission.registry.mission.get" =>
    let missionUid ← requiredText command.args ["mission_uid", "uid"]
    let mission ← Proc.orThrow ((← core).missions.get missionUid) .missionNotFound
    return event "mission.registry.mission.retrieved" command
      ((← core).missionValueWithArgs mission command.args)
  | "mission.registry.mission.list" =>
    return event "mission.registry.mission.listed" command
      (.object [("missions", .array ((← core).limitedMissionValues command.args))])
  | "mission.registry.mission.patch" =>
    let mission ← patchMissionFromArgs command.args
    return event "mission.registry.mission.updated" command
      ((← core).missionValueWithArgs mission command.args)
  | "mission.registry.mission.delete" =>
    let mission ← deleteMissionFromArgs command.args
    return event "mission.registry.mission.deleted" command ((← core).missionValue mission)
  | "mission.registry.mission.parent.set" =>
    let mission ← setMissionParentFromArgs command.args
    return event "mission.registry.mission.parent.updated" command ((← core).missionValue mission)
  | "mission.registry.mission.zone.link" =>
    let missionUid ← requiredText command.args ["mission_uid"]
    let zoneId ← requiredText command.args ["zone_id"]
    let mission ← linkMissionZone missionUid zoneId
    return event "mission.registry.mission.zone.linked" command ((← core).missionValue mission)
  | "mission.registry.mission.zone.unlink" =>
    let missionUid ← requiredText command.args ["mission_uid"]
    let zoneId ← requiredText command.args ["zone_id"]
    let mission ← unlinkMissionZone missionUid zoneId
    return event "mission.registry.mission.zone.unlinked" command ((← core).missionValue mission)
  | "mission.registry.mission.marker.link" | "mission.registry.mission.marker.unlink" =>
    applyRegistryMissionMarkerCommand command
  | "mission.registry.mission.rde.set" =>
    let missionUid ← requiredText command.args ["mission_uid"]
    let role ← requiredText command.args ["role"]
    return event "mission.registry.mission.rde.updated" command (← setMissionRde missionUid role)
  | other => throw (.unsupportedCommand other)

end
end TelemetryHub
