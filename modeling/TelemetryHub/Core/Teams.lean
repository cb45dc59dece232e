import TelemetryHub.Core.Missions
import TelemetryHub.Core.Eam

/-!
# Teams and team members
-/

namespace TelemetryHub

open Lib CoreM

/-- `set_team_mission_links`. -/
def setTeamMissionLinks (teamUid : String) (missionUids : List String) (core : RchCore) : RchCore :=
  let kept := core.missionTeamLinks.retain fun link => link.2 != teamUid
  { core with missionTeamLinks := kept.extend (missionUids.map fun uid => (uid, teamUid)) }

/-- `update_team_mission_refs`. -/
def updateTeamMissionRefs (teamUid : String) (missionUids : List String) : CoreM TeamRecord := do
  let team ← Proc.orThrow ((← core).teams.get teamUid) .teamNotFound
  let team := { team with
    missionUid := missionUids.head?
    missionUids := missionUids
    updatedTsMs := ← utcNowMs }
  update fun core => { core with teams := core.teams.insert teamUid team }
  return team

/-- `refresh_team_member_clients`. -/
def refreshTeamMemberClients (uid : String) : CoreM TeamMemberRecord := do
  let clientIdentities := (← core).teamMemberClientIds uid
  let member ← Proc.orThrow ((← core).teamMembers.get uid) .teamMemberNotFound
  let member := { member with clientIdentities, updatedTsMs := ← utcNowMs }
  update fun core => { core with teamMembers := core.teamMembers.insert uid member }
  return member

section

variable [Host]

omit [Host] in
/-- `team_refs_provided`. -/
def teamRefsProvided (args : Value) : Bool :=
  args.containsKey "mission_uid" || args.containsKey "mission_id" || args.containsKey "mission_uids"

/-- `team_mission_uids_from_args`. -/
def teamMissionUidsFromArgs (core : RchCore) (args : Value) : Except RchCoreError (List String) := do
  let listed ← patchedList args "mission_uids" []
  let missionUids :=
    dedupeNonEmpty (listed ++ (optionalText args ["mission_uid", "mission_id"]).toList)
  missionUids.forM fun missionUid =>
    if core.missions.contains missionUid then .ok () else .error .missionNotFound
  return missionUids

/-- The colour of a team that is not canonical, checked when an argument gives one. -/
def teamColorFromArgs (args : Value) (current : Option String) : Except RchCoreError (Option String) :=
  match optionalTextOrEmpty args ["color"] with
  | some color => (normalizeTeamColor color).map noneIfEmpty
  | none => .ok current

/-- The colour and the name of a team, from its canonical colour or the arguments. -/
def teamNamingFromArgs (args : Value) (canonicalTeam : Option (String × String))
    (team : TeamRecord) : Except RchCoreError TeamRecord := do
  match canonicalTeam with
  | some (_, canonicalColor) =>
    return { team with color := some canonicalColor, teamName := canonicalColor }
  | none =>
    let color ← teamColorFromArgs args team.color
    return { team with color, teamName := (optionalText args ["team_name", "name"]).getD team.teamName }

/-- The missions of a team and their links, where the arguments name missions. -/
def setTeamMissionsFromArgs (uid : String) (args : Value) (team : TeamRecord) : CoreM TeamRecord := do
  if teamRefsProvided args then do
    let missionUids ← teamMissionUidsFromArgs (← core) args
    update (setTeamMissionLinks uid missionUids)
    return { team with missionUids, missionUid := missionUids.head? }
  else return team

/-- `upsert_team_from_args`. The links are set before the colour is checked. -/
def upsertTeamFromArgs (args : Value) : CoreM TeamRecord := do
  let requestedUid := optionalText args ["uid"]
  let canonicalTeam := canonicalTeamFromTeamArgs args requestedUid
  let uid ← orNewUuid ((canonicalTeam.map Prod.fst).or requestedUid)
  let now ← utcNowMs
  let team := ((← core).teams.get uid).getD
    { uid, missionUid := none, missionUids := [], color := none, teamName := "Team",
      teamDescription := "", createdTsMs := now, updatedTsMs := now }
  let team ← setTeamMissionsFromArgs uid args team
  let team ← teamNamingFromArgs args canonicalTeam team
  let team := { team with
    teamDescription :=
      (optionalTextOrEmpty args ["team_description", "description"]).getD team.teamDescription
    updatedTsMs := now }
  update fun core => { core with teams := core.teams.insert uid team }
  return team

/-- `delete_team_from_args`. -/
def deleteTeamFromArgs (args : Value) : CoreM TeamRecord := do
  let teamUid ← requiredText args ["team_uid", "uid"]
  let team ← Proc.orThrow ((← core).teams.get teamUid) .teamNotFound
  let teamMembers ← rewriteWhere (fun member => member.teamUid == some teamUid)
    (fun now member => { member with teamUid := none, updatedTsMs := now }) (← core).teamMembers
  update fun core => { core with
    teams := core.teams.remove teamUid
    teamMembers
    missionTeamLinks := core.missionTeamLinks.retain fun link => link.2 != teamUid }
  return team

/-- `link_team_mission_from_args`. -/
def linkTeamMissionFromArgs (args : Value) : CoreM TeamRecord := do
  let teamUid ← requiredText args ["team_uid", "uid"]
  let missionUid ← requiredText args ["mission_uid", "mission_id"]
  if !(← core).missions.contains missionUid then throw .missionNotFound
  let missionUids := (← core).teamMissionIds teamUid
  let missionUids := dedupeNonEmpty
    (if missionUids.contains missionUid then missionUids else missionUids ++ [missionUid])
  update (setTeamMissionLinks teamUid missionUids)
  updateTeamMissionRefs teamUid missionUids

/-- `unlink_team_mission_from_args`. -/
def unlinkTeamMissionFromArgs (args : Value) : CoreM TeamRecord := do
  let teamUid ← requiredText args ["team_uid", "uid"]
  let missionUid ← requiredText args ["mission_uid", "mission_id"]
  let missionUids := ((← core).teamMissionIds teamUid).filter fun uid => uid != missionUid
  update (setTeamMissionLinks teamUid missionUids)
  updateTeamMissionRefs teamUid missionUids

/-- `apply_registry_team_command`. -/
def applyRegistryTeamCommand (command : MissionCommandEnvelope) : CoreM EventEnvelope := do
  match command.commandType with
  | "mission.registry.team.upsert" =>
    return event "mission.registry.team.upserted" command
      (teamValue (← upsertTeamFromArgs command.args))
  | "mission.registry.team.get" =>
    let teamUid ← requiredText command.args ["team_uid", "uid"]
    let team ← Proc.orThrow ((← core).teams.get teamUid) .teamNotFound
    return event "mission.registry.team.retrieved" command (teamValue team)
  | "mission.registry.team.list" =>
    return event "mission.registry.team.listed" command
      (.object [("teams", .array ((← core).teamValues (optionalText command.args ["mission_uid"])))])
  | "mission.registry.team.delete" =>
    return event "mission.registry.team.deleted" command
      (teamValue (← deleteTeamFromArgs command.args))
  | "mission.registry.team.mission.link" =>
    return event "mission.registry.team.mission.linked" command
      (teamValue (← linkTeamMissionFromArgs command.args))
  | "mission.registry.team.mission.unlink" =>
    return event "mission.registry.team.mission.unlinked" command
      (teamValue (← unlinkTeamMissionFromArgs command.args))
  | other => throw (.unsupportedCommand other)

/-! ## Members -/

/-- `apply_optional_member_contact_fields`. -/
def applyOptionalMemberContactFields (args : Value) (member : TeamMemberRecord) :
    Except RchCoreError TeamMemberRecord := do
  let certifications ← patchedList args "certifications" member.certifications
  return { member with
    email := patchedText args ["email"] member.email
    phone := patchedText args ["phone"] member.phone
    modulation := patchedText args ["modulation"] member.modulation
    availability := patchedText args ["availability"] member.availability
    certifications
    lastActive := patchedText args ["last_active"] member.lastActive }

/-- The team of a member, checked to exist when an argument names one. -/
def memberTeamFromArgs (core : RchCore) (args : Value) (current : Option String) :
    Except RchCoreError (Option String) :=
  if args.containsKey "team_uid" then
    match (optionalTextOrEmpty args ["team_uid"]).bind noneIfEmpty with
    | some teamUid => if core.teams.contains teamUid then .ok (some teamUid) else .error .teamNotFound
    | none => .ok none
  else .ok current

/-- The role of a member, checked when an argument gives one. -/
def memberRoleFromArgs (args : Value) (current : Option String) : Except RchCoreError (Option String) :=
  match optionalTextOrEmpty args ["role"] with
  | some role => (normalizeTeamRole role).map noneIfEmpty
  | none => .ok current

/-- `apply_team_member_fields`. -/
def applyTeamMemberFields (core : RchCore) (args : Value) (member : TeamMemberRecord) :
    Except RchCoreError TeamMemberRecord := do
  let teamUid ← memberTeamFromArgs core args member.teamUid
  let role ← memberRoleFromArgs args member.role
  let freq ← optionalF64 args "freq"
  applyOptionalMemberContactFields args { member with
    teamUid, role
    displayName := (optionalText args ["display_name", "callsign"]).getD member.displayName
    icon := patchedText args ["icon"] member.icon
    callsign := patchedText args ["callsign"] member.callsign
    freq := freq.or member.freq }

/-- `upsert_team_member_from_args`. -/
def upsertTeamMemberFromArgs (args : Value) : CoreM TeamMemberRecord := do
  let uid ← orNewUuid (optionalText args ["uid"])
  let identity ← requiredText args ["rns_identity", "team_member_rns_identity"]
  let now ← utcNowMs
  let core ← core
  let member := (core.teamMembers.get uid).getD (.blank uid identity identity none none now)
  let member ← applyTeamMemberFields core args { member with rnsIdentity := identity }
  let member := { member with
    clientIdentities := core.teamMemberClientIds uid
    updatedTsMs := now }
  update fun core => { core with teamMembers := core.teamMembers.insert uid member }
  return member

omit [Host] in
/-- `upsert_team_member_from_identity_announce`. -/
def upsertTeamMemberFromIdentityAnnounce (announce : IdentityAnnounceRecord) :
    CoreM TeamMemberRecord := do
  let identity ← Proc.orThrow
    ((announce.announcedIdentityHash.bind normalizeHash).or (normalizeHash announce.destinationHash))
    (.invalidPayload "identity announce key is required")
  let displayName := (announce.displayName.bind fun value => noneIfEmpty (trim value)).getD identity
  let core ← core
  let uid := ((core.teamMembers.toPairs.find? fun entry =>
    normalizeHash entry.2.rnsIdentity == some identity).map Prod.fst).getD identity
  let clientIdentities := core.teamMemberClientIds uid
  let now ← utcNowMs
  let member := (core.teamMembers.get uid).getD (.blank uid identity displayName none none now)
  let member := { member with
    rnsIdentity := identity
    displayName := displayName
    clientIdentities := clientIdentities
    updatedTsMs := now }
  update fun core => { core with teamMembers := core.teamMembers.insert uid member }
  return member

/-- `delete_team_member_from_args`. -/
def deleteTeamMemberFromArgs (args : Value) : CoreM TeamMemberRecord := do
  let uid ← requiredText args ["team_member_uid", "uid"]
  let member ← Proc.orThrow ((← core).teamMembers.get uid) .teamMemberNotFound
  let assets ← rewriteWhere (fun asset => asset.teamMemberUid == some uid)
    (fun now asset => { asset with teamMemberUid := none, updatedTsMs := now }) (← core).assets
  update fun core => { core with
    teamMembers := core.teamMembers.remove uid
    assets
    teamMemberClientLinks := core.teamMemberClientLinks.retain fun link => link.1 != uid
    teamMemberSkills := core.teamMemberSkills.retain fun _ skill =>
      skill.teamMemberRnsIdentity != member.rnsIdentity }
  return member

/-- The client identity of a link command. -/
def requiredClientIdentity (args : Value) : Except RchCoreError String :=
  normalizeRequiredIdentity (optionalText args ["client_identity"]) "client_identity"

/-- `link_team_member_client_from_args`. -/
def linkTeamMemberClientFromArgs (args : Value) : CoreM TeamMemberRecord := do
  let uid ← requiredText args ["team_member_uid", "uid"]
  let identity ← requiredClientIdentity args
  if !(← core).teamMembers.contains uid then throw .teamMemberNotFound
  update fun core =>
    { core with teamMemberClientLinks := core.teamMemberClientLinks.insert (uid, identity) }
  refreshTeamMemberClients uid

/-- `unlink_team_member_client_from_args`. The link goes before the member is
looked up. -/
def unlinkTeamMemberClientFromArgs (args : Value) : CoreM TeamMemberRecord := do
  let uid ← requiredText args ["team_member_uid", "uid"]
  let identity ← requiredClientIdentity args
  update fun core =>
    { core with teamMemberClientLinks := core.teamMemberClientLinks.erase (uid, identity) }
  refreshTeamMemberClients uid

/-- `apply_registry_team_member_command`. -/
def applyRegistryTeamMemberCommand (command : MissionCommandEnvelope) : CoreM EventEnvelope := do
  match command.commandType with
  | "mission.registry.team_member.upsert" =>
    return event "mission.registry.team_member.upserted" command
      (teamMemberValue (← upsertTeamMemberFromArgs command.args))
  | "mission.registry.team_member.get" =>
    let uid ← requiredText command.args ["team_member_uid", "uid"]
    let member ← Proc.orThrow ((← core).teamMembers.get uid) .teamMemberNotFound
    return event "mission.registry.team_member.retrieved" command (teamMemberValue member)
  | "mission.registry.team_member.list" =>
    return event "mission.registry.team_member.listed" command (.object [("team_members",
      .array ((← core).teamMemberValues (optionalText command.args ["team_uid"])))])
  | "mission.registry.team_member.delete" =>
    return event "mission.registry.team_member.deleted" command
      (teamMemberValue (← deleteTeamMemberFromArgs command.args))
  | "mission.registry.team_member.client.link" =>
    return event "mission.registry.team_member.client.linked" command
      (teamMemberValue (← linkTeamMemberClientFromArgs command.args))
  | "mission.registry.team_member.client.unlink" =>
    return event "mission.registry.team_member.client.unlinked" command
      (teamMemberValue (← unlinkTeamMemberClientFromArgs command.args))
  | other => throw (.unsupportedCommand other)

end
end TelemetryHub
