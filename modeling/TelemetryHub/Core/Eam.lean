import TelemetryHub.Core.Roster

/-!
# Emergency action messages

A team member's status report. A report is written to the snapshot its subject
or its callsign already has, and the team and the member it names are set up on
the way.
-/

namespace TelemetryHub

open Lib CoreM

/-! ## Canonical teams -/

/-- The uid and the colour of every canonical team. -/
def canonicalTeams : List (String × String) :=
  [("d6b6e188b910d6bdd24d04b7a7ec5444", "YELLOW"), ("65ce79a3a3e4b51ec0ec52d1d3d2b0b9", "RED"),
    ("43341e5c822d99857fa6e8641f2ca9c0", "BLUE"), ("a83eb640e4c4884be14831e3d7ef5ae0", "ORANGE"),
    ("7ac50a910f42b06cd9cb68dad3def681", "MAGENTA"), ("372824ef4f15881291455562f7570233", "MAROON"),
    ("4bf2a1d2217c8668942658137f2a6824", "PURPLE"), ("cbb35fc9a8f5a91d7bd2b5e5b644edcd", "DARK_BLUE"),
    ("d4cd5030b68df059ec6beabe416dd6a6", "CYAN"), ("4d7a7a974beec395bf83491604768499", "TEAL"),
    ("612a32262163b73a80eca944c2158546", "GREEN"),
    ("341653613d4c76d56bee99c1f38177b1", "DARK_GREEN"),
    ("4efe72ac30f5b85142fdcab6d96c7631", "BROWN")]

/-- `canonical_team_color_for_uid`. -/
def canonicalTeamColorForUid (teamUid : String) : Option String := canonicalTeams.lookup teamUid

/-- `canonical_team_for_uid`. -/
def canonicalTeamForUid (teamUid : String) : Option (String × String) :=
  (canonicalTeamColorForUid teamUid).map fun color => (teamUid, color)

/-- `canonical_team_uid_for_color`. -/
def canonicalTeamUidForColor (color : String) : Option String :=
  (canonicalTeams.find? fun team => team.2 == color).map Prod.fst

section

variable [Host]

/-- The team colour an argument spells. -/
def teamColorFromArg (args : Value) (field : String) : Option String :=
  (optionalText args [field]).bind fun value => (normalizeTeamColor value).toOption

/-- `canonical_team_from_team_args`. -/
def canonicalTeamFromTeamArgs (args : Value) (requestedUid : Option String) :
    Option (String × String) :=
  match requestedUid with
  | some uid => canonicalTeamForUid uid
  | none =>
    let hasNoncanonicalName := ["team_name", "name", "group_name"].any fun field =>
      (teamColorFromArg args field).isNone
    ["color", "team_name", "name", "group_name"].findSome? fun field =>
      if field = "color" && hasNoncanonicalName then none
      else ((teamColorFromArg args field).bind canonicalTeamUidForColor).bind canonicalTeamForUid

/-! ## Statuses -/

/-- `EamStatuses`. -/
structure EamStatuses where
  security : String
  capability : String
  preparedness : String
  medical : String
  mobility : String
  comms : String

/-- `EamStatuses::from_args`. -/
def EamStatuses.fromArgs (args : Value) : Except RchCoreError EamStatuses := do
  let security ← normalizeEamStatus (optionalValueText args "security_status")
  let capability ← normalizeEamStatus (optionalValueText args "capability_status")
  let preparedness ← normalizeEamStatus (optionalValueText args "preparedness_status")
  let medical ← normalizeEamStatus (optionalValueText args "medical_status")
  let mobility ← normalizeEamStatus (optionalValueText args "mobility_status")
  let comms ← normalizeEamStatus (optionalValueText args "comms_status")
  return { security, capability, preparedness, medical, mobility, comms }

omit [Host] in
/-- `aggregate_eam_status`. -/
def aggregateEamStatus (statuses : EamStatuses) : String :=
  let values := [statuses.security, statuses.capability, statuses.preparedness, statuses.medical,
    statuses.mobility, statuses.comms]
  if values.contains "Red" then "Red"
  else if values.contains "Yellow" then "Yellow"
  else if values.any fun value => value != "Unknown" then "Green"
  else "Unknown"

/-! ## Reading snapshots -/

/-- The snapshot has not been deleted. -/
def EamSnapshotRecord.active (eam : EamSnapshotRecord) : Bool := eam.deletedTsMs.isNone

omit [Host] in
/-- `eam_is_expired`. -/
def eamIsExpired (eam : EamSnapshotRecord) : CoreM Bool := do
  match eam.ttlSeconds with
  | none => return false
  | some ttl => return i64 (eam.reportedTsMs + i64 (ttl * 1000)) ≤ (← utcNowMs)

omit [Host] in
/-- `deleted_ts_ms.is_none() && !eam_is_expired(eam)`. -/
def eamIsCurrent (eam : EamSnapshotRecord) : CoreM Bool := do
  if eam.active then return !(← eamIsExpired eam) else return false

omit [Host] in
/-- The first snapshot that satisfies `p` and is current. -/
def findCurrent (p : EamSnapshotRecord → Bool) :
    List EamSnapshotRecord → CoreM (Option EamSnapshotRecord)
  | [] => return none
  | eam :: rest => do
    if p eam then
      if ← eamIsCurrent eam then return some eam
    findCurrent p rest

omit [Host] in
/-- The snapshots that satisfy `p` and are current. -/
def filterCurrent (p : EamSnapshotRecord → Bool) :
    List EamSnapshotRecord → CoreM (List EamSnapshotRecord)
  | [] => return []
  | eam :: rest => do
    if p eam then
      if ← eamIsCurrent eam then return eam :: (← filterCurrent p rest)
    filterCurrent p rest

omit [Host] in
/-- The status a listing is narrowed to, checked. -/
def eamStatusFilter (overallStatus : Option String) : Except RchCoreError (Option String) :=
  match overallStatus with
  | some status => (normalizeEamStatus (some status)).map some
  | none => .ok none

/-- `eam_values`. -/
def eamValues (teamUid overallStatus : Option String) : CoreM (List Value) := do
  let overallStatus ← eamStatusFilter overallStatus
  let eams ← filterCurrent (fun _ => true) (← core).eamSnapshotList
  return ((eams.filter fun eam => teamUid.all fun uid => eam.teamUid == uid).filter fun eam =>
    overallStatus.all fun status => eam.overallStatus == status).map eamValue

omit [Host] in
/-- `active_eam_by_callsign`. -/
def activeEamByCallsign (callsign : String) : CoreM EamSnapshotRecord := do
  let found ← findCurrent (fun eam => eam.callsign == callsign) (← core).eamSnapshots.values
  Proc.orThrow found .eamNotFound

omit [Host] in
/-- `latest_eam_by_member`. -/
def latestEamByMember (member : String) : CoreM EamSnapshotRecord := do
  let eams ← filterCurrent (fun eam => eam.teamMemberUid == member) (← core).eamSnapshots.values
  Proc.orThrow (maxBy (fun left right => compare left.reportedTsMs right.reportedTsMs) eams)
    .eamNotFound

omit [Host] in
/-- `eam_group_name_for_team`. -/
def eamGroupNameForTeam (core : RchCore) (teamUid : String) : Option String :=
  match canonicalTeamColorForUid teamUid with
  | some color => some color
  | none => (core.teams.get teamUid).bind fun team => team.color.or (noneIfEmpty team.teamName)

/-- `eam_team_summary`. -/
def eamTeamSummary (teamUid : String) : CoreM Value := do
  let core ← core
  if !core.teams.contains teamUid then
    throw (.invalidPayload ("Team '" ++ teamUid ++ "' not found"))
  let rows := core.eamSnapshots.values.filter fun eam => eam.teamUid == teamUid
  let active ← filterCurrent (fun _ => true) rows
  let total (status : String) : Nat := (active.filter fun eam => eam.overallStatus == status).length
  let overallStatus : Option String :=
    if total "Red" > 0 then some "Red"
    else if total "Yellow" > 0 then some "Yellow"
    else if total "Green" > 0 then some "Green"
    else none
  let updatedAtMs ←
    match (rows.map EamSnapshotRecord.updatedTsMs).max? with
    | some updated => pure updated
    | none => utcNowMs
  return .object [
    ("team_uid", toValue teamUid),
    ("total", toValue rows.length),
    ("active_total", toValue active.length),
    ("deleted_total", toValue (rows.length - active.length)),
    ("overall_status", toValue overallStatus),
    ("green_total", toValue (total "Green")),
    ("yellow_total", toValue (total "Yellow")),
    ("red_total", toValue (total "Red")),
    ("updated_at_ms", toValue updatedAtMs)]

/-! ## Writing snapshots -/

omit [Host] in
/-- The fields a report may not carry, and what the error says of each. -/
def disallowedEamFields : List (String × String) :=
  [("subject_type", "subject_type is not supported southbound; EAM is member-scoped only"),
    ("subjectType", "subjectType is not supported southbound; EAM is member-scoped only"),
    ("subject_id", "subject_id is not supported southbound; use team_member_uid"),
    ("subjectId", "subjectId is not supported southbound; use team_member_uid"),
    ("teamId", "teamId is not supported southbound; use team_uid"),
    ("reportedAt", "reportedAt is not supported southbound; use reported_at"),
    ("reportedBy", "reportedBy is not supported southbound; use reported_by"),
    ("overall_status", "overall_status is computed server-side and is not accepted on writes"),
    ("overallStatus", "overallStatus is computed server-side and is not accepted on writes"),
    ("groupName", "groupName is not supported southbound; use group_name"),
    ("securityStatus", "securityStatus is not supported southbound; use security_status"),
    ("capabilityStatus", "capabilityStatus is not supported southbound; use capability_status"),
    ("preparednessStatus", "preparednessStatus is not supported southbound; use preparedness_status"),
    ("medicalStatus", "medicalStatus is not supported southbound; use medical_status"),
    ("mobilityStatus", "mobilityStatus is not supported southbound; use mobility_status"),
    ("commsStatus", "commsStatus is not supported southbound; use comms_status"),
    ("ttlSeconds", "ttlSeconds is not supported southbound; use ttl_seconds"),
    ("securityCapability", "securityCapability is not supported southbound; use capability_status")]

omit [Host] in
/-- `reject_disallowed_eam_fields`. -/
def rejectDisallowedEamFields (args : Value) : Except RchCoreError Unit :=
  match disallowedEamFields.find? fun field => args.containsKey field.1 with
  | some field => invalidPayload field.2
  | none => .ok ()

omit [Host] in
/-- A team as `ensure_eam_team_and_member` sets it up. -/
def canonicalTeamRecord (teamUid color : String) (now : Int) : TeamRecord :=
  { uid := teamUid, missionUid := none, missionUids := [], color := some color, teamName := color,
    teamDescription := "", createdTsMs := now, updatedTsMs := now }

omit [Host] in
/-- A team member with the optional fields empty. -/
def TeamMemberRecord.blank (uid identity displayName : String) (teamUid callsign : Option String)
    (now : Int) : TeamMemberRecord :=
  { uid, teamUid, rnsIdentity := identity, displayName, icon := none, role := none, callsign,
    freq := none, email := none, phone := none, modulation := none, availability := none,
    certifications := [], lastActive := none, clientIdentities := [], createdTsMs := now,
    updatedTsMs := now }

omit [Host] in
/-- The team part of `ensure_eam_team_and_member`: set up or brought back to its
canonical colour and name. -/
def ensureEamTeam (teamUid : String) : CoreM Unit := do
  let canonicalColor := canonicalTeamColorForUid teamUid
  match (← core).teams.get teamUid with
  | none =>
    let color ← Proc.orThrow canonicalColor
      (.invalidPayload ("team_uid '" ++ teamUid ++ "' does not map to a team"))
    let team := canonicalTeamRecord teamUid color (← utcNowMs)
    update fun core => { core with teams := core.teams.insert teamUid team }
  | some team =>
    match canonicalColor with
    | some color =>
      let team := { team with color := some color, teamName := color, updatedTsMs := ← utcNowMs }
      update fun core => { core with teams := core.teams.insert teamUid team }
    | none => pure ()

/-- The member part of `ensure_eam_team_and_member`. -/
def ensureEamMember (teamUid teamMemberUid callsign : String) (args : Value) : CoreM Unit := do
  match (← core).teamMembers.get teamMemberUid with
  | some member =>
    if member.teamUid ≠ some teamUid then
      throw (.invalidPayload
        ("team_member_uid '" ++ teamMemberUid ++ "' does not belong to team_uid '" ++ teamUid ++ "'"))
  | none =>
    let identity ← Proc.orThrow
      ((args.get "source").bind fun source => optionalText source ["rns_identity"])
      (.invalidPayload ("team_member_uid '" ++ teamMemberUid ++
        "' is missing and source.rns_identity is required to provision it"))
    let displayName := (optionalText args ["reported_by"]).getD callsign
    let member := TeamMemberRecord.blank teamMemberUid identity displayName (some teamUid)
      (some callsign) (← utcNowMs)
    update fun core => { core with teamMembers := core.teamMembers.insert teamMemberUid member }

/-- The group name of a canonical team must be its colour. -/
def checkGroupName (teamUid : String) (args : Value) : Except RchCoreError Unit :=
  match optionalText args ["group_name"], canonicalTeamColorForUid teamUid with
  | some groupName, some color =>
    if (normalizeTeamColor groupName).toOption = some color then .ok ()
    else invalidPayload
      ("group_name '" ++ groupName ++ "' does not match canonical team_uid '" ++ teamUid ++ "'")
  | _, _ => .ok ()

/-- `ensure_eam_team_and_member`. -/
def ensureEamTeamAndMember (teamUid teamMemberUid callsign : String) (args : Value) :
    CoreM Unit := do
  checkGroupName teamUid args
  ensureEamTeam teamUid
  ensureEamMember teamUid teamMemberUid callsign args

omit [Host] in
/-- The uid of the first active snapshot that satisfies `p`. -/
def findActiveUid (core : RchCore) (p : EamSnapshotRecord → Bool) : Option String :=
  (core.eamSnapshots.values.find? fun eam => p eam && eam.active).map EamSnapshotRecord.eamUid

omit [Host] in
/-- The uids of the deleted snapshots with this subject or this callsign. -/
def deletedEamUids (core : RchCore) (teamMemberUid callsign : String) : List String :=
  ((core.eamSnapshots.values.filter fun eam =>
    (eam.teamMemberUid == teamMemberUid || eam.callsign == callsign) && !eam.active).map
    EamSnapshotRecord.eamUid).dedup

omit [Host] in
/-- The snapshot a report is written to: the lookups and the checks between them. -/
def resolveEamUid (core : RchCore) (callsign teamMemberUid : String) :
    Except RchCoreError (Option String) := do
  let activeMemberUid := findActiveUid core fun eam => eam.teamMemberUid == teamMemberUid
  let activeCallsignUid := findActiveUid core fun eam => eam.callsign == callsign
  if activeCallsignUid.isSome && activeMemberUid != activeCallsignUid then
    invalidPayload ("callsign '" ++ callsign ++ "' is already assigned to another status snapshot")
  let deletedUids := deletedEamUids core teamMemberUid callsign
  if deletedUids.length > 1 then
    invalidPayload ("eam_uid cannot be recreated because deleted subject and callsign snapshots " ++
      "refer to different records")
  return (activeMemberUid.or activeCallsignUid).or deletedUids.head?

/-- A uid given by the caller must be the one the subject's active snapshot has. -/
def checkProvidedEamUid (core : RchCore) (teamMemberUid eamUid : String) (args : Value) :
    Except RchCoreError Unit :=
  match findActiveUid core fun eam => eam.teamMemberUid == teamMemberUid with
  | none => .ok ()
  | some activeUid =>
    if (optionalText args ["eam_uid"]).all fun provided => provided == activeUid then .ok ()
    else invalidPayload ("eam_uid '" ++ eamUid ++
      "' does not match the existing snapshot for team_member_uid '" ++ teamMemberUid ++ "'")

/-- The confidence of a report. -/
def eamConfidence (args : Value) : Except RchCoreError (Option Float) := do
  let confidence ← optionalF64 args "confidence"
  if confidence.all fun value => 0 ≤ value && value ≤ 1 then return confidence
  else invalidPayload "confidence must be between 0 and 1"

/-- The time to live of a report. -/
def eamTtlSeconds (args : Value) : Except RchCoreError (Option Int) := do
  let ttlSeconds ← optionalI64 args "ttl_seconds"
  if ttlSeconds.all fun value => 0 ≤ value then return ttlSeconds
  else invalidPayload "ttl_seconds must be greater than or equal to 0"

/-- `upsert_eam_from_args`. The team and the member are written first. -/
def upsertEamFromArgs (args : Value) : CoreM EamSnapshotRecord := do
  rejectDisallowedEamFields args
  let callsign ← requiredText args ["callsign"]
  let teamMemberUid ← requiredText args ["team_member_uid"]
  let teamUid ← requiredText args ["team_uid"]
  ensureEamTeamAndMember teamUid teamMemberUid callsign args
  let core ← core
  let existingUid ← resolveEamUid core callsign teamMemberUid
  let eamUid ← orNewUuid ((optionalText args ["eam_uid"]).or existingUid)
  checkProvidedEamUid core teamMemberUid eamUid args
  let now ← utcNowMs
  let statuses ← EamStatuses.fromArgs args
  let confidence ← eamConfidence args
  let ttlSeconds ← eamTtlSeconds args
  let reportedAt ← optionalTimestampMs args ["reported_at"]
  let eam : EamSnapshotRecord :=
    { eamUid, callsign, teamMemberUid, teamUid, confidence, ttlSeconds
      groupName := ((optionalTextOrEmpty args ["group_name"]).bind noneIfEmpty).or
        (eamGroupNameForTeam core teamUid)
      reportedBy := (optionalTextOrEmpty args ["reported_by"]).bind noneIfEmpty
      reportedTsMs := reportedAt.getD now
      overallStatus := aggregateEamStatus statuses
      securityStatus := statuses.security
      capabilityStatus := statuses.capability
      preparednessStatus := statuses.preparedness
      medicalStatus := statuses.medical
      mobilityStatus := statuses.mobility
      commsStatus := statuses.comms
      notes := (optionalTextOrEmpty args ["notes"]).bind noneIfEmpty
      source := (args.get "source").filter Value.isObject
      updatedTsMs := now
      deletedTsMs := none }
  update fun core => { core with eamSnapshots := core.eamSnapshots.insert eamUid eam }
  return eam

omit [Host] in
/-- `delete_eam_by_callsign`. -/
def deleteEamByCallsign (callsign : String) : CoreM EamSnapshotRecord := do
  let eamUid := (← activeEamByCallsign callsign).eamUid
  let eam ← Proc.orThrow ((← core).eamSnapshots.get eamUid) .eamNotFound
  let eam := { eam with deletedTsMs := some (← utcNowMs) }
  update fun core => { core with eamSnapshots := core.eamSnapshots.insert eamUid eam }
  return eam

/-- `apply_registry_eam_command`. -/
def applyRegistryEamCommand (command : MissionCommandEnvelope) : CoreM EventEnvelope := do
  match command.commandType with
  | "mission.registry.eam.list" =>
    let eams ← eamValues (optionalText command.args ["team_uid"])
      (optionalText command.args ["overall_status"])
    return event "mission.registry.eam.listed" command (.object [("eams", .array eams)])
  | "mission.registry.eam.upsert" =>
    let eam ← upsertEamFromArgs command.args
    return event "mission.registry.eam.upserted" command (.object [("eam", eamValue eam)])
  | "mission.registry.eam.get" =>
    let eam ← activeEamByCallsign (← requiredText command.args ["callsign"])
    return event "mission.registry.eam.retrieved" command (.object [("eam", eamValue eam)])
  | "mission.registry.eam.latest" =>
    let eam ← latestEamByMember (← requiredText command.args ["team_member_uid"])
    return event "mission.registry.eam.latest_retrieved" command (.object [("eam", eamValue eam)])
  | "mission.registry.eam.delete" =>
    let eam ← deleteEamByCallsign (← requiredText command.args ["callsign"])
    return event "mission.registry.eam.deleted" command (.object [("eam", eamValue eam)])
  | "mission.registry.eam.team.summary" =>
    let summary ← eamTeamSummary (← requiredText command.args ["team_uid"])
    return event "mission.registry.eam.team_summary.retrieved" command (.object [("summary", summary)])
  | other => throw (.unsupportedCommand other)

end
end TelemetryHub
