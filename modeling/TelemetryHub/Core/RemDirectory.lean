import TelemetryHub.Core.Eam

/-!
# The REM peer registry and the TEAM directory

What the REM registry commands answer: the peers heard of lately, and for one
source the members of the canonical teams it belongs to.
-/

namespace TelemetryHub

open Lib CoreM

namespace RchCore

variable (core : RchCore)

/-- `identity_announce_has_rem_capabilities`. -/
def identityAnnounceHasRemCapabilities (record : IdentityAnnounceRecord) : Bool :=
  record.announceCapabilities.contains "r3akt" &&
    record.announceCapabilities.contains "emergencymessages"

/-- The order of `identity_announce_for_identity`. -/
def compareAnnounces (left right : IdentityAnnounceRecord) : Ordering :=
  ((compare (decide (left.sourceInterface = some "identity"))
      (decide (right.sourceInterface = some "identity"))).then
    (compare left.displayName.isSome right.displayName.isSome)).then
    (compare left.lastSeenTsMs right.lastSeenTsMs)

/-- `identity_announce_for_identity`. -/
def identityAnnounceForIdentity (identity : String) : Option IdentityAnnounceRecord :=
  (normalizeHash identity).bind fun identity =>
    (core.identityAnnounces.get identity).or
      (maxBy compareAnnounces (core.identityAnnounces.values.filter fun record =>
        record.announcedIdentityHash == some identity))

/-- `identity_has_rem_announce_capabilities`. -/
def identityHasRemAnnounceCapabilities (identity : String) : Bool :=
  (core.identityAnnounceForIdentity identity).any identityAnnounceHasRemCapabilities

/-- `canonical_identity_for_rem_source`. -/
def canonicalIdentityForRemSource (source : String) : Option String :=
  (normalizeHash source).bind fun source =>
    ((core.identityAnnounceForIdentity source).bind fun record =>
      record.announcedIdentityHash.bind normalizeHash).or (some source)

/-- `member_has_identity`. -/
def memberHasIdentity (member : TeamMemberRecord) (identity : String) : Bool :=
  normalizeHash member.rnsIdentity == some identity ||
    (member.clientIdentities.any fun client => normalizeHash client == some identity) ||
    core.teamMemberClientLinks.contains (member.uid, identity)

/-- `shared_team_uids_for_rem_source`. -/
def sharedTeamUidsForRemSource (source : String) : List String :=
  match core.canonicalIdentityForRemSource source with
  | none => []
  | some identity =>
    ((core.teamMembers.values.filter fun member =>
      core.memberHasIdentity member identity).filterMap TeamMemberRecord.teamUid).dedup

/-- `member_identities`. -/
def memberIdentities (member : TeamMemberRecord) : List String :=
  let linked := (core.teamMemberClientLinks.toList.filter fun link =>
    link.1 == member.uid).map Prod.snd
  ((member.rnsIdentity :: member.clientIdentities ++ linked).filterMap normalizeHash).dedup

/-- `team_member_identities_for_teams`. -/
def teamMemberIdentitiesForTeams (teamUids : List String) : List String :=
  ((core.teamMembers.values.filter fun member =>
    member.teamUid.any teamUids.contains).flatMap core.memberIdentities).dedup

/-- The identity an announce speaks for. -/
def announceIdentity (record : IdentityAnnounceRecord) : Option String :=
  (record.announcedIdentityHash.bind normalizeHash).or (normalizeHash record.destinationHash)

/-- The client type of an announce is REM. -/
def isRemClient (record : IdentityAnnounceRecord) : Bool :=
  eqIgnoreAsciiCase (trim record.clientType) "rem"

/-- `best_rem_announce_for_identity`. -/
def bestRemAnnounceForIdentity (identity : String) : Option IdentityAnnounceRecord :=
  maxBy (fun left right =>
      (compare (decide (left.sourceInterface = some "destination"))
        (decide (right.sourceInterface = some "destination"))).then
        (compare left.lastSeenTsMs right.lastSeenTsMs))
    (core.identityAnnounces.values.filter fun record =>
      announceIdentity record == some identity && isRemClient record &&
        identityAnnounceHasRemCapabilities record)

/-- The REM modes by identity, an empty one read as `whenEmpty`. -/
def remModes (whenEmpty : String) : List (String × String) :=
  core.identityRemModes.toPairs.map fun (identity, record) =>
    let mode := toAsciiLowercase (trim record.mode)
    (identity, if mode.isEmpty then whenEmpty else mode)

/-- The mode registered for an announce under its identity or its destination. -/
def announcedMode (modes : List (String × String)) (identity : String)
    (record : IdentityAnnounceRecord) : Option String :=
  (modes.lookup identity).or ((normalizeHash record.destinationHash).bind fun destination =>
    modes.lookup destination)

/-- `rem_mode_for_announce`. -/
def remModeForAnnounce (modes : List (String × String)) (identity : String)
    (record : IdentityAnnounceRecord) : String :=
  (announcedMode modes identity record).getD "autonomous"

/-- A text that is not blank, trimmed. -/
def nonBlank (text : String) : Option String := noneIfEmpty (trim text)

/-- `left[key].as_str().unwrap_or_default()`. -/
def fieldText (value : Value) (key : String) : String :=
  ((value.get key).bind Value.asStr).getD ""

/-- Sort JSON objects by their text fields `keys`, the first deciding first. -/
def sortByFields (keys : List String) (values : List Value) : List Value :=
  sortBy (fun left right => keys.foldl (fun order key =>
    order.then (compare (fieldText left key) (fieldText right key))) .eq) values

/-- Keep the first of several entries with one key. -/
def firstByKey {K V : Type} [BEq K] (entries : List (K × V)) : List V :=
  (entries.foldl (fun kept entry =>
    if kept.any fun other => other.1 == entry.1 then kept else kept ++ [entry]) []).map Prod.snd

section

variable [Host]

/-- The source interface of an announce, `identity` when it names none. -/
def announceSource (record : IdentityAnnounceRecord) : String :=
  (((record.sourceInterface.bind nonBlank).map toAsciiLowercase)).getD "identity"

/-- The announces a peer list shows: for every identity the first that qualifies,
unless a later one is the first from the destination itself. -/
def announceCandidates (qualifies : String → IdentityAnnounceRecord → Bool) :
    Dict String (IdentityAnnounceRecord × String) :=
  core.identityAnnounces.values.foldl (fun candidates record =>
    match announceIdentity record with
    | none => candidates
    | some identity =>
      if !qualifies identity record then candidates
      else
        let source := announceSource record
        let replace := (candidates.get identity).all fun existing =>
          source = "destination" && existing.2 != "destination"
        if replace then candidates.insert identity (record, source) else candidates) ∅

/-- One entry of a peer list. -/
def peerItem (registeredMode : String) (identity : String) (record : IdentityAnnounceRecord)
    (source : String) : Value :=
  let destinationHash :=
    if source = "destination" then (normalizeHash record.destinationHash).getD identity else identity
  .object [
    ("identity", toValue identity),
    ("destination_hash", toValue destinationHash),
    ("display_name", toValue (record.displayName.bind nonBlank)),
    ("announce_capabilities", toValue record.announceCapabilities),
    ("client_type", toValue (toAsciiLowercase (trim record.clientType))),
    ("registered_mode", toValue registeredMode),
    ("last_seen", toValue (millisToRfc3339 record.lastSeenTsMs)),
    ("status", toValue "active")]

/-- `utc_now_ms().saturating_sub(RECENT_ANNOUNCE_WINDOW_MS)`. -/
def announceCutoff : CoreM Int := do
  return max (-(2 ^ 63)) ((← utcNowMs) - Host.recentAnnounceWindowMs)

/-- `rem_peer_registry_payload`. -/
def remPeerRegistryPayload : CoreM Value := do
  let cutoffMs ← announceCutoff
  let modes := core.remModes "autonomous"
  let candidates := core.announceCandidates fun identity record =>
    cutoffMs ≤ record.lastSeenTsMs && isRemClient record && !core.identityBlocked identity
  let items := candidates.toPairs.map fun (identity, record, source) =>
    peerItem ((modes.lookup identity).getD "autonomous") identity record source
  return .object [
    ("effective_connected_mode", toValue core.effectiveRemConnectedMode),
    ("items", .array (sortByFields ["identity"] items))]

/-- `caller_memberships_for_rem_source`. -/
def callerMembershipsForRemSource (source : String) : List Value :=
  match core.canonicalIdentityForRemSource source with
  | none => []
  | some identity =>
    sortByFields ["team_uid", "team_member_uid"]
      ((core.teamMembers.values.filter fun member =>
        core.memberHasIdentity member identity).filterMap fun member =>
          (member.teamUid.filter fun uid => (canonicalTeamForUid uid).isSome).map fun teamUid =>
            .object [("team_uid", toValue teamUid), ("team_member_uid", toValue member.uid)])

/-- The entry of one identity of a member in the directory, with the key it is
listed once under. -/
def directoryEntry (requesterIdentity requesterDestination : Option String)
    (modes : List (String × String)) (cutoffMs : Int) (teamUid : String) (member : TeamMemberRecord)
    (identity : String) : Option ((String × String × String × String) × Value) := do
  if requesterIdentity = some identity || core.identityBlocked identity then none
  let record ← core.bestRemAnnounceForIdentity identity
  let destinationHash := (normalizeHash record.destinationHash).getD identity
  if requesterDestination = some destinationHash || core.identityBlocked destinationHash then none
  let displayName := (record.displayName.bind nonBlank).or (nonBlank member.displayName)
  let status := if record.lastSeenTsMs ≥ cutoffMs then "active" else "offline"
  return ((teamUid, member.uid, identity, destinationHash), .object [
    ("team_uid", toValue teamUid),
    ("team_member_uid", toValue member.uid),
    ("identity", toValue identity),
    ("destination_hash", toValue destinationHash),
    ("display_name", toValue displayName),
    ("announce_capabilities", toValue record.announceCapabilities),
    ("client_type", toValue "rem"),
    ("registered_mode", toValue (remModeForAnnounce modes identity record)),
    ("last_seen", toValue (millisToRfc3339 record.lastSeenTsMs)),
    ("status", toValue status)])

/-- `durable_team_directory_members`. -/
def durableTeamDirectoryMembers (teamUids : List String)
    (requesterIdentity requesterDestination : Option String) (modes : List (String × String))
    (cutoffMs : Int) : List Value :=
  let entries := core.teamMembers.values.flatMap fun member =>
    match member.teamUid with
    | none => []
    | some teamUid =>
      if !teamUids.contains teamUid || (canonicalTeamForUid teamUid).isNone then []
      else (core.memberIdentities member).filterMap
        (core.directoryEntry requesterIdentity requesterDestination modes cutoffMs teamUid member)
  sortByFields ["team_uid", "team_member_uid", "identity"] (firstByKey entries)

/-- `rem_team_routing_destinations`. -/
def remTeamRoutingDestinations (source teamUid : String) : CoreM (List String) := do
  if (canonicalTeamForUid teamUid).isNone || !(core.sharedTeamUidsForRemSource source).contains teamUid
  then return []
  let requesterIdentity := core.canonicalIdentityForRemSource source
  let cutoffMs ← announceCutoff
  let members := core.durableTeamDirectoryMembers [teamUid] requesterIdentity (normalizeHash source)
    (core.remModes "") cutoffMs
  return members.filterMap fun member => (member.get "destination_hash").bind Value.asStr

/-- One team of the directory. -/
def directoryTeam (teamUid : String) : Option Value :=
  (canonicalTeamColorForUid teamUid).map fun color =>
    let teamName := (((core.teams.get teamUid).map TeamRecord.teamName).bind nonBlank).getD color
    .object [
      ("uid", toValue teamUid),
      ("color", toValue color),
      ("team_name", toValue teamName)]

/-- `rem_team_peer_registry_payload`. -/
def remTeamPeerRegistryPayload (source : String) : CoreM Value := do
  let teamUids := core.sharedTeamUidsForRemSource source
  let teamIdentities := core.teamMemberIdentitiesForTeams teamUids
  let requesterIdentity := core.canonicalIdentityForRemSource source
  let requesterDestination := normalizeHash source
  let cutoffMs ← announceCutoff
  let modes := core.remModes "autonomous"
  let canonicalTeamUids := teamUids.filter fun teamUid => (canonicalTeamForUid teamUid).isSome
  let members := core.durableTeamDirectoryMembers canonicalTeamUids requesterIdentity
    requesterDestination modes cutoffMs
  let candidates := core.announceCandidates fun identity record =>
    teamIdentities.contains identity && requesterIdentity != some identity &&
      requesterDestination != normalizeHash record.destinationHash &&
      cutoffMs ≤ record.lastSeenTsMs && isRemClient record &&
      identityAnnounceHasRemCapabilities record && !core.identityBlocked identity
  let connected := candidates.toPairs.any fun (identity, record, _) =>
    announcedMode modes identity record == some "connected"
  let items := candidates.toPairs.map fun (identity, record, source) =>
    peerItem (remModeForAnnounce modes identity record) identity record source
  return .object [
    ("schema_version", toValue (2 : Nat)),
    ("scope", toValue "shared_teams"),
    ("effective_connected_mode", toValue connected),
    ("teams", .array (sortByFields ["color"] (canonicalTeamUids.filterMap core.directoryTeam))),
    ("caller_memberships", .array (core.callerMembershipsForRemSource source)),
    ("members", .array members),
    ("items", .array (sortByFields ["identity"] items))]

end
end RchCore
end TelemetryHub
