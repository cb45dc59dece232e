import TelemetryHub.Server.Sends
import TelemetryHub.Server.Tables

/-!
# The roster

The clients that have been heard of: a source is entered when it is heard, joins and
leaves. Whether a source is banned is asked here.
-/

namespace TelemetryHub

open Lib ServerM

variable [ServerHost]

omit [ServerHost] in
/-- `inbound_identity_blocked`. -/
def AppState.inboundIdentityBlocked (s : AppState) (source : String) : Bool :=
  ((normalizeIdentityKey source).bind s.identityStates.get).any fun record => record.isBanned || record.isBlackholed

/-- `ClientRecord::new`. -/
def RosterClient.new (identity : String) (lastSeenTsMs : Int) : RosterClient where
  identity
  firstSeen := millisToRfc3339 lastSeenTsMs
  lastSeen := millisToRfc3339 lastSeenTsMs
  displayName := none
  metadata := .object []
  clientType := "generic_lxmf"
  announceCapabilities := []
  remMode := none
  isRemCapable := false
  nickname := none
  role := "user"
  paused := false
  textOnly := false
  lastChatTsMs := none

/-- The source's client after the source has been heard. -/
def heardClient (client : Option RosterClient) (source : String) (chatActivity : Bool) (nowMs : Int) : RosterClient :=
  let client := (client.map fun client => { client with lastSeen := millisToRfc3339 nowMs }).getD
    (RosterClient.new source nowMs)
  if chatActivity then { client with lastChatTsMs := some nowMs } else client

/-- `touch_reticulumd_inbound_client`. -/
def touchReticulumdInboundClient (source : String) (chatActivity : Bool) : ServerM Unit := do
  if (trim source).isEmpty then return ()
  if (← state).inboundIdentityBlocked source then return ()
  let nowMs ← unixNowMs
  let client := heardClient ((← state).clients.get source) source chatActivity nowMs
  update fun s => { s with clients := s.clients.insert source client }
  persistClientRow client

/-- `upsert_roster_client`. -/
def upsertRosterClient (source : String) (rewrite : RosterClient → RosterClient) : ServerM RosterClient := do
  if (← state).inboundIdentityBlocked source then throw (.badRequest "identity is banned or blackholed")
  let key ← Proc.orThrow (normalizeIdentityKey source) (.badRequest "identity is required")
  let nowMs ← unixNowMs
  let client := rewrite { ((← state).clients.get key).getD (RosterClient.new source nowMs) with
    identity := source
    lastSeen := millisToRfc3339 nowMs }
  update fun s => { s with clients := s.clients.insert key client }
  persistClientRow client
  return client

omit [ServerHost] in
/-- `remove_roster_client`. -/
def removeRosterClient (source : String) : ServerM Bool := do
  let key ← Proc.orThrow (normalizeIdentityKey source) (.badRequest "identity is required")
  let removed := (← state).clients.contains key
  update fun s => { s with clients := s.clients.remove key }
  if removed then deleteClientRow key
  return removed

omit [ServerHost] in
/-- `normalize_roster_nickname_for_server`. -/
def normalizeRosterNicknameForServer (value : String) : Except String String :=
  let value := trim value
  if value.isEmpty then .error "nickname is required"
  else if 32 < value.length then .error "nickname cannot exceed 32 characters"
  else if value.toList.all fun c => c.isAlphanum || c = '_' || c = '-' || c = '.' then .ok value
  else .error "nickname may contain only letters, numbers, underscore, dash, or dot"

omit [ServerHost] in
/-- The line of a user in the list. -/
def rosterUserLine (client : RosterClient) : String :=
  let name := (client.nickname.or client.displayName).getD (shortIdentity client.identity)
  let flags := (if client.paused then ["paused"] else []) ++ (if client.textOnly then ["text-only"] else [])
  if flags.isEmpty then name ++ " (" ++ shortIdentity client.identity ++ ")"
  else name ++ " (" ++ shortIdentity client.identity ++ ", " ++ joinWith ", " flags ++ ")"

/-- `roster_users_reply`. -/
def AppState.rosterUsersReply (s : AppState) : String :=
  let clients := sortBy (fun left right => compare left.identity right.identity) s.clientRecords
  if clients.isEmpty then "users: none" else "users: " ++ joinWith ", " (clients.map rosterUserLine)

/-! ## The names a relay is sent under -/

omit [ServerHost] in
/-- `char::is_control`. -/
def isControl (c : Char) : Bool := c.toNat < 0x20 || (0x7F ≤ c.toNat && c.toNat < 0xA0)

omit [ServerHost] in
/-- `relay_display_name_from_text`. -/
def relayDisplayNameFromText (value : String) : Option String :=
  let named := ((afterLast ";name=".toList value.toList).map String.ofList).getD value
  let value := trim (String.ofList (unescapeSpaces (trim named).toList))
  if value.isEmpty then none
  else some (String.ofList (value.toList.map fun c => if isControl c ∧ c ≠ '\t' then '?' else c))

omit [ServerHost] in
/-- `client_relay_display_name`. -/
def clientRelayDisplayName (client : RosterClient) : Option String :=
  (client.nickname.bind relayDisplayNameFromText).or (client.displayName.bind relayDisplayNameFromText)

omit [ServerHost] in
/-- `relay_display_name_from_announce`. -/
def relayDisplayNameFromAnnounce (record : IdentityAnnounceRecord) : Option String :=
  ((record.announceCapabilities.findSome? fun capability => stripPrefix capability "name=").bind
    relayDisplayNameFromText).or (record.displayName.bind relayDisplayNameFromText)

omit [ServerHost] in
/-- `relay_sender_display_name`. -/
def AppState.relaySenderDisplayName (s : AppState) (source : String) : String :=
  let sourceKey := normalizeIdentityKey source
  let announcedName := sourceKey.bind fun sourceKey =>
    (maxBy (fun left right => compare left.lastSeenTsMs right.lastSeenTsMs)
      (s.loadIdentityAnnounces.filter fun record => identityAnnounceMatchesDestination record sourceKey)).bind
      relayDisplayNameFromAnnounce
  (((sourceKey.bind s.clients.get).bind clientRelayDisplayName).or announcedName).getD (shortIdentity source)

end TelemetryHub
