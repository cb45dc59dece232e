import TelemetryHub.Core.Payload

/-!
# Roster, announces and REM modes

The client roster commands act on the sender's own identity; the API methods
record what the transport learns about an identity.
-/

namespace TelemetryHub

open Lib CoreM

/-- `normalize_hash(..).ok_or(..)`. -/
def requireIdentity (identity : String) : Except RchCoreError String :=
  match normalizeHash identity with
  | some identity => .ok identity
  | none => invalidPayload "identity is required"

/-- `join_client`. -/
def joinClient (identity : String) : CoreM String := do
  let displayIdentity := trim identity
  let identity ← requireIdentity identity
  if (← core).identityBlocked identity then
    throw (.forbidden "identity is banned or blackholed")
  let now ← utcNowMs
  update fun core =>
    let client :=
      match core.clients.get identity with
      | some client => { client with identity := displayIdentity, lastSeenTsMs := now }
      | none =>
        { identity := displayIdentity, firstSeenTsMs := now, lastSeenTsMs := now, nickname := none,
          role := "user", paused := false, textOnly := false, lastChatTsMs := none }
    { core with clients := core.clients.insert identity client }
  return identity

/-- `leave_client`. -/
def leaveClient (identity : String) : CoreM (String × Bool) := do
  let identity ← requireIdentity identity
  let left := (← core).clients.contains identity
  update fun core => { core with clients := core.clients.remove identity }
  return (identity, left)

/-- `ensure_roster_client`. -/
def ensureRosterClient (identity : String) : CoreM String := do
  let normalized ← requireIdentity identity
  if !(← core).clients.contains normalized then
    let _ ← joinClient identity
  return normalized

/-- `get_mut` on the roster: change the client if it is there. -/
def modifyClient (identity : String) (f : ClientRecord → ClientRecord) (core : RchCore) : RchCore :=
  match core.clients.get identity with
  | some client => { core with clients := core.clients.insert identity (f client) }
  | none => core

/-- `pause_client` and `resume_client`. -/
def setClientPaused (paused : Bool) (identity : String) : CoreM String := do
  let identity ← ensureRosterClient identity
  let now ← utcNowMs
  update (modifyClient identity fun client => { client with paused, lastSeenTsMs := now })
  return identity

/-- `pause_client`. -/
def pauseClient : String → CoreM String := setClientPaused true

/-- `resume_client`. -/
def resumeClient : String → CoreM String := setClientPaused false

/-- `set_client_nickname`. -/
def setClientNickname (identity nickname : String) : CoreM (String × String) := do
  let identity ← ensureRosterClient identity
  let nickname ← normalizeRosterNickname nickname
  let now ← utcNowMs
  update (modifyClient identity fun client =>
    { client with nickname := some nickname, lastSeenTsMs := now })
  return (identity, nickname)

/-- `set_identity_rem_mode`. -/
def setIdentityRemMode (identity mode : String) : CoreM IdentityRemModeRecord := do
  let identity ← requireIdentity identity
  let mode ← normalizeRemMode mode
  let record : IdentityRemModeRecord := { identity, mode, updatedTsMs := ← utcNowMs }
  update fun core => { core with identityRemModes := core.identityRemModes.insert identity record }
  return record

/-! ## Announces -/

/-- `normalize_announce_capabilities`. -/
def normalizeAnnounceCapabilities (values : List String) : List String :=
  dedupeNonEmpty (values.map toAsciiLowercase)

/-- `classify_client_type`. -/
def classifyClientType (announceCapabilities : List String) : String :=
  if announceCapabilities.contains "r3akt" && announceCapabilities.contains "emergencymessages" then
    "rem"
  else "generic_lxmf"

/-- What a repeated announce does to the record: new values replace old ones,
missing ones leave them. -/
def IdentityAnnounceRecord.refreshed (record new : IdentityAnnounceRecord) :
    IdentityAnnounceRecord :=
  let heard := !new.announceCapabilities.isEmpty
  { record with
    lastSeenTsMs := new.lastSeenTsMs
    announcedIdentityHash := new.announcedIdentityHash.or record.announcedIdentityHash
    displayName := new.displayName.or record.displayName
    sourceInterface := new.sourceInterface.or record.sourceInterface
    announceCapabilities :=
      if heard then new.announceCapabilities else record.announceCapabilities
    clientType := if heard then new.clientType else record.clientType }

/-- `record_identity_announce`. -/
def recordIdentityAnnounce (identity : String)
    (announcedIdentityHash displayName sourceInterface : Option String)
    (announceCapabilities : List String) : CoreM Unit := do
  let destinationHash ← requireIdentity identity
  let capabilities := normalizeAnnounceCapabilities announceCapabilities
  let now ← utcNowMs
  let new : IdentityAnnounceRecord :=
    { destinationHash
      announcedIdentityHash := announcedIdentityHash.bind normalizeHash
      displayName := displayName.bind fun value => noneIfEmpty (trim value)
      sourceInterface := sourceInterface.bind normalizeHash
      announceCapabilities := capabilities
      clientType := classifyClientType capabilities
      firstSeenTsMs := now
      lastSeenTsMs := now }
  update fun core =>
    let record := ((core.identityAnnounces.get destinationHash).map fun record =>
      record.refreshed new).getD new
    { core with identityAnnounces := core.identityAnnounces.insert destinationHash record }

/-- `set_identity_state`. -/
def setIdentityState (identity : String) (isBanned isBlackholed : Bool) :
    CoreM IdentityStateRecord := do
  let identity ← requireIdentity identity
  let record : IdentityStateRecord := { identity, isBanned, isBlackholed, updatedTsMs := ← utcNowMs }
  update fun core => { core with identityStates := core.identityStates.insert identity record }
  return record

/-! ## Events -/

/-- `event_by_parts`. -/
def eventByParts (eventType commandId : String) (correlationId : Option String) (payload : Value) :
    EventEnvelope :=
  { eventId := none, source := none, timestamp := none, eventType, commandId := some commandId,
    correlationId, topics := [], payload }

/-- `event`. -/
def event (eventType : String) (command : MissionCommandEnvelope) (payload : Value) : EventEnvelope :=
  eventByParts eventType command.commandId command.correlationId payload

/-- `record_audit_event`. -/
def recordAuditEvent (command : MissionCommandEnvelope) (event : EventEnvelope) : CoreM Unit := do
  let eventId ← newUuid
  let timestampMs ← utcNowMs
  let record : MissionAuditEvent :=
    { eventId, eventType := event.eventType, commandType := command.commandType,
      commandId := command.commandId,
      sourceIdentity := (normalizeHash command.source.rnsIdentity).getD command.source.rnsIdentity,
      timestampMs, payload := event.payload }
  update fun core => { core with auditEvents := core.auditEvents ++ [record] }

section

variable [Host]

/-- `recent_audit_event_values`. -/
def recentAuditEventValues (core : RchCore) (limit : Nat) : List Value :=
  (core.auditEvents.reverse.take limit).map auditEventValue

/-- `apply_client_event_command`. -/
def applyClientEventCommand (command : MissionCommandEnvelope) : CoreM EventEnvelope := do
  match command.commandType with
  | "mission.join" =>
    let identity ← joinClient command.source.rnsIdentity
    return event "mission.joined" command
      (.object [("identity", toValue identity), ("joined", toValue true)])
  | "mission.leave" =>
    let (identity, left) ← leaveClient command.source.rnsIdentity
    return event "mission.left" command
      (.object [("identity", toValue identity), ("left", toValue left)])
  | "mission.pause" =>
    let identity ← pauseClient command.source.rnsIdentity
    return event "mission.paused" command
      (.object [("identity", toValue identity), ("paused", toValue true)])
  | "mission.resume" =>
    let identity ← resumeClient command.source.rnsIdentity
    return event "mission.resumed" command
      (.object [("identity", toValue identity), ("paused", toValue false)])
  | "mission.nick" =>
    let nickname ← requiredText command.args ["nickname", "nick", "name"]
    let (identity, nickname) ← setClientNickname command.source.rnsIdentity nickname
    return event "mission.nickname.updated" command
      (.object [("identity", toValue identity), ("nickname", toValue nickname)])
  | "mission.users" =>
    return event "mission.users.listed" command
      (.object [("users", .array ((← core).clientList.map clientValue))])
  | "mission.events.list" =>
    return event "mission.events.listed" command
      (.object [("events", .array (recentAuditEventValues (← core) 50))])
  | other => throw (.unsupportedCommand other)

end
end TelemetryHub
