import TelemetryHub.Lib.FirstMatch
import TelemetryHub.Server.Announces

/-!
# The client list

The roster as the API and the broadcast see it: one record for each identity,
annotated with what the identity announces, a telephone merged into the client it
belongs to.
-/

namespace TelemetryHub

open Lib ServerM

/-- `RemIdentityAnnotation`. -/
structure RemIdentityAnnotation where
  destinationHash : String
  announcedIdentityHash : Option String
  displayName : Option String
  sourceInterface : Option String
  announceCapabilities : List String
  clientType : String
  remMode : Option String
  isRemCapable : Bool
  firstSeenTsMs : Int
  lastSeenTsMs : Int

/-! ## Annotations -/

/-- How an announce came in. -/
def IdentityAnnounceRecord.source (record : IdentityAnnounceRecord) : String :=
  ((normalizeOptionalText record.sourceInterface).map toAsciiLowercase).getD "identity"

/-- The modes by identity. -/
def remModesByIdentity (identityRemModes : List IdentityRemModeRecord) : Dict String String :=
  identityRemModes.foldl (fun modes record =>
    match normalizeIdentityKey record.identity with
    | some identity =>
      let mode := toAsciiLowercase (trim record.mode)
      modes.insert identity (if mode.isEmpty then "autonomous" else mode)
    | none => modes) ∅

/-- The announce that speaks for each identity: one of a destination before any other. -/
def annotationCandidates (identityAnnounces : List IdentityAnnounceRecord) :
    Dict String IdentityAnnounceRecord :=
  identityAnnounces.foldl (fun candidates record =>
    match record.primaryIdentity with
    | some identity =>
      if (candidates.get identity).all fun other => record.source == "destination" && other.source != "destination"
      then candidates.insert identity record
      else candidates
    | none => candidates) ∅

/-- The annotation of an identity by the announce that speaks for it. -/
def remAnnotation (remModes : Dict String String) (identity : String) (record : IdentityAnnounceRecord) :
    RemIdentityAnnotation :=
  let clientType := toAsciiLowercase (trim record.clientType)
  let isRemCapable := clientType == "rem"
  { destinationHash := record.destinationHash
    announcedIdentityHash := record.announcedIdentityHash
    displayName := normalizeOptionalText record.displayName
    sourceInterface := normalizeOptionalText record.sourceInterface
    announceCapabilities := record.announceCapabilities
    clientType := if clientType.isEmpty then "generic_lxmf" else clientType
    remMode := if isRemCapable then some ((remModes.get identity).getD "autonomous") else none
    isRemCapable
    firstSeenTsMs := record.firstSeenTsMs
    lastSeenTsMs := record.lastSeenTsMs }

/-- `rem_annotations_from_records`. -/
def remAnnotationsFromRecords (identityAnnounces : List IdentityAnnounceRecord)
    (identityRemModes : List IdentityRemModeRecord) : List (String × RemIdentityAnnotation) :=
  (annotationCandidates identityAnnounces).toPairs.map fun (identity, record) =>
    (identity, remAnnotation (remModesByIdentity identityRemModes) identity record)

/-- `rem_annotations_for_state`. -/
def AppState.remAnnotations (s : AppState) : List (String × RemIdentityAnnotation) :=
  match s.sqlite with
  | some store => remAnnotationsFromRecords store.loadIdentityAnnounces store.loadIdentityRemModes
  | none => []

/-! ## Voice -/

/-- `client_has_voice_capability`. -/
def clientHasVoiceCapability (record : RosterClient) : Bool :=
  record.announceCapabilities.any fun capability =>
    ["telephony", "voice"].contains (toAsciiLowercase (trim capability))

/-- `normalized_client_display_name`. -/
def normalizedClientDisplayName (record : RosterClient) : Option String :=
  (normalizeOptionalText record.displayName).map toAsciiLowercase

/-- `voice_capability_owner_name`. -/
def voiceCapabilityOwnerName (record : RosterClient) : Option String :=
  if isKnownPixelVoiceDestination record.identity then some "pixel" else normalizedClientDisplayName record

/-- `attach_voice_capability`. -/
def attachVoiceCapability (voice target : RosterClient) : RosterClient :=
  let metadata := if target.metadata.isObject then target.metadata else .object []
  { target with
    announceCapabilities := withCapability (withCapability target.announceCapabilities "telephony") "voice"
    metadata := metadata.insert "voice" (.object
      [("destination_hash", toValue voice.identity),
        ("display_name", toValue voice.displayName),
        ("last_seen", toValue voice.lastSeen)]) }

/-- The client a telephone of this name belongs to. -/
def ownsVoice (voiceName : String) (record : RosterClient) : Bool :=
  !clientHasVoiceCapability record && normalizedClientDisplayName record == some voiceName

/-- One telephone merged into the client it belongs to, if there is one. -/
def mergeVoice (pass : List RosterClient × HSet String) (voice : RosterClient) :
    List RosterClient × HSet String :=
  match voiceCapabilityOwnerName voice with
  | some voiceName =>
    if pass.1.any (ownsVoice voiceName) then
      (replaceFirst (ownsVoice voiceName) (attachVoiceCapability voice) pass.1, pass.2.insert voice.identity)
    else pass
  | none => pass

/-- `merge_voice_capability_records`. -/
def mergeVoiceCapabilityRecords (records : List RosterClient) : List RosterClient :=
  let (records, merged) := (records.filter clientHasVoiceCapability).foldl mergeVoice (records, ∅)
  records.filter fun record => !merged.contains record.identity

/-! ## The list -/

/-- `client_has_network_announce`. -/
def clientHasNetworkAnnounce (_record : RosterClient) : Bool := true

/-- `client_should_appear_in_client_list`. -/
def clientShouldAppearInClientList (record : RosterClient) : Bool :=
  if !record.isRemCapable && !eqIgnoreAsciiCase (trim record.clientType) "rem" then true
  else clientHasNetworkAnnounce record

variable [ServerHost]

/-- `apply_rem_annotation`. -/
def RosterClient.applyRemAnnotation (record : RosterClient) ( annotation : RemIdentityAnnotation) : RosterClient :=
  let firstSeenTsMs := ((ServerHost.parseRfc3339Millis record.firstSeen).map fun current =>
    min current annotation.firstSeenTsMs).getD annotation.firstSeenTsMs
  let lastSeenTsMs := (([ServerHost.parseRfc3339Millis record.lastSeen, some annotation.lastSeenTsMs,
    record.lastChatTsMs].filterMap id).max?).getD annotation.lastSeenTsMs
  { record with
    firstSeen := millisToRfc3339 firstSeenTsMs
    lastSeen := millisToRfc3339 lastSeenTsMs
    displayName := annotation.displayName
    clientType := annotation.clientType
    announceCapabilities := annotation.announceCapabilities
    remMode := annotation.remMode
    isRemCapable := annotation.isRemCapable
    metadata := .object [("announce", .object
      [("destination_hash", toValue annotation.destinationHash),
        ("announced_identity_hash", toValue annotation.announcedIdentityHash),
        ("source_interface", toValue annotation.sourceInterface),
        ("first_seen", toValue (millisToRfc3339 firstSeenTsMs)),
        ("last_seen", toValue (millisToRfc3339 lastSeenTsMs))])] }

/-- The roster by normalized identity. -/
def AppState.clientsByIdentity (s : AppState) : Dict String RosterClient :=
  s.clients.values.foldl (fun records client =>
    records.insert ((normalizeIdentityKey client.identity).getD client.identity) client) ∅

/-- One annotation applied to the record of its identity, if there is one. -/
def annotateClient (records : Dict String RosterClient) ( annotation : String × RemIdentityAnnotation) :
    Dict String RosterClient :=
  match records.get annotation.1 with
  | some record => records.insert annotation.1 ( RosterClient.applyRemAnnotation record annotation.2)
  | none => records

/-- `client_records_for_state`. -/
def AppState.clientRecords (s : AppState) : List RosterClient :=
  let records := s.remAnnotations.foldl annotateClient s.clientsByIdentity
  sortBy (fun left right => compare left.identity right.identity)
    (mergeVoiceCapabilityRecords (records.values.filter clientShouldAppearInClientList))

/-! ## Presence -/

/-- `client_presence_ts_ms`. -/
def clientPresenceTsMs (client : RosterClient) : Option Int :=
  ([ServerHost.parseRfc3339Millis client.lastSeen, ServerHost.parseRfc3339Millis client.firstSeen,
    client.lastChatTsMs].filterMap id).max?

/-- `client_has_recent_presence`. -/
def clientHasRecentPresence (client : RosterClient) (nowTsMs : Int) : Bool :=
  (clientPresenceTsMs client).any fun lastSeen => nowTsMs - ServerHost.recentRuntimePresenceWindowMs ≤ lastSeen

/-- `OUTBOUND_BROADCAST_ROSTER_WINDOW_MS`. -/
def outboundBroadcastRosterWindowMs : Int := 7 * 24 * 60 * 60 * 1000

/-- `client_has_broadcast_roster_presence`. -/
def clientHasBroadcastRosterPresence (client : RosterClient) (nowTsMs : Int) : Bool :=
  (clientPresenceTsMs client).any fun lastSeen =>
    saturateI64 (nowTsMs - outboundBroadcastRosterWindowMs) ≤ lastSeen

/-- The destinations, normalized. -/
def normalizedKeys (destinations : List String) : List String := destinations.filterMap normalizeIdentityKey

/-- `outbound_destination_has_recent_client_presence_for_any`. -/
def AppState.hasRecentClientPresenceForAny (s : AppState) (destinations : List String) (nowTsMs : Int) : Bool :=
  s.clients.toPairs.any fun (identity, client) =>
    ((normalizeIdentityKey identity).any (normalizedKeys destinations).contains ||
      (normalizeIdentityKey client.identity).any (normalizedKeys destinations).contains) &&
      clientHasRecentPresence client nowTsMs

/-- `identity_announce_matches_destination`. -/
def identityAnnounceMatchesDestination (record : IdentityAnnounceRecord) (destination : String) : Bool :=
  normalizeIdentityKey record.destinationHash == some destination ||
    record.announcedIdentityHash.bind normalizeIdentityKey == some destination

/-- `outbound_destination_has_announce_since_for_any`. -/
def AppState.hasAnnounceSinceForAny (s : AppState) (destinations : List String) (cutoffTsMs : Int) : Bool :=
  s.loadIdentityAnnounces.any fun record =>
    decide (cutoffTsMs ≤ record.lastSeenTsMs) &&
      (normalizedKeys destinations).any (identityAnnounceMatchesDestination record)

/-- `outbound_destination_has_broadcast_roster_announce_for_any`. -/
def hasBroadcastRosterAnnounceForAny (destinations : List String) : ServerM Bool := do
  let nowTsMs ← unixNowMs
  return (← state).hasAnnounceSinceForAny destinations (saturateI64 (nowTsMs - outboundBroadcastRosterWindowMs))

end TelemetryHub
