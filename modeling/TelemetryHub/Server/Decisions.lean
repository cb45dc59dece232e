import TelemetryHub.Server.Recipients

/-!
# The delivery decision

Whether a message is sent directly or left to a propagation node: what the announces,
the clients and the failures on record say of its destinations, and where they say
nothing the delivery policy.
-/

namespace TelemetryHub

open Lib ServerM

variable [ServerHost]

/-! ## What is known of a destination -/

/-- `announce_last_seen_ts_ms`. -/
def AppState.announceLastSeenTsMs (s : AppState) (identity : String) : Option Int :=
  (normalizeIdentityKey identity).bind fun identity =>
    ((s.loadIdentityAnnounces.filter fun record =>
      record.destinationHash == identity || record.announcedIdentityHash == some identity).map (·.lastSeenTsMs)).max?

/-- `outbound_destination_has_known_announce`. -/
def AppState.hasKnownAnnounce (s : AppState) (destination : String) : Bool :=
  (normalizeIdentityKey destination).any fun destination =>
    s.loadIdentityAnnounces.any fun record => identityAnnounceMatchesDestination record destination

/-- `outbound_destination_has_fresh_announce_for_any`. -/
def hasFreshAnnounceForAny (destinations : List String) : ServerM Bool := do
  let nowTsMs ← unixNowMs
  return (← state).hasAnnounceSinceForAny destinations (saturateI64 (nowTsMs - Host.recentAnnounceWindowMs))

/-- `outbound_destination_has_stale_known_announce_for_any`. -/
def hasStaleKnownAnnounceForAny (destinations : List String) : ServerM Bool := do
  if destinations.any (← state).hasKnownAnnounce then return !(← hasFreshAnnounceForAny destinations)
  else return false

/-- `outbound_delivery_freshness_destinations`. -/
def AppState.outboundDeliveryFreshnessDestinations (s : AppState) (destination : String) : List String :=
  match normalizeIdentityKey destination with
  | none => []
  | some destination =>
    destination :: ((chatDeliveryDestinationAliases s.loadIdentityAnnounces).get destination).toList

/-- `outbound_targeted_destination_should_reject_stale`. -/
def outboundTargetedDestinationShouldRejectStale (destination : String) : ServerM Bool := do
  let destinations := (← state).outboundDeliveryFreshnessDestinations destination
  if destinations.isEmpty then return false
  let nowTsMs ← unixNowMs
  if ← hasStaleKnownAnnounceForAny destinations then
    return !(← state).hasRecentClientPresenceForAny destinations nowTsMs
  else return false

/-- `rem_destination_prefers_propagation`. -/
def AppState.remDestinationPrefersPropagation (s : AppState) (destination : String) : Bool :=
  (normalizeIdentityKey destination).any fun destination =>
    isRemAppDestination s.loadIdentityAnnounces destination ||
      (chatDeliveryDestinationAliases s.loadIdentityAnnounces).contains destination

/-! ## Failures on record -/

/-- `direct_failure_error_should_trigger_cooldown`. -/
def directFailureErrorShouldTriggerCooldown (error : String) : Bool :=
  let normalized := toAsciiLowercase error
  !(["sdk_transport_zmq_timeout", "zeromq sdk start", "zeromq command", "zeromq response"].any
      (textContains normalized) ||
    normalized == "send_timeout" ||
    textContains normalized "request timed out waiting for correlated response")

/-- `failed_direct_delivery_observed_ts_ms`. -/
def failedDirectDeliveryObservedTsMs (message : OutboundMessageRecord) : Option Int :=
  if (metadataStr message "error").any fun error => !directFailureErrorShouldTriggerCooldown error then none
  else
    (["delivery_failed_ts_ms", "receipt_last_poll_ts_ms", "last_attempt_at_ts_ms"].findSome? (metadataI64 message)).or
      (some message.createdTsMs)

/-- `latest_failed_direct_delivery_ts_ms`. -/
def AppState.latestFailedDirectDeliveryTsMs (s : AppState) (identity : String) : Option Int :=
  (normalizeIdentityKey identity).bind fun identity =>
    ((s.messages.filter fun message =>
      message.destination.bind normalizeIdentityKey == some identity &&
        message.deliveryMethod == "direct" && normalizedDeliveryState message == "failed").filterMap
      failedDirectDeliveryObservedTsMs).max?

/-- A direct delivery has failed since the destination announced itself last. -/
def AppState.failedSinceSeen (s : AppState) (destination : Option String) (announceLastSeen : Option Int) : Bool :=
  (destination.bind s.latestFailedDirectDeliveryTsMs).any fun failedAt =>
    announceLastSeen.all fun seenAt => decide (seenAt ≤ failedAt)

/-- `rem_command_destination_should_propagate`. -/
def remCommandDestinationShouldPropagate (destination : String) : ServerM Bool := do
  if ← hasStaleKnownAnnounceForAny [destination] then return true
  let s ← state
  return s.failedSinceSeen (some destination) (s.announceLastSeenTsMs destination)

/-! ## Routes nobody has announced -/

/-- `outbound_destinations_have_unannounced_route`. -/
def outboundDestinationsHaveUnannouncedRoute (deliveryMode : DeliveryMode) (destinations : List String) :
    ServerM Bool := do
  if destinations.isEmpty || (← state).sqlite.isNone then return false
  let nowTsMs ← unixNowMs
  let announces := (← state).loadIdentityAnnounces
  destinations.anyM fun destination => do
    let candidates := [destination, (Route.forMode announces deliveryMode false destination).delivery]
    let hasFreshAnnounce ← hasFreshAnnounceForAny candidates
    return !hasFreshAnnounce && !(← state).hasRecentClientPresenceForAny candidates nowTsMs

/-- `outbound_route_has_unannounced_destinations`. -/
def outboundRouteHasUnannouncedDestinations (deliveryMode : DeliveryMode) (topicId : Option String)
    (targetDestinations : Option (List String)) : ServerM Bool := do
  match deliveryMode with
  | .targeted => return false
  | .fanout =>
    match (targetDestinations.map normalizedKeys).filter fun destinations => !destinations.isEmpty, topicId with
    | some destinations, _ => outboundDestinationsHaveUnannouncedRoute deliveryMode destinations
    | none, some topicId =>
      outboundDestinationsHaveUnannouncedRoute deliveryMode ((← state).topicSubscriberDestinations topicId)
    | none, none => return false
  | .broadcast =>
    let clients ← broadcastOutboundClientRecords
    outboundDestinationsHaveUnannouncedRoute deliveryMode (clients.map (·.identity))

/-! ## The decision -/

omit [ServerHost] in
/-- `policy.delivery_decision(..)`. -/
def policyDecision : ServerM DeliveryDecision := fun w =>
  (.ok (w.decisions 0), { w with decisions := fun n => w.decisions (n + 1) })

/-- The decision for a destination that is a REM application. -/
def remDeliveryDecision (destination : Option String) : ServerM DeliveryDecision := do
  let _ ← unixNowMs
  let s ← state
  let announceLastSeen := destination.bind s.announceLastSeenTsMs
  if ← hasStaleKnownAnnounceForAny ((destination.map s.outboundDeliveryFreshnessDestinations).getD []) then
    return ⟨"propagated", "rem_no_fresh_presence"⟩
  if s.failedSinceSeen destination announceLastSeen then return ⟨"propagated", "rem_direct_cooldown"⟩
  let decision ← policyDecision
  if decision = ⟨"propagated", "direct_cooldown"⟩ then return ⟨"propagated", "rem_direct_cooldown"⟩
  return ⟨"direct", "rem_direct"⟩

/-- The decision for any other destination. -/
def targetedDeliveryDecision (destination : Option String) : ServerM DeliveryDecision := do
  let nowTsMs ← unixNowMs
  let s ← state
  let announceLastSeen := destination.bind s.announceLastSeenTsMs
  let freshnessDestinations := (destination.map s.outboundDeliveryFreshnessDestinations).getD []
  if ← hasStaleKnownAnnounceForAny freshnessDestinations then
    if !s.hasRecentClientPresenceForAny freshnessDestinations nowTsMs then
      return ⟨"propagated", "no_fresh_presence"⟩
  if s.failedSinceSeen destination announceLastSeen then return ⟨"propagated", "direct_cooldown"⟩
  policyDecision

/-- `outbound_delivery_decision_for_targets_with_refresh`. -/
def outboundDeliveryDecisionForTargets (deliveryMode : DeliveryMode) (topicId destination : Option String)
    (targetDestinations : Option (List String)) : ServerM DeliveryDecision := do
  match deliveryMode with
  | .broadcast =>
    if ← outboundRouteHasUnannouncedDestinations deliveryMode none none then
      return ⟨"propagated", "broadcast_unannounced"⟩
    else return ⟨"direct", "broadcast_direct"⟩
  | .fanout =>
    if ← outboundRouteHasUnannouncedDestinations deliveryMode topicId targetDestinations then
      return ⟨"propagated", "topic_unannounced"⟩
    else return ⟨"direct", "topic_direct"⟩
  | .targeted =>
    if destination.any (← state).remDestinationPrefersPropagation then remDeliveryDecision destination
    else targetedDeliveryDecision destination

end TelemetryHub
