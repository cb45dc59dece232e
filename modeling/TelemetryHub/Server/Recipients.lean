import TelemetryHub.Server.Clients
import TelemetryHub.Server.Logic

/-!
# The recipients of a message

Whom a message goes to: its own destination, the subscribers of its topic, the
destinations it names or the active clients. Each requested destination is routed
through the aliases, and the request and the route are checked.
-/

namespace TelemetryHub

open Lib ServerM

/-- A destination a message is asked to go to, and the one it is sent to for that. -/
structure Route where
  requested : String
  delivery : String

namespace Route

/-- `outbound_destination_for_message_with_context_for_mode`. -/
def forMode (announces : List IdentityAnnounceRecord) (deliveryMode : DeliveryMode)
    (preserveRequestedDestination : Bool) (destination : String) : Route where
  requested := destination
  delivery :=
    let normalized := requestedDestination destination
    if preserveRequestedDestination then normalized
    else if deliveryMode = .broadcast ∧ isRemAppDestination announces normalized then normalized
    else ((chatDeliveryDestinationAliases announces).get normalized).getD normalized

/-- `outbound_destination_for_message_with_context`. -/
def forMessage (announces : List IdentityAnnounceRecord) (message : OutboundMessageRecord)
    (destination : String) : Route where
  requested := destination
  delivery := outboundDestinationForMessage announces message destination

/-- `destination_excluded`. -/
def excluded (route : Route) (excluded : List String) : Bool :=
  excluded.any fun value => value == route.requested || value == route.delivery

end Route

/-! ## The checks -/

/-- `outbound_identity_blocked`. -/
def AppState.outboundIdentityBlocked (s : AppState) (destination : String) : Bool :=
  ((normalizeIdentityKey destination).bind s.identityStates.get).any fun record =>
    record.isBanned || record.isBlackholed

/-- The identity is on the list. -/
def listed (allowlist : HSet String) (destination : String) : Bool :=
  (normalizeIdentityKey destination).any allowlist.contains

/-- `outbound_identity_allowed`. -/
def AppState.outboundIdentityAllowed (s : AppState) (route : Route) : Bool :=
  if s.outboundIdentityBlocked route.requested || s.outboundIdentityBlocked route.delivery then false
  else s.outboundIdentityAllowlist.all fun allowlist => listed allowlist route.requested || listed allowlist route.delivery

/-- The two name one identity. -/
def sameIdentity (left right : String) : Bool :=
  (normalizeIdentityKey left).isSome && normalizeIdentityKey left == normalizeIdentityKey right

/-- `outbound_roster_recipient_allowed`. -/
def AppState.outboundRosterRecipientAllowed (s : AppState) (message : OutboundMessageRecord)
    (client : RosterClient) (route : Route) : Bool :=
  if client.paused then false
  else if sameIdentity message.sender client.identity || sameIdentity message.sender route.delivery then false
  else s.outboundIdentityAllowed route

/-- `push_unique_destination_with_seen`. -/
def pushUniqueDestinationWithSeen (pass : List String × HSet String) (destination : String) :
    List String × HSet String :=
  if (trim destination).isEmpty then pass
  else if pass.2.contains destination then pass
  else (pass.1 ++ [destination], pass.2.insert destination)

/-- The destinations of the routes, each once. -/
def uniqueDestinations (routes : List Route) : List String :=
  ((routes.map (·.delivery)).foldl pushUniqueDestinationWithSeen ([], ∅)).1

/-! ## The candidates -/

/-- `topic_subscriber_destinations`. -/
def AppState.topicSubscriberDestinations (s : AppState) (topicId : String) : List String :=
  (s.subscribers.values.filter (·.topicId == topicId)).map (·.destination)

variable [ServerHost]

/-- `broadcast_client_is_active_for_outbound`. -/
def broadcastClientIsActiveForOutbound (client : RosterClient) (deliveryDestination : String) (nowTsMs : Int) :
    ServerM Bool := do
  if clientHasRecentPresence client nowTsMs then return true
  if clientHasBroadcastRosterPresence client nowTsMs then return true
  let candidates := [client.identity, deliveryDestination]
  if (← state).hasRecentClientPresenceForAny candidates nowTsMs then return true
  hasBroadcastRosterAnnounceForAny candidates

/-- `broadcast_outbound_client_records_for_message`. -/
def broadcastOutboundClientRecords : ServerM (List RosterClient) := do
  let now ← unixNowMs
  let s ← state
  s.clientRecords.filterM fun client =>
    broadcastClientIsActiveForOutbound client
      (Route.forMode s.loadIdentityAnnounces .broadcast false client.identity).delivery now

/-- The routes to some destinations that the checks of a relay let through. -/
def AppState.relayRoutes (s : AppState) (message : OutboundMessageRecord) (destinations : List String) :
    List Route :=
  (destinations.map (Route.forMessage s.loadIdentityAnnounces message)).filter fun route =>
    !route.excluded (excludedOutboundDestinations message) && s.outboundIdentityAllowed route

/-- The routes to some clients that the checks of a broadcast let through. -/
def AppState.broadcastRoutes (s : AppState) (message : OutboundMessageRecord) (clients : List RosterClient) :
    List Route :=
  (clients.filter fun client =>
    let route := Route.forMessage s.loadIdentityAnnounces message client.identity
    !route.excluded (excludedOutboundDestinations message) &&
      s.outboundRosterRecipientAllowed message client route).map fun client =>
    Route.forMessage s.loadIdentityAnnounces message client.identity

/-- The routes a message takes. -/
def outboundRoutes (message : OutboundMessageRecord) : ServerM (List Route) := do
  match message.destination, message.topicId, outboundTargetDestinations message with
  | some destination, _, _ =>
    let s ← state
    let route := Route.forMessage s.loadIdentityAnnounces message destination
    return if route.excluded (excludedOutboundDestinations message) || !s.outboundIdentityAllowed route then []
      else [route]
  | none, _, some targetDestinations => return (← state).relayRoutes message targetDestinations
  | none, some topicId, none =>
    let s ← state
    return s.relayRoutes message (s.topicSubscriberDestinations topicId)
  | none, none, none =>
    let clients ← broadcastOutboundClientRecords
    return (← state).broadcastRoutes message clients

/-- `outbound_destinations`. -/
def outboundDestinations (message : OutboundMessageRecord) : ServerM (List String) := do
  let routes ← outboundRoutes message
  return match message.destination with
    | some _ => routes.map (·.delivery)
    | none => uniqueDestinations routes

/-! ## Each destination once -/

section Unique

omit [ServerHost]

/-- The list has no repetitions and the set has its elements. -/
structure Collected (pass : List String × HSet String) : Prop where
  nodup : pass.1.Nodup
  seen : ∀ d, d ∈ pass.2 ↔ d ∈ pass.1

theorem collected_nil : Collected ([], ∅) := by
  constructor
  · exact List.nodup_nil
  · simp

theorem Collected.push {pass : List String × HSet String} (h : Collected pass) (p : String) :
    Collected (pushUniqueDestinationWithSeen pass p) ∧
      ∀ d, d ∈ (pushUniqueDestinationWithSeen pass p).1 ↔ d ∈ pass.1 ∨ d = p ∧ (trim p).isEmpty = false := by
  unfold pushUniqueDestinationWithSeen
  by_cases hblank : (trim p).isEmpty = true
  · rw [if_pos hblank]
    refine ⟨h, ?_⟩
    simp [hblank]
  · rw [if_neg hblank]
    by_cases hold : pass.2.contains p = true
    · rw [if_pos hold]
      have hin : p ∈ pass.1 := (h.seen p).1 (HSet.contains_iff.1 hold)
      refine ⟨h, ?_⟩
      intro d
      constructor
      · intro hd
        exact .inl hd
      · rintro (hd | ⟨rfl, -⟩)
        · exact hd
        · exact hin
    · rw [if_neg hold]
      have hnew : p ∉ pass.1 := by
        intro hin
        exact hold (HSet.contains_iff.2 ((h.seen p).2 hin))
      refine ⟨⟨?_, ?_⟩, ?_⟩
      · rw [List.nodup_append]
        refine ⟨h.nodup, List.nodup_singleton p, ?_⟩
        intro a ha b hb
        rw [List.mem_singleton.1 hb]
        rintro rfl
        exact hnew ha
      · intro d
        rw [HSet.mem_insert, h.seen, List.mem_append, List.mem_singleton]
        exact or_comm
      · intro d
        simp [hblank]

theorem Collected.pushAll {pass : List String × HSet String} (h : Collected pass) (pushed : List String) :
    Collected (pushed.foldl pushUniqueDestinationWithSeen pass) ∧
      ∀ d, d ∈ (pushed.foldl pushUniqueDestinationWithSeen pass).1 ↔
        d ∈ pass.1 ∨ d ∈ pushed ∧ (trim d).isEmpty = false := by
  induction pushed generalizing pass with
  | nil => exact ⟨h, by simp⟩
  | cons p pushed ih =>
    rw [List.foldl_cons]
    obtain ⟨hpushed, hmem⟩ := h.push p
    obtain ⟨hall, hmem'⟩ := ih hpushed
    refine ⟨hall, ?_⟩
    intro d
    rw [hmem', hmem, List.mem_cons]
    constructor
    · rintro ((hd | ⟨rfl, hd⟩) | ⟨hin, hd⟩)
      · exact .inl hd
      · exact .inr ⟨.inl rfl, hd⟩
      · exact .inr ⟨.inr hin, hd⟩
    · rintro (hd | ⟨rfl | hin, hd⟩)
      · exact .inl (.inl hd)
      · exact .inl (.inr ⟨rfl, hd⟩)
      · exact .inr ⟨hin, hd⟩

theorem nodup_uniqueDestinations (routes : List Route) : (uniqueDestinations routes).Nodup :=
  (collected_nil.pushAll _).1.nodup

theorem mem_uniqueDestinations {routes : List Route} {destination : String} :
    destination ∈ uniqueDestinations routes ↔
      (∃ route ∈ routes, route.delivery = destination) ∧ (trim destination).isEmpty = false := by
  have hmem := (collected_nil.pushAll (routes.map (·.delivery))).2 destination
  unfold uniqueDestinations
  rw [hmem]
  simp [List.mem_map]

end Unique

/-! ## What the checks see to -/

/-- The message goes to whom its topic or its metadata names. -/
def isRelay (message : OutboundMessageRecord) : Bool :=
  message.destination.isNone && (message.topicId.isSome || (outboundTargetDestinations message).isSome)

/-- The checks let the route through. -/
structure AppState.Admits (s : AppState) (message : OutboundMessageRecord) (route : Route) : Prop where
  allowed : s.outboundIdentityAllowed route = true
  notAuthor : message.destination = none → isRelay message = false →
    sameIdentity message.sender route.requested = false ∧ sameIdentity message.sender route.delivery = false

omit [ServerHost] in
theorem relayRoutes_admitted {s : AppState} {message : OutboundMessageRecord} {destinations : List String}
    (hrelay : message.destination = none → isRelay message = true) :
    ∀ route ∈ s.relayRoutes message destinations, s.Admits message route := by
  intro route hroute
  have hchecks := (List.mem_filter.1 hroute).2
  simp only [Bool.and_eq_true] at hchecks
  refine ⟨hchecks.2, ?_⟩
  intro hnone hnot
  rw [hrelay hnone] at hnot
  cases hnot

omit [ServerHost] in
theorem broadcastRoutes_admitted {s : AppState} {message : OutboundMessageRecord} {clients : List RosterClient} :
    ∀ route ∈ s.broadcastRoutes message clients, s.Admits message route := by
  intro route hroute
  obtain ⟨client, hclient, rfl⟩ := List.mem_map.1 hroute
  have hchecks := (List.mem_filter.1 hclient).2
  simp only [Bool.and_eq_true] at hchecks
  have hallowed := hchecks.2
  unfold AppState.outboundRosterRecipientAllowed at hallowed
  split at hallowed
  · cases hallowed
  · split at hallowed
    · cases hallowed
    · rename_i hsender
      simp only [Bool.or_eq_true, not_or, Bool.not_eq_true] at hsender
      exact ⟨hallowed, fun _ _ => hsender⟩

theorem reads_broadcastOutboundClientRecords {τ : Type} {view : AppState → τ} :
    Reads view broadcastOutboundClientRecords := by
  apply Reads.bind Reads.now
  intro now
  apply Reads.bind Reads.state
  intro s
  apply Reads.filterM
  intro client
  apply Reads.ite (Reads.pure _)
  apply Reads.ite (Reads.pure _)
  apply Reads.bind Reads.state
  intro s
  apply Reads.ite (Reads.pure _)
  apply Reads.bind Reads.now
  intro nowTsMs
  apply Reads.bind Reads.state
  intro s
  exact Reads.pure _

/-- The routes are found without a failure, and the checks let each of them through. -/
theorem outboundRoutes_spec (message : OutboundMessageRecord) (s : AppState) :
    Spec id (outboundRoutes message) s fun r s' =>
      s' = s ∧ ∃ routes, r = .ok routes ∧ (message.destination.isSome → routes.length ≤ 1) ∧
        ∀ route ∈ routes, s.Admits message route := by
  unfold outboundRoutes
  split
  · rename_i destination hdestination
    apply Spec.read
    rintro s' rfl
    refine Proc.Spec.pure ⟨rfl, _, rfl, ?_, ?_⟩
    · intro _
      split
      · exact Nat.zero_le 1
      · exact Nat.le_refl 1
    intro route hroute
    split at hroute
    · cases hroute
    · rename_i hchecks
      rw [List.mem_singleton.1 hroute]
      simp only [Bool.or_eq_true, Bool.not_eq_true', not_or, Bool.not_eq_false] at hchecks
      refine ⟨hchecks.2, ?_⟩
      intro hnone
      rw [hdestination] at hnone
      cases hnone
  · rename_i hnone htargets
    apply Spec.read
    rintro s' rfl
    refine Proc.Spec.pure ⟨rfl, _, rfl, by simp [hnone], relayRoutes_admitted fun _ => ?_⟩
    simp [isRelay, hnone, htargets]
  · rename_i topicId hnone htopic htargets
    apply Spec.read
    rintro s' rfl
    refine Proc.Spec.pure ⟨rfl, _, rfl, by simp [hnone], relayRoutes_admitted fun _ => ?_⟩
    simp [isRelay, hnone, htopic]
  · rename_i hnone _ _
    apply Proc.Spec.bind (reads_broadcastOutboundClientRecords s)
    · rintro clients s' ⟨rfl, -⟩
      apply Spec.read
      rintro s' rfl
      exact Proc.Spec.pure ⟨rfl, _, rfl, by simp [hnone], broadcastRoutes_admitted⟩
    · rintro e s' ⟨-, clients, hclients⟩
      cases hclients

/-! ## Recipient safety -/

/-- One of the two identities of the route is this one. -/
def Route.names (route : Route) (identity : String) : Bool :=
  sameIdentity identity route.requested || sameIdentity identity route.delivery

theorem outboundDestinations_run {message : OutboundMessageRecord} {w : ServerWorld} {routes : List Route}
    (h : ((outboundRoutes message).run w).1 = .ok routes) :
    ((outboundDestinations message).run w).1 = .ok (match message.destination with
      | some _ => routes.map (·.delivery)
      | none => uniqueDestinations routes) := by
  unfold outboundDestinations
  rw [Proc.run_bind]
  split
  · rename_i routes' w' hrun
    rw [hrun] at h
    cases h
    rfl
  · rename_i e w' hrun
    rw [hrun] at h
    cases h

/-- A message to a topic. -/
def topicMessage : OutboundMessageRecord where
  messageId := "m"
  topicId := some "t"
  destination := none
  sender := "northbound"
  content := "hello"
  deliveryMode := .fanout
  deliveryMethod := "direct"
  deliveryPolicyReason := "topic_route"
  deliveryState := "queued"
  deliveryMetadata := .object []
  createdTsMs := 0
  attachments := []

end TelemetryHub
