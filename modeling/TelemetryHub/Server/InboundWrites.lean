import TelemetryHub.Lib.Moving
import TelemetryHub.Lib.Sliding
import TelemetryHub.Server.Batches
import TelemetryHub.Server.Logic

/-!
# What inbound traffic writes

The writes to the shared state that an envelope can cause, whatever it carries and wherever its
processing ends. They rest on the source the envelope names.
-/

namespace TelemetryHub

open Lib ServerM

/-- A change of the database that leaves the cursor of the event stream and the bans as they are. -/
structure PlainRows (f : SqliteStore → SqliteStore) : Prop where
  cursor : ∀ store, (f store).eventCursor = store.eventCursor
  states : ∀ store, (f store).identityStates = store.identityStates

/-- One write for an envelope of the source whose own event has that key. -/
inductive InboundWrite (source : String) (key : Option String) (s : AppState) : AppState → Prop
  | event (event : SystemEventRecord) (keyed : event.dedupeKey = none ∨ event.dedupeKey = key) :
      InboundWrite source key s { s with systemEvents := pushSystemEvent s.systemEvents event }
  | rows (f : SqliteStore → SqliteStore) (plain : PlainRows f) :
      InboundWrite source key s { s with sqlite := s.sqlite.map f }
  | heard (client : String) (record : RosterClient) (own : client = source ∨ normalizeIdentityKey source = some client)
      (allowed : s.inboundIdentityBlocked source = false) :
      InboundWrite source key s { s with clients := s.clients.insert client record }
  | left (client : String) (own : normalizeIdentityKey source = some client) :
      InboundWrite source key s { s with clients := s.clients.remove client }
  | subscribed (subscriber : TopicSubscriber) (own : subscriber.destination = source)
      (named : subscriber.subscriberId = source ++ ":" ++ subscriber.topicId)
      (known : s.topics.contains subscriber.topicId = true) :
      InboundWrite source key s { s with subscribers := s.subscribers.insert subscriber.subscriberId subscriber }
  | topic (topicId : String) (entry : TopicEntry) (kept : ∀ old, s.topics.get topicId = some old → entry = old) :
      InboundWrite source key s { s with topics := s.topics.insert topicId entry }
  | admitted (message : OutboundMessageRecord) : InboundWrite source key s { s with messages := s.messages ++ [message] }
  | received (record : OutboundMessageRecord) :
      InboundWrite source key s { s with messages := pushInbound s.messages record }
  | measured (record : TelemetryRecord) (own : record.peerDestination = source)
      (newest : newerTelemetry s.telemetryRecords record = none) :
      InboundWrite source key s { s with telemetryRecords := withTelemetry s.telemetryRecords record }
  | file (path : String) : InboundWrite source key s { s with files := s.files ++ [path] }

/-- Events without a key stand beside those of any. -/
theorem InboundWrite.mono {source : String} {key : Option String} {s s' : AppState} (write : InboundWrite source none s s') :
    InboundWrite source key s s' := by
  cases write with
  | event event keyed => exact .event event (.inl (or_self_iff.1 keyed))
  | rows f plain => exact .rows f plain
  | heard client record own allowed => exact .heard client record own allowed
  | left client own => exact .left client own
  | subscribed subscriber own named known => exact .subscribed subscriber own named known
  | topic topicId entry kept => exact .topic topicId entry kept
  | admitted message => exact .admitted message
  | received record => exact .received record
  | measured record own newest => exact .measured record own newest
  | file path => exact .file path

/-- Wherever the method is run, it changes the state by such writes. -/
abbrev Inbound {α : Type} (source : String) (key : Option String) (m : ServerM α) : Prop :=
  Proc.Moves (seenAs id) (InboundWrite source key) m

namespace Inbound

variable {α β : Type} {source : String} {key : Option String}

/-- The state is where its writes have led. -/
theorem moves {m : ServerM α} (h : Inbound source key m) (w : ServerWorld) :
    Relation.ReflTransGen (InboundWrite source key) w.state (m.run w).2.state := h.steps trivial

theorem read {k : AppState → ServerM α} (h : ∀ s, Inbound source key (k s)) : Inbound source key (state >>= k) :=
  fun t => Spec.read fun s _ => h s t

/-- The state, read; what comes next starts from it. -/
theorem readHere {k : AppState → ServerM α}
    (h : ∀ s, Spec id (k s) s (Proc.Outcome False (InboundWrite source key) s)) : Inbound source key (state >>= k) := by
  intro t
  refine Spec.read fun s same => ?_
  obtain rfl : s = t := same
  exact h s

theorem now {k : Int → ServerM α} (h : ∀ tsMs, Inbound source key (k tsMs)) : Inbound source key (unixNowMs >>= k) :=
  .bind (.of_keeps Keeps.now) h

theorem draw {k : String → ServerM α} (h : ∀ id, Inbound source key (k id)) : Inbound source key (newEventId >>= k) :=
  .bind (.of_keeps Keeps.draw) h

theorem write {f : AppState → AppState} (edit : ∀ s, InboundWrite source key s (f s)) : Inbound source key (update f) :=
  fun t => Spec.lastWrite (fun _ same => congrArg f same) ⟨.single (edit t), False.elim, fun _ _ => trivial⟩

/-- A write of a state that is known, and what comes after it. -/
theorem writeHere {s : AppState} {f : AppState → AppState} {k : Unit → ServerM α} (edit : InboundWrite source key s (f s))
    (h : Inbound source key (k ())) :
    Spec id (update f >>= k) s (Proc.Outcome False (InboundWrite source key) s) :=
  Spec.write (fun _ same => congrArg f same) (Proc.Moves.behind (.single edit) (h (f s)))

/-! ## Rows and events -/

theorem persist {f : SqliteStore → SqliteStore} (plain : PlainRows f) : Inbound source key (withCoreStoreWrite f) :=
  .bind (.of_keeps Keeps.ensureKillSwitchPersistenceUnlocked) fun _ => write fun _ => .rows f plain

theorem persistMessage (message : OutboundMessageRecord) : Inbound source key (persistOutboundMessageRow message) :=
  persist ⟨fun _ => rfl, fun _ => rfl⟩

theorem persistEvent (event : SystemEventRecord) : Inbound source key (persistSystemEventRow event) := by
  refine persist ⟨fun store => ?_, fun store => ?_⟩ <;> dsimp only [SqliteStore.upsertSystemEvent]

theorem pushes (event : SystemEventRecord) (keyed : event.dedupeKey = none ∨ event.dedupeKey = key) :
    Inbound source key (update fun s => { s with systemEvents := pushSystemEvent s.systemEvents event }) :=
  write fun _ => .event event keyed

theorem recordEvent (eventType message : String) {metadata : Value}
    (keyed : (metadata.get "dedupe_key").bind Value.asStr = none ∨ (metadata.get "dedupe_key").bind Value.asStr = key) :
    Inbound source key (recordSystemEvent eventType message metadata) := by
  unfold recordSystemEvent
  refine draw fun eventId => now fun timestampMs => ?_
  refine .bind (pushes { eventId, eventType, message, timestampMs, metadata } keyed) fun _ => ?_
  exact .bind (persistEvent _) fun _ => .pure _

theorem recordEventBestEffort (eventType message : String) {metadata : Value}
    (keyed : (metadata.get "dedupe_key").bind Value.asStr = none ∨ (metadata.get "dedupe_key").bind Value.asStr = key) :
    Inbound source key (recordSystemEventBestEffort eventType message metadata) :=
  .bind (.attempt (recordEvent eventType message keyed)) fun _ => .pure _

/-- An object without the key is of no envelope. -/
theorem unkeyed {fields : List (String × Value)} (absent : "dedupe_key" ∉ fields.map Prod.fst) :
    ((Value.object fields).get "dedupe_key").bind Value.asStr = none := by
  have missing : fields.lookup "dedupe_key" = none := by
    rw [List.lookup_eq_none_iff]
    intro field mem
    rw [bne_iff_ne]
    intro same
    exact absent (List.mem_map.2 ⟨field, mem, same.symm⟩)
  rw [Value.get, Value.asObject, Option.bind_some, missing, Option.bind_none]

end Inbound

/-! ## How a message is to go -/

section

variable {view : AppState → τ} {τ : Type} [ServerHost]

omit [ServerHost] in
theorem ServerM.Reads.anyM {α : Type} {items : List α} {body : α → ServerM Bool} (h : ∀ a, Reads view (body a)) :
    Reads view (items.anyM body) := by
  induction items with
  | nil => exact .pure _
  | cons a rest ih =>
    refine .bind (h a) fun found => ?_
    cases found with
    | true => exact .pure _
    | false => exact ih

theorem reads_hasFreshAnnounceForAny (destinations : List String) : Reads view (hasFreshAnnounceForAny destinations) :=
  .bind .now fun _ => .bind .state fun _ => .pure _

theorem reads_hasStaleKnownAnnounceForAny (destinations : List String) :
    Reads view (hasStaleKnownAnnounceForAny destinations) :=
  .bind .state fun _ => .ite (.bind (reads_hasFreshAnnounceForAny destinations) fun _ => .pure _) (.pure _)

theorem reads_outboundTargetedDestinationShouldRejectStale (destination : String) :
    Reads view (outboundTargetedDestinationShouldRejectStale destination) := by
  refine .bind .state fun _ => .ite (.pure _) (.bind .now fun _ => ?_)
  exact .bind (reads_hasStaleKnownAnnounceForAny _) fun _ => .ite (.bind .state fun _ => .pure _) (.pure _)

theorem reads_remCommandDestinationShouldPropagate (destination : String) :
    Reads view (remCommandDestinationShouldPropagate destination) :=
  .bind (reads_hasStaleKnownAnnounceForAny _) fun _ => .ite (.pure _) (.bind .state fun _ => .pure _)

theorem reads_outboundDestinationsHaveUnannouncedRoute (deliveryMode : DeliveryMode) (destinations : List String) :
    Reads view (outboundDestinationsHaveUnannouncedRoute deliveryMode destinations) := by
  refine .bind .state fun _ => .ite (.pure _) (.bind .now fun _ => .bind .state fun _ => .anyM fun _ => ?_)
  exact .bind (reads_hasFreshAnnounceForAny _) fun _ => .bind .state fun _ => .pure _

theorem reads_outboundRouteHasUnannouncedDestinations (deliveryMode : DeliveryMode) (topicId : Option String)
    (targets : Option (List String)) : Reads view (outboundRouteHasUnannouncedDestinations deliveryMode topicId targets) := by
  unfold outboundRouteHasUnannouncedDestinations
  cases deliveryMode with
  | targeted => exact .pure _
  | fanout =>
    dsimp only
    split
    · exact reads_outboundDestinationsHaveUnannouncedRoute _ _
    · exact .bind .state fun _ => reads_outboundDestinationsHaveUnannouncedRoute _ _
    · exact .pure _
  | broadcast =>
    exact .bind reads_broadcastOutboundClientRecords fun _ => reads_outboundDestinationsHaveUnannouncedRoute _ _

omit [ServerHost] in
theorem reads_policyDecision : Reads view policyDecision := fun _ _ seen _ => ⟨⟨seen, _, rfl⟩, trivial⟩

theorem reads_remDeliveryDecision (destination : Option String) : Reads view (remDeliveryDecision destination) := by
  refine .bind .now fun _ => .bind .state fun _ => .bind (reads_hasStaleKnownAnnounceForAny _) fun _ => ?_
  refine .ite (.pure _) (.ite (.pure _) (.bind reads_policyDecision fun _ => ?_))
  exact .ite (.pure _) (.pure _)

theorem reads_targetedDeliveryDecision (destination : Option String) : Reads view (targetedDeliveryDecision destination) := by
  have settled (s : AppState) (seen : Option Int) : Reads view
      (if s.failedSinceSeen destination seen then pure ⟨"propagated", "direct_cooldown"⟩ else policyDecision) :=
    .ite (.pure _) reads_policyDecision
  refine .bind .now fun _ => .bind .state fun s => .bind (reads_hasStaleKnownAnnounceForAny _) fun _ => ?_
  exact .ite (.ite (.pure _) (settled s _)) (settled s _)

theorem reads_outboundDeliveryDecisionForTargets (deliveryMode : DeliveryMode) (topicId destination : Option String)
    (targets : Option (List String)) :
    Reads view (outboundDeliveryDecisionForTargets deliveryMode topicId destination targets) := by
  unfold outboundDeliveryDecisionForTargets
  cases deliveryMode with
  | broadcast =>
    exact .bind (reads_outboundRouteHasUnannouncedDestinations _ _ _) fun _ => .ite (.pure _) (.pure _)
  | fanout => exact .bind (reads_outboundRouteHasUnannouncedDestinations _ _ _) fun _ => .ite (.pure _) (.pure _)
  | targeted =>
    exact .bind .state fun _ => .ite (reads_remDeliveryDecision destination) (reads_targetedDeliveryDecision destination)

end

/-! ## What is sent to the source and to others -/

section

variable {source : String} {key : Option String} [ServerHost]

namespace Inbound

omit [ServerHost] in
theorem reads {α : Type} {m : ServerM α} (h : Reads id m) : Inbound source key m :=
  .of_keeps fun t => (h t).mono fun _ _ same => same.1

end Inbound

open Inbound

theorem inbound_admittedDecision (topicId destination : Option String) (deliveryMetadata : Value) :
    Inbound source key (admittedDecision topicId destination deliveryMetadata) := by
  unfold admittedDecision
  refine .checked fun deliveryMode _ => .bind (reads (reads_outboundDeliveryDecisionForTargets _ _ _ _)) fun decision => ?_
  have remarked : Inbound source key (do
      if ((deliveryMetadata.get "fanout_channel").bind Value.asStr).any isRemCommandChannel && decision.method != "propagated" then
        if ← destination.elim (pure false) remCommandDestinationShouldPropagate then
          return (deliveryMode, ⟨"propagated", "no_fresh_presence"⟩)
        else return (deliveryMode, ⟨"auto", "rem_auto"⟩)
      return (deliveryMode, decision) : ServerM (DeliveryMode × DeliveryDecision)) := by
    refine .ite (fun _ => .bind ?_ fun _ => .ite (fun _ => .pure _) fun _ => .pure _) fun _ => .pure _
    cases destination with
    | none => exact .pure _
    | some destination => exact reads (reads_remCommandDestinationShouldPropagate destination)
  refine .ite (fun _ => .bind ?_ fun _ => .guard fun _ => remarked) fun _ => remarked
  cases destination with
  | none => exact .pure _
  | some destination => exact reads (reads_outboundTargetedDestinationShouldRejectStale destination)

omit [ServerHost] in
theorem inbound_storeAdmitted (message : OutboundMessageRecord) : Inbound source key (storeAdmitted message) := by
  refine .bind (write fun _ => .admitted message) fun _ => .bind (persistMessage message) fun _ => ?_
  exact .bind (recordEventBestEffort _ _ (.inl (unkeyed (by simp)))) fun _ => .pure _

theorem inbound_recordOutboundMessageWithMetadata (content : String) (topicId destination : Option String)
    (attachments : List ChatAttachmentRecord) (compactId : Bool) (deliveryMetadata : Value) :
    Inbound source key (recordOutboundMessageWithMetadata content topicId destination attachments compactId deliveryMetadata) := by
  refine .bind (inbound_admittedDecision topicId destination deliveryMetadata) ?_
  rintro ⟨deliveryMode, decision⟩
  have named : Keeps id (newMessageId compactId) := fun _ _ seen _ => ⟨seen, trivial⟩
  exact .bind (.of_keeps named) fun _ => Inbound.now fun _ => inbound_storeAdmitted _

theorem inbound_replayRecent (topic : String) (command : ProtocolCommand) (joiner : String) :
    Inbound source key (replayRecentReticulumdTopicMessagesToJoiner joiner topic command) := by
  refine .ite (fun _ => .pure _) fun _ => read fun _ => .mapM fun _ => ?_
  exact inbound_recordOutboundMessageWithMetadata _ _ _ _ _ _

/-! ## The roster -/

omit [ServerHost] in
theorem keeps_orNowMs (value : Option Int) : Keeps id (orNowMs value) := by
  cases value with
  | none => exact .now
  | some tsMs => exact .pure _

theorem inbound_persistClientRow (client : RosterClient) : Inbound source key (persistClientRow client) :=
  .bind (.of_keeps (keeps_orNowMs _)) fun _ => persist ⟨fun _ => rfl, fun _ => rfl⟩

theorem inbound_touchReticulumdInboundClient (chatActivity : Bool) :
    Inbound source key (touchReticulumdInboundClient source chatActivity) := by
  refine .ite (fun _ => .pure _) fun _ => readHere fun s => ?_
  refine Proc.Spec.ite (fun _ => Proc.Spec.answer) fun allowed => Spec.now fun nowMs => Spec.read fun s' same => ?_
  obtain rfl : s' = s := same
  exact writeHere (.heard source _ (.inl rfl) (Bool.not_eq_true _ ▸ allowed)) (inbound_persistClientRow _)

theorem inbound_upsertRosterClient (rewrite : RosterClient → RosterClient) :
    Inbound source key (upsertRosterClient source rewrite) := by
  refine readHere fun s => Proc.Spec.guarded fun allowed => Proc.Spec.required fun client named => ?_
  refine Spec.now fun nowMs => Spec.read fun s' same => ?_
  obtain rfl : s' = s := same
  exact writeHere (.heard client _ (.inr named) (Bool.not_eq_true _ ▸ allowed)) (.bind (inbound_persistClientRow _) fun _ => .pure _)

omit [ServerHost] in
theorem inbound_removeRosterClient : Inbound source key (removeRosterClient source) := by
  refine .required fun client named => read fun _ => .bind (write fun _ => .left client named) fun _ => ?_
  exact .ite (fun _ => .bind (persist ⟨fun _ => rfl, fun _ => rfl⟩) fun _ => .pure _) fun _ => .pure _

/-! ## The arms of a command -/

theorem inbound_joinSource (topic : String) (command : ProtocolCommand) :
    Inbound source key (joinSource source topic command) := by
  refine .bind (inbound_upsertRosterClient _) fun _ => .bind (inbound_recordOutboundMessageWithMetadata _ _ _ _ _ _) fun _ => ?_
  refine .bind (inbound_replayRecent topic command source) fun _ => ?_
  exact .bind (recordEvent _ _ (.inl (unkeyed (by simp)))) fun _ => .pure _

theorem inbound_answerSource (topic : String) (command : ProtocolCommand) (content : String) :
    Inbound source key (answerSource source topic command content) :=
  .bind (inbound_recordOutboundMessageWithMetadata _ _ _ _ _ _) fun _ => .pure _

theorem inbound_rewriteSource (topic : String) (command : ProtocolCommand) (rewrite : RosterClient → RosterClient)
    (content : String) : Inbound source key (rewriteSource source topic command rewrite content) :=
  .bind (inbound_upsertRosterClient rewrite) fun _ => inbound_answerSource topic command content

theorem inbound_leaveSource (topic : String) (command : ProtocolCommand) :
    Inbound source key (leaveSource source topic command) :=
  .bind inbound_removeRosterClient fun _ => inbound_answerSource topic command _

theorem inbound_nickSource (topic : String) (command : ProtocolCommand) :
    Inbound source key (nickSource source topic command) := by
  unfold nickSource
  split
  · exact inbound_answerSource topic command _
  · split
    · exact inbound_answerSource topic command _
    · exact inbound_rewriteSource topic command _ _

omit [ServerHost] in
theorem inbound_subscribeSource (command : ProtocolCommand) : Inbound source key (subscribeSource source command) := by
  refine .required fun topicId _ => .ite (fun _ => .pure _) fun _ => readHere fun s => ?_
  refine Proc.Spec.guarded fun known => writeHere (.subscribed _ rfl rfl (by simpa using known)) ?_
  exact Inbound.now fun _ => persist ⟨fun _ => rfl, fun _ => rfl⟩

omit [ServerHost] in
theorem keeps_buildTopic (topicId topicName topicPath topicDescription : Option String) :
    Keeps id (buildTopic topicId topicName topicPath topicDescription) := by
  refine .bind (.orThrow _ _) fun _ => .bind (.orThrow _ _) fun _ => ?_
  split
  · exact .pure _
  · exact .bind Keeps.draw fun _ => .pure _

omit [ServerHost] in
theorem inbound_createTopicOf (command : ProtocolCommand) : Inbound source key (createTopicOf command) := by
  refine .bind (.of_keeps (keeps_buildTopic _ _ _ _)) fun topic => readHere fun s => ?_
  have kept (old : TopicEntry) (found : s.topics.get topic.topicId = some old) :
      (s.topics.get topic.topicId).getD topic = old := by
    rw [found, Option.getD_some]
  exact writeHere (.topic topic.topicId _ kept) (Inbound.now fun _ => persist ⟨fun _ => rfl, fun _ => rfl⟩)

/-! ## The registry -/

omit [ServerHost] in
/-- A method of a core that is not the server's. -/
theorem spec_onCore {core : RchCore} {α β : Type} {m : CoreM β} {k : Except RchCoreError β × RchCore → ServerM α} {t : AppState}
    {Q : Except ApiError α → AppState → Prop} (h : ∀ r, Spec id (k r) t Q) : Spec id (onCore core m >>= k) t Q :=
  fun _ seen rest => h _ _ seen rest

omit [ServerHost] in
/-- The rows, written as those of the store that is there. -/
theorem rowsHere {s : AppState} {store : SqliteStore} (found : s.sqlite = some store) {f : SqliteStore → SqliteStore}
    (plain : PlainRows f) : InboundWrite source key s { s with sqlite := some (f store) } := by
  have edit : InboundWrite source key s { s with sqlite := s.sqlite.map f } := .rows f plain
  rwa [found, Option.map_some] at edit

theorem inbound_sendMissionSyncResponse (sender topic : String) (command : ProtocolCommand) (teamUid : Option String)
    (teamDestinations : Option (List String)) (response : MissionSyncResponse) :
    Inbound source key (sendMissionSyncResponse sender topic command teamUid teamDestinations response) := by
  refine .bind (inbound_recordOutboundMessageWithMetadata _ _ _ _ _ _) fun _ => ?_
  unfold fanoutMissionSyncResponseToTeam
  split
  · exact .pure _
  · exact read fun _ => .forM fun _ _ => .bind (inbound_recordOutboundMessageWithMetadata _ _ _ _ _ _) fun _ => .pure _

theorem inbound_missionSyncCommand (envelope : ProtocolEnvelope) (command : ProtocolCommand) (checklist : Bool) :
    Inbound source key (processReticulumdInboundMissionSyncCommand envelope command checklist) := by
  refine readHere fun s => Proc.Spec.required fun store found => Proc.Spec.checked fun before _ => spec_onCore ?_
  rintro ⟨outcome, after⟩
  have plain : PlainRows fun store => if checklist then store.saveChecklistCommandDelta before after
      else store.saveR3aktCommandDelta before after := by
    constructor <;> intro store <;> cases checklist <;> rfl
  refine writeHere (rowsHere found plain) ?_
  cases outcome with
  | ok told => exact .forM fun response _ => inbound_sendMissionSyncResponse _ _ _ _ _ response
  | error e => exact .pure _

/-! ## The command -/

theorem inbound_processReticulumdInboundCommand (envelope : ProtocolEnvelope) (command : ProtocolCommand) :
    Inbound envelope.source key (processReticulumdInboundCommand envelope command) := by
  refine .bind (inbound_touchReticulumdInboundClient false) fun _ => ?_
  cases command.arm with
  | join => exact inbound_joinSource _ command
  | leave => exact inbound_leaveSource _ command
  | pause => exact inbound_rewriteSource _ command _ _
  | resume => exact inbound_rewriteSource _ command _ _
  | nick => exact inbound_nickSource _ command
  | users => exact read fun _ => inbound_answerSource _ command _
  | help => exact inbound_answerSource _ command _
  | subscribeTopic => exact inbound_subscribeSource command
  | createTopic => exact inbound_createTopicOf command
  | mission => exact inbound_missionSyncCommand envelope command false
  | checklist => exact inbound_missionSyncCommand envelope command true
  | unknown => exact .pure _

/-! ## Topic messages -/

theorem inbound_storeInboundTopicAttachment (topicId : String) (stored : List ChatAttachmentRecord)
    (attachment : TopicAttachment) : Inbound source key (storeInboundTopicAttachment topicId stored attachment) := by
  have inserted (record : FileAttachmentRecord) : Inbound source key (insertFileAttachmentRow record) := by
    refine .bind (.of_keeps Keeps.ensureKillSwitchPersistenceUnlocked) fun _ => readHere fun s => ?_
    refine Proc.Spec.required fun store found => writeHere ?_ (.pure _)
    exact rowsHere found (f := fun store => (store.insertFileAttachment record).2) ⟨fun _ => rfl, fun _ => rfl⟩
  refine .ite (fun _ => .pure _) fun _ => .bind (.of_keeps ?_) ?_
  · unfold inboundAttachmentName
    exact .ite (.bind Keeps.draw fun _ => .pure _) (.pure _)
  · rintro ⟨safeName, mediaType⟩
    refine read fun _ => .bind (.of_keeps ?_) fun path => .bind (write fun _ => .file path) fun _ => ?_
    · unfold uniqueInboundAttachmentPath
      refine .ite (.pure _) ?_
      dsimp only
      split
      · exact .pure _
      · exact .bind Keeps.draw fun _ => .pure _
    · exact Inbound.now fun _ => .bind (inserted _) fun _ => .pure _

theorem inbound_recordInboundTopicMessage (envelope : ProtocolEnvelope) (message : TopicMessage) (body : String) :
    Inbound source key (recordInboundTopicMessage envelope message body) := by
  refine .bind ?_ fun attachments => .bind (write fun _ => .received _) fun _ => .bind (persistMessage _) fun _ => .pure _
  refine read fun _ => .ite (fun _ => .pure _) fun _ => .foldlM (fun stored attachment _ => ?_) _
  exact inbound_storeInboundTopicAttachment _ stored attachment

theorem reads_relayDestinations {τ : Type} {view : AppState → τ} (sender topicId : String) (subscribed : List String) :
    Reads view (relayDestinations sender topicId subscribed) := by
  refine .ite (.pure _) (.bind (.bind .now fun _ => .bind .state fun _ => .pure _) fun _ => .ite (.pure _) ?_)
  exact .bind (.bind .now fun _ => .bind .state fun _ => .pure _) fun _ => .ite (.pure _) (.pure _)

theorem inbound_relay (envelope : ProtocolEnvelope) (message : TopicMessage) (inbound : OutboundMessageRecord) :
    Inbound source key (relayReticulumdInboundTopicMessage envelope message inbound) := by
  refine read fun _ => .bind (reads (reads_relayDestinations _ _ _)) ?_
  rintro ⟨destinations, active⟩
  refine .ite (fun _ => .pure _) fun _ => read fun _ => ?_
  refine .bind (inbound_recordOutboundMessageWithMetadata _ _ _ _ _ _) fun _ => ?_
  exact .bind (recordEvent _ _ (.inl (unkeyed (by simp)))) fun _ => .pure _

/-! ## Telemetry -/

omit [ServerHost] in
theorem inbound_recordTelemetry (telemetry : Value) (timestampS : Int) :
    Inbound source key (recordTelemetry source telemetry timestampS) := by
  refine read fun _ => .ite (fun _ => .pure _) fun _ => readHere fun s => ?_
  split
  · exact Proc.Spec.answer
  · next older => exact writeHere (.measured _ rfl older) (.bind (persist ⟨fun _ => rfl, fun _ => rfl⟩) fun _ => .pure _)

/-! ## The envelope -/

omit [ServerHost] in
/-- What is recorded of an envelope has its key as it came. -/
theorem metadata_key (envelope : ProtocolEnvelope) :
    ((reticulumdInboundEnvelopeMetadata envelope).get "dedupe_key").bind Value.asStr = envelope.dedupeKey := by
  have found : (reticulumdInboundEnvelopeMetadata envelope).get "dedupe_key" = some (toValue envelope.dedupeKey) := by
    simp [reticulumdInboundEnvelopeMetadata, Value.get, Value.asObject, List.lookup_cons]
  rw [found]
  cases envelope.dedupeKey with
  | none => rfl
  | some key => rfl

/-- The text of a topic message that is no command is refused. -/
def ProtocolEnvelope.rejected (envelope : ProtocolEnvelope) : Bool :=
  match envelope.payload with
  | .topicMessage message =>
    (plainLxmfCommandFromMessageBody message.body).isNone && (sanitizeGroupChatText message.body).toOption.isNone
  | _ => false

/-- The last event is of an envelope with that key. -/
def EndsKeyed (key : Option String) (recorded : List SystemEventRecord) : Prop :=
  ∃ events event, recorded = pushSystemEvent events event ∧ event.dedupeKey = key

/-- The envelope is carried out, and then an event of it is recorded. -/
structure Processes (source : String) (key : Option String) (m : ServerM Unit) : Prop where
  writes : Inbound source key m
  recorded : ∀ t, Spec AppState.systemEvents m t (Proc.Returns fun _ => EndsKeyed key)

omit [ServerHost] in
theorem systemEvents_blindToStore : BlindToStore AppState.systemEvents := by
  intro s store
  dsimp only

namespace Processes

omit [ServerHost] in
theorem after {α : Type} {m : ServerM α} {k : α → ServerM Unit} (hm : Inbound source key m)
    (hk : ∀ a, Processes source key (k a)) : Processes source key (m >>= k) := by
  refine ⟨.bind hm fun a => (hk a).writes, fun t => ?_⟩
  have free : Spec AppState.systemEvents m t (Proc.Returns fun _ _ => True) := fun _ _ _ => ⟨fun _ _ => trivial, trivial⟩
  exact Proc.Returns.bind free fun a t' _ => (hk a).recorded t'

omit [ServerHost] in
theorem event (eventType message : String) {metadata : Value}
    (keyed : (metadata.get "dedupe_key").bind Value.asStr = key) :
    Processes source key (recordSystemEvent eventType message metadata >>= fun _ => pure ()) := by
  refine ⟨.bind (recordEvent eventType message (.inr keyed)) fun _ => .pure _, fun t => ?_⟩
  have last : Spec AppState.systemEvents (recordSystemEvent eventType message metadata) t
      (Proc.Returns fun _ => EndsKeyed key) := by
    refine Spec.draw fun eventId => Spec.now fun timestampMs => ?_
    have pushed (event : SystemEventRecord) (s : AppState) (same : s.systemEvents = t) :
        pushSystemEvent s.systemEvents event = pushSystemEvent t event := by
      rw [same]
    have kept (event : SystemEventRecord) : Keeps AppState.systemEvents (persistSystemEventRow event) :=
      .withCoreStoreWrite systemEvents_blindToStore _
    apply Spec.write
    · intro s same
      dsimp only
      exact pushed _ s same
    · refine Spec.after (kept _) (fun _ => ?_) fun _ _ same => absurd same error_ne_ok
      exact Proc.Returns.pure ⟨t, _, rfl, keyed⟩
  exact Proc.Returns.bind last fun _ _ ends => Proc.Returns.pure ends

omit [ServerHost] in
theorem last {m : ServerM Unit} (h : Processes source key m) {w : ServerWorld} (done : (m.run w).1 = .ok ()) :
    EndsKeyed key (m.run w).2.state.systemEvents := (h.recorded _ w rfl trivial).1 () done

end Processes

omit [ServerHost] in
/-- Another entry leaves the key. -/
theorem keyed_insert {metadata : Value} (object : metadata.isObject = true) {other : String} (apart : "dedupe_key" ≠ other)
    (item : Value) : (metadata.insert other item).get "dedupe_key" = metadata.get "dedupe_key" := by
  rw [get_insert_value object, if_neg apart]

theorem processes_processCommandPayload (envelope : ProtocolEnvelope) (command : ProtocolCommand)
    {commandSource : List (String × Value)} (alone : ∀ entry ∈ commandSource, entry.1 = "command_source") :
    Processes envelope.source envelope.dedupeKey (processCommandPayload envelope command commandSource) := by
  refine .after (inbound_processReticulumdInboundCommand envelope command) fun _ => .event _ _ ?_
  have entries (metadata : Value) (object : metadata.isObject = true) :
      (commandSource.foldl (fun metadata entry => metadata.insert entry.1 entry.2) metadata).get "dedupe_key" =
        metadata.get "dedupe_key" := by
    induction commandSource generalizing metadata with
    | nil => rfl
    | cons entry rest ih =>
      have apart : "dedupe_key" ≠ entry.1 := by
        rw [alone entry List.mem_cons_self]
        decide
      have object' : (metadata.insert entry.1 entry.2).isObject = true := by rw [isObject_insert, object]
      rw [List.foldl_cons, ih (fun other mem => alone other (List.mem_cons_of_mem _ mem)) _ object',
        keyed_insert object apart]
  rw [entries _ rfl, keyed_insert rfl (by decide), metadata_key]

/-- Of any payload that is not refused, an event with the key of the envelope is recorded last. -/
theorem processes_processPayload (envelope : ProtocolEnvelope) (accepted : envelope.rejected = false) :
    Processes envelope.source envelope.dedupeKey (processPayload envelope) := by
  unfold processPayload
  cases shape : envelope.payload with
  | topicMessage message =>
    dsimp only
    cases plain : plainLxmfCommandFromMessageBody message.body with
    | some command => exact processes_processCommandPayload envelope command (by simp)
    | none =>
      dsimp only [processTopicMessage]
      cases sane : sanitizeGroupChatText message.body with
      | error reason => simp [ProtocolEnvelope.rejected, shape, plain, sane, Except.toOption] at accepted
      | ok body =>
        refine .after (inbound_recordInboundTopicMessage envelope message body) fun inbound => ?_
        refine .after (inbound_touchReticulumdInboundClient true) fun _ => ?_
        exact .after (inbound_relay envelope message inbound) fun _ => .event _ _ (metadata_key envelope)
  | healthTelemetry telemetry => exact .after (inbound_recordTelemetry _ _) fun _ => .event _ _ (metadata_key envelope)
  | telemetrySample telemetry => exact .after (inbound_recordTelemetry _ _) fun _ => .event _ _ (metadata_key envelope)
  | command command => exact processes_processCommandPayload envelope command (by simp)
  | _ =>
    refine .event _ _ ?_
    rw [keyed_insert rfl (by decide), metadata_key]

/-- A refused text is answered, and nothing is recorded of its envelope. -/
theorem inbound_rejected (envelope : ProtocolEnvelope) (refused : envelope.rejected = true) :
    Inbound envelope.source none (processPayload envelope) := by
  unfold ProtocolEnvelope.rejected at refused
  unfold processPayload
  split at refused
  · next message shape =>
    rw [Bool.and_eq_true, Option.isNone_iff_eq_none] at refused
    rw [shape]
    dsimp only
    rw [refused.1]
    dsimp only [processTopicMessage]
    cases sane : sanitizeGroupChatText message.body with
    | error reason => exact .bind (inbound_recordOutboundMessageWithMetadata _ _ _ _ _ _) fun _ => .pure _
    | ok body => simp [sane, Except.toOption] at refused
  · cases refused

theorem inbound_processPayload (envelope : ProtocolEnvelope) :
    Inbound envelope.source envelope.dedupeKey (processPayload envelope) := by
  cases refused : envelope.rejected with
  | true => exact (inbound_rejected envelope refused).mono fun _ _ write => write.mono
  | false => exact (processes_processPayload envelope refused).writes

theorem inbound_processReticulumdInboundEnvelope (envelope : ProtocolEnvelope) :
    Inbound envelope.source envelope.dedupeKey (processReticulumdInboundEnvelope envelope) :=
  read fun _ => .ite (fun _ => .pure _) fun _ => .bind (inbound_touchReticulumdInboundClient false) fun _ =>
    inbound_processPayload envelope

end

end TelemetryHub
