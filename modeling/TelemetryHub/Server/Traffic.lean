import TelemetryHub.Core.Normal
import TelemetryHub.Server.InboundWrites

/-!
# Inbound traffic

Batches, listed messages and gaps of the stream, one after another in any order. An envelope
touches what is its source's own, and a ban is stronger than all of them.
-/

namespace TelemetryHub

open Lib ServerM

/-! ## One source -/

/-- What an envelope of the source leaves as it was. -/
structure SourceOnly (source : String) (s s' : AppState) : Prop where
  clients : ∀ client, client ≠ source → normalizeIdentityKey source ≠ some client →
    s'.clients.get client = s.clients.get client
  banned : s.inboundIdentityBlocked source = true → ∀ client record, s'.clients.get client = some record →
    s.clients.get client = some record
  topics : ∀ topicId entry, s.topics.get topicId = some entry → s'.topics.get topicId = some entry
  subscribers : ∀ subscriberId, (∀ topicId, subscriberId ≠ source ++ ":" ++ topicId) →
    s'.subscribers.get subscriberId = s.subscribers.get subscriberId
  subscribed : ∀ subscriberId subscriber, s'.subscribers.get subscriberId = some subscriber →
    s.subscribers.get subscriberId = some subscriber ∨
      subscriber.destination = source ∧ s'.topics.contains subscriber.topicId = true
  telemetry : ∀ record, telemetryIdentityKey record.peerDestination ≠ telemetryIdentityKey source →
    (record ∈ s'.telemetryRecords ↔ record ∈ s.telemetryRecords)
  identityStates : s'.identityStates = s.identityStates
  stateRows : s'.sqlite.map SqliteStore.identityStates = s.sqlite.map SqliteStore.identityStates
  cursor : s'.sqlite.map SqliteStore.eventCursor = s.sqlite.map SqliteStore.eventCursor
  reticulumdSource : s'.reticulumdSource = s.reticulumdSource
  outboundIdentityAllowlist : s'.outboundIdentityAllowlist = s.outboundIdentityAllowlist
  dataPlane : s'.dataPlane = s.dataPlane
  persistenceLocked : s'.persistenceLocked = s.persistenceLocked

namespace SourceOnly

variable {source : String} {s s' s'' : AppState}

theorem refl (source : String) (s : AppState) : SourceOnly source s s where
  clients _ _ _ := rfl
  banned _ _ _ found := found
  topics _ _ found := found
  subscribers _ _ := rfl
  subscribed _ _ found := .inl found
  telemetry _ _ := .rfl
  identityStates := rfl
  stateRows := rfl
  cursor := rfl
  reticulumdSource := rfl
  outboundIdentityAllowlist := rfl
  dataPlane := rfl
  persistenceLocked := rfl

/-- Where only messages, events, files or telemetry are written. -/
theorem of_kept (telemetry : ∀ record, telemetryIdentityKey record.peerDestination ≠ telemetryIdentityKey source →
      (record ∈ s'.telemetryRecords ↔ record ∈ s.telemetryRecords))
    (maps : s'.clients = s.clients ∧ s'.topics = s.topics ∧ s'.subscribers = s.subscribers ∧
      s'.identityStates = s.identityStates ∧ s'.sqlite = s.sqlite)
    (settings : s'.reticulumdSource = s.reticulumdSource ∧ s'.outboundIdentityAllowlist = s.outboundIdentityAllowlist ∧
      s'.dataPlane = s.dataPlane ∧ s'.persistenceLocked = s.persistenceLocked) : SourceOnly source s s' := by
  obtain ⟨clients, topics, subscribers, identityStates, sqlite⟩ := maps
  obtain ⟨reticulumdSource, outboundIdentityAllowlist, dataPlane, persistenceLocked⟩ := settings
  constructor
  case clients => exact fun client _ _ => by rw [clients]
  case banned => exact fun _ client record found => by rwa [clients] at found
  case topics => exact fun topicId entry found => by rwa [topics]
  case subscribers => exact fun id _ => by rw [subscribers]
  case subscribed => exact fun id subscriber found => .inl (by rwa [subscribers] at found)
  case telemetry => exact telemetry
  case stateRows => rw [sqlite]
  case cursor => rw [sqlite]
  all_goals assumption

/-- A topic that is there stays there. -/
theorem topics_contains (h : SourceOnly source s s') {topicId : String} (there : s.topics.contains topicId = true) :
    s'.topics.contains topicId = true := by
  rw [Dict.contains_iff] at there ⊢
  obtain ⟨entry, found⟩ := there
  exact ⟨entry, h.topics topicId entry found⟩

theorem blocked (h : SourceOnly source s s') (identity : String) :
    s'.inboundIdentityBlocked identity = s.inboundIdentityBlocked identity := by
  rw [AppState.inboundIdentityBlocked, AppState.inboundIdentityBlocked, h.identityStates]

theorem trans (h : SourceOnly source s s') (h' : SourceOnly source s' s'') : SourceOnly source s s'' where
  clients client other named := (h'.clients client other named).trans (h.clients client other named)
  banned ban client record found := h.banned ban client record (h'.banned ((h.blocked source).trans ban) client record found)
  topics topicId entry found := h'.topics topicId entry (h.topics topicId entry found)
  subscribers id other := (h'.subscribers id other).trans (h.subscribers id other)
  subscribed id subscriber found := by
    rcases h'.subscribed id subscriber found with before | new
    · rcases h.subscribed id subscriber before with before | ⟨own, there⟩
      · exact .inl before
      · exact .inr ⟨own, h'.topics_contains there⟩
    · exact .inr new
  telemetry record other := (h'.telemetry record other).trans (h.telemetry record other)
  identityStates := h'.identityStates.trans h.identityStates
  stateRows := h'.stateRows.trans h.stateRows
  cursor := h'.cursor.trans h.cursor
  reticulumdSource := h'.reticulumdSource.trans h.reticulumdSource
  outboundIdentityAllowlist := h'.outboundIdentityAllowlist.trans h.outboundIdentityAllowlist
  dataPlane := h'.dataPlane.trans h.dataPlane
  persistenceLocked := h'.persistenceLocked.trans h.persistenceLocked

end SourceOnly

/-- The records of other peers stay when one comes in. -/
theorem mem_withTelemetry {records : List TelemetryRecord} {new record : TelemetryRecord}
    (other : telemetryIdentityKey record.peerDestination ≠ telemetryIdentityKey new.peerDestination) :
    record ∈ withTelemetry records new ↔ record ∈ records := by
  have apart : record ≠ new := by
    rintro rfl
    exact other rfl
  rw [withTelemetry, List.mem_append, List.mem_singleton, or_iff_left apart]
  cases named : telemetryIdentityKey new.peerDestination with
  | none => rfl
  | some peerKey =>
    rw [named] at other
    rw [List.mem_filter, and_iff_left]
    simpa [samePeer] using other

/-- Each write of an envelope is one of its source. -/
theorem InboundWrite.sourceOnly {source : String} {key : Option String} {s s' : AppState}
    (write : InboundWrite source key s s') : SourceOnly source s s' := by
  have same := SourceOnly.refl source s
  cases write with
  | event event keyed => exact .of_kept (fun _ _ => .rfl) (by simp only [and_self]) (by simp only [and_self])
  | rows f plain =>
    refine { same with stateRows := ?_, cursor := ?_ }
    · cases s.sqlite with
      | none => rfl
      | some store => exact congrArg some (plain.states store)
    · cases s.sqlite with
      | none => rfl
      | some store => exact congrArg some (plain.cursor store)
  | heard client record own allowed =>
    refine { same with clients := fun other apart named => ?_, banned := fun ban => ?_ }
    · refine Dict.get_insert_ne ?_
      rintro rfl
      exact own.elim apart named
    · rw [allowed] at ban
      cases ban
  | left client own =>
    refine { same with clients := fun other apart named => ?_, banned := fun _ other record found => ?_ }
    · refine (Dict.get_remove _ _ _).trans (if_neg ?_)
      rintro rfl
      exact named own
    · rw [Dict.get_remove] at found
      split at found
      · cases found
      · exact found
  | subscribed subscriber own named known =>
    refine { same with subscribers := fun id other => ?_, subscribed := fun id other found => ?_ }
    · refine Dict.get_insert_ne ?_
      rintro rfl
      exact other _ named
    · rw [Dict.get_insert] at found
      split at found
      · cases found
        exact .inr ⟨own, known⟩
      · exact .inl found
  | topic topicId entry kept =>
    refine { same with topics := fun id old found => ?_, subscribed := fun _ _ found => .inl found }
    rw [Dict.get_insert]
    split
    · next same =>
      subst same
      rw [kept old found]
    · exact found
  | admitted message => exact .of_kept (fun _ _ => .rfl) (by simp only [and_self]) (by simp only [and_self])
  | received record => exact .of_kept (fun _ _ => .rfl) (by simp only [and_self]) (by simp only [and_self])
  | measured record own newest =>
    refine .of_kept (fun other apart => ?_) (by simp only [and_self]) (by simp only [and_self])
    dsimp only
    rw [← own] at apart
    exact mem_withTelemetry apart
  | file path => exact .of_kept (fun _ _ => .rfl) (by simp only [and_self]) (by simp only [and_self])

theorem SourceOnly.of_steps {source : String} {key : Option String} {s s' : AppState}
    (steps : Relation.ReflTransGen (InboundWrite source key) s s') : SourceOnly source s s' := by
  induction steps with
  | refl => exact .refl source s
  | tail _ write ih => exact ih.trans write.sourceOnly

/-- Whatever an envelope carries and wherever its processing ends, it has touched its source's own
client and subscriptions and telemetry, has changed no topic that was there and no ban, and has
entered no client if its source is banned. -/
theorem envelope_touches_own_source [ServerHost] (envelope : ProtocolEnvelope) (w : ServerWorld) :
    SourceOnly envelope.source w.state ((processReticulumdInboundEnvelope envelope).run w).2.state :=
  .of_steps ((inbound_processReticulumdInboundEnvelope envelope).moves w)

/-! ## Traffic -/

/-- One write of the traffic. -/
inductive TrafficWrite (s : AppState) : AppState → Prop
  | envelope {s' : AppState} (source : String) (key : Option String) (write : InboundWrite source key s s') :
      TrafficWrite s s'
  | stored (f : SqliteStore → SqliteStore) : TrafficWrite s { s with sqlite := s.sqlite.map f }
  | announced (identity : String) (record : IdentityStateRecord) (new : s.identityStates.contains identity = false) :
      TrafficWrite s { s with identityStates := s.identityStates.insert identity record }

/-- Wherever the method is run, it changes the state by such writes. -/
abbrev Traffic {α : Type} (m : ServerM α) : Prop := Proc.Moves (seenAs id) TrafficWrite m

section

variable [ServerHost]

omit [ServerHost] in
theorem Inbound.traffic {α : Type} {source : String} {key : Option String} {m : ServerM α} (h : Inbound source key m) :
    Traffic m := h.mono fun _ _ write => .envelope source key write

omit [ServerHost] in
/-- A write of the database that may look at the state. -/
theorem traffic_rows (f : AppState → SqliteStore → SqliteStore) :
    Traffic (update fun s => { s with sqlite := s.sqlite.map (f s) }) := by
  intro t
  refine Spec.lastWrite (fun s same => ?_) ⟨.single (.stored (f t)), False.elim, fun _ _ => trivial⟩
  obtain rfl : s = t := same
  rfl

omit [ServerHost] in
/-- An event that is of no envelope. -/
theorem traffic_recordSystemEventBestEffort (eventType message : String) {fields : List (String × Value)}
    (absent : "dedupe_key" ∉ fields.map Prod.fst) :
    Traffic (recordSystemEventBestEffort eventType message (.object fields)) := by
  have own : Inbound "" none (recordSystemEventBestEffort eventType message (.object fields)) :=
    Inbound.recordEventBestEffort eventType message (.inl (Inbound.unkeyed absent))
  exact own.traffic

omit [ServerHost] in
theorem keeps_newEnvelope (source : String) (destination : Destination) (topic : String) (payload : Payload)
    (dedupeKey : Option String) : Keeps id (newEnvelope source destination topic payload dedupeKey) :=
  fun _ _ seen _ => ⟨seen, trivial⟩

theorem keeps_directLxmfMessageEnvelope (message : Value) (localSource : String) :
    Keeps id (directLxmfMessageEnvelope message localSource) := by
  unfold directLxmfMessageEnvelope
  dsimp only
  split
  · unfold directLxmfFallbackEnvelope
    dsimp only
    split
    · exact .bind (keeps_newEnvelope _ _ _ _ _) fun _ => .pure _
    · exact .ite (.pure _) (.bind (keeps_newEnvelope _ _ _ _ _) fun _ => .pure _)
  · exact .bind (keeps_newEnvelope _ _ _ _ _) fun _ => .pure _
  · exact .throw _

/-- Decoding a message changes nothing. -/
theorem keeps_reticulumdMessageToEnvelope (message : Value) (localSource : String) :
    Keeps id (reticulumdMessageToEnvelope message localSource) := by
  unfold reticulumdMessageToEnvelope
  split
  · refine .bind (.orThrow _ _) fun bytes => fun t => Proc.Spec.check (fun _ _ => Proc.Spec.pure rfl) fun _ _ => rfl
  · exact keeps_directLxmfMessageEnvelope message localSource

omit [ServerHost] in
theorem traffic_decodeOrQuarantine (quarantineKey source : String) (eventId messageId : Option String)
    {decode : ServerM (Option ProtocolEnvelope)} (keeps : Keeps id decode) :
    Traffic (decodeOrQuarantine quarantineKey source eventId messageId decode) := by
  refine .bind (.of_keeps Keeps.state) fun _ => .ite (fun _ => .pure _) fun _ => .bind (.of_keeps (.attempt keeps)) fun decoded => ?_
  cases decoded with
  | ok envelope => exact .pure _
  | error error =>
    refine .guard fun _ => .bind ?_ fun _ => .pure _
    refine .bind (.of_keeps Keeps.state) fun _ => .ite (fun _ => .pure _) fun _ => ?_
    exact traffic_recordSystemEventBestEffort _ _ (by simp)

/-! ## Announces -/

theorem traffic_importAnnounce (stored : List IdentityAnnounceRecord) (announces : List ReticulumdAnnounce)
    (touchUnchangedRecords : Bool) (touchTsMs : Int) (pass : ImportPass) (announce : ReticulumdAnnounce) :
    Traffic (importAnnounce stored announces touchUnchangedRecords touchTsMs pass announce) := by
  refine .required fun destination _ => .ite (fun _ => .pure _) fun _ => .ite (fun _ => .pure _) fun _ t => ?_
  exact spec_onCore fun _ => Proc.Spec.checked fun _ _ => Proc.Spec.answer

omit [ServerHost] in
theorem traffic_recordAnnounceIdentityState (announce : IdentityAnnounceRecord) :
    Traffic (recordAnnounceIdentityState announce) := by
  refine .required fun identity _ t => ?_
  let fresh : IdentityStateRecord :=
    { identity, isBanned := false, isBlackholed := false, updatedTsMs := announce.lastSeenTsMs }
  cases known : t.identityStates.contains identity with
  | true =>
    refine Spec.lastWrite (fun s same => ?_) ⟨.refl, False.elim, fun _ _ => trivial⟩
    obtain rfl : s = t := same
    exact if_pos known
  | false =>
    refine Spec.lastWrite (fun s same => ?_) ⟨.single (.announced identity fresh known), False.elim, fun _ _ => trivial⟩
    obtain rfl : s = t := same
    exact if_neg (Bool.not_eq_true _ ▸ known)

theorem traffic_importReticulumdAnnounceBatch (announces : List ReticulumdAnnounce) (touchUnchangedRecords : Bool) :
    Traffic (importReticulumdAnnounceBatch announces touchUnchangedRecords) := by
  refine .ite (fun _ => .pure _) fun _ => .bind (.of_keeps Keeps.state) fun _ => .required fun store _ => ?_
  refine .bind (.of_keeps Keeps.now) fun touchTsMs => .bind (.foldlM (fun pass announce _ => ?_) _) fun pass => .bind ?_ fun _ => .pure _
  · exact traffic_importAnnounce _ _ _ _ pass announce
  · refine .ite (fun _ => .pure _) fun _ => .bind (traffic_rows fun _ => _) fun _ => .bind (.forM fun announce _ => ?_) fun _ => ?_
    · exact traffic_recordAnnounceIdentityState announce
    · exact traffic_rows fun s store => _

/-! ## Inputs -/

omit [ServerHost] in
theorem traffic_saveReticulumdEventCursor (cursor : String) : Traffic (saveReticulumdEventCursor cursor) := by
  intro t
  refine Spec.read fun s same => Proc.Spec.required fun store found => ?_
  obtain rfl : s = t := same
  have edit : TrafficWrite s { s with sqlite := s.sqlite.map fun store => { store with eventCursor := cursor } } := .stored _
  rw [found, Option.map_some] at edit
  refine Spec.lastWrite (fun s' same => ?_) ⟨.single edit, False.elim, fun _ _ => trivial⟩
  obtain rfl : s' = s := same
  rfl

theorem traffic_processReticulumdEventBatch (source : String) (batch : ReticulumdEventBatch) :
    Traffic (processReticulumdEventBatch source batch) := by
  refine .bind (.foldlM (fun pass event _ => ?_) _) fun pass => ?_
  · refine .ite (fun _ => .checked fun _ _ => .pure _) fun _ => .ite (fun _ => .bind ?_ fun _ => .pure _) fun _ => .pure _
    exact traffic_decodeOrQuarantine _ _ _ _ (keeps_reticulumdMessageToEnvelope _ _)
  · refine .bind (traffic_importReticulumdAnnounceBatch _ _) fun _ => .bind (.forM fun envelope _ => ?_) fun _ => ?_
    · exact (inbound_processReticulumdInboundEnvelope envelope).traffic
    · split
      · exact .bind (traffic_saveReticulumdEventCursor _) fun _ => .pure _
      · exact .bind (traffic_rows fun _ _ => _) fun _ => .pure _

theorem traffic_recoverLxmfZmqHistoryAfterStreamGap (source : String) (pages : List (List Value)) :
    Traffic (recoverLxmfZmqHistoryAfterStreamGap source pages) := by
  refine .foldlM (fun recovered message _ => .bind (.of_keeps (keeps_reticulumdMessageToEnvelope _ _)) fun decoded => ?_) _
  cases decoded with
  | none => exact .pure _
  | some envelope => exact .bind (inbound_processReticulumdInboundEnvelope envelope).traffic fun _ => .pure _

theorem traffic_processLxmfZmqEventWorkerTick (source : String) (batch : ReticulumdEventBatch) (pages : List (List Value)) :
    Traffic (processLxmfZmqEventWorkerTick source batch pages) := by
  refine .ite (fun _ => .bind (traffic_recoverLxmfZmqHistoryAfterStreamGap _ _) fun _ => .bind ?_ fun _ => ?_) fun _ => ?_
  · exact traffic_recordSystemEventBestEffort _ _ (by simp)
  · exact traffic_processReticulumdEventBatch source batch
  · exact traffic_processReticulumdEventBatch source batch

theorem traffic_processReticulumdListMessagesResult (source : String) (result : Value) :
    Traffic (processReticulumdListMessagesResult source result) := by
  unfold processReticulumdListMessagesResult
  split
  · exact .pure _
  · refine .forM fun message _ => .ite (fun _ => .pure _) fun _ => .bind ?_ fun decoded => ?_
    · exact traffic_decodeOrQuarantine _ _ _ _ (keeps_reticulumdMessageToEnvelope _ _)
    · cases decoded with
      | none => exact .pure _
      | some envelope =>
        refine .bind (.of_keeps Keeps.state) fun _ => .ite (fun _ => .pure _) fun _ => ?_
        exact (inbound_processReticulumdInboundEnvelope envelope).traffic

end

/-! ## Runs -/

/-- What the transport's workers hand to the hub: events, events of a stream that may have had a
gap, and the list of messages. -/
inductive InboundInput where
  | batch (source : String) (batch : ReticulumdEventBatch)
  | tick (source : String) (batch : ReticulumdEventBatch) (pages : List (List Value))
  | messages (source : String) (result : Value)

variable [ServerHost]

/-- What is done with it. -/
def InboundInput.process : InboundInput → ServerM Unit
  | batch source events => do
    let _ ← processReticulumdEventBatch source events
    return ()
  | tick source events pages => do
    let _ ← processLxmfZmqEventWorkerTick source events pages
    return ()
  | messages source result => processReticulumdListMessagesResult source result

/-- The world after the inputs, whether each of them is done or ends in an error. -/
def inboundRun (inputs : List InboundInput) (w : ServerWorld) : ServerWorld :=
  inputs.foldl (fun w input => (input.process.run w).2) w

theorem traffic_process (input : InboundInput) : Traffic input.process := by
  cases input with
  | batch source events => exact .bind (traffic_processReticulumdEventBatch source events) fun _ => .pure _
  | tick source events pages => exact .bind (traffic_processLxmfZmqEventWorkerTick source events pages) fun _ => .pure _
  | messages source result => exact traffic_processReticulumdListMessagesResult source result

theorem inboundRun_steps (inputs : List InboundInput) (w : ServerWorld) :
    Relation.ReflTransGen TrafficWrite w.state (inboundRun inputs w).state := by
  induction inputs generalizing w with
  | nil => exact .refl
  | cons input rest ih => exact ((traffic_process input).steps trivial).trans (ih _)

/-! ## Bans -/

omit [ServerHost] in
/-- A client is as banned as the sources that are entered under it. -/
theorem inboundIdentityBlocked_source {s : AppState} {source client : String}
    (own : client = source ∨ normalizeIdentityKey source = some client) :
    s.inboundIdentityBlocked source = s.inboundIdentityBlocked client := by
  rcases own with rfl | named
  · rfl
  · have normal : normalizeIdentityKey client = some client := normalizeHash_normal named
    rw [AppState.inboundIdentityBlocked, AppState.inboundIdentityBlocked, named, normal]

/-- What no traffic changes. -/
structure TrafficKept (s s' : AppState) : Prop where
  identityStates : ∀ identity record, s.identityStates.get identity = some record →
    s'.identityStates.get identity = some record
  banned : ∀ client, s.inboundIdentityBlocked client = true → s'.inboundIdentityBlocked client = true
  roster : ∀ client, s.inboundIdentityBlocked client = true → ∀ record, s'.clients.get client = some record →
    s.clients.get client = some record
  topics : ∀ topicId entry, s.topics.get topicId = some entry → s'.topics.get topicId = some entry
  reticulumdSource : s'.reticulumdSource = s.reticulumdSource
  outboundIdentityAllowlist : s'.outboundIdentityAllowlist = s.outboundIdentityAllowlist
  dataPlane : s'.dataPlane = s.dataPlane
  persistenceLocked : s'.persistenceLocked = s.persistenceLocked

namespace TrafficKept

variable {s s' s'' : AppState}

omit [ServerHost] in
theorem refl (s : AppState) : TrafficKept s s :=
  ⟨fun _ _ found => found, fun _ banned => banned, fun _ _ _ found => found, fun _ _ found => found, rfl, rfl, rfl, rfl⟩

omit [ServerHost] in
theorem trans (h : TrafficKept s s') (h' : TrafficKept s' s'') : TrafficKept s s'' where
  identityStates identity record found := h'.identityStates identity record (h.identityStates identity record found)
  banned client banned := h'.banned client (h.banned client banned)
  roster client banned record found := h.roster client banned record (h'.roster client (h.banned client banned) record found)
  topics topicId entry found := h'.topics topicId entry (h.topics topicId entry found)
  reticulumdSource := h'.reticulumdSource.trans h.reticulumdSource
  outboundIdentityAllowlist := h'.outboundIdentityAllowlist.trans h.outboundIdentityAllowlist
  dataPlane := h'.dataPlane.trans h.dataPlane
  persistenceLocked := h'.persistenceLocked.trans h.persistenceLocked

end TrafficKept

omit [ServerHost] in
theorem TrafficWrite.kept {s s' : AppState} (write : TrafficWrite s s') : TrafficKept s s' := by
  cases write with
  | envelope source key write =>
    have kept := write.sourceOnly
    refine ⟨fun _ _ found => kept.identityStates ▸ found, fun client banned => (kept.blocked client).trans banned, ?_, kept.topics,
      kept.reticulumdSource, kept.outboundIdentityAllowlist, kept.dataPlane, kept.persistenceLocked⟩
    intro client banned record found
    by_cases own : client = source ∨ normalizeIdentityKey source = some client
    · exact kept.banned ((inboundIdentityBlocked_source own).trans banned) client record found
    · rw [not_or] at own
      rwa [kept.clients client own.1 own.2] at found
  | stored f => exact { TrafficKept.refl s with }
  | announced identity fresh new =>
    have stays (known : String) (record : IdentityStateRecord) (found : s.identityStates.get known = some record) :
        (s.identityStates.insert identity fresh).get known = some record := by
      refine (Dict.get_insert_ne ?_).trans found
      rintro rfl
      rw [Dict.contains_eq_false.1 new] at found
      cases found
    refine { TrafficKept.refl s with identityStates := stays, banned := fun client banned => ?_ }
    rw [AppState.inboundIdentityBlocked, Option.any_eq_true] at banned ⊢
    obtain ⟨record, found, stands⟩ := banned
    obtain ⟨known, named, found⟩ := Option.bind_eq_some_iff.1 found
    exact ⟨record, Option.bind_eq_some_iff.2 ⟨known, named, stays known record found⟩, stands⟩

/-- No traffic, be it messages, commands, announces or a history, lifts a ban or changes what is
stored of an identity, enters a banned client on the roster or changes its entry, and none changes
a topic that is there. -/
theorem traffic_keeps_bans (inputs : List InboundInput) (w : ServerWorld) :
    TrafficKept w.state (inboundRun inputs w).state := by
  suffices kept : ∀ s', Relation.ReflTransGen TrafficWrite w.state s' → TrafficKept w.state s' from
    kept _ (inboundRun_steps inputs w)
  intro s' steps
  induction steps with
  | refl => exact .refl _
  | tail _ write ih => exact ih.trans write.kept

end TelemetryHub
