import TelemetryHub.Transport.Adapter

/-!
# Polling the daemon

What a run of polls returns, next to what the daemon has offered. The stream adapter
moves its cursor past a whole batch and hands out one message of it; the list adapter
stops at a message it cannot frame, at every call, and forgets the oldest id beyond 256.
A run in which neither happens returns every message once and in order.
-/

namespace TelemetryHub

open Lib ServerM
open scoped Classical

/-- What a poll returns. -/
abbrev Polled : Type := Except ApiError (Option ProtocolEnvelope)

/-! ## Runs of polls -/

section

variable [TransportHost] {adapter answer : Type} [LxmfRsAdapter adapter answer]

/-- The adapter at a call of a run: between calls the world may be any. -/
def adapterAt (a : adapter) (given : Nat → answer) (worlds : Nat → ServerWorld) : Nat → adapter
  | 0 => a
  | n + 1 => (poll (adapterAt a given worlds n) (given n) (worlds n)).2

/-- What a call of a run returns. -/
def pollAt (a : adapter) (given : Nat → answer) (worlds : Nat → ServerWorld) (n : Nat) : Polled :=
  (poll (adapterAt a given worlds n) (given n) (worlds n)).1

end

/-- The envelope of an answer. -/
def Polled.envelope? : Polled → Option ProtocolEnvelope
  | .ok envelope => envelope
  | .error _ => none

/-- The error of an answer. -/
def Polled.error? : Polled → Option ApiError
  | .ok _ => none
  | .error error => some error

/-- An answer that is no envelope and no error. -/
def Polled.isSilent : Polled → Bool
  | .ok none => true
  | _ => false

/-- The envelopes the first `n` calls have returned. -/
def delivered (outcomes : Nat → Polled) (n : Nat) : List ProtocolEnvelope :=
  ((List.range n).map outcomes).filterMap Polled.envelope?

/-- The errors the first `n` calls have ended in. -/
def reported (outcomes : Nat → Polled) (n : Nat) : List ApiError :=
  ((List.range n).map outcomes).filterMap Polled.error?

/-! ## Exactly once -/

section

variable {M : Type} (reading : M → ServerWorld → Polled)

/-- An envelope made of a message. -/
def Carries (envelope : ProtocolEnvelope) (message : M) : Prop := ∃ w, reading message w = .ok (some envelope)

/-- An error that a message gives. -/
def Reports (error : ApiError) (message : M) : Prop := ∃ w, reading message w = .error error

/-- The messages that decode. -/
noncomputable def decodables (messages : List M) : List M :=
  messages.filter fun message => decide (∃ envelope, Carries reading envelope message)

/-- The messages that do not decode. -/
noncomputable def undecodables (messages : List M) : List M :=
  messages.filter fun message => decide (∃ error, Reports reading error message)

/-- The polls return every message offered that decodes once and in order, each of the
others ends one call at most, and none keeps the ones after it waiting for longer. -/
structure ExactlyOnce (offered : Nat → List M) (outcomes : Nat → Polled) : Prop where
  inOrder : ∀ n, ∃ messages, messages <+: decodables reading (offered n) ∧
    List.Forall₂ (Carries reading) (delivered outcomes n) messages
  prompt : ∀ n, ∃ k, k ≤ n + 1 + (decodables reading (offered n)).length + (undecodables reading (offered n)).length ∧
    (decodables reading (offered n)).length ≤ (delivered outcomes k).length
  onceReported : ∀ n, ∃ messages, messages.Sublist (undecodables reading (offered n)) ∧
    List.Forall₂ (Reports reading) (reported outcomes n) messages

/-- Whether a message decodes is not up to the world it is read in. -/
def Steady : Prop :=
  ∀ message w w', (reading message w).envelope?.isSome = (reading message w').envelope?.isSome ∧
    (reading message w).error?.isSome = (reading message w').error?.isSome

/-- The answers of the first calls that say something are the readings of these messages. -/
def Handled (outcomes : Nat → Polled) (n : Nat) (messages : List M) : Prop :=
  List.Forall₂ (fun outcome message => ∃ w, reading message w = outcome)
    (((List.range n).map outcomes).filter fun outcome => !outcome.isSilent) messages

variable {reading}

theorem Steady.silent (steady : Steady reading) {message : M} {w : ServerWorld} (h : reading message w = .ok none)
    (w' : ServerWorld) : reading message w' = .ok none := by
  obtain ⟨henvelope, herror⟩ := steady message w w'
  rw [h] at henvelope herror
  match hread : reading message w' with
  | .ok none => rfl
  | .ok (some _) =>
    rw [hread] at henvelope
    cases henvelope
  | .error _ =>
    rw [hread] at herror
    cases herror

theorem decodables_append (messages later : List M) :
    decodables reading (messages ++ later) = decodables reading messages ++ decodables reading later :=
  List.filter_append ..

theorem undecodables_append (messages later : List M) :
    undecodables reading (messages ++ later) = undecodables reading messages ++ undecodables reading later :=
  List.filter_append ..

/-- A message nothing is made of is of neither kind. -/
theorem Steady.neither (steady : Steady reading) {message : M} {w : ServerWorld} (h : reading message w = .ok none) :
    decodables reading [message] = [] ∧ undecodables reading [message] = [] := by
  constructor
  · have hnot : ¬∃ envelope, Carries reading envelope message := by
      rintro ⟨envelope, w', hcarries⟩
      rw [steady.silent h w'] at hcarries
      cases hcarries
    simp [decodables, hnot]
  · have hnot : ¬∃ error, Reports reading error message := by
      rintro ⟨error, w', hreports⟩
      rw [steady.silent h w'] at hreports
      cases hreports
    simp [undecodables, hnot]

theorem Handled.zero {outcomes : Nat → Polled} : Handled reading outcomes 0 [] := List.Forall₂.nil

theorem Handled.silent {outcomes : Nat → Polled} {n : Nat} {messages : List M} (h : Handled reading outcomes n messages)
    (hsilent : (outcomes n).isSilent = true) : Handled reading outcomes (n + 1) messages := by
  simp only [Handled, List.range_succ, List.map_append, List.filter_append, List.map_cons, List.map_nil]
  simpa [hsilent, Handled] using h

theorem Handled.loud {outcomes : Nat → Polled} {n : Nat} {messages : List M} {message : M}
    (h : Handled reading outcomes n messages) (hloud : (outcomes n).isSilent = false)
    (hread : ∃ w, reading message w = outcomes n) : Handled reading outcomes (n + 1) (messages ++ [message]) := by
  simp only [Handled, List.range_succ, List.map_append, List.filter_append, List.map_cons, List.map_nil]
  have hlast : [outcomes n].filter (fun outcome => !outcome.isSilent) = [outcomes n] := by simp [hloud]
  rw [hlast]
  exact List.rel_append h (List.Forall₂.cons hread List.Forall₂.nil)

/-- What was handled accounts for what was returned and for what was reported. -/
theorem Handled.account (steady : Steady reading) {outcomes : List Polled} {messages : List M}
    (h : List.Forall₂ (fun outcome message => ∃ w, reading message w = outcome) outcomes messages) :
    List.Forall₂ (Carries reading) (outcomes.filterMap Polled.envelope?) (decodables reading messages) ∧
      List.Forall₂ (Reports reading) (outcomes.filterMap Polled.error?) (undecodables reading messages) := by
  induction h with
  | nil => exact ⟨List.Forall₂.nil, List.Forall₂.nil⟩
  | @cons outcome message outcomes messages hread _ ih =>
    obtain ⟨w, hread⟩ := hread
    have hdecodes : (∃ envelope, Carries reading envelope message) ↔ outcome.envelope?.isSome = true := by
      constructor
      · rintro ⟨envelope, w', hcarries⟩
        rw [← hread, (steady message w w').1, hcarries]
        rfl
      · intro hsome
        match outcome, hsome with
        | .ok (some envelope), _ => exact ⟨envelope, w, hread⟩
    have hfails : (∃ error, Reports reading error message) ↔ outcome.error?.isSome = true := by
      constructor
      · rintro ⟨error, w', hreports⟩
        rw [← hread, (steady message w w').2, hreports]
        rfl
      · intro hsome
        match outcome, hsome with
        | .error error, _ => exact ⟨error, w, hread⟩
    match outcome with
    | .ok none =>
      simp only [decodables, undecodables, List.filter_cons, List.filterMap_cons, Polled.envelope?, Polled.error?] at *
      simpa [hdecodes, hfails] using ih
    | .ok (some envelope) =>
      simp only [decodables, undecodables, List.filter_cons, List.filterMap_cons, Polled.envelope?, Polled.error?] at *
      simp only [hdecodes, hfails, Option.isSome_some, Option.isSome_none, decide_true, Bool.false_eq_true, decide_false,
        if_true, if_false]
      exact ⟨List.Forall₂.cons ⟨w, hread⟩ ih.1, ih.2⟩
    | .error error =>
      simp only [decodables, undecodables, List.filter_cons, List.filterMap_cons, Polled.envelope?, Polled.error?] at *
      simp only [hdecodes, hfails, Option.isSome_some, Option.isSome_none, decide_true, Bool.false_eq_true, decide_false,
        if_true, if_false]
      exact ⟨ih.1, List.Forall₂.cons ⟨w, hread⟩ ih.2⟩

theorem filterMap_loud {β : Type} (read : Polled → Option β) (hread : read (.ok none) = none) (outcomes : List Polled) :
    (outcomes.filter fun outcome => !outcome.isSilent).filterMap read = outcomes.filterMap read := by
  induction outcomes with
  | nil => rfl
  | cons outcome outcomes ih =>
    match outcome with
    | .ok none => simpa [Polled.isSilent, hread] using ih
    | .ok (some envelope) =>
      have hloud : Polled.isSilent (.ok (some envelope)) = false := rfl
      simp [hloud, List.filterMap_cons, ih]
    | .error error =>
      have hloud : Polled.isSilent (.error error) = false := rfl
      simp [hloud, List.filterMap_cons, ih]

theorem Handled.delivered (steady : Steady reading) {outcomes : Nat → Polled} {n : Nat} {messages : List M}
    (h : Handled reading outcomes n messages) :
    List.Forall₂ (Carries reading) (delivered outcomes n) (decodables reading messages) := by
  have := (Handled.account steady h).1
  rwa [filterMap_loud _ rfl] at this

theorem Handled.reported (steady : Steady reading) {outcomes : Nat → Polled} {n : Nat} {messages : List M}
    (h : Handled reading outcomes n messages) :
    List.Forall₂ (Reports reading) (reported outcomes n) (undecodables reading messages) := by
  have := (Handled.account steady h).2
  rwa [filterMap_loud _ rfl] at this

end

/-! ## The daemon's log -/

/-- A daemon that serves the events after a cursor: its log only grows, and a call is
answered by as many events as it likes. -/
structure EventDaemon where
  log : Nat → List ReticulumdEvent
  grows : ∀ n, log n <+: log (n + 1)
  size : Nat → Nat
  cursorAt : Nat → String
  place : String → Nat
  place_cursorAt : ∀ k, place (cursorAt k) = k

namespace EventDaemon

/-- `poll_events`, of the `n`th call. -/
def pollEvents (d : EventDaemon) (n : Nat) (cursor : Option String) (max : Nat) : Except ApiError LxmfSdkEventBatch :=
  let start := (cursor.map d.place).getD 0
  let events := ((d.log n).drop start).take (min (d.size n) max)
  .ok { events, nextCursor := d.cursorAt (start + events.length) }

/-- Where a client that goes from cursor to cursor is at the `n`th call. -/
def start (d : EventDaemon) : Nat → Nat
  | 0 => 0
  | n + 1 => d.start n + (((d.log n).drop (d.start n)).take (min (d.size n) 256)).length

/-- The batch such a client is served at the `n`th call. -/
def batch (d : EventDaemon) (n : Nat) : List ReticulumdEvent :=
  ((d.log n).drop (d.start n)).take (min (d.size n) 256)

/-- The events it has been served before the `n`th call. -/
def served (d : EventDaemon) (n : Nat) : List ReticulumdEvent := (d.log n).take (d.start n)

theorem start_le (d : EventDaemon) (n : Nat) : d.start n ≤ (d.log n).length := by
  induction n with
  | zero => exact Nat.zero_le _
  | succ n ih =>
    have hgrows := (d.grows n).length_le
    simp only [start, List.length_take, List.length_drop]
    omega

theorem start_succ_le (d : EventDaemon) (n : Nat) : d.start (n + 1) ≤ (d.log n).length := by
  have := d.start_le n
  simp only [start, List.length_take, List.length_drop]
  omega

theorem served_succ (d : EventDaemon) (n : Nat) : d.served (n + 1) = d.served n ++ d.batch n := by
  have hgrown : (d.log (n + 1)).take (d.start (n + 1)) = (d.log n).take (d.start (n + 1)) := by
    obtain ⟨tail, htail⟩ := d.grows n
    rw [← htail, List.take_append_of_le_length (d.start_succ_le n)]
  have hbatch : d.batch n = ((d.log n).drop (d.start n)).take (d.batch n).length := by
    rw [batch, List.length_take]
    exact List.take_eq_take_min
  have hstart : d.start (n + 1) = d.start n + (d.batch n).length := rfl
  rw [served, hgrown, hstart, List.take_add, ← hbatch]
  rfl

end EventDaemon

/-! ## What is made of a message -/

/-- An envelope with the id and the time `ProtocolEnvelope::new` gives it in a world. -/
def ProtocolEnvelope.stampedIn (envelope : ProtocolEnvelope) (w : ServerWorld) : ProtocolEnvelope :=
  { envelope with id := w.draws 0, timestamp := w.clock 0 }

/-- An envelope before its stamp. -/
def unstamped (source : String) (destination : Destination) (topic : String) (payload : Payload)
    (dedupeKey : Option String) : ProtocolEnvelope :=
  { id := Uuid.ofNat 0, dedupeKey, source, destination, topic, timestamp := ⟨0, ""⟩, ttlSeconds := 300, payload }

section

variable [TransportHost]

omit [TransportHost] in
theorem newEnvelope_run (source : String) (destination : Destination) (topic : String) (payload : Payload)
    (dedupeKey : Option String) (w : ServerWorld) :
    ((newEnvelope source destination topic payload dedupeKey >>= fun envelope => pure (some envelope)).run w).1 =
      .ok ((some (unstamped source destination topic payload dedupeKey)).map fun envelope => envelope.stampedIn w) := rfl

/-- A message makes the same envelope in every world, its stamp apart. -/
theorem directLxmfFallbackEnvelope_stamped (fields : Option (List (String × Value))) (message : Value)
    (source localSource : String) : ∃ envelope : Option ProtocolEnvelope, ∀ w,
      ((directLxmfFallbackEnvelope fields message source localSource).run w).1 =
        .ok (envelope.map fun envelope => envelope.stampedIn w) := by
  unfold directLxmfFallbackEnvelope
  cases ServerHost.directLxmfTelemetry fields message with
  | some telemetry => exact ⟨some (unstamped _ _ _ _ _), fun w => newEnvelope_run _ _ _ _ _ w⟩
  | none =>
    simp only
    split
    · exact ⟨none, fun w => rfl⟩
    · exact ⟨some (unstamped _ _ _ _ _), fun w => newEnvelope_run _ _ _ _ _ w⟩

theorem directLxmfMessageEnvelope_stamped (message : Value) (localSource : String) :
    ∃ made : Except ApiError (Option ProtocolEnvelope), ∀ w,
      ((directLxmfMessageEnvelope message localSource).run w).1 =
        made.map fun envelope => envelope.map fun envelope => envelope.stampedIn w := by
  unfold directLxmfMessageEnvelope
  cases hcommand : directLxmfCommand ((message.get "fields").bind Value.asObject) with
  | noCommand =>
    simp only [hcommand]
    obtain ⟨envelope, h⟩ := directLxmfFallbackEnvelope_stamped ((message.get "fields").bind Value.asObject) message
      ((optionalMessageString message ["source", "source_hash", "source_id"]).getD "unknown") localSource
    exact ⟨.ok envelope, h⟩
  | valid command =>
    simp only [hcommand]
    exact ⟨.ok (some (unstamped _ _ _ _ _)), fun w => newEnvelope_run _ _ _ _ _ w⟩
  | malformed reason =>
    simp only [hcommand]
    exact ⟨.error _, fun w => rfl⟩

/-- The codec takes or refuses an envelope whatever id and time it is stamped with. -/
structure StampFree : Prop where
  encodes : ∀ (envelope : ProtocolEnvelope) w w',
    (TransportHost.encodeMsgpack (envelope.stampedIn w)).isOk =
      (TransportHost.encodeMsgpack (envelope.stampedIn w')).isOk
  decodes : ∀ (envelope : ProtocolEnvelope) w w' bytes bytes',
    TransportHost.encodeMsgpack (envelope.stampedIn w) = .ok bytes →
    TransportHost.encodeMsgpack (envelope.stampedIn w') = .ok bytes' →
    (ServerHost.decodeMsgpack bytes).isOk = (ServerHost.decodeMsgpack bytes').isOk

/-- Two tries at one message: both fail, both make nothing, or both make a frame, and the
frames decode or do not. -/
def FramedAlike : Except ApiError (Option LxmfRsFrame) → Except ApiError (Option LxmfRsFrame) → Prop
  | .error _, .error _ => True
  | .ok none, .ok none => True
  | .ok (some frame), .ok (some frame') =>
    (ServerHost.decodeMsgpack frame.bytes).isOk = (ServerHost.decodeMsgpack frame'.bytes).isOk
  | _, _ => False

theorem FramedAlike.refl (framed : Except ApiError (Option LxmfRsFrame)) : FramedAlike framed framed := by
  match framed with
  | .error _ => trivial
  | .ok none => trivial
  | .ok (some _) => rfl

/-- The frame of an envelope, `target` its destination. -/
def framed (target : ProtocolEnvelope → String) : Option ProtocolEnvelope → Except ApiError (Option LxmfRsFrame)
  | none => .ok none
  | some envelope => (encodeFrame envelope).map fun bytes => some { destination := target envelope, bytes }

theorem framed_alike (codec : StampFree) (target : ProtocolEnvelope → String) (envelope : Option ProtocolEnvelope)
    (w w' : ServerWorld) :
    FramedAlike (framed target (envelope.map fun envelope => envelope.stampedIn w))
      (framed target (envelope.map fun envelope => envelope.stampedIn w')) := by
  match envelope with
  | none => trivial
  | some envelope =>
    have hencodes := codec.encodes envelope w w'
    simp only [Option.map_some, framed, encodeFrame]
    match h : TransportHost.encodeMsgpack (envelope.stampedIn w), h' : TransportHost.encodeMsgpack (envelope.stampedIn w') with
    | .ok bytes, .ok bytes' => exact codec.decodes envelope w w' bytes bytes' h h'
    | .error _, .error _ => trivial
    | .ok _, .error _ =>
      rw [h, h'] at hencodes
      cases hencodes
    | .error _, .ok _ =>
      rw [h, h'] at hencodes
      cases hencodes

theorem messageFrame_run (source : String) (message : Value) (w : ServerWorld)
    (hdirect : ((message.get "fields").bind fun fields => fields.get "r3akt_payload_b64").bind Value.asStr = none) :
    ((messageFrame source message).run w).1 =
      ((directLxmfMessageEnvelope message source).run w).1 >>=
        framed fun _ => ((message.get "destination").bind Value.asStr).getD source := by
  unfold messageFrame messageBytes
  rw [hdirect]
  simp only [Proc.run_bind]
  cases (directLxmfMessageEnvelope message source).run w with
  | mk made w' =>
    match made with
    | .error _ => rfl
    | .ok none => rfl
    | .ok (some envelope) =>
      have hframed : (Except.ok (some envelope) : Except ApiError (Option ProtocolEnvelope)) >>=
          (framed fun _ => ((message.get "destination").bind Value.asStr).getD source) =
        (encodeFrame envelope).map fun bytes =>
          some { destination := ((message.get "destination").bind Value.asStr).getD source, bytes } := rfl
      rw [hframed]
      dsimp only
      cases encodeFrame envelope with
      | error _ => rfl
      | ok _ => rfl

theorem messageFrame_alike (codec : StampFree) (source : String) (message : Value) (w w' : ServerWorld) :
    FramedAlike ((messageFrame source message).run w).1 ((messageFrame source message).run w').1 := by
  cases hpayload : ((message.get "fields").bind fun fields => fields.get "r3akt_payload_b64").bind Value.asStr with
  | some payloadB64 =>
    have hsame : ((messageFrame source message).run w).1 = ((messageFrame source message).run w').1 := by
      unfold messageFrame messageBytes
      rw [hpayload]
      dsimp only
      cases (Host.base64Decode payloadB64 : Option (List UInt8)) with
      | none => rfl
      | some bytes => rfl
    rw [hsame]
    exact FramedAlike.refl _
  | none =>
    rw [messageFrame_run source message w hpayload, messageFrame_run source message w' hpayload]
    obtain ⟨made, hmade⟩ := directLxmfMessageEnvelope_stamped message source
    rw [hmade w, hmade w']
    match made with
    | .error _ => trivial
    | .ok envelope => exact framed_alike codec _ envelope w w'

theorem eventFrame_run (source : String) (event : ReticulumdEvent) (w : ServerWorld)
    (hinbound : event.eventType = "inbound" ∨ event.eventType = "InboundMessageReceived") :
    ((eventFrame source event).run w).1 =
      ((reticulumdEventToEnvelope event source).run w).1 >>= framed destinationHint := by
  unfold eventFrame
  rw [if_pos hinbound]
  simp only [Proc.run_bind]
  cases (reticulumdEventToEnvelope event source).run w with
  | mk made w' =>
    match made with
    | .error _ => rfl
    | .ok none => rfl
    | .ok (some envelope) =>
      have hframed : (Except.ok (some envelope) : Except ApiError (Option ProtocolEnvelope)) >>= framed destinationHint =
        (encodeFrame envelope).map fun bytes => some { destination := destinationHint envelope, bytes } := rfl
      rw [hframed]
      dsimp only
      cases encodeFrame envelope with
      | error _ => rfl
      | ok _ => rfl

theorem eventFrame_alike (codec : StampFree) (source : String) (event : ReticulumdEvent) (w w' : ServerWorld) :
    FramedAlike ((eventFrame source event).run w).1 ((eventFrame source event).run w').1 := by
  by_cases hinbound : event.eventType = "inbound" ∨ event.eventType = "InboundMessageReceived"
  · rw [eventFrame_run source event w hinbound, eventFrame_run source event w' hinbound]
    unfold reticulumdEventToEnvelope reticulumdMessageToEnvelope
    cases hpayload : ((((event.payload.get "message").getD event.payload).get "fields").bind fun fields =>
        fields.get "r3akt_payload_b64").bind Value.asStr with
    | some payloadB64 =>
      dsimp only
      cases (Host.base64Decode payloadB64 : Option (List UInt8)) with
      | none => trivial
      | some bytes =>
        rw [Proc.orThrow_some_bind]
        cases hdecode : ServerHost.decodeMsgpack bytes with
        | error _ => trivial
        | ok envelope => exact FramedAlike.refl _
    | none =>
      obtain ⟨made, hmade⟩ := directLxmfMessageEnvelope_stamped ((event.payload.get "message").getD event.payload) source
      dsimp only
      rw [hmade w, hmade w']
      match made with
      | .error _ => trivial
      | .ok envelope => exact framed_alike codec _ envelope w w'
  · have hnone : ∀ w, ((eventFrame source event).run w).1 = .ok none := by
      intro w
      unfold eventFrame
      rw [if_neg hinbound]
      rfl
    rw [hnone w, hnone w']
    trivial

/-- What a poll makes of a listed message. -/
def messageReading (source : String) (message : Value) (w : ServerWorld) : Polled :=
  ((messageFrame source message).run w).1 >>= decodeReceived

/-- What a poll makes of an event. -/
def eventReading (source : String) (event : ReticulumdEvent) (w : ServerWorld) : Polled :=
  ((eventFrame source event).run w).1 >>= decodeReceived

theorem FramedAlike.read {f f' : Except ApiError (Option LxmfRsFrame)} (h : FramedAlike f f') :
    (Polled.envelope? (f >>= decodeReceived)).isSome = (Polled.envelope? (f' >>= decodeReceived)).isSome ∧
      (Polled.error? (f >>= decodeReceived)).isSome = (Polled.error? (f' >>= decodeReceived)).isSome := by
  match f, f', h with
  | .error _, .error _, _ => exact ⟨rfl, rfl⟩
  | .ok none, .ok none, _ => exact ⟨rfl, rfl⟩
  | .ok (some frame), .ok (some frame'), hdecodes =>
    simp only [FramedAlike] at hdecodes
    show (Polled.envelope? (decodeReceived (some frame))).isSome = (Polled.envelope? (decodeReceived (some frame'))).isSome ∧
      (Polled.error? (decodeReceived (some frame))).isSome = (Polled.error? (decodeReceived (some frame'))).isSome
    simp only [decodeReceived]
    match h : ServerHost.decodeMsgpack frame.bytes, h' : ServerHost.decodeMsgpack frame'.bytes with
    | .ok _, .ok _ => exact ⟨rfl, rfl⟩
    | .error _, .error _ => exact ⟨rfl, rfl⟩
    | .ok _, .error _ =>
      rw [h, h'] at hdecodes
      cases hdecodes
    | .error _, .ok _ =>
      rw [h, h'] at hdecodes
      cases hdecodes

theorem messageReading_steady (codec : StampFree) (source : String) : Steady (messageReading source) :=
  fun message w w' => (messageFrame_alike codec source message w w').read

theorem eventReading_steady (codec : StampFree) (source : String) : Steady (eventReading source) :=
  fun event w w' => (eventFrame_alike codec source event w w').read

/-! ## The stream of events -/

/-- No event that decodes comes after another inbound one. -/
def OneInbound (source : String) (events : List ReticulumdEvent) : Prop :=
  events.Pairwise fun event later =>
    (∃ w, eventReading source event w ≠ .ok none) → ¬∃ envelope, Carries (eventReading source) envelope later

theorem OneInbound.decodables_tail {source : String} {event : ReticulumdEvent} {rest : List ReticulumdEvent}
    (h : OneInbound source (event :: rest)) (hinbound : ∃ w, eventReading source event w ≠ .ok none) :
    decodables (eventReading source) rest = [] := by
  apply List.filter_eq_nil_iff.mpr
  intro later hlater
  have := (List.pairwise_cons.mp h).1 later hlater hinbound
  simpa using this

/-- What a call makes of its batch: nothing is in it, or its first message is answered and
is the only one that decodes. -/
theorem firstEventFrame_read (codec : StampFree) (source : String) (events : List ReticulumdEvent)
    (hone : OneInbound source events) (w : ServerWorld) :
    (((firstEventFrame source events).run w).1 >>= decodeReceived = .ok none ∧
      decodables (eventReading source) events = [] ∧ undecodables (eventReading source) events = []) ∨
    ∃ event, Polled.isSilent (((firstEventFrame source events).run w).1 >>= decodeReceived) = false ∧
      (∃ w', eventReading source event w' = ((firstEventFrame source events).run w).1 >>= decodeReceived) ∧
      decodables (eventReading source) events = decodables (eventReading source) [event] ∧
      (undecodables (eventReading source) [event]).Sublist (undecodables (eventReading source) events) := by
  induction events generalizing w with
  | nil => exact Or.inl ⟨rfl, rfl, rfl⟩
  | cons event rest ih =>
    have hrun : ((firstEventFrame source (event :: rest)).run w).1 =
        match (eventFrame source event).run w with
        | (.ok none, w') => ((firstEventFrame source rest).run w').1
        | (.ok (some frame), _) => .ok (some frame)
        | (.error error, _) => .error error := by
      rw [firstEventFrame, Proc.run_bind]
      match (eventFrame source event).run w with
      | (.ok none, _) => rfl
      | (.ok (some _), _) => rfl
      | (.error _, _) => rfl
    have hfirst (outcome : Except ApiError (Option LxmfRsFrame)) (hframe : ((eventFrame source event).run w).1 = outcome)
        (hloud : Polled.isSilent (outcome >>= decodeReceived) = false) :
        decodables (eventReading source) (event :: rest) = decodables (eventReading source) [event] := by
      have hinbound : ∃ w, eventReading source event w ≠ .ok none := by
        use w
        rw [eventReading, hframe]
        intro hsilent
        rw [hsilent] at hloud
        cases hloud
      have hsplit := @decodables_append _ (eventReading source) [event] rest
      rw [hone.decodables_tail hinbound, List.append_nil] at hsplit
      exact hsplit
    have hkept : (undecodables (eventReading source) [event]).Sublist (undecodables (eventReading source) (event :: rest)) :=
      List.Sublist.filter _ (List.Sublist.cons_cons event (List.nil_sublist rest))
    match hframe : (eventFrame source event).run w with
    | (.error error, w') =>
      rw [hframe] at hrun
      rw [hrun]
      right
      exact ⟨event, rfl, ⟨w, by rw [eventReading, hframe]⟩, hfirst (.error error) (by rw [hframe]) rfl, hkept⟩
    | (.ok (some frame), w') =>
      rw [hframe] at hrun
      rw [hrun]
      have hloud : Polled.isSilent (decodeReceived (some frame)) = false := by
        simp only [decodeReceived]
        cases ServerHost.decodeMsgpack frame.bytes with
        | ok _ => rfl
        | error _ => rfl
      right
      exact ⟨event, hloud, ⟨w, by rw [eventReading, hframe]⟩, hfirst (.ok (some frame)) (by rw [hframe]) hloud, hkept⟩
    | (.ok none, w') =>
      rw [hframe] at hrun
      rw [hrun]
      have hsilent : eventReading source event w = .ok none := by
        rw [eventReading, hframe]
        rfl
      obtain ⟨hdecodes, hfails⟩ := (eventReading_steady codec source).neither hsilent
      have hdecodables := @decodables_append _ (eventReading source) [event] rest
      have hundecodables := @undecodables_append _ (eventReading source) [event] rest
      rw [hdecodes, List.nil_append] at hdecodables
      rw [hfails, List.nil_append] at hundecodables
      rw [show event :: rest = [event] ++ rest from rfl, hdecodables, hundecodables]
      exact ih (List.pairwise_cons.mp hone).2 w'

/-- The adapter follows the cursors of the daemon. -/
structure LxmfSdkLxmfRsAdapter.Follows (a : LxmfSdkLxmfRsAdapter) (source : String) (d : EventDaemon) (n : Nat) : Prop where
  source : a.source = source
  max : a.maxPollEvents = 256
  cursor : (a.nextEventCursor.map d.place).getD 0 = d.start n

/-- One call: it asks from where the batch before ended. -/
theorem LxmfSdkLxmfRsAdapter.poll_follows {a : LxmfSdkLxmfRsAdapter} {source : String} {d : EventDaemon} {n : Nat}
    (h : a.Follows source d n) (w : ServerWorld) :
    (poll a (d.pollEvents n) w).1 = (((firstEventFrame source (d.batch n)).run w).1 >>= decodeReceived) ∧
      (poll a (d.pollEvents n) w).2.Follows source d (n + 1) := by
  have hanswer : d.pollEvents n a.nextEventCursor a.maxPollEvents =
      .ok { events := d.batch n, nextCursor := d.cursorAt (d.start (n + 1)) } := by
    simp only [EventDaemon.pollEvents, h.cursor, h.max]
    rfl
  have hreceive : LxmfRsAdapter.receiveFrame a (d.pollEvents n) w =
      (((firstEventFrame a.source (d.batch n)).run w).1,
        { a with nextEventCursor := some (d.cursorAt (d.start (n + 1))) }) := by
    show LxmfSdkLxmfRsAdapter.receiveFrame a (d.pollEvents n) w = _
    rw [LxmfSdkLxmfRsAdapter.receiveFrame, hanswer]
  constructor
  · rw [poll, hreceive, h.source]
  · rw [poll, hreceive]
    exact ⟨h.source, h.max, d.place_cursorAt _⟩

/-- The adapters of a run follow the daemon. -/
theorem LxmfSdkLxmfRsAdapter.run_follows (source : String) (d : EventDaemon) (worlds : Nat → ServerWorld) (n : Nat) :
    (adapterAt ({ source } : LxmfSdkLxmfRsAdapter) d.pollEvents worlds n).Follows source d n := by
  induction n with
  | zero => exact ⟨rfl, rfl, rfl⟩
  | succ n ih => exact (LxmfSdkLxmfRsAdapter.poll_follows ih (worlds n)).2

/-- What the first calls have handled is what they were served. -/
theorem events_handled (codec : StampFree) (source : String) (d : EventDaemon) (worlds : Nat → ServerWorld)
    (hone : ∀ n, OneInbound source (d.batch n)) (n : Nat) :
    ∃ events, Handled (eventReading source) (pollAt ({ source } : LxmfSdkLxmfRsAdapter) d.pollEvents worlds) n events ∧
      decodables (eventReading source) events = decodables (eventReading source) (d.served n) ∧
      (undecodables (eventReading source) events).Sublist (undecodables (eventReading source) (d.served n)) := by
  induction n with
  | zero => exact ⟨[], Handled.zero, rfl, List.nil_sublist _⟩
  | succ n ih =>
    obtain ⟨events, hhandled, hdecodes, hfails⟩ := ih
    have hcall := (LxmfSdkLxmfRsAdapter.poll_follows
      (LxmfSdkLxmfRsAdapter.run_follows source d worlds n) (worlds n)).1
    rw [d.served_succ, decodables_append, undecodables_append]
    rcases firstEventFrame_read codec source (d.batch n) (hone n) (worlds n) with
      ⟨hsilent, hnone, hnone'⟩ | ⟨event, hloud, hread, hdecodes', hfails'⟩
    · rw [hnone, hnone', List.append_nil, List.append_nil]
      have hquiet : (pollAt ({ source } : LxmfSdkLxmfRsAdapter) d.pollEvents worlds n).isSilent = true := by
        rw [pollAt, hcall, hsilent]
        rfl
      exact ⟨events, hhandled.silent hquiet, hdecodes, hfails⟩
    · rw [← hcall] at hloud hread
      use events ++ [event]
      rw [decodables_append, undecodables_append, hdecodes, hdecodes']
      exact ⟨hhandled.loud hloud hread, rfl, hfails.append hfails'⟩

/-- A run on batches of one inbound message each returns each of them in its call. -/
theorem events_exactly_once (codec : StampFree) (source : String) (d : EventDaemon) (worlds : Nat → ServerWorld)
    (hone : ∀ n, OneInbound source (d.batch n)) :
    ExactlyOnce (eventReading source) (fun n => d.served (n + 1))
      (pollAt ({ source } : LxmfSdkLxmfRsAdapter) d.pollEvents worlds) := by
  have steady := eventReading_steady codec source
  constructor
  · intro n
    obtain ⟨events, hhandled, hdecodes, -⟩ := events_handled codec source d worlds hone n
    use decodables (eventReading source) (d.served n)
    constructor
    · rw [d.served_succ, decodables_append]
      exact List.prefix_append _ _
    · rw [← hdecodes]
      exact hhandled.delivered steady
  · intro n
    obtain ⟨events, hhandled, hdecodes, -⟩ := events_handled codec source d worlds hone (n + 1)
    use n + 1
    constructor
    · omega
    · rw [← hdecodes, (hhandled.delivered steady).length_eq]
  · intro n
    obtain ⟨events, hhandled, -, hfails⟩ := events_handled codec source d worlds hone n
    use undecodables (eventReading source) events
    constructor
    · rw [d.served_succ, undecodables_append]
      exact hfails.trans (List.sublist_append_left _ _)
    · exact hhandled.reported steady

/-! ## The list of messages -/

/-- A listed message a frame is made of. -/
def Framed (source : String) (message : Value) : Prop :=
  listedMessageId message ≠ "" ∧ ∃ w frame, ((messageFrame source message).run w).1 = .ok (some frame)

/-- The messages of a list that frames are made of. -/
noncomputable def framedOf (source : String) (messages : List Value) : List Value :=
  messages.filter fun message => decide (Framed source message)

/-- A list the adapter gets through: a frame is made of every message with an id that is
no text of another kind, each has its own, and there are 256 of them at most. -/
structure Listable (source : String) (messages : List Value) : Prop where
  framed : ∀ message ∈ messages, listedMessageId message ≠ "" →
    ∀ w error, ((messageFrame source message).run w).1 ≠ .error error
  named : ∀ message ∈ messages, (∃ envelope, Carries (messageReading source) envelope message) →
    listedMessageId message ≠ ""
  own : ((framedOf source messages).map listedMessageId).Nodup
  few : (framedOf source messages).length ≤ 256

/-- The loop hands out the first message it has not seen that a frame is made of. -/
theorem firstFrame_run (codec : StampFree) (a : ReticulumdRpcLxmfRsAdapter) (messages : List Value)
    (hframed : ∀ message ∈ messages, listedMessageId message ≠ "" →
      ∀ w error, ((messageFrame a.source message).run w).1 ≠ .error error) (w : ServerWorld) :
    match ((framedOf a.source messages).filter fun message => !a.hasSeen (listedMessageId message)).head? with
    | none => ((a.firstFrame messages).run w).1 = .ok none
    | some message => ∃ frame, ((a.firstFrame messages).run w).1 = .ok (some (message, frame)) ∧
        ∃ w', ((messageFrame a.source message).run w').1 = .ok (some frame) := by
  induction messages generalizing w with
  | nil => rfl
  | cons message rest ih =>
    have ih := ih fun later hlater => hframed later (List.mem_cons_of_mem _ hlater)
    by_cases hskip : ((listedMessageId message).isEmpty || a.hasSeen (listedMessageId message)) = true
    · have hfilter : (framedOf a.source (message :: rest)).filter (fun message => !a.hasSeen (listedMessageId message)) =
          (framedOf a.source rest).filter fun message => !a.hasSeen (listedMessageId message) := by
        rw [framedOf, framedOf, List.filter_filter, List.filter_filter, List.filter_cons_of_neg]
        rcases Bool.or_eq_true _ _ |>.mp hskip with hempty | hseen
        · have hnot : ¬Framed a.source message := by
            intro h
            exact h.1 (by simpa using hempty)
          simp [hnot]
        · simp [hseen]
      rw [hfilter, ReticulumdRpcLxmfRsAdapter.firstFrame, if_pos hskip]
      exact ih w
    · have hid : listedMessageId message ≠ "" := by
        intro hempty
        rw [hempty] at hskip
        exact hskip rfl
      have hseen : a.hasSeen (listedMessageId message) = false := by
        cases h : a.hasSeen (listedMessageId message) with
        | false => rfl
        | true => exact absurd (by simp [h]) hskip
      have hrun : ((a.firstFrame (message :: rest)).run w).1 =
          match (messageFrame a.source message).run w with
          | (.ok none, w') => ((a.firstFrame rest).run w').1
          | (.ok (some frame), _) => .ok (some (message, frame))
          | (.error error, _) => .error error := by
        rw [ReticulumdRpcLxmfRsAdapter.firstFrame, if_neg hskip, Proc.run_bind]
        match (messageFrame a.source message).run w with
        | (.ok none, _) => rfl
        | (.ok (some _), _) => rfl
        | (.error _, _) => rfl
      rw [hrun]
      match hframe : (messageFrame a.source message).run w with
      | (.error error, w') => exact absurd (by rw [hframe]) (hframed message List.mem_cons_self hid w error)
      | (.ok (some frame), w') =>
        have hyes : Framed a.source message := ⟨hid, w, frame, by rw [hframe]⟩
        have hhead : ((framedOf a.source (message :: rest)).filter fun message =>
            !a.hasSeen (listedMessageId message)).head? = some message := by
          rw [framedOf, List.filter_cons_of_pos (by simpa using hyes), List.filter_cons_of_pos (by simp [hseen])]
          rfl
        rw [hhead]
        exact ⟨frame, rfl, w, by rw [hframe]⟩
      | (.ok none, w') =>
        have hnot : ¬Framed a.source message := by
          rintro ⟨-, w'', frame, hsome⟩
          have halike := messageFrame_alike codec a.source message w w''
          rw [hframe, hsome] at halike
          exact halike
        have hfilter : framedOf a.source (message :: rest) = framedOf a.source rest := by
          rw [framedOf, List.filter_cons_of_neg (by simpa using hnot)]
          rfl
        rw [hfilter]
        exact ih w'

omit [TransportHost] in
/-- What is left of a list of messages with ids of their own when the first are taken out. -/
theorem filter_unseen {M : Type} {name : M → String} {messages : List M} (hown : (messages.map name).Nodup) (j : Nat) :
    (messages.filter fun message => !((messages.take j).map name).contains (name message)) = messages.drop j := by
  have hsplit : (messages.take j).map name ++ (messages.drop j).map name = messages.map name := by
    rw [← List.map_append, List.take_append_drop]
  rw [← hsplit] at hown
  have hdisjoint := (List.nodup_append.mp hown).2.2
  have htaken : ((messages.take j).filter fun message => !((messages.take j).map name).contains (name message)) = [] := by
    apply List.filter_eq_nil_iff.mpr
    intro message hmessage
    simp only [List.contains_eq_mem, Bool.not_eq_true', decide_eq_false_iff_not, not_not]
    exact List.mem_map_of_mem hmessage
  have hleft : ((messages.drop j).filter fun message => !((messages.take j).map name).contains (name message)) =
      messages.drop j := by
    apply List.filter_eq_self.mpr
    intro message hmessage
    simp only [List.contains_eq_mem, Bool.not_eq_true', decide_eq_false_iff_not]
    intro htaken
    exact hdisjoint _ htaken _ (List.mem_map_of_mem hmessage) rfl
  calc messages.filter (fun message => !((messages.take j).map name).contains (name message))
      = (messages.take j ++ messages.drop j).filter
          (fun message => !((messages.take j).map name).contains (name message)) := by rw [List.take_append_drop]
    _ = messages.drop j := by rw [List.filter_append, htaken, hleft, List.nil_append]

/-- The answer to `list_messages`. -/
def listAnswer (messages : List Value) : Except ApiError ReticulumdRpcResponse :=
  .ok { result := some (.object [("messages", .array messages)]) }

/-- The adapter has handed out the first `j` of the messages frames are made of. -/
structure ReticulumdRpcLxmfRsAdapter.HandedOut (a : ReticulumdRpcLxmfRsAdapter) (source : String) (messages : List Value)
    (j : Nat) : Prop where
  origin : a.source = source
  max : a.maxSeenMessageIds = 256
  seen : a.seenMessageIds = ((framedOf source messages).take j).map listedMessageId

/-- One call hands out the next of them. -/
theorem ReticulumdRpcLxmfRsAdapter.poll_handedOut (codec : StampFree) {a : ReticulumdRpcLxmfRsAdapter} {source : String}
    {messages : List Value} {j : Nat} (h : a.HandedOut source messages j) (hlist : Listable source messages)
    (w : ServerWorld) :
    match (framedOf source messages)[j]? with
    | none => (poll a (listAnswer messages) w).1 = .ok none ∧ (poll a (listAnswer messages) w).2.HandedOut source messages j
    | some message => Polled.isSilent (poll a (listAnswer messages) w).1 = false ∧
        (∃ w', messageReading source message w' = (poll a (listAnswer messages) w).1) ∧
        (poll a (listAnswer messages) w).2.HandedOut source messages (j + 1) := by
  have hloop := firstFrame_run codec a messages (by rw [h.origin]; exact hlist.framed) w
  have hleft : ((framedOf a.source messages).filter fun message => !a.hasSeen (listedMessageId message)) =
      (framedOf source messages).drop j := by
    rw [h.origin]
    simp only [ReticulumdRpcLxmfRsAdapter.hasSeen, h.seen]
    exact filter_unseen hlist.own j
  have hlisted : ((some (Value.object [("messages", .array messages)])).bind fun result => result.get "messages").bind
      Value.asArray = some messages := rfl
  have hreceive : LxmfRsAdapter.receiveFrame a (listAnswer messages) w =
      ReticulumdRpcLxmfRsAdapter.receiveFrame a (listAnswer messages) w := rfl
  rw [hleft, List.head?_drop] at hloop
  cases hnext : (framedOf source messages)[j]? with
  | none =>
    rw [hnext] at hloop
    simp only at hloop ⊢
    rw [poll, hreceive]
    unfold ReticulumdRpcLxmfRsAdapter.receiveFrame listAnswer
    simp only [hlisted, hloop]
    exact ⟨rfl, h⟩
  | some message =>
    rw [hnext] at hloop
    simp only at hloop ⊢
    obtain ⟨frame, hfound, w', hframe⟩ := hloop
    rw [poll, hreceive]
    unfold ReticulumdRpcLxmfRsAdapter.receiveFrame listAnswer
    simp only [hlisted, hfound]
    have hbound : j < (framedOf source messages).length := (List.getElem?_eq_some_iff.mp hnext).1
    have hunseen : a.hasSeen (listedMessageId message) = false := by
      have hmem : message ∈ (framedOf source messages).drop j := by
        rw [List.drop_eq_getElem_cons hbound, (List.getElem?_eq_some_iff.mp hnext).2]
        exact List.mem_cons_self
      rw [← hleft] at hmem
      simpa using (List.mem_filter.mp hmem).2
    have hroom : (a.seenMessageIds ++ [listedMessageId message]).length ≤ a.maxSeenMessageIds := by
      have := hlist.few
      simp only [h.seen, h.max, List.length_append, List.length_map, List.length_take, List.length_singleton]
      omega
    refine ⟨?_, ⟨w', ?_⟩, ?_⟩
    · show Polled.isSilent (decodeReceived (some frame)) = false
      simp only [decodeReceived]
      cases ServerHost.decodeMsgpack frame.bytes with
      | ok _ => rfl
      | error _ => rfl
    · rw [messageReading, ← h.origin, hframe]
    · have hremember : a.rememberSeen (listedMessageId message) =
          { a with seenMessageIds := a.seenMessageIds ++ [listedMessageId message] } := by
        simp only [ReticulumdRpcLxmfRsAdapter.rememberSeen, hunseen, Bool.false_eq_true, if_false,
          Nat.sub_eq_zero_of_le hroom, List.drop_zero]
      show (a.rememberSeen (listedMessageId message)).HandedOut source messages (j + 1)
      rw [hremember]
      constructor
      · exact h.origin
      · exact h.max
      · rw [List.take_add_one, hnext, List.map_append, ← h.seen]
        rfl

/-- How many of them the first calls of a run have handed out. -/
noncomputable def handedOut (source : String) (lists : Nat → List Value) : Nat → Nat
  | 0 => 0
  | n + 1 =>
    if handedOut source lists n < (framedOf source (lists n)).length then handedOut source lists n + 1
    else handedOut source lists n

section

variable {source : String} {lists : Nat → List Value}

theorem framedOf_grows (hgrows : ∀ n, lists n <+: lists (n + 1)) (n : Nat) :
    framedOf source (lists n) <+: framedOf source (lists (n + 1)) := (hgrows n).filter _

theorem handedOut_le (hgrows : ∀ n, lists n <+: lists (n + 1)) (n : Nat) :
    handedOut source lists n ≤ (framedOf source (lists n)).length := by
  induction n with
  | zero => exact Nat.zero_le _
  | succ n ih =>
    have := (@framedOf_grows _ source lists hgrows n).length_le
    rw [handedOut]
    split <;> omega

theorem framedOf_mono (hgrows : ∀ n, lists n <+: lists (n + 1)) (n i : Nat) :
    framedOf source (lists n) <+: framedOf source (lists (n + i)) := by
  induction i with
  | zero => exact List.prefix_rfl
  | succ i ih => exact ih.trans (framedOf_grows hgrows (n + i))

/-- One message more a call, until the list is through. -/
theorem handedOut_progress (hgrows : ∀ n, lists n <+: lists (n + 1)) (n i : Nat) :
    min i (framedOf source (lists n)).length ≤ handedOut source lists (n + i) := by
  induction i with
  | zero => omega
  | succ i ih =>
    have hlength := (@framedOf_mono _ source lists hgrows n i).length_le
    rw [← Nat.add_assoc, handedOut]
    split <;> omega

/-- The first messages stay the first ones while the list grows. -/
theorem take_framedOf (hgrows : ∀ n, lists n <+: lists (n + 1)) {n j : Nat}
    (hj : j ≤ (framedOf source (lists n)).length) :
    (framedOf source (lists (n + 1))).take j = (framedOf source (lists n)).take j := by
  obtain ⟨tail, htail⟩ := @framedOf_grows _ source lists hgrows n
  rw [← htail, List.take_append_of_le_length hj]

/-- What the first calls have handled is what they have handed out. -/
theorem messages_handled (codec : StampFree) (hgrows : ∀ n, lists n <+: lists (n + 1))
    (hlists : ∀ n, Listable source (lists n)) (worlds : Nat → ServerWorld) (n : Nat) :
    (adapterAt ({ source } : ReticulumdRpcLxmfRsAdapter) (fun n => listAnswer (lists n)) worlds n).HandedOut source
        (lists n) (handedOut source lists n) ∧
      Handled (messageReading source)
        (pollAt ({ source } : ReticulumdRpcLxmfRsAdapter) (fun n => listAnswer (lists n)) worlds) n
        ((framedOf source (lists n)).take (handedOut source lists n)) := by
  induction n with
  | zero =>
    constructor
    · exact ⟨rfl, rfl, rfl⟩
    · exact Handled.zero
  | succ n ih =>
    obtain ⟨hadapter, hhandled⟩ := ih
    have hcall := ReticulumdRpcLxmfRsAdapter.poll_handedOut codec hadapter (hlists n) (worlds n)
    have hgrown {a : ReticulumdRpcLxmfRsAdapter} {j : Nat} (h : a.HandedOut source (lists n) j)
        (hj : j ≤ (framedOf source (lists n)).length) : a.HandedOut source (lists (n + 1)) j := by
      constructor
      · exact h.origin
      · exact h.max
      · rw [h.seen, take_framedOf hgrows hj]
    by_cases hmore : handedOut source lists n < (framedOf source (lists n)).length
    · have hcount : handedOut source lists (n + 1) = handedOut source lists n + 1 := by rw [handedOut, if_pos hmore]
      rw [List.getElem?_eq_getElem hmore] at hcall
      obtain ⟨hloud, hread, hnext⟩ := hcall
      rw [hcount]
      constructor
      · exact hgrown hnext hmore
      · rw [take_framedOf hgrows hmore, List.take_add_one, List.getElem?_eq_getElem hmore]
        exact hhandled.loud hloud hread
    · have hcount : handedOut source lists (n + 1) = handedOut source lists n := by rw [handedOut, if_neg hmore]
      rw [List.getElem?_eq_none (by omega)] at hcall
      obtain ⟨hquiet, hnext⟩ := hcall
      rw [hcount]
      constructor
      · exact hgrown hnext (handedOut_le hgrows n)
      · rw [take_framedOf hgrows (handedOut_le hgrows n)]
        apply hhandled.silent
        show Polled.isSilent (poll _ _ _).1 = true
        rw [hquiet]
        rfl

/-- The messages that decode are among those that frames are made of. -/
theorem Listable.decodables_framedOf {messages : List Value} (h : Listable source messages) :
    decodables (messageReading source) (framedOf source messages) = decodables (messageReading source) messages := by
  rw [decodables, decodables, framedOf, List.filter_filter]
  apply List.filter_congr
  intro message hmessage
  by_cases hcarries : ∃ envelope, Carries (messageReading source) envelope message
  · have hframed : Framed source message := by
      constructor
      · exact h.named message hmessage hcarries
      · obtain ⟨envelope, w, hread⟩ := hcarries
        use w
        rw [messageReading] at hread
        match hframe : ((messageFrame source message).run w).1 with
        | .ok (some frame) => exact ⟨frame, rfl⟩
        | .ok none =>
          rw [hframe] at hread
          cases hread
        | .error _ =>
          rw [hframe] at hread
          cases hread
    simp [hcarries, hframed]
  · simp [hcarries]

/-- A frame decodes or it does not. -/
theorem length_framedOf_le (messages : List Value) :
    (framedOf source messages).length ≤ (decodables (messageReading source) (framedOf source messages)).length +
      (undecodables (messageReading source) (framedOf source messages)).length := by
  have hall : ∀ message ∈ framedOf source messages,
      (∃ envelope, Carries (messageReading source) envelope message) ∨
        ∃ error, Reports (messageReading source) error message := by
    intro message hmessage
    have hframed : Framed source message := by simpa using (List.mem_filter.mp hmessage).2
    obtain ⟨-, w, frame, hframe⟩ := hframed
    have hread : messageReading source message w = decodeReceived (some frame) := by rw [messageReading, hframe]; rfl
    simp only [decodeReceived] at hread
    match hdecode : ServerHost.decodeMsgpack frame.bytes with
    | .ok envelope =>
      left
      use envelope, w
      rw [hread, hdecode]
      rfl
    | .error text =>
      right
      use receiveError text, w
      rw [hread, hdecode]
      rfl
  generalize framedOf source messages = framed at hall
  induction framed with
  | nil => exact Nat.zero_le _
  | cons message rest ih =>
    have ih := ih fun later hlater => hall later (List.mem_cons_of_mem _ hlater)
    simp only [decodables, undecodables, List.filter_cons, List.length_cons] at ih ⊢
    rcases hall message List.mem_cons_self with hyes | hyes
    · rw [if_pos (decide_eq_true hyes), apply_ite List.length]
      simp only [List.length_cons]
      split <;> omega
    · rw [if_pos (decide_eq_true hyes), apply_ite List.length]
      simp only [List.length_cons]
      split <;> omega

/-- A run on lists the adapter gets through returns one message a call until the list is
through. -/
theorem messages_exactly_once (codec : StampFree) (hgrows : ∀ n, lists n <+: lists (n + 1))
    (hlists : ∀ n, Listable source (lists n)) (worlds : Nat → ServerWorld) :
    ExactlyOnce (messageReading source) lists
      (pollAt ({ source } : ReticulumdRpcLxmfRsAdapter) (fun n => listAnswer (lists n)) worlds) := by
  have steady := messageReading_steady codec source
  constructor
  · intro n
    have hhandled := (messages_handled codec hgrows hlists worlds n).2
    use decodables (messageReading source) ((framedOf source (lists n)).take (handedOut source lists n))
    constructor
    · rw [← (hlists n).decodables_framedOf]
      exact (List.take_prefix _ _).filter _
    · exact hhandled.delivered steady
  · intro n
    have hlength := @length_framedOf_le _ source (lists n)
    have hfails : (undecodables (messageReading source) (framedOf source (lists n))).length ≤
        (undecodables (messageReading source) (lists n)).length :=
      ((List.filter_sublist (l := lists n)).filter _).length_le
    have hprogress := @handedOut_progress _ source lists hgrows n (framedOf source (lists n)).length
    rw [(hlists n).decodables_framedOf] at hlength
    use n + (framedOf source (lists n)).length
    constructor
    · omega
    · have hhandled := (messages_handled codec hgrows hlists worlds (n + (framedOf source (lists n)).length)).2
      rw [(hhandled.delivered steady).length_eq, ← (hlists n).decodables_framedOf]
      have hfirst : framedOf source (lists n) <+:
          (framedOf source (lists (n + (framedOf source (lists n)).length))).take
            (handedOut source lists (n + (framedOf source (lists n)).length)) := by
        apply List.prefix_take_iff.mpr
        constructor
        · exact framedOf_mono hgrows n _
        · omega
      exact (hfirst.filter _).length_le
  · intro n
    have hhandled := (messages_handled codec hgrows hlists worlds n).2
    use undecodables (messageReading source) ((framedOf source (lists n)).take (handedOut source lists n))
    constructor
    · exact ((List.take_sublist _ _).trans List.filter_sublist).filter _
    · exact hhandled.reported steady

end

/-! ## Both adapters -/

/-- Every run of the stream adapter on batches of one inbound message each, and every run
of the list adapter on lists it gets through, returns each message once and in order. -/
theorem inbound_exactly_once (codec : StampFree) :
    (∀ (source : String) (d : EventDaemon) (worlds : Nat → ServerWorld), (∀ n, OneInbound source (d.batch n)) →
      ExactlyOnce (eventReading source) (fun n => d.served (n + 1))
        (pollAt ({ source } : LxmfSdkLxmfRsAdapter) d.pollEvents worlds)) ∧
    ∀ (source : String) (lists : Nat → List Value) (worlds : Nat → ServerWorld), (∀ n, lists n <+: lists (n + 1)) →
      (∀ n, Listable source (lists n)) →
      ExactlyOnce (messageReading source) lists
        (pollAt ({ source } : ReticulumdRpcLxmfRsAdapter) (fun n => listAnswer (lists n)) worlds) := by
  constructor
  · intro source d worlds hone
    exact events_exactly_once codec source d worlds hone
  · intro source lists worlds hgrows hlists
    exact messages_exactly_once codec hgrows hlists worlds

end

/-! ## Where messages are lost -/

/-- A message of the daemon: its id and its text. -/
def textMessage (id content : String) : Value := .object [("id", .string id), ("content", .string content)]

/-- A message whose command field is an empty list. -/
def commandlessMessage (id : String) : Value := .object [("id", .string id), ("fields", .object [("9", .array [])])]

/-- A host whose codec is right about the greeting a world at the epoch stamps. -/
@[reducible] def TransportHost.greeting : TransportHost where
  toServerHost := { ServerHost.blank with
    decodeMsgpack := fun _ => .ok ((unstamped "unknown" (.topic "direct") "direct"
      (.topicMessage { body := "hello", contentType := "text/plain", correlationId := none, attachments := [] })
      (some "m-1")).stampedIn (ServerWorld.atEpoch {})) }
  encodeMsgpack _ := .ok []

theorem stampFree_greeting : @StampFree TransportHost.greeting := by
  let := TransportHost.greeting
  constructor
  · intro _ _ _
    rfl
  · intro _ _ _ _ _ _ _
    rfl

/-- A daemon whose log is given, and served at once. -/
def EventDaemon.ofLog (log : List ReticulumdEvent) : EventDaemon where
  log _ := log
  grows _ := List.prefix_rfl
  size _ := 256
  cursorAt k := String.ofList (List.replicate k '+')
  place cursor := cursor.toList.length
  place_cursorAt k := by simp

/-- The event of an inbound message. -/
def inboundEvent (message : Value) : ReticulumdEvent :=
  { eventId := "e", eventType := "inbound", payload := .object [("message", message)] }

/-- A run in which a greeting is offered, by each of the daemon's two faces. -/
theorem inbound_exactly_once_greeting :
    letI := TransportHost.greeting
    ExactlyOnce (eventReading "hub") (fun n => (EventDaemon.ofLog [inboundEvent (textMessage "m-1" "hello")]).served (n + 1))
        (pollAt ({ source := "hub" } : LxmfSdkLxmfRsAdapter)
          (EventDaemon.ofLog [inboundEvent (textMessage "m-1" "hello")]).pollEvents fun _ => ServerWorld.atEpoch {}) ∧
      ExactlyOnce (messageReading "hub") (fun _ => [textMessage "m-1" "hello"])
        (pollAt ({ source := "hub" } : ReticulumdRpcLxmfRsAdapter) (fun _ => listAnswer [textMessage "m-1" "hello"])
          fun _ => ServerWorld.atEpoch {}) := by
  let := TransportHost.greeting
  have honce := inbound_exactly_once stampFree_greeting
  constructor
  · apply honce.1
    intro n
    have hshort : ((EventDaemon.ofLog [inboundEvent (textMessage "m-1" "hello")]).batch n).length ≤ 1 := by
      simp only [EventDaemon.batch, EventDaemon.ofLog, List.length_take, List.length_drop, List.length_singleton]
      omega
    match h : (EventDaemon.ofLog [inboundEvent (textMessage "m-1" "hello")]).batch n with
    | [] => exact List.Pairwise.nil
    | [event] => exact List.pairwise_singleton _ _
    | _ :: _ :: _ =>
      rw [h] at hshort
      simp at hshort
  · apply honce.2
    · intro n
      exact List.prefix_rfl
    · intro n
      constructor
      · intro message hmessage hid w error
        rw [List.mem_singleton.mp hmessage]
        exact nofun
      · intro message hmessage _
        rw [List.mem_singleton.mp hmessage]
        decide
      · have hshort := (List.filter_sublist (l := [textMessage "m-1" "hello"])
          (p := fun message => decide (Framed "hub" message))).map listedMessageId
        exact List.Nodup.sublist hshort (List.nodup_singleton _)
      · have hshort := List.length_filter_le (fun message => decide (Framed "hub" message)) [textMessage "m-1" "hello"]
        exact hshort.trans (by decide)

/-- Two greetings in one batch. -/
def twoGreetings : EventDaemon :=
  EventDaemon.ofLog [inboundEvent (textMessage "m-1" "hello"), inboundEvent (textMessage "m-2" "hello")]

theorem twoGreetings_start (n : Nat) : twoGreetings.start (n + 1) = 2 := by
  induction n with
  | zero => rfl
  | succ n ih =>
    rw [EventDaemon.start, ih]
    rfl

/-- The second message of a batch is lost, and a message whose commands are malformed
keeps every later one of the list from being returned. -/
theorem second_message_lost :
    letI := TransportHost.greeting
    ¬ExactlyOnce (eventReading "hub")
        (fun n => twoGreetings.served (n + 1))
        (pollAt ({ source := "hub" } : LxmfSdkLxmfRsAdapter) twoGreetings.pollEvents fun _ => ServerWorld.atEpoch {}) ∧
      ¬ExactlyOnce (messageReading "hub") (fun _ => [commandlessMessage "m-1", textMessage "m-2" "hello"])
        (pollAt ({ source := "hub" } : ReticulumdRpcLxmfRsAdapter)
          (fun _ => listAnswer [commandlessMessage "m-1", textMessage "m-2" "hello"])
          fun _ => ServerWorld.atEpoch {}) := by
  let := TransportHost.greeting
  constructor
  · intro honce
    obtain ⟨k, -, hk⟩ := honce.prompt 0
    have hlater (n : Nat) : pollAt ({ source := "hub" } : LxmfSdkLxmfRsAdapter) twoGreetings.pollEvents
        (fun _ => ServerWorld.atEpoch {}) (n + 1) = .ok none := by
      have hcall := (LxmfSdkLxmfRsAdapter.poll_follows (LxmfSdkLxmfRsAdapter.run_follows "hub" twoGreetings
        (fun _ => ServerWorld.atEpoch {}) (n + 1)) (ServerWorld.atEpoch {})).1
      rw [EventDaemon.batch, twoGreetings_start] at hcall
      exact hcall
    have hfew : (delivered (pollAt ({ source := "hub" } : LxmfSdkLxmfRsAdapter) twoGreetings.pollEvents
        fun _ => ServerWorld.atEpoch {}) k).length ≤ 1 := by
      cases k with
      | zero => exact Nat.zero_le _
      | succ k =>
        have hrest : ((List.range k).map ((pollAt ({ source := "hub" } : LxmfSdkLxmfRsAdapter) twoGreetings.pollEvents
            fun _ => ServerWorld.atEpoch {}) ∘ Nat.succ)).filterMap Polled.envelope? = [] := by
          apply List.filterMap_eq_nil_iff.mpr
          intro outcome houtcome
          obtain ⟨n, -, rfl⟩ := List.mem_map.mp houtcome
          show Polled.envelope? (pollAt _ _ _ (n + 1)) = none
          rw [hlater n]
          rfl
        rw [delivered, List.range_succ_eq_map, List.map_cons, List.map_map, List.filterMap_cons, hrest]
        split <;> simp
    have hfirst : ∃ envelope, Carries (eventReading "hub") envelope (inboundEvent (textMessage "m-1" "hello")) :=
      ⟨_, ServerWorld.atEpoch {}, rfl⟩
    have hsecond : ∃ envelope, Carries (eventReading "hub") envelope (inboundEvent (textMessage "m-2" "hello")) :=
      ⟨_, ServerWorld.atEpoch {}, rfl⟩
    have hserved : twoGreetings.served 1 =
        [inboundEvent (textMessage "m-1" "hello"), inboundEvent (textMessage "m-2" "hello")] := rfl
    have hboth : (decodables (eventReading "hub") (twoGreetings.served 1)).length = 2 := by
      rw [hserved]
      simp only [decodables, List.filter_cons, hfirst, hsecond, decide_true, if_true]
      rfl
    simp only [Nat.zero_add, hboth] at hk
    omega
  · intro honce
    obtain ⟨k, -, hk⟩ := honce.prompt 0
    have hstuck (n : Nat) : adapterAt ({ source := "hub" } : ReticulumdRpcLxmfRsAdapter)
        (fun _ => listAnswer [commandlessMessage "m-1", textMessage "m-2" "hello"])
        (fun _ => ServerWorld.atEpoch {}) n = { source := "hub" } := by
      induction n with
      | zero => rfl
      | succ n ih =>
        rw [adapterAt, ih]
        rfl
    have hsays : ∃ envelope, Carries (messageReading "hub") envelope (textMessage "m-2" "hello") :=
      ⟨_, ServerWorld.atEpoch {}, rfl⟩
    have hnothing : delivered (pollAt ({ source := "hub" } : ReticulumdRpcLxmfRsAdapter)
        (fun _ => listAnswer [commandlessMessage "m-1", textMessage "m-2" "hello"])
        fun _ => ServerWorld.atEpoch {}) k = [] := by
      apply List.filterMap_eq_nil_iff.mpr
      intro outcome houtcome
      obtain ⟨n, -, rfl⟩ := List.mem_map.mp houtcome
      rw [pollAt, hstuck n]
      rfl
    rw [hnothing] at hk
    have hmem : textMessage "m-2" "hello" ∈
        decodables (messageReading "hub") [commandlessMessage "m-1", textMessage "m-2" "hello"] := by
      apply List.mem_filter.mpr
      constructor
      · simp
      · exact decide_eq_true hsays
    exact absurd (List.length_pos_of_mem hmem) (by simpa using hk)

end TelemetryHub
