import TelemetryHub.Server.Traffic

/-!
# Redelivery

The transport may deliver an envelope again. It is recognised by the event that was recorded of it
last, as long as that one is among the latest 200.
-/

namespace TelemetryHub

open Lib ServerM

/-! ## What is recorded -/

/-- The events slide over the latest 200. -/
theorem pushSystemEvent_eq : pushSystemEvent = slide 200 := rfl

theorem InboundWrite.recorded {source : String} {key : Option String} {s s' : AppState}
    (write : InboundWrite source key s s') : s'.systemEvents = s.systemEvents ∨
      ∃ event, s'.systemEvents = pushSystemEvent s.systemEvents event ∧ (event.dedupeKey = none ∨ event.dedupeKey = key) := by
  cases write with
  | event event keyed => exact .inr ⟨event, by dsimp only, keyed⟩
  | _ => exact .inl (by dsimp only)

/-- What the writes of an envelope have recorded has its key or none. -/
theorem InboundWrite.steps_recorded {source : String} {key : Option String} {s s' : AppState}
    (steps : Relation.ReflTransGen (InboundWrite source key) s s') :
    ∃ recorded : List SystemEventRecord, s'.systemEvents = recorded.foldl pushSystemEvent s.systemEvents ∧
      ∀ event ∈ recorded, event.dedupeKey = none ∨ event.dedupeKey = key := by
  induction steps with
  | refl => exact ⟨[], rfl, fun _ mem => absurd mem List.not_mem_nil⟩
  | tail _ write ih =>
    obtain ⟨recorded, before, keyed⟩ := ih
    rcases write.recorded with same | ⟨event, pushed, own⟩
    · exact ⟨recorded, same.trans before, keyed⟩
    · refine ⟨recorded ++ [event], ?_, fun other mem => ?_⟩
      · rw [List.foldl_append, List.foldl_cons, List.foldl_nil, ← before, pushed]
      · rcases List.mem_append.1 mem with earlier | last
        · exact keyed other earlier
        · rwa [List.mem_singleton.1 last]

/-- Traffic records events, and does nothing else to them. -/
theorem TrafficWrite.steps_recorded {s s' : AppState} (steps : Relation.ReflTransGen TrafficWrite s s') :
    ∃ recorded : List SystemEventRecord, s'.systemEvents = recorded.foldl pushSystemEvent s.systemEvents := by
  induction steps with
  | refl => exact ⟨[], rfl⟩
  | tail _ write ih =>
    obtain ⟨recorded, before⟩ := ih
    cases write with
    | envelope source key write =>
      rcases write.recorded with same | ⟨event, pushed, -⟩
      · exact ⟨recorded, same.trans before⟩
      · exact ⟨recorded ++ [event], by rw [List.foldl_append, List.foldl_cons, List.foldl_nil, ← before, pushed]⟩
    | stored f => exact ⟨recorded, before⟩
    | announced identity fresh new => exact ⟨recorded, before⟩

/-! ## Recognition -/

theorem inboundWasAlreadyProcessed_iff {s : AppState} {envelope : ProtocolEnvelope} :
    s.inboundWasAlreadyProcessed envelope = true ↔
      ∃ key, envelope.key = some key ∧ ∃ event ∈ s.systemEvents, event.dedupeKey = some key := by
  rw [AppState.inboundWasAlreadyProcessed, Option.any_eq_true]
  simp only [List.any_eq_true, beq_iff_eq]

variable [ServerHost]

/-- An envelope that is recognised is ignored. -/
theorem run_recognised {envelope : ProtocolEnvelope} {w : ServerWorld}
    (known : w.state.inboundWasAlreadyProcessed envelope = true) :
    (processReticulumdInboundEnvelope envelope).run w = (.ok (), w) := by
  rw [processReticulumdInboundEnvelope, run_state_bind, if_pos known]
  rfl

theorem run_fresh {envelope : ProtocolEnvelope} {w : ServerWorld}
    (fresh : w.state.inboundWasAlreadyProcessed envelope = false) :
    (processReticulumdInboundEnvelope envelope).run w =
      (touchReticulumdInboundClient envelope.source false >>= fun _ => processPayload envelope).run w := by
  rw [processReticulumdInboundEnvelope, run_state_bind, if_neg (Bool.not_eq_true _ ▸ fresh)]

/-- An envelope that has been carried out is the last one that an event was recorded of. -/
theorem ends_keyed {envelope : ProtocolEnvelope} {w : ServerWorld} (fresh : w.state.inboundWasAlreadyProcessed envelope = false)
    (done : ((processReticulumdInboundEnvelope envelope).run w).1 = .ok ()) (accepted : envelope.rejected = false) :
    EndsKeyed envelope.dedupeKey ((processReticulumdInboundEnvelope envelope).run w).2.state.systemEvents := by
  rw [run_fresh fresh] at done ⊢
  have whole : Processes envelope.source envelope.dedupeKey
      (touchReticulumdInboundClient envelope.source false >>= fun _ => processPayload envelope) :=
    .after (inbound_touchReticulumdInboundClient false) fun _ => processes_processPayload envelope accepted
  exact whole.last done

omit [ServerHost] in
/-- A key that is new among the events is that of the envelope. -/
theorem key_of_steps {source : String} {key : Option String} {s s' : AppState}
    (steps : Relation.ReflTransGen (InboundWrite source key) s s') {looked : String}
    (unknown : ∀ event ∈ s.systemEvents, event.dedupeKey ≠ some looked) {event : SystemEventRecord}
    (mem : event ∈ s'.systemEvents) (own : event.dedupeKey = some looked) : key = some looked := by
  obtain ⟨recorded, pushed, keyed⟩ := InboundWrite.steps_recorded steps
  rw [pushed, pushSystemEvent_eq] at mem
  rcases mem_of_mem_foldl_slide mem with before | since
  · exact absurd own (unknown event before)
  · rcases keyed event since with unkeyed | same
    · rw [own] at unkeyed
      cases unkeyed
    · rw [← same, own]

/-- An envelope that has been carried out is recognised from then on exactly if its key is written
the way it is looked up and its text has not been refused. -/
theorem recognised_iff (envelope : ProtocolEnvelope) (w : ServerWorld)
    (fresh : w.state.inboundWasAlreadyProcessed envelope = false)
    (done : ((processReticulumdInboundEnvelope envelope).run w).1 = .ok ()) :
    ((processReticulumdInboundEnvelope envelope).run w).2.state.inboundWasAlreadyProcessed envelope = true ↔
      envelope.key.isSome = true ∧ envelope.dedupeKey = envelope.key ∧ envelope.rejected = false := by
  rw [inboundWasAlreadyProcessed_iff]
  constructor
  · rintro ⟨key, looked, event, mem, own⟩
    have unknown (event : SystemEventRecord) (mem : event ∈ w.state.systemEvents) : event.dedupeKey ≠ some key := by
      intro same
      rw [inboundWasAlreadyProcessed_iff.2 ⟨key, looked, event, mem, same⟩] at fresh
      cases fresh
    have written := key_of_steps ((inbound_processReticulumdInboundEnvelope envelope).moves w) unknown mem own
    refine ⟨by rw [looked]; rfl, written.trans looked.symm, ?_⟩
    cases refused : envelope.rejected with
    | false => rfl
    | true =>
      -- a refused text has recorded nothing with a key
      have silent : Inbound envelope.source none
          (touchReticulumdInboundClient envelope.source false >>= fun _ => processPayload envelope) :=
        .bind (inbound_touchReticulumdInboundClient false) fun _ => inbound_rejected envelope refused
      rw [run_fresh fresh] at mem
      exact absurd (key_of_steps (silent.moves w) unknown mem own) (Option.some_ne_none key).symm
  · rintro ⟨some, same, accepted⟩
    obtain ⟨key, looked⟩ := Option.isSome_iff_exists.1 some
    obtain ⟨events, event, last, own⟩ := ends_keyed fresh done accepted
    refine ⟨key, looked, event, ?_, own.trans (same.trans looked)⟩
    rw [last, pushSystemEvent_eq]
    exact mem_slide (by decide) events event

/-! ### A drill -/

omit [ServerHost] in
/-- A text to a topic, with that key. -/
def noteOf (dedupeKey body : String) : ProtocolEnvelope where
  id := Uuid.ofNat 0
  dedupeKey := some dedupeKey
  source := "abc"
  destination := .topic "t"
  topic := "t"
  timestamp := ⟨0, "1970-01-01T00:00:00Z"⟩
  ttlSeconds := 300
  payload := .topicMessage { body, contentType := "text/plain", correlationId := none, attachments := [] }

omit [ServerHost] in
theorem recognised_note :
    letI := ServerHost.blank
    ((processReticulumdInboundEnvelope (noteOf "m1" "hello")).run (.atEpoch {})).2.state.inboundWasAlreadyProcessed
        (noteOf "m1" "hello") = true ↔
      (noteOf "m1" "hello").key.isSome = true ∧ (noteOf "m1" "hello").dedupeKey = (noteOf "m1" "hello").key ∧
        (noteOf "m1" "hello").rejected = false :=
  letI := ServerHost.blank
  recognised_iff (noteOf "m1" "hello") (.atEpoch {}) (by decide +kernel) (by decide +kernel)

/-- An envelope that has been carried out is ignored whenever it is delivered again, whatever traffic
has come in between, until 200 other events have been recorded. -/
theorem redelivery_ignored (envelope : ProtocolEnvelope) (w : ServerWorld)
    (fresh : w.state.inboundWasAlreadyProcessed envelope = false)
    (done : ((processReticulumdInboundEnvelope envelope).run w).1 = .ok ())
    (kept : envelope.key.isSome = true ∧ envelope.dedupeKey = envelope.key ∧ envelope.rejected = false)
    (inputs : List InboundInput) :
    letI w₁ := ((processReticulumdInboundEnvelope envelope).run w).2
    letI w₂ := inboundRun inputs w₁
    (∃ recorded : List SystemEventRecord, w₂.state.systemEvents = recorded.foldl pushSystemEvent w₁.state.systemEvents) ∧
      ∀ recorded : List SystemEventRecord, w₂.state.systemEvents = recorded.foldl pushSystemEvent w₁.state.systemEvents →
        recorded.length < 200 → ∀ again : ProtocolEnvelope, again.key = envelope.key →
          (processReticulumdInboundEnvelope again).run w₂ = (.ok (), w₂) := by
  refine ⟨TrafficWrite.steps_recorded (inboundRun_steps inputs _), fun recorded since few again same => ?_⟩
  obtain ⟨key, looked⟩ := Option.isSome_iff_exists.1 kept.1
  obtain ⟨events, event, last, own⟩ := ends_keyed fresh done kept.2.2
  refine run_recognised (inboundWasAlreadyProcessed_iff.2 ⟨key, same.trans looked, event, ?_, own.trans (kept.2.1.trans looked)⟩)
  rw [since, last, pushSystemEvent_eq]
  exact mem_foldl_slide events event few

omit [ServerHost] in
theorem note_redelivered :
    letI := ServerHost.blank
    letI w₁ := ((processReticulumdInboundEnvelope (noteOf "m1" "hello")).run (.atEpoch {})).2
    letI w₂ := inboundRun [.messages "hub" (.object [("messages", .array [])])] w₁
    (∃ recorded : List SystemEventRecord, w₂.state.systemEvents = recorded.foldl pushSystemEvent w₁.state.systemEvents) ∧
      ∀ recorded : List SystemEventRecord, w₂.state.systemEvents = recorded.foldl pushSystemEvent w₁.state.systemEvents →
        recorded.length < 200 → ∀ again : ProtocolEnvelope, again.key = (noteOf "m1" "hello").key →
          (processReticulumdInboundEnvelope again).run w₂ = (.ok (), w₂) :=
  letI := ServerHost.blank
  redelivery_ignored (noteOf "m1" "hello") (.atEpoch {}) (by decide +kernel) (by decide +kernel) (by decide +kernel)
    [.messages "hub" (.object [("messages", .array [])])]

-- A key with a blank at its end is recorded as it came and looked up without it: the message is
-- kept twice.
example :
    letI := ServerHost.blank
    letI w := ((processReticulumdInboundEnvelope (noteOf "m1 " "hello")).run (.atEpoch {})).2
    ((processReticulumdInboundEnvelope (noteOf "m1 " "hello")).run w).2.state.messages.length = 2 := by
  decide +kernel

end TelemetryHub
