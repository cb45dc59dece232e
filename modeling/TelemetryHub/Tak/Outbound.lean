import TelemetryHub.Server.Delivery
import TelemetryHub.Tak.Built

/-!
# The outbound queue of the TAK service

A payload is put at the end of a bounded queue, and the queue is sent from its front until
the sender refuses one. The service counts what it sent.
-/

namespace TelemetryHub

/-- `TakConnectorError`. -/
inductive TakConnectorError where
  | emptyChatContent
  | queueFull
  | unsupportedScheme (scheme : String)
  | invalidCotUrl (url : String)
  | send (reason : String)
  | serviceStopped
  | worker (reason : String)
  deriving DecidableEq

/-- `TakConnectorError::to_string`. -/
def TakConnectorError.text : TakConnectorError → String
  | emptyChatContent => "chat content is required to build a CoT event"
  | queueFull => "TAK outbound queue is full"
  | unsupportedScheme scheme => "unsupported TAK COT URL scheme: " ++ scheme
  | invalidCotUrl url => "invalid TAK COT URL: " ++ url
  | send reason => "TAK send failed: " ++ reason
  | serviceStopped => "TAK service is not running"
  | worker reason => "TAK worker lifecycle failed: " ++ reason

/-- `CotPayloadKind`. -/
inductive CotPayloadKind where
  | location | chat | ping | keepalive
  deriving DecidableEq

/-- `CotPayload`. -/
structure CotPayload where
  kind : CotPayloadKind
  xml : String
  deriving DecidableEq

/-! ## The queue -/

/-- `TakOutboundQueue`; the front of the queue is the head of the list. -/
structure TakOutboundQueue where
  capacity : Nat
  pending : List CotPayload
  enqueued : Nat
  droppedFull : Nat

namespace TakOutboundQueue

/-- `TakOutboundQueue::new`. -/
def new (capacity : Nat) : TakOutboundQueue := { capacity, pending := [], enqueued := 0, droppedFull := 0 }

variable (queue : TakOutboundQueue)

/-- `TakOutboundQueue::push`. -/
def push (payload : CotPayload) : Except TakConnectorError Unit × TakOutboundQueue :=
  if queue.capacity ≤ queue.pending.length then
    (.error .queueFull, { queue with droppedFull := saturatingAddU64 queue.droppedFull 1 })
  else
    (.ok (), { queue with pending := queue.pending ++ [payload], enqueued := saturatingAddU64 queue.enqueued 1 })

/-- A push of what was built; there is none where the builder panics. -/
def pushBuilt (kind : CotPayloadKind) (built : Option String) : Option (Except TakConnectorError Unit × TakOutboundQueue) :=
  built.map fun xml => queue.push { kind, xml }

section Enqueue

variable {F : Type} [TakHost F] (connector : TakConnectionConfig F)

/-- `TakOutboundQueue::enqueue_location`. -/
def enqueueLocation (snapshot : LocationSnapshot F) (now : DateTimeUtc) (identityLabel : Option String) :=
  queue.pushBuilt .location (connector.buildLocationXml snapshot now identityLabel)

/-- `TakOutboundQueue::enqueue_chat`; `build_chat_xml` fails on blank content. -/
def enqueueChat (input : ChatEventInput) (fresh : Uuid) :=
  if (trim input.content).isEmpty then some (.error .emptyChatContent, queue)
  else queue.pushBuilt .chat (connector.buildChatXml input fresh)

/-- `TakOutboundQueue::enqueue_ping`. -/
def enqueuePing (now : DateTimeUtc) := queue.pushBuilt .ping (connector.buildPingXml now)

/-- `TakOutboundQueue::enqueue_keepalive`. -/
def enqueueKeepalive (now : DateTimeUtc) := queue.pushBuilt .keepalive (buildKeepaliveXml now)

/-- The enqueueing of an event, by its kind. -/
def enqueueEvent : BuiltEvent F → Option (Except TakConnectorError Unit × TakOutboundQueue)
  | .location snapshot now identityLabel => queue.enqueueLocation connector snapshot now identityLabel
  | .chat input fresh => queue.enqueueChat connector input fresh
  | .ping now => queue.enqueuePing connector now
  | .keepalive now => queue.enqueueKeepalive now

end Enqueue

end TakOutboundQueue

/-- `TakCotSender::send`, in one drain: what it answers to a payload after so many before. -/
abbrev TakCotSender := Nat → CotPayload → Except TakConnectorError Unit

/-- How a drain ends: with the number sent or an error, the payloads the sender took, and
those still pending. -/
structure Drained where
  result : Except TakConnectorError Nat
  taken : List CotPayload
  pending : List CotPayload

/-- The loop of `drain_queue_to_sender`, after so many sent. -/
def drainFrom (sender : TakCotSender) (sent : Nat) : List CotPayload → Drained
  | [] => { result := .ok sent, taken := [], pending := [] }
  | payload :: pending =>
    match sender sent payload with
    | .error error => { result := .error error, taken := [], pending := payload :: pending }
    | .ok () =>
      let rest := drainFrom sender (sent + 1) pending
      { rest with taken := payload :: rest.taken }

/-- `drain_queue_to_sender`. -/
def drainQueueToSender (queue : TakOutboundQueue) (sender : TakCotSender) : Drained := drainFrom sender 0 queue.pending

/-! ## The service -/

/-- `TakServiceState`. -/
inductive TakServiceState where
  | stopped | running
  deriving DecidableEq

/-- `TakService`, and `TakServiceStatus` of it. -/
structure TakService where
  queue : TakOutboundQueue
  state : TakServiceState
  totalSent : Nat
  totalFailed : Nat
  lastError : Option String

/-- `TakServiceDispatchReport`. -/
structure TakServiceDispatchReport where
  enqueued : Bool
  sent : Nat
  status : TakService
  error : Option String

namespace TakService

/-- `TakService::new`. -/
def new (queueCapacity : Nat) : TakService :=
  { queue := .new (max queueCapacity 1), state := .stopped, totalSent := 0, totalFailed := 0, lastError := none }

variable (service : TakService)

/-- The service after an error. -/
def failed (error : TakConnectorError) : TakService :=
  { service with totalFailed := saturatingAddU64 service.totalFailed 1, lastError := some error.text }

/-- `flush_after_enqueue`, with the payloads the sender took. -/
def flushAfterEnqueue (sender : TakCotSender) (enqueueResult : Except TakConnectorError Unit) :
    TakServiceDispatchReport × TakService × List CotPayload :=
  match enqueueResult with
  | .error error =>
    let service := service.failed error
    ({ enqueued := false, sent := 0, status := service, error := some error.text }, service, [])
  | .ok () =>
    let drained := drainQueueToSender service.queue sender
    let service := { service with queue := { service.queue with pending := drained.pending } }
    match drained.result with
    | .ok sent =>
      let service := { service with totalSent := saturatingAddU64 service.totalSent sent, lastError := none }
      ({ enqueued := true, sent, status := service, error := none }, service, drained.taken)
    | .error error =>
      let service := service.failed error
      ({ enqueued := true, sent := 0, status := service, error := some error.text }, service, drained.taken)

end TakService

/-! ## Operations -/

/-- An operation on the service, and how the sender answers in it. -/
inductive TakOperation (F : Type) where
  | enqueue (event : BuiltEvent F) (sender : TakCotSender)
  | flushOnce (sender : TakCotSender)
  | start
  | stop

/-- The service, the payloads its queue accepted, and those its sender took. -/
structure TakWorld where
  service : TakService
  accepted : List CotPayload
  delivered : List CotPayload

namespace TakWorld

/-- A service that is created. -/
def new (queueCapacity : Nat) : TakWorld := { service := .new queueCapacity, accepted := [], delivered := [] }

/-- A flush after an enqueueing that left this queue: what stands behind the payloads that
were pending has been accepted. -/
def flush (w : TakWorld) (queue : TakOutboundQueue) (sender : TakCotSender) (enqueueResult : Except TakConnectorError Unit) :
    TakWorld :=
  let (_, service, taken) := { w.service with queue }.flushAfterEnqueue sender enqueueResult
  { service, accepted := w.accepted ++ queue.pending.drop w.service.queue.pending.length, delivered := w.delivered ++ taken }

variable {F : Type} [TakHost F] (connector : TakConnectionConfig F)

/-- An operation. A service that is not running refuses to enqueue and to flush; a builder
that panics leaves everything as it is. -/
def perform (w : TakWorld) : TakOperation F → TakWorld
  | .start => { w with service := { w.service with state := .running } }
  | .stop => { w with service := { w.service with state := .stopped } }
  | .flushOnce sender => if w.service.state = .running then w.flush w.service.queue sender (.ok ()) else w
  | .enqueue event sender =>
    if w.service.state = .running then
      match w.service.queue.enqueueEvent connector event with
      | some (enqueueResult, queue) => w.flush queue sender enqueueResult
      | none => w
    else w

/-- What the drain of an operation sends, and how it is answered. -/
def drains (w : TakWorld) : TakOperation F → Option (TakCotSender × List CotPayload)
  | .start => none
  | .stop => none
  | .flushOnce sender => if w.service.state = .running then some (sender, w.service.queue.pending) else none
  | .enqueue event sender =>
    if w.service.state = .running then
      match w.service.queue.enqueueEvent connector event with
      | some (.ok (), queue) => some (sender, queue.pending)
      | _ => none
    else none

/-- A run of operations on a service that is created. -/
def run (queueCapacity : Nat) (operations : List (TakOperation F)) : TakWorld :=
  operations.foldl (perform connector) (.new queueCapacity)

theorem run_append (queueCapacity : Nat) (operations : List (TakOperation F)) (operation : TakOperation F) :
    run connector queueCapacity (operations ++ [operation]) = (run connector queueCapacity operations).perform connector operation := by
  simp [run]

end TakWorld

/-! ## What a drain does -/

/-- The sender refuses the payload at an index. -/
def Refuses (sender : TakCotSender) (sent : Nat) (pending : List CotPayload) (index : Nat) : Prop :=
  ∃ payload error, pending[index]? = some payload ∧ sender (sent + index) payload = .error error

section Drain

variable (sender : TakCotSender) (sent : Nat) (pending : List CotPayload)

theorem drainFrom_split : (drainFrom sender sent pending).taken ++ (drainFrom sender sent pending).pending = pending := by
  induction pending generalizing sent with
  | nil => rfl
  | cons payload pending ih =>
    rw [drainFrom]
    split
    · rfl
    · simp [ih]

theorem drainFrom_sent {count : Nat} (done : (drainFrom sender sent pending).result = .ok count) :
    count = sent + (drainFrom sender sent pending).taken.length := by
  induction pending generalizing sent with
  | nil =>
    obtain rfl := Except.ok.inj done
    rfl
  | cons payload pending ih =>
    rw [drainFrom] at done ⊢
    split at done
    · cases done
    · have counted := ih (sent + 1) done
      simp only [List.length_cons]
      omega

/-- A drain fails where a payload is refused. -/
theorem drainFrom_fails : (∃ error, (drainFrom sender sent pending).result = .error error) ↔
    ∃ index, Refuses sender sent pending index := by
  induction pending generalizing sent with
  | nil => simp [drainFrom, Refuses]
  | cons payload pending ih =>
    rw [drainFrom]
    cases answer : sender sent payload with
    | error error =>
      simp only [Except.error.injEq, exists_eq', true_iff]
      exact ⟨0, payload, error, rfl, answer⟩
    | ok =>
      simp only [ih (sent + 1)]
      constructor
      · rintro ⟨index, other, error, found, refused⟩
        exact ⟨index + 1, other, error, found, by rwa [← Nat.add_assoc, Nat.add_right_comm]⟩
      · rintro ⟨index, other, error, found, refused⟩
        cases index with
        | zero =>
          obtain rfl := Option.some.inj found
          simp [answer] at refused
        | succ index => exact ⟨index, other, error, found, by rwa [Nat.add_right_comm, Nat.add_assoc]⟩

/-- A drain that fails has sent nothing where it is the first payload that is refused. -/
theorem drainFrom_taken_nil : (drainFrom sender sent pending).taken = [] ↔ pending = [] ∨ Refuses sender sent pending 0 := by
  cases pending with
  | nil => simp [drainFrom]
  | cons payload pending =>
    rw [drainFrom]
    cases answer : sender sent payload <;> simp [Refuses, answer]

end Drain

/-! ## What an operation does -/

/-- What enqueueing does to the queue: the payloads added stand at its end, and it is not
filled beyond its capacity. -/
structure Pushed (queue queue' : TakOutboundQueue) (added : List CotPayload) : Prop where
  pending : queue'.pending = queue.pending ++ added
  capacity : queue'.capacity = queue.capacity
  bounded : queue.pending.length ≤ queue.capacity → queue'.pending.length ≤ queue'.capacity
  enqueued : ∀ accepted, queue.enqueued = min accepted (2 ^ 64 - 1) → queue'.enqueued = min (accepted + added.length) (2 ^ 64 - 1)

theorem Pushed.none {queue queue' : TakOutboundQueue} (pending : queue'.pending = queue.pending)
    (capacity : queue'.capacity = queue.capacity) (enqueued : queue'.enqueued = queue.enqueued) : Pushed queue queue' [] where
  pending := by simp [pending]
  capacity := capacity
  bounded := by simp [pending, capacity]
  enqueued accepted counted := by simp [enqueued, counted]

theorem push_pushed (queue : TakOutboundQueue) (payload : CotPayload) :
    ∃ added, Pushed queue (queue.push payload).2 added ∧ ((queue.push payload).1 = .ok () ∨ added = []) := by
  unfold TakOutboundQueue.push
  split
  · exact ⟨[], .none rfl rfl rfl, .inr rfl⟩
  · next room =>
    refine ⟨[payload], ⟨rfl, rfl, fun _ => ?_, fun accepted counted => ?_⟩, .inl rfl⟩
    · simp only [List.length_append, List.length_singleton]
      omega
    · simp only [saturatingAddU64, counted, List.length_singleton]
      omega

variable {F : Type} [TakHost F] {connector : TakConnectionConfig F} {w : TakWorld}

theorem enqueueEvent_pushed {queue queue' : TakOutboundQueue} {event : BuiltEvent F} {result : Except TakConnectorError Unit}
    (run : queue.enqueueEvent connector event = some (result, queue')) :
    ∃ added, Pushed queue queue' added ∧ (result = .ok () ∨ added = []) := by
  have built : ∀ kind xml, queue.pushBuilt kind xml = some (result, queue') →
      ∃ added, Pushed queue queue' added ∧ (result = .ok () ∨ added = []) := by
    intro kind xml run
    obtain ⟨text, -, pushed⟩ := Option.map_eq_some_iff.1 run
    have spec := push_pushed queue { kind, xml := text }
    rwa [pushed] at spec
  cases event with
  | location snapshot now identityLabel => exact built _ _ run
  | chat input fresh =>
    simp only [TakOutboundQueue.enqueueEvent, TakOutboundQueue.enqueueChat] at run
    split at run
    · obtain ⟨rfl, rfl⟩ := Prod.mk.inj (Option.some.inj run)
      exact ⟨[], .none rfl rfl rfl, .inr rfl⟩
    · exact built _ _ run
  | ping now => exact built _ _ run
  | keepalive now => exact built _ _ run

/-- The number a drain is counted with. -/
def Drained.counted (drained : Drained) : Nat :=
  match drained.result with
  | .ok sent => sent
  | .error _ => 0

/-- An operation that drains nothing leaves the payloads and their count; one that does adds
to the queue what was enqueued, and drains it. -/
inductive TakStep (w w' : TakWorld) : Option (TakCotSender × List CotPayload) → Prop
  | idle (queue : Pushed w.service.queue w'.service.queue []) (totalSent : w'.service.totalSent = w.service.totalSent)
    (accepted : w'.accepted = w.accepted) (delivered : w'.delivered = w.delivered) : TakStep w w' none
  | drained (sender : TakCotSender) (added : List CotPayload) (queue : TakOutboundQueue)
    (pushed : Pushed w.service.queue queue added)
    (left : w'.service.queue = { queue with pending := (drainQueueToSender queue sender).pending })
    (totalSent : w'.service.totalSent = saturatingAddU64 w.service.totalSent (drainQueueToSender queue sender).counted ∨
      (drainQueueToSender queue sender).counted = 0 ∧ w'.service.totalSent = w.service.totalSent)
    (accepted : w'.accepted = w.accepted ++ added)
    (delivered : w'.delivered = w.delivered ++ (drainQueueToSender queue sender).taken) :
    TakStep w w' (some (sender, queue.pending))

theorem TakStep.flush {queue : TakOutboundQueue} {added : List CotPayload} (pushed : Pushed w.service.queue queue added)
    (sender : TakCotSender) : TakStep w (w.flush queue sender (.ok ())) (some (sender, queue.pending)) := by
  have behind : queue.pending.drop w.service.queue.pending.length = added := by simp [pushed.pending]
  unfold TakWorld.flush TakService.flushAfterEnqueue
  simp only [behind]
  cases result : (drainQueueToSender queue sender).result with
  | ok sent => exact .drained sender added queue pushed rfl (.inl (by simp [Drained.counted, result])) rfl rfl
  | error error => exact .drained sender added queue pushed rfl (.inr ⟨by simp [Drained.counted, result], rfl⟩) rfl rfl

theorem TakStep.refused {queue : TakOutboundQueue} (pushed : Pushed w.service.queue queue []) (sender : TakCotSender)
    (error : TakConnectorError) : TakStep w (w.flush queue sender (.error error)) none := by
  have same := pushed.pending
  refine .idle pushed rfl ?_ ?_
  · simp [TakWorld.flush, same]
  · simp [TakWorld.flush, TakService.flushAfterEnqueue]

theorem perform_step (connector : TakConnectionConfig F) (w : TakWorld) (operation : TakOperation F) :
    TakStep w (w.perform connector operation) (w.drains connector operation) := by
  have still : TakStep w w none := .idle (.none rfl rfl rfl) rfl rfl rfl
  cases operation with
  | start => exact .idle (.none rfl rfl rfl) rfl rfl rfl
  | stop => exact .idle (.none rfl rfl rfl) rfl rfl rfl
  | flushOnce sender =>
    by_cases running : w.service.state = .running
    · simp only [TakWorld.perform, TakWorld.drains, if_pos running]
      exact .flush (.none rfl rfl rfl) sender
    · simp only [TakWorld.perform, TakWorld.drains, if_neg running]
      exact still
  | enqueue event sender =>
    by_cases running : w.service.state = .running
    · simp only [TakWorld.perform, TakWorld.drains, if_pos running]
      cases run : w.service.queue.enqueueEvent connector event with
      | none => exact still
      | some result =>
        obtain ⟨result, queue⟩ := result
        obtain ⟨added, pushed, accepted⟩ := enqueueEvent_pushed run
        cases result with
        | ok => exact .flush pushed sender
        | error error =>
          obtain rfl : added = [] := accepted.resolve_left nofun
          exact .refused pushed sender error
    · simp only [TakWorld.perform, TakWorld.drains, if_neg running]
      exact still

/-! ## Accounting -/

/-- What holds of a service whatever its sender answers: what was delivered is followed by
what is pending, together they are what was accepted, in order, and the queue is within its
capacity. -/
structure TakKept (queueCapacity : Nat) (w : TakWorld) : Prop where
  ordered : w.delivered ++ w.service.queue.pending = w.accepted
  capacity : w.service.queue.capacity = max queueCapacity 1
  bounded : w.service.queue.pending.length ≤ w.service.queue.capacity
  enqueued : w.service.queue.enqueued = min w.accepted.length (2 ^ 64 - 1)
  counted : w.service.totalSent ≤ w.delivered.length

theorem TakStep.kept {w' : TakWorld} {queueCapacity : Nat} {drain : Option (TakCotSender × List CotPayload)}
    (h : TakStep w w' drain) (kept : TakKept queueCapacity w) : TakKept queueCapacity w' := by
  cases h with
  | idle queue totalSent accepted delivered =>
    refine ⟨?_, by rw [queue.capacity, kept.capacity], queue.bounded kept.bounded, ?_, ?_⟩
    · rw [delivered, accepted, queue.pending, List.append_nil, kept.ordered]
    · rw [queue.enqueued _ kept.enqueued, accepted, List.length_nil, Nat.add_zero]
    · rw [totalSent, delivered]
      exact kept.counted
  | drained sender added queue pushed left totalSent accepted delivered =>
    have split := drainFrom_split sender 0 queue.pending
    have sized := congrArg List.length split
    have within := pushed.bounded kept.bounded
    have counted : (drainQueueToSender queue sender).counted ≤ (drainQueueToSender queue sender).taken.length := by
      unfold Drained.counted
      split
      · next sent done =>
        have exactly := drainFrom_sent sender 0 queue.pending done
        rw [exactly, Nat.zero_add]
        exact Nat.le_refl _
      · exact Nat.zero_le _
    refine ⟨?_, ?_, ?_, ?_, ?_⟩
    · rw [left, delivered, accepted, ← kept.ordered, List.append_assoc, List.append_assoc, ← pushed.pending]
      exact congrArg (w.delivered ++ ·) split
    · rw [left, pushed.capacity, kept.capacity]
    · simp only [left]
      rw [List.length_append] at sized
      exact Nat.le_trans (by unfold drainQueueToSender; omega) within
    · rw [left, pushed.enqueued _ kept.enqueued, accepted, List.length_append]
    · have before := kept.counted
      rw [delivered, List.length_append]
      unfold saturatingAddU64 at totalSent
      omega

variable (connector) in
/-- What holds of every run. -/
theorem run_kept (queueCapacity : Nat) (operations : List (TakOperation F)) :
    TakKept queueCapacity (TakWorld.run connector queueCapacity operations) := by
  induction operations using List.reverseRecOn with
  | nil => exact ⟨rfl, rfl, Nat.zero_le _, rfl, Nat.le_refl _⟩
  | append_singleton operations operation ih =>
    rw [TakWorld.run_append]
    exact (perform_step connector _ operation).kept ih

/-- The claim on the accounting of a state: the payloads accepted are those counted as sent
and those pending, and of the accepted the sender took the first ones, in order; the queue
is within its capacity. -/
structure Accounts (queueCapacity : Nat) (w : TakWorld) : Prop where
  counted : w.service.queue.enqueued = w.service.totalSent + w.service.queue.pending.length
  accepted : w.accepted.length = w.service.totalSent + w.service.queue.pending.length
  ordered : w.delivered ++ w.service.queue.pending = w.accepted
  bounded : w.service.queue.pending.length ≤ max queueCapacity 1

/-- If the drain of the operation fails, it fails at its first payload. -/
def FailsFirst (connector : TakConnectionConfig F) (w : TakWorld) (operation : TakOperation F) : Prop :=
  ∀ sender pending, w.drains connector operation = some (sender, pending) →
    (∃ index, Refuses sender 0 pending index) → Refuses sender 0 pending 0

/-- Below saturation the accounting holds where the count of the sent does. -/
theorem TakKept.accounts_iff {queueCapacity : Nat} (kept : TakKept queueCapacity w) (below : w.accepted.length < 2 ^ 64) :
    Accounts queueCapacity w ↔ w.service.totalSent = w.delivered.length := by
  have sized := congrArg List.length kept.ordered
  have enqueued := kept.enqueued
  have bounded := kept.bounded
  rw [List.length_append] at sized
  rw [kept.capacity] at bounded
  constructor
  · intro accounts
    have accepted := accounts.accepted
    omega
  · intro same
    exact ⟨by omega, by omega, kept.ordered, bounded⟩

theorem TakStep.counts_iff {w' : TakWorld} {queueCapacity : Nat} {drain : Option (TakCotSender × List CotPayload)}
    (h : TakStep w w' drain) (kept : TakKept queueCapacity w) (below : w'.accepted.length < 2 ^ 64)
    (counts : w.service.totalSent = w.delivered.length) :
    w'.service.totalSent = w'.delivered.length ↔ ∀ sender pending, drain = some (sender, pending) →
      (∃ index, Refuses sender 0 pending index) → Refuses sender 0 pending 0 := by
  have kept' := h.kept kept
  cases h with
  | idle queue totalSent accepted delivered => simp [totalSent, delivered, counts]
  | drained sender added queue pushed left totalSent accepted delivered =>
    have sized := congrArg List.length kept'.ordered
    have bounded := kept'.counted
    have fails := drainFrom_fails sender 0 queue.pending
    have taken := drainFrom_taken_nil sender 0 queue.pending
    have only : (∀ sender' pending', some (sender, queue.pending) = some (sender', pending') →
        (∃ index, Refuses sender' 0 pending' index) → Refuses sender' 0 pending' 0) ↔
        ((∃ index, Refuses sender 0 queue.pending index) → Refuses sender 0 queue.pending 0) := by
      constructor
      · exact fun h => h _ _ rfl
      · rintro h _ _ ⟨⟩
        exact h
    rw [only]
    rw [List.length_append] at sized
    rw [delivered, List.length_append] at bounded sized ⊢
    unfold drainQueueToSender saturatingAddU64 at *
    cases result : (drainFrom sender 0 queue.pending).result with
    | ok sent =>
      have exactly := drainFrom_sent sender 0 queue.pending result
      have all : (drainFrom sender 0 queue.pending).counted = sent := by simp [Drained.counted, result]
      have none : ¬∃ index, Refuses sender 0 queue.pending index := by
        rw [← fails, result]
        simp
      simp only [none, false_implies, iff_true]
      omega
    | error error =>
      have nothing : (drainFrom sender 0 queue.pending).counted = 0 := by simp [Drained.counted, result]
      have some_ : ∃ index, Refuses sender 0 queue.pending index := fails.1 ⟨error, result⟩
      have nonempty : queue.pending ≠ [] := by
        obtain ⟨index, payload, error, found, -⟩ := some_
        rintro empty
        simp [empty] at found
      simp only [some_, true_implies]
      rw [or_iff_right nonempty] at taken
      rw [← taken, ← List.length_eq_zero_iff]
      omega

theorem TakStep.accepted_le {w' : TakWorld} {drain : Option (TakCotSender × List CotPayload)} (h : TakStep w w' drain) :
    w.accepted.length ≤ w'.accepted.length := by
  cases h with
  | idle _ _ accepted => rw [accepted]
  | drained _ _ _ _ _ _ accepted =>
    rw [accepted, List.length_append]
    omega

theorem accepted_length_le (connector : TakConnectionConfig F) (queueCapacity : Nat) (before behind : List (TakOperation F)) :
    (TakWorld.run connector queueCapacity before).accepted.length ≤
      (TakWorld.run connector queueCapacity (before ++ behind)).accepted.length := by
  induction behind using List.reverseRecOn with
  | nil => simp
  | append_singleton behind operation ih =>
    rw [← List.append_assoc, TakWorld.run_append]
    exact Nat.le_trans ih (perform_step connector _ operation).accepted_le

/-- While the counters are below saturation the accounting is right in every state of a run
exactly if every drain that fails fails at its first payload. -/
theorem tak_accounting_iff (connector : TakConnectionConfig F) (queueCapacity : Nat) (operations : List (TakOperation F))
    (below : (TakWorld.run connector queueCapacity operations).accepted.length < 2 ^ 64) :
    (∀ before, before <+: operations → Accounts queueCapacity (TakWorld.run connector queueCapacity before)) ↔
      ∀ before operation, before ++ [operation] <+: operations →
        FailsFirst connector (TakWorld.run connector queueCapacity before) operation := by
  have within : ∀ before, before <+: operations → (TakWorld.run connector queueCapacity before).accepted.length < 2 ^ 64 := by
    rintro before ⟨behind, rfl⟩
    exact Nat.lt_of_le_of_lt (accepted_length_le connector queueCapacity before behind) below
  have counts : ∀ before, before <+: operations → (Accounts queueCapacity (TakWorld.run connector queueCapacity before) ↔
      (TakWorld.run connector queueCapacity before).service.totalSent =
        (TakWorld.run connector queueCapacity before).delivered.length) :=
    fun before h => (run_kept connector queueCapacity before).accounts_iff (within before h)
  have step : ∀ before operation, before ++ [operation] <+: operations →
      (TakWorld.run connector queueCapacity before).service.totalSent =
        (TakWorld.run connector queueCapacity before).delivered.length →
      ((TakWorld.run connector queueCapacity (before ++ [operation])).service.totalSent =
        (TakWorld.run connector queueCapacity (before ++ [operation])).delivered.length ↔
        FailsFirst connector (TakWorld.run connector queueCapacity before) operation) := by
    intro before operation h same
    have below := within _ h
    rw [TakWorld.run_append] at below ⊢
    exact (perform_step connector _ operation).counts_iff (run_kept connector queueCapacity before) below same
  constructor
  · intro holds before operation h
    have earlier : before <+: operations := (List.prefix_append before [operation]).trans h
    exact (step before operation h ((counts before earlier).1 (holds before earlier))).1 ((counts _ h).1 (holds _ h))
  · intro first before h
    rw [counts before h]
    induction before using List.reverseRecOn with
    | nil => rfl
    | append_singleton before operation ih =>
      have earlier : before <+: operations := (List.prefix_append before [operation]).trans h
      exact (step before operation h (ih earlier)).2 (first before operation h)

/-- A connector as it is configured by default. -/
def sampleConnector : TakConnectionConfig Int := { cotUrl := "tcp://127.0.0.1:8087", callsign := "RetTAK", pollIntervalSeconds := 30 }

/-- A sender that takes so many payloads in a drain, and no more. -/
def takes (count : Nat) : TakCotSender := fun sent _ => if sent < count then .ok () else .error (.send "offline")

/-- Two keepalives, sent at once. -/
def sampleOperations : List (TakOperation Int) :=
  [.start, .enqueue (.keepalive sampleTime) (takes 1), .enqueue (.keepalive sampleTime) (takes 1)]

theorem sample_accounting :
    (∀ before, before <+: sampleOperations → Accounts 4 (TakWorld.run sampleConnector 4 before)) ↔
      ∀ before operation, before ++ [operation] <+: sampleOperations →
        FailsFirst sampleConnector (TakWorld.run sampleConnector 4 before) operation :=
  tak_accounting_iff sampleConnector 4 sampleOperations (by decide +kernel)

/-- A keepalive that is refused and, behind it, one that is refused when the first is taken:
one payload is sent and none counted. -/
theorem failed_drain_uncounted :
    let w := TakWorld.run sampleConnector 4
      [.start, .enqueue (.keepalive sampleTime) (takes 0), .enqueue (.keepalive sampleTime) (takes 1)]
    w.accepted.length = 2 ∧ w.delivered.length = 1 ∧ w.service.queue.pending.length = 1 ∧ w.service.totalSent = 0 ∧
      ¬Accounts 4 w := by
  intro w
  have accepted : w.accepted.length = 2 := by decide +kernel
  have pending : w.service.queue.pending.length = 1 := by decide +kernel
  have sent : w.service.totalSent = 0 := by decide +kernel
  refine ⟨accepted, by decide +kernel, pending, sent, ?_⟩
  intro accounts
  have counted := accounts.accepted
  omega

end TelemetryHub
