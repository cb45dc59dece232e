import TelemetryHub.Server.Callbacks
import TelemetryHub.Server.Logic

/-!
# Which message a callback touches

A callback rewrites one message or none. A run of callbacks keeps delivered
messages delivered and inbound records as they are when each finds an outbound
message that still waits for it; a callback that finds another writes over it all
the same.
-/

namespace TelemetryHub

open Lib ServerM

/-! ## One callback -/

/-- The message a callback writes to. -/
def DeliveryCallback.target (messages : List OutboundMessageRecord) :
    DeliveryCallback → Option OutboundMessageRecord
  | receipt messageId destination _ | retry messageId destination .. =>
    messages.find? (callbackMatches messageId destination deliveryReceiptPending)
  | failure messageId destination _ =>
    (messages.find? (callbackMatches messageId destination deliveryReceiptPending)).bind fun message =>
      messages.find? (·.messageId == message.messageId)
  | propagation messageId destination .. | drop messageId destination _ | attempt messageId destination .. =>
    messages.find? (callbackMatches messageId destination fun _ => true)

/-- The message has been delivered, or accepted for propagation. -/
def Settled (message : OutboundMessageRecord) : Prop :=
  message.deliveryState = "delivered" ∨ message.deliveryState = "propagated"

/-- The record of a message that came in. -/
def ReceivedInbound (message : OutboundMessageRecord) : Prop := message.deliveryState = "received"

/-- The callback reports a receipt. -/
def DeliveryCallback.isReceipt : DeliveryCallback → Bool
  | receipt .. => true
  | _ => false

/-- The message still waits for what the callback reports: a receipt, or for the
others that do not ask for a receipt, any outcome at all. -/
def DeliveryCallback.awaitedBy (callback : DeliveryCallback) (message : OutboundMessageRecord) : Prop :=
  match callback with
  | receipt .. | failure .. | retry .. => deliveryReceiptPending message = true
  | propagation .. | drop .. | attempt .. =>
    normalizedDeliveryState message = "queued" ∨ deliveryReceiptPending message = true

instance : DecidablePred Settled := fun _ => inferInstanceAs (Decidable (_ ∨ _))

instance : DecidablePred ReceivedInbound := fun message =>
  inferInstanceAs (Decidable (message.deliveryState = "received"))

instance (callback : DeliveryCallback) (message : OutboundMessageRecord) :
    Decidable (callback.awaitedBy message) :=
  match callback with
  | .receipt .. | .failure .. | .retry .. => inferInstanceAs (Decidable (_ = true))
  | .propagation .. | .drop .. | .attempt .. => inferInstanceAs (Decidable (_ ∨ _))

/-- What a callback does to the messages: its target is rewritten, and a receipt
settles it. -/
def DeliveryCallback.Touches (callback : DeliveryCallback) (messages messages' : List OutboundMessageRecord) :
    Prop :=
  List.Forall₂ (fun a b => b = a ∨ callback.target messages = some a ∧ (callback.isReceipt → Settled b))
    messages messages'

theorem DeliveryCallback.touches_refl (callback : DeliveryCallback) (messages : List OutboundMessageRecord) :
    callback.Touches messages messages := forall₂_refl_of (fun _ => .inl rfl) messages

/-- The first match of `matching` is the target, and it is rewritten by `f`. -/
theorem DeliveryCallback.touches_replaceFirst {callback : DeliveryCallback}
    {messages : List OutboundMessageRecord} {matching : OutboundMessageRecord → Bool}
    {f : OutboundMessageRecord → OutboundMessageRecord}
    (htarget : messages.find? matching = callback.target messages)
    (hf : callback.isReceipt → ∀ a, Settled (f a)) :
    callback.Touches messages (replaceFirst matching f messages) := by
  refine (forall₂_replaceFirst matching f messages).imp fun a b h => ?_
  obtain rfl | ⟨hfound, rfl⟩ := h
  · exact .inl rfl
  · exact .inr ⟨htarget ▸ hfound, fun hreceipt => hf hreceipt a⟩

/-- The messages after a rewrite of the first match, on either exit. -/
theorem rewriteMatching_spec (matching : OutboundMessageRecord → Bool) (notFound : String)
    (f : OutboundMessageRecord → OutboundMessageRecord) (messages : List OutboundMessageRecord) :
    Spec AppState.messages (rewriteMatching matching notFound f) messages fun _ messages' =>
      messages' = replaceFirst matching f messages := by
  refine Spec.read fun s hs => ?_
  subst hs
  refine Proc.Spec.require (fun found hfound => ?_) fun hnone => (replaceFirst_of_none hnone).symm
  refine Spec.write (fun s' hs' => by rw [hs']) ?_
  exact Spec.after (.persistOutboundMessageRow messages_blindToStore _) (fun _ => Proc.Spec.pure rfl)
    fun _ => rfl

/-- A rewrite of the first match, and what is recorded of it. -/
theorem rewriteThen_spec {matching : OutboundMessageRecord → Bool} {notFound : String}
    {f : OutboundMessageRecord → OutboundMessageRecord} {messages : List OutboundMessageRecord}
    {k : OutboundMessageRecord → ServerM CallbackResponse}
    (hk : ∀ message, Keeps AppState.messages (k message)) :
    Spec AppState.messages (rewriteMatching matching notFound f >>= k) messages fun _ messages' =>
      messages' = replaceFirst matching f messages := by
  refine Proc.Spec.bind (rewriteMatching_spec matching notFound f messages) (fun message t ht => ?_)
    fun _ t ht => ht
  subst ht
  exact hk message _

theorem recordThen_keeps {eventType message : String} {metadata : Value}
    {k : SystemEventRecord → CallbackResponse} :
    Keeps AppState.messages (recordSystemEvent eventType message metadata >>= fun event => pure (k event)) :=
  .bind (.recordSystemEvent messages_blindToStore messages_blindToEvents _ _ _) fun _ => .pure _

theorem withMessage_spec (messageId : String) (f : OutboundMessageRecord → OutboundMessageRecord)
    (messages : List OutboundMessageRecord) :
    Spec AppState.messages (withMessage messageId f) messages fun r messages' =>
      messages' = replaceFirst (·.messageId == messageId) f messages ∧
        r = .ok ((messages.find? (·.messageId == messageId)).map f) := by
  apply Spec.read
  intro s hs
  subst hs
  have hwrite : ∀ s' : AppState, s'.messages = s.messages →
      replaceFirst (·.messageId == messageId) f s'.messages =
        replaceFirst (·.messageId == messageId) f s.messages := by
    intro s' hs'
    rw [hs']
  exact Spec.write hwrite (Proc.Spec.pure ⟨rfl, rfl⟩)

theorem persisted_keeps (message : Option OutboundMessageRecord) :
    Keeps AppState.messages (persisted message) := by
  cases message with
  | none => exact .pure _
  | some message => exact .bind (.persistOutboundMessageRow messages_blindToStore _) fun _ => .pure _

/-- The retry of a failed dispatch rewrites the first message of its id, or nothing
where it answers with none. -/
theorem scheduleOutboundRetryAfterFailure_spec (message : OutboundMessageRecord) (errorText : String)
    (messages : List OutboundMessageRecord) :
    Spec AppState.messages (scheduleOutboundRetryAfterFailure message errorText) messages fun r messages' =>
      (∃ f, messages' = replaceFirst (·.messageId == message.messageId) f messages) ∧
        (r = .ok none → messages' = messages) := by
  unfold scheduleOutboundRetryAfterFailure
  cases planOutboundRetry message errorText with
  | none =>
    apply Proc.Spec.pure
    exact ⟨⟨id, (replaceFirst_id _ _).symm⟩, fun _ => rfl⟩
  | some plan =>
    apply Spec.now
    intro nowMs
    apply Proc.Spec.bind (withMessage_spec message.messageId (plan.apply errorText nowMs) messages)
    · rintro found t ⟨ht, hr⟩
      subst ht
      have hfound := Except.ok.inj hr
      subst hfound
      cases hm : messages.find? (·.messageId == message.messageId) with
      | none =>
        apply Proc.Spec.pure
        exact ⟨⟨_, rfl⟩, fun _ => replaceFirst_of_none hm⟩
      | some m =>
        apply Proc.Spec.bind (Keeps.persistOutboundMessageRow messages_blindToStore _ _)
        · rintro - t' rfl
          apply Proc.Spec.pure
          exact ⟨⟨_, rfl⟩, fun h => nomatch Except.ok.inj h⟩
        · rintro e t' rfl
          exact ⟨⟨_, rfl⟩, fun h => nomatch h⟩
    · rintro e t ⟨ht, hr⟩
      exact ⟨⟨_, ht⟩, fun h => nomatch h⟩

/-- A failure rewrites the first message of the id of the one it finds. -/
theorem internalDeliveryFailure_spec (messageId destination reason : Option String)
    (messages : List OutboundMessageRecord) :
    Spec AppState.messages (internalDeliveryFailure messageId destination reason) messages fun _ messages' =>
      (DeliveryCallback.failure messageId destination reason).Touches messages messages' := by
  apply Spec.now
  intro nowMs
  apply Spec.read
  intro s hs
  subst hs
  apply Proc.Spec.require
  swap
  · intro _
    exact DeliveryCallback.touches_refl _ _
  intro message hmessage
  have htarget : s.messages.find? (·.messageId == message.messageId) =
      (DeliveryCallback.failure messageId destination reason).target s.messages := by
    show _ = (s.messages.find? _).bind _
    rw [hmessage, Option.bind_some]
  have htouch : ∀ f, (DeliveryCallback.failure messageId destination reason).Touches s.messages
      (replaceFirst (·.messageId == message.messageId) f s.messages) := by
    intro f
    apply DeliveryCallback.touches_replaceFirst htarget
    intro h
    cases h
  have hretry : Spec AppState.messages (retryFailedDelivery message (reasonOr reason "delivery_failed"))
      s.messages fun r messages' =>
        (∃ f, messages' = replaceFirst (·.messageId == message.messageId) f s.messages) ∧
          (r = .ok none → messages' = s.messages) := by
    unfold retryFailedDelivery
    apply Proc.Spec.ite
    · intro _
      exact scheduleOutboundRetryAfterFailure_spec _ _ _
    · intro _
      exact Proc.Spec.pure ⟨⟨id, (replaceFirst_id _ _).symm⟩, fun _ => rfl⟩
  apply Proc.Spec.bind hretry
  · rintro (_ | retryMessage) t ⟨⟨f, hf⟩, hnone⟩
    · have ht : t = s.messages := hnone rfl
      subst ht
      apply (rewriteThen_spec fun failed => recordThen_keeps).mono
      rintro _ t' rfl
      exact htouch _
    · subst hf
      apply (recordThen_keeps _).mono
      rintro _ t' rfl
      exact htouch f
  · rintro e t ⟨⟨f, hf⟩, -⟩
    subst hf
    exact htouch f

section Runs

variable [ServerHost]

/-- What any callback does to the messages. -/
theorem DeliveryCallback.handle_spec (callback : DeliveryCallback) (messages : List OutboundMessageRecord) :
    Spec AppState.messages callback.handle messages fun _ messages' => callback.Touches messages messages' := by
  cases callback with
  | receipt messageId destination acknowledgementType =>
    apply Spec.now
    intro nowMs
    apply (rewriteThen_spec fun message => recordThen_keeps).mono
    rintro _ t rfl
    apply touches_replaceFirst rfl
    intro _ a
    unfold Settled acknowledge
    by_cases h : reasonOr acknowledgementType "delivery_receipt" = "propagation_acceptance"
    · exact .inr (if_pos h)
    · exact .inl (if_neg h)
  | failure messageId destination reason => exact internalDeliveryFailure_spec _ _ _ _
  | retry messageId destination reason attempts nextAttemptAtTsMs =>
    apply Spec.now
    intro nowMs
    apply (rewriteThen_spec fun message => recordThen_keeps).mono
    rintro _ t rfl
    exact touches_replaceFirst rfl (fun h => nomatch h)
  | propagation messageId destination reason localFallback node attempts =>
    apply (rewriteThen_spec fun message => recordThen_keeps).mono
    rintro _ t rfl
    exact touches_replaceFirst rfl (fun h => nomatch h)
  | drop messageId destination reason =>
    apply (rewriteThen_spec fun message => recordThen_keeps).mono
    rintro _ t rfl
    exact touches_replaceFirst rfl (fun h => nomatch h)
  | attempt messageId destination attempts startedAtTsMs =>
    have hrest : ∀ nowMs, Spec AppState.messages
        (rewriteMatching (callbackMatches messageId destination fun _ => true)
          "Pending delivery attempt not found" (startReportedAttempt attempts nowMs) >>= fun message =>
            pure (CallbackResponse.mk "attempt_started" message none)) messages fun _ messages' =>
          (DeliveryCallback.attempt messageId destination attempts startedAtTsMs).Touches messages messages' := by
      intro nowMs
      apply (rewriteThen_spec fun message => Keeps.pure _).mono
      rintro _ t rfl
      exact touches_replaceFirst rfl (fun h => nomatch h)
    cases startedAtTsMs with
    | none => exact Spec.now hrest
    | some tsMs => exact hrest tsMs

/-! ## Runs of callbacks -/

/-- The world after a callback, whatever it answers. -/
def DeliveryCallback.step (callback : DeliveryCallback) (w : ServerWorld) : ServerWorld :=
  (callback.handle.run w).2

/-- The world after all of them. -/
def runCallbacks (w : ServerWorld) (callbacks : List DeliveryCallback) : ServerWorld :=
  callbacks.foldl (fun w callback => callback.step w) w

/-- A callback leaves settled messages and inbound records alone, and where it
names a destination only, it changes what goes there and waits for it. -/
def DeliveryCallback.Respects (callback : DeliveryCallback) (messages messages' : List OutboundMessageRecord) :
    Prop :=
  List.Forall₂ (fun a b =>
    (Settled a → b.deliveryState ≠ "queued" ∧ b.deliveryState ≠ "failed") ∧
    (ReceivedInbound a → b = a) ∧
    (callback.messageId = none → b ≠ a →
      callback.destination.isSome ∧ a.destination = callback.destination ∧ callback.awaitedBy a))
    messages messages'

/-- Every callback of the run does. -/
def RunRespects (w : ServerWorld) : List DeliveryCallback → Prop
  | [] => True
  | callback :: rest =>
    callback.Respects w.state.messages (callback.step w).state.messages ∧ RunRespects (callback.step w) rest

/-- The callback finds nothing, or an outbound message that it may change: one not
settled yet unless it is a receipt, and one that goes to the destination and waits
for it where no message is named. -/
def DeliveryCallback.Fits (callback : DeliveryCallback) (messages : List OutboundMessageRecord) : Prop :=
  ∀ message ∈ callback.target messages,
    ¬ReceivedInbound message ∧ (callback.isReceipt = true ∨ ¬Settled message) ∧
      (callback.messageId = none →
        callback.destination.isSome ∧ message.destination = callback.destination ∧ callback.awaitedBy message)

/-- Every callback of the run fits the messages it meets. -/
def RunFits (w : ServerWorld) : List DeliveryCallback → Prop
  | [] => True
  | callback :: rest => callback.Fits w.state.messages ∧ RunFits (callback.step w) rest

instance (callback : DeliveryCallback) (messages : List OutboundMessageRecord) :
    Decidable (callback.Fits messages) := inferInstanceAs (Decidable (∀ message ∈ callback.target messages, _))

instance decidableRunFits (w : ServerWorld) : (callbacks : List DeliveryCallback) → Decidable (RunFits w callbacks)
  | [] => inferInstanceAs (Decidable True)
  | callback :: rest =>
    have := decidableRunFits (callback.step w) rest
    inferInstanceAs (Decidable (_ ∧ _))

/-- Settled messages are settled, inbound records the same. -/
def Respected (messages messages' : List OutboundMessageRecord) : Prop :=
  List.Forall₂ (fun a b => (Settled a → Settled b) ∧ (ReceivedInbound a → b = a)) messages messages'

theorem DeliveryCallback.step_touches (callback : DeliveryCallback) (w : ServerWorld) :
    callback.Touches w.state.messages (callback.step w).state.messages :=
  (callback.handle_spec w.state.messages w rfl trivial).1

omit [ServerHost] in
theorem not_settled_states {message : OutboundMessageRecord} (h : Settled message) :
    message.deliveryState ≠ "queued" ∧ message.deliveryState ≠ "failed" := by
  obtain h | h := h <;> rw [h] <;> decide

omit [ServerHost] in
/-- A callback that fits respects what it meets. -/
theorem DeliveryCallback.respects_of_fits {callback : DeliveryCallback}
    {messages messages' : List OutboundMessageRecord} (fits : callback.Fits messages)
    (touches : callback.Touches messages messages') :
    callback.Respects messages messages' ∧ Respected messages messages' := by
  constructor
  · apply touches.imp
    intro a b h
    obtain rfl | ⟨htarget, hreceipt⟩ := h
    · exact ⟨not_settled_states, fun _ => rfl, fun _ hne => absurd rfl hne⟩
    · obtain ⟨hinbound, hopen, hdestination⟩ := fits a htarget
      refine ⟨fun hsettled => ?_, fun h => absurd h hinbound, fun hunnamed _ => hdestination hunnamed⟩
      obtain hr | hr := hopen
      · exact not_settled_states (hreceipt hr)
      · exact absurd hsettled hr
  · apply touches.imp
    intro a b h
    obtain rfl | ⟨htarget, hreceipt⟩ := h
    · exact ⟨id, fun _ => rfl⟩
    · obtain ⟨hinbound, hopen, -⟩ := fits a htarget
      refine ⟨fun hsettled => ?_, fun h => absurd h hinbound⟩
      obtain hr | hr := hopen
      · exact hreceipt hr
      · exact absurd hsettled hr

/-- In a run of fitting callbacks every callback respects what it meets, and at the
end settled messages are settled and inbound records are as they were. -/
theorem callbacks_respect_settled (w : ServerWorld) (callbacks : List DeliveryCallback)
    (fits : RunFits w callbacks) :
    RunRespects w callbacks ∧ Respected w.state.messages (runCallbacks w callbacks).state.messages := by
  induction callbacks generalizing w with
  | nil => exact ⟨trivial, forall₂_refl_of (fun _ => ⟨id, fun _ => rfl⟩) _⟩
  | cons callback rest ih =>
    obtain ⟨hfits, hrest⟩ := fits
    obtain ⟨hrespects, hrespected⟩ := DeliveryCallback.respects_of_fits hfits (callback.step_touches w)
    obtain ⟨hruns, hfinal⟩ := ih (callback.step w) hrest
    refine ⟨⟨hrespects, hruns⟩, forall₂_trans ?_ hrespected hfinal⟩
    rintro a b c ⟨hsettled, hinbound⟩ ⟨hsettled', hinbound'⟩
    refine ⟨fun h => hsettled' (hsettled h), fun h => ?_⟩
    have hb := hinbound h
    subst hb
    exact hinbound' h

end Runs

/-- A direct message that was sent and waits for its receipt. -/
def sentMessage : OutboundMessageRecord where
  messageId := "m"
  topicId := none
  destination := some "aa"
  sender := "northbound"
  content := "hello"
  deliveryMode := .targeted
  deliveryMethod := "direct"
  deliveryPolicyReason := "default_direct"
  deliveryState := "sent"
  deliveryMetadata := .object [("receipt_pending", .bool true)]
  createdTsMs := 0
  attachments := []

/-- The server that waits for it. -/
def sentWorld : ServerWorld := .atEpoch { messages := [sentMessage] }

/-- Receipts find the message waiting, and find it settled. -/
theorem receipts_respect_sent :
    @RunRespects ServerHost.blank sentWorld [.receipt none (some "aa") none, .receipt (some "m") none none] ∧
      Respected [sentMessage] (@runCallbacks ServerHost.blank sentWorld
        [.receipt none (some "aa") none, .receipt (some "m") none none]).state.messages :=
  @callbacks_respect_settled ServerHost.blank sentWorld
    [.receipt none (some "aa") none, .receipt (some "m") none none] (by decide +kernel)

/-- A failure reported after the receipt takes the delivered message back. -/
theorem stale_failure_fails_delivered :
    ¬ ∀ (w : ServerWorld) (callbacks : List DeliveryCallback), @RunRespects ServerHost.blank w callbacks := by
  intro respects
  obtain ⟨-, hstep, -⟩ := respects sentWorld [.receipt (some "m") none none, .failure (some "m") none none]
  have hbefore : ((@DeliveryCallback.step ServerHost.blank (.receipt (some "m") none none)
      sentWorld).state.messages.map MessageRecord.deliveryState) = ["delivered"] := by decide +kernel
  have hafter : ((@DeliveryCallback.step ServerHost.blank (.failure (some "m") none none)
      (@DeliveryCallback.step ServerHost.blank (.receipt (some "m") none none)
        sentWorld)).state.messages.map MessageRecord.deliveryState) = ["failed"] := by decide +kernel
  obtain ⟨a, ha, hdelivered⟩ := List.map_eq_singleton_iff.1 hbefore
  obtain ⟨b, hb, hfailed⟩ := List.map_eq_singleton_iff.1 hafter
  have hstep' := hstep
  rw [ha, hb] at hstep'
  cases hstep' with
  | cons hab _ => exact (hab.1 (.inl hdelivered)).2 hfailed

end TelemetryHub
