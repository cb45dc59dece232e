import TelemetryHub.Server.Account

/-!
# What a pass of the worker does to a message

A due message is dispatched once. The dispatch comes back in one of a few ways, and
each is recorded on the message in one of a few ways; the inversions below say so
once, and the accounts of whole runs are read off them.
-/

namespace TelemetryHub

open Lib ServerM

variable [ServerHost] {planes : DataPlane → Prop} {messageId : String} {t : Account}
  {message : OutboundMessageRecord}

/-! ## The dispatch -/

/-- The routing leads the message to these destinations, at some reading of the clock. -/
def Routing.Leads (routing : Routing) (message : OutboundMessageRecord) (destinations : List String) : Prop :=
  ∃ w : ServerWorld, w.state.routing = routing ∧ ((outboundDestinations message).run w).1 = .ok destinations

/-- The results for the recipients of a message. -/
def resultsFor (message : OutboundMessageRecord) (destinations : List String) (answer : Recipient → RecipientAnswer) :
    List BatchResult := (recipientsFor message destinations).map fun recipient => recipient.result (answer recipient)

/-- What a data plane may come back with when it is handed a message for these
recipients. -/
def DataPlane.Gives (plane : DataPlane) (recipients : List Recipient)
    (result : Except String (Recipient → RecipientAnswer)) : Prop :=
  result = plane.sendBatch recipients ∨
    ∃ recipient, recipients = [recipient] ∧
      result = (plane.sendMessage recipient).map fun accepted _ => .accepted accepted

/-- What a dispatch comes back with, and the call it has made. -/
inductive Dispatched (planes : DataPlane → Prop) (routing : Routing) (message : OutboundMessageRecord) :
    Except ApiError DispatchReport → List Sending → Prop
  | notConfigured (h : routing.dataPlane = .notConfigured) : Dispatched planes routing message (.ok {}) []
  | unavailable (h : routing.dataPlane = .unavailable) :
    Dispatched planes routing message (.error (.serviceUnavailable "ZeroMQ data plane is unavailable")) []
  | nobody (h : routing.dataPlane = .connected) (hleads : routing.Leads message []) :
    Dispatched planes routing message (.ok {}) []
  | answered {destinations : List String} {plane : DataPlane} (answer : Recipient → RecipientAnswer)
    (h : routing.dataPlane = .connected) (hleads : routing.Leads message destinations) (hne : destinations ≠ [])
    (hplane : planes plane) (hgives : plane.Gives (recipientsFor message destinations) (.ok answer)) :
    Dispatched planes routing message (.ok (recordZmqBatchResults {} (resultsFor message destinations answer)))
      [⟨message.messageId, recipientsFor message destinations, .ok (resultsFor message destinations answer)⟩]
  | unanswered {destinations : List String} {plane : DataPlane} (error : String) (h : routing.dataPlane = .connected)
    (hleads : routing.Leads message destinations) (hne : destinations ≠ []) (hplane : planes plane)
    (hgives : plane.Gives (recipientsFor message destinations) (.error error)) :
    Dispatched planes routing message (.error (.serviceUnavailable error))
      [⟨message.messageId, recipientsFor message destinations, .error error⟩]

/-- The results for the recipients where the data plane gives this. -/
def resultsOf (recipients : List Recipient) (result : Except String (Recipient → RecipientAnswer)) :
    Except String (List BatchResult) :=
  result.map fun answer => recipients.map fun recipient => recipient.result (answer recipient)

/-- The outcome of a call for the recipients. -/
def Outcome (planes : DataPlane → Prop) (recipients : List Recipient) (outcome : Except String (List BatchResult)) :
    Prop := ∃ plane result, planes plane ∧ plane.Gives recipients result ∧ outcome = resultsOf recipients result

omit [ServerHost] in
theorem watch_callDataPlane {recipients : List Recipient} {call : DataPlane → Except String (List BatchResult)}
    (h : ∀ plane, planes plane → Outcome planes recipients (call plane)) :
    Proc.Spec (watching planes messageId) (callDataPlane messageId recipients call) t fun r t' =>
      ∃ outcome, r = .ok outcome ∧ Outcome planes recipients outcome ∧
        t' = { t with calls := t.calls ++ [⟨messageId, recipients, outcome⟩] } := by
  rintro w rfl hrest
  refine ⟨⟨_, rfl, h _ (hrest.planes 0), ?_⟩, hrest.timely, fun n => hrest.planes (n + 1)⟩
  show (⟨_, _, _, _, _⟩ : Account) = ⟨_, _, _, _, _⟩
  congr 1
  show List.filter _ (_ ++ _) = List.filter _ _ ++ _
  rw [List.filter_append]
  simp

omit [ServerHost] in
theorem leaves_callDataPlane {other : String} (hne : other ≠ messageId) {recipients : List Recipient}
    {call : DataPlane → Except String (List BatchResult)} :
    Leaves planes messageId (callDataPlane other recipients call) := by
  rintro t w rfl hrest
  refine ⟨?_, hrest.timely, fun n => hrest.planes (n + 1)⟩
  show (⟨_, _, _, _, _⟩ : Account) = ⟨_, _, _, _, _⟩
  congr 1
  show List.filter _ (_ ++ _) = _
  rw [List.filter_append]
  simp [hne]

omit [ServerHost] in
theorem outcome_sendBatch (recipients : List Recipient) (plane : DataPlane) (h : planes plane) :
    Outcome planes recipients ((plane.sendBatch recipients).map fun answer =>
      recipients.map fun recipient => recipient.result (answer recipient)) :=
  ⟨plane, _, h, .inl rfl, rfl⟩

omit [ServerHost] in
theorem outcome_sendMessage (recipient : Recipient) (plane : DataPlane) (h : planes plane) :
    Outcome planes [recipient]
      ((plane.sendMessage recipient).map fun accepted => [recipient.result (.accepted accepted)]) := by
  refine ⟨plane, _, h, .inr ⟨recipient, rfl, rfl⟩, ?_⟩
  cases plane.sendMessage recipient <;> rfl

omit [ServerHost] in
/-- The call a message's recipients are handed over by. -/
theorem watch_handOver (recipients : List Recipient) {m : ServerM (Except String (List BatchResult))}
    (hm : Proc.Spec (watching planes messageId) m t fun r t' =>
      ∃ outcome, r = .ok outcome ∧ Outcome planes recipients outcome ∧
        t' = { t with calls := t.calls ++ [⟨messageId, recipients, outcome⟩] }) :
    Proc.Spec (watching planes messageId) (do return recordZmqBatchResults {} (← accepted (← m))) t fun r t' =>
      ∃ new plane, t' = { t with calls := t.calls ++ new } ∧ planes plane ∧
        ((∃ error, plane.Gives recipients (.error error) ∧ r = .error (.serviceUnavailable error) ∧
            new = [⟨messageId, recipients, .error error⟩]) ∨
          ∃ answer : Recipient → RecipientAnswer, plane.Gives recipients (.ok answer) ∧
            r = .ok (recordZmqBatchResults {} (recipients.map fun recipient => recipient.result (answer recipient))) ∧
              new = [⟨messageId, recipients,
                .ok (recipients.map fun recipient => recipient.result (answer recipient))⟩]) := by
  apply Proc.Spec.bind hm
  · rintro outcome t' ⟨outcome', houtcome, ⟨plane, result, hplane, hgives, rfl⟩, rfl⟩
    cases houtcome
    cases result with
    | error error =>
      apply Proc.Spec.check
      · intro results hresults
        cases hresults
      · intro e he
        cases he
        exact ⟨_, plane, rfl, hplane, .inl ⟨error, hgives, rfl, rfl⟩⟩
    | ok answer =>
      apply Proc.Spec.check
      · intro results hresults
        cases hresults
        exact Proc.Spec.pure ⟨_, plane, rfl, hplane, .inr ⟨answer, hgives, rfl, rfl⟩⟩
      · intro e he
        cases he
  · rintro e t' ⟨outcome, houtcome, -⟩
    cases houtcome

theorem dispatch_spec (message : OutboundMessageRecord) (t : Account) :
    Proc.Spec (watching planes message.messageId) (dispatchOutboundMessage message) t fun r t' =>
      ∃ new, t' = { t with calls := t.calls ++ new } ∧ Dispatched planes t.routing message r new := by
  unfold dispatchOutboundMessage
  apply watch_read
  rintro w rfl
  have hplane : (w.account message.messageId).routing.dataPlane = w.state.dataPlane := rfl
  have hnothing : w.account message.messageId =
      { w.account message.messageId with calls := (w.account message.messageId).calls ++ [] } := by
    rw [List.append_nil]
  split
  · rename_i hsetting
    exact Proc.Spec.pure ⟨[], hnothing, .notConfigured (hplane.trans hsetting)⟩
  · rename_i hsetting
    exact Proc.Spec.throw ⟨[], hnothing, .unavailable (hplane.trans hsetting)⟩
  · rename_i hsetting
    apply Proc.Spec.bind ((looks_outboundDestinations message).spec _)
    swap
    · rintro e t' ⟨-, destinations, hr, -⟩
      cases hr
    rintro destinations t' ⟨rfl, destinations', hr, w', hw', hrun⟩
    cases hr
    have hleads : (w.account message.messageId).routing.Leads message destinations :=
      ⟨w', congrArg Account.routing hw', hrun⟩
    have hmade : ∀ recipients, recipientsFor message destinations = recipients → recipients ≠ [] →
        ∀ {m : ServerM (Except String (List BatchResult))},
          (Proc.Spec (watching planes message.messageId) m (w.account message.messageId) fun r t' =>
            ∃ outcome, r = .ok outcome ∧ Outcome planes recipients outcome ∧
              t' = { w.account message.messageId with
                calls := (w.account message.messageId).calls ++ [⟨message.messageId, recipients, outcome⟩] }) →
          Proc.Spec (watching planes message.messageId) (do return recordZmqBatchResults {} (← accepted (← m)))
            (w.account message.messageId) fun r t' =>
              ∃ new, t' = { w.account message.messageId with
                  calls := (w.account message.messageId).calls ++ new } ∧
                Dispatched planes (w.account message.messageId).routing message r new := by
      intro recipients hrecipients hsome m hm
      have hne : destinations ≠ [] := by
        rintro rfl
        exact hsome hrecipients.symm
      apply (watch_handOver _ hm).mono
      subst hrecipients
      rintro r t' ⟨new, plane, ht, hin, ⟨error, hgives, rfl, rfl⟩ | ⟨answer, hgives, rfl, rfl⟩⟩
      · exact ⟨_, ht, .unanswered error (hplane.trans hsetting) hleads hne hin hgives⟩
      · exact ⟨_, ht, .answered answer (hplane.trans hsetting) hleads hne hin hgives⟩
    cases hrecipients : recipientsFor message destinations with
    | nil =>
      have hnobody : destinations = [] := by simpa [recipientsFor] using hrecipients
      subst hnobody
      exact Proc.Spec.pure ⟨[], hnothing, .nobody (hplane.trans hsetting) hleads⟩
    | cons recipient others =>
      cases others with
      | nil =>
        apply Proc.Spec.ite
        · intro _
          exact hmade _ hrecipients (by simp) (watch_callDataPlane (outcome_sendBatch [recipient]))
        · intro _
          exact hmade _ hrecipients (by simp) (watch_callDataPlane (outcome_sendMessage recipient))
      | cons second others =>
        exact hmade _ hrecipients (by simp) (watch_callDataPlane (outcome_sendBatch _))

/-- The dispatch of another message. -/
theorem leaves_dispatch (hne : message.messageId ≠ messageId) : Leaves planes messageId (dispatchOutboundMessage message) := by
  have haccepted : ∀ outcome, Leaves planes messageId
      (do return recordZmqBatchResults {} (← (liftM (accepted outcome) : ServerM (List BatchResult)))) := by
    intro outcome
    cases accepted outcome with
    | error e => exact Proc.Keeps.throw e
    | ok results => exact Proc.Keeps.pure _
  apply Proc.Keeps.bind (Passes.looks Looks.state).leaves
  intro s
  split
  · exact Proc.Keeps.pure _
  · exact Proc.Keeps.throw _
  · apply Proc.Keeps.bind (Passes.looks (looks_outboundDestinations message)).leaves
    intro destinations
    cases recipientsFor message destinations with
    | nil => exact Proc.Keeps.pure _
    | cons recipient others =>
      cases others with
      | nil =>
        apply Proc.Keeps.ite
        · exact Proc.Keeps.bind (leaves_callDataPlane hne) haccepted
        · exact Proc.Keeps.bind (leaves_callDataPlane hne) haccepted
      | cons second others => exact Proc.Keeps.bind (leaves_callDataPlane hne) haccepted

/-! ## The record of it -/

/-- The recipients rejected before admission are tried again. -/
def retriesRejected (message : OutboundMessageRecord) (report : DispatchReport) : Bool :=
  !report.retryableRejectedDestinations.isEmpty &&
    outboundRetryAttemptAllowed message (saturatingAddU64 (outboundAttempts message) 1)
      (outboundEffectiveMaxAttemptsForRetry message false)

/-- The error a message is failed with where nobody was admitted. -/
def allRejectedText (report : DispatchReport) : String :=
  "ZMQ batch rejected all " ++ toString report.rejected.length ++ " recipient(s) before admission"

/-- What becomes of a message whose dispatch came back so: it is tried again, failed or
settled. -/
inductive Recorded (message : OutboundMessageRecord) (nowMs : Int) :
    Except ApiError DispatchReport → OutboundMessageRecord → Prop
  | retried {error : ApiError} {plan : RetryPlan} (tsMs : Int)
    (h : planOutboundRetry message error.text = some plan) :
    Recorded message nowMs (.error error) (plan.apply error.text tsMs (startAttempt nowMs message))
  | failed {error : ApiError} (tsMs : Int) (h : planOutboundRetry message error.text = none) :
    Recorded message nowMs (.error error)
      (settle "failed" (failedMetadata message error.text tsMs) (startAttempt nowMs message))
  | retriedRejected {report : DispatchReport} (tsMs : Int) (h : retriesRejected message report = true) :
    Recorded message nowMs (.ok report)
      (retryRejected message report (saturatingAddU64 (outboundAttempts message) 1) tsMs (startAttempt nowMs message))
  | failedAll {report : DispatchReport} (tsMs : Int) (h : retriesRejected message report = false)
    (hcount : report.count = 0) :
    Recorded message nowMs (.ok report)
      (settle "failed" (failedMetadata message (allRejectedText report) tsMs) (startAttempt nowMs message))
  | settled {report : DispatchReport} (registeredTsMs tsMs : Int) (h : retriesRejected message report = false)
    (hcount : report.count ≠ 0) :
    Recorded message nowMs (.ok report)
      (settle (settledState message report) (settledMetadata message report registeredTsMs tsMs)
        (startAttempt nowMs message))

/-! ### On an unlocked database -/

omit [ServerHost] in
/-- What passes does not fail on an unlocked database. -/
theorem watch_after {α β : Type} {m : ServerM β} {k : β → ServerM α} {Q : Except ApiError α → Account → Prop}
    (hm : Passes planes messageId m) (hunlocked : t.locked = false) (hk : ∀ b, Proc.Spec (watching planes messageId) (k b) t Q) :
    Proc.Spec (watching planes messageId) (m >>= k) t Q := by
  apply Proc.Spec.bind (hm t)
  · rintro b t' ⟨rfl, -⟩
    exact hk b
  · rintro e t' ⟨rfl, hok⟩
    obtain ⟨b, hb⟩ := hok hunlocked
    cases hb

omit [ServerHost] in
/-- The watched message is rewritten and stored. -/
theorem watch_persisted {row : OutboundMessageRecord} {calls : List Sending} {routing : Routing} {ids : List String}
    {f : OutboundMessageRecord → OutboundMessageRecord} (hf : KeepsId f) :
    Proc.Spec (watching planes messageId) (do persisted (← withMessage messageId f)) ⟨[row], calls, routing, false, ids⟩
      fun r t' => r = .ok (some (f row)) ∧ t' = ⟨[f row], calls, routing, false, ids⟩ := by
  apply Proc.Spec.bind (watch_withMessage hf)
  · rintro found t' ⟨rfl, hr⟩
    cases hr
    unfold persisted
    apply watch_after (Passes.persistOutboundMessageRow _) rfl
    intro _
    exact Proc.Spec.pure ⟨rfl, rfl⟩
  · rintro e t' ⟨-, hr⟩
    cases hr

theorem keepsId_startAttempt (tsMs : Int) : KeepsId (startAttempt tsMs) := fun _ => rfl

omit [ServerHost] in
theorem keepsId_settle (deliveryState : String) (deliveryMetadata : Value) :
    KeepsId (settle deliveryState deliveryMetadata) := fun _ => rfl

omit [ServerHost] in
theorem keepsId_apply (plan : RetryPlan) (errorText : String) (tsMs : Int) : KeepsId (plan.apply errorText tsMs) :=
  fun _ => rfl

omit [ServerHost] in
theorem keepsId_retryRejected (message : OutboundMessageRecord) (report : DispatchReport) (attempts : Nat)
    (tsMs : Int) : KeepsId (retryRejected message report attempts tsMs) := fun _ => rfl

omit [ServerHost] in
theorem keepsId_queueForPropagation (tsMs : Int) : KeepsId (queueForPropagation tsMs) := fun _ => rfl

section Watched

variable {row : OutboundMessageRecord} {calls : List Sending} {routing : Routing} {ids : List String}

theorem watch_markOutboundAttemptStarted {tsMs : Int} :
    Proc.Spec (watching planes messageId) (markOutboundAttemptStarted messageId tsMs) ⟨[row], calls, routing, false, ids⟩
      fun r t' => r = .ok () ∧ t' = ⟨[startAttempt tsMs row], calls, routing, false, ids⟩ := by
  unfold markOutboundAttemptStarted
  apply Proc.Spec.step (watch_persisted (keepsId_startAttempt tsMs))
  exact Proc.Spec.pure ⟨rfl, rfl⟩

omit [ServerHost] in
theorem watch_updateOutboundDeliveryState {deliveryState : String} {deliveryMetadata : Value} :
    Proc.Spec (watching planes messageId) (updateOutboundDeliveryState messageId deliveryState deliveryMetadata)
      ⟨[row], calls, routing, false, ids⟩ fun r t' =>
        r = .ok () ∧ t' = ⟨[settle deliveryState deliveryMetadata row], calls, routing, false, ids⟩ := by
  unfold updateOutboundDeliveryState
  apply Proc.Spec.step (watch_persisted (keepsId_settle _ _))
  exact Proc.Spec.pure ⟨rfl, rfl⟩

omit [ServerHost] in
theorem watch_failDispatch {errorText reason : String} {eventMessage : OutboundMessageRecord → String} :
    Proc.Spec (watching planes message.messageId) (failDispatch message errorText reason eventMessage)
      ⟨[row], calls, routing, false, ids⟩ fun r t' =>
        r = .ok () ∧
          ∃ tsMs, t' = ⟨[settle "failed" (failedMetadata message errorText tsMs) row], calls, routing, false, ids⟩ := by
  unfold failDispatch markOutboundDispatchFailed
  rw [Proc.bind_bind]
  apply watch_now
  intro tsMs _
  rw [Proc.bind_bind]
  apply Proc.Spec.step watch_updateOutboundDeliveryState
  apply watch_after (Passes.recordSystemEvent _ _ _) rfl
  intro _
  exact Proc.Spec.pure ⟨rfl, tsMs, rfl⟩

theorem watch_afterDispatchError {nowMs : Int} {error : ApiError} :
    Proc.Spec (watching planes message.messageId) (afterDispatchError message error.text)
      ⟨[startAttempt nowMs message], calls, routing, false, ids⟩ fun r t' =>
        r = .ok () ∧ ∃ row', t' = ⟨[row'], calls, routing, false, ids⟩ ∧ Recorded message nowMs (.error error) row' := by
  unfold afterDispatchError scheduleOutboundRetryAfterFailure
  cases hplan : planOutboundRetry message error.text with
  | none =>
    apply watch_failDispatch.mono
    rintro r t' ⟨hr, tsMs, rfl⟩
    exact ⟨hr, _, rfl, .failed tsMs hplan⟩
  | some plan =>
    rw [Proc.bind_bind]
    apply watch_now
    intro tsMs _
    apply Proc.Spec.step (watch_persisted (keepsId_apply plan error.text tsMs))
    apply watch_after (Passes.recordSystemEvent _ _ _) rfl
    intro _
    exact Proc.Spec.pure ⟨rfl, _, rfl, .retried tsMs hplan⟩

omit [ServerHost] in
theorem watch_settleDispatch {report : DispatchReport} :
    Proc.Spec (watching planes message.messageId) (settleDispatch message report) ⟨[row], calls, routing, false, ids⟩ fun r t' =>
      r = .ok () ∧ ∃ registeredTsMs tsMs,
        t' = ⟨[settle (settledState message report) (settledMetadata message report registeredTsMs tsMs) row], calls,
          routing, false, ids⟩ := by
  unfold settleDispatch
  apply watch_now
  intro registeredTsMs _
  apply watch_now
  intro tsMs _
  apply Proc.Spec.step watch_updateOutboundDeliveryState
  apply Proc.Spec.ite
  · intro _
    unfold recordOutboundRetrySuccessEvent
    apply watch_after (Passes.recordSystemEvent _ _ _) rfl
    intro _
    exact Proc.Spec.pure ⟨rfl, registeredTsMs, tsMs, rfl⟩
  · intro _
    exact Proc.Spec.pure ⟨rfl, registeredTsMs, tsMs, rfl⟩

omit [ServerHost] in
/-- The recipients rejected are given another try, if they may have one. -/
theorem watch_retryPreAdmission {report : DispatchReport} :
    Proc.Spec (watching planes message.messageId) (retryPreAdmission message report) ⟨[row], calls, routing, false, ids⟩
      fun r t' =>
        (retriesRejected message report = true ∧ ∃ tsMs,
          let queued := retryRejected message report (saturatingAddU64 (outboundAttempts message) 1) tsMs row
          r = .ok (some queued) ∧ t' = ⟨[queued], calls, routing, false, ids⟩) ∨
        (retriesRejected message report = false ∧ r = .ok none ∧ t' = ⟨[row], calls, routing, false, ids⟩) := by
  unfold retryPreAdmission
  by_cases hnone : report.retryableRejectedDestinations.isEmpty = true
  · rw [if_pos hnone]
    exact Proc.Spec.pure (.inr ⟨by simp [retriesRejected, hnone], rfl, rfl⟩)
  · rw [if_neg hnone]
    unfold scheduleZmqPreAdmissionRetry
    apply Proc.Spec.ite
    · intro hallowed
      apply watch_now
      intro nowMs _
      apply (watch_persisted (keepsId_retryRejected _ _ _ _)).mono
      rintro r t' ⟨rfl, rfl⟩
      exact .inl ⟨by simp [retriesRejected, hnone, hallowed], _, rfl, rfl⟩
    · intro hallowed
      exact Proc.Spec.pure (.inr ⟨by simp [retriesRejected, hallowed], rfl, rfl⟩)

theorem watch_afterDispatch {nowMs : Int} {report : DispatchReport} :
    Proc.Spec (watching planes message.messageId) (afterDispatch message report)
      ⟨[startAttempt nowMs message], calls, routing, false, ids⟩ fun r t' =>
        (∃ a, r = .ok a) ∧ ∃ row', t' = ⟨[row'], calls, routing, false, ids⟩ ∧ Recorded message nowMs (.ok report) row' := by
  unfold afterDispatch
  apply Proc.Spec.bind watch_retryPreAdmission
  · rintro retry t' (⟨hretries, tsMs, hr, rfl⟩ | ⟨hretries, hr, rfl⟩)
    · cases hr
      apply watch_after (Passes.recordSystemEvent _ _ _) rfl
      intro _
      exact Proc.Spec.pure ⟨⟨_, rfl⟩, _, rfl, .retriedRejected tsMs hretries⟩
    · cases hr
      apply Proc.Spec.ite
      · intro hcount
        apply Proc.Spec.bind watch_failDispatch
        · rintro _ t' ⟨-, tsMs, rfl⟩
          exact Proc.Spec.pure ⟨⟨_, rfl⟩, _, rfl, .failedAll tsMs hretries hcount⟩
        · rintro e t' ⟨he, -⟩
          cases he
      · intro hcount
        apply Proc.Spec.bind watch_settleDispatch
        · rintro _ t' ⟨-, registeredTsMs, tsMs, rfl⟩
          exact Proc.Spec.pure ⟨⟨_, rfl⟩, _, rfl, .settled registeredTsMs tsMs hretries hcount⟩
        · rintro e t' ⟨he, -⟩
          cases he
  · rintro e t' (⟨-, tsMs, hr, -⟩ | ⟨-, hr, -⟩)
    · cases hr
    · cases hr

/-- A started attempt is the current one. -/
theorem startAttempt_stillCurrent {nowMs : Int} (hnow : inI64 nowMs = true) {messages : List OutboundMessageRecord}
    (h : messages.filter (·.messageId == message.messageId) = [startAttempt nowMs message]) :
    outboundDispatchAttemptStillCurrent messages message nowMs = true := by
  have hfound : messages.find? (·.messageId == message.messageId) = some (startAttempt nowMs message) := by
    rw [← List.head?_filter, h, List.head?_cons]
  have hstatus : (startAttempt nowMs message).deliveryMetadata.get "dispatch_status" =
      some (toValue "in_progress") := by
    simp [startAttempt, get_merge, List.lookup_cons]
  have hattempt : (startAttempt nowMs message).deliveryMetadata.get "last_attempt_at_ts_ms" = some (toValue nowMs) := by
    simp [startAttempt, get_merge, List.lookup_cons]
  have hstate : normalizedDeliveryState (startAttempt nowMs message) = "queued" := by
    show (if (trim "queued").isEmpty then "queued" else "queued") = "queued"
    simp
  have hread : (toValue nowMs : Value).asI64 = some nowMs := if_pos hnow
  unfold outboundDispatchAttemptStillCurrent
  rw [hfound, Option.any_some, hstate]
  simp only [metadataStr, metadataI64, hstatus, hattempt, Option.bind_some, hread]
  simp [startAttempt, toValue, Value.asStr]

theorem watch_attemptDispatch {nowMs : Int} (hnow : inI64 nowMs = true) :
    Proc.Spec (watching planes message.messageId) (attemptDispatch message nowMs) ⟨[message], calls, routing, false, ids⟩
      fun r t' => (∃ a, r = .ok a) ∧ ∃ outcome new row', t' = ⟨[row'], calls ++ new, routing, false, ids⟩ ∧
        Dispatched planes routing message outcome new ∧ Recorded message nowMs outcome row' := by
  unfold attemptDispatch
  apply Proc.Spec.step watch_markOutboundAttemptStarted
  apply Proc.Spec.attempt (dispatch_spec message _)
  rintro outcome t' ⟨new, rfl, hdispatched⟩
  apply watch_read
  intro w hw
  have hcurrent := startAttempt_stillCurrent hnow (congrArg Account.rows hw)
  rw [hcurrent]
  cases outcome with
  | error error =>
    apply Proc.Spec.bind watch_afterDispatchError
    · rintro _ t' ⟨-, row', rfl, hrecorded⟩
      exact Proc.Spec.pure ⟨⟨_, rfl⟩, _, new, row', rfl, hdispatched, hrecorded⟩
    · rintro e t' ⟨he, -⟩
      cases he
  | ok report =>
    apply watch_afterDispatch.mono
    rintro r t' ⟨hr, row', rfl, hrecorded⟩
    exact ⟨hr, _, new, row', rfl, hdispatched, hrecorded⟩

end Watched

/-! ## Other messages -/

section Others

variable {other : OutboundMessageRecord} (hne : other.messageId ≠ messageId)
include hne

omit [ServerHost] in
theorem passes_persistedOther {f : OutboundMessageRecord → OutboundMessageRecord} (hf : KeepsId f) :
    Passes planes messageId (do persisted (← withMessage other.messageId f)) := by
  apply Passes.bind (passes_withMessage_other hne hf)
  intro found
  exact Passes.persisted found

omit [ServerHost] in
theorem passes_failDispatch {errorText reason : String} {eventMessage : OutboundMessageRecord → String} :
    Passes planes messageId (failDispatch other errorText reason eventMessage) := by
  unfold failDispatch markOutboundDispatchFailed updateOutboundDeliveryState
  apply Passes.bind
  · apply Passes.bind (Passes.looks Looks.now)
    intro tsMs
    apply Passes.bind
    · apply Passes.bind (passes_persistedOther hne (keepsId_settle _ _))
      intro _
      exact Passes.pure _
    · intro _
      exact Passes.pure _
  · intro failedMessage
    apply Passes.bind (Passes.recordSystemEvent _ _ _)
    intro _
    exact Passes.pure _

omit [ServerHost] in
theorem passes_afterDispatchError {errorText : String} : Passes planes messageId (afterDispatchError other errorText) := by
  unfold afterDispatchError scheduleOutboundRetryAfterFailure
  cases planOutboundRetry other errorText with
  | none => exact passes_failDispatch hne
  | some plan =>
    rw [Proc.bind_bind]
    apply Passes.bind (Passes.looks Looks.now)
    intro tsMs
    apply Passes.bind (passes_persistedOther hne (keepsId_apply _ _ _))
    intro retried
    cases retried with
    | none => exact passes_failDispatch hne
    | some retryMessage =>
      apply Passes.bind (Passes.recordSystemEvent _ _ _)
      intro _
      exact Passes.pure _

omit [ServerHost] in
theorem passes_settleDispatch {report : DispatchReport} : Passes planes messageId (settleDispatch other report) := by
  unfold settleDispatch updateOutboundDeliveryState recordOutboundRetrySuccessEvent
  apply Passes.bind (Passes.looks Looks.now)
  intro registeredTsMs
  apply Passes.bind (Passes.looks Looks.now)
  intro tsMs
  apply Passes.bind
  · apply Passes.bind (passes_persistedOther hne (keepsId_settle _ _))
    intro _
    exact Passes.pure _
  · intro _
    apply Passes.ite
    · apply Passes.bind (Passes.recordSystemEvent _ _ _)
      intro _
      exact Passes.pure _
    · exact Passes.pure _

omit [ServerHost] in
theorem passes_afterDispatch {report : DispatchReport} : Passes planes messageId (afterDispatch other report) := by
  have hretry : Passes planes messageId (retryPreAdmission other report) := by
    unfold retryPreAdmission scheduleZmqPreAdmissionRetry
    apply Passes.ite (Passes.pure _)
    apply Passes.ite
    · apply Passes.bind (Passes.looks Looks.now)
      intro tsMs
      exact passes_persistedOther hne (keepsId_retryRejected _ _ _ _)
    · exact Passes.pure _
  apply Passes.bind hretry
  intro retried
  cases retried with
  | some retryMessage =>
    apply Passes.bind (Passes.recordSystemEvent _ _ _)
    intro _
    exact Passes.pure _
  | none =>
    apply Passes.ite
    · apply Passes.bind (passes_failDispatch hne)
      intro _
      exact Passes.pure _
    · apply Passes.bind (passes_settleDispatch hne)
      intro _
      exact Passes.pure _

theorem passes_attemptDispatch {nowMs : Int} : Passes planes messageId (attemptDispatch other nowMs) := by
  have hmark : Passes planes messageId (markOutboundAttemptStarted other.messageId nowMs) := by
    apply Passes.bind (passes_persistedOther hne (keepsId_startAttempt nowMs))
    intro _
    exact Passes.pure _
  apply Passes.bind hmark
  intro _
  apply Passes.bind (Passes.attempt (leaves_dispatch hne))
  intro outcome
  apply Passes.bind (Passes.looks Looks.state)
  intro s
  apply Passes.ite (Passes.pure _)
  cases outcome with
  | error error =>
    apply Passes.bind (passes_afterDispatchError hne)
    intro _
    exact Passes.pure _
  | ok report => exact passes_afterDispatch hne

omit [ServerHost] hne in
/-- A message of the list is found. -/
theorem watch_withMessage_found {id : String} {f : OutboundMessageRecord → OutboundMessageRecord}
    (hpasses : Passes planes messageId (withMessage id f)) :
    Proc.Spec (watching planes messageId) (withMessage id f) t fun r t' =>
      t' = t ∧ ∃ found, r = .ok found ∧ (id ∈ t.ids → found.isSome = true) := by
  intro w hview hrest
  obtain ⟨⟨hview', -⟩, hrest'⟩ := hpasses t w hview hrest
  refine ⟨⟨hview', (w.state.messages.find? (·.messageId == id)).map f, rfl, ?_⟩, hrest'⟩
  intro hin
  have hids : w.state.messages.map (·.messageId) = t.ids := congrArg Account.ids hview
  rw [← hids, List.mem_map] at hin
  obtain ⟨message, hmessage, hid⟩ := hin
  rw [Option.isSome_map, List.find?_isSome]
  exact ⟨message, hmessage, by simp [hid]⟩

/-- The round of another message of the list. -/
theorem watch_processOther {nowMs : Int} {report : OutboundRetryWorkerReport} :
    Proc.Spec (watching planes messageId) (processDueMessage nowMs report other) t fun r t' =>
      t' = t ∧ (t.locked = false → other.messageId ∈ t.ids → ∃ a, r = .ok a) := by
  apply Proc.Spec.ite
  · intro _
    unfold repairDirectTimeout queueDirectTimeoutForPropagation
    rw [Proc.bind_bind, Proc.bind_bind]
    apply Proc.Spec.bind
      (watch_withMessage_found (passes_withMessage_other hne (keepsId_queueForPropagation nowMs)))
    · rintro found t' ⟨rfl, found', hfound, hsome⟩
      cases hfound
      cases found with
      | none =>
        apply Proc.Spec.throw
        exact ⟨rfl, fun _ hin => by cases hsome hin⟩
      | some repaired =>
        apply Passes.whenever
        apply Passes.bind
        · apply Passes.bind (Passes.pure repaired)
          intro repaired
          apply Passes.bind (Passes.persistOutboundMessageRow _)
          intro _
          exact Passes.pure _
        · intro repairMessage
          apply Passes.bind
          · apply Passes.bind (Passes.recordSystemEvent _ _ _)
            intro _
            exact Passes.pure _
          · intro _
            exact Passes.pure _
    · rintro e t' ⟨-, found, hfound, -⟩
      cases hfound
  · intro _
    apply Passes.whenever
    apply Passes.bind (passes_attemptDispatch hne)
    intro round
    exact Passes.pure _

omit hne in
/-- The rounds of other messages of the list. -/
theorem watch_processOthers {nowMs : Int} (items : List OutboundMessageRecord)
    (hothers : ∀ other ∈ items, other.messageId ≠ messageId) (report : OutboundRetryWorkerReport) :
    Proc.Spec (watching planes messageId) (items.foldlM (processDueMessage nowMs) report) t fun r t' =>
      t' = t ∧ (t.locked = false → (∀ other ∈ items, other.messageId ∈ t.ids) → ∃ a, r = .ok a) := by
  induction items generalizing report with
  | nil => exact Proc.Spec.pure ⟨rfl, fun _ _ => ⟨_, rfl⟩⟩
  | cons other items ih =>
    rw [List.foldlM_cons]
    apply Proc.Spec.bind (watch_processOther (hothers other List.mem_cons_self))
    · rintro report' t' ⟨rfl, -⟩
      apply (ih (fun other hin => hothers other (List.mem_cons_of_mem _ hin)) report').mono
      rintro r t'' ⟨rfl, hok⟩
      exact ⟨rfl, fun hunlocked hin => hok hunlocked fun other h => hin other (List.mem_cons_of_mem _ h)⟩
    · rintro e t' ⟨rfl, hok⟩
      refine ⟨rfl, ?_⟩
      intro hunlocked hin
      obtain ⟨a, ha⟩ := hok hunlocked (hin other List.mem_cons_self)
      cases ha

end Others

/-! ## A pass -/

/-- What a pass of the worker does to a message: nothing, a change to propagation or
one attempt. -/
inductive Passed (planes : DataPlane → Prop) (row : OutboundMessageRecord) (calls : List Sending) (routing : Routing) (nowMs : Int) :
    OutboundMessageRecord → List Sending → Prop
  | idle (h : outboundRetryDue row nowMs = false) : Passed planes row calls routing nowMs row calls
  | repaired (hdue : failedDirectTimeoutRetryDue row nowMs = true) :
    Passed planes row calls routing nowMs (queueForPropagation nowMs row) calls
  | attempted {outcome : Except ApiError DispatchReport} {new : List Sending} {row' : OutboundMessageRecord}
    (hdue : outboundRetryDue row nowMs = true) (hdirect : failedDirectTimeoutRetryDue row nowMs = false)
    (hdispatched : Dispatched planes routing row outcome new) (hrecorded : Recorded row nowMs outcome row') :
    Passed planes row calls routing nowMs row' (calls ++ new)

theorem watch_processDueMessage {calls : List Sending} {routing : Routing} {ids : List String} {nowMs : Int}
    (hnow : inI64 nowMs = true) (hdue : outboundRetryDue message nowMs = true) {report : OutboundRetryWorkerReport} :
    Proc.Spec (watching planes message.messageId) (processDueMessage nowMs report message)
      ⟨[message], calls, routing, false, ids⟩ fun _ t' =>
        ∃ row' calls', t' = ⟨[row'], calls', routing, false, ids⟩ ∧ Passed planes message calls routing nowMs row' calls' := by
  apply Proc.Spec.ite
  · intro hdirect
    have hrepair : Proc.Spec (watching planes message.messageId) (queueDirectTimeoutForPropagation message nowMs)
        ⟨[message], calls, routing, false, ids⟩ fun r t' =>
          r = .ok (queueForPropagation nowMs message) ∧
            t' = ⟨[queueForPropagation nowMs message], calls, routing, false, ids⟩ := by
      apply Proc.Spec.bind (watch_withMessage (keepsId_queueForPropagation nowMs))
      · rintro found t' ⟨rfl, hr⟩
        cases hr
        apply watch_after (Passes.persistOutboundMessageRow _) rfl
        intro _
        exact Proc.Spec.pure ⟨rfl, rfl⟩
      · rintro e t' ⟨-, hr⟩
        cases hr
    unfold repairDirectTimeout
    rw [Proc.bind_bind]
    apply Proc.Spec.step hrepair
    apply watch_after
    · apply Passes.bind (Passes.recordSystemEvent _ _ _)
      intro _
      exact Passes.pure _
    · rfl
    · intro _
      exact Proc.Spec.pure ⟨_, _, rfl, .repaired hdirect⟩
  · intro hdirect
    rw [Bool.not_eq_true] at hdirect
    apply Proc.Spec.bind (watch_attemptDispatch hnow)
    · rintro round t' ⟨-, outcome, new, row', rfl, hdispatched, hrecorded⟩
      exact Proc.Spec.pure ⟨_, _, rfl, .attempted hdue hdirect hdispatched hrecorded⟩
    · rintro e t' ⟨⟨a, ha⟩, -⟩
      cases ha

omit [ServerHost] in
/-- The rows before and after that of a message of which there is one row. -/
theorem rows_around {row : OutboundMessageRecord} {messages : List OutboundMessageRecord}
    (hrows : messages.filter (·.messageId == row.messageId) = [row]) :
    ∃ before after, messages = before ++ row :: after ∧ (∀ other ∈ before, other.messageId ≠ row.messageId) ∧
      ∀ other ∈ after, other.messageId ≠ row.messageId := by
  obtain ⟨before, after, hmessages, hbefore, -, hafter⟩ := List.filter_eq_cons_iff.1 hrows
  refine ⟨before, after, hmessages, ?_, ?_⟩
  · intro other hother heq
    exact hbefore other hother (by simp [heq])
  · intro other hother heq
    exact List.filter_eq_nil_iff.1 hafter other hother (by simp [heq])

/-- What the loop of a pass does to a message of which there is one row. -/
theorem watch_dueMessages {row : OutboundMessageRecord} {calls : List Sending} {routing : Routing} {nowMs : Int}
    (hnow : inI64 nowMs = true) {messages : List OutboundMessageRecord}
    (hrows : messages.filter (·.messageId == row.messageId) = [row]) :
    Proc.Spec (watching planes row.messageId)
      ((messages.filter (outboundRetryDue · nowMs)).foldlM (processDueMessage nowMs) {})
      ⟨[row], calls, routing, false, messages.map (·.messageId)⟩ fun _ t' =>
        ∃ row' calls', t' = ⟨[row'], calls', routing, false, messages.map (·.messageId)⟩ ∧
          Passed planes row calls routing nowMs row' calls' := by
  obtain ⟨before, after, hmessages, hbefore, hafter⟩ := rows_around hrows
  have hdueOthers : ∀ items : List OutboundMessageRecord, (∀ other ∈ items, other.messageId ≠ row.messageId) →
      ∀ other ∈ items.filter (outboundRetryDue · nowMs), other.messageId ≠ row.messageId :=
    fun items hitems other hother => hitems other (List.mem_filter.1 hother).1
  rw [hmessages, List.filter_append, List.foldlM_append]
  apply Proc.Spec.bind (watch_processOthers _ (hdueOthers before hbefore) _)
  swap
  · rintro e t' ⟨-, hok⟩
    obtain ⟨a, ha⟩ := hok rfl fun other hother => by
      have hin := (List.mem_filter.1 hother).1
      exact List.mem_map_of_mem (List.mem_append_left _ hin)
    cases ha
  rintro report t' ⟨rfl, -⟩
  by_cases hdue : outboundRetryDue row nowMs = true
  · rw [List.filter_cons_of_pos (by simpa using hdue), List.foldlM_cons]
    apply Proc.Spec.bind (watch_processDueMessage hnow hdue)
    · rintro report' t' ⟨row', calls', rfl, hpassed⟩
      apply (watch_processOthers _ (hdueOthers after hafter) report').mono
      rintro r t' ⟨rfl, -⟩
      exact ⟨row', calls', rfl, hpassed⟩
    · rintro e t' h
      exact h
  · rw [List.filter_cons_of_neg (by simpa using hdue)]
    apply (watch_processOthers _ (hdueOthers after hafter) report).mono
    rintro r t' ⟨rfl, -⟩
    exact ⟨row, calls, rfl, .idle (Bool.not_eq_true _ |>.mp hdue)⟩

/-- The world after a pass. -/
def workerPass (w : ServerWorld) : ServerWorld := (processDueOutboundRetryMessages.run w).2

/-- What a pass does to a message of which there is one row, the database unlocked. -/
theorem pass_account {w : ServerWorld} {row : OutboundMessageRecord} {calls : List Sending} {routing : Routing} {ids : List String}
    (hruns : w.Runs planes) (h : w.account row.messageId = ⟨[row], calls, routing, false, ids⟩) :
    (workerPass w).Runs planes ∧ ∃ row' calls',
      (workerPass w).account row.messageId = ⟨[row'], calls', routing, false, ids⟩ ∧
        Passed planes row calls routing (w.clock 0).timestampMillis row' calls' := by
  have hrows : w.state.messages.filter (·.messageId == row.messageId) = [row] := congrArg Account.rows h
  have hids : ids = w.state.messages.map (·.messageId) := (congrArg Account.ids h).symm
  subst hids
  obtain ⟨⟨row', calls', haccount, hpassed⟩, hruns'⟩ :=
    watch_dueMessages (hruns.timely 0) hrows { w with clock := fun n => w.clock (n + 1) } h (hruns.later 1)
  exact ⟨hruns', row', calls', haccount, hpassed⟩

end TelemetryHub
