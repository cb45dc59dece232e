import TelemetryHub.Lib.Budget
import TelemetryHub.Server.Fanout
import TelemetryHub.Server.Receipts

/-!
# Retries

Outside of the propagation fallback a message has a budget of dispatches: each one
spends of it and nothing the worker does adds to it. The fallback keeps trying on
purpose; a message only ever changes into it.
-/

namespace TelemetryHub

open Lib ServerM

/-! ## The budget -/

/-- The most attempts a message may have outside of the fallback. -/
def attemptLimit (message : OutboundMessageRecord) : Nat :=
  max (outboundMaxAttempts message) outboundRateLimitRetryMaxAttempts

instance (message : OutboundMessageRecord) : Decidable (awaitsRetry message) :=
  inferInstanceAs (Decidable (_ ∧ _))

/-- The dispatches a message may still have. -/
def dispatchesLeft (message : OutboundMessageRecord) : Nat :=
  (attemptLimit message - outboundAttempts message) + if awaitsRetry message then 1 else 0

theorem dispatchesLeft_le (message : OutboundMessageRecord) :
    dispatchesLeft message ≤ attemptLimit message - outboundAttempts message + 1 := by
  unfold dispatchesLeft
  split
  · omega
  · omega

/-- What limits the retries of a message is as it was. -/
structure SameCourse (row row' : OutboundMessageRecord) : Prop where
  method : row'.deliveryMethod = row.deliveryMethod
  mode : row'.deliveryMode = row.deliveryMode
  reason : row'.deliveryPolicyReason = row.deliveryPolicyReason
  maxAttempts : row'.deliveryMetadata.get "max_attempts" = row.deliveryMetadata.get "max_attempts"

/-- A message that has spent so many dispatches of its budget. -/
structure Ages (made : Nat) (row row' : OutboundMessageRecord) : Prop extends SameCourse row row' where
  attempts : outboundAttempts row ≤ outboundAttempts row'
  left : dispatchesLeft row' + made ≤ dispatchesLeft row

/-- The number of attempts does not reach the end of its type before it reaches the limit. -/
def Countable (message : OutboundMessageRecord) : Prop :=
  propagatedMultiRecipientAllowsPartialSuccess message = true → outboundMaxAttempts message < 2 ^ 64 - 1

section Rows

variable {row row' : OutboundMessageRecord} {made : Nat}

namespace SameCourse

theorem refl (row : OutboundMessageRecord) : SameCourse row row := ⟨rfl, rfl, rfl, rfl⟩

theorem multiRecipient (h : SameCourse row row') :
    propagatedMultiRecipientAllowsPartialSuccess row' = propagatedMultiRecipientAllowsPartialSuccess row := by
  unfold propagatedMultiRecipientAllowsPartialSuccess
  rw [h.method, h.mode]

theorem fallback (h : SameCourse row row') :
    propagatedDirectTimeoutFallback row' = propagatedDirectTimeoutFallback row := by
  unfold propagatedDirectTimeoutFallback
  rw [h.multiRecipient, h.reason]

theorem max_eq (h : SameCourse row row') : outboundMaxAttempts row' = outboundMaxAttempts row := by
  unfold outboundMaxAttempts metadataU64
  rw [h.maxAttempts]

theorem limit (h : SameCourse row row') : attemptLimit row' = attemptLimit row := by
  unfold attemptLimit
  rw [h.max_eq]

theorem countable (h : SameCourse row row') (hcountable : Countable row) : Countable row' := by
  intro hmulti
  rw [h.max_eq]
  exact hcountable (h.multiRecipient ▸ hmulti)

end SameCourse

theorem Ages.refl (row : OutboundMessageRecord) : Ages 0 row row :=
  ⟨SameCourse.refl row, Nat.le_refl _, Nat.le_of_eq (Nat.add_zero _)⟩

theorem asU64_lt {value : Value} {n : Nat} (h : value.asU64 = some n) : n < 2 ^ 64 := by
  unfold Value.asU64 at h
  split at h
  · split at h
    · rename_i i hrange
      cases h
      omega
    · cases h
  · cases h

/-- A count read from the metadata fits its type. -/
theorem metadataU64_lt (message : OutboundMessageRecord) (key : String) {default : Nat} (h : default < 2 ^ 64) :
    (metadataU64 message key).getD default < 2 ^ 64 := by
  cases hread : metadataU64 message key with
  | none => exact h
  | some n =>
    obtain ⟨value, -, hvalue⟩ := Option.bind_eq_some_iff.1 hread
    exact asU64_lt hvalue

theorem outboundAttempts_lt (message : OutboundMessageRecord) : outboundAttempts message < 2 ^ 64 :=
  metadataU64_lt message "attempts" (by omega)

theorem outboundMaxAttempts_lt (message : OutboundMessageRecord) : outboundMaxAttempts message < 2 ^ 64 := by
  have hread := metadataU64_lt message "max_attempts" (show outboundRetryMaxAttempts < 2 ^ 64 by decide)
  unfold outboundMaxAttempts
  omega

theorem saturatingAddU64_lt (a b : Nat) : saturatingAddU64 a b < 2 ^ 64 := by
  unfold saturatingAddU64
  omega

/-- The number of attempts a rewritten message reads. -/
theorem outboundAttempts_of {n : Nat} (hn : n < 2 ^ 64) (h : row.deliveryMetadata.get "attempts" = some (toValue n)) :
    outboundAttempts row = n := by
  unfold outboundAttempts metadataU64
  rw [h, Option.bind_some, asU64_toValue hn, Option.getD_some]

theorem outboundAttempts_same (h : row'.deliveryMetadata.get "attempts" = row.deliveryMetadata.get "attempts") :
    outboundAttempts row' = outboundAttempts row := by
  unfold outboundAttempts metadataU64
  rw [h]

/-! ### One step of a message -/

/-- Outside of the fallback the limits of the retry rules stay under the one limit. -/
theorem effective_le (hout : propagatedDirectTimeoutFallback row = false) (rateLimited : Bool) :
    outboundEffectiveMaxAttemptsForRetry row rateLimited ≤ attemptLimit row := by
  unfold outboundEffectiveMaxAttemptsForRetry attemptLimit
  simp only [hout, Bool.false_eq_true, if_false]
  have hmulti : outboundPropagatedMultiRecipientRetryMaxAttempts ≤ outboundRateLimitRetryMaxAttempts := by decide
  split
  · split
    · omega
    · omega
  · split
    · omega
    · omega

/-- A retry that is allowed has a number of its own, within the limit. -/
theorem allowed_counts (hout : propagatedDirectTimeoutFallback row = false) (hcountable : Countable row)
    {rateLimited : Bool}
    (h : outboundRetryAttemptAllowed row (saturatingAddU64 (outboundAttempts row) 1)
      (outboundEffectiveMaxAttemptsForRetry row rateLimited) = true) :
    saturatingAddU64 (outboundAttempts row) 1 = outboundAttempts row + 1 ∧
      outboundAttempts row + 1 ≤ attemptLimit row := by
  have hlimit := effective_le hout rateLimited
  have hbound := outboundAttempts_lt row
  have hmaximum := outboundMaxAttempts_lt row
  have hbudget : outboundRateLimitRetryMaxAttempts < 2 ^ 64 - 1 := by decide
  unfold outboundRetryAttemptAllowed at h
  unfold saturatingAddU64 at h ⊢
  by_cases hmulti : propagatedMultiRecipientAllowsPartialSuccess row = true
  · rw [if_pos hmulti] at h
    have hmax := hcountable hmulti
    have hle : min (outboundAttempts row + 1) (2 ^ 64 - 1) ≤ attemptLimit row :=
      (of_decide_eq_true h).trans hlimit
    unfold attemptLimit at hle ⊢
    omega
  · rw [if_neg hmulti] at h
    have hlt := (of_decide_eq_true h).trans_le hlimit
    unfold attemptLimit at hlt ⊢
    omega

/-- A message rewritten on the same course that, where it waits again, has another
attempt behind it. -/
theorem ages_of (course : SameCourse row row') (hattempts : outboundAttempts row ≤ outboundAttempts row')
    (hwaits : awaitsRetry row' → outboundAttempts row < outboundAttempts row' ∧ outboundAttempts row' ≤ attemptLimit row)
    (hmade : made ≤ if awaitsRetry row then 1 else 0) : Ages made row row' := by
  refine ⟨course, hattempts, ?_⟩
  unfold dispatchesLeft
  rw [course.limit]
  by_cases h : awaitsRetry row'
  · have hnumber := hwaits h
    rw [if_pos h]
    omega
  · rw [if_neg h]
    omega

/-- A message in another state does not wait. -/
theorem not_awaits_of_state (h : row.deliveryState ≠ "queued") (hsome : (trim row.deliveryState).isEmpty = false) :
    ¬awaitsRetry row := by
  rintro ⟨hqueued, -⟩
  rw [normalizedDeliveryState_of hsome] at hqueued
  exact h hqueued

/-- A message no retry is scheduled of does not wait. -/
theorem not_awaits_of_scheduled (h : row.deliveryMetadata.get "retry_scheduled" = some (toValue false)) :
    ¬awaitsRetry row := by
  rintro ⟨-, hscheduled⟩
  unfold metadataBool at hscheduled
  rw [h] at hscheduled
  cases hscheduled

/-- A message that waits as before, its attempts as they were. -/
theorem ages_same (course : SameCourse row row') (hstate : row'.deliveryState = row.deliveryState)
    (hattempts : row'.deliveryMetadata.get "attempts" = row.deliveryMetadata.get "attempts")
    (hscheduled : row'.deliveryMetadata.get "retry_scheduled" = row.deliveryMetadata.get "retry_scheduled") :
    Ages 0 row row' := by
  have hcount := outboundAttempts_same hattempts
  refine ⟨course, Nat.le_of_eq hcount.symm, ?_⟩
  have hwaits : awaitsRetry row' ↔ awaitsRetry row := by
    unfold awaitsRetry normalizedDeliveryState metadataBool
    rw [hstate, hscheduled]
  unfold dispatchesLeft
  rw [course.limit, hcount]
  simp only [hwaits, Nat.add_zero, Nat.le_refl]

/-- A message that waits no more. -/
theorem ages_closed (course : SameCourse row row') (hattempts : outboundAttempts row ≤ outboundAttempts row')
    (hclosed : ¬awaitsRetry row') (hmade : made ≤ if awaitsRetry row then 1 else 0) : Ages made row row' :=
  ages_of course hattempts (fun hwaits => absurd hwaits hclosed) hmade

/-- A message with one more attempt behind it, allowed to wait again. -/
theorem ages_retried (hout : propagatedDirectTimeoutFallback row = false) (hcountable : Countable row)
    (course : SameCourse row row') {rateLimited : Bool}
    (hallowed : outboundRetryAttemptAllowed row (saturatingAddU64 (outboundAttempts row) 1)
      (outboundEffectiveMaxAttemptsForRetry row rateLimited) = true)
    (hattempts : row'.deliveryMetadata.get "attempts" = some (toValue (saturatingAddU64 (outboundAttempts row) 1)))
    (hmade : made ≤ if awaitsRetry row then 1 else 0) : Ages made row row' := by
  obtain ⟨hnext, hlimit⟩ := allowed_counts hout hcountable hallowed
  have hread := outboundAttempts_of (saturatingAddU64_lt _ _) hattempts
  rw [hnext] at hread
  apply ages_of course _ _ hmade
  · omega
  · intro _
    omega

/-! ### The writes -/

theorem get_removed {metadata : Value} {keys : List String} {key : String} (h : keys.contains key = false) :
    (metadata.removeKeys keys).get key = metadata.get key := by
  rw [get_removeKeys, h, if_neg Bool.false_ne_true]

/-- What a delivery is recorded with says of the attempts what the message says of them,
and nothing of their limit. -/
theorem get_outboundDeliveryMetadata_attempts {message : OutboundMessageRecord} {dispatchCount : Nat} {acked : Bool}
    {nowMs : Int} {update : Value} (h : update.Distinct) (hattempts : update.get "attempts" = none)
    (hmax : update.get "max_attempts" = none) :
    (outboundDeliveryMetadata message dispatchCount acked nowMs update).get "attempts" =
        some (toValue (outboundAttempts message)) ∧
      (outboundDeliveryMetadata message dispatchCount acked nowMs update).get "max_attempts" = none := by
  unfold outboundDeliveryMetadata
  constructor
  · rw [get_merge_distinct _ h, hattempts, Option.none_or]
    simp [Value.get, Value.asObject, List.lookup_cons]
  · rw [get_merge_distinct _ h, hmax, Option.none_or]
    simp [Value.get, Value.asObject, List.lookup_cons]

theorem failedMetadata_attempts (message : OutboundMessageRecord) (errorText : String) (tsMs : Int) :
    (failedMetadata message errorText tsMs).get "attempts" = some (toValue (outboundAttempts message)) ∧
      (failedMetadata message errorText tsMs).get "max_attempts" = none := by
  apply get_outboundDeliveryMetadata_attempts
  · simp [Value.Distinct]
  · simp [Value.get, Value.asObject, List.lookup_cons]
  · simp [Value.get, Value.asObject, List.lookup_cons]

/-- The metadata of a settled dispatch is built of an update without a key twice. -/
theorem distinct_settledUpdate {fields : List (String × Value)} (h : (fields.map (·.1)).Nodup)
    (message : OutboundMessageRecord) (dispatchCount : Nat) :
    (mergeDeliveryMetadata (.object fields) (sharedFanoutDeliveryMetadata message dispatchCount)).Distinct :=
  @distinct_merge (.object fields) h _

theorem settledMetadata_attempts (message : OutboundMessageRecord) (report : DispatchReport) (registeredTsMs tsMs : Int) :
    (settledMetadata message report registeredTsMs tsMs).get "attempts" = some (toValue (outboundAttempts message)) ∧
      (settledMetadata message report registeredTsMs tsMs).get "max_attempts" = none := by
  apply get_outboundDeliveryMetadata_attempts (distinct_settledUpdate (by simp) _ _)
  · rw [get_merge_distinct _ (distinct_sharedFanoutDeliveryMetadata _ _),
      get_sharedFanoutDeliveryMetadata _ _ (by simp)]
    simp [Value.get, Value.asObject, List.lookup_cons]
  · rw [get_merge_distinct _ (distinct_sharedFanoutDeliveryMetadata _ _),
      get_sharedFanoutDeliveryMetadata _ _ (by simp)]
    simp [Value.get, Value.asObject, List.lookup_cons]

theorem settledMetadata_scheduled {message : OutboundMessageRecord} {report : DispatchReport}
    {registeredTsMs tsMs : Int} :
    (settledMetadata message report registeredTsMs tsMs).get "retry_scheduled" = some (toValue false) := by
  apply get_outboundDeliveryMetadata (distinct_settledUpdate (by simp) _ _)
  rw [get_merge_distinct _ (distinct_sharedFanoutDeliveryMetadata _ _),
    get_sharedFanoutDeliveryMetadata _ _ (by simp)]
  simp [Value.get, Value.asObject, List.lookup_cons]

/-- A state recorded with metadata that says nothing of the limit and of the attempts
what the message says. -/
theorem settle_course {deliveryState : String} {deliveryMetadata : Value} {stored message : OutboundMessageRecord}
    (hdistinct : deliveryMetadata.Distinct)
    (hupdate : deliveryMetadata.get "attempts" = some (toValue (outboundAttempts message)) ∧
      deliveryMetadata.get "max_attempts" = none) (hstored : SameCourse message stored) :
    SameCourse message (settle deliveryState deliveryMetadata stored) ∧
      outboundAttempts (settle deliveryState deliveryMetadata stored) = outboundAttempts message := by
  have hkept : (settle deliveryState deliveryMetadata stored).deliveryMetadata.get "max_attempts" =
      stored.deliveryMetadata.get "max_attempts" := by
    rw [get_settle hdistinct, hupdate.2, Option.none_or]
    split
    · exact get_removed (by decide)
    · rfl
  refine ⟨⟨hstored.method, hstored.mode, hstored.reason, hkept.trans hstored.maxAttempts⟩, ?_⟩
  apply outboundAttempts_of (outboundAttempts_lt message)
  rw [get_settle hdistinct, hupdate.1, Option.some_or]

section Attempts

variable [ServerHost]

theorem startAttempt_course (nowMs : Int) (message : OutboundMessageRecord) :
    SameCourse message (startAttempt nowMs message) := by
  refine ⟨rfl, rfl, rfl, ?_⟩
  simp [startAttempt, get_merge, List.lookup_cons, clearRetrySupersededDeliveryMetadata, get_removeKeys,
    retrySupersededKeys, successSupersededKeys]

/-- An attempt that is begun. -/
theorem ages_started (nowMs : Int) (row : OutboundMessageRecord) : Ages 0 row (startAttempt nowMs row) := by
  have hattempts : (startAttempt nowMs row).deliveryMetadata.get "attempts" = row.deliveryMetadata.get "attempts" := by
    simp [startAttempt, get_merge, List.lookup_cons, clearRetrySupersededDeliveryMetadata, get_removeKeys,
      retrySupersededKeys, successSupersededKeys]
  apply ages_closed (startAttempt_course nowMs row) (Nat.le_of_eq (outboundAttempts_same hattempts).symm)
  · apply not_awaits_of_scheduled
    simp [startAttempt, get_merge]
  · exact Nat.zero_le _

omit [ServerHost] in
theorem planned_attempts {errorText : String} {plan : RetryPlan}
    (hout : propagatedDirectTimeoutFallback row = false) (h : planOutboundRetry row errorText = some plan) :
    plan.attempts = saturatingAddU64 (outboundAttempts row) 1 ∧
      outboundRetryAttemptAllowed row (saturatingAddU64 (outboundAttempts row) 1)
        (outboundEffectiveMaxAttemptsForRetry row (outboundErrorIsRateLimited errorText)) = true := by
  -- The exceptions of the rule are for the fallback alone.
  have hbroadcast : propagatedBroadcastFallbackShouldRetryTransportFailure row errorText = false := by
    by_contra hretries
    simp only [propagatedBroadcastFallbackShouldRetryTransportFailure, Bool.not_eq_false, Bool.and_eq_true,
      beq_iff_eq] at hretries
    simp [propagatedDirectTimeoutFallback, propagatedMultiRecipientAllowsPartialSuccess, hretries.1.1.1,
      hretries.1.1.2, hretries.1.2] at hout
  unfold planOutboundRetry at h
  split at h
  · cases h
  · simp only [hout, hbroadcast, Bool.false_and, Bool.or_false] at h
    split at h
    · rename_i hallowed
      cases h
      exact ⟨rfl, hallowed⟩
    · cases h

/-- Whatever a dispatch comes back with, the message stays on its course. -/
theorem recorded_course {nowMs : Int} {outcome : Except ApiError DispatchReport} (h : Recorded row nowMs outcome row') :
    SameCourse row row' := by
  have hstarted := startAttempt_course nowMs row
  have hfailed : ∀ errorText tsMs,
      SameCourse row (settle "failed" (failedMetadata row errorText tsMs) (startAttempt nowMs row)) :=
    fun errorText tsMs =>
      (settle_course (distinct_failedMetadata row errorText tsMs) (failedMetadata_attempts row errorText tsMs) hstarted).1
  cases h with
  | retried tsMs hplan =>
    refine ⟨rfl, rfl, rfl, ?_⟩
    rw [← hstarted.maxAttempts]
    simp [RetryPlan.apply, get_merge, List.lookup_cons]
  | failed tsMs hplan => exact hfailed _ tsMs
  | retriedRejected tsMs hretries =>
    refine ⟨rfl, rfl, rfl, ?_⟩
    rw [← hstarted.maxAttempts]
    simp [retryRejected, get_merge, List.lookup_cons]
  | failedAll tsMs hretries hcount => exact hfailed _ tsMs
  | @settled report registeredTsMs tsMs hretries hcount =>
    exact (settle_course (distinct_settledMetadata row report registeredTsMs tsMs)
      (settledMetadata_attempts row report registeredTsMs tsMs) hstarted).1

/-- A dispatch whose outcome is recorded is spent. -/
theorem ages_recorded {nowMs : Int} {outcome : Except ApiError DispatchReport}
    (hout : propagatedDirectTimeoutFallback row = false) (hcountable : Countable row) (hwaits : awaitsRetry row)
    (h : Recorded row nowMs outcome row') : Ages 1 row row' := by
  have hmade : 1 ≤ if awaitsRetry row then 1 else 0 := by
    rw [if_pos hwaits]
  have hcourse := recorded_course h
  have hstarted := startAttempt_course nowMs row
  have hfailed : ∀ errorText tsMs,
      Ages 1 row (settle "failed" (failedMetadata row errorText tsMs) (startAttempt nowMs row)) := by
    intro errorText tsMs
    obtain ⟨hcourse, hattempts⟩ := @settle_course "failed" _ _ row (distinct_failedMetadata row errorText tsMs)
      (failedMetadata_attempts row errorText tsMs) hstarted
    apply ages_closed hcourse (Nat.le_of_eq hattempts.symm) _ hmade
    apply not_awaits_of_state
    · show "failed" ≠ "queued"
      decide
    · show (trim "failed").isEmpty = false
      decide
  cases h with
  | retried tsMs hplan =>
    obtain ⟨hattempts, hallowed⟩ := planned_attempts hout hplan
    apply ages_retried hout hcountable hcourse hallowed _ hmade
    simp [RetryPlan.apply, get_merge, List.lookup_cons, hattempts]
  | failed tsMs hplan => exact hfailed _ tsMs
  | retriedRejected tsMs hretries =>
    have hallowed := (Bool.and_eq_true _ _ ▸ hretries).2
    apply ages_retried hout hcountable hcourse hallowed _ hmade
    simp [retryRejected, get_merge, List.lookup_cons]
  | failedAll tsMs hretries hcount => exact hfailed _ tsMs
  | @settled report registeredTsMs tsMs hretries hcount =>
    have hattempts := (@settle_course (settledState row report) _ _ row
      (distinct_settledMetadata row report registeredTsMs tsMs)
      (settledMetadata_attempts row report registeredTsMs tsMs) hstarted).2
    apply ages_closed hcourse (Nat.le_of_eq hattempts.symm) _ hmade
    apply not_awaits_of_scheduled
    rw [get_settle (distinct_settledMetadata _ _ _ _), settledMetadata_scheduled, Option.some_or]

end Attempts

/-- A direct message to several recipients changes into the fallback. -/
theorem queueForPropagation_fallback {stored : OutboundMessageRecord} (nowMs : Int)
    (h : directDispatchTimeoutShouldQueuePropagation stored = true) :
    propagatedDirectTimeoutFallback (queueForPropagation nowMs stored) = true := by
  simp only [directDispatchTimeoutShouldQueuePropagation, Bool.and_eq_true, bne_iff_ne] at h
  cases hmode : stored.deliveryMode with
  | targeted => exact absurd hmode h.2
  | fanout =>
    simp [propagatedDirectTimeoutFallback, propagatedMultiRecipientAllowsPartialSuccess, queueForPropagation,
      directTimeoutPropagationPolicyReason, hmode]
  | broadcast =>
    simp [propagatedDirectTimeoutFallback, propagatedMultiRecipientAllowsPartialSuccess, queueForPropagation,
      directTimeoutPropagationPolicyReason, hmode]

/-- What a step makes of a message that spends so many dispatches. -/
def Moves (made : Nat) (row row' : OutboundMessageRecord) : Prop :=
  (propagatedDirectTimeoutFallback row = true → propagatedDirectTimeoutFallback row' = true) ∧
    (Countable row → propagatedDirectTimeoutFallback row' = true ∨ Ages made row row')

theorem moves_of_ages (h : Ages made row row') : Moves made row row' :=
  ⟨fun hin => h.fallback.trans hin, fun _ => .inr h⟩

/-- A step on the same course. -/
theorem moves_of_course (course : SameCourse row row')
    (h : propagatedDirectTimeoutFallback row = false → Countable row → Ages made row row') : Moves made row row' := by
  refine ⟨fun hin => course.fallback.trans hin, ?_⟩
  intro hcountable
  by_cases hin : propagatedDirectTimeoutFallback row = true
  · exact .inl (course.fallback.trans hin)
  · exact .inr (h (Bool.not_eq_true _ |>.mp hin) hcountable)

/-- An attempt that has timed out. -/
theorem moves_timeOut (nowMs : Int) (row : OutboundMessageRecord) : Moves 0 row (timeOut nowMs row).1 := by
  unfold timeOut
  by_cases hpropagates : directDispatchTimeoutShouldQueuePropagation row = true
  · rw [if_pos hpropagates]
    have hfallback : propagatedDirectTimeoutFallback (timeOutIntoPropagation nowMs row) = true :=
      queueForPropagation_fallback nowMs hpropagates
    exact ⟨fun _ => hfallback, fun _ => .inl hfallback⟩
  rw [if_neg hpropagates]
  by_cases hretries : retriesTimeout row = true
  · rw [if_pos hretries]
    have hcourse : SameCourse row (timeOutIntoRetry nowMs row) := by
      refine ⟨rfl, rfl, rfl, ?_⟩
      simp [timeOutIntoRetry, get_merge, List.lookup_cons]
    apply moves_of_course hcourse
    intro hout hcountable
    apply ages_retried hout hcountable hcourse (Bool.and_eq_true _ _ ▸ hretries).2 _ (Nat.zero_le _)
    simp [timeOutIntoRetry, get_merge, List.lookup_cons]
  · rw [if_neg hretries]
    have hcourse : SameCourse row (timeOutIntoFailure nowMs row) := by
      refine ⟨rfl, rfl, rfl, ?_⟩
      simp [timeOutIntoFailure, get_merge, List.lookup_cons]
    have hattempts : outboundAttempts (timeOutIntoFailure nowMs row) = saturatingAddU64 (outboundAttempts row) 1 := by
      apply outboundAttempts_of (saturatingAddU64_lt _ _)
      simp [timeOutIntoFailure, get_merge, List.lookup_cons]
    apply moves_of_ages
    apply ages_closed hcourse _ _ (Nat.zero_le _)
    · have hbound := outboundAttempts_lt row
      rw [hattempts]
      unfold saturatingAddU64
      omega
    · apply not_awaits_of_scheduled
      simp [timeOutIntoFailure, get_merge]

/-- A receipt past its deadline. -/
theorem moves_expireReceipt (nowMs : Int) (row : OutboundMessageRecord) : Moves 0 row (expireReceipt nowMs row).1 := by
  have hgiven : Moves 0 row (giveUpReceipt nowMs row) := by
    apply moves_of_ages
    have hattempts : outboundAttempts (giveUpReceipt nowMs row) = saturatingAddU64 (outboundAttempts row) 1 := by
      apply outboundAttempts_of (saturatingAddU64_lt _ _)
      simp [giveUpReceipt, get_merge, List.lookup_cons]
    have hcourse : SameCourse row (giveUpReceipt nowMs row) := by
      refine ⟨rfl, rfl, rfl, ?_⟩
      simp [giveUpReceipt, get_merge, List.lookup_cons]
    apply ages_closed hcourse _ _ (Nat.zero_le _)
    · have hbound := outboundAttempts_lt row
      rw [hattempts]
      unfold saturatingAddU64
      omega
    · apply not_awaits_of_scheduled
      simp [giveUpReceipt, get_merge, List.lookup_cons]
  have hextended : ∀ status, Moves 0 row (extendReceipt status nowMs row) := by
    intro status
    apply moves_of_ages
    have hcourse : SameCourse row (extendReceipt status nowMs row) := by
      refine ⟨rfl, rfl, rfl, ?_⟩
      simp [extendReceipt, get_merge, List.lookup_cons]
    apply ages_same hcourse rfl
    · simp [extendReceipt, get_merge, List.lookup_cons]
    · simp [extendReceipt, get_merge, List.lookup_cons]
  unfold expireReceipt
  split
  · split
    · exact hextended _
    · exact hgiven
  · exact hgiven

/-- A message in a state that is over, its attempts as they were. -/
theorem moves_over (course : SameCourse row row')
    (hattempts : row'.deliveryMetadata.get "attempts" = row.deliveryMetadata.get "attempts")
    (h : ["sent", "delivered", "propagated", "failed"].contains row'.deliveryState = true) : Moves 0 row row' := by
  have hstate : row'.deliveryState ≠ "queued" ∧ (trim row'.deliveryState).isEmpty = false := by
    simp at h
    obtain h | h | h | h := h
    all_goals
      rw [h]
      decide
  apply moves_of_ages
  exact ages_closed course (Nat.le_of_eq (outboundAttempts_same hattempts).symm)
    (not_awaits_of_state hstate.1 hstate.2) (Nat.zero_le _)

/-- What the daemon says of a copy is stored under keys of its own. -/
theorem snapshotFields_lookup (snapshot : Option LxmfDeliverySnapshot) {key : String}
    (h : key = "max_attempts" ∨ key = "attempts" ∨ key = "retry_scheduled") :
    ((snapshot.map sdkDeliverySnapshotMetadata).getD []).reverse.lookup key = none := by
  cases snapshot with
  | none => rfl
  | some snapshot => obtain rfl | rfl | rfl := h <;> simp [sdkDeliverySnapshotMetadata, List.lookup_cons]

/-- What the books say of a partial delivery is stored under keys of its own. -/
theorem partialSuccess_get (row : OutboundMessageRecord) {key : String} (h : key = "max_attempts" ∨ key = "attempts") :
    (propagatedFanoutPartialSuccessMetadata row).get key = none := by
  unfold propagatedFanoutPartialSuccessMetadata
  split
  · rfl
  · dsimp only
    split
    · rfl
    · obtain rfl | rfl := h <;> rfl

theorem distinct_partialSuccess (row : OutboundMessageRecord) : (propagatedFanoutPartialSuccessMetadata row).Distinct := by
  unfold propagatedFanoutPartialSuccessMetadata
  split
  · exact List.nodup_nil
  · dsimp only
    split
    · exact List.nodup_nil
    · show List.Nodup ["partial_delivery", "failed_destinations", "propagated_destinations"]
      decide

/-- What a poll finds leaves the attempts and their limit as they are. -/
theorem report_keeps (report : StatusReport) (nowMs : Int) (row : OutboundMessageRecord) {key : String}
    (h : key = "max_attempts" ∨ key = "attempts") :
    (report.write nowMs row).deliveryMetadata.get key = row.deliveryMetadata.get key := by
  cases report with
  | statuses found =>
    have hsnapshot : ∀ snapshot : Option LxmfDeliverySnapshot,
        ((snapshot.map sdkDeliverySnapshotMetadata).getD []).reverse.lookup key = none := by
      intro snapshot
      exact snapshotFields_lookup snapshot (h.imp id .inl)
    simp only [StatusReport.write, get_removeKeys, get_merge, hsnapshot]
    obtain rfl | rfl := h <;> simp [List.lookup_cons]
  | sent receiptStatus =>
    have hdistinct : (mergeDeliveryMetadata (.object [("acked", toValue false), ("dispatch_status", toValue "accepted"),
        ("receipt_pending", toValue false), ("receipt_status", toValue receiptStatus),
        ("receipt_sent_ts_ms", toValue nowMs), ("receipt_timeout", toValue false)])
        (propagatedFanoutPartialSuccessMetadata row)).Distinct := by
      apply distinct_merge
      show List.Nodup ["acked", "dispatch_status", "receipt_pending", "receipt_status", "receipt_sent_ts_ms",
        "receipt_timeout"]
      decide
    simp only [StatusReport.write]
    rw [get_merge_distinct _ hdistinct, get_merge_distinct _ (distinct_partialSuccess row), partialSuccess_get row h]
    unfold clearSuccessSupersededDeliveryMetadata
    rw [get_removeKeys]
    obtain rfl | rfl := h <;> simp [get_object, List.lookup_cons, successSupersededKeys]
  | _ =>
    obtain rfl | rfl := h <;> simp [StatusReport.write, get_merge, List.lookup_cons,
      clearSuccessSupersededDeliveryMetadata, get_removeKeys, successSupersededKeys]

theorem report_course (report : StatusReport) (nowMs : Int) (row : OutboundMessageRecord) :
    SameCourse row (report.write nowMs row) := by
  have hmax := report_keeps report nowMs row (.inl rfl)
  cases report with
  | _ => exact ⟨rfl, rfl, rfl, hmax⟩

/-- What a poll finds. -/
theorem moves_report (report : StatusReport) (nowMs : Int) (row : OutboundMessageRecord) :
    Moves 0 row (report.write nowMs row) := by
  have hcourse := report_course report nowMs row
  have hattempts := report_keeps report nowMs row (.inr rfl)
  cases report with
  | polled =>
    apply moves_of_ages
    apply ages_same hcourse rfl hattempts
    simp [StatusReport.write, get_merge, List.lookup_cons]
  | cutShort error =>
    apply moves_of_ages
    apply ages_same hcourse rfl hattempts
    simp [StatusReport.write, get_merge, List.lookup_cons]
  | statuses found =>
    apply moves_of_ages
    apply ages_same hcourse rfl hattempts
    have hsnapshot : ∀ snapshot : Option LxmfDeliverySnapshot,
        ((snapshot.map sdkDeliverySnapshotMetadata).getD []).reverse.lookup "retry_scheduled" = none := by
      intro snapshot
      exact snapshotFields_lookup snapshot (.inr (.inr rfl))
    simp [StatusReport.write, get_removeKeys, get_merge, hsnapshot, List.lookup_cons]
  | delivered receiptStatus =>
    apply moves_over hcourse hattempts
    show ["sent", "delivered", "propagated", "failed"].contains
      (if row.deliveryMethod = "propagated" then "propagated" else "delivered") = true
    split
    · decide
    · decide
  | sent receiptStatus =>
    apply moves_over hcourse hattempts
    show ["sent", "delivered", "propagated", "failed"].contains (deliverySuccessState row) = true
    unfold deliverySuccessState
    split
    · decide
    · decide
  | failed receiptStatus =>
    apply moves_over hcourse hattempts
    show ["sent", "delivered", "propagated", "failed"].contains "failed" = true
    decide

end Rows

/-! ## The steps of the worker -/

section Steps

variable {planes : DataPlane → Prop} {messageId : String} {row row' : OutboundMessageRecord} {calls calls' : List Sending}
  {routing : Routing} {locked : Bool} {ids : List String} {nowMs : Int} {made : Nat}

/-- A pass of the worker dispatches a message that looks so. -/
def dispatchDue (nowMs : Int) (message : OutboundMessageRecord) : Bool :=
  outboundRetryDue message nowMs && !failedDirectTimeoutRetryDue message nowMs

/-- The dispatches of a message in a pass of the worker: a locked database stops every
attempt before it is made. -/
def dispatchesIn (messageId : String) (w : ServerWorld) : Nat :=
  if w.state.persistenceLocked then 0
  else (w.account messageId).rows.countP (dispatchDue (w.clock 0).timestampMillis)

/-- Outside of the fallback what is dispatched has waited for it. -/
theorem awaits_of_due (hout : propagatedDirectTimeoutFallback row = false) (hdue : outboundRetryDue row nowMs = true)
    (hdirect : failedDirectTimeoutRetryDue row nowMs = false) : awaitsRetry row := by
  unfold outboundRetryDue at hdue
  rw [hdirect, failedPropagationFallbackRetryDue, hout] at hdue
  simp only [Bool.and_false, Bool.false_and, Bool.or_false, Bool.and_eq_true] at hdue
  exact awaits_of_scheduled hdue.1.1 hdue.1.2

/-- What the repair of a failed direct message makes of it. -/
theorem moves_repaired (hdirect : failedDirectTimeoutRetryDue row nowMs = true) :
    Moves made row (queueForPropagation nowMs row) := by
  have hfallback : propagatedDirectTimeoutFallback (queueForPropagation nowMs row) = true := by
    apply queueForPropagation_fallback
    simp only [failedDirectTimeoutRetryDue, Bool.and_eq_true] at hdirect
    exact hdirect.1.1.1.2
  exact ⟨fun _ => hfallback, fun _ => .inl hfallback⟩

section Passes

variable [ServerHost]

/-- What a pass over an unlocked database makes of a message. -/
theorem moves_passed (h : Passed planes row calls routing nowMs row' calls') :
    Moves (if dispatchDue nowMs row then 1 else 0) row row' ∧
      calls'.length ≤ calls.length + if dispatchDue nowMs row then 1 else 0 := by
  cases h with
  | idle hdue =>
    have hnone : dispatchDue nowMs row = false := by simp [dispatchDue, hdue]
    rw [hnone]
    exact ⟨moves_of_ages (Ages.refl row), Nat.le_refl _⟩
  | repaired hdirect =>
    have hnone : dispatchDue nowMs row = false := by simp [dispatchDue, hdirect]
    rw [hnone]
    exact ⟨moves_repaired hdirect, Nat.le_refl _⟩
  | attempted hdue hdirect hdispatched hrecorded =>
    have hone : dispatchDue nowMs row = true := by simp [dispatchDue, hdue, hdirect]
    rw [hone, if_pos rfl]
    constructor
    · apply moves_of_course (recorded_course hrecorded)
      intro hout hcountable
      exact ages_recorded hout hcountable (awaits_of_due hout hdue hdirect) hrecorded
    · rw [List.length_append]
      cases hdispatched with
      | answered => exact Nat.le_refl _
      | unanswered => exact Nat.le_refl _
      | _ => exact Nat.le_succ _

/-! A locked database stops what would be written to it; the message has been rewritten
by then. -/

omit [ServerHost] in
theorem watch_persistLocked {t : Account} (hlocked : t.locked = true) (message : OutboundMessageRecord) :
    Proc.Spec (watching planes messageId) (persistOutboundMessageRow message) t fun r t' =>
      (∃ e, r = .error e) ∧ t' = t := by
  have hensure : Proc.Spec (watching planes messageId) ensureKillSwitchPersistenceUnlocked t fun r t' =>
      (∃ e, r = .error e) ∧ t' = t := by
    apply watch_read
    rintro w rfl
    have hlocked' : w.state.persistenceLocked = true := hlocked
    rw [hlocked', if_pos rfl]
    exact Proc.Spec.throw ⟨⟨_, rfl⟩, rfl⟩
  exact Proc.Spec.stop hensure fun e => ⟨⟨e, rfl⟩, rfl⟩

theorem watch_markLocked :
    Proc.Spec (watching planes messageId) (markOutboundAttemptStarted messageId nowMs)
      ⟨[row], calls, routing, true, ids⟩ fun r t' =>
        (∃ e, r = .error e) ∧ t' = ⟨[startAttempt nowMs row], calls, routing, true, ids⟩ := by
  unfold markOutboundAttemptStarted
  apply Proc.Spec.bind (watch_withMessage (keepsId_startAttempt nowMs))
  · rintro found t' ⟨rfl, hr⟩
    cases hr
    unfold persisted
    rw [Proc.bind_bind]
    exact Proc.Spec.stop (watch_persistLocked rfl _) fun e => ⟨⟨e, rfl⟩, rfl⟩
  · rintro e t' ⟨-, hr⟩
    cases hr

omit [ServerHost] in
theorem watch_queueLocked :
    Proc.Spec (watching planes row.messageId) (queueDirectTimeoutForPropagation row nowMs)
      ⟨[row], calls, routing, true, ids⟩ fun r t' =>
        (∃ e, r = .error e) ∧ t' = ⟨[queueForPropagation nowMs row], calls, routing, true, ids⟩ := by
  unfold queueDirectTimeoutForPropagation
  apply Proc.Spec.bind (watch_withMessage (keepsId_queueForPropagation nowMs))
  · rintro found t' ⟨rfl, hr⟩
    cases hr
    apply Proc.Spec.found rfl
    exact Proc.Spec.stop (watch_persistLocked rfl _) fun e => ⟨⟨e, rfl⟩, rfl⟩
  · rintro e t' ⟨-, hr⟩
    cases hr

/-- A round over a locked database begins an attempt at most. -/
theorem watch_lockedRound {report : OutboundRetryWorkerReport} :
    Proc.Spec (watching planes row.messageId) (processDueMessage nowMs report row) ⟨[row], calls, routing, true, ids⟩
      fun _ t' => ∃ row', t' = ⟨[row'], calls, routing, true, ids⟩ ∧ Moves 0 row row' := by
  apply Proc.Spec.ite
  · intro hdirect
    unfold repairDirectTimeout
    rw [Proc.bind_bind]
    exact Proc.Spec.stop watch_queueLocked fun e => ⟨_, rfl, moves_repaired hdirect⟩
  · intro _
    unfold attemptDispatch
    rw [Proc.bind_bind]
    exact Proc.Spec.stop watch_markLocked fun e => ⟨_, rfl, moves_of_ages (ages_started nowMs row)⟩

/-- What a pass over a locked database makes of a message of which there is one row. -/
theorem watch_lockedMessages (nowMs : Int) {messages : List OutboundMessageRecord}
    (hrows : messages.filter (·.messageId == row.messageId) = [row]) :
    Proc.Spec (watching planes row.messageId)
      ((messages.filter (outboundRetryDue · nowMs)).foldlM (processDueMessage nowMs) {})
      ⟨[row], calls, routing, true, ids⟩ fun _ t' =>
        ∃ row', t' = ⟨[row'], calls, routing, true, ids⟩ ∧ Moves 0 row row' := by
  obtain ⟨before, after, hmessages, hbefore, hafter⟩ := rows_around hrows
  have hothers : ∀ items : List OutboundMessageRecord, (∀ other ∈ items, other.messageId ≠ row.messageId) → ∀ report,
      Leaves planes row.messageId ((items.filter (outboundRetryDue · nowMs)).foldlM (processDueMessage nowMs) report) := by
    intro items hitems report t
    apply (watch_processOthers _ (fun other hother => hitems other (List.mem_filter.1 hother).1) report).mono
    rintro r t' ⟨rfl, -⟩
    rfl
  have hstill : Moves 0 row row := moves_of_ages (Ages.refl row)
  rw [hmessages, List.filter_append, List.foldlM_append]
  apply Proc.Spec.after (hothers before hbefore _)
  swap
  · intro e
    exact ⟨row, rfl, hstill⟩
  intro report
  by_cases hdue : outboundRetryDue row nowMs = true
  · rw [List.filter_cons_of_pos (by simpa using hdue), List.foldlM_cons]
    apply Proc.Spec.bind watch_lockedRound
    · rintro report' t' ⟨row', rfl, hmoves⟩
      apply (hothers after hafter report' _).mono
      rintro r t' rfl
      exact ⟨row', rfl, hmoves⟩
    · rintro e t' h
      exact h
  · rw [List.filter_cons_of_neg (by simpa using hdue)]
    apply (hothers after hafter report _).mono
    rintro r t' rfl
    exact ⟨row, rfl, hstill⟩

end Passes

/-! What the rest of a tick does. -/

/-- All messages that match are rewritten. -/
theorem watch_rewriteAll {matching : OutboundMessageRecord → Bool} {f : OutboundMessageRecord → OutboundMessageRecord}
    (hf : KeepsId f) :
    Proc.Spec (watching planes messageId) (update fun s => { s with
      messages := s.messages.map fun message => if matching message then f message else message })
      ⟨[row], calls, routing, locked, ids⟩ fun r t' =>
        r = .ok () ∧ t' = ⟨[if matching row then f row else row], calls, routing, locked, ids⟩ := by
  intro w hview hrest
  have hkeeps : ∀ message : OutboundMessageRecord,
      (if matching message then f message else message).messageId = message.messageId := by
    intro message
    split
    · exact hf message
    · rfl
  have hview' := Account.mk.injEq _ _ _ _ _ _ _ _ _ _ |>.mp hview
  obtain ⟨hrows, hcalls, hrouting, hlocked, hids⟩ := hview'
  refine ⟨⟨rfl, ?_⟩, hrest.timely, hrest.planes⟩
  show (⟨_, _, _, _, _⟩ : Account) = _
  congr 1
  · show List.filter _ (List.map _ _) = _
    rw [List.filter_map]
    have hsame : ((fun message : OutboundMessageRecord => message.messageId == messageId) ∘ fun message =>
        if matching message then f message else message) = fun message => message.messageId == messageId := by
      funext message
      simp only [Function.comp_apply, hkeeps message]
    rw [hsame, hrows]
    rfl
  · show List.map _ (List.map _ _) = _
    rw [List.map_map]
    have hsame : (MessageRecord.messageId ∘ fun message : OutboundMessageRecord =>
        if matching message then f message else message) = MessageRecord.messageId := by
      funext message
      exact hkeeps message
    rw [hsame]
    exact hids

/-- The first message that matches is rewritten, all matches being of the one id. -/
theorem watch_rewriteFirst {matching : OutboundMessageRecord → Bool}
    {f : OutboundMessageRecord → OutboundMessageRecord} (hf : KeepsId f)
    (hid : ∀ message, matching message = true → message.messageId = messageId) :
    Proc.Spec (watching planes messageId) (update fun s => { s with messages := replaceFirst matching f s.messages })
      ⟨[row], calls, routing, locked, ids⟩ fun r t' =>
        r = .ok () ∧ t' = ⟨[if matching row then f row else row], calls, routing, locked, ids⟩ := by
  intro w hview hrest
  have hview' := Account.mk.injEq _ _ _ _ _ _ _ _ _ _ |>.mp hview
  obtain ⟨hrows, hcalls, hrouting, hlocked, hids⟩ := hview'
  refine ⟨⟨rfl, ?_⟩, hrest.timely, hrest.planes⟩
  show (⟨_, _, _, _, _⟩ : Account) = _
  congr 1
  · show List.filter _ (replaceFirst _ _ _) = _
    rw [filter_replaceFirst (fun message h => ⟨by simp [hid message h], by simp [hf message, hid message h]⟩), hrows]
    by_cases h : matching row = true
    · rw [replaceFirst, if_pos h, if_pos h]
    · rw [replaceFirst, if_neg h, if_neg h, replaceFirst]
  · exact (map_replaceFirst hf).trans hids

theorem keepsId_timeOut (nowMs : Int) : KeepsId fun message => (timeOut nowMs message).1 := by
  intro message
  show (timeOut nowMs message).1.messageId = _
  unfold timeOut
  split
  · rfl
  · split
    · rfl
    · rfl

theorem keepsId_expireReceipt (nowMs : Int) : KeepsId fun message => (expireReceipt nowMs message).1 := by
  intro message
  show (expireReceipt nowMs message).1.messageId = _
  unfold expireReceipt
  split
  · split
    · rfl
    · rfl
  · rfl

theorem keepsId_report (report : StatusReport) (nowMs : Int) : KeepsId (report.write nowMs) := by
  intro message
  cases report with
  | _ => rfl

/-- What a rewrite of the messages that match makes of a message. -/
theorem moves_if {matching : Bool} (h : Moves 0 row row') : Moves 0 row (if matching then row' else row) := by
  cases matching with
  | true => exact h
  | false => exact moves_of_ages (Ages.refl row)

/-- What is told of a rewrite leaves the message as the rewrite made it. -/
theorem watch_told {told : ServerM Unit} (leaves : Leaves planes messageId told) (moves : Moves 0 row row') :
    Proc.Spec (watching planes messageId) told ⟨[row'], calls, routing, locked, ids⟩
      fun _ t' => ∃ row', t' = ⟨[row'], calls, routing, locked, ids⟩ ∧ Moves 0 row row' := by
  apply (leaves _).mono
  rintro r t' rfl
  exact ⟨row', rfl, moves⟩

/-- Attempts that have not come back are timed out. -/
theorem watch_finalizeStale :
    Proc.Spec (watching planes messageId) finalizeStalePendingDispatches ⟨[row], calls, routing, locked, ids⟩
      fun _ t' => ∃ row', t' = ⟨[row'], calls, routing, locked, ids⟩ ∧ Moves 0 row row' := by
  unfold finalizeStalePendingDispatches
  apply watch_now
  intro nowMs _
  apply watch_read
  rintro w -
  apply Proc.Spec.step (watch_rewriteAll (keepsId_timeOut nowMs))
  apply watch_told _ (moves_if (moves_timeOut nowMs row))
  apply Proc.Keeps.bind
  · apply Proc.Keeps.forM
    intro changed _
    exact (Passes.persistOutboundMessageRow _).leaves
  · intro _
    apply Proc.Keeps.forM
    intro changed _
    apply Proc.Keeps.bind (Passes.recordSystemEvent _ _ _).leaves
    intro _
    exact Proc.Keeps.pure _

/-- Receipts past their deadline are given up. -/
theorem watch_finalizeExpired :
    Proc.Spec (watching planes messageId) finalizeExpiredDeliveryReceipts ⟨[row], calls, routing, locked, ids⟩
      fun _ t' => ∃ row', t' = ⟨[row'], calls, routing, locked, ids⟩ ∧ Moves 0 row row' := by
  unfold finalizeExpiredDeliveryReceipts
  apply watch_now
  intro nowMs _
  apply watch_read
  rintro w -
  apply Proc.Spec.step (watch_rewriteAll (keepsId_expireReceipt nowMs))
  apply watch_told _ (moves_if (moves_expireReceipt nowMs row))
  apply Proc.Keeps.bind
  · apply Proc.Keeps.forM
    intro changed _
    exact (Passes.persistOutboundMessageRow _).leaves
  · intro _
    apply Proc.Keeps.forM
    intro changed _
    apply Proc.Keeps.bind (Passes.recordSystemEvent _ _ _).leaves
    intro _
    exact Proc.Keeps.pure _

/-- A report of a poll is handled. -/
theorem watch_report (id : String) (report : StatusReport) :
    Proc.Spec (watching planes messageId) (report.handle id) ⟨[row], calls, routing, locked, ids⟩
      fun _ t' => ∃ row', t' = ⟨[row'], calls, routing, locked, ids⟩ ∧ Moves 0 row row' := by
  have hstill : Moves 0 row row := moves_of_ages (Ages.refl row)
  unfold StatusReport.handle
  apply watch_now
  intro nowMs _
  apply watch_read
  rintro w -
  split
  · exact Proc.Spec.pure ⟨row, rfl, hstill⟩
  · rename_i found hfound
    have hwrite : Proc.Spec (watching planes messageId) (update fun s => { s with
        messages := replaceFirst (fun message => message.messageId == id && report.concerns message)
          (report.write nowMs) s.messages }) ⟨[row], calls, routing, locked, ids⟩ fun r t' =>
          r = .ok () ∧ ∃ row', t' = ⟨[row'], calls, routing, locked, ids⟩ ∧ Moves 0 row row' := by
      by_cases hid : id = messageId
      · apply (watch_rewriteFirst (keepsId_report report nowMs) _).mono
        · rintro r t' ⟨hr, rfl⟩
          exact ⟨hr, _, rfl, moves_if (moves_report report nowMs row)⟩
        · intro message hconcerned
          exact (beq_iff_eq.1 (Bool.and_eq_true _ _ ▸ hconcerned).1).trans hid
      · intro w hview hrest
        have hothers : ∀ message, (message.messageId == id && report.concerns message) = true →
            message.messageId ≠ messageId := by
          intro message hconcerned heq
          exact hid ((beq_iff_eq.1 (Bool.and_eq_true _ _ ▸ hconcerned).1).symm.trans heq)
        obtain ⟨⟨ht, -⟩, hrest'⟩ := passes_rewriteFirst (keepsId_report report nowMs) hothers _ w hview hrest
        exact ⟨⟨rfl, row, ht, hstill⟩, hrest'⟩
    apply Proc.Spec.bind hwrite
    · rintro _ t' ⟨-, row', rfl, hmoves⟩
      apply watch_told _ hmoves
      apply Proc.Keeps.bind (Passes.persistOutboundMessageRow _).leaves
      intro _
      split
      · exact Proc.Keeps.pure _
      · apply Proc.Keeps.bind (Passes.recordSystemEvent _ _ _).leaves
        intro _
        exact Proc.Keeps.pure _
    · rintro e t' ⟨he, -⟩
      cases he

end Steps

/-! ## Runs -/

section Runs

variable [ServerHost] {messageId : String} {row : OutboundMessageRecord}

/-- A step as a message sees it, and the dispatches of the message in it: a part of a
tick of the worker, or whatever else goes on, the message and the calls made for it left
as they are. -/
inductive RetryStep (messageId : String) : ServerWorld → Nat → ServerWorld → Prop
  | pass (w : ServerWorld) : RetryStep messageId w (dispatchesIn messageId w) (workerPass w)
  | timeouts (w : ServerWorld) : RetryStep messageId w 0 (finalizeStalePendingDispatches.run w).2
  | polled (w : ServerWorld) (id : String) (report : StatusReport) :
    RetryStep messageId w 0 ((report.handle id).run w).2
  | receipts (w : ServerWorld) : RetryStep messageId w 0 (finalizeExpiredDeliveryReceipts.run w).2
  | other (w w' : ServerWorld) (hrows : (w'.account messageId).rows = (w.account messageId).rows)
    (hcalls : (w'.account messageId).calls = (w.account messageId).calls) (htimely : w'.Timely) :
    RetryStep messageId w 0 w'

/-- A tick of the worker is made of such steps. -/
theorem tick_steps (found : List (String × StatusReport)) :
    Proc.Walks (fun w w' => ∃ made, RetryStep messageId w made w') (processOutboundDeliveryWorkerTick found) := by
  unfold processOutboundDeliveryWorkerTick
  apply Proc.Walks.bind (Proc.Walks.step fun w => ⟨0, .timeouts w⟩)
  intro _
  apply Proc.Walks.bind (Proc.Walks.step fun w => ⟨_, .pass w⟩)
  intro report
  split
  · apply Proc.Walks.bind
    · apply Proc.Walks.forM
      intro report
      exact Proc.Walks.step fun w => ⟨0, .polled w report.1 report.2⟩
    · intro _
      apply Proc.Walks.bind (Proc.Walks.step fun w => ⟨0, .receipts w⟩)
      intro _
      exact Proc.Walks.pure _
  · exact Proc.Walks.pure _

omit [ServerHost] in
/-- A step that only looks after the message. -/
theorem quiet_step {w : ServerWorld} {m : ServerM Unit} {t : Account} (hruns : w.Runs fun _ => True)
    (haccount : w.account messageId = t)
    (hm : Proc.Spec (watching (fun _ => True) messageId) m t fun _ t' =>
      ∃ row', t' = ⟨[row'], t.calls, t.routing, t.locked, t.ids⟩ ∧ Moves 0 row row') :
    (m.run w).2.Timely ∧ ∃ row', ((m.run w).2.account messageId).rows = [row'] ∧ Moves 0 row row' ∧
      ((m.run w).2.account messageId).calls.length ≤ t.calls.length + 0 := by
  obtain ⟨⟨row', haccount', hmoves⟩, hruns'⟩ := hm w haccount hruns
  have hrows' := congrArg Account.rows haccount'
  have hcalls' := congrArg Account.calls haccount'
  exact ⟨hruns'.timely, row', hrows', hmoves, Nat.le_of_eq (congrArg List.length hcalls')⟩

/-- What a pass over a locked database makes of a message of which there is one row. -/
theorem lockedPass_account {planes : DataPlane → Prop} {w : ServerWorld} {calls : List Sending} {routing : Routing}
    {ids : List String} (hruns : w.Runs planes) (h : w.account row.messageId = ⟨[row], calls, routing, true, ids⟩) :
    (workerPass w).Runs planes ∧ ∃ row',
      (workerPass w).account row.messageId = ⟨[row'], calls, routing, true, ids⟩ ∧ Moves 0 row row' := by
  have hrows : w.state.messages.filter (·.messageId == row.messageId) = [row] := congrArg Account.rows h
  obtain ⟨⟨row', haccount, hmoves⟩, hruns'⟩ :=
    watch_lockedMessages (w.clock 0).timestampMillis hrows { w with clock := fun n => w.clock (n + 1) } h (hruns.later 1)
  exact ⟨hruns', row', haccount, hmoves⟩

/-- What one step makes of a message. -/
theorem retry_step {w w' : ServerWorld} {made : Nat} (hstep : RetryStep messageId w made w') (htimely : w.Timely)
    (hrows : (w.account messageId).rows = [row]) :
    w'.Timely ∧ ∃ row', (w'.account messageId).rows = [row'] ∧ Moves made row row' ∧
      (w'.account messageId).calls.length ≤ (w.account messageId).calls.length + made := by
  have hruns : w.Runs fun _ => True := ⟨htimely, fun _ => trivial⟩
  have hid : row.messageId = messageId := by
    have hin : row ∈ (w.account messageId).rows := by simp [hrows]
    exact beq_iff_eq.1 (List.mem_filter.1 hin).2
  subst hid
  generalize hcalls : (w.account row.messageId).calls = calls
  have haccount : w.account row.messageId = ⟨[row], calls, w.state.routing, w.state.persistenceLocked,
      w.state.messages.map (·.messageId)⟩ := by
    rw [← hrows, ← hcalls]
    rfl
  cases hstep with
  | pass =>
    have hcount : dispatchesIn row.messageId w = if w.state.persistenceLocked then 0
        else if dispatchDue (w.clock 0).timestampMillis row then 1 else 0 := by
      unfold dispatchesIn
      rw [hrows, List.countP_singleton]
    rw [hcount]
    cases hlocked : w.state.persistenceLocked with
    | true =>
      rw [if_pos rfl]
      rw [hlocked] at haccount
      obtain ⟨hruns', row', haccount', hmoves⟩ := lockedPass_account hruns haccount
      have hcalls' := congrArg Account.calls haccount'
      exact ⟨hruns'.timely, row', congrArg Account.rows haccount', hmoves,
        Nat.le_of_eq (congrArg List.length hcalls')⟩
    | false =>
      rw [if_neg Bool.false_ne_true]
      rw [hlocked] at haccount
      obtain ⟨hruns', row', calls', haccount', hpassed⟩ := pass_account hruns haccount
      obtain ⟨hmoves, hlength⟩ := moves_passed hpassed
      have hcalls' := congrArg Account.calls haccount'
      refine ⟨hruns'.timely, row', congrArg Account.rows haccount', hmoves, ?_⟩
      rw [hcalls']
      exact hlength
  | timeouts => exact quiet_step hruns haccount watch_finalizeStale
  | polled id report => exact quiet_step hruns haccount (watch_report id report)
  | receipts => exact quiet_step hruns haccount watch_finalizeExpired
  | other _ hrows' hcalls' htimely' =>
    refine ⟨htimely', row, hrows'.trans hrows, moves_of_ages (Ages.refl row), ?_⟩
    rw [hcalls', hcalls]
    exact Nat.le_refl _

/-- The retries of a message over a run, outside of the fallback: they stay within the
budget, and in the end there are none. -/
structure RetriesBounded (messageId : String) (worlds : Nat → ServerWorld) (made : Nat → Nat)
    (rows : Nat → OutboundMessageRecord) : Prop where
  stored : ∀ i, ((worlds i).account messageId).rows = [rows i]
  oneWay : ∀ i, propagatedDirectTimeoutFallback (rows i) = true → propagatedDirectTimeoutFallback (rows (i + 1)) = true
  spends : ∀ i, propagatedDirectTimeoutFallback (rows (i + 1)) = true ∨ Ages (made i) (rows i) (rows (i + 1))
  called : ∀ n, ((worlds n).account messageId).calls.length ≤
    ((worlds 0).account messageId).calls.length + ∑ i ∈ Finset.range n, made i
  budget : ∀ n, propagatedDirectTimeoutFallback (rows n) = true ∨
    ∑ i ∈ Finset.range n, made i ≤ attemptLimit (rows 0) - outboundAttempts (rows 0) + 1
  stops : ∃ n, ∀ i ≥ n, propagatedDirectTimeoutFallback (rows i) = true ∨ made i = 0

/-- Outside of the fallback a message is dispatched within its budget and stops being
dispatched in the end. -/
theorem retries_bounded {worlds : Nat → ServerWorld} {made : Nat → Nat} (htimely : (worlds 0).Timely)
    (hrow : ((worlds 0).account messageId).rows = [row]) (hcountable : Countable row)
    (hrun : ∀ i, RetryStep messageId (worlds i) (made i) (worlds (i + 1))) :
    ∃ rows, RetriesBounded messageId worlds made rows := by
  have hstays : ∀ i, (worlds i).Timely ∧ ∃ row', ((worlds i).account messageId).rows = [row'] ∧
      (propagatedDirectTimeoutFallback row' = true ∨ Countable row') := by
    intro i
    induction i with
    | zero => exact ⟨htimely, row, hrow, .inr hcountable⟩
    | succ i ih =>
      obtain ⟨htimely', row', hrow', hcountable'⟩ := ih
      obtain ⟨htimely'', row'', hrow'', hmoves, -⟩ := retry_step (hrun i) htimely' hrow'
      refine ⟨htimely'', row'', hrow'', ?_⟩
      obtain hin | hcountable' := hcountable'
      · exact .inl (hmoves.1 hin)
      · obtain hin | hages := hmoves.2 hcountable'
        · exact .inl hin
        · exact .inr (hages.countable hcountable')
  choose rows hrows hcountables using fun i => (hstays i).2
  have hmoves : ∀ i, Moves (made i) (rows i) (rows (i + 1)) ∧ ((worlds (i + 1)).account messageId).calls.length ≤
      ((worlds i).account messageId).calls.length + made i := by
    intro i
    obtain ⟨-, row', hrow', hmoves, hcalls⟩ := retry_step (hrun i) (hstays i).1 (hrows i)
    obtain rfl : rows (i + 1) = row' := List.singleton_inj.1 ((hrows (i + 1)).symm.trans hrow')
    exact ⟨hmoves, hcalls⟩
  have hgone : ∀ i, propagatedDirectTimeoutFallback (rows i) = true →
      propagatedDirectTimeoutFallback (rows (i + 1)) = true := fun i => (hmoves i).1.1
  have hages : ∀ i, propagatedDirectTimeoutFallback (rows (i + 1)) = true ∨ Ages (made i) (rows i) (rows (i + 1)) := by
    intro i
    obtain hin | hcountable' := hcountables i
    · exact .inl (hgone i hin)
    · exact (hmoves i).1.2 hcountable'
  have hspends : ∀ i, propagatedDirectTimeoutFallback (rows (i + 1)) = true ∨
      dispatchesLeft (rows (i + 1)) + made i ≤ dispatchesLeft (rows i) := fun i => (hages i).imp_right Ages.left
  have hbudget := dispatchesLeft_le (rows 0)
  have hcovered := @spent_covered (fun i => dispatchesLeft (rows i)) made _ hgone hspends
  have hstops := @spending_stops (fun i => dispatchesLeft (rows i)) made _ hgone hspends
  refine ⟨rows, hrows, hgone, hages, ?_, ?_, hstops⟩
  · intro n
    induction n with
    | zero => simp
    | succ n ih =>
      have hcalls := (hmoves n).2
      rw [Finset.sum_range_succ]
      omega
  · intro n
    obtain hin | hspent := hcovered n
    · exact .inl hin
    · right
      omega

/-- The passes of the worker, one after another. -/
def passes (w : ServerWorld) : Nat → ServerWorld
  | 0 => w
  | i + 1 => workerPass (passes w i)

omit [ServerHost] in
theorem fanout_retries_bounded :
    letI := ServerHost.blank
    ∃ rows, RetriesBounded "m" (passes fanoutWorld) (fun i => dispatchesIn "m" (passes fanoutWorld i)) rows := by
  let := ServerHost.blank
  exact retries_bounded fanoutWorld_timely fanoutWorld_rows (fun hmulti => absurd hmulti (by decide))
    fun i => .pass (passes fanoutWorld i)

/-! A topic message that fell back to propagation, and a data plane out of reach. -/

/-- A topic message in the fallback, due again. -/
def fallbackMessage : OutboundMessageRecord :=
  { topicMessage with
    deliveryMethod := "propagated"
    deliveryPolicyReason := "topic_direct_timeout_fallback"
    deliveryMetadata := .object [("retry_scheduled", toValue true)] }

/-- A subscriber, the message and a data plane that cannot be reached. -/
def fallbackWorld : ServerWorld where
  state := {
    subscribers := (∅ : Dict String TopicSubscriber).insert "s"
      { subscriberId := "s", destination := "aa", topicId := "t", rejectTests := none, metadata := .null }
    messages := [fallbackMessage]
    dataPlane := .connected }
  clock _ := ⟨0, ""⟩
  draws := Uuid.ofNat

/-- A message in the fallback that goes to the topic. -/
structure FallsBack (row : OutboundMessageRecord) : Prop where
  messageId : row.messageId = "m"
  topicId : row.topicId = some "t"
  destination : row.destination = none
  mode : row.deliveryMode = .fanout
  method : row.deliveryMethod = "propagated"
  reason : row.deliveryPolicyReason = "topic_direct_timeout_fallback"
  unrestricted : ∀ key ∈ ["target_destinations", "exclude_destinations", "fanout_channel"],
    row.deliveryMetadata.get key = none

omit [ServerHost] in
theorem FallsBack.fallback (h : FallsBack row) : propagatedDirectTimeoutFallback row = true := by
  simp [propagatedDirectTimeoutFallback, propagatedMultiRecipientAllowsPartialSuccess, h.method, h.mode, h.reason]

/-- The message goes to the subscriber. -/
theorem FallsBack.leads (h : FallsBack row) {destinations : List String}
    (hleads : fallbackWorld.state.routing.Leads row destinations) : destinations = ["aa"] := by
  obtain ⟨w, hrouting, routes, hroutes, rfl⟩ := leads_routes hleads h.destination
  have htargets : outboundTargetDestinations row = none := by
    unfold outboundTargetDestinations outboundTargetDestinationsFromMetadata
    rw [h.unrestricted _ (by simp)]
    rfl
  have hexcluded : excludedOutboundDestinations row = excludedOutboundDestinations fallbackMessage := by
    unfold excludedOutboundDestinations
    rw [h.unrestricted _ (by simp)]
    rfl
  have hpreserves : preservesRequestedOutboundDestination row =
      preservesRequestedOutboundDestination fallbackMessage := by
    unfold preservesRequestedOutboundDestination isRemCommandMessage fanoutChannel
    rw [h.unrestricted _ (by simp)]
    rfl
  have hforMessage : Route.forMessage [] row = Route.forMessage [] fallbackMessage := by
    funext destination
    unfold Route.forMessage outboundDestinationForMessage
    rw [hpreserves, h.mode]
    rfl
  -- The routes read no more of the state than what the routing has.
  have hsubscribers : w.state.subscribers = fallbackWorld.state.subscribers := congrArg Routing.subscribers hrouting
  have hidentities : w.state.identityStates = fallbackWorld.state.identityStates :=
    congrArg Routing.identityStates hrouting
  have hallowlist : w.state.outboundIdentityAllowlist = none := congrArg Routing.outboundIdentityAllowlist hrouting
  have hannounces : w.state.loadIdentityAnnounces = [] := congrArg Routing.announces hrouting
  have hrelay : routes = w.state.relayRoutes row (w.state.topicSubscriberDestinations "t") := by
    unfold outboundRoutes at hroutes
    rw [h.destination, h.topicId, htargets] at hroutes
    exact (Except.ok.inj hroutes).symm
  have hsame : w.state.relayRoutes row (w.state.topicSubscriberDestinations "t") =
      fallbackWorld.state.relayRoutes fallbackMessage (fallbackWorld.state.topicSubscriberDestinations "t") := by
    simp only [AppState.relayRoutes, AppState.topicSubscriberDestinations, AppState.outboundIdentityAllowed,
      AppState.outboundIdentityBlocked, hsubscribers, hidentities, hallowlist, hannounces, hexcluded, hforMessage]
    rfl
  rw [hrelay, hsame]
  decide +kernel

/-- The message waits until it is due. -/
structure Waits (row : OutboundMessageRecord) (nowMs : Int) : Prop extends FallsBack row where
  state : row.deliveryState = "queued"
  scheduled : row.deliveryMetadata.get "retry_scheduled" = some (toValue true)
  due : (metadataI64 row "next_attempt_at_ts_ms").all (· ≤ nowMs) = true

omit [ServerHost] in
theorem Waits.dispatched {nowMs : Int} (h : Waits row nowMs) : dispatchDue nowMs row = true := by
  have hawaits := awaits_of h.state h.scheduled
  have hdue : outboundRetryDue row nowMs = true := by
    unfold outboundRetryDue
    rw [hawaits.1, hawaits.2, h.due]
    rfl
  have hdirect : failedDirectTimeoutRetryDue row nowMs = false := by
    unfold failedDirectTimeoutRetryDue
    rw [hawaits.1]
    rfl
  unfold dispatchDue
  rw [hdue, hdirect]
  rfl

omit [ServerHost] in
/-- The fallback is given another retry where the data plane cannot be reached. -/
theorem FallsBack.plans (h : FallsBack row) :
    planOutboundRetry row (ApiError.serviceUnavailable "connection refused").text ≠ none := by
  have hmulti : propagatedMultiRecipientAllowsPartialSuccess row = true := by
    simp [propagatedMultiRecipientAllowsPartialSuccess, h.method, h.mode]
  have hretryable : propagatedFallbackErrorTextIsRetryable
      (ApiError.serviceUnavailable "connection refused").text = true := by decide +kernel
  unfold planOutboundRetry
  simp [hmulti, hretryable, h.fallback]

/-- The attempt ends in another retry. -/
theorem Waits.retried {nowMs : Int} {calls calls' : List Sending} {row' : OutboundMessageRecord} (h : Waits row nowMs)
    (hpassed : Passed (· = .unreachable) row calls fallbackWorld.state.routing nowMs row' calls') :
    FallsBack row' ∧ row'.deliveryState = "queued" ∧
      row'.deliveryMetadata.get "retry_scheduled" = some (toValue true) := by
  have hdue := h.dispatched
  unfold dispatchDue at hdue
  rw [Bool.and_eq_true, Bool.not_eq_true'] at hdue
  cases hpassed with
  | idle hidle =>
    rw [hdue.1] at hidle
    cases hidle
  | repaired hdirect =>
    rw [hdue.2] at hdirect
    cases hdirect
  | attempted _ _ hdispatched hrecorded =>
    cases hdispatched with
    | notConfigured hplane => cases hplane
    | unavailable hplane => cases hplane
    | nobody _ hleads => cases h.leads hleads
    | answered answer _ _ _ hplane hgives =>
      subst hplane
      obtain hgives | ⟨recipient, -, hgives⟩ := hgives
      · cases hgives
      · cases hgives
    | unanswered error _ _ _ hplane hgives =>
      subst hplane
      obtain rfl : error = "connection refused" := by
        obtain hgives | ⟨recipient, -, hgives⟩ := hgives
        · exact Except.error.inj hgives
        · exact Except.error.inj hgives
      cases hrecorded with
      | failed tsMs hplan => exact absurd hplan h.plans
      | @retried _ plan tsMs hplan =>
        refine ⟨⟨h.messageId, h.topicId, h.destination, h.mode, h.method, h.reason, ?_⟩, rfl, ?_⟩
        · intro key hkey
          have hkept := h.unrestricted key hkey
          simp only [List.mem_cons, List.not_mem_nil, or_false] at hkey
          obtain rfl | rfl | rfl := hkey <;>
            simp [RetryPlan.apply, startAttempt, get_merge, List.lookup_cons, clearRetrySupersededDeliveryMetadata,
              get_removeKeys, retrySupersededKeys, successSupersededKeys, hkept]
        · simp [RetryPlan.apply, get_merge, List.lookup_cons]

/-- The message the world has, and when it is due. -/
def nextAttempt (w : ServerWorld) : Int :=
  ((w.account "m").rows.head?.bind fun row => metadataI64 row "next_attempt_at_ts_ms").getD 0

/-- The clock moves on until the message is due. -/
def wait (w : ServerWorld) : ServerWorld := { w with clock := fun _ => ⟨nextAttempt w, ""⟩ }

/-- A pass when the message is due, and the wait for the next, over and over. -/
def retrying : Nat → ServerWorld
  | 0 => fallbackWorld
  | i + 1 => if i % 2 = 0 then workerPass (retrying i) else wait (retrying i)

/-- The dispatches of it. -/
def retryingMade (i : Nat) : Nat := if i % 2 = 0 then dispatchesIn "m" (retrying i) else 0

omit [ServerHost] in
theorem nextAttempt_inI64 (w : ServerWorld) : inI64 (nextAttempt w) = true := by
  unfold nextAttempt
  cases hread : (w.account "m").rows.head?.bind fun row => metadataI64 row "next_attempt_at_ts_ms" with
  | none => decide
  | some tsMs =>
    obtain ⟨row, -, hrow⟩ := Option.bind_eq_some_iff.1 hread
    obtain ⟨value, -, hvalue⟩ := Option.bind_eq_some_iff.1 hrow
    unfold Value.asI64 at hvalue
    split at hvalue
    · split at hvalue
      · rename_i hin
        cases hvalue
        exact hin
      · cases hvalue
    · cases hvalue

/-- The message is stored once and waits, due by now. -/
def Stuck (w : ServerWorld) : Prop :=
  w.Runs (· = .unreachable) ∧ ∃ row calls ids, w.account "m" = ⟨[row], calls, fallbackWorld.state.routing, false, ids⟩ ∧
    Waits row (w.clock 0).timestampMillis

/-- A pass and a wait, and the message is where it was. -/
theorem stuck_round {w : ServerWorld} (h : Stuck w) : dispatchesIn "m" w = 1 ∧ Stuck (wait (workerPass w)) := by
  obtain ⟨hruns, row, calls, ids, haccount, hwaits⟩ := h
  have hid := hwaits.messageId
  constructor
  · have hunlocked : w.state.persistenceLocked = false := congrArg Account.locked haccount
    have hrows : (w.account "m").rows = [row] := congrArg Account.rows haccount
    unfold dispatchesIn
    rw [hunlocked, hrows, List.countP_singleton, hwaits.dispatched]
    rfl
  · rw [← hid] at haccount
    obtain ⟨hruns', row', calls', haccount', hpassed⟩ := pass_account hruns haccount
    rw [hid] at haccount'
    obtain ⟨hback, hstate, hscheduled⟩ := hwaits.retried hpassed
    have hrows : ((workerPass w).account "m").rows = [row'] := congrArg Account.rows haccount'
    refine ⟨⟨fun _ => nextAttempt_inI64 _, hruns'.planes⟩, row', calls', ids, haccount', hback, hstate, hscheduled, ?_⟩
    show (metadataI64 row' "next_attempt_at_ts_ms").all (· ≤ nextAttempt (workerPass w)) = true
    unfold nextAttempt
    rw [hrows, List.head?_cons, Option.bind_some]
    cases metadataI64 row' "next_attempt_at_ts_ms" with
    | none => rfl
    | some tsMs => simp

omit [ServerHost] in
theorem fallback_keeps_trying :
    letI := ServerHost.blank
    ¬∀ (worlds : Nat → ServerWorld) (made : Nat → Nat), worlds 0 = fallbackWorld →
      (∀ i, RetryStep "m" (worlds i) (made i) (worlds (i + 1))) → ∃ bound, ∀ n, ∑ i ∈ Finset.range n, made i ≤ bound := by
  let := ServerHost.blank
  have hstart : Stuck fallbackWorld := by
    have hepoch : inI64 0 = true := by decide
    refine ⟨⟨fun _ => hepoch, fun _ => rfl⟩, fallbackMessage, [], ["m"], rfl, ?_⟩
    refine ⟨⟨rfl, rfl, rfl, rfl, rfl, rfl, ?_⟩, rfl, rfl, rfl⟩
    decide
  have heven : ∀ n, retrying (2 * n + 2) = wait (workerPass (retrying (2 * n))) := by
    intro n
    simp [retrying, Nat.add_mod]
  have hstuck : ∀ n, Stuck (retrying (2 * n)) := by
    intro n
    induction n with
    | zero => exact hstart
    | succ n ih =>
      rw [Nat.mul_succ, heven n]
      exact (stuck_round ih).2
  have hrun : ∀ i, RetryStep "m" (retrying i) (retryingMade i) (retrying (i + 1)) := by
    intro i
    unfold retryingMade
    rw [retrying]
    by_cases hpass : i % 2 = 0
    · rw [if_pos hpass, if_pos hpass]
      exact .pass _
    · rw [if_neg hpass, if_neg hpass]
      exact .other _ _ rfl rfl fun _ => nextAttempt_inI64 _
  have htotal : ∀ n, ∑ i ∈ Finset.range (2 * n), retryingMade i = n := by
    intro n
    induction n with
    | zero => rfl
    | succ n ih =>
      have hpass : retryingMade (2 * n) = 1 := by
        simp [retryingMade, (stuck_round (hstuck n)).1]
      have hwait : retryingMade (2 * n + 1) = 0 := by
        simp [retryingMade, Nat.add_mod]
      rw [Nat.mul_succ, Finset.sum_range_succ, Finset.sum_range_succ, ih, hpass, hwait]
  intro h
  obtain ⟨bound, hbound⟩ := h retrying retryingMade rfl hrun
  have hover := hbound (2 * (bound + 1))
  rw [htotal] at hover
  omega

end Runs

end TelemetryHub
