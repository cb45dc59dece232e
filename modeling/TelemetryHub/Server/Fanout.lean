import TelemetryHub.Server.Rounds

/-!
# The books of a fan-out

A message to many recipients is dispatched in rounds, each to those the round before
left to be tried again. Its metadata keeps the books: which copies have been
accepted, how many, and who was rejected. The books are compared with the calls the
data plane has had.
-/

namespace TelemetryHub

open Lib ServerM

/-! ## The books -/

/-- The copy of a message a target stands for. -/
def ReceiptTarget.pair (target : ReceiptTarget) : String × String := (target.messageId, target.destination)

/-- A stored target, as the pair it names. -/
def pairOfValue (value : Value) : Option (String × String) :=
  ((value.get "message_id").bind Value.asStr).bind fun messageId =>
    ((value.get "destination").bind Value.asStr).map fun destination => (messageId, destination)

/-- The copies the stored receipt targets name. -/
def receiptPairs (message : OutboundMessageRecord) : List (String × String) :=
  ((storedTargetValues message).getD []).filterMap pairOfValue

/-- The recipients `zmq_rejections` names. -/
def reportedRejections (message : OutboundMessageRecord) : List String :=
  (((message.deliveryMetadata.get "zmq_rejections").bind Value.asArray).getD []).filterMap fun value =>
    (value.get "destination").bind Value.asStr

/-- The copies a call has had accepted. -/
def Sending.accepted (sending : Sending) : List (String × String) :=
  match sending.outcome with
  | .error _ => []
  | .ok results => (results.filter (·.accepted)).map fun result => (result.messageId, result.destination)

/-- The copies accepted in all the calls. -/
def acceptedPairs (calls : List Sending) : List (String × String) := calls.flatMap Sending.accepted

/-- Who has had a copy accepted. -/
def reached (calls : List Sending) : List String := (acceptedPairs calls).map (·.2)

/-- Whom the calls went to. -/
def addressed (calls : List Sending) : List String :=
  calls.flatMap fun sending => sending.recipients.map (·.destination)

/-- The message waits for its next attempt. -/
def awaitsRetry (message : OutboundMessageRecord) : Prop :=
  normalizedDeliveryState message = "queued" ∧ metadataBool message "retry_scheduled" = some true

/-- No call goes to a recipient that has had a copy accepted before. -/
def NeverAgain (calls : List Sending) : Prop :=
  ∀ before sending after, calls = before ++ sending :: after →
    ∀ recipient ∈ sending.recipients, recipient.destination ∉ reached before

/-- The books of a message agree with the calls made for it. -/
structure Accounted (message : OutboundMessageRecord) (calls : List Sending) : Prop where
  receipts : receiptPairs message = acceptedPairs calls
  count : reticulumdDispatchCount message = (acceptedPairs calls).length
  neverAgain : NeverAgain calls
  reported : ∀ destination ∈ addressed calls, destination ∈ reached calls ∨
    destination ∈ reportedRejections message ∨ message.deliveryState = "failed" ∨ awaitsRetry message
  failedOnly : message.deliveryState = "failed" → acceptedPairs calls = []

/-! ## A report -/

/-- The entry of a rejected recipient. -/
def BatchResult.rejection (result : BatchResult) : Value :=
  .object [("id", toValue result.id), ("destination", toValue result.destination),
    ("error", (result.error.map BatchError.value).getD .null)]

/-- The target of an accepted copy. -/
def BatchResult.target (result : BatchResult) : ReceiptTarget :=
  { messageId := result.messageId, destination := result.destination }

/-- A recipient that is to be tried again. -/
def BatchResult.retryable (result : BatchResult) : Bool := !result.accepted && result.error.any (·.retryable)

/-- What a report gathers from the results. -/
theorem recordZmqBatchResults_eq (report : DispatchReport) (results : List BatchResult) :
    recordZmqBatchResults report results =
      { count := report.count + (results.filter (·.accepted)).length
        deferred := report.deferred
        receipts := report.receipts ++ (results.filter (·.accepted)).map BatchResult.target
        rejected := report.rejected ++ (results.filter fun result => !result.accepted).map BatchResult.rejection
        retryableRejectedDestinations := report.retryableRejectedDestinations ++
          (results.filter BatchResult.retryable).map (·.destination) } := by
  unfold recordZmqBatchResults
  induction results generalizing report with
  | nil => simp
  | cons result results ih =>
    rw [List.foldl_cons, ih]
    unfold DispatchReport.record
    cases haccepted : result.accepted with
    | true => simp [haccepted, BatchResult.retryable, BatchResult.target, Nat.add_assoc, Nat.add_comm 1]
    | false =>
      cases hretry : result.error.any (·.retryable) with
      | true => simp [haccepted, hretry, BatchResult.retryable, BatchResult.rejection]
      | false => simp [haccepted, hretry, BatchResult.retryable, BatchResult.rejection]

/-- The report of some results. -/
def reportOf (results : List BatchResult) : DispatchReport := recordZmqBatchResults {} results

theorem reportOf_count (results : List BatchResult) :
    (reportOf results).count = (results.filter (·.accepted)).length := by
  simp [reportOf, recordZmqBatchResults_eq]

theorem reportOf_receipts (results : List BatchResult) :
    (reportOf results).receipts = (results.filter (·.accepted)).map BatchResult.target := by
  simp [reportOf, recordZmqBatchResults_eq]

theorem pairOfValue_value (target : ReceiptTarget) : pairOfValue target.value = some target.pair := by
  simp [pairOfValue, ReceiptTarget.value, Value.get, Value.asObject, List.lookup_cons, toValue, Value.asStr,
    ReceiptTarget.pair]

theorem receiptPairs_of_json {message : OutboundMessageRecord} {targets : List ReceiptTarget}
    (h : message.deliveryMetadata.get "reticulumd_receipt_targets" = some (reticulumdReceiptTargetsJson targets)) :
    receiptPairs message = targets.map ReceiptTarget.pair := by
  have hpairs : ∀ targets : List ReceiptTarget, (targets.map ReceiptTarget.value).filterMap pairOfValue =
      targets.map ReceiptTarget.pair := by
    intro targets
    rw [List.filterMap_map, ← List.filterMap_eq_map]
    exact List.filterMap_congr fun target _ => pairOfValue_value target
  simp only [receiptPairs, storedTargetValues, h, reticulumdReceiptTargetsJson, Option.bind_some, Value.asArray,
    Option.getD_some]
  exact hpairs targets

theorem receiptPairs_of_none {message : OutboundMessageRecord}
    (h : message.deliveryMetadata.get "reticulumd_receipt_targets" = none) : receiptPairs message = [] := by
  simp [receiptPairs, storedTargetValues, h]

/-- The outcome of a round with an answer, entered into the books. -/
structure Booked (message : OutboundMessageRecord) (report : DispatchReport) (row' : OutboundMessageRecord) :
    Prop where
  targets : row'.deliveryMetadata.get "reticulumd_receipt_targets" =
    some (reticulumdReceiptTargetsJson (addReceiptTargets (storedReticulumdReceiptTargets message) report.receipts))
  count : row'.deliveryMetadata.get "reticulumd_dispatch_count" =
    some (toValue (saturatingAddU64 (reticulumdDispatchCount message) report.count))
  rejections : row'.deliveryMetadata.get "zmq_rejections" = some (.array report.rejected)

theorem distinct_outboundDeliveryMetadata (message : OutboundMessageRecord) (dispatchCount : Nat) (acked : Bool)
    (nowMs : Int) (update : Value) : (outboundDeliveryMetadata message dispatchCount acked nowMs update).Distinct := by
  unfold outboundDeliveryMetadata
  apply distinct_merge
  simp [Value.Distinct]

theorem distinct_settledMetadata (message : OutboundMessageRecord) (report : DispatchReport) (registeredTsMs tsMs : Int) :
    (settledMetadata message report registeredTsMs tsMs).Distinct := distinct_outboundDeliveryMetadata _ _ _ _ _

theorem distinct_failedMetadata (message : OutboundMessageRecord) (errorText : String) (tsMs : Int) :
    (failedMetadata message errorText tsMs).Distinct := distinct_outboundDeliveryMetadata _ _ _ _ _

theorem get_outboundDeliveryMetadata {message : OutboundMessageRecord} {dispatchCount : Nat} {acked : Bool}
    {nowMs : Int} {update : Value} (h : update.Distinct) {key : String} {item : Value}
    (hitem : update.get key = some item) :
    (outboundDeliveryMetadata message dispatchCount acked nowMs update).get key = some item := by
  unfold outboundDeliveryMetadata
  rw [get_merge_distinct _ h, hitem, Option.some_or]

theorem distinct_sharedFanoutDeliveryMetadata (message : OutboundMessageRecord) (dispatchCount : Nat) :
    (sharedFanoutDeliveryMetadata message dispatchCount).Distinct := by
  unfold sharedFanoutDeliveryMetadata
  split
  · simp [Value.Distinct]
  · simp [Value.Distinct]

/-- A key of the common payload of a fan-out. -/
theorem get_sharedFanoutDeliveryMetadata (message : OutboundMessageRecord) (dispatchCount : Nat) {key : String}
    (h : ["fanout_payload_model", "shared_payload_recipient_count", "shared_payload_expanded_at"].contains key =
      false) : (sharedFanoutDeliveryMetadata message dispatchCount).get key = none := by
  unfold sharedFanoutDeliveryMetadata
  split
  · rfl
  · simp only [List.contains_cons, Bool.or_eq_false_iff] at h
    simp [Value.get, Value.asObject, List.lookup_cons, h]

/-- What a state is recorded with, and under other keys what was there. -/
theorem get_settle {deliveryState : String} {deliveryMetadata : Value} (h : deliveryMetadata.Distinct)
    (stored : OutboundMessageRecord) (key : String) :
    (settle deliveryState deliveryMetadata stored).deliveryMetadata.get key =
      (deliveryMetadata.get key).or ((if deliveryStateClearsErrorMetadata deliveryState then
        clearSuccessSupersededDeliveryMetadata stored.deliveryMetadata else stored.deliveryMetadata).get key) :=
  get_merge_distinct _ h key

section Started

variable [ServerHost]

/-- The books after a round without an answer, or one that reached nobody: the targets
are gone, the count is as it was. -/
structure Cleared (message row' : OutboundMessageRecord) : Prop where
  targets : row'.deliveryMetadata.get "reticulumd_receipt_targets" = none
  count : row'.deliveryMetadata.get "reticulumd_dispatch_count" =
    message.deliveryMetadata.get "reticulumd_dispatch_count"

end Started

/-! ## The copies of a round -/

theorem acceptedPairs_append (calls new : List Sending) :
    acceptedPairs (calls ++ new) = acceptedPairs calls ++ acceptedPairs new := List.flatMap_append

/-- The copies accepted in a call with an answer are those of its report. -/
theorem acceptedPairs_answered (messageId : String) (recipients : List Recipient) (results : List BatchResult) :
    acceptedPairs [⟨messageId, recipients, .ok results⟩] = (reportOf results).receipts.map ReceiptTarget.pair := by
  rw [reportOf_receipts, List.map_map]
  simp only [acceptedPairs, List.flatMap_cons, List.flatMap_nil, List.append_nil]
  rfl

theorem acceptedPairs_unanswered (messageId : String) (recipients : List Recipient) (error : String) :
    acceptedPairs [⟨messageId, recipients, .error error⟩] = [] := rfl

theorem destinations_recipientsFor (message : OutboundMessageRecord) (destinations : List String) :
    (recipientsFor message destinations).map (·.destination) = destinations := by
  unfold recipientsFor
  rw [List.mapIdx_eq_zipIdx_map, List.map_map]
  exact List.zipIdx_map_fst 0 destinations

theorem destination_result (recipient : Recipient) (answer : RecipientAnswer) :
    (recipient.result answer).destination = recipient.destination := by
  cases answer <;> rfl

theorem destinations_resultsFor (message : OutboundMessageRecord) (destinations : List String)
    (answer : Recipient → RecipientAnswer) :
    (resultsFor message destinations answer).map (·.destination) = destinations := by
  unfold resultsFor
  rw [List.map_map]
  have hresult : (fun result : BatchResult => result.destination) ∘
      (fun recipient : Recipient => recipient.result (answer recipient)) = fun recipient => recipient.destination :=
    funext fun recipient => destination_result recipient _
  rw [hresult, destinations_recipientsFor]

section Answered

variable {results : List BatchResult} (hnodup : (results.map (·.destination)).Nodup)

include hnodup

/-- The copies accepted in one round go to different recipients. -/
theorem nodup_receipts : ((reportOf results).receipts.map ReceiptTarget.pair).Nodup := by
  rw [reportOf_receipts, List.map_map]
  have hsub : ((results.filter (·.accepted)).map (·.destination)).Nodup :=
    hnodup.sublist (List.filter_sublist.map _)
  apply List.Nodup.of_map (·.2)
  rw [List.map_map]
  exact hsub

end Answered

/-- New copies are added behind those stored. -/
theorem addReceiptTargets_pairs {stored accepted : List ReceiptTarget}
    (hnew : ∀ target ∈ accepted, target.pair ∉ stored.map ReceiptTarget.pair)
    (hnodup : (accepted.map ReceiptTarget.pair).Nodup) :
    (addReceiptTargets stored accepted).map ReceiptTarget.pair =
      stored.map ReceiptTarget.pair ++ accepted.map ReceiptTarget.pair := by
  unfold addReceiptTargets
  induction accepted generalizing stored with
  | nil => simp
  | cons target accepted ih =>
    have hfresh : stored.any (·.sameAs target) = false := by
      rw [List.any_eq_false]
      intro existing hexisting hsame
      apply hnew target List.mem_cons_self
      simp only [ReceiptTarget.sameAs, Bool.and_eq_true, beq_iff_eq] at hsame
      exact List.mem_map.2 ⟨existing, hexisting, Prod.ext hsame.1 hsame.2⟩
    rw [List.map_cons, List.nodup_cons] at hnodup
    rw [List.foldl_cons, hfresh, if_neg Bool.false_ne_true, ih _ hnodup.2]
    · simp
    · intro other hother
      rw [List.map_append, List.mem_append, not_or]
      refine ⟨hnew other (List.mem_cons_of_mem _ hother), ?_⟩
      intro heq
      rw [List.map_singleton, List.mem_singleton] at heq
      exact hnodup.1 (heq ▸ List.mem_map_of_mem hother)

/-! ## Rounds -/

/-- The destinations a message names, as they are stored. -/
def storedTargetDestinations (message : OutboundMessageRecord) : List String :=
  (((message.deliveryMetadata.get "target_destinations").bind Value.asArray).getD []).filterMap Value.asStr

section Rounds

variable [ServerHost] {planes : DataPlane → Prop} {message row row' : OutboundMessageRecord} {calls new : List Sending} {routing : Routing}
  {destinations : List String}

/-- Where a fan-out leads are the destinations of its routes, each once. -/
theorem leads_routes (h : routing.Leads message destinations) (hnone : message.destination = none) :
    ∃ w : ServerWorld, w.state.routing = routing ∧ ∃ routes,
      ((outboundRoutes message).run w).1 = .ok routes ∧ destinations = uniqueDestinations routes := by
  obtain ⟨w, hrouting, hrun⟩ := h
  obtain ⟨⟨-, routes, hroutes, -⟩, -⟩ := outboundRoutes_spec message w.state w rfl trivial
  refine ⟨w, hrouting, routes, hroutes, ?_⟩
  have hdestinations := outboundDestinations_run hroutes
  rw [hrun, hnone] at hdestinations
  exact Except.ok.inj hdestinations

theorem leads_nodup (h : routing.Leads message destinations) (hnone : message.destination = none) :
    destinations.Nodup := by
  obtain ⟨w, -, routes, -, rfl⟩ := leads_routes h hnone
  exact nodup_uniqueDestinations routes

/-- Where its targets route to themselves, a message that names targets goes to them only. -/
theorem leads_targets (h : routing.Leads message destinations) (hnone : message.destination = none)
    (htargets : (outboundTargetDestinations message).isSome = true)
    (hsteady : ∀ destination ∈ storedTargetDestinations message, ∀ key, normalizeIdentityKey destination = some key →
      (Route.forMessage routing.announces message key).delivery = destination) :
    ∀ destination ∈ destinations, destination ∈ storedTargetDestinations message := by
  obtain ⟨w, rfl, routes, hroutes, rfl⟩ := leads_routes h hnone
  obtain ⟨targets, hsome⟩ := Option.isSome_iff_exists.1 htargets
  have hkeys : targets = (storedTargetDestinations message).filterMap normalizeIdentityKey := by
    unfold outboundTargetDestinations outboundTargetDestinationsFromMetadata at hsome
    obtain ⟨items, hitems, rfl⟩ := Option.map_eq_some_iff.1 hsome
    simp [storedTargetDestinations, hitems]
  have hrelay : routes = w.state.relayRoutes message targets := by
    unfold outboundRoutes at hroutes
    rw [hnone, hsome] at hroutes
    exact (Except.ok.inj hroutes).symm
  intro destination hdestination
  obtain ⟨⟨route, hroute, rfl⟩, -⟩ := mem_uniqueDestinations.1 hdestination
  rw [hrelay] at hroute
  obtain ⟨key, hkey, rfl⟩ := List.mem_map.1 (List.mem_filter.1 hroute).1
  rw [hkeys] at hkey
  obtain ⟨stored, hstored, hnormal⟩ := List.mem_filterMap.1 hkey
  have hself : (Route.forMessage w.state.loadIdentityAnnounces message key).delivery = stored :=
    hsteady stored hstored key hnormal
  rw [hself]
  exact hstored

/-- The results the data plane has answered with. -/
def answerOf : List Sending → Option (List BatchResult)
  | [sending] => sending.outcome.toOption
  | _ => none

/-- The outcome is entered into the books: somebody has been accepted, or those
rejected are tried again. -/
def Enters (message : OutboundMessageRecord) (report : DispatchReport) : Prop :=
  report.count ≠ 0 ∨ retriesRejected message report = true

/-- What an attempt must meet for the books to stay right: once somebody has been
accepted, it is answered and its outcome entered; the targets stored read back as
they are stored, which an empty list does not; an attempt that settles the message
goes to all that have not been accepted; and the targets of a retry route to
themselves. -/
structure FairAttempt (message : OutboundMessageRecord) (calls : List Sending) (routing : Routing)
    (new : List Sending) : Prop where
  answered : acceptedPairs calls ≠ [] → ∃ results ∈ answerOf new, Enters message (reportOf results)
  readBack : ∀ results ∈ answerOf new, Enters message (reportOf results) →
    (storedReticulumdReceiptTargets message).map ReceiptTarget.pair = receiptPairs message
  complete : ∀ results ∈ answerOf new, (reportOf results).count ≠ 0 →
    retriesRejected message (reportOf results) = false → ∀ destinations, routing.Leads message destinations →
      ∀ destination ∈ addressed calls, destination ∈ reached calls ∨ destination ∈ destinations
  steady : acceptedPairs calls ≠ [] → ∀ destination ∈ storedTargetDestinations message, ∀ key,
    normalizeIdentityKey destination = some key →
      (Route.forMessage routing.announces message key).delivery = destination
  small : ∀ results ∈ answerOf new, (acceptedPairs calls).length + (reportOf results).count < 2 ^ 64

/-- The books are right, and a message that waits for its next attempt names only
recipients that have not been accepted, once somebody has been. -/
structure Sound (message : OutboundMessageRecord) (calls : List Sending) : Prop where
  fansOut : message.destination = none
  accounted : Accounted message calls
  aimed : acceptedPairs calls ≠ [] → awaitsRetry message → ∃ targets : List String,
    message.deliveryMetadata.get "target_destinations" = some (toValue targets) ∧
      ∀ destination ∈ targets, destination ∉ reached calls

omit [ServerHost] in
theorem neverAgain_append (h : NeverAgain calls)
    (hnew : ∀ sending ∈ new, ∀ recipient ∈ sending.recipients, recipient.destination ∉ reached calls)
    (hone : new.length ≤ 1) : NeverAgain (calls ++ new) := by
  intro before sending after heq recipient hrecipient
  match new, hone with
  | [], _ =>
    rw [List.append_nil] at heq
    exact h before sending after heq recipient hrecipient
  | [call], _ =>
    rcases List.append_eq_append_iff.1 heq with ⟨rest, rfl, hrest⟩ | ⟨rest, rfl, hrest⟩
    · cases rest with
      | nil =>
        cases hrest
        rw [List.append_nil]
        exact hnew sending List.mem_cons_self recipient hrecipient
      | cons first rest =>
        simp at hrest
    · cases rest with
      | nil =>
        cases hrest
        rw [List.append_nil] at hnew
        exact hnew sending List.mem_cons_self recipient hrecipient
      | cons first rest =>
        simp only [List.cons_append, List.cons.injEq] at hrest
        obtain ⟨rfl, -⟩ := hrest
        exact h before sending rest rfl recipient hrecipient

omit [ServerHost] in
theorem Cleared.receipts (h : Cleared row row') : receiptPairs row' = [] := receiptPairs_of_none h.targets

omit [ServerHost] in
theorem Cleared.dispatchCount (h : Cleared row row') :
    reticulumdDispatchCount row' = reticulumdDispatchCount row := by
  unfold reticulumdDispatchCount metadataU64
  rw [h.count]

/-- The books after an outcome has been entered. -/
structure Entered (row : OutboundMessageRecord) (calls : List Sending) (results : List BatchResult)
    (row' : OutboundMessageRecord) (new : List Sending) : Prop where
  accepted : acceptedPairs new = (reportOf results).receipts.map ReceiptTarget.pair
  receipts : receiptPairs row' = acceptedPairs (calls ++ new)
  count : reticulumdDispatchCount row' = (acceptedPairs (calls ++ new)).length
  neverAgain : NeverAgain (calls ++ new)
  rejections : reportedRejections row' = (reportOf results).rejected.filterMap fun value =>
    (value.get "destination").bind Value.asStr
  addressed : ∀ destination ∈ addressed new, destination ∈ results.map (·.destination)
  fresh : ∀ destination ∈ results.map (·.destination), destination ∉ reached calls

omit [ServerHost] in
theorem asU64_toValue {n : Nat} (h : n < 2 ^ 64) : (toValue n : Value).asU64 = some n := by
  have hfits : 0 ≤ (n : Int) ∧ (n : Int) < 2 ^ 64 := by
    constructor
    · omega
    · exact_mod_cast h
  simp only [toValue, Value.asU64]
  rw [if_pos hfits, Int.toNat_natCast]

/-- The recipients of a round have not been accepted before. -/
theorem fresh_destinations (h : Sound row calls) (hfair : FairAttempt row calls routing new)
    (hdue : acceptedPairs calls ≠ [] → awaitsRetry row) (hleads : routing.Leads row destinations) :
    ∀ destination ∈ destinations, destination ∉ reached calls := by
  intro destination hdestination
  by_cases hnobody : acceptedPairs calls = []
  · simp [reached, hnobody]
  · obtain ⟨targets, htargets, hdisjoint⟩ := h.aimed hnobody (hdue hnobody)
    have hstored : storedTargetDestinations row = targets := by
      simp only [storedTargetDestinations, htargets, Option.bind_some]
      simp [toValue, Value.asArray, Value.asStr, List.filterMap_map, Function.comp_def]
    have hsome : (outboundTargetDestinations row).isSome = true := by
      simp [outboundTargetDestinations, outboundTargetDestinationsFromMetadata, htargets, toValue, Value.asArray]
    have hin := leads_targets hleads h.fansOut hsome (hfair.steady hnobody) destination hdestination
    rw [hstored] at hin
    exact hdisjoint destination hin

theorem entered {answer : Recipient → RecipientAnswer} (h : Sound row calls)
    (hdue : acceptedPairs calls ≠ [] → awaitsRetry row) (hleads : routing.Leads row destinations)
    (hfair : FairAttempt row calls routing
      [⟨row.messageId, recipientsFor row destinations, .ok (resultsFor row destinations answer)⟩])
    (henters : Enters row (reportOf (resultsFor row destinations answer)))
    (hbooked : Booked row (reportOf (resultsFor row destinations answer)) row') :
    Entered row calls (resultsFor row destinations answer) row'
      [⟨row.messageId, recipientsFor row destinations, .ok (resultsFor row destinations answer)⟩] := by
  have hanswer : resultsFor row destinations answer ∈ answerOf
      [⟨row.messageId, recipientsFor row destinations, .ok (resultsFor row destinations answer)⟩] := rfl
  have hfresh := fresh_destinations h hfair hdue hleads
  have hnodup : ((resultsFor row destinations answer).map (·.destination)).Nodup := by
    rw [destinations_resultsFor]
    exact leads_nodup hleads h.fansOut
  have hread : (storedReticulumdReceiptTargets row).map ReceiptTarget.pair = acceptedPairs calls :=
    (hfair.readBack _ hanswer henters).trans h.accounted.receipts
  have hnew : ∀ target ∈ (reportOf (resultsFor row destinations answer)).receipts,
      target.pair ∉ (storedReticulumdReceiptTargets row).map ReceiptTarget.pair := by
    intro target htarget hold
    rw [hread] at hold
    have hdestination : target.destination ∈ destinations := by
      rw [reportOf_receipts] at htarget
      obtain ⟨result, hresult, rfl⟩ := List.mem_map.1 htarget
      rw [← destinations_resultsFor row destinations answer]
      exact List.mem_map_of_mem (List.mem_filter.1 hresult).1
    exact hfresh _ hdestination (List.mem_map.2 ⟨_, hold, rfl⟩)
  have hpairs := addReceiptTargets_pairs hnew (nodup_receipts hnodup)
  refine ⟨acceptedPairs_answered _ _ _, ?_, ?_, ?_, ?_, ?_, ?_⟩
  · rw [receiptPairs_of_json hbooked.targets, hpairs, hread, acceptedPairs_append, acceptedPairs_answered]
  · have hlength : (acceptedPairs calls).length + (reportOf (resultsFor row destinations answer)).count < 2 ^ 64 :=
      hfair.small _ hanswer
    have hold := h.accounted.count
    unfold reticulumdDispatchCount metadataU64 at hold ⊢
    have hsum : saturatingAddU64 (reticulumdDispatchCount row)
        (reportOf (resultsFor row destinations answer)).count =
          (acceptedPairs calls).length + (reportOf (resultsFor row destinations answer)).count := by
      unfold saturatingAddU64
      rw [h.accounted.count]
      omega
    rw [hbooked.count, hsum, Option.bind_some, asU64_toValue hlength, Option.getD_some, acceptedPairs_append,
      acceptedPairs_answered, List.length_append, List.length_map, reportOf_receipts, List.length_map, reportOf_count]
  · apply neverAgain_append h.accounted.neverAgain
    · intro sending hsending recipient hrecipient
      rw [List.mem_singleton.1 hsending] at hrecipient
      apply hfresh
      rw [← destinations_recipientsFor row destinations]
      exact List.mem_map_of_mem hrecipient
    · exact Nat.le_refl 1
  · simp [reportedRejections, hbooked.rejections, Value.asArray]
  · intro destination hdestination
    rw [destinations_resultsFor]
    simpa [addressed, destinations_recipientsFor] using hdestination
  · intro destination hdestination
    rw [destinations_resultsFor] at hdestination
    exact hfresh destination hdestination

/-! ### One pass -/

omit [ServerHost] in
theorem awaits_of_scheduled (hqueued : (normalizedDeliveryState message == "queued") = true)
    (hscheduled : (metadataBool message "retry_scheduled").getD false = true) : awaitsRetry message := by
  refine ⟨beq_iff_eq.1 hqueued, ?_⟩
  cases hread : metadataBool message "retry_scheduled" with
  | none =>
    rw [hread] at hscheduled
    cases hscheduled
  | some scheduled =>
    rw [hread] at hscheduled
    exact congrArg some hscheduled

omit [ServerHost] in
theorem awaits_of {stored : OutboundMessageRecord} (hstate : stored.deliveryState = "queued")
    (hscheduled : stored.deliveryMetadata.get "retry_scheduled" = some (toValue true)) : awaitsRetry stored := by
  constructor
  · unfold normalizedDeliveryState
    rw [hstate]
    simp
  · unfold metadataBool
    rw [hscheduled]
    rfl

omit [ServerHost] in
theorem normalizedDeliveryState_of (h : (trim message.deliveryState).isEmpty = false) :
    normalizedDeliveryState message = message.deliveryState := by
  unfold normalizedDeliveryState
  rw [h, if_neg Bool.false_ne_true]

end Rounds

/-! ## Runs -/

section Runs

variable [ServerHost] {messageId : String}

/-- A message that is due. -/
def fanoutMessage : OutboundMessageRecord :=
  { topicMessage with deliveryMetadata := .object [("retry_scheduled", toValue true)] }

/-- A data plane that accepts the copy for one of the two and asks for the other again. -/
def halfway : DataPlane where
  sendBatch _ := .ok fun recipient =>
    if recipient.destination = "aa" then .accepted "x" else .rejected (some ⟨"busy", "try again", none, true⟩)
  sendMessage _ := .error "connection refused"

/-- Two subscribers and the message. -/
def fanoutWorld : ServerWorld where
  state := {
    subscribers := ((∅ : Dict String TopicSubscriber).insert "s"
      { subscriberId := "s", destination := "aa", topicId := "t", rejectTests := none, metadata := .null }).insert "r"
      { subscriberId := "r", destination := "bb", topicId := "t", rejectTests := none, metadata := .null }
    messages := [fanoutMessage]
    dataPlane := .connected }
  clock n := ⟨1000 * min n 100, ""⟩
  draws := Uuid.ofNat
  answers n := if n = 0 then halfway else .unreachable

omit [ServerHost] in
theorem fanoutWorld_timely : fanoutWorld.Timely := by
  intro n
  have hreads : (fanoutWorld.clock n).timestampMillis = 1000 * (min n 100 : Nat) := rfl
  simp only [inI64, hreads, Bool.and_eq_true, decide_eq_true_eq]
  constructor <;> omega

omit [ServerHost] in
theorem fanoutWorld_rows : (fanoutWorld.account "m").rows = [fanoutMessage] := by
  simp [ServerWorld.account, fanoutWorld, fanoutMessage, topicMessage]

end Runs

end TelemetryHub
