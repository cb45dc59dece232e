import TelemetryHub.Core.Listing
import TelemetryHub.Lib.Moving
import TelemetryHub.Server.Logic
import TelemetryHub.Server.Retries

/-!
# Polls

The data plane is asked for the accepted copies whose fate is open, a few in a pass. A message is
settled by what was on record of its copies and by what is answered.
-/

namespace TelemetryHub

open Lib ServerM

/-! ## Asking -/

def reticulumdReceiptStatusPollMs : Int := 5000
def reticulumdReceiptStatusPassIntervalMs : Int := 10000
def reticulumdReceiptStatusRpcBudgetPerPass : Nat := 4

/-- `delivery_snapshot_receipt_status`. -/
def deliverySnapshotReceiptStatus (snapshot : LxmfDeliverySnapshot) : String :=
  match snapshot.state with
  | .queued => "queued"
  | .dispatching | .inFlight => "sending"
  | .sent => "sent"
  | .delivered => "delivered"
  | .failed => (snapshot.reasonCode.map fun reason => "failed: " ++ reason).getD "failed"
  | .cancelled => "cancelled"
  | .expired => "expired"
  | .rejected => "rejected"
  | .unknown => "unknown"

/-- The answers of the data plane in a pass. A call is told by the budget that is left when it is made. -/
abbrev StatusAnswers : Type := Nat → String → Except String (Option LxmfDeliverySnapshot)

/-- `ReticulumdStatusPollResult`. -/
inductive StatusPollResult where
  | found (snapshot : LxmfDeliverySnapshot)
  | notFound
  | stopped (error : Option String)

/-- `reticulumd_status_message_id_candidates`. -/
def reticulumdStatusMessageIdCandidates (messageId : String) : List String :=
  if startsWith (trim messageId) "sdk-" then [trim messageId] else ["sdk-" ++ trim messageId, trim messageId]

/-- The loop of `zmq_delivery_status`: the result, and the budget that is left. -/
def askCandidates (answers : StatusAnswers) : Nat → List String → StatusPollResult × Nat
  | budget, [] => (.notFound, budget)
  | 0, _ :: _ => (.stopped none, 0)
  | budget + 1, candidate :: candidates =>
    match answers (budget + 1) candidate with
    | .ok (some snapshot) => (.found snapshot, budget)
    | .ok none => askCandidates answers budget candidates
    | .error error => (.stopped (some error), budget)

/-- `zmq_delivery_status`. -/
def zmqDeliveryStatus (answers : StatusAnswers) (messageId : String) (budget : Nat) : StatusPollResult × Nat :=
  askCandidates answers budget (reticulumdStatusMessageIdCandidates messageId)

/-- `reticulumd_receipt_target_poll_priority`. -/
def ReceiptTarget.pollPriority (target : ReceiptTarget) : Nat :=
  if target.status.all fun status => eqIgnoreAsciiCase (trim status) "pending" then 0 else 1

/-- `reticulumd_receipt_target_last_poll_ts_ms`. -/
def ReceiptTarget.lastPoll (target : ReceiptTarget) : Int := target.lastPollTsMs.getD 0

/-- The target as it was answered. -/
def ReceiptTarget.answered (target : ReceiptTarget) (nowMs : Int) (snapshot : LxmfDeliverySnapshot) : ReceiptTarget :=
  { target with
    status := some (deliverySnapshotReceiptStatus snapshot)
    sdkSnapshot := some snapshot
    lastPollTsMs := some nowMs }

/-- What the loop over the open targets of a message comes to. -/
structure TargetsPolled where
  found : List ReceiptTarget
  error : Option String
  budget : Nat

/-- The loop over `poll_targets`. -/
def pollTargets (answers : StatusAnswers) (nowMs : Int) : Nat → List ReceiptTarget → TargetsPolled
  | budget, [] => ⟨[], none, budget⟩
  | budget, target :: targets =>
    match zmqDeliveryStatus answers target.messageId budget with
    | (.stopped error, _) => ⟨[], error, 0⟩
    | (.notFound, left) => if left = 0 then ⟨[], none, 0⟩ else pollTargets answers nowMs left targets
    | (.found snapshot, left) =>
      if left = 0 then ⟨[target.answered nowMs snapshot], none, 0⟩
      else
        let others := pollTargets answers nowMs left targets
        { others with found := target.answered nowMs snapshot :: others.found }

/-! ## Verdicts -/

/-- The target is reported delivered. -/
def ReceiptTarget.deliveredTerminal (target : ReceiptTarget) : Bool :=
  target.sdkSnapshot.any sdkStatusDeliveredTerminal || target.status.any (eqIgnoreAsciiCase · "delivered")

/-- The target is reported sent. -/
def ReceiptTarget.sentTerminal (target : ReceiptTarget) : Bool :=
  target.sdkSnapshot.any sdkStatusSentTerminal || target.status.any terminalReticulumdSentStatus

/-- The failure a target is reported with. -/
def ReceiptTarget.failureStatus (target : ReceiptTarget) : Option String :=
  (target.status.filter terminalReticulumdFailureStatus).or
    ((target.sdkSnapshot.filter sdkStatusFailureTerminal).map deliverySnapshotReceiptStatus)

/-- `propagated_fanout_partial_success_status`. -/
def propagatedFanoutPartialSuccessStatus (message : OutboundMessageRecord) (statuses : List ReceiptTarget) :
    Option String :=
  if !propagatedMultiRecipientAllowsPartialSuccess message then none
  else
    let hasSuccess := statuses.any ReceiptTarget.successTerminal
    let allResolved := statuses.all fun target =>
      target.successTerminal || propagatedMultiRecipientTargetFailureTerminal message target || target.peerNotAnnounced
    if !hasSuccess || !allResolved then none
    else ((statuses.find? ReceiptTarget.successTerminal).bind ReceiptTarget.status).or (some "sent")

/-- `propagated_multi_recipient_has_pending_targets`. -/
def propagatedMultiRecipientHasPendingTargets (message : OutboundMessageRecord) (statuses : List ReceiptTarget) : Bool :=
  propagatedMultiRecipientAllowsPartialSuccess message && statuses.any fun target =>
    !target.successTerminal && !propagatedMultiRecipientTargetFailureTerminal message target

/-- The first failure that is reported. -/
def failureReport (statuses : List ReceiptTarget) : Option StatusReport :=
  (statuses.findSome? ReceiptTarget.failureStatus).map .failed

/-- What the statuses come to, at the end of a round of `poll_reticulumd_delivery_receipts`. -/
def receiptVerdict (message : OutboundMessageRecord) (targets statuses : List ReceiptTarget) : Option StatusReport :=
  if statuses.length = targets.length then
    if statuses.all ReceiptTarget.deliveredTerminal then some (.delivered "delivered")
    else if statuses.all ReceiptTarget.sentTerminal then
      some (.sent ((statuses.head?.bind ReceiptTarget.status).getD "sent"))
    else if statuses.all ReceiptTarget.successTerminal then some (.sent "sent")
    else match propagatedFanoutPartialSuccessStatus message statuses with
      | some receiptStatus => some (.sent receiptStatus)
      | none => if propagatedMultiRecipientHasPendingTargets message statuses then none else failureReport statuses
  else if propagatedMultiRecipientAllowsPartialSuccess message then none
  else failureReport statuses

/-! ## A pass -/

/-- The targets that are asked for, those never heard of and those not asked for longest first. -/
def openTargets (targets : List ReceiptTarget) : List ReceiptTarget :=
  sortBy (fun left right => (compare left.pollPriority right.pollPriority).then (compare left.lastPoll right.lastPoll))
    (targets.filter fun target => !target.terminal)

/-- The statuses of a message: those that are final, and those found. -/
def messageStatuses (targets : List ReceiptTarget) (polled : TargetsPolled) : List ReceiptTarget :=
  targets.filter ReceiptTarget.terminal ++ polled.found

/-- A round of the loop of `poll_reticulumd_delivery_receipts`: its reports, and the budget that is left. -/
def pollMessage (answers : StatusAnswers) (nowMs : Int) (budget : Nat) (message : OutboundMessageRecord) :
    List StatusReport × Nat :=
  let targets := reticulumdReceiptTargetsForMessage message
  if targets.isEmpty then ([], budget)
  else
    let polled := pollTargets answers nowMs budget (openTargets targets)
    let statuses := messageStatuses targets polled
    (.polled :: ((polled.error.map .cutShort).toList ++
      if statuses.isEmpty then [] else .statuses statuses :: (receiptVerdict message targets statuses).toList), polled.budget)

/-- The loop of `poll_reticulumd_delivery_receipts`. -/
def pollMessages (answers : StatusAnswers) (nowMs : Int) : Nat → List OutboundMessageRecord → List (String × StatusReport)
  | _, [] => []
  | budget, message :: messages =>
    if budget = 0 then []
    else
      let round := pollMessage answers nowMs budget message
      round.1.map (Prod.mk message.messageId) ++ pollMessages answers nowMs round.2 messages

/-- The message is due to be asked for. -/
def receiptPollDue (nowMs : Int) (message : OutboundMessageRecord) : Bool :=
  reticulumdStatusPollCandidate message && decide (0 < reticulumdDispatchCount message) &&
    (metadataI64 message "receipt_last_poll_ts_ms").all fun lastPoll => reticulumdReceiptStatusPollMs ≤ nowMs - lastPoll

/-- `pending_messages`. -/
def pendingMessages (nowMs : Int) (messages : List OutboundMessageRecord) : List OutboundMessageRecord :=
  sortBy (fun left right => compare right.createdTsMs left.createdTsMs) (messages.filter (receiptPollDue nowMs))

/-- What a pass makes of the messages it starts from: when the next one is allowed, and its reports. -/
def receiptPass (answers : StatusAnswers) (nextPollTsMs nowMs : Int) (messages : List OutboundMessageRecord) :
    Int × List (String × StatusReport) :=
  if nowMs < nextPollTsMs || (pendingMessages nowMs messages).isEmpty then (nextPollTsMs, [])
  else (min (nowMs + reticulumdReceiptStatusPassIntervalMs) (2 ^ 63 - 1),
    pollMessages answers nowMs reticulumdReceiptStatusRpcBudgetPerPass (pendingMessages nowMs messages))

/-- The reports are handled one after the other. -/
def handleReports (reports : List (String × StatusReport)) : ServerM Unit :=
  reports.forM fun told => told.2.handle told.1

/-- `poll_reticulumd_delivery_receipts`, with the time from which it may ask again. -/
def pollReticulumdDeliveryReceipts (answers : StatusAnswers) (nextPollTsMs : Int) : ServerM Int := do
  let nowMs ← unixNowMs
  let pass := receiptPass answers nextPollTsMs nowMs (← state).messages
  handleReports pass.2
  return pass.1

theorem handleReports_cons (messageId : String) (report : StatusReport) (reports : List (String × StatusReport)) :
    handleReports ((messageId, report) :: reports) = report.handle messageId >>= fun _ => handleReports reports := rfl

theorem handleReports_append (reports others : List (String × StatusReport)) :
    handleReports (reports ++ others) = handleReports reports >>= fun _ => handleReports others := List.forM_append

/-! ## What a status comes from -/

theorem exists_of_forall₂ {α β : Type} {R : α → β → Prop} {left : List α} {right : List β} (each : List.Forall₂ R left right) :
    ∀ b ∈ right, ∃ a ∈ left, R a b := by
  induction each with
  | nil => exact fun _ mem => absurd mem List.not_mem_nil
  | cons head _ ih =>
    refine List.forall_mem_cons.2 ⟨⟨_, List.mem_cons_self, head⟩, fun b mem => ?_⟩
    obtain ⟨a, among, related⟩ := ih b mem
    exact ⟨a, List.mem_cons_of_mem _ among, related⟩

/-- What a pass can hold for the status of a target: what is on record, if that is final, or what the
data plane answered within the budget. -/
inductive TargetStatus (answers : StatusAnswers) (nowMs : Int) (target : ReceiptTarget) : ReceiptTarget → Prop
  | onRecord (final : target.terminal = true) : TargetStatus answers nowMs target target
  | answered {call : Nat} {candidate : String} {snapshot : LxmfDeliverySnapshot}
      (budgeted : call ≤ reticulumdReceiptStatusRpcBudgetPerPass)
      (asked : candidate ∈ reticulumdStatusMessageIdCandidates target.messageId)
      (answer : answers call candidate = .ok (some snapshot)) :
      TargetStatus answers nowMs target (target.answered nowMs snapshot)

section Statuses

variable {answers : StatusAnswers} {nowMs : Int} {budget : Nat}

theorem askCandidates_left (answers : StatusAnswers) (budget : Nat) (candidates : List String) : (askCandidates answers budget candidates).2 ≤ budget := by
  induction candidates generalizing budget with
  | nil => exact Nat.le_of_eq (by rw [askCandidates])
  | cons candidate candidates ih =>
    cases budget with
    | zero => exact Nat.le_of_eq (by rw [askCandidates])
    | succ budget =>
      rw [askCandidates]
      split
      · exact Nat.le_succ budget
      · exact Nat.le_succ_of_le (ih budget)
      · exact Nat.le_succ budget

theorem askCandidates_found {candidates : List String} {snapshot : LxmfDeliverySnapshot}
    (found : (askCandidates answers budget candidates).1 = .found snapshot) :
    ∃ call ≤ budget, ∃ candidate ∈ candidates, answers call candidate = .ok (some snapshot) := by
  induction candidates generalizing budget with
  | nil =>
    rw [askCandidates] at found
    cases found
  | cons candidate candidates ih =>
    cases budget with
    | zero =>
      rw [askCandidates] at found
      cases found
    | succ budget =>
      rw [askCandidates] at found
      split at found
      · rename_i answer
        cases found
        exact ⟨budget + 1, Nat.le_refl _, candidate, List.mem_cons_self, answer⟩
      · obtain ⟨call, within, other, mem, answer⟩ := ih found
        exact ⟨call, Nat.le_succ_of_le within, other, List.mem_cons_of_mem _ mem, answer⟩
      · cases found

/-- The loop goes through the targets in their order and finds something for some of them. -/
theorem pollTargets_statuses (answers : StatusAnswers) (nowMs : Int) (targets : List ReceiptTarget)
    (budgeted : budget ≤ reticulumdReceiptStatusRpcBudgetPerPass) :
    ∃ asked, asked.Sublist targets ∧
      List.Forall₂ (TargetStatus answers nowMs) asked (pollTargets answers nowMs budget targets).found := by
  induction targets generalizing budget with
  | nil => exact ⟨[], .slnil, .nil⟩
  | cons target targets ih =>
    have fewer := askCandidates_left answers budget (reticulumdStatusMessageIdCandidates target.messageId)
    have answer (snapshot : LxmfDeliverySnapshot)
        (found : (askCandidates answers budget (reticulumdStatusMessageIdCandidates target.messageId)).1 = .found snapshot) :=
      askCandidates_found found
    rw [pollTargets, zmqDeliveryStatus]
    generalize askCandidates answers budget (reticulumdStatusMessageIdCandidates target.messageId) = result
      at fewer answer ⊢
    rcases result with ⟨found | notFound | stopped, left⟩
    · obtain ⟨call, within, candidate, asked, answer⟩ := answer _ rfl
      have status : TargetStatus answers nowMs target (target.answered nowMs found) :=
        .answered (Nat.le_trans within budgeted) asked answer
      dsimp only
      split
      · exact ⟨[target], .cons_cons _ (List.nil_sublist _), .cons status .nil⟩
      · obtain ⟨others, sub, statuses⟩ := ih (Nat.le_trans fewer budgeted)
        exact ⟨target :: others, .cons_cons _ sub, .cons status statuses⟩
    · dsimp only
      split
      · exact ⟨[], List.nil_sublist _, .nil⟩
      · obtain ⟨asked, sub, statuses⟩ := ih (Nat.le_trans fewer budgeted)
        exact ⟨asked, .cons _ sub, statuses⟩
    · exact ⟨[], List.nil_sublist _, .nil⟩

theorem pollTargets_left (targets : List ReceiptTarget) : (pollTargets answers nowMs budget targets).budget ≤ budget := by
  induction targets generalizing budget with
  | nil => exact Nat.le_refl _
  | cons target targets ih =>
    have fewer := askCandidates_left answers budget (reticulumdStatusMessageIdCandidates target.messageId)
    rw [pollTargets, zmqDeliveryStatus]
    generalize askCandidates answers budget (reticulumdStatusMessageIdCandidates target.messageId) = result at fewer ⊢
    rcases result with ⟨found | notFound | stopped, left⟩
    · dsimp only
      split
      · exact Nat.zero_le _
      · exact Nat.le_trans ih fewer
    · dsimp only
      split
      · exact Nat.zero_le _
      · exact Nat.le_trans ih fewer
    · exact Nat.zero_le _

/-- The statuses of a round are of different places in the list of targets: as many of them as there
are targets are statuses of all. -/
structure TargetAccounts (answers : StatusAnswers) (nowMs : Int) (targets statuses : List ReceiptTarget) : Prop where
  known : ∀ status ∈ statuses, ∃ target ∈ targets, TargetStatus answers nowMs target status
  full : statuses.length = targets.length →
    ∀ target ∈ targets, ∃ status ∈ statuses, TargetStatus answers nowMs target status

theorem TargetAccounts.of_subperm {asked targets statuses : List ReceiptTarget} (among : asked.Subperm targets)
    (reported : List.Forall₂ (TargetStatus answers nowMs) asked statuses) : TargetAccounts answers nowMs targets statuses := by
  have turned : List.Forall₂ (flip (TargetStatus answers nowMs)) statuses asked := List.Forall₂.flip reported
  refine ⟨fun status mem => ?_, fun same target mem => ?_⟩
  · obtain ⟨target, own, told⟩ := exists_of_forall₂ reported status mem
    exact ⟨target, among.subset own, told⟩
  · have all : asked.Perm targets := among.perm_of_length_le (Nat.le_of_eq (same.symm.trans reported.length_eq.symm))
    exact exists_of_forall₂ turned target (all.mem_iff.2 mem)

/-- Every target is final or open. -/
theorem finalOpen_perm (targets : List ReceiptTarget) :
    (targets.filter ReceiptTarget.terminal ++ openTargets targets).Perm targets :=
  ((sortBy_perm _ _).append_left _).trans (List.filter_append_perm _ _)

theorem accounts_messageStatuses (answers : StatusAnswers) (nowMs : Int) (targets : List ReceiptTarget)
    (budgeted : budget ≤ reticulumdReceiptStatusRpcBudgetPerPass) :
    TargetAccounts answers nowMs targets (messageStatuses targets (pollTargets answers nowMs budget (openTargets targets))) := by
  obtain ⟨asked, sub, reported⟩ := pollTargets_statuses answers nowMs (openTargets targets) budgeted
  have final : List.Forall₂ (TargetStatus answers nowMs) (targets.filter ReceiptTarget.terminal)
      (targets.filter ReceiptTarget.terminal) :=
    List.forall₂_same.2 fun target mem => .onRecord (List.mem_filter.1 mem).2
  exact .of_subperm ((sub.append_left _).subperm.trans (finalOpen_perm targets).subperm) (List.rel_append final reported)

end Statuses

/-! ## What a verdict rests on -/

/-- The target is not waited for any longer. -/
def TargetResolved (message : OutboundMessageRecord) (status : ReceiptTarget) : Prop :=
  status.successTerminal = true ∨ propagatedMultiRecipientAllowsPartialSuccess message = true ∧
    (status.failureTerminal = true ∨ status.peerNotAnnounced = true)

/-- A state in which a pass can leave a message, and what that rests on. -/
inductive ReceiptOutcome (answers : StatusAnswers) (nowMs : Int) (message : OutboundMessageRecord) : String → Prop
  | delivered {state : String} (named : state ∈ ["delivered", "propagated"])
      (every : ∀ target ∈ reticulumdReceiptTargetsForMessage message,
        ∃ status, TargetStatus answers nowMs target status ∧ status.deliveredTerminal = true) :
      ReceiptOutcome answers nowMs message state
  | sent {state : String} (named : state ∈ ["sent", "propagated"])
      (every : ∀ target ∈ reticulumdReceiptTargetsForMessage message,
        ∃ status, TargetStatus answers nowMs target status ∧ TargetResolved message status)
      (one : ∃ target ∈ reticulumdReceiptTargetsForMessage message,
        ∃ status, TargetStatus answers nowMs target status ∧ status.successTerminal = true) :
      ReceiptOutcome answers nowMs message state
  | failed (one : ∃ target ∈ reticulumdReceiptTargetsForMessage message,
        ∃ status, TargetStatus answers nowMs target status ∧ status.failureTerminal = true) :
      ReceiptOutcome answers nowMs message "failed"

/-- The states a report can put a message into. -/
def StatusReport.states : StatusReport → List String
  | polled | cutShort _ | statuses _ => []
  | delivered _ => ["delivered", "propagated"]
  | sent _ => ["sent", "propagated"]
  | failed _ => ["failed"]

theorem StatusReport.write_quiet {report : StatusReport} (quiet : report.states = []) (tsMs : Int)
    (row : OutboundMessageRecord) : (report.write tsMs row).deliveryState = row.deliveryState := by
  cases report with
  | polled => rfl
  | cutShort error => rfl
  | statuses found => rfl
  | delivered receiptStatus => exact absurd quiet (List.cons_ne_nil _ _)
  | sent receiptStatus => exact absurd quiet (List.cons_ne_nil _ _)
  | failed receiptStatus => exact absurd quiet (List.cons_ne_nil _ _)

theorem StatusReport.write_verdict {report : StatusReport} (settles : report.states ≠ []) (tsMs : Int)
    (row : OutboundMessageRecord) : (report.write tsMs row).deliveryState ∈ report.states := by
  cases report with
  | polled => exact absurd rfl settles
  | cutShort error => exact absurd rfl settles
  | statuses found => exact absurd rfl settles
  | delivered receiptStatus =>
    show (if row.deliveryMethod = "propagated" then "propagated" else "delivered") ∈ ["delivered", "propagated"]
    split
    · exact List.mem_cons_of_mem _ List.mem_cons_self
    · exact List.mem_cons_self
  | sent receiptStatus =>
    show (if row.deliveryMethod = "propagated" then "propagated" else "sent") ∈ ["sent", "propagated"]
    split
    · exact List.mem_cons_of_mem _ List.mem_cons_self
    · exact List.mem_cons_self
  | failed receiptStatus => exact List.mem_cons_self

theorem StatusReport.write_state (report : StatusReport) (tsMs : Int) (row : OutboundMessageRecord) :
    (report.write tsMs row).deliveryState = row.deliveryState ∨ (report.write tsMs row).deliveryState ∈ report.states := by
  by_cases quiet : report.states = []
  · exact .inl (report.write_quiet quiet tsMs row)
  · exact .inr (report.write_verdict quiet tsMs row)

theorem StatusReport.write_messageId (report : StatusReport) (tsMs : Int) (row : OutboundMessageRecord) :
    (report.write tsMs row).messageId = row.messageId := by
  cases report with
  | _ => rfl

theorem ReceiptTarget.success_of_sent {target : ReceiptTarget} (sent : target.sentTerminal = true) :
    target.successTerminal = true := by
  rw [sentTerminal, Bool.or_eq_true, Option.any_eq_true, Option.any_eq_true] at sent
  rw [successTerminal, Bool.or_eq_true, Option.any_eq_true, Option.any_eq_true]
  rcases sent with ⟨snapshot, known, sent⟩ | ⟨status, known, sent⟩
  · exact .inl ⟨snapshot, known, by rw [sent, Bool.or_true]⟩
  · exact .inr ⟨status, known, by rw [sent, Bool.or_true]⟩

theorem ReceiptTarget.failure_of_status {target : ReceiptTarget} {text : String}
    (failed : target.failureStatus = some text) : target.failureTerminal = true := by
  rw [failureTerminal, Bool.or_eq_true, Option.any_eq_true, Option.any_eq_true]
  rw [failureStatus, Option.or_eq_some_iff] at failed
  rcases failed with told | ⟨-, told⟩
  · obtain ⟨known, failed⟩ := Option.filter_eq_some_iff.1 told
    exact .inl ⟨text, known, failed⟩
  · obtain ⟨snapshot, kept, -⟩ := Option.map_eq_some_iff.1 told
    obtain ⟨known, failed⟩ := Option.filter_eq_some_iff.1 kept
    exact .inr ⟨snapshot, known, failed⟩

theorem partial_success {message : OutboundMessageRecord} {statuses : List ReceiptTarget} {receiptStatus : String}
    (success : propagatedFanoutPartialSuccessStatus message statuses = some receiptStatus) :
    (∀ status ∈ statuses, TargetResolved message status) ∧ ∃ status ∈ statuses, status.successTerminal = true := by
  unfold propagatedFanoutPartialSuccessStatus at success
  split at success
  · cases success
  · rename_i allowed
    have allowed : propagatedMultiRecipientAllowsPartialSuccess message = true := by simpa using allowed
    dsimp only at success
    split at success
    · cases success
    · rename_i settled
      simp only [Bool.or_eq_true, Bool.not_eq_true', not_or, Bool.not_eq_false, List.all_eq_true, List.any_eq_true]
        at settled
      refine ⟨fun status mem => ?_, settled.1⟩
      rcases settled.2 status mem with (success | failure) | absent
      · exact .inl success
      · exact .inr ⟨allowed, .inl (Bool.and_eq_true _ _ ▸ failure).1⟩
      · exact .inr ⟨allowed, .inr absent⟩

section Verdicts

variable {answers : StatusAnswers} {nowMs : Int} {budget : Nat} {message : OutboundMessageRecord}
  {targets statuses : List ReceiptTarget} {P : ReceiptTarget → Prop}

theorem TargetAccounts.every (accounts : TargetAccounts answers nowMs targets statuses) (full : statuses.length = targets.length)
    (all : ∀ status ∈ statuses, P status) :
    ∀ target ∈ targets, ∃ status, TargetStatus answers nowMs target status ∧ P status := by
  intro target mem
  obtain ⟨status, among, told⟩ := accounts.full full target mem
  exact ⟨status, told, all status among⟩

theorem TargetAccounts.one (accounts : TargetAccounts answers nowMs targets statuses) (one : ∃ status ∈ statuses, P status) :
    ∃ target ∈ targets, ∃ status, TargetStatus answers nowMs target status ∧ P status := by
  obtain ⟨status, among, holds⟩ := one
  obtain ⟨target, mem, told⟩ := accounts.known status among
  exact ⟨target, mem, status, told, holds⟩

theorem failureReport_outcome (accounts : TargetAccounts answers nowMs (reticulumdReceiptTargetsForMessage message) statuses)
    {report : StatusReport} (settled : failureReport statuses = some report) {state : String}
    (named : state ∈ report.states) : ReceiptOutcome answers nowMs message state := by
  obtain ⟨text, found, rfl⟩ := Option.map_eq_some_iff.1 settled
  obtain rfl : state = "failed" := List.mem_singleton.1 named
  obtain ⟨status, among, failed⟩ := List.exists_of_findSome?_eq_some found
  exact .failed (accounts.one ⟨status, among, ReceiptTarget.failure_of_status failed⟩)

/-- A verdict rests on the statuses it is made of. -/
theorem receiptVerdict_outcome (accounts : TargetAccounts answers nowMs (reticulumdReceiptTargetsForMessage message) statuses)
    (heard : statuses ≠ []) {report : StatusReport}
    (settled : receiptVerdict message (reticulumdReceiptTargetsForMessage message) statuses = some report) {state : String}
    (named : state ∈ report.states) : ReceiptOutcome answers nowMs message state := by
  obtain ⟨first, mem⟩ := List.exists_mem_of_ne_nil _ heard
  -- All of them have succeeded.
  have succeeded (full : statuses.length = (reticulumdReceiptTargetsForMessage message).length)
      (all : ∀ status ∈ statuses, status.successTerminal = true) (sent : state ∈ ["sent", "propagated"]) :
      ReceiptOutcome answers nowMs message state :=
    .sent sent (accounts.every full fun status among => .inl (all status among))
      (accounts.one ⟨first, mem, all first mem⟩)
  unfold receiptVerdict at settled
  split at settled
  · rename_i full
    split at settled
    · rename_i delivered
      obtain rfl := Option.some.inj settled
      exact .delivered named (accounts.every full (List.all_eq_true.1 delivered))
    · split at settled
      · rename_i sent
        obtain rfl := Option.some.inj settled
        exact succeeded full (fun status among => ReceiptTarget.success_of_sent (List.all_eq_true.1 sent status among)) named
      · split at settled
        · rename_i success
          obtain rfl := Option.some.inj settled
          exact succeeded full (List.all_eq_true.1 success) named
        · split at settled
          · rename_i receiptStatus success
            obtain rfl := Option.some.inj settled
            obtain ⟨resolved, one⟩ := partial_success success
            exact .sent named (accounts.every full resolved) (accounts.one one)
          · split at settled
            · cases settled
            · exact failureReport_outcome accounts settled named
  · split at settled
    · cases settled
    · exact failureReport_outcome accounts settled named

theorem pollMessage_left : (pollMessage answers nowMs budget message).2 ≤ budget := by
  unfold pollMessage
  dsimp only
  split
  · exact Nat.le_refl _
  · exact pollTargets_left _

theorem pollMessage_outcome (budgeted : budget ≤ reticulumdReceiptStatusRpcBudgetPerPass) {report : StatusReport}
    (told : report ∈ (pollMessage answers nowMs budget message).1) {state : String} (named : state ∈ report.states) :
    ReceiptOutcome answers nowMs message state := by
  unfold pollMessage at told
  dsimp only at told
  split at told
  · cases told
  · rcases List.mem_cons.1 told with rfl | told
    · cases named
    · rcases List.mem_append.1 told with cut | told
      · obtain ⟨error, -, rfl⟩ := Option.map_eq_some_iff.1 (Option.mem_toList.1 cut)
        cases named
      · split at told
        · cases told
        · rename_i heard
          rcases List.mem_cons.1 told with rfl | settled
          · cases named
          · refine receiptVerdict_outcome (accounts_messageStatuses answers nowMs _ budgeted) ?_ (Option.mem_toList.1 settled) named
            exact fun empty => heard (List.isEmpty_iff.2 empty)

theorem pollMessages_outcome {messages : List OutboundMessageRecord}
    (budgeted : budget ≤ reticulumdReceiptStatusRpcBudgetPerPass) {messageId : String} {report : StatusReport}
    (told : (messageId, report) ∈ pollMessages answers nowMs budget messages) :
    ∃ message ∈ messages, message.messageId = messageId ∧
      ∀ state ∈ report.states, ReceiptOutcome answers nowMs message state := by
  induction messages generalizing budget with
  | nil => cases told
  | cons message messages ih =>
    rw [pollMessages] at told
    split at told
    · cases told
    · dsimp only at told
      rcases List.mem_append.1 told with here | there
      · obtain ⟨own, among, same⟩ := List.mem_map.1 here
        obtain ⟨rfl, rfl⟩ := Prod.mk.inj same
        exact ⟨message, List.mem_cons_self, rfl, fun state named => pollMessage_outcome budgeted among named⟩
      · obtain ⟨other, mem, same, outcome⟩ := ih (Nat.le_trans pollMessage_left budgeted) there
        exact ⟨other, List.mem_cons_of_mem _ mem, same, outcome⟩

end Verdicts

/-! ## Answers that are final -/

/-- The daemon is done with the copy. -/
def SnapshotFinal (snapshot : LxmfDeliverySnapshot) : Prop :=
  sdkStatusDeliveredTerminal snapshot = true ∨ sdkStatusSentTerminal snapshot = true ∨
    sdkStatusFailureTerminal snapshot = true

/-- Every question of a pass is answered for good. -/
def AnswersFinal (answers : StatusAnswers) : Prop :=
  ∀ call candidate, ∃ snapshot, answers call candidate = .ok (some snapshot) ∧ SnapshotFinal snapshot

theorem ReceiptTarget.terminal_of_answered (target : ReceiptTarget) (nowMs : Int) {snapshot : LxmfDeliverySnapshot}
    (final : SnapshotFinal snapshot) : (target.answered nowMs snapshot).terminal = true := by
  rw [terminal, successTerminal, failureTerminal, answered, Option.any_some, Option.any_some]
  rcases final with delivered | sent | failed
  · simp only [delivered, Bool.true_or]
  · simp only [sent, Bool.or_true, Bool.true_or]
  · simp only [Option.any_some, failed, Bool.or_true]

theorem ReceiptTarget.failureStatus_isSome {target : ReceiptTarget} (failed : target.failureTerminal = true) :
    target.failureStatus.isSome = true := by
  rw [failureTerminal, Bool.or_eq_true, Option.any_eq_true, Option.any_eq_true] at failed
  rw [failureStatus, Option.isSome_or, Bool.or_eq_true, Option.isSome_map]
  rcases failed with ⟨status, known, failed⟩ | ⟨snapshot, known, failed⟩
  · exact .inl (Option.isSome_of_eq_some (Option.filter_eq_some_iff.2 ⟨known, failed⟩))
  · exact .inr (Option.isSome_of_eq_some (Option.filter_eq_some_iff.2 ⟨known, failed⟩))

section Final

variable {answers : StatusAnswers} {nowMs : Int} {budget : Nat} {message : OutboundMessageRecord}
  {targets statuses : List ReceiptTarget}

theorem candidates_ne_nil (messageId : String) : reticulumdStatusMessageIdCandidates messageId ≠ [] := by
  unfold reticulumdStatusMessageIdCandidates
  split
  · exact List.cons_ne_nil _ _
  · exact List.cons_ne_nil _ _

/-- The first question finds the copy. -/
theorem zmqDeliveryStatus_final (final : AnswersFinal answers) (budget : Nat) (messageId : String) :
    ∃ snapshot, SnapshotFinal snapshot ∧ zmqDeliveryStatus answers messageId (budget + 1) = (.found snapshot, budget) := by
  obtain ⟨candidate, candidates, list⟩ := List.exists_cons_of_ne_nil (candidates_ne_nil messageId)
  obtain ⟨snapshot, answer, done⟩ := final (budget + 1) candidate
  exact ⟨snapshot, done, by rw [zmqDeliveryStatus, list, askCandidates, answer]⟩

/-- Within the budget every target is found. -/
theorem pollTargets_final (nowMs : Int) (final : AnswersFinal answers) (few : targets.length ≤ budget) :
    (pollTargets answers nowMs budget targets).found.length = targets.length ∧
      ∀ status ∈ (pollTargets answers nowMs budget targets).found, status.terminal = true := by
  induction targets generalizing budget with
  | nil => exact ⟨rfl, fun _ mem => absurd mem List.not_mem_nil⟩
  | cons target targets ih =>
    obtain ⟨left, rfl⟩ := Nat.exists_eq_add_of_le' (Nat.le_trans (Nat.le_add_left 1 _) few)
    have few : targets.length ≤ left := Nat.le_of_succ_le_succ few
    obtain ⟨snapshot, done, found⟩ := zmqDeliveryStatus_final final left target.messageId
    have settled := target.terminal_of_answered nowMs done
    rw [pollTargets, found]
    dsimp only
    split
    · rename_i spent
      have last : targets = [] := List.length_eq_zero_iff.1 (Nat.le_zero.1 (spent ▸ few))
      rw [last]
      exact ⟨rfl, fun status mem => List.mem_singleton.1 mem ▸ settled⟩
    · obtain ⟨many, all⟩ := ih few
      exact ⟨congrArg Nat.succ many, List.forall_mem_cons.2 ⟨settled, all⟩⟩

theorem messageStatuses_final (nowMs : Int) (final : AnswersFinal answers) (few : (openTargets targets).length ≤ budget) :
    (messageStatuses targets (pollTargets answers nowMs budget (openTargets targets))).length = targets.length ∧
      ∀ status ∈ messageStatuses targets (pollTargets answers nowMs budget (openTargets targets)), status.terminal = true := by
  obtain ⟨many, all⟩ := pollTargets_final nowMs final few
  refine ⟨?_, List.forall_mem_append.2 ⟨fun status mem => (List.mem_filter.1 mem).2, all⟩⟩
  rw [messageStatuses, List.length_append, many, ← List.length_append, (finalOpen_perm targets).length_eq]

theorem failed_of_final {status : ReceiptTarget} (final : status.terminal = true) (missed : ¬status.successTerminal = true) :
    status.failureTerminal = true := (Bool.or_eq_true _ _ ▸ final).resolve_left missed

/-- Where all is final, a fan-out in which one copy got through is a success in part. -/
theorem no_success (allowed : propagatedMultiRecipientAllowsPartialSuccess message = true)
    (final : ∀ status ∈ statuses, status.terminal = true)
    (missed : propagatedFanoutPartialSuccessStatus message statuses = none) :
    ∀ status ∈ statuses, status.successTerminal = false := by
  have resolved : (statuses.all fun target => target.successTerminal ||
      propagatedMultiRecipientTargetFailureTerminal message target || target.peerNotAnnounced) = true := by
    refine List.all_eq_true.2 fun status mem => ?_
    by_cases success : status.successTerminal = true
    · simp only [success, Bool.true_or]
    · rw [propagatedMultiRecipientTargetFailureTerminal, failed_of_final (final status mem) success, allowed]
      cases status.peerNotAnnounced with
      | false => simp only [Bool.and_false, Bool.not_false, Bool.and_true, Bool.or_true, Bool.true_or]
      | true => exact Bool.or_true _
  intro status mem
  by_contra success
  have success : statuses.any ReceiptTarget.successTerminal = true :=
    List.any_eq_true.2 ⟨status, mem, Bool.not_eq_false _ ▸ success⟩
  unfold propagatedFanoutPartialSuccessStatus at missed
  simp only [allowed, resolved, success, Bool.not_true, Bool.or_false, Bool.false_eq_true, if_false] at missed
  exact absurd (Option.or_eq_none_iff.1 missed).2 (Option.some_ne_none _)

/-- Final statuses are settled, but for a fan-out that got through to nobody and waits for a recipient to be
heard of. -/
theorem receiptVerdict_final (full : statuses.length = targets.length)
    (final : ∀ status ∈ statuses, status.terminal = true) (waits : receiptVerdict message targets statuses = none) :
    propagatedMultiRecipientAllowsPartialSuccess message = true ∧
      (∀ status ∈ statuses, status.successTerminal = false) ∧ ∃ status ∈ statuses, status.peerNotAnnounced = true := by
  unfold receiptVerdict at waits
  rw [if_pos full] at waits
  split at waits
  · cases waits
  · split at waits
    · cases waits
    · split at waits
      · cases waits
      · rename_i missed
        split at waits
        · cases waits
        · rename_i inPart
          split at waits
          · rename_i pending
            obtain ⟨allowed, pending⟩ := Bool.and_eq_true _ _ ▸ pending
            obtain ⟨status, among, pending⟩ := List.any_eq_true.1 pending
            have silent := no_success allowed final inPart
            have failed := failed_of_final (final status among) (by rw [silent status among]; exact Bool.false_ne_true)
            refine ⟨allowed, silent, status, among, ?_⟩
            simpa only [propagatedMultiRecipientTargetFailureTerminal, failed, allowed, silent status among, Bool.not_false,
              Bool.true_and, Bool.not_not] using pending
          · obtain ⟨status, among, missed⟩ : ∃ status ∈ statuses, ¬status.successTerminal = true := by
              by_contra all
              push Not at all
              exact missed (List.all_eq_true.2 all)
            have failed := ReceiptTarget.failureStatus_isSome (failed_of_final (final status among) missed)
            have none := List.findSome?_eq_none_iff.1 (Option.map_eq_none_iff.1 waits) status among
            rw [none] at failed
            cases failed

theorem receiptVerdict_states {report : StatusReport} (settled : receiptVerdict message targets statuses = some report) :
    report.states ≠ [] := by
  have failed (settled : failureReport statuses = some report) : report.states ≠ [] := by
    obtain ⟨text, -, rfl⟩ := Option.map_eq_some_iff.1 settled
    exact List.cons_ne_nil _ _
  unfold receiptVerdict at settled
  split at settled
  · split at settled
    · obtain rfl := Option.some.inj settled
      exact List.cons_ne_nil _ _
    · split at settled
      · obtain rfl := Option.some.inj settled
        exact List.cons_ne_nil _ _
      · split at settled
        · obtain rfl := Option.some.inj settled
          exact List.cons_ne_nil _ _
        · split at settled
          · obtain rfl := Option.some.inj settled
            exact List.cons_ne_nil _ _
          · split at settled
            · cases settled
            · exact failed settled
  · split at settled
    · cases settled
    · exact failed settled

theorem targets_ne_nil (message : OutboundMessageRecord) : reticulumdReceiptTargetsForMessage message ≠ [] := by
  unfold reticulumdReceiptTargetsForMessage
  split
  · exact List.cons_ne_nil _ _
  · assumption

/-- A message that has no more open copies than a pass has questions gets its verdict if every answer is final, or it
is a fan-out that got through to nobody and waits for a recipient to be heard of. -/
theorem pollMessage_final (nowMs : Int) (final : AnswersFinal answers)
    (few : (openTargets (reticulumdReceiptTargetsForMessage message)).length ≤ reticulumdReceiptStatusRpcBudgetPerPass) :
    (∃ told report, (pollMessage answers nowMs reticulumdReceiptStatusRpcBudgetPerPass message).1 = told ++ [report] ∧
      (∀ earlier ∈ told, earlier.states = []) ∧ report.states ≠ []) ∨
      propagatedMultiRecipientAllowsPartialSuccess message = true ∧
        (∀ target ∈ reticulumdReceiptTargetsForMessage message,
          ∃ status, TargetStatus answers nowMs target status ∧ status.successTerminal = false) ∧
        ∃ target ∈ reticulumdReceiptTargetsForMessage message,
          ∃ status, TargetStatus answers nowMs target status ∧ status.peerNotAnnounced = true := by
  obtain ⟨full, done⟩ := messageStatuses_final nowMs final few
  have accounts := accounts_messageStatuses answers nowMs (reticulumdReceiptTargetsForMessage message) (Nat.le_refl _)
  unfold pollMessage
  dsimp only
  rw [if_neg fun empty => targets_ne_nil message (List.isEmpty_iff.1 empty)]
  generalize pollTargets answers nowMs reticulumdReceiptStatusRpcBudgetPerPass
    (openTargets (reticulumdReceiptTargetsForMessage message)) = polled at full done accounts ⊢
  have heard : messageStatuses (reticulumdReceiptTargetsForMessage message) polled ≠ [] := by
    intro empty
    rw [empty] at full
    exact targets_ne_nil message (List.length_eq_zero_iff.1 full.symm)
  rw [if_neg fun empty => heard (List.isEmpty_iff.1 empty)]
  cases settled : receiptVerdict message (reticulumdReceiptTargetsForMessage message)
      (messageStatuses (reticulumdReceiptTargetsForMessage message) polled) with
  | some report =>
    refine .inl ⟨.polled :: ((polled.error.map .cutShort).toList ++
      [.statuses (messageStatuses (reticulumdReceiptTargetsForMessage message) polled)]), report, ?_, ?_,
      receiptVerdict_states settled⟩
    · simp only [Option.toList_some, List.cons_append, List.append_assoc, List.nil_append]
    · refine List.forall_mem_cons.2 ⟨rfl, List.forall_mem_append.2 ⟨fun earlier mem => ?_, fun earlier mem => ?_⟩⟩
      · obtain ⟨error, -, rfl⟩ := Option.map_eq_some_iff.1 (Option.mem_toList.1 mem)
        rfl
      · rw [List.mem_singleton.1 mem]
        rfl
  | none =>
    obtain ⟨allowed, silent, absent⟩ := receiptVerdict_final full done settled
    exact .inr ⟨allowed, accounts.every full silent, accounts.one absent⟩

end Final

/-! ## Runs of passes -/

/-- The first record of the id that the report concerns is rewritten. -/
def StatusReport.rewrite (messageId : String) (report : StatusReport) (tsMs : Int) (messages : List OutboundMessageRecord) :
    List OutboundMessageRecord :=
  replaceFirst (fun message => message.messageId == messageId && report.concerns message) (report.write tsMs) messages

/-- One of the reports is written. -/
inductive ReportWrite (reports : List (String × StatusReport)) (messages : List OutboundMessageRecord) :
    List OutboundMessageRecord → Prop
  | handled {messageId : String} {report : StatusReport} (told : (messageId, report) ∈ reports) (tsMs : Int) :
      ReportWrite reports messages (report.rewrite messageId tsMs messages)

/-- A record behind the reports: its state is the one it had, or one of a report about it. -/
def FollowsReports (reports : List (String × StatusReport)) (row row' : OutboundMessageRecord) : Prop :=
  row'.messageId = row.messageId ∧ (row'.deliveryState = row.deliveryState ∨
    ∃ report, (row.messageId, report) ∈ reports ∧ row'.deliveryState ∈ report.states)

section Passes

variable {reports : List (String × StatusReport)} {messages messages' : List OutboundMessageRecord}

theorem FollowsReports.trans {row row' row'' : OutboundMessageRecord} (first : FollowsReports reports row row')
    (last : FollowsReports reports row' row'') : FollowsReports reports row row'' := by
  refine ⟨last.1.trans first.1, ?_⟩
  rcases last.2 with same | ⟨report, told, named⟩
  · rw [same]
    exact first.2
  · exact .inr ⟨report, first.1 ▸ told, named⟩

theorem ReportWrite.follows (write : ReportWrite reports messages messages') :
    List.Forall₂ (FollowsReports reports) messages messages' := by
  cases write with
  | @handled messageId report told tsMs =>
    refine (forall₂_replaceFirst _ _ messages).imp ?_
    rintro row row' (rfl | ⟨found, rfl⟩)
    · exact ⟨rfl, .inl rfl⟩
    · have concerned := List.find?_some found
      have own : row.messageId = messageId := beq_iff_eq.1 (Bool.and_eq_true _ _ ▸ concerned).1
      refine ⟨report.write_messageId tsMs row, ?_⟩
      exact (report.write_state tsMs row).imp_right fun named => ⟨report, own ▸ told, named⟩

end Passes

theorem partialSuccess_pending (row : OutboundMessageRecord) :
    (propagatedFanoutPartialSuccessMetadata row).get "receipt_pending" = none := by
  unfold propagatedFanoutPartialSuccessMetadata
  split
  · rfl
  · dsimp only
    split
    · rfl
    · rfl

/-- A verdict ends the wait for a receipt. -/
theorem StatusReport.write_settles {report : StatusReport} (settles : report.states ≠ []) (tsMs : Int)
    (row : OutboundMessageRecord) : deliveryReceiptPending (report.write tsMs row) = false := by
  suffices closed : (report.write tsMs row).deliveryMetadata.get "receipt_pending" = some (toValue false) by
    rw [deliveryReceiptPending, metadataBool, closed]
    rfl
  cases report with
  | polled => exact absurd rfl settles
  | cutShort error => exact absurd rfl settles
  | statuses found => exact absurd rfl settles
  | delivered receiptStatus => simp [StatusReport.write, get_merge, List.lookup_cons]
  | sent receiptStatus =>
    have distinct : (mergeDeliveryMetadata (.object [("acked", toValue false), ("dispatch_status", toValue "accepted"),
        ("receipt_pending", toValue false), ("receipt_status", toValue receiptStatus),
        ("receipt_sent_ts_ms", toValue tsMs), ("receipt_timeout", toValue false)])
        (propagatedFanoutPartialSuccessMetadata row)).Distinct := by
      apply distinct_merge
      show List.Nodup ["acked", "dispatch_status", "receipt_pending", "receipt_status", "receipt_sent_ts_ms",
        "receipt_timeout"]
      decide
    simp only [StatusReport.write]
    rw [get_merge_distinct _ distinct, get_merge_distinct _ (distinct_partialSuccess row), partialSuccess_pending row]
    rfl
  | failed receiptStatus => simp [StatusReport.write, get_merge, List.lookup_cons]

/-- The records of an id, and whether the store is locked. -/
def rowsAndLock (messageId : String) (s : AppState) : List OutboundMessageRecord × Bool :=
  (s.messages.filter fun message => message.messageId == messageId, s.persistenceLocked)

section Rows

variable {messageId : String} {row : OutboundMessageRecord} {rows : List OutboundMessageRecord}

theorem spec_stored (operation : SqliteStore → SqliteStore) :
    Spec (rowsAndLock messageId) (withCoreStoreWrite operation) (rows, false) fun r t' => r = .ok () ∧ t' = (rows, false) := by
  intro w seen _
  have unlocked : w.state.persistenceLocked = false := congrArg Prod.snd seen
  have run : (withCoreStoreWrite operation).run w =
      (.ok (), { w with state := { w.state with sqlite := w.state.sqlite.map operation } }) := by
    rw [withCoreStoreWrite, ensureKillSwitchPersistenceUnlocked, bind_assoc, run_state_bind, unlocked]
    rfl
  rw [run]
  exact ⟨⟨rfl, seen⟩, trivial⟩

theorem spec_recorded (eventType text : String) (metadata : Value) :
    Spec (rowsAndLock messageId) (recordSystemEvent eventType text metadata) (rows, false) fun r t' =>
      (∃ event, r = .ok event) ∧ t' = (rows, false) := by
  unfold recordSystemEvent
  have kept (s : AppState) (event : SystemEventRecord) :
      rowsAndLock messageId { s with systemEvents := pushSystemEvent s.systemEvents event } = rowsAndLock messageId s := by
    dsimp only [rowsAndLock]
  refine Spec.draw fun eventId => Spec.now fun timestampMs => Spec.write (fun s same => (kept s _).trans same) ?_
  exact Proc.Spec.step (spec_stored _) (Proc.Spec.pure ⟨⟨_, rfl⟩, rfl⟩)

theorem rows_rewrite (report : StatusReport) (other : String) (tsMs : Int) {s : AppState}
    (seen : rowsAndLock messageId s = ([row], false)) :
    rowsAndLock messageId { s with messages := report.rewrite other tsMs s.messages } =
      ([if other = messageId ∧ report.concerns row = true then report.write tsMs row else row], false) := by
  obtain ⟨rows, unlocked⟩ := Prod.mk.inj seen
  have own : (row.messageId == messageId) = true :=
    (List.mem_filter.1 (rows ▸ List.mem_singleton_self row : row ∈ s.messages.filter fun message =>
      message.messageId == messageId)).2
  refine Prod.ext ?_ unlocked
  show (report.rewrite other tsMs s.messages).filter (fun message => message.messageId == messageId) = _
  unfold StatusReport.rewrite
  by_cases same : other = messageId
  · subst same
    rw [filter_replaceFirst, rows]
    · rw [replaceFirst, replaceFirst, own, Bool.true_and]
      split
      · rename_i concerned
        rw [if_pos ⟨rfl, concerned⟩]
      · rename_i free
        rw [if_neg fun both => free both.2]
    · intro message matching
      have named : (message.messageId == other) = true := (Bool.and_eq_true _ _ ▸ matching).1
      exact ⟨named, by rw [report.write_messageId]; exact named⟩
  · rw [filter_replaceFirst_of_disjoint, rows, if_neg fun both => same both.1]
    intro message matching
    have named : message.messageId = other := beq_iff_eq.1 (Bool.and_eq_true _ _ ▸ matching).1
    rw [report.write_messageId, named]
    exact ⟨beq_eq_false_iff_ne.2 same, beq_eq_false_iff_ne.2 same⟩

/-- A report is handled without fail where the store is open. -/
theorem spec_handle (report : StatusReport) (other : String) :
    Spec (rowsAndLock messageId) (report.handle other) ([row], false) fun r t' => r = .ok () ∧
      ∃ tsMs, t' = ([if other = messageId ∧ report.concerns row = true then report.write tsMs row else row], false) := by
  unfold StatusReport.handle
  refine Spec.now fun tsMs => Spec.read fun s seen => ?_
  split
  · rename_i absent
    refine Proc.Spec.pure ⟨rfl, tsMs, ?_⟩
    rw [← rows_rewrite report other tsMs seen, StatusReport.rewrite, replaceFirst_of_none absent]
    exact seen.symm
  · refine Spec.write (fun s seen => rows_rewrite report other tsMs seen) (Proc.Spec.step (spec_stored _) ?_)
    split
    · exact Proc.Spec.pure ⟨rfl, tsMs, rfl⟩
    · refine Proc.Spec.bind (spec_recorded _ _ _) (fun event t' told => ?_) fun e t' told => ?_
      · rw [told.2]
        exact Proc.Spec.pure ⟨rfl, tsMs, rfl⟩
      · obtain ⟨⟨event, told⟩, -⟩ := told
        cases told

theorem spec_others {reports : List (String × StatusReport)} (apart : ∀ told ∈ reports, told.1 ≠ messageId) :
    Spec (rowsAndLock messageId) (handleReports reports) ([row], false) fun r t' => r = .ok () ∧ t' = ([row], false) := by
  induction reports with
  | nil => exact Proc.Spec.pure ⟨rfl, rfl⟩
  | cons told reports ih =>
    obtain ⟨here, there⟩ := List.forall_mem_cons.1 apart
    obtain ⟨other, report⟩ := told
    rw [handleReports_cons]
    have first : Spec (rowsAndLock messageId) (report.handle other) ([row], false) fun r t' =>
        r = .ok () ∧ t' = ([row], false) := by
      refine (spec_handle report other).mono fun r t' handled => ?_
      obtain ⟨done, tsMs, rfl⟩ := handled
      exact ⟨done, by rw [if_neg fun both => here both.1]⟩
    exact Proc.Spec.step first (ih there)

theorem spec_quiet {reports : List StatusReport} (quiet : ∀ report ∈ reports, report.states = []) :
    Spec (rowsAndLock messageId) (handleReports (reports.map (Prod.mk messageId))) ([row], false)
      fun r t' => r = .ok () ∧ ∃ row', t' = ([row'], false) ∧ row'.deliveryState = row.deliveryState := by
  induction reports generalizing row with
  | nil => exact Proc.Spec.pure ⟨rfl, row, rfl, rfl⟩
  | cons report reports ih =>
    obtain ⟨here, there⟩ := List.forall_mem_cons.1 quiet
    rw [List.map_cons, handleReports_cons]
    refine Proc.Spec.bind (spec_handle report messageId) (fun _ t' handled => ?_) fun e t' handled => ?_
    · obtain ⟨-, tsMs, rfl⟩ := handled
      refine (ih there).mono fun r t' later => ?_
      obtain ⟨done, row', rows, same⟩ := later
      refine ⟨done, row', rows, same.trans ?_⟩
      split
      · exact report.write_quiet here tsMs row
      · rfl
    · cases handled.1

/-- A verdict is about every message that is not over yet. -/
theorem concerns_verdict {report : StatusReport} (settles : report.states ≠ [])
    (delivered : normalizedDeliveryState row ≠ "delivered") (failed : normalizedDeliveryState row ≠ "failed") :
    report.concerns row = true := by
  have undecided : (!(["delivered", "failed"].contains (normalizedDeliveryState row))) = true := by
    simp only [List.contains_cons, List.contains_nil, Bool.or_false, Bool.not_eq_true', Bool.or_eq_false_iff,
      beq_eq_false_iff_ne]
    exact ⟨delivered, failed⟩
  cases report with
  | polled => exact absurd rfl settles
  | cutShort error => exact absurd rfl settles
  | statuses found => exact absurd rfl settles
  | delivered receiptStatus => exact undecided
  | sent receiptStatus => exact undecided
  | failed receiptStatus => exact undecided

/-- Behind a verdict, and reports about other messages, the message waits for no receipt. -/
theorem spec_settles {told : List StatusReport} {report : StatusReport} {others : List (String × StatusReport)}
    (quiet : ∀ earlier ∈ told, earlier.states = []) (settles : report.states ≠ [])
    (apart : ∀ told ∈ others, told.1 ≠ messageId) (delivered : normalizedDeliveryState row ≠ "delivered")
    (failed : normalizedDeliveryState row ≠ "failed") :
    Spec (rowsAndLock messageId) (handleReports (told.map (Prod.mk messageId) ++ (messageId, report) :: others)) ([row], false)
      fun _ t' => ∃ row', t' = ([row'], false) ∧ row'.deliveryState ∈ report.states ∧ deliveryReceiptPending row' = false := by
  rw [handleReports_append, handleReports_cons]
  refine Proc.Spec.bind (spec_quiet quiet) (fun _ t' handled => ?_) fun e t' handled => ?_
  · obtain ⟨-, row', rfl, same⟩ := handled
    have state : normalizedDeliveryState row' = normalizedDeliveryState row := by
      rw [normalizedDeliveryState, normalizedDeliveryState, same]
    refine Proc.Spec.bind (spec_handle report messageId) (fun _ t' handled => ?_) fun e t' handled => ?_
    · obtain ⟨-, tsMs, rfl⟩ := handled
      rw [if_pos ⟨rfl, concerns_verdict settles (state.trans_ne delivered) (state.trans_ne failed)⟩]
      refine (spec_others apart).mono fun r t' later => ?_
      exact ⟨_, later.2, report.write_verdict settles tsMs row', report.write_settles settles tsMs row'⟩
    · cases handled.1
  · cases handled.1

/-- Of messages with ids of their own only one is of the id of the first. -/
theorem others_apart {nowMs : Int} {messages others : List OutboundMessageRecord} {message : OutboundMessageRecord}
    (next : pendingMessages nowMs messages = message :: others)
    (only : (messages.filter fun row => row.messageId == message.messageId) = [message]) :
    ∀ other ∈ others, other.messageId ≠ message.messageId := by
  intro other mem same
  have pending : (message :: others).Perm (messages.filter (receiptPollDue nowMs)) := next ▸ sortBy_perm _ _
  have few := (pending.filter fun row : OutboundMessageRecord => row.messageId == message.messageId).length_eq.trans_le
    ((List.filter_sublist.filter fun row : OutboundMessageRecord => row.messageId == message.messageId).length_le.trans_eq
      (congrArg List.length only))
  rw [List.filter_cons, if_pos (beq_self_eq_true _), List.length_cons, List.length_singleton] at few
  have none := List.length_eq_zero_iff.1 (Nat.le_zero.1 (Nat.le_of_succ_le_succ few))
  have among : other ∈ others.filter fun row => row.messageId == message.messageId :=
    List.mem_filter.2 ⟨mem, beq_iff_eq.2 same⟩
  rw [none] at among
  cases among

theorem not_delivered_of_due {nowMs : Int} (due : receiptPollDue nowMs row = true) :
    normalizedDeliveryState row ≠ "delivered" := by
  intro delivered
  rw [receiptPollDue, reticulumdStatusPollCandidate, delivered] at due
  simp at due

end Rows

/-- The states of a message that is waited for no longer. -/
def settledStates : List String := ["delivered", "sent", "propagated", "failed"]

theorem states_settled {report : StatusReport} {state : String} (named : state ∈ report.states) : state ∈ settledStates := by
  cases report with
  | polled => cases named
  | cutShort error => cases named
  | statuses found => cases named
  | delivered receiptStatus => exact (by decide : ["delivered", "propagated"] ⊆ settledStates) named
  | sent receiptStatus => exact (by decide : ["sent", "propagated"] ⊆ settledStates) named
  | failed receiptStatus => exact (by decide : ["failed"] ⊆ settledStates) named

/-- A message that is next in line and has no more open copies than a pass has questions waits for no receipt behind
that pass if every answer is final, but for a fan-out that got through to nobody and waits for a recipient to be
heard of. -/
theorem settled_when_answered {w : ServerWorld} {answers : StatusAnswers} {nextPollTsMs : Int}
    {message : OutboundMessageRecord} {others : List OutboundMessageRecord} (unlocked : w.state.persistenceLocked = false)
    (due : nextPollTsMs ≤ (w.clock 0).timestampMillis)
    (next : pendingMessages (w.clock 0).timestampMillis w.state.messages = message :: others)
    (only : (w.state.messages.filter fun row => row.messageId == message.messageId) = [message])
    (undecided : normalizedDeliveryState message ≠ "failed")
    (few : (openTargets (reticulumdReceiptTargetsForMessage message)).length ≤ reticulumdReceiptStatusRpcBudgetPerPass)
    (final : AnswersFinal answers) :
    letI w' := ((pollReticulumdDeliveryReceipts answers nextPollTsMs).run w).2
    (∃ row, (w'.state.messages.filter fun row => row.messageId == message.messageId) = [row] ∧
      row.deliveryState ∈ settledStates ∧ deliveryReceiptPending row = false) ∨
      propagatedMultiRecipientAllowsPartialSuccess message = true ∧
        (∀ target ∈ reticulumdReceiptTargetsForMessage message, ∃ status,
          TargetStatus answers (w.clock 0).timestampMillis target status ∧ status.successTerminal = false) ∧
        ∃ target ∈ reticulumdReceiptTargetsForMessage message, ∃ status,
          TargetStatus answers (w.clock 0).timestampMillis target status ∧ status.peerNotAnnounced = true := by
  rcases pollMessage_final (w.clock 0).timestampMillis final few with ⟨told, report, reports, quiet, settles⟩ | waits
  · refine .inl ?_
    have allowed : ¬((w.clock 0).timestampMillis < nextPollTsMs || (message :: others).isEmpty) = true := by
      rw [List.isEmpty_cons, Bool.or_false, decide_eq_true_eq]
      exact Int.not_lt.2 due
    obtain ⟨later, pass, apart⟩ : ∃ later, (receiptPass answers nextPollTsMs (w.clock 0).timestampMillis
        w.state.messages).2 = told.map (Prod.mk message.messageId) ++ (message.messageId, report) :: later ∧
        ∀ told ∈ later, told.1 ≠ message.messageId := by
      refine ⟨pollMessages answers (w.clock 0).timestampMillis (pollMessage answers (w.clock 0).timestampMillis
        reticulumdReceiptStatusRpcBudgetPerPass message).2 others, ?_, ?_⟩
      · rw [receiptPass, next, if_neg allowed, pollMessages, if_neg (by decide)]
        dsimp only
        rw [reports, List.map_append, List.append_assoc]
        rfl
      · rintro ⟨messageId, other⟩ mem
        obtain ⟨about, among, rfl, -⟩ := pollMessages_outcome pollMessage_left mem
        exact others_apart next only about among
    have pending : message ∈ pendingMessages (w.clock 0).timestampMillis w.state.messages := by
      rw [next]
      exact List.mem_cons_self
    have delivered := not_delivered_of_due (List.mem_filter.1 (mem_sortBy.1 pending)).2
    have spec := spec_settles quiet settles apart delivered undecided
    rw [← pass] at spec
    have whole (next : Int) : Spec (rowsAndLock message.messageId) (handleReports (receiptPass answers nextPollTsMs
        (w.clock 0).timestampMillis w.state.messages).2 >>= fun _ => (pure next : ServerM Int)) ([message], false)
        fun _ t' => ∃ row', t' = ([row'], false) ∧ row'.deliveryState ∈ report.states ∧ deliveryReceiptPending row' = false :=
      Spec.before spec
    obtain ⟨⟨row, seen, named, settled⟩, -⟩ := whole _ { w with clock := fun n => w.clock (n + 1) }
      (Prod.ext only unlocked) trivial
    exact ⟨row, congrArg Prod.fst seen, states_settled named, settled⟩
  · exact .inr waits

/-! ### A drill -/

/-- A message of which one copy was accepted. -/
def acceptedMessage : OutboundMessageRecord where
  messageId := "m"
  topicId := none
  destination := some "aa"
  sender := "northbound"
  content := "hello"
  deliveryMode := .targeted
  deliveryMethod := "direct"
  deliveryPolicyReason := "default_direct"
  deliveryState := "sent"
  deliveryMetadata := .object [("receipt_pending", .bool true), ("reticulumd_dispatch_count", toValue 1)]
  createdTsMs := 0
  attachments := []

/-- Whatever is asked for was delivered. -/
def allDelivered : StatusAnswers := fun _ candidate => .ok (some
  { messageId := candidate, state := .delivered, terminal := true, lastUpdatedMs := 0, attempts := 1, reasonCode := none })

theorem accepted_message_settled :
    letI w : ServerWorld := .atEpoch { messages := [acceptedMessage] }
    ∃ row, (((pollReticulumdDeliveryReceipts allDelivered 0).run w).2.state.messages.filter fun row =>
      row.messageId == acceptedMessage.messageId) = [row] ∧ row.deliveryState ∈ settledStates ∧
      deliveryReceiptPending row = false := by
  have next : pendingMessages 0 [acceptedMessage] = [acceptedMessage] := by
    rw [pendingMessages, List.filter_cons_of_pos (by decide +kernel)]
    rfl
  have final : AnswersFinal allDelivered := fun _ _ => ⟨_, rfl, .inl rfl⟩
  have settled := settled_when_answered (w := .atEpoch { messages := [acceptedMessage] }) rfl (Int.le_refl 0) next rfl
    (by decide +kernel) (by decide +kernel) final
  exact settled.resolve_right fun fanout => absurd fanout.1 (by decide +kernel)

end TelemetryHub
