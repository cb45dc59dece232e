import Mathlib.Data.List.Infix
import TelemetryHub.Identity.Directory

/-!
# Who is trusted, and since which call

The directory is followed over any sequence of calls, beside the history of those that
succeeded. Its three maps are what the history says; what trust should rest on is a property
of the history alone, and one step keeps it or breaks it at the node the call names.
-/

namespace TelemetryHub

open Lib

/-- A call of the directory. An acceptance is decided on one submission of the node, the
first, the second and so on; the directory is not told which. -/
inductive DirectoryCall
  | submitEnrollment (request : EnrollmentRequest)
  | acceptEnrollment (nodeId : NodeId) (reason : Option String) (now : Int) (about : Nat)
  | rejectEnrollment (nodeId : NodeId) (reason : String)
  | revoke (nodeId : NodeId) (reason : Option String) (now : Int)
deriving DecidableEq

namespace DirectoryCall

def node : DirectoryCall → NodeId
  | .submitEnrollment request => request.identity.id
  | .acceptEnrollment nodeId .. | .rejectEnrollment nodeId .. | .revoke nodeId .. => nodeId

def answer (d : IdentityDirectory) : DirectoryCall → Except IdentityError IdentityDirectory
  | .submitEnrollment request => (d.submitEnrollment request).map Prod.snd
  | .acceptEnrollment nodeId reason now _ => (d.acceptEnrollment nodeId reason now).map Prod.snd
  | .rejectEnrollment nodeId reason => (d.rejectEnrollment nodeId reason).map Prod.snd
  | .revoke nodeId reason now => d.revoke nodeId reason now

def Submits (n : NodeId) : DirectoryCall → Prop
  | .submitEnrollment request => request.identity.id = n
  | _ => False

def Accepts (n : NodeId) : DirectoryCall → Prop
  | .acceptEnrollment nodeId .. => nodeId = n
  | _ => False

def Rejects (n : NodeId) : DirectoryCall → Prop
  | .rejectEnrollment nodeId _ => nodeId = n
  | _ => False

def Revokes (n : NodeId) : DirectoryCall → Prop
  | .revoke nodeId .. => nodeId = n
  | _ => False

instance (n : NodeId) (call : DirectoryCall) : Decidable (call.Submits n) := by
  cases call <;> unfold Submits <;> infer_instance

/-- The identity a call records for a node. -/
def identitySaid (n : NodeId) : DirectoryCall → Option NodeIdentity
  | .submitEnrollment request => if request.identity.id = n then some request.identity else none
  | _ => none

/-- The trust record a call makes for a node. -/
def trustSaid (n : NodeId) : DirectoryCall → Option TrustRecord
  | .acceptEnrollment nodeId reason now _ =>
    if nodeId = n then some { nodeId, level := .trusted, updatedAt := now, reason } else none
  | .revoke nodeId reason now =>
    if nodeId = n then some { nodeId, level := .revoked, updatedAt := now, reason } else none
  | _ => none

/-- The decision a call makes on a node. -/
def decisionSaid (n : NodeId) : DirectoryCall → Option EnrollmentDecision
  | .submitEnrollment request => if request.identity.id = n then some .pending else none
  | .acceptEnrollment nodeId reason now _ =>
    if nodeId = n then some (.accepted { nodeId, level := .trusted, updatedAt := now, reason }) else none
  | .rejectEnrollment nodeId reason => if nodeId = n then some (.rejected reason) else none
  | .revoke .. => none

variable {n : NodeId} {call : DirectoryCall}

theorem trustSaid_other (other : call.node ≠ n) : call.trustSaid n = none := by
  cases call <;> simp_all [trustSaid, node]

theorem decisionSaid_other (other : call.node ≠ n) : call.decisionSaid n = none := by
  cases call <;> simp_all [decisionSaid, node]

theorem identitySaid_other (other : call.node ≠ n) : call.identitySaid n = none := by
  cases call <;> simp_all [identitySaid, node]

end DirectoryCall

/-! ## Histories, newest call first -/

/-- How often a node has submitted an enrolment. -/
def submissions (n : NodeId) (history : List DirectoryCall) : Nat := history.countP fun call => call.Submits n

/-- An acceptance about a submission that no rejection has come after. Where the node was
never rejected there is nothing an acceptance could be too late for. -/
def FreshAcceptance (n : NodeId) (about : Nat) (history : List DirectoryCall) : Prop :=
  (∃ call ∈ history, call.Rejects n) → ∃ since before, history = since ++ before ∧
    (∀ call ∈ since, ¬call.Rejects n) ∧ submissions n before < about ∧ about ≤ submissions n history

/-- An enrolment has been submitted since the last revocation, if there was one. -/
def Renewed (n : NodeId) (history : List DirectoryCall) : Prop :=
  (∃ call ∈ history, call.Revokes n) → ∃ since before, history = since ++ before ∧
    (∀ call ∈ since, ¬call.Revokes n) ∧ ∃ call ∈ since, call.Submits n

/-- A node's last acceptance, which no rejection and no revocation has come after, was in
time: about a submission not rejected since, and about an enrolment renewed after a
revocation. -/
def RightlyAccepted (n : NodeId) (history : List DirectoryCall) : Prop :=
  ∃ later reason now about earlier, history = later ++ .acceptEnrollment n reason now about :: earlier ∧
    (∀ call ∈ later, ¬call.Accepts n ∧ ¬call.Rejects n ∧ ¬call.Revokes n) ∧
    FreshAcceptance n about earlier ∧ Renewed n earlier

/-- The history has the node trusted. -/
def TrustedBy (n : NodeId) (history : List DirectoryCall) : Prop :=
  (history.findSome? (DirectoryCall.trustSaid n)).map TrustRecord.level = some .trusted

/-- The history has the enrolment of the node accepted. -/
def AcceptedBy (n : NodeId) (history : List DirectoryCall) : Prop :=
  ∃ trust, history.findSome? (DirectoryCall.decisionSaid n) = some (.accepted trust)

/-- What trust in a node should rest on. -/
def EarnedBy (n : NodeId) (history : List DirectoryCall) : Prop :=
  TrustedBy n history → AcceptedBy n history ∧ RightlyAccepted n history

/-- A call that does not leave a node trusted on no ground. -/
def SoundCall (history : List DirectoryCall) : DirectoryCall → Prop
  | .submitEnrollment request => ¬TrustedBy request.identity.id history
  | .acceptEnrollment n _ _ about => FreshAcceptance n about history ∧ Renewed n history
  | .rejectEnrollment n _ => ¬TrustedBy n history
  | .revoke .. => True

section

variable {n : NodeId} {call : DirectoryCall} {history : List DirectoryCall}

theorem trustedBy_cons_other (other : call.node ≠ n) : TrustedBy n (call :: history) ↔ TrustedBy n history := by
  simp [TrustedBy, DirectoryCall.trustSaid_other other]

theorem acceptedBy_cons_other (other : call.node ≠ n) : AcceptedBy n (call :: history) ↔ AcceptedBy n history := by
  simp [AcceptedBy, DirectoryCall.decisionSaid_other other]

theorem RightlyAccepted.cons (rightly : RightlyAccepted n history)
    (still : ¬call.Accepts n ∧ ¬call.Rejects n ∧ ¬call.Revokes n) : RightlyAccepted n (call :: history) := by
  obtain ⟨later, reason, now, about, earlier, rfl, quiet, intime⟩ := rightly
  refine ⟨call :: later, reason, now, about, earlier, rfl, ?_, intime⟩
  intro call' member
  rcases List.mem_cons.mp member with rfl | member
  · exact still
  · exact quiet call' member

/-- A call about another node changes nothing for this one. -/
theorem EarnedBy.cons_other (earned : EarnedBy n history) (other : call.node ≠ n) : EarnedBy n (call :: history) := by
  intro trusted
  obtain ⟨accepted, rightly⟩ := earned ((trustedBy_cons_other other).mp trusted)
  refine ⟨(acceptedBy_cons_other other).mpr accepted, rightly.cons ?_⟩
  cases call <;> simp_all [DirectoryCall.Accepts, DirectoryCall.Rejects, DirectoryCall.Revokes, DirectoryCall.node]

/-- An acceptance just made is the node's last one. -/
theorem rightlyAccepted_cons {reason : Option String} {now : Int} {about : Nat} :
    RightlyAccepted n (.acceptEnrollment n reason now about :: history) ↔ FreshAcceptance n about history ∧ Renewed n history := by
  constructor
  · rintro ⟨later, reason', now', about', earlier, same, quiet, intime⟩
    rcases later with _ | ⟨call, later⟩
    · cases same
      exact intime
    · cases same
      exact absurd rfl (quiet _ List.mem_cons_self).1
  · intro intime
    exact ⟨[], reason, now, about, history, rfl, by simp, intime⟩

/-- One call keeps trust earned at the node it names exactly when it is a sound one. -/
theorem earnedBy_cons_node : EarnedBy call.node (call :: history) ↔ SoundCall history call := by
  cases call with
  | submitEnrollment request =>
    simp [EarnedBy, TrustedBy, AcceptedBy, SoundCall, DirectoryCall.node, DirectoryCall.trustSaid, DirectoryCall.decisionSaid,
      List.findSome?_cons]
  | acceptEnrollment n reason now about =>
    simp [EarnedBy, TrustedBy, AcceptedBy, SoundCall, DirectoryCall.node, DirectoryCall.trustSaid, DirectoryCall.decisionSaid,
      rightlyAccepted_cons]
  | rejectEnrollment n reason =>
    simp [EarnedBy, TrustedBy, AcceptedBy, SoundCall, DirectoryCall.node, DirectoryCall.trustSaid, DirectoryCall.decisionSaid,
      List.findSome?_cons]
  | revoke n reason now =>
    simp [EarnedBy, TrustedBy, SoundCall, DirectoryCall.node, DirectoryCall.trustSaid]

theorem earnedBy_cons (earned : ∀ n, EarnedBy n history) :
    (∀ n, EarnedBy n (call :: history)) ↔ SoundCall history call := by
  rw [← earnedBy_cons_node]
  constructor
  · intro all
    exact all call.node
  · intro named n
    by_cases same : call.node = n
    · exact same ▸ named
    · exact (earned n).cons_other same

end

/-! ## Runs of the directory -/

/-- A directory and the calls that succeeded on it, newest first. -/
structure DirectoryRun where
  directory : IdentityDirectory := {}
  history : List DirectoryCall := []

namespace DirectoryRun

def step (s : DirectoryRun) (call : DirectoryCall) : DirectoryRun :=
  match call.answer s.directory with
  | .ok directory => { directory, history := call :: s.history }
  | .error _ => s

def run (calls : List DirectoryCall) : DirectoryRun := calls.foldl step {}

/-- `trust_record` of a node is trusted. -/
def Trusted (s : DirectoryRun) (n : NodeId) : Prop := ∃ now, (s.directory.trustRecord n now).level = .trusted

/-- Every node that is trusted has its enrolment accepted, and that acceptance was in time and
has not been taken back. -/
def TrustEarned (s : DirectoryRun) : Prop :=
  ∀ n, s.Trusted n → (∃ trust, s.directory.enrollment n = some (.accepted trust)) ∧ RightlyAccepted n s.history

/-- A call that keeps trust earned: no new enrolment and no rejection of a node while it is
trusted; no acceptance of a node about a submission that was rejected since, and none of a
revoked node before it has enrolled again. -/
def Careful (s : DirectoryRun) : DirectoryCall → Prop
  | .submitEnrollment request => ¬s.Trusted request.identity.id
  | .acceptEnrollment n _ _ about =>
    (∃ standing, s.directory.enrollment n = some standing ∧ ∀ reason, standing ≠ .rejected reason) →
      FreshAcceptance n about s.history ∧ Renewed n s.history
  | .rejectEnrollment n _ => ¬s.Trusted n
  | .revoke .. => True

/-- The directory is what its history says. -/
structure Told (s : DirectoryRun) : Prop where
  identities : ∀ n, s.directory.identity n = s.history.findSome? (DirectoryCall.identitySaid n)
  trust : ∀ n, s.directory.trust.get n = s.history.findSome? (DirectoryCall.trustSaid n)
  enrollments : ∀ n, s.directory.enrollment n = s.history.findSome? (DirectoryCall.decisionSaid n)
  named : ∀ call ∈ s.history, call.node.isEmpty = false

theorem told_new : ({} : DirectoryRun).Told where
  identities n := rfl
  trust n := rfl
  enrollments n := rfl
  named := by simp

/-- What a call that succeeds writes is what it is recorded to have said. -/
structure Wrote (call : DirectoryCall) (d d' : IdentityDirectory) : Prop where
  identities : ∀ n, d'.identity n = (call.identitySaid n).or (d.identity n)
  trust : ∀ n, d'.trust.get n = (call.trustSaid n).or (d.trust.get n)
  enrollments : ∀ n, d'.enrollment n = (call.decisionSaid n).or (d.enrollment n)
  named : call.node.isEmpty = false

theorem get_insert_or {V : Type} (m : Dict NodeId V) (k k' : NodeId) (v : V) :
    (m.insert k v).get k' = (if k = k' then some v else none).or (m.get k') := by
  rw [Dict.get_insert]
  by_cases same : k = k'
  · simp [same]
  · simp [same, Ne.symm same]

theorem map_snd_eq_ok {α β ε : Type} {answer : Except ε (α × β)} {b : β} :
    answer.map Prod.snd = .ok b ↔ ∃ a, answer = .ok (a, b) := by
  cases answer with
  | error e => simp [Except.map]
  | ok pair => simp [Except.map, Prod.ext_iff]

theorem answer_wrote {d d' : IdentityDirectory} {call : DirectoryCall} (answered : call.answer d = .ok d') : Wrote call d d' := by
  cases call with
  | submitEnrollment request =>
    obtain ⟨_, answered⟩ := map_snd_eq_ok.mp answered
    obtain ⟨named, rfl, rfl⟩ := IdentityDirectory.submitEnrollment_ok.mp answered
    exact ⟨fun n => get_insert_or .., fun n => rfl, fun n => get_insert_or .., named⟩
  | acceptEnrollment nodeId reason now about =>
    obtain ⟨_, answered⟩ := map_snd_eq_ok.mp answered
    obtain ⟨named, _, rfl, rfl⟩ := IdentityDirectory.acceptEnrollment_ok.mp answered
    exact ⟨fun n => rfl, fun n => get_insert_or .., fun n => get_insert_or .., named⟩
  | rejectEnrollment nodeId reason =>
    obtain ⟨_, answered⟩ := map_snd_eq_ok.mp answered
    obtain ⟨named, _, rfl, rfl⟩ := IdentityDirectory.rejectEnrollment_ok.mp answered
    exact ⟨fun n => rfl, fun n => rfl, fun n => get_insert_or .., named⟩
  | revoke nodeId reason now =>
    obtain ⟨named, rfl⟩ := IdentityDirectory.revoke_ok.mp answered
    exact ⟨fun n => rfl, fun n => get_insert_or .., fun n => rfl, named⟩

variable {s : DirectoryRun} {call : DirectoryCall}

theorem step_ok {d : IdentityDirectory} (answered : call.answer s.directory = .ok d) :
    s.step call = { directory := d, history := call :: s.history } := by simp [step, answered]

theorem step_error {e : IdentityError} (refused : call.answer s.directory = .error e) : s.step call = s := by
  simp [step, refused]

theorem Told.step (told : s.Told) (call : DirectoryCall) : (s.step call).Told := by
  cases answered : call.answer s.directory with
  | error e =>
    rw [step_error answered]
    exact told
  | ok d =>
    rw [step_ok answered]
    have wrote := answer_wrote answered
    constructor
    · intro n
      rw [wrote.identities n, told.identities n, List.findSome?_cons]
      cases call.identitySaid n <;> rfl
    · intro n
      rw [wrote.trust n, told.trust n, List.findSome?_cons]
      cases call.trustSaid n <;> rfl
    · intro n
      rw [wrote.enrollments n, told.enrollments n, List.findSome?_cons]
      cases call.decisionSaid n <;> rfl
    · intro call' member
      rcases List.mem_cons.mp member with rfl | member
      · exact wrote.named
      · exact told.named call' member

/-! ## Trust in the directory and trust by the history -/

theorem Told.trusted_iff (told : s.Told) {n : NodeId} : s.Trusted n ↔ TrustedBy n s.history := by
  unfold Trusted TrustedBy IdentityDirectory.trustRecord
  rw [told.trust n]
  cases s.history.findSome? (DirectoryCall.trustSaid n) <;> simp [TrustRecord.unknown]

theorem Told.trustEarned_iff (told : s.Told) : s.TrustEarned ↔ ∀ n, EarnedBy n s.history := by
  simp only [TrustEarned, EarnedBy, AcceptedBy, told.trusted_iff, told.enrollments]

/-- A node the history decides on has a name. -/
theorem Told.enrolled_named (told : s.Told) {n : NodeId} {decision : EnrollmentDecision}
    (enrolled : s.directory.enrollment n = some decision) : n.isEmpty = false := by
  rw [told.enrollments n] at enrolled
  obtain ⟨call, member, decided⟩ := List.exists_of_findSome?_eq_some enrolled
  have same : call.node = n := by
    by_contra other
    simp [DirectoryCall.decisionSaid_other other] at decided
  exact same ▸ told.named call member

/-- A careful call that succeeds is a sound one. -/
theorem Told.sound_of_careful (told : s.Told) {d : IdentityDirectory} (careful : s.Careful call)
    (answered : call.answer s.directory = .ok d) : SoundCall s.history call := by
  cases call with
  | submitEnrollment request => exact fun trusted => careful (told.trusted_iff.mpr trusted)
  | acceptEnrollment nodeId reason now about =>
    obtain ⟨_, answered⟩ := map_snd_eq_ok.mp answered
    exact careful (IdentityDirectory.acceptEnrollment_ok.mp answered).2.1
  | rejectEnrollment nodeId reason => exact fun trusted => careful (told.trusted_iff.mpr trusted)
  | revoke => trivial

/-- While trust is earned, a call that is not careful succeeds and is not sound. -/
theorem Told.careful_of_sound (told : s.Told) (earned : s.TrustEarned)
    (sound : ∀ d, call.answer s.directory = .ok d → SoundCall s.history call) : s.Careful call := by
  cases call with
  | submitEnrollment request =>
    intro trusted
    obtain ⟨⟨_, enrolled⟩, _⟩ := earned _ trusted
    have answered : s.directory.submitEnrollment request = .ok _ :=
      IdentityDirectory.submitEnrollment_ok.mpr ⟨told.enrolled_named enrolled, rfl, rfl⟩
    exact sound _ (map_snd_eq_ok.mpr ⟨_, answered⟩) (told.trusted_iff.mp trusted)
  | acceptEnrollment nodeId reason now about =>
    intro acceptable
    obtain ⟨standing, enrolled, _⟩ := id acceptable
    have answered : s.directory.acceptEnrollment nodeId reason now = .ok _ :=
      IdentityDirectory.acceptEnrollment_ok.mpr ⟨told.enrolled_named enrolled, acceptable, rfl, rfl⟩
    exact sound _ (map_snd_eq_ok.mpr ⟨_, answered⟩)
  | rejectEnrollment nodeId reason =>
    intro trusted
    obtain ⟨⟨_, enrolled⟩, _⟩ := earned _ trusted
    have answered : s.directory.rejectEnrollment nodeId reason = .ok _ :=
      IdentityDirectory.rejectEnrollment_ok.mpr ⟨told.enrolled_named enrolled, by simp [enrolled], rfl, rfl⟩
    exact sound _ (map_snd_eq_ok.mpr ⟨_, answered⟩) (told.trusted_iff.mp trusted)
  | revoke => trivial

/-- One call keeps trust earned exactly when it is a careful one. -/
theorem Told.step_earned (told : s.Told) (earned : s.TrustEarned) : (s.step call).TrustEarned ↔ s.Careful call := by
  have history := told.trustEarned_iff.mp earned
  have told' := told.step call
  constructor
  · intro earned'
    apply told.careful_of_sound earned
    intro d answered
    rw [told'.trustEarned_iff, step_ok answered, earnedBy_cons history] at earned'
    exact earned'
  · intro careful
    cases answered : call.answer s.directory with
    | error e =>
      rw [step_error answered]
      exact earned
    | ok d =>
      rw [told'.trustEarned_iff, step_ok answered, earnedBy_cons history]
      exact told.sound_of_careful careful answered

/-! ## Every run -/

theorem run_append (calls : List DirectoryCall) (call : DirectoryCall) : run (calls ++ [call]) = (run calls).step call := by
  simp [run]

theorem run_told (calls : List DirectoryCall) : (run calls).Told := by
  induction calls using List.reverseRecOn with
  | nil => exact told_new
  | append_singleton calls call ih =>
    rw [run_append]
    exact ih.step call

theorem new_earned : (run []).TrustEarned := by
  rintro n ⟨now, trusted⟩
  cases trusted

/-- **Trust is earned** in every state of a run exactly when every call of it is careful. -/
theorem trust_earned (calls : List DirectoryCall) :
    (∀ before, before <+: calls → (run before).TrustEarned) ↔
      ∀ before call, before ++ [call] <+: calls → (run before).Careful call := by
  constructor
  · intro earned before call within
    have here := earned before ((List.prefix_append ..).trans within)
    rw [← (run_told before).step_earned here, ← run_append]
    exact earned _ within
  · intro careful before within
    induction before using List.reverseRecOn with
    | nil => exact new_earned
    | append_singleton before call ih =>
      have here := ih ((List.prefix_append ..).trans within)
      rw [run_append, (run_told before).step_earned here]
      exact careful before call within

def nodeA : NodeId := ⟨"node-a"⟩

def nodeARequest : DirectoryCall := .submitEnrollment
  { identity := { id := nodeA, displayName := "Field Node", publicKeyHint := "pubkey" }, requestedAt := 1, attestationHint := none }

/-- An enrolled node is accepted and then rejected, or asks again, and is trusted all the same;
a revoked one is accepted on its old request; and after a rejection and a new request the
acceptance of the first one arrives. -/
theorem trust_not_earned :
    ¬(run [nodeARequest, .acceptEnrollment nodeA none 2 1, .rejectEnrollment nodeA "bad attestation"]).TrustEarned ∧
    ¬(run [nodeARequest, .acceptEnrollment nodeA none 2 1, nodeARequest]).TrustEarned ∧
    ¬(run [nodeARequest, .revoke nodeA (some "compromised") 2, .acceptEnrollment nodeA none 3 1]).TrustEarned ∧
    ¬(run [nodeARequest, .rejectEnrollment nodeA "bad attestation", nodeARequest, .acceptEnrollment nodeA none 3 1]).TrustEarned := by
  refine ⟨?_, ?_, ?_, ?_⟩
  · intro earned
    obtain ⟨⟨trust, accepted⟩, _⟩ := earned nodeA ⟨0, rfl⟩
    cases accepted
  · intro earned
    obtain ⟨⟨trust, accepted⟩, _⟩ := earned nodeA ⟨0, rfl⟩
    cases accepted
  · intro earned
    obtain ⟨_, rightly⟩ := earned nodeA ⟨0, rfl⟩
    obtain ⟨_, renewed⟩ := rightlyAccepted_cons.mp rightly
    obtain ⟨since, before, same, unrevoked, call, member, submits⟩ := renewed ⟨_, List.mem_cons_self, rfl⟩
    -- whatever has come since the revocation, it is nothing
    rcases since with _ | ⟨newest, since⟩
    · simp at member
    · obtain ⟨rfl, _⟩ := List.cons.inj same
      exact unrevoked _ List.mem_cons_self rfl
  · intro earned
    obtain ⟨_, rightly⟩ := earned nodeA ⟨0, rfl⟩
    obtain ⟨fresh, _⟩ := rightlyAccepted_cons.mp rightly
    obtain ⟨since, before, same, unrejected, first, _⟩ :=
      fresh ⟨_, List.mem_cons_of_mem _ List.mem_cons_self, rfl⟩
    -- the first submission came before the rejection
    rcases since with _ | ⟨newest, _ | ⟨earlier, since⟩⟩
    · cases same
      exact absurd first (by decide)
    · cases same
      exact absurd first (by decide)
    · obtain ⟨_, rest⟩ := List.cons.inj same
      obtain ⟨rfl, _⟩ := List.cons.inj rest
      exact unrejected _ (List.mem_cons_of_mem _ List.mem_cons_self) rfl

end DirectoryRun
end TelemetryHub
