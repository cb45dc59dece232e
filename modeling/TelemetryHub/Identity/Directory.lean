import TelemetryHub.Lib.Dict
import TelemetryHub.Text

/-!
# The identity directory

Who has asked to be enrolled, what was decided, and who is trusted. Decisions and trust
records are two maps: accepting writes both, rejecting the first only, revoking the second
only. Every check comes before the first write, so a call that fails leaves the directory as
it was. `Utc::now()` is an argument.
-/

namespace TelemetryHub

open Lib

/-- `NodeId`. -/
structure NodeId where
  value : String
deriving DecidableEq

/-- `NodeId::is_empty`. -/
def NodeId.isEmpty (nodeId : NodeId) : Bool := trim nodeId.value == ""

structure NodeIdentity where
  id : NodeId
  displayName : String
  publicKeyHint : String
deriving DecidableEq

inductive TrustLevel
  | unknown
  | enrolled
  | trusted
  | revoked
deriving DecidableEq

structure TrustRecord where
  nodeId : NodeId
  level : TrustLevel
  updatedAt : Int
  reason : Option String
deriving DecidableEq

/-- `TrustRecord::unknown`. -/
def TrustRecord.unknown (nodeId : NodeId) (now : Int) : TrustRecord where
  nodeId := nodeId
  level := .unknown
  updatedAt := now
  reason := none

structure EnrollmentRequest where
  identity : NodeIdentity
  requestedAt : Int
  attestationHint : Option String
deriving DecidableEq

inductive EnrollmentDecision
  | pending
  | accepted (trust : TrustRecord)
  | rejected (reason : String)
deriving DecidableEq

inductive IdentityError
  | emptyIdentity
  | enrollmentNotFound
  | alreadyRejected
deriving DecidableEq

/-- The `Display` of an error. -/
def IdentityError.text : IdentityError → String
  | .emptyIdentity => "identity is required"
  | .enrollmentNotFound => "enrollment request not found"
  | .alreadyRejected => "enrollment request is rejected"

structure IdentityDirectory where
  identities : Dict NodeId NodeIdentity := ∅
  trust : Dict NodeId TrustRecord := ∅
  enrollments : Dict NodeId EnrollmentDecision := ∅

def validateNodeId (nodeId : NodeId) : Except IdentityError Unit :=
  if nodeId.isEmpty then .error .emptyIdentity else .ok ()

namespace IdentityDirectory

def submitEnrollment (d : IdentityDirectory) (request : EnrollmentRequest) :
    Except IdentityError (EnrollmentDecision × IdentityDirectory) := do
  validateNodeId request.identity.id
  let nodeId := request.identity.id
  let decision := .pending
  return (decision, { d with
    identities := d.identities.insert nodeId request.identity
    enrollments := d.enrollments.insert nodeId decision })

def acceptEnrollment (d : IdentityDirectory) (nodeId : NodeId) (reason : Option String) (now : Int) :
    Except IdentityError (EnrollmentDecision × IdentityDirectory) := do
  validateNodeId nodeId
  match d.enrollments.get nodeId with
  | some (.rejected _) => throw .alreadyRejected
  | some _ => pure ()
  | none => throw .enrollmentNotFound
  let trust : TrustRecord := { nodeId, level := .trusted, updatedAt := now, reason }
  let decision := .accepted trust
  return (decision, { d with
    trust := d.trust.insert nodeId trust
    enrollments := d.enrollments.insert nodeId decision })

def rejectEnrollment (d : IdentityDirectory) (nodeId : NodeId) (reason : String) :
    Except IdentityError (EnrollmentDecision × IdentityDirectory) := do
  validateNodeId nodeId
  if ¬d.enrollments.contains nodeId then
    throw .enrollmentNotFound
  let decision := .rejected reason
  return (decision, { d with enrollments := d.enrollments.insert nodeId decision })

def revoke (d : IdentityDirectory) (nodeId : NodeId) (reason : Option String) (now : Int) :
    Except IdentityError IdentityDirectory := do
  validateNodeId nodeId
  return { d with trust := d.trust.insert nodeId { nodeId, level := .revoked, updatedAt := now, reason } }

def trustRecord (d : IdentityDirectory) (nodeId : NodeId) (now : Int) : TrustRecord :=
  (d.trust.get nodeId).getD (.unknown nodeId now)

def identity (d : IdentityDirectory) (nodeId : NodeId) : Option NodeIdentity := d.identities.get nodeId

def enrollment (d : IdentityDirectory) (nodeId : NodeId) : Option EnrollmentDecision := d.enrollments.get nodeId

variable {d d' : IdentityDirectory} {n : NodeId}

/-! ## What a call that succeeds has found and done -/

theorem submitEnrollment_ok {request : EnrollmentRequest} {decision : EnrollmentDecision} :
    d.submitEnrollment request = .ok (decision, d') ↔ request.identity.id.isEmpty = false ∧ decision = .pending ∧
      d' = { d with identities := d.identities.insert request.identity.id request.identity
                    enrollments := d.enrollments.insert request.identity.id .pending } := by
  unfold submitEnrollment validateNodeId
  cases request.identity.id.isEmpty with
  | true => simp [bind, Except.bind]
  | false => simp [bind, Except.bind, pure, Except.pure, eq_comm]

theorem acceptEnrollment_ok {reason : Option String} {now : Int} {decision : EnrollmentDecision} :
    d.acceptEnrollment n reason now = .ok (decision, d') ↔ n.isEmpty = false ∧
      (∃ standing, d.enrollment n = some standing ∧ ∀ reason, standing ≠ .rejected reason) ∧
      decision = .accepted { nodeId := n, level := .trusted, updatedAt := now, reason } ∧
      d' = { d with trust := d.trust.insert n { nodeId := n, level := .trusted, updatedAt := now, reason }
                    enrollments := d.enrollments.insert n decision } := by
  unfold acceptEnrollment validateNodeId enrollment
  cases n.isEmpty with
  | true => simp [bind, Except.bind]
  | false =>
    rcases d.enrollments.get n with _ | _ | _ | _ <;> simp [bind, Except.bind, pure, Except.pure, throw, throwThe, MonadExceptOf.throw]
    all_goals
      constructor
      · rintro ⟨rfl, rfl⟩
        exact ⟨rfl, rfl⟩
      · rintro ⟨rfl, rfl⟩
        exact ⟨rfl, rfl⟩

theorem rejectEnrollment_ok {reason : String} {decision : EnrollmentDecision} :
    d.rejectEnrollment n reason = .ok (decision, d') ↔ n.isEmpty = false ∧ d.enrollment n ≠ none ∧
      decision = .rejected reason ∧ d' = { d with enrollments := d.enrollments.insert n decision } := by
  unfold rejectEnrollment validateNodeId enrollment
  cases n.isEmpty with
  | true => simp [bind, Except.bind]
  | false =>
    cases h : d.enrollments.get n with
    | none => simp [Dict.contains, h, bind, Except.bind, throw, throwThe, MonadExceptOf.throw]
    | some standing =>
      simp [Dict.contains, h, bind, Except.bind, pure, Except.pure]
      constructor
      · rintro ⟨rfl, rfl⟩
        exact ⟨rfl, rfl⟩
      · rintro ⟨rfl, rfl⟩
        exact ⟨rfl, rfl⟩

theorem revoke_ok {reason : Option String} {now : Int} :
    d.revoke n reason now = .ok d' ↔ n.isEmpty = false ∧
      d' = { d with trust := d.trust.insert n { nodeId := n, level := .revoked, updatedAt := now, reason } } := by
  unfold revoke validateNodeId
  cases n.isEmpty with
  | true => simp [bind, Except.bind]
  | false => simp [bind, Except.bind, pure, Except.pure, eq_comm]

end IdentityDirectory
end TelemetryHub
