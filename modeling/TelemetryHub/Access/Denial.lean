import Mathlib.Data.List.Dedup
import TelemetryHub.Core.Dispatch

/-!
# Denied operations

`resolve_effective_operations` takes from what is granted whatever a right
denies. The two sync front ends ask for the identity's own capabilities before
they resolve anything, so a denial decides a command only where there is no such
capability.
-/

namespace TelemetryHub

open Lib CoreM

/-- The front ends that check who may run a command. -/
inductive SyncGate where
  | mission
  | checklist
  deriving DecidableEq

/-- The capability a gate asks for. -/
def SyncGate.capability : SyncGate → String → Option String
  | mission => requiredCapability
  | checklist => checklistRequiredCapability

/-- The front end behind a gate. -/
def SyncGate.handle [Host] : SyncGate → MissionCommandEnvelope → CoreM (List MissionSyncResponse)
  | mission => handleMissionSyncCommand
  | checklist => handleChecklistSyncCommand

/-- A right in force that denies `operation` to `identity` in every scope, as
`revoke_operation_right` writes it. -/
def Denied (core : RchCore) (identity operation : String) : Prop :=
  ∃ right ∈ core.subjectOperationRights.values,
    right.subjectType = "identity" ∧ some right.subjectId = normalizeHash identity ∧
      right.operation = operation ∧ right.scopeType = "global" ∧ right.granted = false

/-- The reason codes of a command turned away at a gate. -/
def refusalCodes : List String := ["unauthorized", "invalid_team", "unauthorized_team"]

/-- A response that turns a command away. -/
def MissionSyncResponse.refuses (response : MissionSyncResponse) : Prop :=
  response.results.status = .rejected ∧ ∃ code ∈ refusalCodes, response.results.reasonCode = some code

/-- The front end turns the command away and leaves the state as it was. -/
def Refused (handler : CoreM (List MissionSyncResponse)) (world : World) : Prop :=
  (handler.run world).2 = world ∧
    ∃ responses, (handler.run world).1 = .ok responses ∧ responses ≠ [] ∧
      ∀ response ∈ responses, response.refuses

/-! ## The resolver honours a denial -/

/-- The identity itself is among the subjects it is judged as. -/
theorem identity_mem_subjectRefs {core : RchCore} {identity subjectId : String}
    (h : some subjectId = normalizeHash identity) :
    ("identity", subjectId) ∈ core.subjectRefsForIdentity identity := by
  rw [RchCore.subjectRefsForIdentity, ← h]
  exact List.mem_cons_self

/-- A denied operation is effective in no mission, whatever grants it. -/
theorem denied_not_effective {core : RchCore} {identity operation : String}
    (h : Denied core identity operation) (missionUid : Option String) :
    operation ∉ core.resolveEffectiveOperations identity missionUid := by
  obtain ⟨right, hright, htype, hid, rfl, hscope, hgranted⟩ := h
  rw [RchCore.resolveEffectiveOperations, mem_sortBy, List.mem_dedup, List.mem_filter]
  rintro ⟨-, hkept⟩
  have hmatch : right ∈ core.matchingOperationRights (core.subjectRefsForIdentity identity)
      ((missionUid.map trim).filter fun uid => !uid.isEmpty) := by
    rw [RchCore.matchingOperationRights, List.mem_filter]
    refine ⟨hright, ?_⟩
    rw [htype, hscope]
    simp [identity_mem_subjectRefs hid]
  have hdenied : right.operation ∈ ((core.matchingOperationRights
      (core.subjectRefsForIdentity identity)
      ((missionUid.map trim).filter fun uid => !uid.isEmpty)).filter
        fun right => !right.granted).map SubjectOperationRight.operation :=
    List.mem_map_of_mem (List.mem_filter.2 ⟨hmatch, by simp [hgranted]⟩)
  simp only [Bool.not_eq_true', List.contains_eq_mem, decide_eq_false_iff_not] at hkept
  exact hkept hdenied

theorem denied_not_authorized {core : RchCore} {identity operation : String}
    (h : Denied core identity operation) (missionUid : Option String) :
    core.authorizeIdentityOperation identity operation missionUid = false := by
  rw [RchCore.authorizeIdentityOperation, List.contains_eq_mem, decide_eq_false_iff_not]
  exact denied_not_effective h missionUid

section

variable [Host]

theorem denied_no_mission_access {core : RchCore} {command : MissionCommandEnvelope}
    {operation : String} (h : Denied core command.source.rnsIdentity operation) :
    core.hasMissionAccessOperation command operation = false := by
  rw [RchCore.hasMissionAccessOperation, List.any_eq_false]
  intro missionUid _
  rw [RchCore.identityHasMissionOperation, denied_not_authorized h]
  simp

theorem denied_no_checklist_access {core : RchCore} {command : MissionCommandEnvelope}
    {operation : String} (h : Denied core command.source.rnsIdentity operation) :
    core.hasChecklistAccessOperation command operation = false := by
  rw [RchCore.hasChecklistAccessOperation, Option.any_eq_false]
  intro missionUid _
  rw [RchCore.identityHasMissionOperation, denied_not_authorized h]

/-! ## What the gates do -/

omit [Host] in
theorem missionCapabilities_supported :
    ∀ row ∈ missionCapabilities, ∀ commandType ∈ row.1, commandType ∈ missionCommandTypes := by
  unfold missionCapabilities missionCommandTypes
  simp only [List.forall_mem_cons, List.not_mem_nil, false_imp_iff, implies_true, and_true]
  repeat' constructor

omit [Host] in
theorem missionCommandTypes_not_rem :
    ∀ commandType ∈ missionCommandTypes, startsWith commandType "rem.registry." = false := by
  unfold missionCommandTypes
  simp only [List.forall_mem_cons, List.not_mem_nil, false_imp_iff, implies_true, and_true]
  and_intros <;> exact (startsWith_ofList _ _).trans rfl

omit [Host] in
theorem checklistCapabilities_supported :
    ∀ row ∈ checklistCapabilities, ∀ commandType ∈ row.1, commandType ∈ checklistCommandTypes := by
  unfold checklistCapabilities checklistCommandTypes
  simp only [List.forall_mem_cons, List.not_mem_nil, false_imp_iff, implies_true, and_true]
  repeat' constructor

omit [Host] in
/-- A command with a required capability is one the front end supports. -/
theorem supported_of_requiredCapability {commandType operation : String}
    (h : requiredCapability commandType = some operation) :
    startsWith commandType "rem.registry." = false ∧
      isSupportedMissionCommand commandType = true := by
  have hmem := lookupRow_spec (P := fun commandType _ => commandType ∈ missionCommandTypes)
    missionCapabilities_supported h
  refine ⟨missionCommandTypes_not_rem _ hmem, ?_⟩
  rw [isSupportedMissionCommand, decide_eq_true hmem, Bool.or_true]

omit [Host] in
theorem supported_of_checklistRequiredCapability {commandType operation : String}
    (h : checklistRequiredCapability commandType = some operation) :
    isSupportedChecklistCommand commandType = true :=
  decide_eq_true (lookupRow_spec (P := fun commandType _ => commandType ∈ checklistCommandTypes)
    checklistCapabilities_supported h)

/-- The capability a gate turns the command away for. -/
def SyncGate.missing : SyncGate → RchCore → MissionCommandEnvelope → Option String
  | mission => missionCapabilityMissing
  | checklist => checklistCapabilityMissing

/-- What a gate does with a command it lets through. -/
def SyncGate.letThrough : SyncGate → MissionCommandEnvelope → CoreM (List MissionSyncResponse)
  | mission => runMissionSyncCommand
  | checklist => runChecklistSyncCommand

/-- A command that needs a capability passes the TEAM scope, then the capability check. -/
theorem SyncGate.handle_apply (gate : SyncGate) {command : MissionCommandEnvelope}
    {operation : String} (needs : gate.capability command.commandType = some operation)
    (world : World) :
    (gate.handle command).run world =
      match world.core.validateRemTeamScope command with
      | .error (code, reason) =>
        (.ok [.ofResult (rejectedResult command code reason)], world)
      | .ok () =>
        match gate.missing world.core command with
        | some capability => (.ok [.ofResult (unauthorizedResult command capability)], world)
        | none => (gate.letThrough command).run world := by
  cases gate with
  | mission =>
    obtain ⟨notRem, supported⟩ := supported_of_requiredCapability needs
    simp only [SyncGate.handle, SyncGate.missing, SyncGate.letThrough, handleMissionSyncCommand, notRem,
      supported, Bool.not_true, Bool.false_eq_true, if_false, run_core_bind]
    rcases world.core.validateRemTeamScope command with ⟨code, reason⟩ | ⟨⟩
    · rfl
    · simp only [run_core_bind]
      cases missionCapabilityMissing world.core command <;> rfl
  | checklist =>
    have supported := supported_of_checklistRequiredCapability needs
    simp only [SyncGate.handle, SyncGate.missing, SyncGate.letThrough, handleChecklistSyncCommand,
      supported, Bool.not_true, Bool.false_eq_true, if_false, run_core_bind]
    rcases world.core.validateRemTeamScope command with ⟨code, reason⟩ | ⟨⟩
    · rfl
    · simp only [run_core_bind]
      cases checklistCapabilityMissing world.core command <;> rfl

/-- With a denial in force only the identity's own capability opens the gate. -/
theorem SyncGate.missing_of_denied (gate : SyncGate) {core : RchCore}
    (command : MissionCommandEnvelope) {operation : String}
    (needs : gate.capability command.commandType = some operation)
    (required : core.authorizationRequired = true)
    (denied : Denied core command.source.rnsIdentity operation) :
    gate.missing core command =
      if core.hasIdentityCapability command.source.rnsIdentity operation then none
      else some operation := by
  cases gate with
  | mission =>
    have needs : requiredCapability command.commandType = some operation := needs
    simp [SyncGate.missing, missionCapabilityMissing, needs, required,
      denied_no_mission_access denied, Option.filter_some, ← Bool.not_eq_true]
  | checklist =>
    have needs : checklistRequiredCapability command.commandType = some operation := needs
    simp [SyncGate.missing, checklistCapabilityMissing, needs, required,
      denied_no_checklist_access denied, Option.filter_some, ← Bool.not_eq_true]

omit [Host] in
/-- The TEAM scope rejects with one of the refusal codes. -/
theorem validateRemTeamScope_code {core : RchCore} {command : MissionCommandEnvelope}
    {problem : String × String} (h : core.validateRemTeamScope command = .error problem) :
    problem.1 ∈ refusalCodes := by
  unfold RchCore.validateRemTeamScope at h
  split at h
  · cases h
  · split at h
    · cases h
      exact .tail _ (.head _)
    · split at h
      · cases h
        exact .tail _ (.tail _ (.head _))
      · cases h

omit [Host] in
/-- An error of a handler is never reported with the reason code of a refusal. -/
theorem errorResult_not_refusal (command : MissionCommandEnvelope) (error : RchCoreError) :
    ¬ (MissionSyncResponse.ofResult (errorResult command error)).refuses := by
  rintro ⟨-, code, hcode, hreason⟩
  have hreason : some error.reasonCode = some code := hreason
  cases error <;> cases hreason <;> simp [refusalCodes, RchCoreError.reasonCode] at hcode

/-- A mission command let through is answered with its acceptance first. -/
theorem runMissionSyncCommand_accepts (command : MissionCommandEnvelope) (world : World) :
    ∃ acceptedAt response world', (runMissionSyncCommand command).run world =
      (.ok [.ofResult (commandResult command .accepted .null acceptedAt), response], world') := by
  simp only [runMissionSyncCommand, acceptedResult, utcNowRfc3339, Proc.run_bind, run_now,
    Proc.run_pure, Proc.run_attempt]
  rcases (applyCommand command).run _ with ⟨error | event, world₁⟩
  · exact ⟨_, _, _, rfl⟩
  · exact ⟨_, _, _, rfl⟩

/-- A checklist command let through is not answered, or with the error it ended in. -/
theorem runChecklistSyncCommand_answers (command : MissionCommandEnvelope) (world : World) :
    ((runChecklistSyncCommand command).run world).1 = .ok [] ∨
      ∃ error, ((runChecklistSyncCommand command).run world).1 =
        .ok [.ofResult (errorResult command error)] := by
  simp only [runChecklistSyncCommand, Proc.run_bind, Proc.run_attempt]
  rcases (applyChecklistCommand command).run world with ⟨error | event, world₁⟩
  · exact .inr ⟨error, rfl⟩
  · exact .inl rfl

/-- What a gate lets through it does not turn away afterwards. -/
theorem SyncGate.run_not_refused (gate : SyncGate) (command : MissionCommandEnvelope)
    (world : World) : ¬ Refused (gate.letThrough command) world := by
  rintro ⟨-, responses, hrun, hne, hrefuses⟩
  cases gate with
  | mission =>
    obtain ⟨acceptedAt, response, world', haccepts⟩ := runMissionSyncCommand_accepts command world
    rw [SyncGate.letThrough, haccepts] at hrun
    cases hrun
    have hstatus := (hrefuses _ List.mem_cons_self).1
    cases hstatus
  | checklist =>
    rcases runChecklistSyncCommand_answers command world with hnone | ⟨error, herror⟩
    · rw [SyncGate.letThrough, hnone] at hrun
      cases hrun
      exact hne rfl
    · rw [SyncGate.letThrough, herror] at hrun
      cases hrun
      exact errorResult_not_refusal command error (hrefuses _ List.mem_cons_self)

/-- A command outside its TEAM scope is refused. -/
theorem SyncGate.refused_of_scope (gate : SyncGate) {command : MissionCommandEnvelope}
    {operation : String} {problem : String × String} {world : World}
    (needs : gate.capability command.commandType = some operation)
    (scope : world.core.validateRemTeamScope command = .error problem) :
    Refused (gate.handle command) world := by
  have hrun := gate.handle_apply needs world
  rw [scope] at hrun
  refine ⟨by rw [hrun], [.ofResult (rejectedResult command problem.1 problem.2)],
    by rw [hrun], List.cons_ne_nil _ _, ?_⟩
  intro response hresponse
  rw [List.mem_singleton.1 hresponse]
  exact ⟨rfl, problem.1, validateRemTeamScope_code scope, rfl⟩

/-- A command whose capability the source lacks is refused. -/
theorem SyncGate.refused_of_missing (gate : SyncGate) {command : MissionCommandEnvelope}
    {operation capability : String} {world : World}
    (needs : gate.capability command.commandType = some operation)
    (scope : world.core.validateRemTeamScope command = .ok ())
    (missing : gate.missing world.core command = some capability) :
    Refused (gate.handle command) world := by
  have hrun := gate.handle_apply needs world
  rw [scope, missing] at hrun
  refine ⟨by rw [hrun], [.ofResult (unauthorizedResult command capability)],
    by rw [hrun], List.cons_ne_nil _ _, ?_⟩
  intro response hresponse
  rw [List.mem_singleton.1 hresponse]
  exact ⟨rfl, "unauthorized", List.mem_cons_self, rfl⟩

/-- A command that passes both checks is not refused. -/
theorem SyncGate.not_refused_of_through (gate : SyncGate) (command : MissionCommandEnvelope)
    {operation : String} {world : World}
    (needs : gate.capability command.commandType = some operation)
    (scope : world.core.validateRemTeamScope command = .ok ())
    (missing : gate.missing world.core command = none) :
    ¬ Refused (gate.handle command) world := by
  have hrun := gate.handle_apply needs world
  rw [scope, missing] at hrun
  intro refused
  rw [Refused, hrun] at refused
  exact gate.run_not_refused command world refused

/-! ## When a denial decides -/

/-- A command whose operation is denied is refused exactly when the identity does
not hold the operation as a capability of its own, or the TEAM scope fails. -/
theorem denied_command_refused_iff (gate : SyncGate) (command : MissionCommandEnvelope)
    (operation : String) (world : World)
    (required : world.core.authorizationRequired = true)
    (denied : Denied world.core command.source.rnsIdentity operation)
    (needs : gate.capability command.commandType = some operation) :
    Refused (gate.handle command) world ↔
      world.core.hasIdentityCapability command.source.rnsIdentity operation = false ∨
        ∃ problem, world.core.validateRemTeamScope command = .error problem := by
  have hmissing := gate.missing_of_denied command needs required denied
  rcases hscope : world.core.validateRemTeamScope command with problem | ⟨⟩
  · exact ⟨fun _ => .inr ⟨problem, rfl⟩, fun _ => gate.refused_of_scope needs hscope⟩
  · cases hcap : world.core.hasIdentityCapability command.source.rnsIdentity operation with
    | false =>
      rw [hcap] at hmissing
      exact ⟨fun _ => .inl rfl, fun _ => gate.refused_of_missing needs hscope hmissing⟩
    | true =>
      rw [hcap] at hmissing
      refine ⟨fun refused => absurd refused (gate.not_refused_of_through command needs hscope hmissing), ?_⟩
      rintro (h | ⟨problem, h⟩)
      · cases h
      · cases h

end

/-! ## An identity with a capability and a denial -/

/-- The hub after `mission.join` is granted to identity `a` as a capability and
then `mission.join` and `checklist.join` are denied to it by rights. -/
def deniedHolder : World :=
  (Proc.run (do
    setAuthorizationRequired true
    grantIdentityCapability "a" "mission.join"
    let _ ← revokeOperationRight "identity" "a" "mission.join" "" ""
    revokeOperationRight "identity" "a" "checklist.join" "" "" : CoreM SubjectOperationRight)
    (World.atEpoch .new)).2

/-- A command of identity `a` without arguments. -/
def commandOfA (commandType : String) : MissionCommandEnvelope :=
  { commandId := "c1", source := { rnsIdentity := "a", displayName := none },
    timestamp := "1970-01-01T00:00:00Z", commandType, args := .object [], correlationId := none,
    topics := [] }

theorem deniedHolder_required : deniedHolder.core.authorizationRequired = true := rfl

theorem deniedHolder_denied (operation : String)
    (h : operation ∈ ["mission.join", "checklist.join"]) :
    Denied deniedHolder.core "a" operation := by
  rcases List.mem_pair.1 h with rfl | rfl
  · exact ⟨_, .tail _ (.head _), rfl, rfl, rfl, rfl, rfl⟩
  · exact ⟨_, .head _, rfl, rfl, rfl, rfl, rfl⟩

theorem deniedHolder_scope (commandType : String) :
    deniedHolder.core.validateRemTeamScope (commandOfA commandType) = .ok () := by
  simp [RchCore.validateRemTeamScope, commandOfA, Value.get, Value.asObject]

theorem mission_join_needs : SyncGate.mission.capability "mission.join" = some "mission.join" := by
  decide +kernel

theorem checklist_join_needs :
    SyncGate.checklist.capability "checklist.join" = some "checklist.join" := by
  decide +kernel

/-- The capability opens the gate although the operation is denied. -/
theorem held_capability_outlives_denial :
    deniedHolder.core.authorizationRequired = true ∧
      Denied deniedHolder.core "a" "mission.join" ∧
      SyncGate.mission.capability "mission.join" = some "mission.join" ∧
      ¬ Refused (@SyncGate.handle Host.blank .mission (commandOfA "mission.join")) deniedHolder := by
  let _ := Host.blank
  have denied := deniedHolder_denied "mission.join" (.head _)
  have held : deniedHolder.core.hasIdentityCapability "a" "mission.join" = true := by decide +kernel
  have missing : SyncGate.mission.missing deniedHolder.core (commandOfA "mission.join") = none :=
    (SyncGate.mission.missing_of_denied (commandOfA "mission.join") mission_join_needs
      deniedHolder_required denied).trans (if_pos held)
  refine ⟨deniedHolder_required, denied, mission_join_needs, ?_⟩
  apply SyncGate.mission.not_refused_of_through (commandOfA "mission.join")
    mission_join_needs (deniedHolder_scope _) missing

/-- Where the identity has no capability the denial decides. -/
theorem deniedHolder_checklist_join_refused :
    Refused (@SyncGate.handle Host.blank .checklist (commandOfA "checklist.join")) deniedHolder := by
  let _ := Host.blank
  have denied := deniedHolder_denied "checklist.join" (.tail _ (.head _))
  have unheld : deniedHolder.core.hasIdentityCapability "a" "checklist.join" = false := by
    decide +kernel
  exact (denied_command_refused_iff .checklist (commandOfA "checklist.join") "checklist.join"
    deniedHolder deniedHolder_required denied checklist_join_needs).2 (.inl unheld)

end TelemetryHub
