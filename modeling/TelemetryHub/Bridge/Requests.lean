import TelemetryHub.Access.Denial

/-!
# The bridge

`handle_request`: a request is a command of the mission or of the checklist front end,
which may carry the identity of its transport sender, an administrative update, or a
listing. The sender is compared with the source that the command declares.
-/

namespace TelemetryHub

open Lib CoreM

/-- `BridgeRequest`. -/
inductive BridgeRequest where
  | missionCommand (command : MissionCommandEnvelope) (sourceIdentity : Option String)
  | checklistCommand (command : MissionCommandEnvelope) (sourceIdentity : Option String)
  | grantCapability (identity capability : String)
  | revokeCapability (identity capability : String)
  | recordIdentityAnnounce (identity : String) (announcedIdentityHash displayName sourceInterface : Option String)
      (announceCapabilities : List String)
  | setIdentityState (identity : String) (isBanned isBlackholed : Bool)
  | setRemMode (identity mode : String)
  | assignMissionAccessRole (missionUid subjectType subjectId role : String)
  | grantOperationRight (subjectType subjectId operation scopeType scopeId : String)
  | revokeOperationRight (subjectType subjectId operation scopeType scopeId : String)
  | setAuthorization (required : Bool)
  | listTopics
  | listSubscribers
  | listMarkers
  | listZones
  | stateSnapshot

/-- `BridgeResponse`; the snapshot is the state itself. -/
inductive BridgeResponse where
  | missionCommand (responses : List MissionSyncResponse) (topics messages : Nat)
  | checklistCommand (responses : List MissionSyncResponse) (checklists : Nat)
  | listTopics (topics : List TopicRecord)
  | listSubscribers (subscribers : List SubscriberRecord)
  | listMarkers (markers : List MarkerRecord)
  | listZones (zones : List ZoneRecord)
  | stateSnapshot (snapshot : RchCore)
  | stateUpdated (ok : Bool)

/-- `reject_source_mismatch`: the reason of the rejection. -/
def sourceMismatch (command : MissionCommandEnvelope) (sourceIdentity : Option String) : Option String :=
  match sourceIdentity with
  | none => none
  | some identity =>
    let sourceIdentity := toAsciiLowercase (trim identity)
    let envelopeSource := toAsciiLowercase (trim command.source.rnsIdentity)
    if sourceIdentity.isEmpty then some "Source identity is required"
    else if envelopeSource.isEmpty || sourceIdentity == envelopeSource then none
    else some "Envelope source identity does not match transport sender"

/-- `reject_source_mismatch`. -/
def rejectSourceMismatch (command : MissionCommandEnvelope) (sourceIdentity : Option String) :
    Option MissionSyncResponse :=
  (sourceMismatch command sourceIdentity).map fun reason => .ofResult (rejectedResult command "unauthorized" reason)

/-- `rem_rejected_result`. -/
def remRejectedResult (command : MissionCommandEnvelope) (reasonCode reason : String) : MissionSyncResponse :=
  .ofRemResult (rejectedResult command reasonCode reason)

/-- The rejection of a `rem.registry.` command, with the code and the reason of the mismatch. -/
def remRejection (command : MissionCommandEnvelope) (rejected : MissionSyncResponse) : MissionSyncResponse :=
  remRejectedResult command (rejected.results.reasonCode.getD "unauthorized")
    (rejected.results.reason.getD "Envelope source identity does not match transport sender")

/-- `is_ok` of a method of the core. -/
def succeeds {α : Type} (method : CoreM α) : CoreM Bool := do
  match ← Proc.attempt method with
  | .ok _ => return true
  | .error _ => return false

section

variable [Host]

/-- The answer to a mission command. -/
def missionCommandResponse (responses : List MissionSyncResponse) : CoreM BridgeResponse := do
  let core ← core
  return .missionCommand responses core.topicList.length core.messages.length

/-- The answer to a checklist command. -/
def checklistCommandResponse (responses : List MissionSyncResponse) : CoreM BridgeResponse := do
  return .checklistCommand responses (← core).checklists.values.length

/-- `handle_state_update_request`. -/
def handleStateUpdateRequest : BridgeRequest → CoreM BridgeResponse
  | .grantCapability identity capability => do
    grantIdentityCapability identity capability
    return .stateUpdated true
  | .revokeCapability identity capability => do
    let _ ← revokeIdentityCapability identity capability
    return .stateUpdated true
  | .recordIdentityAnnounce identity announcedIdentityHash displayName sourceInterface announceCapabilities => do
    return .stateUpdated (← succeeds
      (recordIdentityAnnounce identity announcedIdentityHash displayName sourceInterface announceCapabilities))
  | .setIdentityState identity isBanned isBlackholed => do
    return .stateUpdated (← succeeds (setIdentityState identity isBanned isBlackholed))
  | .setRemMode identity mode => do return .stateUpdated (← succeeds (setIdentityRemMode identity mode))
  | .assignMissionAccessRole missionUid subjectType subjectId role => do
    return .stateUpdated (← succeeds (assignMissionAccessRole missionUid subjectType subjectId role))
  | .grantOperationRight subjectType subjectId operation scopeType scopeId => do
    return .stateUpdated (← succeeds (grantOperationRight subjectType subjectId operation scopeType scopeId))
  | .revokeOperationRight subjectType subjectId operation scopeType scopeId => do
    return .stateUpdated (← succeeds (revokeOperationRight subjectType subjectId operation scopeType scopeId))
  | .setAuthorization required => do
    setAuthorizationRequired required
    return .stateUpdated true
  | .missionCommand .. | .checklistCommand .. | .listTopics | .listSubscribers | .listMarkers | .listZones
  | .stateSnapshot => return .stateUpdated false

/-- `handle_request`. -/
def handleRequest : BridgeRequest → CoreM BridgeResponse
  | .missionCommand command sourceIdentity => do
    if startsWith command.commandType "rem.registry." && sourceIdentity.all fun identity => (trim identity).isEmpty then
      missionCommandResponse [remRejectedResult command "unauthorized" "Source identity is required"]
    else match rejectSourceMismatch command sourceIdentity with
      | some rejected =>
        missionCommandResponse
          [if startsWith command.commandType "rem.registry." then remRejection command rejected else rejected]
      | none => do missionCommandResponse (← handleMissionSyncCommand command)
  | .checklistCommand command sourceIdentity =>
    match rejectSourceMismatch command sourceIdentity with
    | some rejected => checklistCommandResponse [rejected]
    | none => do checklistCommandResponse (← handleChecklistSyncCommand command)
  | .listTopics => do return .listTopics (← core).topicList
  | .listSubscribers => do
    return .listSubscribers (sortBy (fun left right =>
      (compare left.topicId right.topicId).then (compare left.nodeId right.nodeId)) (← core).subscribers.values)
  | .listMarkers => do return .listMarkers (← core).markerList
  | .listZones => do return .listZones (← core).zoneList
  | .stateSnapshot => do return .stateSnapshot (← core)
  | request => handleStateUpdateRequest request

end

/-! ## Whose commands change the core -/

/-- The identity a request carries. -/
def BridgeRequest.sourceIdentity : BridgeRequest → Option String
  | missionCommand _ sourceIdentity | checklistCommand _ sourceIdentity => sourceIdentity
  | _ => none

/-- The command a request carries, and its front end. -/
def BridgeRequest.command : BridgeRequest → Option (SyncGate × MissionCommandEnvelope)
  | missionCommand command _ => some (.mission, command)
  | checklistCommand command _ => some (.checklist, command)
  | _ => none

/-- The command says that `sender` gives it, or it says nobody and its front end takes
commands of nobody. -/
def SyncGate.MaySend (gate : SyncGate) (sender : String) (command : MissionCommandEnvelope) : Prop :=
  normalizeHash command.source.rnsIdentity = some sender ∨
    normalizeHash command.source.rnsIdentity = none ∧
      ¬(gate = .mission ∧ startsWith command.commandType "rem.registry." = true)

theorem sourceMismatch_none_iff {command : MissionCommandEnvelope} {identity : String} :
    sourceMismatch command (some identity) = none ↔
      ∃ sender, normalizeHash identity = some sender ∧
        (normalizeHash command.source.rnsIdentity = some sender ∨ normalizeHash command.source.rnsIdentity = none) := by
  simp only [sourceMismatch, normalizeHash]
  by_cases hblank : (toAsciiLowercase (trim identity)).isEmpty = true
  · simp [hblank]
  · by_cases hnobody : (toAsciiLowercase (trim command.source.rnsIdentity)).isEmpty = true
    · simp [hblank, hnobody]
    · simp only [hblank, hnobody, Bool.false_eq_true, if_false, Bool.false_or, beq_iff_eq, Option.some.injEq, exists_eq_left']
      by_cases hsame : toAsciiLowercase (trim identity) = toAsciiLowercase (trim command.source.rnsIdentity)
      · simp [hsame]
      · simp [hsame, Ne.symm hsame]

/-- A command its sender may send passes the comparison. -/
theorem sourceMismatch_of_maySend {gate : SyncGate} {command : MissionCommandEnvelope} {identity : String}
    (h : ∃ sender, normalizeHash identity = some sender ∧ gate.MaySend sender command) :
    sourceMismatch command (some identity) = none := by
  obtain ⟨sender, hsender, hmay⟩ := h
  apply sourceMismatch_none_iff.mpr
  use sender, hsender
  rcases hmay with hsame | ⟨hnobody, -⟩
  · exact Or.inl hsame
  · exact Or.inr hnobody

/-- The only other commands that pass are those of nobody to the registry of the peers. -/
theorem nobody_of_not_maySend {gate : SyncGate} {command : MissionCommandEnvelope} {identity : String}
    (hnot : ¬∃ sender, normalizeHash identity = some sender ∧ gate.MaySend sender command)
    (hmatch : sourceMismatch command (some identity) = none) :
    normalizeHash command.source.rnsIdentity = none ∧ gate = .mission ∧
      startsWith command.commandType "rem.registry." = true := by
  obtain ⟨sender, hsender, hsource⟩ := sourceMismatch_none_iff.mp hmatch
  rcases hsource with hsame | hnobody
  · exact absurd ⟨sender, hsender, Or.inl hsame⟩ hnot
  · use hnobody
    by_contra hother
    exact hnot ⟨sender, hsender, Or.inr ⟨hnobody, hother⟩⟩

section

variable [Host]

omit [Host] in
theorem missionCommandResponse_keeps (responses : List MissionSyncResponse) (world : World) :
    ((missionCommandResponse responses).run world).2 = world := rfl

omit [Host] in
theorem checklistCommandResponse_keeps (responses : List MissionSyncResponse) (world : World) :
    ((checklistCommandResponse responses).run world).2 = world := rfl

omit [Host] in
/-- A handler and then the answer about the state it leaves. -/
theorem run_bind_keeps {α β : Type} {handler : CoreM α} {answer : α → CoreM β}
    (hkeeps : ∀ a world, ((answer a).run world).2 = world) (world : World) :
    ((handler >>= answer).run world).2 = (handler.run world).2 := by
  rw [Proc.run_bind]
  match handler.run world with
  | (.ok a, after) => exact hkeeps a after
  | (.error _, _) => rfl

/-- The registry of the remote peers takes no command of nobody. -/
theorem handleRemRegistrySyncCommand_nobody {command : MissionCommandEnvelope}
    (hnobody : normalizeHash command.source.rnsIdentity = none) (world : World) :
    ((handleRemRegistrySyncCommand command).run world).2 = world := by
  unfold handleRemRegistrySyncCommand
  simp only
  split
  · rfl
  · rw [run_core_bind, hnobody]
    match world.core.validateRemTeamScope command with
    | .error (_, _) => rfl
    | .ok () => rfl

/-- What a mission command makes of the core. -/
theorem handleRequest_missionCommand (command : MissionCommandEnvelope) (identity : String) (world : World) :
    ((handleRequest (.missionCommand command (some identity))).run world).2 =
      match sourceMismatch command (some identity) with
      | some _ => world
      | none => ((handleMissionSyncCommand command).run world).2 := by
  simp only [handleRequest, Option.all_some]
  by_cases hblank : (startsWith command.commandType "rem.registry." && (trim identity).isEmpty) = true
  · have htext : trim identity = "" := by
      have := (Bool.and_eq_true _ _ |>.mp hblank).2
      simpa using this
    have hmismatch : sourceMismatch command (some identity) = some "Source identity is required" := by
      rw [sourceMismatch, htext]
      rfl
    rw [if_pos hblank, hmismatch]
    rfl
  · rw [if_neg hblank]
    simp only [rejectSourceMismatch]
    cases sourceMismatch command (some identity) with
    | some reason => rfl
    | none => exact run_bind_keeps missionCommandResponse_keeps world

/-- What a checklist command makes of the core. -/
theorem handleRequest_checklistCommand (command : MissionCommandEnvelope) (identity : String) (world : World) :
    ((handleRequest (.checklistCommand command (some identity))).run world).2 =
      match sourceMismatch command (some identity) with
      | some _ => world
      | none => ((handleChecklistSyncCommand command).run world).2 := by
  simp only [handleRequest, rejectSourceMismatch]
  cases sourceMismatch command (some identity) with
  | some reason => rfl
  | none => exact run_bind_keeps checklistCommandResponse_keeps world

/-- A request that carries the identity of its sender changes the core as its own command
does, and only if that command is the sender's or, where the front end takes such,
nobody's; any other request changes nothing. -/
theorem bridge_source_authentic (request : BridgeRequest) (identity : String)
    (hidentity : request.sourceIdentity = some identity) (world : World) :
    ∃ gate command, request.command = some (gate, command) ∧
      ((∃ sender, normalizeHash identity = some sender ∧ gate.MaySend sender command) →
        ((handleRequest request).run world).2 = ((gate.handle command).run world).2) ∧
      ((¬∃ sender, normalizeHash identity = some sender ∧ gate.MaySend sender command) →
        ((handleRequest request).run world).2 = world) := by
  cases request with
  | missionCommand command sourceIdentity =>
    have hidentity : sourceIdentity = some identity := hidentity
    subst hidentity
    use .mission, command, rfl
    rw [handleRequest_missionCommand]
    constructor
    · intro hmay
      rw [sourceMismatch_of_maySend hmay]
      rfl
    · intro hnot
      cases hmismatch : sourceMismatch command (some identity) with
      | some reason => rfl
      | none =>
        obtain ⟨hnobody, -, hrem⟩ := nobody_of_not_maySend hnot hmismatch
        show ((handleMissionSyncCommand command).run world).2 = world
        rw [handleMissionSyncCommand, if_pos hrem]
        exact handleRemRegistrySyncCommand_nobody hnobody world
  | checklistCommand command sourceIdentity =>
    have hidentity : sourceIdentity = some identity := hidentity
    subst hidentity
    use .checklist, command, rfl
    rw [handleRequest_checklistCommand]
    constructor
    · intro hmay
      rw [sourceMismatch_of_maySend hmay]
      rfl
    · intro hnot
      cases hmismatch : sourceMismatch command (some identity) with
      | some reason => rfl
      | none => cases (nobody_of_not_maySend hnot hmismatch).2.1
  | _ => cases hidentity

end

/-- The creation of a topic that names its source in other letters than the transport. -/
def topicOfSender : MissionCommandEnvelope :=
  { commandId := "c1", source := { rnsIdentity := " ABCDEF", displayName := none }, timestamp := "1970-01-01T00:00:00Z",
    commandType := "topic.create", args := .object [("topic_id", .string "ops")], correlationId := none, topics := [] }

/-- The sender's own command is run. -/
theorem bridge_source_authentic_topicOfSender :
    letI := Host.blank
    ((handleRequest (.missionCommand topicOfSender (some "abcdef"))).run (World.atEpoch .new)).2 =
      ((SyncGate.mission.handle topicOfSender).run (World.atEpoch .new)).2 := by
  let := Host.blank
  obtain ⟨gate, command, hcommand, hown, -⟩ :=
    bridge_source_authentic (.missionCommand topicOfSender (some "abcdef")) "abcdef" rfl (World.atEpoch .new)
  cases hcommand
  apply hown
  use "abcdef"
  constructor
  · decide
  · left
    decide

/-- The creation of a topic that names no source. -/
def topicOfNobody : MissionCommandEnvelope :=
  { commandId := "c1", source := { rnsIdentity := "", displayName := none }, timestamp := "1970-01-01T00:00:00Z",
    commandType := "topic.create", args := .object [("topic_id", .string "ops")], correlationId := none, topics := [] }

/-- The sender's request creates the topic, as the command of nobody. -/
theorem topicOfNobody_created :
    letI := Host.blank
    let request := BridgeRequest.missionCommand topicOfNobody (some "abcdef")
    let world := World.atEpoch .new
    ¬(((handleRequest request).run world).2.core ≠ world.core →
      ∀ gate command, request.command = some (gate, command) →
        normalizeHash command.source.rnsIdentity = normalizeHash "abcdef") := by
  let := Host.blank
  intro request world hclaim
  have hcreated : ((handleRequest request).run world).2.core.topics.contains "ops" = true := by decide +kernel
  have hchanged : ((handleRequest request).run world).2.core ≠ world.core := by
    intro hsame
    rw [hsame] at hcreated
    cases hcreated
  have hattributed := hclaim hchanged .mission topicOfNobody rfl
  revert hattributed
  decide

end TelemetryHub
