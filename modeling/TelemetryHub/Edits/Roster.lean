import TelemetryHub.Core.Logic
import TelemetryHub.Core.Normal
import TelemetryHub.Core.Roster

/-!
# What the roster commands write

The clients, announces, states and REM modes of identities, each under the
normal form of the identity.
-/

namespace TelemetryHub

open Lib CoreM

/-- One write about an identity. -/
inductive RosterEdit (core : RchCore) : RchCore → Prop
  | join (identity : String) (client : ClientRecord)
      (key : normalizeHash client.identity = some identity) :
      RosterEdit core { core with clients := core.clients.insert identity client }
  | touch (identity : String) (old client : ClientRecord)
      (stored : core.clients.get identity = some old) (key : client.identity = old.identity) :
      RosterEdit core { core with clients := core.clients.insert identity client }
  | leave (identity : String) :
      RosterEdit core { core with clients := core.clients.remove identity }
  | announce (identity : String) (record : IdentityAnnounceRecord)
      (normal : normalizeHash identity = some identity) (key : record.destinationHash = identity) :
      RosterEdit core
        { core with identityAnnounces := core.identityAnnounces.insert identity record }
  | refresh (identity : String) (old record : IdentityAnnounceRecord)
      (stored : core.identityAnnounces.get identity = some old)
      (key : record.destinationHash = old.destinationHash) :
      RosterEdit core
        { core with identityAnnounces := core.identityAnnounces.insert identity record }
  | state (identity : String) (record : IdentityStateRecord)
      (normal : normalizeHash identity = some identity) (key : record.identity = identity) :
      RosterEdit core { core with identityStates := core.identityStates.insert identity record }
  | remMode (identity : String) (record : IdentityRemModeRecord)
      (normal : normalizeHash identity = some identity) (key : record.identity = identity) :
      RosterEdit core { core with identityRemModes := core.identityRemModes.insert identity record }

/-- The nickname the arguments give is accepted, or the sender is on the roster. -/
def NicknameChecks [Host] (core : RchCore) (command : MissionCommandEnvelope) : Prop :=
  ∀ nickname identity, requiredText command.args ["nickname", "nick", "name"] = .ok nickname →
    normalizeHash command.source.rnsIdentity = some identity →
    (∃ accepted, normalizeRosterNickname nickname = .ok accepted) ∨ core.clients.contains identity

theorem requireIdentity_eq_ok {value identity : String} :
    requireIdentity value = .ok identity ↔ normalizeHash value = some identity := by
  unfold requireIdentity
  cases normalizeHash value with
  | none => exact ⟨nofun, nofun⟩
  | some text =>
    refine ⟨fun h => ?_, fun h => ?_⟩
    · rw [Except.ok.inj h]
    · rw [Option.some.inj h]

section

variable {drawn : String → Prop} {clean : Prop} {core₀ : RchCore}

theorem joinClient_spec (identity : String) :
    Spec drawn (joinClient identity) core₀
      (Proc.Yields clean RosterEdit (fun id _ => normalizeHash identity = some id) core₀) := by
  unfold joinClient
  refine Proc.Spec.checked fun id hid => ?_
  have hnormal := requireIdentity_eq_ok.1 hid
  refine Spec.read ?_
  refine Proc.Spec.guarded fun _ => ?_
  refine Spec.clock fun now => ?_
  refine Spec.write ?_
  refine Proc.Spec.yield (.single (.join _ _ ?_)) hnormal
  split
  · exact (normalizeHash_trim identity).trans hnormal
  · exact (normalizeHash_trim identity).trans hnormal

theorem leaveClient_spec (identity : String) :
    Spec drawn (leaveClient identity) core₀ (Proc.Outcome clean RosterEdit core₀) := by
  unfold leaveClient
  refine Proc.Spec.checked fun id _ => ?_
  refine Spec.read ?_
  refine Spec.write ?_
  exact Proc.Spec.done (.single (.leave _))

/-- A client already there is not touched. -/
theorem ensureRosterClient_spec (identity : String) :
    Spec drawn (ensureRosterClient identity) core₀
      (Proc.Yields clean RosterEdit (fun id core' => normalizeHash identity = some id ∧
        (core₀.clients.contains id → core' = core₀)) core₀) := by
  unfold ensureRosterClient
  refine Proc.Spec.checked fun id hid => ?_
  have hnormal := requireIdentity_eq_ok.1 hid
  refine Spec.read ?_
  refine Proc.Spec.ite (fun habsent => ?_) fun _ => ?_
  · refine Proc.Spec.follow (joinClient_spec identity) fun _ core' hsteps _ => ?_
    refine Proc.Spec.yield hsteps ⟨hnormal, fun hpresent => ?_⟩
    rw [hpresent] at habsent
    cases habsent
  · exact Proc.Spec.yield .refl ⟨hnormal, fun _ => rfl⟩

theorem modifyClient_steps {core : RchCore} {identity : String} {f : ClientRecord → ClientRecord}
    (keeps : ∀ client, (f client).identity = client.identity) :
    Relation.ReflTransGen RosterEdit core (modifyClient identity f core) := by
  unfold modifyClient
  split
  · exact .single (.touch _ _ _ ‹_› (keeps _))
  · exact .refl

theorem setClientPaused_spec (paused : Bool) (identity : String) :
    Spec drawn (setClientPaused paused identity) core₀ (Proc.Outcome clean RosterEdit core₀) := by
  unfold setClientPaused
  refine Proc.Spec.follow (ensureRosterClient_spec identity) fun id core' hsteps _ => ?_
  refine Spec.clock fun now => ?_
  refine Spec.write ?_
  exact Proc.Spec.done (hsteps.trans (modifyClient_steps fun _ => rfl))

/-- The sender joins the roster before the nickname is checked. -/
theorem setClientNickname_spec (identity nickname : String)
    (checks : clean → ∀ id, normalizeHash identity = some id →
      (∃ accepted, normalizeRosterNickname nickname = .ok accepted) ∨ core₀.clients.contains id) :
    Spec drawn (setClientNickname identity nickname) core₀
      (Proc.Outcome clean RosterEdit core₀) := by
  unfold setClientNickname
  refine Proc.Spec.follow (ensureRosterClient_spec identity) fun id core' hsteps hid => ?_
  obtain ⟨hnormal, hpresent⟩ := hid
  refine Proc.Spec.check (fun accepted _ => ?_) (fun e he => ?_)
  · refine Spec.clock fun now => ?_
    refine Spec.write ?_
    exact Proc.Spec.done (hsteps.trans (modifyClient_steps fun _ => rfl))
  · refine .late hsteps fun hclean => ?_
    rcases checks hclean id hnormal with ⟨accepted, haccepted⟩ | hcontains
    · rw [haccepted] at he
      cases he
    · exact hpresent hcontains

theorem setIdentityRemMode_spec (identity mode : String) :
    Spec drawn (setIdentityRemMode identity mode) core₀ (Proc.Outcome clean RosterEdit core₀) := by
  unfold setIdentityRemMode
  refine Proc.Spec.checked fun id hid => ?_
  refine Proc.Spec.checked fun mode _ => ?_
  refine Spec.clock fun now => ?_
  refine Spec.write ?_
  exact Proc.Spec.done (.single (.remMode _ _ (normalizeHash_normal (requireIdentity_eq_ok.1 hid)) rfl))

theorem recordIdentityAnnounce_spec (identity : String)
    (announcedIdentityHash displayName sourceInterface : Option String)
    (announceCapabilities : List String) :
    Spec drawn (recordIdentityAnnounce identity announcedIdentityHash displayName sourceInterface
      announceCapabilities) core₀ (Proc.Outcome clean RosterEdit core₀) := by
  unfold recordIdentityAnnounce
  refine Proc.Spec.checked fun id hid => ?_
  refine Spec.clock fun now => ?_
  refine Spec.lastWrite (.ok (.single ?_) trivial)
  cases hget : core₀.identityAnnounces.get id with
  | none => exact .announce _ _ (normalizeHash_normal (requireIdentity_eq_ok.1 hid)) rfl
  | some old => exact .refresh _ old _ hget rfl

theorem setIdentityState_spec (identity : String) (isBanned isBlackholed : Bool) :
    Spec drawn (setIdentityState identity isBanned isBlackholed) core₀
      (Proc.Outcome clean RosterEdit core₀) := by
  unfold setIdentityState
  refine Proc.Spec.checked fun id hid => ?_
  refine Spec.clock fun now => ?_
  refine Spec.write ?_
  exact Proc.Spec.done (.single (.state _ _ (normalizeHash_normal (requireIdentity_eq_ok.1 hid)) rfl))

theorem applyClientEventCommand_spec [Host] (command : MissionCommandEnvelope)
    (checks : clean → command.commandType = "mission.nick" → NicknameChecks core₀ command) :
    Spec drawn (applyClientEventCommand command) core₀
      (Proc.Outcome clean RosterEdit core₀) := by
  unfold applyClientEventCommand
  split
  · exact .finish (joinClient_spec _).outcome fun _ _ _ => .finished
  · exact .finish (leaveClient_spec _) fun _ _ _ => .finished
  · exact .finish (setClientPaused_spec true _) fun _ _ _ => .finished
  · exact .finish (setClientPaused_spec false _) fun _ _ _ => .finished
  · rename_i htype
    refine Proc.Spec.checked fun nickname hnickname => ?_
    refine .finish (setClientNickname_spec _ _ ?_) fun _ _ _ => .finished
    exact fun hclean id hid => checks hclean htype nickname id hnickname hid
  · exact Spec.read .answer
  · exact Spec.read .answer
  · exact .failed

end
end TelemetryHub
