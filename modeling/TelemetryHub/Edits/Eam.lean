import TelemetryHub.Core.Logic
import TelemetryHub.Core.Normal
import TelemetryHub.Core.Eam

/-!
# What the status report commands write

A report sets up its team and its member first. Which snapshot it is written to
follows from the snapshots its subject and its callsign have, and from the uid the
arguments give.
-/

namespace TelemetryHub

open Lib CoreM

/-- The snapshot `eamUid` is the one a report of the member under the callsign is
written to. -/
structure EamTarget [Host] (core : RchCore) (drawn : String → Prop) (args : Value)
    (callsign teamMemberUid eamUid : String) : Prop where
  /-- The lookups agree on a snapshot, the caller names one, or there is none yet. -/
  chosen : ∃ existing, resolveEamUid core callsign teamMemberUid = .ok existing ∧
    ((optionalText args ["eam_uid"]).or existing = some eamUid ∨
      (optionalText args ["eam_uid"]).or existing = none ∧ drawn eamUid)
  provided : checkProvidedEamUid core teamMemberUid eamUid args = .ok ()

/-- The arguments name no snapshot that is another member's report, unless they
name it for a member who has a report already. -/
def EamUidOwned [Host] (core : RchCore) (args : Value) : Prop :=
  ∀ teamMemberUid eamUid eam, requiredText args ["team_member_uid"] = .ok teamMemberUid →
    findActiveUid core (fun eam => eam.teamMemberUid == teamMemberUid) = none →
    optionalText args ["eam_uid"] = some eamUid → core.eamSnapshots.get eamUid = some eam →
    eam.active = true → eam.teamMemberUid = teamMemberUid

/-- The member is in the team, or can be set up. -/
def EamMemberChecks [Host] (core : RchCore) (args : Value) (teamUid teamMemberUid : String) : Prop :=
  match core.teamMembers.get teamMemberUid with
  | some member => member.teamUid = some teamUid
  | none => ((args.get "source").bind fun source => optionalText source ["rns_identity"]).isSome = true

/-- The checks of `upsert_eam_from_args` that follow the team and the member. -/
structure ReportAccepted [Host] (core : RchCore) (args : Value) (callsign teamMemberUid : String) :
    Prop where
  resolved : ∃ existing, resolveEamUid core callsign teamMemberUid = .ok existing
  provided : ∀ eamUid, checkProvidedEamUid core teamMemberUid eamUid args = .ok ()
  statuses : ∃ statuses, EamStatuses.fromArgs args = .ok statuses
  confidence : ∃ confidence, eamConfidence args = .ok confidence
  ttlSeconds : ∃ ttlSeconds, eamTtlSeconds args = .ok ttlSeconds
  reportedAt : ∃ reportedAt, optionalTimestampMs args ["reported_at"] = .ok reportedAt

/-- There is no team and no member to set up, or the report is accepted. -/
def EamChecks [Host] (core : RchCore) (args : Value) : Prop :=
  ∀ callsign teamMemberUid teamUid, requiredText args ["callsign"] = .ok callsign →
    requiredText args ["team_member_uid"] = .ok teamMemberUid →
    requiredText args ["team_uid"] = .ok teamUid →
    (canonicalTeamColorForUid teamUid = none ∧ core.teamMembers.contains teamMemberUid = true) ∨
      (EamMemberChecks core args teamUid teamMemberUid ∧
        ReportAccepted core args callsign teamMemberUid)

/-- One write of a status report command. -/
inductive EamEdit [Host] (strict : Prop) (drawn : String → Prop) (core : RchCore) : RchCore → Prop
  | createTeam (teamUid : String) (team : TeamRecord) (key : team.uid = teamUid)
      (mission : team.missionUid = none) (absent : core.teams.get teamUid = none) :
      EamEdit strict drawn core { core with teams := core.teams.insert teamUid team }
  | canonizeTeam (teamUid : String) (old team : TeamRecord)
      (stored : core.teams.get teamUid = some old) (key : team.uid = old.uid)
      (mission : team.missionUid = old.missionUid) :
      EamEdit strict drawn core { core with teams := core.teams.insert teamUid team }
  | createMember (uid teamUid : String) (member : TeamMemberRecord) (key : member.uid = uid)
      (team : member.teamUid = some teamUid) (known : core.teams.contains teamUid = true)
      (absent : core.teamMembers.get uid = none) :
      EamEdit strict drawn core { core with teamMembers := core.teamMembers.insert uid member }
  | report (args : Value) (eamUid : String) (eam : EamSnapshotRecord) (key : eam.eamUid = eamUid)
      (active : eam.active = true)
      (subject : requiredText args ["team_member_uid"] = .ok eam.teamMemberUid)
      (target : EamTarget core drawn args eam.callsign eam.teamMemberUid eamUid)
      (owned : strict → EamUidOwned core args) :
      EamEdit strict drawn core { core with eamSnapshots := core.eamSnapshots.insert eamUid eam }
  | delete (eamUid : String) (old : EamSnapshotRecord) (now : Int)
      (stored : core.eamSnapshots.get eamUid = some old) :
      EamEdit strict drawn core { core with
        eamSnapshots := core.eamSnapshots.insert eamUid { old with deletedTsMs := some now } }

section

variable [Host] {drawn : String → Prop} {strict clean : Prop} {core₀ : RchCore} {R : RchCore → RchCore → Prop}

/-! ## Reading -/

omit [Host] in
theorem eamIsCurrent_spec (eam : EamSnapshotRecord) :
    Spec drawn (eamIsCurrent eam) core₀ fun r core' => core' = core₀ ∧ ∃ b, r = .ok b := by
  unfold eamIsCurrent
  refine Proc.Spec.ite (fun _ => ?_) fun _ => Proc.Spec.pure ⟨rfl, _, rfl⟩
  refine Spec.reading ?_ fun _ => Proc.Spec.pure ⟨rfl, _, rfl⟩
  unfold eamIsExpired
  split
  · exact Proc.Spec.pure ⟨rfl, _, rfl⟩
  · exact Spec.clock fun _ => Proc.Spec.pure ⟨rfl, _, rfl⟩

omit [Host] in
theorem findCurrent_spec (p : EamSnapshotRecord → Bool) (eams : List EamSnapshotRecord) :
    Spec drawn (findCurrent p eams) core₀ fun r core' => core' = core₀ ∧ ∃ b, r = .ok b := by
  induction eams with
  | nil => exact Proc.Spec.pure ⟨rfl, _, rfl⟩
  | cons eam rest ih =>
    unfold findCurrent
    refine Proc.Spec.ite (fun _ => ?_) fun _ => ih
    refine Spec.reading (eamIsCurrent_spec eam) fun current => ?_
    exact Proc.Spec.ite (fun _ => Proc.Spec.pure ⟨rfl, _, rfl⟩) fun _ => ih

omit [Host] in
theorem filterCurrent_spec (p : EamSnapshotRecord → Bool) (eams : List EamSnapshotRecord) :
    Spec drawn (filterCurrent p eams) core₀ fun r core' => core' = core₀ ∧ ∃ b, r = .ok b := by
  induction eams with
  | nil => exact Proc.Spec.pure ⟨rfl, _, rfl⟩
  | cons eam rest ih =>
    unfold filterCurrent
    refine Proc.Spec.ite (fun _ => ?_) fun _ => ih
    refine Spec.reading (eamIsCurrent_spec eam) fun current => ?_
    refine Proc.Spec.ite (fun _ => ?_) fun _ => ih
    exact Spec.reading ih fun _ => Proc.Spec.pure ⟨rfl, _, rfl⟩

theorem eamValues_spec (teamUid overallStatus : Option String) :
    Spec drawn (eamValues teamUid overallStatus) core₀
      (Proc.Outcome clean R core₀) := by
  unfold eamValues
  refine Proc.Spec.checked fun status _ => ?_
  refine Spec.read ?_
  exact Spec.reading (filterCurrent_spec _ _) fun _ => .answer

omit [Host] in
theorem activeEamByCallsign_spec (callsign : String) :
    Spec drawn (activeEamByCallsign callsign) core₀
      (Proc.Yields clean R (fun _ core' => core' = core₀) core₀) := by
  unfold activeEamByCallsign
  refine Spec.read ?_
  refine Spec.reading (findCurrent_spec _ _) fun found => ?_
  cases found with
  | none => exact .failed
  | some eam => exact .yield .refl rfl

omit [Host] in
theorem latestEamByMember_spec (member : String) :
    Spec drawn (latestEamByMember member) core₀
      (Proc.Outcome clean R core₀) := by
  unfold latestEamByMember
  refine Spec.read ?_
  refine Spec.reading (filterCurrent_spec _ _) fun eams => ?_
  unfold Proc.orThrow
  split
  · exact .answer
  · exact .failed

omit [Host] in
theorem eamTeamSummary_spec (teamUid : String) :
    Spec drawn (eamTeamSummary teamUid) core₀
      (Proc.Outcome clean R core₀) := by
  unfold eamTeamSummary
  refine Spec.read ?_
  refine Proc.Spec.guarded fun _ => ?_
  refine Spec.reading (filterCurrent_spec _ _) fun active => ?_
  dsimp only
  split
  · exact .answer
  · exact Spec.clock fun _ => .answer

/-! ## Setting up -/

/-- A team that is not canonical is left alone if it is there. -/
theorem ensureEamTeam_spec (teamUid : String) :
    Spec drawn (ensureEamTeam teamUid) core₀
      (Proc.Yields clean (EamEdit strict drawn) (fun _ core' =>
        core'.teams.contains teamUid = true ∧ core'.teamMembers = core₀.teamMembers ∧
        core'.eamSnapshots = core₀.eamSnapshots ∧
        (canonicalTeamColorForUid teamUid = none → core' = core₀)) core₀) := by
  unfold ensureEamTeam
  refine Spec.read ?_
  cases hget : core₀.teams.get teamUid with
  | none =>
    refine Proc.Spec.required fun color hcolor => ?_
    refine Spec.clock fun now => ?_
    refine Spec.lastWrite (.ok (.single (.createTeam _ _ rfl rfl hget)) ?_)
    refine ⟨Dict.contains_insert.2 (.inl rfl), rfl, rfl, fun hnone => ?_⟩
    rw [hcolor] at hnone
    cases hnone
  | some team =>
    have present : core₀.teams.contains teamUid = true := Dict.contains_iff.2 ⟨team, hget⟩
    cases hcolor : canonicalTeamColorForUid teamUid with
    | none => exact .yield .refl ⟨present, rfl, rfl, fun _ => rfl⟩
    | some color =>
      refine Spec.clock fun now => ?_
      refine Spec.lastWrite (.ok (.single (.canonizeTeam _ team _ hget rfl rfl)) ?_)
      exact ⟨Dict.contains_insert.2 (.inl rfl), rfl, rfl, nofun⟩

/-- A member that is there is left alone, and one that checks does not fail. -/
theorem ensureEamMember_spec (strict : Prop) (teamUid teamMemberUid callsign : String) (args : Value)
    (known : core₀.teams.contains teamUid = true) :
    Spec drawn (ensureEamMember teamUid teamMemberUid callsign args) core₀ fun r core' =>
      Proc.Yields True (EamEdit strict drawn) (fun _ core' =>
        core'.eamSnapshots = core₀.eamSnapshots ∧
        (core₀.teamMembers.contains teamMemberUid = true → core' = core₀)) core₀ r core' ∧
      (EamMemberChecks core₀ args teamUid teamMemberUid → ∃ a, r = .ok a) := by
  unfold ensureEamMember
  refine Spec.read ?_
  unfold EamMemberChecks
  cases hget : core₀.teamMembers.get teamMemberUid with
  | some member =>
    refine Proc.Spec.ite (fun hteam => ?_) fun _ => ?_
    · exact Proc.Spec.throw ⟨.unchanged, fun h => absurd h hteam⟩
    · exact Proc.Spec.pure ⟨.ok .refl ⟨rfl, fun _ => rfl⟩, fun _ => ⟨_, rfl⟩⟩
  | none =>
    refine Proc.Spec.require (fun identity _ => ?_) fun hnone => ?_
    · refine Spec.clock fun now => ?_
      refine Spec.lastWrite ⟨.ok (.single ?_) ⟨rfl, ?_⟩, fun _ => ⟨_, rfl⟩⟩
      · exact .createMember _ teamUid _ rfl rfl known hget
      · intro hpresent
        rw [Dict.contains, hget] at hpresent
        cases hpresent
    · refine ⟨.unchanged, fun hsome => ?_⟩
      change Option.isSome _ = true at hsome
      rw [hnone] at hsome
      cases hsome

theorem ensureEamTeamAndMember_spec (teamUid teamMemberUid callsign : String) (args : Value)
    (checks : clean →
      (canonicalTeamColorForUid teamUid = none ∧ core₀.teamMembers.contains teamMemberUid = true) ∨
        EamMemberChecks core₀ args teamUid teamMemberUid) :
    Spec drawn (ensureEamTeamAndMember teamUid teamMemberUid callsign args) core₀
      (Proc.Yields clean (EamEdit strict drawn) (fun _ core' =>
        core'.eamSnapshots = core₀.eamSnapshots ∧
        (canonicalTeamColorForUid teamUid = none ∧ core₀.teamMembers.contains teamMemberUid = true →
          core' = core₀)) core₀) := by
  unfold ensureEamTeamAndMember
  refine Proc.Spec.checked fun _ _ => ?_
  refine Proc.Spec.follow (ensureEamTeam_spec teamUid) fun _ core' hsteps h => ?_
  obtain ⟨known, hmembers, heams, hsame⟩ := h
  refine (ensureEamMember_spec strict teamUid teamMemberUid callsign args known).mono fun r core'' h' => ?_
  obtain ⟨hyields, htotal⟩ := h'
  refine ⟨hsteps.trans hyields.steps, fun hclean e he => ?_, fun a ha => ?_⟩
  · rcases checks hclean with ⟨hcolor, -⟩ | hmember
    · rw [hyields.clean trivial e he, hsame hcolor]
    · obtain ⟨a, ha⟩ := htotal (by unfold EamMemberChecks; rw [hmembers]; exact hmember)
      rw [ha] at he
      cases he
  · obtain ⟨heams', hsame'⟩ := hyields.value a ha
    refine ⟨heams'.trans heams, fun ⟨hcolor, hcontains⟩ => ?_⟩
    rw [hsame' (by rw [hmembers]; exact hcontains), hsame hcolor]

/-! ## Reports -/

omit [Host] in
theorem findActiveUid_eams {core core' : RchCore} (h : core'.eamSnapshots = core.eamSnapshots)
    (p : EamSnapshotRecord → Bool) : findActiveUid core' p = findActiveUid core p := by
  rw [findActiveUid, findActiveUid, h]

omit [Host] in
theorem resolveEamUid_eams {core core' : RchCore} (h : core'.eamSnapshots = core.eamSnapshots)
    (callsign teamMemberUid : String) :
    resolveEamUid core' callsign teamMemberUid = resolveEamUid core callsign teamMemberUid := by
  unfold resolveEamUid deletedEamUids
  simp only [findActiveUid_eams h, h]

theorem checkProvidedEamUid_eams {core core' : RchCore} (h : core'.eamSnapshots = core.eamSnapshots)
    (teamMemberUid eamUid : String) (args : Value) :
    checkProvidedEamUid core' teamMemberUid eamUid args =
      checkProvidedEamUid core teamMemberUid eamUid args := by
  unfold checkProvidedEamUid
  rw [findActiveUid_eams h]

theorem EamUidOwned.of_eams {core core' : RchCore} {args : Value}
    (h : core'.eamSnapshots = core.eamSnapshots) (owned : EamUidOwned core args) :
    EamUidOwned core' args := by
  intro teamMemberUid eamUid eam hmember hnone huid hget
  rw [findActiveUid_eams h] at hnone
  rw [h] at hget
  exact owned teamMemberUid eamUid eam hmember hnone huid hget

theorem upsertEamFromArgs_spec (args : Value) (checks : clean → EamChecks core₀ args)
    (owned : strict → EamUidOwned core₀ args) :
    Spec drawn (upsertEamFromArgs args) core₀
      (Proc.Outcome clean (EamEdit strict drawn) core₀) := by
  unfold upsertEamFromArgs
  refine Proc.Spec.checked fun _ _ => ?_
  refine Proc.Spec.checked fun callsign hcallsign => ?_
  refine Proc.Spec.checked fun teamMemberUid hmember => ?_
  refine Proc.Spec.checked fun teamUid hteam => ?_
  refine Proc.Spec.follow (ensureEamTeamAndMember_spec teamUid teamMemberUid callsign args ?_)
    fun _ core' hsteps h => ?_
  · intro hclean
    exact (checks hclean _ _ _ hcallsign hmember hteam).imp_right And.left
  obtain ⟨heams, hsame⟩ := h
  -- where a later check fails, nothing has been set up
  have unwritten : clean → ¬ReportAccepted core₀ args callsign teamMemberUid → core' = core₀ := by
    intro hclean hrejected
    rcases checks hclean _ _ _ hcallsign hmember hteam with hpresent | ⟨-, haccepted⟩
    · exact hsame hpresent
    · exact absurd haccepted hrejected
  refine Spec.read ?_
  refine Proc.Spec.check (fun existing hresolved => ?_) fun e he => .late hsteps fun hclean => ?_
  · refine Spec.drawUnless fun eamUid hid => ?_
    refine Proc.Spec.check (fun _ hprovided => ?_) fun e he => .late hsteps fun hclean => ?_
    · refine Spec.clock fun now => ?_
      refine Proc.Spec.check (fun statuses _ => ?_) fun e he => .late hsteps fun hclean => ?_
      · refine Proc.Spec.check (fun confidence _ => ?_) fun e he => .late hsteps fun hclean => ?_
        · refine Proc.Spec.check (fun ttlSeconds _ => ?_) fun e he => .late hsteps fun hclean => ?_
          · refine Proc.Spec.check (fun reportedAt _ => ?_) fun e he => .late hsteps fun hclean => ?_
            · refine Spec.write ?_
              refine Proc.Spec.done (.tail hsteps (.report args _ _ rfl rfl hmember ⟨?_, hprovided⟩ ?_))
              · exact ⟨existing, hresolved, hid.imp_right fun h => ⟨h.1, h.2.1⟩⟩
              · exact fun hs => (owned hs).of_eams heams
            · refine unwritten hclean fun haccepted => ?_
              obtain ⟨time, htime⟩ := haccepted.reportedAt
              rw [he] at htime
              cases htime
          · refine unwritten hclean fun haccepted => ?_
            obtain ⟨ttl, httl⟩ := haccepted.ttlSeconds
            rw [he] at httl
            cases httl
        · refine unwritten hclean fun haccepted => ?_
          obtain ⟨value, hvalue⟩ := haccepted.confidence
          rw [he] at hvalue
          cases hvalue
      · refine unwritten hclean fun haccepted => ?_
        obtain ⟨value, hvalue⟩ := haccepted.statuses
        rw [he] at hvalue
        cases hvalue
    · refine unwritten hclean fun haccepted => ?_
      rw [checkProvidedEamUid_eams heams, haccepted.provided eamUid] at he
      cases he
  · refine unwritten hclean fun haccepted => ?_
    obtain ⟨value, hvalue⟩ := haccepted.resolved
    rw [resolveEamUid_eams heams, hvalue] at he
    cases he

theorem deleteEamByCallsign_spec (callsign : String) :
    Spec drawn (deleteEamByCallsign callsign) core₀
      (Proc.Outcome clean (EamEdit strict drawn) core₀) := by
  unfold deleteEamByCallsign
  refine Proc.Spec.follow (activeEamByCallsign_spec callsign) fun eam core' _ hsame => ?_
  subst hsame
  refine Spec.read ?_
  refine Proc.Spec.required fun eam stored => ?_
  refine Spec.clock fun now => ?_
  refine Spec.write ?_
  exact Proc.Spec.done (.single (.delete _ eam now stored))

theorem applyRegistryEamCommand_spec (command : MissionCommandEnvelope)
    (checks : clean → command.commandType = "mission.registry.eam.upsert" →
      EamChecks core₀ command.args)
    (owned : strict → command.commandType = "mission.registry.eam.upsert" →
      EamUidOwned core₀ command.args) :
    Spec drawn (applyRegistryEamCommand command) core₀
      (Proc.Outcome clean (EamEdit strict drawn) core₀) := by
  unfold applyRegistryEamCommand
  split
  · exact .finish (eamValues_spec _ _) fun _ _ _ => .finished
  · rename_i htype
    refine .finish (upsertEamFromArgs_spec _ ?_ ?_) fun _ _ _ => .finished
    · exact fun hclean => checks hclean htype
    · exact fun hstrict => owned hstrict htype
  · refine Proc.Spec.checked fun callsign _ => ?_
    exact .finish (activeEamByCallsign_spec _).outcome fun _ _ _ => .finished
  · refine Proc.Spec.checked fun member _ => ?_
    exact .finish (latestEamByMember_spec _) fun _ _ _ => .finished
  · refine Proc.Spec.checked fun callsign _ => ?_
    exact .finish (deleteEamByCallsign_spec _) fun _ _ _ => .finished
  · refine Proc.Spec.checked fun teamUid _ => ?_
    exact .finish (eamTeamSummary_spec _) fun _ _ _ => .finished
  · exact .failed

end
end TelemetryHub
