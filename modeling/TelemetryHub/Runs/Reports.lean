import Mathlib.Data.List.Dedup
import TelemetryHub.Runs.Callsigns

/-!
# Reports of other members

A report is written to the snapshot its member has, and one that has none to the snapshot
its arguments name. Nothing asks whose report that one is.
-/

namespace TelemetryHub

open Lib CoreM

/-- The reports that are not deleted and not of the member the arguments name are as they were. -/
def OtherReportsKept [Host] (args : Value) (core core' : RchCore) : Prop :=
  ∀ uid eam, core.eamSnapshots.get uid = some eam → eam.active = true →
    requiredText args ["team_member_uid"] ≠ .ok eam.teamMemberUid → core'.eamSnapshots.get uid = some eam

section

variable [Host]

/-! ## The snapshot a report is written to -/

omit [Host] in
/-- The snapshot found belongs to a stored record that is not deleted. -/
theorem findActiveUid_some {core : RchCore} {subject : EamSnapshotRecord → String}
    (h : ReportsUnique subject core) {p : EamSnapshotRecord → Bool} {uid : String}
    (found : findActiveUid core p = some uid) :
    ∃ eam, core.eamSnapshots.get uid = some eam ∧ p eam = true ∧ eam.active = true := by
  obtain ⟨eam, here, rfl⟩ := Option.map_eq_some_iff.1 found
  have holds := List.find?_some here
  rw [Bool.and_eq_true] at holds
  obtain ⟨key, stored⟩ := Dict.mem_values.1 (List.mem_of_find?_eq_some here)
  obtain rfl : key = eam.eamUid := h.filed key eam stored
  exact ⟨eam, stored, holds⟩

omit [Host] in
/-- A deleted uid is that of a deleted record. -/
theorem deletedEamUids_head {core : RchCore} {subject : EamSnapshotRecord → String} (h : ReportsUnique subject core)
    {teamMemberUid callsign uid : String} (found : (deletedEamUids core teamMemberUid callsign).head? = some uid) :
    ∃ eam, core.eamSnapshots.get uid = some eam ∧ eam.active = false := by
  have mem := List.mem_of_mem_head? found
  rw [deletedEamUids, List.mem_dedup, List.mem_map] at mem
  obtain ⟨eam, there, rfl⟩ := mem
  obtain ⟨there, holds⟩ := List.mem_filter.1 there
  rw [Bool.and_eq_true, Bool.not_eq_true'] at holds
  obtain ⟨key, stored⟩ := Dict.mem_values.1 there
  obtain rfl : key = eam.eamUid := h.filed key eam stored
  exact ⟨eam, stored, holds.2⟩

/-- A report is written over no report of another member exactly where its arguments name none. -/
theorem EamTarget.owned_iff {core : RchCore} {subject : EamSnapshotRecord → String} (h : ReportsUnique subject core)
    {args : Value} {callsign teamMemberUid eamUid : String}
    (target : EamTarget core (fun uid => core.eamSnapshots.get uid = none) args callsign teamMemberUid eamUid)
    (member : requiredText args ["team_member_uid"] = .ok teamMemberUid) :
    (∀ eam, core.eamSnapshots.get eamUid = some eam → eam.active = true → eam.teamMemberUid = teamMemberUid)
      ↔ EamUidOwned core args := by
  obtain ⟨existing, resolved, chosen⟩ := target.chosen
  constructor
  · intro own member' uid eam named absent given stored active
    obtain rfl := Except.ok.inj (member.symm.trans named)
    rw [given, Option.some_or] at chosen
    rcases chosen with same | ⟨none, -⟩
    · obtain rfl := Option.some.inj same
      exact own eam stored active
    · cases none
  · intro owned eam stored active
    cases holder : findActiveUid core fun eam => eam.teamMemberUid == teamMemberUid with
    | some uid =>
      obtain rfl := target.memberHolder holder
      obtain ⟨eam', stored', same, -⟩ := findActiveUid_some h holder
      rw [stored] at stored'
      cases stored'
      exact beq_iff_eq.1 same
    | none =>
      cases given : optionalText args ["eam_uid"] with
      | some uid =>
        rw [given, Option.some_or] at chosen
        rcases chosen with same | ⟨none, -⟩
        · obtain rfl := Option.some.inj same
          exact owned teamMemberUid uid eam member holder given stored active
        · cases none
      | none =>
        -- without a report of the member the callsign is free, and what is left is deleted or new
        rw [given, Option.none_or] at chosen
        unfold resolveEamUid at resolved
        dsimp only at resolved
        rw [holder] at resolved
        cases held : findActiveUid core fun eam => eam.callsign == callsign with
        | some uid =>
          rw [held] at resolved
          cases resolved
        | none =>
          rw [held] at resolved
          rcases chosen with same | ⟨-, fresh⟩
          · subst same
            have deleted : (deletedEamUids core teamMemberUid callsign).head? = some eamUid := by
              rw [Option.isSome_none, Bool.false_and, if_neg Bool.false_ne_true] at resolved
              split at resolved
              · cases resolved
              · exact Except.ok.inj resolved
            obtain ⟨eam', stored', gone⟩ := deletedEamUids_head h deleted
            rw [stored] at stored'
            cases stored'
            rw [active] at gone
            cases gone
          · rw [fresh] at stored
            cases stored

/-! ## What a report writes -/

variable {drawn : String → Prop} {core₀ : RchCore}

omit [Host] in
theorem ensureEamTeam_eams (teamUid : String) :
    Spec drawn (ensureEamTeam teamUid) core₀ fun _ core' => core'.eamSnapshots = core₀.eamSnapshots := by
  unfold ensureEamTeam
  refine Spec.read ?_
  cases core₀.teams.get teamUid with
  | none =>
    refine Proc.Spec.require (fun color _ => ?_) fun _ => rfl
    exact Spec.clock fun _ => Spec.lastWrite rfl
  | some team =>
    cases canonicalTeamColorForUid teamUid with
    | none => exact Proc.Spec.pure rfl
    | some color => exact Spec.clock fun _ => Spec.lastWrite rfl

theorem ensureEamMember_eams (teamUid teamMemberUid callsign : String) (args : Value) :
    Spec drawn (ensureEamMember teamUid teamMemberUid callsign args) core₀ fun _ core' =>
      core'.eamSnapshots = core₀.eamSnapshots := by
  unfold ensureEamMember
  refine Spec.read ?_
  cases core₀.teamMembers.get teamMemberUid with
  | some member => exact Proc.Spec.ite (fun _ => Proc.Spec.throw rfl) fun _ => Proc.Spec.pure rfl
  | none =>
    refine Proc.Spec.require (fun identity _ => ?_) fun _ => rfl
    exact Spec.clock fun _ => Spec.lastWrite rfl

theorem ensureEamTeamAndMember_eams (teamUid teamMemberUid callsign : String) (args : Value) :
    Spec drawn (ensureEamTeamAndMember teamUid teamMemberUid callsign args) core₀ fun _ core' =>
      core'.eamSnapshots = core₀.eamSnapshots := by
  unfold ensureEamTeamAndMember
  refine Proc.Spec.check (fun _ _ => ?_) fun _ _ => rfl
  refine Proc.Spec.bind (ensureEamTeam_eams teamUid) (fun _ core' same => ?_) fun _ _ same => same
  exact (ensureEamMember_eams teamUid teamMemberUid callsign args).mono fun _ _ same' => same'.trans same

/-- The snapshots behind a report: as they were, or with one of its member put. -/
inductive Reported (drawn : String → Prop) (args : Value) (core : RchCore) : Dict String EamSnapshotRecord → Prop
  | refused : Reported drawn args core core.eamSnapshots
  | put (eamUid : String) (eam : EamSnapshotRecord) (key : eam.eamUid = eamUid)
      (subject : requiredText args ["team_member_uid"] = .ok eam.teamMemberUid)
      (target : EamTarget core drawn args eam.callsign eam.teamMemberUid eamUid) :
      Reported drawn args core (core.eamSnapshots.insert eamUid eam)

theorem EamTarget.of_eams {core core' : RchCore} (same : core'.eamSnapshots = core.eamSnapshots) {args : Value}
    {callsign teamMemberUid eamUid : String} (target : EamTarget core' drawn args callsign teamMemberUid eamUid) :
    EamTarget core drawn args callsign teamMemberUid eamUid :=
  ⟨by simpa only [resolveEamUid_eams same] using target.chosen,
    by simpa only [checkProvidedEamUid_eams same] using target.provided⟩

theorem upsertEamFromArgs_reported (args : Value) :
    Spec drawn (upsertEamFromArgs args) core₀ fun _ core' => Reported drawn args core₀ core'.eamSnapshots := by
  unfold upsertEamFromArgs
  refine Proc.Spec.check (fun _ _ => ?_) fun _ _ => .refused
  refine Proc.Spec.check (fun callsign _ => ?_) fun _ _ => .refused
  refine Proc.Spec.check (fun teamMemberUid subject => ?_) fun _ _ => .refused
  refine Proc.Spec.check (fun teamUid _ => ?_) fun _ _ => .refused
  have unwritten {core' : RchCore} (same : core'.eamSnapshots = core₀.eamSnapshots) :
      Reported drawn args core₀ core'.eamSnapshots := same ▸ .refused
  refine Proc.Spec.bind (ensureEamTeamAndMember_eams teamUid teamMemberUid callsign args) (fun _ core' same => ?_)
    fun _ _ => unwritten
  refine Spec.read ?_
  refine Proc.Spec.check (fun existing resolved => ?_) fun _ _ => unwritten same
  refine Spec.drawUnless fun eamUid chosen => ?_
  refine Proc.Spec.check (fun _ provided => ?_) fun _ _ => unwritten same
  refine Spec.clock fun now => ?_
  refine Proc.Spec.check (fun statuses _ => ?_) fun _ _ => unwritten same
  refine Proc.Spec.check (fun confidence _ => ?_) fun _ _ => unwritten same
  refine Proc.Spec.check (fun ttlSeconds _ => ?_) fun _ _ => unwritten same
  refine Proc.Spec.check (fun reportedAt _ => ?_) fun _ _ => unwritten same
  refine Spec.write (Proc.Spec.pure ?_)
  have target : EamTarget core' drawn args callsign teamMemberUid eamUid :=
    ⟨⟨existing, resolved, chosen.imp_right fun h => ⟨h.1, h.2.1⟩⟩, provided⟩
  dsimp only
  rw [same]
  exact .put _ _ rfl subject (target.of_eams same)

/-- A report leaves the others' exactly where its arguments name none of them, or it writes nothing. -/
theorem Reported.otherReports_kept_iff {core : RchCore} {subject : EamSnapshotRecord → String} (h : ReportsUnique subject core)
    {args : Value} {core' : RchCore}
    (reported : Reported (fun uid => core.eamSnapshots.get uid = none) args core core'.eamSnapshots) :
    OtherReportsKept args core core' ↔ EamUidOwned core args ∨ core'.eamSnapshots = core.eamSnapshots := by
  generalize behind : core'.eamSnapshots = eams at reported
  unfold OtherReportsKept
  rw [behind]
  cases reported with
  | refused => exact iff_of_true (fun _ _ stored _ _ => stored) (.inr rfl)
  | put eamUid eam key member target =>
    rw [← target.owned_iff h member]
    constructor
    · intro kept
      refine .inl fun old stored active' => ?_
      by_contra other
      have still := kept eamUid old stored active' fun same => other (Except.ok.inj (same.symm.trans member))
      rw [Dict.get_insert_self, Option.some.injEq] at still
      exact other (by rw [still])
    · rintro (own | same) uid old stored active' other
      · rw [Dict.get_insert_ne, stored]
        rintro rfl
        exact other (by rw [member, own old stored active'])
      · rw [same, stored]

/-! ## Commands -/

/-- A step of a front end around a report: the snapshots stay, and the draws go on. -/
def ReportStep (w w' : World) : Prop :=
  w'.core.eamSnapshots = w.core.eamSnapshots ∧ ∃ k, ∀ n, w'.draws n = w.draws (n + k)

omit [Host] in
theorem JournalEdit.eams {core core' : RchCore} (edit : JournalEdit core core') :
    core'.eamSnapshots = core.eamSnapshots := by
  cases edit <;> rfl

omit [Host] in
theorem reportMoves : JournalMoves ReportStep where
  read := .step fun _ => ⟨rfl, 0, fun _ => rfl⟩
  clock := .step fun _ => ⟨rfl, 0, fun _ => rfl⟩
  draw := .step fun _ => ⟨rfl, 1, fun _ => rfl⟩
  write edit _ := .step fun w => ⟨(edit w.core).eams, 0, fun _ => rfl⟩

omit [Host] in
theorem reportSteps_keep {w w' : World} (steps : Relation.ReflTransGen ReportStep w w') : ReportStep w w' := by
  induction steps with
  | refl => exact ⟨rfl, 0, fun _ => rfl⟩
  | tail _ step ih =>
    obtain ⟨same, k, draws⟩ := ih
    obtain ⟨same', k', draws'⟩ := step
    exact ⟨same'.trans same, k' + k, fun n => by rw [draws', draws, Nat.add_assoc]⟩

/-- Whichever way it comes in, a report command puts one snapshot of its member, or none. -/
theorem CommandEntry.after_reported (entry : CommandEntry) {command : MissionCommandEnvelope} {w : World}
    (upsert : command.commandType = "mission.registry.eam.upsert") (fresh : ∀ n, drawn (w.draws n).simple) :
    Reported drawn command.args w.core (entry.after command w).core.eamSnapshots := by
  rcases entry.after_cases reportMoves command w with quiet | ⟨family, w', before, behind⟩
  · rw [(reportSteps_keep quiet).1]
    exact .refused
  · obtain ⟨same, k, draws⟩ := reportSteps_keep before
    rw [(reportSteps_keep behind).1]
    by_cases reports : family = .eam
    · subst reports
      have spec : Spec drawn (applyRegistryEamCommand command) w'.core fun _ core' =>
          Reported drawn command.args w'.core core'.eamSnapshots := by
        unfold applyRegistryEamCommand
        rw [upsert]
        exact Proc.Spec.bind (upsertEamFromArgs_reported command.args) (fun _ _ reported => Proc.Spec.pure reported)
          fun _ _ reported => reported
      have reported : Reported drawn command.args w'.core ((CommandFamily.eam.apply command).run w').2.core.eamSnapshots :=
        (spec w' rfl fun n => by rw [draws]; exact fresh _).1
      generalize ((CommandFamily.eam.apply command).run w').2.core.eamSnapshots = eams at reported ⊢
      cases reported with
      | refused =>
        rw [same]
        exact .refused
      | put eamUid eam key subject target =>
        rw [same]
        exact .put eamUid eam key subject (target.of_eams same)
    · rw [CommandFamily.apply_eams reports, same]
      exact .refused

/-- In every state that commands reach, no member and no callsign has two reports that are not
deleted, and a report command leaves the others' exactly where its arguments name none of them, or
where it writes nothing. -/
theorem reports_kept_iff {core : RchCore} (run : CommandRun (fun _ _ _ => True) RchCore.new core) :
    ReportsUnique EamSnapshotRecord.teamMemberUid core ∧ ReportsUnique EamSnapshotRecord.callsign core ∧
    ∀ (entry : CommandEntry) (command : MissionCommandEnvelope) (w : World), w.core = core →
      command.commandType = "mission.registry.eam.upsert" →
      (∀ n, core.eamSnapshots.get (w.draws n).simple = none) →
      (OtherReportsKept command.args core (entry.after command w).core ↔
        EamUidOwned core command.args ∨ (entry.after command w).core.eamSnapshots = core.eamSnapshots) := by
  have members := run_members run
  refine ⟨members, CallsignsUnique.iff_reports.1 (run_callsigns run), ?_⟩
  rintro entry command w rfl upsert fresh
  exact (entry.after_reported upsert fresh).otherReports_kept_iff members

end

/-! ## A drill -/

/-- A report that names its snapshot. -/
def namedReport : MissionCommandEnvelope := alphaReport [("eam_uid", .string "e1")]

/-- A report of another member that names the same one. -/
def takenReport : MissionCommandEnvelope :=
  drillCommand "2" "mission.registry.eam.upsert"
    [("callsign", .string "bravo"), ("team_member_uid", .string "n"),
      ("team_uid", .string "d4cd5030b68df059ec6beabe416dd6a6"), ("source", .object [("rns_identity", .string "n")]),
      ("eam_uid", .string "e1")]

/-- A world whose draws are all the same. -/
def sameDraws (core : RchCore) : World :=
  { core, clock := fun _ => ⟨0, "1970-01-01T00:00:00Z"⟩, draws := fun _ => Uuid.ofNat 7 }

/-- The member renews its own report. -/
theorem reports_kept_drill :
    letI := Host.blank
    OtherReportsKept namedReport.args (coreBehind [namedReport])
      (CommandEntry.after .missionSync namedReport (sameDraws (coreBehind [namedReport]))).core := by
  let _ := Host.blank
  have run : CommandRun (fun _ _ _ => True) RchCore.new (coreBehind [namedReport]) := coreBehind_run fun _ _ _ => trivial
  refine ((reports_kept_iff run).2.2 .missionSync _ (sameDraws _) rfl (by decide +kernel) fun _ => ?_).2 (.inl ?_)
  · show (coreBehind [namedReport]).eamSnapshots.get (Uuid.ofNat 7).simple = none
    decide +kernel
  · intro member uid eam named absent
    obtain rfl : "m" = member := Except.ok.inj named
    have present : findActiveUid (coreBehind [namedReport]) (fun eam => eam.teamMemberUid == "m") = some "e1" := by
      decide +kernel
    rw [present] at absent
    cases absent

/-- The report of the first member is gone. -/
theorem report_overwritten :
    letI := Host.blank
    CommandRun (fun _ _ _ => True) RchCore.new (coreBehind [namedReport]) ∧
    ¬OtherReportsKept takenReport.args (coreBehind [namedReport])
      (CommandEntry.after .command takenReport (World.atEpoch (coreBehind [namedReport]))).core := by
  let _ := Host.blank
  refine ⟨coreBehind_run fun _ _ _ => trivial, fun kept => ?_⟩
  have first : ((coreBehind [namedReport]).eamSnapshots.get "e1").map (fun eam => (eam.active, eam.teamMemberUid)) =
      some (true, "m") := by decide +kernel
  obtain ⟨eam, stored, parts⟩ := Option.map_eq_some_iff.1 first
  obtain ⟨active, subject⟩ := Prod.mk.inj parts
  have other : requiredText takenReport.args ["team_member_uid"] ≠ .ok eam.teamMemberUid := by
    rw [subject]
    decide +kernel
  have still := congrArg (Option.map EamSnapshotRecord.teamMemberUid) (kept "e1" eam stored active other)
  rw [Option.map_some, subject] at still
  clear other stored parts subject active kept first
  revert still
  decide +kernel

end TelemetryHub
