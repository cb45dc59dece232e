import TelemetryHub.Lib.Composite
import TelemetryHub.Runs.Mirrors

/-!
# Callsigns along a run

No two status snapshots that are not deleted share a callsign. A report is refused over
such a snapshot whatever the clock reads; a deletion finds it only before it expires.
-/

namespace TelemetryHub

open Lib CoreM

/-- Each snapshot is under its uid, and a subject has one that is not deleted at most. -/
structure ReportsUnique (subject : EamSnapshotRecord → String) (core : RchCore) : Prop where
  filed : Filed EamSnapshotRecord.eamUid id core.eamSnapshots
  unique : ∀ eam ∈ core.eamSnapshots.values, ∀ other ∈ core.eamSnapshots.values, eam.active = true →
    other.active = true → subject eam = subject other → eam = other

namespace ReportsUnique

variable {subject : EamSnapshotRecord → String} {core core' : RchCore}

theorem of_same (h : ReportsUnique subject core) (same : core'.eamSnapshots = core.eamSnapshots) :
    ReportsUnique subject core' :=
  ⟨by rw [same]; exact h.filed, by rw [same]; exact h.unique⟩

theorem new : ReportsUnique subject RchCore.new := ⟨.empty, fun _ mem => absurd mem List.not_mem_nil⟩

/-- The lookup of a subject finds its one active snapshot. -/
theorem findActiveUid_eq (h : ReportsUnique subject core) {eam : EamSnapshotRecord} (mem : eam ∈ core.eamSnapshots.values)
    (active : eam.active = true) : findActiveUid core (fun other => subject other == subject eam) = some eam.eamUid := by
  cases found : core.eamSnapshots.values.find? fun other => subject other == subject eam && other.active with
  | none => exact absurd (List.find?_eq_none.1 found eam mem) (by simp [active])
  | some other =>
    have holds := List.find?_some found
    rw [Bool.and_eq_true, beq_iff_eq] at holds
    rw [findActiveUid, found, h.unique other (List.mem_of_find?_eq_some found) eam mem holds.2 active holds.1]
    rfl

/-- Writing one snapshot keeps the subjects apart if no other one has its subject. -/
theorem put (h : ReportsUnique subject core) (eam : EamSnapshotRecord)
    (alone : eam.active = true → ∀ other ∈ core.eamSnapshots.values, other.active = true →
      subject other = subject eam → other.eamUid = eam.eamUid) :
    ReportsUnique subject { core with eamSnapshots := core.eamSnapshots.insert eam.eamUid eam } := by
  have filed : Filed EamSnapshotRecord.eamUid id (core.eamSnapshots.insert eam.eamUid eam) := h.filed.insert eam
  have cases_ : ∀ other ∈ (core.eamSnapshots.insert eam.eamUid eam).values,
      other = eam ∨ other ∈ core.eamSnapshots.values ∧ other.eamUid ≠ eam.eamUid := by
    intro other mem
    obtain ⟨uid, stored⟩ := Dict.mem_values.1 mem
    have own : uid = other.eamUid := filed uid other stored
    rw [Dict.get_insert] at stored
    split at stored
    · exact .inl (Option.some.inj stored).symm
    · rename_i apart
      exact .inr ⟨Dict.mem_values.2 ⟨uid, stored⟩, own ▸ apart⟩
  refine ⟨filed, fun first mem second mem' active active' same => ?_⟩
  rcases cases_ first mem with rfl | ⟨old, apart⟩
  · rcases cases_ second mem' with rfl | ⟨old', apart'⟩
    · rfl
    · exact absurd (alone active second old' active' same.symm) apart'
  · rcases cases_ second mem' with rfl | ⟨old', apart'⟩
    · exact absurd (alone active' first old active same) apart
    · exact h.unique first old second old' active active' same

end ReportsUnique

/-- Each snapshot is under its uid, and a callsign has one that is not deleted at most. -/
structure CallsignsUnique (core : RchCore) : Prop where
  filed : Filed EamSnapshotRecord.eamUid id core.eamSnapshots
  unique : ∀ eam ∈ core.eamSnapshots.values, ∀ other ∈ core.eamSnapshots.values, eam.active = true →
    other.active = true → eam.callsign = other.callsign → eam = other

namespace CallsignsUnique

variable {core core' : RchCore}

theorem iff_reports : CallsignsUnique core ↔ ReportsUnique EamSnapshotRecord.callsign core :=
  ⟨fun h => ⟨h.filed, h.unique⟩, fun h => ⟨h.filed, h.unique⟩⟩

theorem of_same (h : CallsignsUnique core) (same : core'.eamSnapshots = core.eamSnapshots) : CallsignsUnique core' :=
  iff_reports.2 ((iff_reports.1 h).of_same same)

end CallsignsUnique

section

variable [Host]

/-- A resolved report is written to the snapshot that its member has, if it has one. -/
theorem EamTarget.memberHolder {core : RchCore} {drawn : String → Prop} {args : Value}
    {callsign teamMemberUid eamUid holder : String} (target : EamTarget core drawn args callsign teamMemberUid eamUid)
    (held : findActiveUid core (fun eam => eam.teamMemberUid == teamMemberUid) = some holder) : holder = eamUid := by
  obtain ⟨existing, resolved, chosen⟩ := target.chosen
  have provided := target.provided
  unfold resolveEamUid at resolved
  dsimp only at resolved
  rw [held] at resolved
  rw [checkProvidedEamUid, held] at provided
  dsimp only at provided
  have existing_eq : existing = some holder := by
    split at resolved
    · cases resolved
    · split at resolved
      · cases resolved
      · exact (Except.ok.inj resolved).symm
  subst existing_eq
  cases named : optionalText args ["eam_uid"] with
  | none =>
    rw [named, Option.none_or] at chosen
    rcases chosen with same | ⟨none, -⟩
    · exact Option.some.inj same
    · cases none
  | some uid =>
    rw [named, Option.all_some] at provided
    rw [named, Option.some_or] at chosen
    split at provided
    · rename_i same
      rcases chosen with chosen | ⟨none, -⟩
      · rw [← Option.some.inj chosen]
        exact (beq_iff_eq.1 same).symm
      · cases none
    · cases provided

/-- A resolved report is written to the snapshot that has its callsign, if one has. -/
theorem EamTarget.holder {core : RchCore} {args : Value} {callsign teamMemberUid eamUid holder : String}
    (target : EamTarget core (fun _ => True) args callsign teamMemberUid eamUid)
    (held : findActiveUid core (fun eam => eam.callsign == callsign) = some holder) : holder = eamUid := by
  apply target.memberHolder
  obtain ⟨existing, resolved, -⟩ := target.chosen
  unfold resolveEamUid at resolved
  dsimp only at resolved
  rw [held] at resolved
  by_contra other
  have refused : (findActiveUid core (fun eam => eam.teamMemberUid == teamMemberUid) != some holder) = true :=
    bne_iff_ne.2 other
  rw [Option.isSome_some, refused, Bool.and_true, if_pos rfl] at resolved
  cases resolved

/-- A write of a status report command keeps the subjects apart, whose snapshot a report is written to. -/
theorem EamEdit.reports {subject : EamSnapshotRecord → String} {core core' : RchCore}
    (holder : ∀ {args : Value} {eam : EamSnapshotRecord} {uid : String},
      EamTarget core (fun _ => True) args eam.callsign eam.teamMemberUid eam.eamUid →
      findActiveUid core (fun other => subject other == subject eam) = some uid → uid = eam.eamUid)
    (h : ReportsUnique subject core) (edit : EamEdit False (fun _ => True) core core') : ReportsUnique subject core' := by
  cases edit with
  | createTeam => exact h.of_same rfl
  | canonizeTeam => exact h.of_same rfl
  | createMember => exact h.of_same rfl
  | report args eamUid eam key active member target owned =>
    subst key
    refine h.put eam fun _ other mem active' same => holder target ?_
    rw [← same]
    exact h.findActiveUid_eq mem active'
  | delete eamUid old now stored =>
    obtain rfl : eamUid = old.eamUid := h.filed eamUid old stored
    exact h.put { old with deletedTsMs := some now } fun active => absurd active Bool.false_ne_true

/-! ## Runs -/

/-- Only the commands of status reports write to the snapshots. -/
theorem CommandFamily.apply_eams {family : CommandFamily} (other : family ≠ .eam) (command : MissionCommandEnvelope)
    (w : World) : ((family.apply command).run w).2.core.eamSnapshots = w.core.eamSnapshots := by
  by_cases checklists : family = .checklist
  · subst checklists
    refine applyChecklistCommand_holds (P := fun core => core.eamSnapshots = w.core.eamSnapshots)
      (fun core core' same edit => ?_) command w rfl
    rw [← same]
    cases edit with
    | journal entry => cases entry <;> rfl
    | _ => rfl
  refine family.apply_keeps checklists (fun core core' edit => ?_) command w
  have assets : ∀ core core', AssetEdit core core' → core'.eamSnapshots = core.eamSnapshots := by
    intro core core' edit
    cases edit with
    | journal entry => cases entry <;> rfl
    | _ => rfl
  cases family with
  | eam => exact absurd rfl other
  | asset => exact assets _ _ edit
  | skill => exact assets _ _ edit
  | assignment => exact assets _ _ edit
  | checklist => exact absurd rfl checklists
  | _ => cases edit <;> rfl

/-- What a write of a status report command keeps apart, every run does. -/
theorem run_reports {subject : EamSnapshotRecord → String}
    (edits : ∀ core core', ReportsUnique subject core → EamEdit False (fun _ => True) core core' → ReportsUnique subject core')
    {permitted : CommandEntry → MissionCommandEnvelope → World → Prop} {core : RchCore}
    (run : CommandRun permitted RchCore.new core) : ReportsUnique subject core := by
  apply run.holds .new
  intro entry command w _ h
  refine entry.after_holds command (fun _ _ h edit => h.of_same (by cases edit <;> rfl)) w (fun family w' _ h' => ?_) h
  by_cases reports : family = .eam
  · subst reports
    exact CommandFamily.apply_holds .eam (by decide) (fun core core' h edit => edits core core' h edit) command w' h'
  · exact h'.of_same (CommandFamily.apply_eams reports command w')

/-- Along every run the callsigns are kept apart. -/
theorem run_callsigns {permitted : CommandEntry → MissionCommandEnvelope → World → Prop} {core : RchCore}
    (run : CommandRun permitted RchCore.new core) : CallsignsUnique core :=
  CallsignsUnique.iff_reports.2 (run_reports (fun _ _ h edit => edit.reports (fun target => target.holder) h) run)

/-- Along every run the members are kept apart. -/
theorem run_members {permitted : CommandEntry → MissionCommandEnvelope → World → Prop} {core : RchCore}
    (run : CommandRun permitted RchCore.new core) : ReportsUnique EamSnapshotRecord.teamMemberUid core :=
  run_reports (fun _ _ h edit => edit.reports (fun target => target.memberHolder) h) run

/-! ## Deletion -/

omit [Host] in
/-- The clock reading is past the time to live of the snapshot. -/
def ExpiredAt (now : Int) (eam : EamSnapshotRecord) : Prop :=
  ∃ ttl, eam.ttlSeconds = some ttl ∧ i64 (eam.reportedTsMs + i64 (ttl * 1000)) ≤ now

omit [Host] in
/-- An active snapshot is looked at with one reading of the clock at most. -/
theorem eamIsCurrent_run {eam : EamSnapshotRecord} (active : eam.active = true) (w : World) :
    ∃ w', w'.core = w.core ∧ ∃ current, (eamIsCurrent eam).run w = (.ok current, w') ∧
      (current = true ↔ ¬ExpiredAt (w.clock 0).timestampMillis eam) := by
  unfold eamIsCurrent
  rw [if_pos active]
  unfold eamIsExpired
  cases ttl : eam.ttlSeconds with
  | none =>
    refine ⟨w, rfl, true, rfl, iff_of_true rfl ?_⟩
    rintro ⟨seconds, given, -⟩
    rw [ttl] at given
    cases given
  | some seconds =>
    refine ⟨{ w with clock := fun n => w.clock (n + 1) }, rfl,
      !decide (i64 (eam.reportedTsMs + i64 (seconds * 1000)) ≤ (w.clock 0).timestampMillis), rfl, ?_⟩
    rw [Bool.not_eq_true', decide_eq_false_iff_not]
    refine not_congr ⟨fun late => ⟨seconds, ttl, late⟩, ?_⟩
    rintro ⟨seconds', given, late⟩
    rw [ttl, Option.some.injEq] at given
    rw [given]
    exact late

omit [Host] in
/-- Past snapshots that do not qualify the clock is not read. -/
theorem findCurrent_skip {p : EamSnapshotRecord → Bool} {front : List EamSnapshotRecord}
    (idle : ∀ eam ∈ front, ¬(p eam = true ∧ eam.active = true)) (rest : List EamSnapshotRecord) (w : World) :
    (findCurrent p (front ++ rest)).run w = (findCurrent p rest).run w := by
  induction front with
  | nil => rfl
  | cons eam front ih =>
    have later := ih fun other mem => idle other (List.mem_cons_of_mem _ mem)
    rw [List.cons_append, findCurrent]
    by_cases here : p eam = true
    · have inactive : ¬eam.active = true := fun active => idle eam List.mem_cons_self ⟨here, active⟩
      rw [if_pos here, eamIsCurrent, if_neg inactive]
      exact later
    · rw [if_neg here]
      exact later

omit [Host] in
theorem findCurrent_none {p : EamSnapshotRecord → Bool} {eams : List EamSnapshotRecord}
    (idle : ∀ eam ∈ eams, ¬(p eam = true ∧ eam.active = true)) (w : World) :
    (findCurrent p eams).run w = (.ok none, w) := by
  have skip := findCurrent_skip idle [] w
  rw [List.append_nil] at skip
  exact skip

omit [Host] in
/-- Of the snapshots of a callsign the one that is active is found, until it expires. -/
theorem activeEamByCallsign_run {core : RchCore} (h : CallsignsUnique core) {eam : EamSnapshotRecord}
    (mem : eam ∈ core.eamSnapshots.values) (active : eam.active = true) {w : World} (here : w.core = core) :
    ∃ w', w'.core = core ∧
      (¬ExpiredAt (w.clock 0).timestampMillis eam → (activeEamByCallsign eam.callsign).run w = (.ok eam, w')) ∧
      (ExpiredAt (w.clock 0).timestampMillis eam → (activeEamByCallsign eam.callsign).run w = (.error .eamNotFound, w')) := by
  subst here
  obtain ⟨front, back, split⟩ := List.append_of_mem mem
  have nodup : (front ++ eam :: back).Nodup := by
    rw [← split]
    exact List.Nodup.of_map _ h.filed.nodup_keys
  rw [List.nodup_middle, List.nodup_cons, List.mem_append, not_or] at nodup
  have other : ∀ snapshot ∈ front ++ back, ¬((snapshot.callsign == eam.callsign) = true ∧ snapshot.active = true) := by
    rintro snapshot there ⟨same, active'⟩
    have stored : snapshot ∈ w.core.eamSnapshots.values := by
      rw [split]
      exact (List.mem_append.1 there).elim (List.mem_append_left _) fun back => List.mem_append_right _ (List.mem_cons_of_mem _ back)
    obtain rfl := h.unique snapshot stored eam mem active' active (beq_iff_eq.1 same)
    exact (List.mem_append.1 there).elim nodup.1.1 nodup.1.2
  obtain ⟨w', core, current, ran, expiry⟩ := eamIsCurrent_run active w
  have found : (findCurrent (fun snapshot => snapshot.callsign == eam.callsign) w.core.eamSnapshots.values).run w =
      (.ok (if current then some eam else none), w') := by
    rw [split, findCurrent_skip fun snapshot there => other snapshot (List.mem_append_left _ there)]
    rw [findCurrent, if_pos (beq_self_eq_true _), Proc.run_bind, ran]
    cases current with
    | true => rfl
    | false => exact findCurrent_none (fun snapshot there => other snapshot (List.mem_append_right _ there)) w'
  refine ⟨w', core, fun fresh => ?_, fun late => ?_⟩
  · have := expiry.2 fresh
    subst this
    rw [activeEamByCallsign, run_core_bind, Proc.run_bind, found]
    rfl
  · have : current = false := Bool.eq_false_iff.2 fun now => expiry.1 now late
    subst this
    rw [activeEamByCallsign, run_core_bind, Proc.run_bind, found]
    rfl

/-! ## Release -/

omit [Host] in
/-- A report of the member under the callsign is refused because the callsign is assigned. -/
def CallsignAssigned (core : RchCore) (callsign teamMemberUid : String) : Prop :=
  resolveEamUid core callsign teamMemberUid =
    invalidPayload ("callsign '" ++ callsign ++ "' is already assigned to another status snapshot")

omit [Host] in
/-- The deletion is accepted, and no snapshot has the callsign behind it. -/
def Released (callsign : String) (w : World) : Prop :=
  (∃ eam, ((deleteEamByCallsign callsign).run w).1 = .ok eam) ∧
    findActiveUid ((deleteEamByCallsign callsign).run w).2.core (fun eam => eam.callsign == callsign) = none

omit [Host] in
/-- A callsign is assigned where a snapshot that is not deleted has it. -/
theorem CallsignAssigned.holder {core : RchCore} {callsign teamMemberUid : String}
    (assigned : CallsignAssigned core callsign teamMemberUid) :
    ∃ eam ∈ core.eamSnapshots.values, eam.active = true ∧ eam.callsign = callsign := by
  cases found : core.eamSnapshots.values.find? fun eam => eam.callsign == callsign && eam.active with
  | none =>
    have free : findActiveUid core (fun eam => eam.callsign == callsign) = none := by rw [findActiveUid, found]; rfl
    unfold CallsignAssigned resolveEamUid at assigned
    dsimp only at assigned
    rw [free, Option.isSome_none, Bool.false_and, if_neg Bool.false_ne_true] at assigned
    split at assigned
    · have texts := RchCoreError.invalidPayload.inj (Except.error.inj assigned)
      have opens := congrArg (fun text => text.toList.head?) texts
      simp only [String.toList_append, List.append_assoc] at opens
      exact absurd (show some 'e' = some 'c' from opens) (by decide)
    · cases assigned
  | some eam =>
    have holds := List.find?_some found
    rw [Bool.and_eq_true, beq_iff_eq] at holds
    exact ⟨eam, List.mem_of_find?_eq_some found, holds.2, holds.1⟩

omit [Host] in
/-- A snapshot that is found is marked deleted. -/
theorem deleteEamByCallsign_run {callsign : String} {w w' : World} {eam : EamSnapshotRecord}
    (found : (activeEamByCallsign callsign).run w = (.ok eam, w')) (stored : w'.core.eamSnapshots.get eam.eamUid = some eam) :
    ∃ now, ((deleteEamByCallsign callsign).run w).1 = .ok { eam with deletedTsMs := some now } ∧
      ((deleteEamByCallsign callsign).run w).2.core.eamSnapshots =
        w'.core.eamSnapshots.insert eam.eamUid { eam with deletedTsMs := some now } := by
  refine ⟨(w'.clock 0).timestampMillis, ?_⟩
  rw [deleteEamByCallsign, Proc.run_bind, found]
  dsimp only
  rw [run_core_bind, stored, Proc.orThrow_some_bind]
  exact ⟨rfl, rfl⟩

omit [Host] in
/-- A deletion releases the callsign exactly as long as its snapshot has not expired. -/
theorem released_iff {core : RchCore} (h : CallsignsUnique core) {eam : EamSnapshotRecord}
    (mem : eam ∈ core.eamSnapshots.values) (active : eam.active = true) {w : World} (here : w.core = core) :
    Released eam.callsign w ↔ ¬ExpiredAt (w.clock 0).timestampMillis eam := by
  obtain ⟨w', rfl, fresh, late⟩ := activeEamByCallsign_run h mem active here
  constructor
  · rintro ⟨⟨deleted, accepted⟩, -⟩ expired
    rw [deleteEamByCallsign, Proc.run_bind, late expired] at accepted
    cases accepted
  · intro current
    obtain ⟨uid, stored⟩ := Dict.mem_values.1 mem
    obtain rfl : uid = eam.eamUid := h.filed uid eam stored
    obtain ⟨now, accepted, written⟩ := deleteEamByCallsign_run (fresh current) stored
    refine ⟨⟨_, accepted⟩, ?_⟩
    have after : ReportsUnique EamSnapshotRecord.callsign ((deleteEamByCallsign eam.callsign).run w).2.core :=
      ((CallsignsUnique.iff_reports.1 h).put { eam with deletedTsMs := some now }
        fun active => absurd active Bool.false_ne_true).of_same written
    have none : ∀ other ∈ ((deleteEamByCallsign eam.callsign).run w).2.core.eamSnapshots.values,
        ¬((other.callsign == eam.callsign && other.active) = true) := by
      intro other there holds
      rw [Bool.and_eq_true, beq_iff_eq] at holds
      obtain ⟨uid, held⟩ := Dict.mem_values.1 there
      have own := after.filed uid other held
      rw [written, Dict.get_insert] at held
      split at held
      · rw [← Option.some.inj held] at holds
        exact absurd holds.2 Bool.false_ne_true
      · rename_i apart
        have same := h.unique other (Dict.mem_values.2 ⟨uid, held⟩) eam mem holds.2 active holds.1
        exact apart (own.trans (congrArg EamSnapshotRecord.eamUid same))
    rw [findActiveUid, List.find?_eq_none.2 none, Option.map_none]

/-- A report under an assigned callsign that gets to the lookups is refused by them. -/
theorem upsertEamFromArgs_assigned {args : Value} {callsign teamMemberUid teamUid : String} {w : World}
    (assigned : CallsignAssigned w.core callsign teamMemberUid) (named : requiredText args ["callsign"] = .ok callsign)
    (subject : requiredText args ["team_member_uid"] = .ok teamMemberUid)
    (team : requiredText args ["team_uid"] = .ok teamUid) (allowed : rejectDisallowedEamFields args = .ok ())
    (ensured : ((ensureEamTeamAndMember teamUid teamMemberUid callsign args).run w).1 = .ok ()) :
    ((upsertEamFromArgs args).run w).1 =
      invalidPayload ("callsign '" ++ callsign ++ "' is already assigned to another status snapshot") := by
  have spec : Spec (fun _ => True) (ensureEamTeamAndMember teamUid teamMemberUid callsign args) w.core
      (Proc.Yields False (EamEdit False fun _ => True) _ w.core) :=
    ensureEamTeamAndMember_spec teamUid teamMemberUid callsign args False.elim
  obtain ⟨same, -⟩ := (spec w rfl fun _ => trivial).1.value () ensured
  rw [upsertEamFromArgs, allowed, named, subject, team]
  show ((ensureEamTeamAndMember teamUid teamMemberUid callsign args >>= fun _ => _).run w).1 = _
  rw [Proc.run_bind]
  cases outcome : (ensureEamTeamAndMember teamUid teamMemberUid callsign args).run w with
  | mk r w' =>
    rw [outcome] at ensured same
    obtain rfl : r = .ok () := ensured
    have assigned' : resolveEamUid w'.core callsign teamMemberUid = _ := (resolveEamUid_eams same _ _).trans assigned
    dsimp only
    rw [run_core_bind, assigned']
    rfl

/-- In every state that commands reach, where the reports of another member are refused because
the callsign is assigned, a deletion releases it exactly if the snapshot that has it has not
expired at the deletion's reading of the clock. -/
theorem callsign_released_iff {core : RchCore} (run : CommandRun (fun _ _ _ => True) RchCore.new core)
    {callsign teamMemberUid : String} (assigned : CallsignAssigned core callsign teamMemberUid) {w : World}
    (here : w.core = core) :
    (∀ args teamUid, requiredText args ["callsign"] = .ok callsign →
      requiredText args ["team_member_uid"] = .ok teamMemberUid → requiredText args ["team_uid"] = .ok teamUid →
      rejectDisallowedEamFields args = .ok () →
      ((ensureEamTeamAndMember teamUid teamMemberUid callsign args).run w).1 = .ok () →
      ((upsertEamFromArgs args).run w).1 =
        invalidPayload ("callsign '" ++ callsign ++ "' is already assigned to another status snapshot")) ∧
    (Released callsign w ↔ ∀ eam ∈ core.eamSnapshots.values, eam.active = true → eam.callsign = callsign →
      ¬ExpiredAt (w.clock 0).timestampMillis eam) := by
  have unique := run_callsigns run
  refine ⟨fun args teamUid named subject team allowed ensured => ?_, ?_⟩
  · exact upsertEamFromArgs_assigned (here ▸ assigned) named subject team allowed ensured
  · obtain ⟨eam, mem, active, rfl⟩ := assigned.holder
    rw [released_iff unique mem active here]
    constructor
    · rintro current other there active' same
      rw [unique.unique other there eam mem active' active same]
      exact current
    · exact fun current => current eam mem active rfl

end

/-! ## A drill -/

/-- A report of a member under the callsign, in a canonical team. -/
def alphaArgs (teamMemberUid : String) (ttl : List (String × Value)) : List (String × Value) :=
  [("callsign", .string "alpha"), ("team_member_uid", .string teamMemberUid),
    ("team_uid", .string "d4cd5030b68df059ec6beabe416dd6a6"),
    ("source", .object [("rns_identity", .string teamMemberUid)])] ++ ttl

def alphaReport (ttl : List (String × Value)) : MissionCommandEnvelope :=
  drillCommand "1" "mission.registry.eam.upsert" (alphaArgs "m" ttl)

/-- A snapshot without a time to live is released. -/
theorem callsign_released_drill :
    letI := Host.blank
    Released "alpha" (World.atEpoch (coreBehind [alphaReport []])) := by
  let _ := Host.blank
  have run : CommandRun (fun _ _ _ => True) RchCore.new (coreBehind [alphaReport []]) := coreBehind_run fun _ _ _ => trivial
  have assigned : CallsignAssigned (coreBehind [alphaReport []]) "alpha" "n" := by
    unfold CallsignAssigned invalidPayload
    decide +kernel
  refine (callsign_released_iff run assigned (w := World.atEpoch _) rfl).2.2 fun eam mem active same => ?_
  have eternal : ∀ eam ∈ (coreBehind [alphaReport []]).eamSnapshots.values, eam.ttlSeconds = none := by decide +kernel
  rintro ⟨ttl, given, -⟩
  rw [eternal eam mem] at given
  cases given

/-- A snapshot with a time to live of no seconds: another member's report is refused over it,
and its deletion does not find it. -/
theorem expired_callsign_held :
    letI := Host.blank
    CommandRun (fun _ _ _ => True) RchCore.new (coreBehind [alphaReport [("ttl_seconds", .number (.int 0))]]) ∧
    ((upsertEamFromArgs (.object (alphaArgs "n" []))).run
      (World.atEpoch (coreBehind [alphaReport [("ttl_seconds", .number (.int 0))]]))).1.isOk = false ∧
    CallsignAssigned (coreBehind [alphaReport [("ttl_seconds", .number (.int 0))]]) "alpha" "n" ∧
    ((deleteEamByCallsign "alpha").run
      (World.atEpoch (coreBehind [alphaReport [("ttl_seconds", .number (.int 0))]]))).1.isOk = false := by
  let _ := Host.blank
  refine ⟨coreBehind_run fun _ _ _ => trivial, ?_⟩
  unfold CallsignAssigned invalidPayload
  decide +kernel

end TelemetryHub
