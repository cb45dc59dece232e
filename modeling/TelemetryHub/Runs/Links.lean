import TelemetryHub.Edits.Checklists
import TelemetryHub.Runs.Counts

/-!
# Links and what repeats them

A link is stored as a pair, and again in the record at its one end: a team lists its
missions, a member its clients and an assignment its assets.
-/

namespace TelemetryHub

open Lib CoreM

/-! ## Lists of links -/

theorem mem_linkedTo {links : HSet (String × String)} {key text : String} :
    text ∈ RchCore.linkedTo links key ↔ (key, text) ∈ links := by
  unfold RchCore.linkedTo sortBy
  rw [List.mem_insertionSort, List.mem_map, HSet.mem_def]
  constructor
  · rintro ⟨⟨key', text'⟩, mem, rfl⟩
    obtain ⟨linked, here⟩ := List.mem_filter.1 mem
    obtain rfl : key' = key := by simpa using here
    exact linked
  · intro linked
    exact ⟨(key, text), List.mem_filter.2 ⟨linked, by simp⟩, rfl⟩

theorem linkedTo_sorted (links : HSet (String × String)) (key : String) :
    (RchCore.linkedTo links key).Pairwise (· < ·) := by
  have nodup : (RchCore.linkedTo links key).Nodup := by
    refine (List.perm_insertionSort _ _).nodup_iff.2 (List.Nodup.map_on ?_ (links.nodup.filter _))
    intro link mem link' mem' same
    have here : link.1 = key := by simpa using (List.mem_filter.1 mem).2
    have here' : link'.1 = key := by simpa using (List.mem_filter.1 mem').2
    exact Prod.ext (here.trans here'.symm) same
  have order : (fun left right : String => compare left right ≠ .gt) = (· ≤ ·) := by
    funext left right
    exact propext compare_le_iff_le
  have sorted : (RchCore.linkedTo links key).Pairwise (· ≤ ·) := by
    have transitive : IsTrans String fun left right => compare left right ≠ .gt := by
      rw [order]
      infer_instance
    have total : Std.Total fun left right : String => compare left right ≠ .gt := by
      rw [order]
      infer_instance
    refine (List.pairwise_insertionSort (fun left right : String => compare left right ≠ .gt) _).imp ?_
    exact compare_le_iff_le.1
  exact sorted.imp₂ (fun _ _ le ne => lt_of_le_of_ne le ne) nodup

/-- The team lists the missions it is linked to, and its mission is the first of them. -/
structure TeamRecord.Mirrors (links : HSet (String × String)) (uid : String) (team : TeamRecord) : Prop where
  key : team.uid = uid
  nodup : team.missionUids.Nodup
  listed : ∀ missionUid, missionUid ∈ team.missionUids ↔ (missionUid, uid) ∈ links
  first : team.missionUid = team.missionUids.head?

/-- The member lists the clients it is linked to, in order. -/
structure TeamMemberRecord.Mirrors (links : HSet (String × String)) (uid : String) (member : TeamMemberRecord) : Prop where
  sorted : member.clientIdentities.Pairwise (· < ·)
  listed : ∀ identity, identity ∈ member.clientIdentities ↔ (uid, identity) ∈ links

/-- The assignment has the assets it is linked to. -/
structure AssignmentRecord.Mirrors (links : HSet (String × String)) (uid : String) (assignment : AssignmentRecord) :
    Prop where
  key : assignment.assignmentUid = uid
  listed : ∀ assetUid, assetUid ∈ assignment.assets ↔ (uid, assetUid) ∈ links

/-- Each team mirrors its links, and there are no others. -/
structure TeamsMirrored (core : RchCore) : Prop where
  each : ∀ uid team, core.teams.get uid = some team → team.Mirrors core.missionTeamLinks uid
  known : ∀ link ∈ core.missionTeamLinks, core.teams.contains link.2 = true

structure MembersMirrored (core : RchCore) : Prop where
  each : ∀ uid member, core.teamMembers.get uid = some member → member.Mirrors core.teamMemberClientLinks uid
  known : ∀ link ∈ core.teamMemberClientLinks, core.teamMembers.contains link.1 = true

/-- Each assignment mirrors its links. -/
def AssignmentsMirrored (core : RchCore) : Prop :=
  ∀ uid assignment, core.assignments.get uid = some assignment → assignment.Mirrors core.assignmentAssetLinks uid

/-- The tables that mirror each other. -/
def RchCore.linkTables (core : RchCore) : (Dict String TeamRecord × HSet (String × String)) ×
    (Dict String TeamMemberRecord × HSet (String × String)) × Dict String AssignmentRecord × HSet (String × String) :=
  ((core.teams, core.missionTeamLinks), (core.teamMembers, core.teamMemberClientLinks),
    core.assignments, core.assignmentAssetLinks)

section

variable {core core' : RchCore}

theorem TeamsMirrored.of_same (h : TeamsMirrored core)
    (same : (core'.teams, core'.missionTeamLinks) = (core.teams, core.missionTeamLinks)) : TeamsMirrored core' := by
  obtain ⟨teams, links⟩ := Prod.mk.inj same
  constructor
  · rw [teams, links]
    exact h.each
  · rw [teams, links]
    exact h.known

theorem MembersMirrored.of_same (h : MembersMirrored core)
    (same : (core'.teamMembers, core'.teamMemberClientLinks) = (core.teamMembers, core.teamMemberClientLinks)) :
    MembersMirrored core' := by
  obtain ⟨members, links⟩ := Prod.mk.inj same
  constructor
  · rw [members, links]
    exact h.each
  · rw [members, links]
    exact h.known

theorem AssignmentsMirrored.of_same (h : AssignmentsMirrored core)
    (same : (core'.assignments, core'.assignmentAssetLinks) = (core.assignments, core.assignmentAssetLinks)) :
    AssignmentsMirrored core' := by
  obtain ⟨assignments, links⟩ := Prod.mk.inj same
  unfold AssignmentsMirrored
  rw [assignments, links]
  exact h

theorem JournalEdit.linkTables (edit : JournalEdit core core') : core'.linkTables = core.linkTables := by
  cases edit <;> rfl

/-! ## Assignments -/

/-- An assignment stored together with its links. -/
theorem AssignmentsMirrored.store (h : AssignmentsMirrored core) {uid : String} {assignment : AssignmentRecord}
    (key : assignment.assignmentUid = uid) : AssignmentsMirrored (storeAssignment assignment uid core) := by
  intro uid' assignment' stored
  have found : (core.assignments.insert uid assignment).get uid' = some assignment' := stored
  have links : ∀ assetUid, (uid', assetUid) ∈ (storeAssignment assignment uid core).assignmentAssetLinks ↔
      (uid', assetUid) ∈ core.assignmentAssetLinks ∧ uid' ≠ uid ∨ assetUid ∈ assignment.assets ∧ uid' = uid := by
    intro assetUid
    simp only [storeAssignment, setAssignmentAssetLinks, HSet.mem_extend, HSet.mem_retain, List.mem_map, Prod.mk.injEq,
      bne_iff_ne]
    constructor
    · rintro (kept | ⟨_, mem, rfl, rfl⟩)
      · exact .inl kept
      · exact .inr ⟨mem, rfl⟩
    · rintro (kept | ⟨mem, rfl⟩)
      · exact .inl kept
      · exact .inr ⟨assetUid, mem, rfl, rfl⟩
  rw [Dict.get_insert] at found
  split at found
  · next here =>
    obtain rfl := Option.some.inj found
    refine ⟨key.trans here.symm, fun assetUid => ?_⟩
    rw [links]
    simp [here]
  · next other =>
    have old := h uid' assignment' found
    refine ⟨old.key, fun assetUid => ?_⟩
    rw [links, old.listed]
    simp [other]

/-- An asset is taken from the assignments and from the links. -/
theorem AssignmentsMirrored.withoutAsset (h : AssignmentsMirrored core) (assetUid : String) :
    AssignmentsMirrored (core.withoutAsset assetUid) := by
  intro uid assignment stored
  have found : (core.assignments.mapValues fun assignment =>
      { assignment with assets := assignment.assets.filter fun item => item != assetUid }).get uid = some assignment := stored
  rw [Dict.get_mapValues, Option.map_eq_some_iff] at found
  obtain ⟨old, stored', rfl⟩ := found
  have mirrors := h uid old stored'
  refine ⟨mirrors.key, fun asset => ?_⟩
  show asset ∈ old.assets.filter _ ↔ (uid, asset) ∈ core.assignmentAssetLinks.retain _
  rw [List.mem_filter, HSet.mem_retain, mirrors.listed]

theorem AssetEdit.assignments (h : AssignmentsMirrored core) (edit : AssetEdit core core') : AssignmentsMirrored core' := by
  cases edit with
  | delete assetUid => exact h.withoutAsset assetUid
  | assign uid assignment key => exact h.store key
  | equip uid old assets stored => exact h.store (h uid old stored).key
  | journal entry => exact h.of_same (congrArg (fun t => t.2.2) entry.linkTables)
  | _ => exact h.of_same rfl

/-- The tasks of a deleted checklist take their assignments along, and the links of these. -/
theorem ChecklistEdit.assignments (h : AssignmentsMirrored core) (edit : ChecklistEdit core core') :
    AssignmentsMirrored core' := by
  cases edit with
  | tables => exact h.of_same rfl
  | journal entry => exact h.of_same (congrArg (fun t => t.2.2) entry.linkTables)
  | delete checklistUid =>
    intro uid assignment stored
    have found : (core.assignments.retain fun _ assignment =>
        !(checklistTaskUids core checklistUid).contains assignment.taskUid).get uid = some assignment := stored
    rw [Dict.get_retain, Option.filter_eq_some_iff] at found
    obtain ⟨stored', task⟩ := found
    have mirrors := h uid assignment stored'
    refine ⟨mirrors.key, fun assetUid => ?_⟩
    show _ ↔ (uid, assetUid) ∈ core.assignmentAssetLinks.retain _
    rw [HSet.mem_retain, mirrors.listed, iff_self_and]
    intro _
    -- an assignment that goes has a task that goes, and this one has not
    rw [Bool.not_eq_true', List.contains_eq_mem, decide_eq_false_iff_not, List.mem_map]
    rintro ⟨gone, mem, same⟩
    obtain ⟨value, out⟩ := List.mem_filter.1 mem
    obtain ⟨key, stored''⟩ := Dict.mem_values.1 value
    obtain rfl : key = uid := (h key gone stored'').key.symm.trans same
    obtain rfl := Option.some.inj (stored'.symm.trans stored'')
    rw [out] at task
    cases task

/-! ## Members -/

/-- A member is written with the links it has got, the others' links being the old ones. -/
theorem MembersMirrored.relink (h : MembersMirrored core) {uid : String} {member : TeamMemberRecord}
    {links : HSet (String × String)} (others : ∀ link, link.1 ≠ uid → (link ∈ links ↔ link ∈ core.teamMemberClientLinks))
    (clients : member.clientIdentities = RchCore.linkedTo links uid) :
    MembersMirrored { core with
      teamMemberClientLinks := links, teamMembers := core.teamMembers.insert uid member } where
  each uid' member' stored := by
    have found : (core.teamMembers.insert uid member).get uid' = some member' := stored
    rw [Dict.get_insert] at found
    split at found
    · next here =>
      obtain rfl := Option.some.inj found
      subst here
      constructor
      · rw [clients]
        exact linkedTo_sorted _ _
      · intro identity
        rw [clients]
        exact mem_linkedTo
    · next other =>
      have old := h.each uid' member' found
      refine ⟨old.sorted, fun identity => ?_⟩
      rw [old.listed]
      exact (others (uid', identity) other).symm
  known link linked := by
    rw [Dict.contains_insert]
    by_cases here : link.1 = uid
    · exact .inl here
    · exact .inr (h.known link ((others link here).1 linked))

/-- A member is stored with the clients it is linked to. -/
theorem MembersMirrored.store (h : MembersMirrored core) {uid : String} {member : TeamMemberRecord}
    (clients : member.clientIdentities = core.teamMemberClientIds uid) :
    MembersMirrored { core with teamMembers := core.teamMembers.insert uid member } :=
  h.relink (fun _ _ => Iff.rfl) clients

/-- A member that is not there has no links. -/
theorem MembersMirrored.unlinked (h : MembersMirrored core) {uid : String} (absent : core.teamMembers.get uid = none)
    (identity : String) : (uid, identity) ∉ core.teamMemberClientLinks := by
  intro linked
  have present := h.known (uid, identity) linked
  rw [Dict.contains, absent] at present
  cases present

/-- A member goes, and its links. -/
theorem MembersMirrored.remove (h : MembersMirrored core) (uid identity : String) (assets : Dict String AssetRecord) :
    MembersMirrored (core.withoutTeamMember uid identity assets) where
  each uid' member stored := by
    have found : (core.teamMembers.remove uid).get uid' = some member := stored
    rw [Dict.get_remove] at found
    split at found
    · cases found
    · next other =>
      have old := h.each uid' member found
      refine ⟨old.sorted, fun client => ?_⟩
      show _ ↔ (uid', client) ∈ core.teamMemberClientLinks.retain _
      rw [HSet.mem_retain, old.listed]
      simp [other]
  known link linked := by
    have linked : link ∈ core.teamMemberClientLinks.retain fun link => link.1 != uid := linked
    obtain ⟨linked, other⟩ := HSet.mem_retain.1 linked
    show (core.teamMembers.remove uid).contains link.1 = true
    rw [Dict.contains, Dict.get_remove, if_neg (by simpa using other)]
    exact h.known link linked

/-- The members of a deleted team keep their clients. -/
theorem TeamEdit.members {strict : Prop} (h : MembersMirrored core) (edit : TeamEdit strict core core') :
    MembersMirrored core' := by
  cases edit with
  | delete teamUid teamMembers members =>
    constructor
    · intro uid member stored
      have kept : ∃ old, core.teamMembers.get uid = some old ∧ member.clientIdentities = old.clientIdentities := by
        obtain ⟨old, stored', ⟨-, rfl⟩ | ⟨-, now, rfl⟩⟩ := members.source stored
        · exact ⟨_, stored', rfl⟩
        · exact ⟨_, stored', rfl⟩
      obtain ⟨old, stored', clients⟩ := kept
      have mirrors := h.each uid old stored'
      constructor
      · rw [clients]
        exact mirrors.sorted
      · rw [clients]
        exact mirrors.listed
    · intro link linked
      show teamMembers.contains link.1 = true
      rw [members.contains]
      exact h.known link linked
  | _ => exact h.of_same rfl

/-! ## Teams -/

/-- The links of a team are set, and the team is written with them. -/
theorem TeamsMirrored.relink (h : TeamsMirrored core) {uid : String} {missionUids : List String} {team : TeamRecord}
    (key : team.uid = uid) (nodup : missionUids.Nodup) (listed : team.missionUids = missionUids)
    (first : team.missionUid = missionUids.head?) :
    TeamsMirrored { setTeamMissionLinks uid missionUids core with teams := core.teams.insert uid team } := by
  have links : ∀ link : String × String, link ∈ (setTeamMissionLinks uid missionUids core).missionTeamLinks ↔
      link ∈ core.missionTeamLinks ∧ link.2 ≠ uid ∨ link.1 ∈ missionUids ∧ link.2 = uid := by
    rintro ⟨missionUid, teamUid⟩
    simp only [setTeamMissionLinks, HSet.mem_extend, HSet.mem_retain, List.mem_map, Prod.mk.injEq, bne_iff_ne]
    constructor
    · rintro (kept | ⟨_, mem, rfl, rfl⟩)
      · exact .inl kept
      · exact .inr ⟨mem, rfl⟩
    · rintro (kept | ⟨mem, rfl⟩)
      · exact .inl kept
      · exact .inr ⟨missionUid, mem, rfl, rfl⟩
  constructor
  · intro uid' team' stored
    have found : (core.teams.insert uid team).get uid' = some team' := stored
    show team'.Mirrors (setTeamMissionLinks uid missionUids core).missionTeamLinks uid'
    rw [Dict.get_insert] at found
    split at found
    · next here =>
      obtain rfl := Option.some.inj found
      subst here
      refine ⟨key, by rwa [listed], fun missionUid => ?_, by rw [first, listed]⟩
      rw [links, listed]
      simp
    · next other =>
      have old := h.each uid' team' found
      refine ⟨old.key, old.nodup, fun missionUid => ?_, old.first⟩
      rw [links, old.listed]
      simp [other]
  · intro link linked
    rw [Dict.contains_insert]
    rcases (links link).1 linked with ⟨linked, -⟩ | ⟨-, here⟩
    · exact .inr (h.known link linked)
    · exact .inl here

/-- A team that is not there has no links. -/
theorem TeamsMirrored.unlinked (h : TeamsMirrored core) {uid : String} (absent : core.teams.get uid = none)
    (missionUid : String) : (missionUid, uid) ∉ core.missionTeamLinks := by
  intro linked
  have present := h.known (missionUid, uid) linked
  rw [Dict.contains, absent] at present
  cases present

/-- A team is written over one with these missions, or where there is none and without any. -/
theorem TeamsMirrored.store (h : TeamsMirrored core) {uid : String} {team : TeamRecord} (key : team.uid = uid)
    (replaced : ∀ old, core.teams.get uid = some old →
      team.missionUids = old.missionUids ∧ team.missionUid = old.missionUid)
    (new : core.teams.get uid = none → team.missionUids = [] ∧ team.missionUid = none) :
    TeamsMirrored { core with teams := core.teams.insert uid team } := by
  have mirrors : team.Mirrors core.missionTeamLinks uid := by
    cases stored : core.teams.get uid with
    | none =>
      obtain ⟨listed, first⟩ := new stored
      refine ⟨key, by rw [listed]; exact List.nodup_nil, fun missionUid => ?_, by rw [first, listed]; rfl⟩
      rw [listed]
      exact iff_of_false List.not_mem_nil (h.unlinked stored missionUid)
    | some old =>
      obtain ⟨listed, first⟩ := replaced old stored
      have mirrors := h.each uid old stored
      exact ⟨key, by rw [listed]; exact mirrors.nodup, by rw [listed]; exact mirrors.listed,
        by rw [first, listed]; exact mirrors.first⟩
  constructor
  · intro uid' team' stored
    have found : (core.teams.insert uid team).get uid' = some team' := stored
    rw [Dict.get_insert] at found
    split at found
    · next here =>
      obtain rfl := Option.some.inj found
      rw [here]
      exact mirrors
    · exact h.each uid' team' found
  · intro link linked
    exact Dict.contains_insert.2 (.inr (h.known link linked))

/-- A team goes, and its links. -/
theorem TeamsMirrored.remove (h : TeamsMirrored core) (teamUid : String) (teamMembers : Dict String TeamMemberRecord) :
    TeamsMirrored (core.withoutTeam teamUid teamMembers) where
  each uid team stored := by
    have found : (core.teams.remove teamUid).get uid = some team := stored
    rw [Dict.get_remove] at found
    split at found
    · cases found
    · next other =>
      have old := h.each uid team found
      refine ⟨old.key, old.nodup, fun missionUid => ?_, old.first⟩
      show _ ↔ (missionUid, uid) ∈ core.missionTeamLinks.retain _
      rw [HSet.mem_retain, old.listed]
      simp [other]
  known link linked := by
    have linked : link ∈ core.missionTeamLinks.retain fun link => link.2 != teamUid := linked
    obtain ⟨linked, other⟩ := HSet.mem_retain.1 linked
    show (core.teams.remove teamUid).contains link.2 = true
    rw [Dict.contains, Dict.get_remove, if_neg (by simpa using other)]
    exact h.known link linked

end

end TelemetryHub
