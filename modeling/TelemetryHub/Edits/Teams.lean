import TelemetryHub.Core.Logic
import TelemetryHub.Core.Normal
import TelemetryHub.Core.Teams

/-!
# What the team commands write

The links between teams and missions are written before the team is looked up or
its colour is checked.
-/

namespace TelemetryHub

open Lib CoreM

/-! ## Conditions -/

/-- The team the arguments name is there. -/
def TeamNamed [Host] (core : RchCore) (args : Value) : Prop :=
  ∀ teamUid, requiredText args ["team_uid", "uid"] = .ok teamUid →
    core.teams.contains teamUid = true

/-- The team the arguments name is there, or has no links. -/
def TeamNamedOrUnlinked [Host] (core : RchCore) (args : Value) : Prop :=
  ∀ teamUid, requiredText args ["team_uid", "uid"] = .ok teamUid →
    core.teams.contains teamUid = true ∨ ∀ link ∈ core.missionTeamLinks, link.2 ≠ teamUid

/-- The links of the team are set together with the team: its colour is accepted, or
the arguments name no missions. -/
def TeamColorChecks [Host] (args : Value) : Prop :=
  teamRefsProvided args = true →
    canonicalTeamFromTeamArgs args (optionalText args ["uid"]) = none →
    ∃ color, teamColorFromArgs args none = .ok color

/-- The team the arguments write is there. -/
def TeamWritten [Host] (core : RchCore) (args : Value) : Prop :=
  ∃ uid, optionalText args ["uid"] = some uid ∧ core.teams.contains uid = true

/-- The member the arguments name is there, or has no link to the client. -/
def MemberNamedOrUnlinked [Host] (core : RchCore) (args : Value) : Prop :=
  ∀ uid identity, requiredText args ["team_member_uid", "uid"] = .ok uid →
    requiredClientIdentity args = .ok identity →
    core.teamMembers.contains uid = true ∨ (uid, identity) ∉ core.teamMemberClientLinks

/-- What the team commands check after they have written. -/
structure TeamCommandChecks [Host] (core : RchCore) (command : MissionCommandEnvelope) : Prop where
  upsert : command.commandType = "mission.registry.team.upsert" → TeamColorChecks command.args
  link : command.commandType = "mission.registry.team.mission.link" → TeamNamed core command.args
  unlink : command.commandType = "mission.registry.team.mission.unlink" →
    TeamNamedOrUnlinked core command.args

/-- The teams that the team commands link are there. -/
structure TeamCommandKnown [Host] (core : RchCore) (command : MissionCommandEnvelope) : Prop where
  upsert : command.commandType = "mission.registry.team.upsert" → TeamColorChecks command.args ∨
    TeamWritten core command.args
  link : command.commandType = "mission.registry.team.mission.link" → TeamNamed core command.args
  unlink : command.commandType = "mission.registry.team.mission.unlink" →
    TeamNamedOrUnlinked core command.args

/-! ## Edits -/

/-- The missions are there, or the team is linked to them already. -/
def MissionsLinkable (core : RchCore) (teamUid : String) (missionUids : List String) : Prop :=
  ∀ uid ∈ missionUids, core.missions.contains uid = true ∨ uid ∈ core.teamMissionIds teamUid

/-- The core without the team and what refers to it. -/
def RchCore.withoutTeam (core : RchCore) (teamUid : String)
    (teamMembers : Dict String TeamMemberRecord) : RchCore :=
  { core with
    teams := core.teams.remove teamUid
    teamMembers
    missionTeamLinks := core.missionTeamLinks.retain fun link => link.2 != teamUid }

/-- The core without the member and what refers to it. -/
def RchCore.withoutTeamMember (core : RchCore) (uid identity : String)
    (assets : Dict String AssetRecord) : RchCore :=
  { core with
    teamMembers := core.teamMembers.remove uid
    assets
    teamMemberClientLinks := core.teamMemberClientLinks.retain fun link => link.1 != uid
    teamMemberSkills := core.teamMemberSkills.retain fun _ skill =>
      skill.teamMemberRnsIdentity != identity }

/-- A member of the team leaves it. -/
def leaveTeam (now : Int) (member : TeamMemberRecord) : TeamMemberRecord :=
  { member with teamUid := none, updatedTsMs := now }

/-- An asset of the member loses it. -/
def leaveMember (now : Int) (asset : AssetRecord) : AssetRecord :=
  { asset with teamMemberUid := none, updatedTsMs := now }

/-- One write of a team command. -/
inductive TeamEdit (strict : Prop) (core : RchCore) : RchCore → Prop
  | create (uid : String) (team : TeamRecord) (key : team.uid = uid)
      (mission : ∀ missionUid, team.missionUid = some missionUid →
        (missionUid, uid) ∈ core.missionTeamLinks ∨ core.missions.contains missionUid = true) :
      TeamEdit strict core { core with teams := core.teams.insert uid team }
  | patch (uid : String) (old team : TeamRecord) (stored : core.teams.get uid = some old)
      (key : team.uid = old.uid)
      (mission : ∀ missionUid, team.missionUid = some missionUid →
        old.missionUid = some missionUid ∨ (missionUid, uid) ∈ core.missionTeamLinks ∨
          core.missions.contains missionUid = true) :
      TeamEdit strict core { core with teams := core.teams.insert uid team }
  | link (teamUid : String) (missionUids : List String)
      (linkable : MissionsLinkable core teamUid missionUids)
      (known : strict → core.teams.contains teamUid = true ∨ missionUids = []) :
      TeamEdit strict core (setTeamMissionLinks teamUid missionUids core)
  | linkNew (teamUid : String) (missionUids : List String) (team : TeamRecord)
      (linkable : MissionsLinkable core teamUid missionUids)
      (key : team.uid = teamUid) (mission : team.missionUid = missionUids.head?) :
      TeamEdit strict core { setTeamMissionLinks teamUid missionUids core with
        teams := core.teams.insert teamUid team }
  | delete (teamUid : String) (teamMembers : Dict String TeamMemberRecord)
      (members : Rewritten (fun member => member.teamUid == some teamUid) leaveTeam core.teamMembers
        teamMembers) :
      TeamEdit strict core (core.withoutTeam teamUid teamMembers)

/-- One write of a team member command. -/
inductive MemberEdit (core : RchCore) : RchCore → Prop
  | create (uid : String) (member : TeamMemberRecord) (key : member.uid = uid)
      (team : ∀ teamUid, member.teamUid = some teamUid → core.teams.contains teamUid = true) :
      MemberEdit core { core with teamMembers := core.teamMembers.insert uid member }
  | patch (uid : String) (old member : TeamMemberRecord)
      (stored : core.teamMembers.get uid = some old) (key : member.uid = old.uid)
      (team : ∀ teamUid, member.teamUid = some teamUid →
        old.teamUid = some teamUid ∨ core.teams.contains teamUid = true) :
      MemberEdit core { core with teamMembers := core.teamMembers.insert uid member }
  | delete (uid : String) (member : TeamMemberRecord) (assets : Dict String AssetRecord)
      (stored : core.teamMembers.get uid = some member)
      (left : Rewritten (fun asset => asset.teamMemberUid == some uid) leaveMember core.assets assets) :
      MemberEdit core (core.withoutTeamMember uid member.rnsIdentity assets)
  | linkClient (uid identity : String) (known : core.teamMembers.contains uid = true) :
      MemberEdit core
        { core with teamMemberClientLinks := core.teamMemberClientLinks.insert (uid, identity) }
  | unlinkClient (link : String × String) :
      MemberEdit core
        { core with teamMemberClientLinks := core.teamMemberClientLinks.erase link }

/-! ## Lists of uids -/

/-- What `dedupe_non_empty` keeps are the trimmed texts of the list. -/
theorem mem_dedupeNonEmpty {values : List String} {text : String}
    (h : text ∈ dedupeNonEmpty values) : ∃ value ∈ values, trim value = text := by
  have loop : ∀ (rest acc : List String), (∀ t ∈ acc, ∃ value ∈ values, trim value = t) →
      (∀ v ∈ rest, v ∈ values) → ∀ t ∈ rest.foldl (fun acc value =>
        let value := trim value
        if value.isEmpty || acc.contains value then acc else acc ++ [value]) acc,
      ∃ value ∈ values, trim value = t := by
    intro rest
    induction rest with
    | nil => exact fun acc hacc _ => hacc
    | cons v rest ih =>
      intro acc hacc hrest
      refine ih _ ?_ fun v' hv' => hrest v' (List.mem_cons_of_mem _ hv')
      dsimp only
      split
      · exact hacc
      · intro t ht
        rcases List.mem_append.1 ht with ht | ht
        · exact hacc t ht
        · rw [List.mem_singleton.1 ht]
          exact ⟨v, hrest v List.mem_cons_self, rfl⟩
  exact loop values [] nofun (fun _ hv => hv) text h

theorem trimmed_dedupeNonEmpty {values : List String} {text : String}
    (h : text ∈ dedupeNonEmpty values) : trim text = text := by
  obtain ⟨value, -, rfl⟩ := mem_dedupeNonEmpty h
  exact trim_trim value

section

variable [Host] {drawn : String → Prop} {strict clean : Prop} {core₀ : RchCore}

/-- The missions the arguments name are there. -/
theorem teamMissionUidsFromArgs_known {core : RchCore} {args : Value} {missionUids : List String}
    (h : teamMissionUidsFromArgs core args = .ok missionUids) :
    ∀ uid ∈ missionUids, core.missions.contains uid = true := by
  obtain ⟨listed, -, h⟩ := bind_eq_ok.1 h
  obtain ⟨_, hall, h⟩ := bind_eq_ok.1 h
  rw [← Except.ok.inj h]
  intro uid hmem
  have hknown := forM_eq_ok.1 hall uid hmem
  split at hknown
  · assumption
  · cases hknown

/-! ## Teams -/

omit [Host] in
theorem mem_setTeamMissionLinks {core : RchCore} {teamUid uid : String} {missionUids : List String}
    (h : uid ∈ missionUids) :
    (uid, teamUid) ∈ (setTeamMissionLinks teamUid missionUids core).missionTeamLinks :=
  HSet.mem_extend.2 (.inr (List.mem_map.2 ⟨uid, h, rfl⟩))

theorem teamNamingFromArgs_keeps {args : Value} {canonicalTeam : Option (String × String)}
    {team named : TeamRecord} (h : teamNamingFromArgs args canonicalTeam team = .ok named) :
    named.uid = team.uid ∧ named.missionUid = team.missionUid ∧ named.missionUids = team.missionUids := by
  unfold teamNamingFromArgs at h
  split at h
  · rw [← Except.ok.inj h]
    exact ⟨rfl, rfl, rfl⟩
  · obtain ⟨color, -, h⟩ := bind_eq_ok.1 h
    rw [← Except.ok.inj h]
    exact ⟨rfl, rfl, rfl⟩

/-- A name is refused for its colour, that of a team that is not canonical. -/
theorem teamNamingFromArgs_refused {args : Value} {canonicalTeam : Option (String × String)}
    {team : TeamRecord} {e : RchCoreError} (h : teamNamingFromArgs args canonicalTeam team = .error e) :
    canonicalTeam = none ∧ ¬∃ color, teamColorFromArgs args none = .ok color := by
  unfold teamNamingFromArgs at h
  split at h
  · cases h
  · refine ⟨rfl, ?_⟩
    rintro ⟨color, hcolor⟩
    unfold teamColorFromArgs at h hcolor
    cases hread : optionalTextOrEmpty args ["color"] with
    | none =>
      rw [hread] at h
      cases h
    | some text =>
      rw [hread] at h hcolor
      dsimp only at h hcolor
      rw [hcolor] at h
      cases h

theorem setTeamMissionsFromArgs_spec (uid : String) (args : Value) (team : TeamRecord) :
    Spec drawn (setTeamMissionsFromArgs uid args team) core₀ fun r core' =>
      ((∃ e, r = .error e) ∨ r = .ok team) ∧ core' = core₀ ∨
      teamRefsProvided args = true ∧ ∃ missionUids, teamMissionUidsFromArgs core₀ args = .ok missionUids ∧
        r = .ok { team with missionUids, missionUid := missionUids.head? } ∧
        core' = setTeamMissionLinks uid missionUids core₀ := by
  unfold setTeamMissionsFromArgs
  refine Proc.Spec.ite (fun hrefs => ?_) fun _ => Proc.Spec.pure (.inl ⟨.inr rfl, rfl⟩)
  refine Spec.read ?_
  refine Proc.Spec.check (fun missionUids hknown => ?_) fun e _ => .inl ⟨.inl ⟨e, rfl⟩, rfl⟩
  exact Spec.write (Proc.Spec.pure (.inr ⟨hrefs, missionUids, hknown, rfl, rfl⟩))

theorem upsertTeamFromArgs_spec (args : Value) (checks : clean → TeamColorChecks args)
    (known : strict → TeamColorChecks args ∨ TeamWritten core₀ args) :
    Spec drawn (upsertTeamFromArgs args) core₀ (Proc.Outcome clean (TeamEdit strict) core₀) := by
  unfold upsertTeamFromArgs
  refine Spec.drawUnless fun uid hid => ?_
  refine Spec.clock fun now => ?_
  refine Spec.read ?_
  refine Proc.Spec.bind (setTeamMissionsFromArgs_spec uid args _) (fun team core' h => ?_)
    fun e core' h => ?_
  · rcases h with ⟨⟨e, he⟩ | hteam, rfl⟩ | ⟨hrefs, missionUids, hmissions, hteam, rfl⟩
    · cases he
    · obtain rfl := Except.ok.inj hteam
      refine Proc.Spec.checked fun named hnamed => ?_
      obtain ⟨huid, hmission, -⟩ := teamNamingFromArgs_keeps hnamed
      refine Spec.write (Proc.Spec.done (.single ?_))
      cases hget : core'.teams.get uid with
      | none =>
        rw [hget] at huid hmission
        refine .create _ _ huid fun missionUid hm => ?_
        have hm : named.missionUid = some missionUid := hm
        rw [hmission] at hm
        cases hm
      | some old =>
        rw [hget] at huid hmission
        refine .patch _ old _ hget huid fun missionUid hm => .inl ?_
        exact hmission.symm.trans hm
    · obtain rfl := Except.ok.inj hteam
      have linkable : MissionsLinkable core₀ uid missionUids :=
        fun m hm => .inl (teamMissionUidsFromArgs_known hmissions m hm)
      refine Proc.Spec.check (fun named hnamed => ?_) fun e he => ?_
      · obtain ⟨huid, hmission, -⟩ := teamNamingFromArgs_keeps hnamed
        refine Spec.write (Proc.Spec.done ?_)
        cases hget : core₀.teams.get uid with
        | none =>
          rw [hget] at huid
          exact .single (.linkNew _ _ _ linkable huid hmission)
        | some old =>
          rw [hget] at huid
          have present : core₀.teams.contains uid = true := Dict.contains_iff.2 ⟨old, hget⟩
          refine .tail (.single (.link _ _ linkable fun _ => .inl present)) ?_
          refine .patch _ old _ hget huid fun missionUid hm => .inr (.inl ?_)
          exact mem_setTeamMissionLinks (List.mem_of_mem_head? (hmission.symm.trans hm))
      · obtain ⟨hcanonical, hcolor⟩ := teamNamingFromArgs_refused he
        have refused : ¬TeamColorChecks args := fun h => hcolor (h hrefs hcanonical)
        refine .late (.single (.link _ _ linkable fun hs => .inl ?_)) fun hclean => ?_
        · rcases known hs with haccepted | ⟨written, hwritten, hpresent⟩
          · exact absurd haccepted refused
          · rw [hcanonical, hwritten] at hid
            rcases hid with hid | ⟨hid, -⟩
            · rwa [← Option.some.inj hid]
            · cases hid
        · exact absurd (checks hclean) refused
  · rcases h with ⟨-, rfl⟩ | ⟨-, _, -, he, -⟩
    · exact .unchanged
    · cases he

theorem deleteTeamFromArgs_spec (args : Value) :
    Spec drawn (deleteTeamFromArgs args) core₀ (Proc.Outcome clean (TeamEdit strict) core₀) := by
  unfold deleteTeamFromArgs
  refine Proc.Spec.checked fun teamUid _ => ?_
  refine Spec.read ?_
  refine Proc.Spec.required fun team _ => ?_
  refine Spec.read ?_
  refine Proc.Spec.bind (rewriteWhere_spec _ _ _) (fun teamMembers core' h => ?_) fun e core' h => ?_
  · obtain ⟨rfl, _, hr, members⟩ := h
    obtain rfl := Except.ok.inj hr
    exact Spec.write (Proc.Spec.done (.single (.delete _ _ members)))
  · obtain ⟨-, _, hr, -⟩ := h
    cases hr

omit [Host] in
/-- The refreshed mission fields of a team that is there. -/
theorem updateTeamMissionRefs_spec (teamUid : String) (missionUids : List String)
    (linked : ∀ uid ∈ missionUids, (uid, teamUid) ∈ core₀.missionTeamLinks)
    {team : TeamRecord} (stored : core₀.teams.get teamUid = some team) :
    Spec drawn (updateTeamMissionRefs teamUid missionUids) core₀
      (Proc.Finishes clean (TeamEdit strict) core₀) := by
  unfold updateTeamMissionRefs
  refine Spec.read ?_
  refine Proc.Spec.found stored ?_
  refine Spec.clock fun now => ?_
  refine Spec.write ?_
  refine Proc.Spec.pure (.ok (.single (.patch _ team _ stored rfl fun uid huid => ?_)) trivial)
  exact .inr (.inl (linked uid (List.mem_of_mem_head? huid)))

omit [Host] in
/-- The links are set before the team is looked up. -/
theorem linkThenUpdate_spec {teamUid : String} {missionUids : List String}
    (linkable : MissionsLinkable core₀ teamUid missionUids)
    (known : strict → core₀.teams.contains teamUid = true ∨ missionUids = [])
    (unwritten : clean → core₀.teams.contains teamUid = true ∨
      setTeamMissionLinks teamUid missionUids core₀ = core₀) :
    Spec drawn (do
      update (setTeamMissionLinks teamUid missionUids)
      updateTeamMissionRefs teamUid missionUids) core₀
      (Proc.Outcome clean (TeamEdit strict) core₀) := by
  have edit : TeamEdit strict core₀ (setTeamMissionLinks teamUid missionUids core₀) :=
    .link _ _ linkable known
  refine Spec.write ?_
  cases hget : core₀.teams.get teamUid with
  | some team =>
    refine .conclude (.single edit) (updateTeamMissionRefs_spec teamUid missionUids ?_ hget)
    exact fun uid huid => mem_setTeamMissionLinks huid
  | none =>
    have missing : (setTeamMissionLinks teamUid missionUids core₀).teams.get teamUid = none := hget
    unfold updateTeamMissionRefs
    refine Spec.read ?_
    rw [missing]
    refine Proc.Spec.throw (.late (.single edit) fun hclean => ?_)
    rcases unwritten hclean with hpresent | hsame
    · rw [Dict.contains, hget] at hpresent
      cases hpresent
    · exact hsame

omit [Host] in
/-- The missions of a team can be linked to it again, with or without others. -/
theorem linkable_dedupe {core : RchCore} {teamUid : String} {values : List String}
    (h : ∀ uid ∈ values, uid ∈ core.teamMissionIds teamUid ∨
      trim uid = uid ∧ core.missions.contains uid = true) :
    MissionsLinkable core teamUid (dedupeNonEmpty values) := by
  intro uid huid
  obtain ⟨value, hvalue, rfl⟩ := mem_dedupeNonEmpty huid
  rcases h value hvalue with hlinked | ⟨htrim, hknown⟩
  · rw [trimmed_dedupeNonEmpty hlinked]
    exact .inr hlinked
  · rw [htrim]
    exact .inl hknown

theorem linkTeamMissionFromArgs_spec (args : Value) (known : strict → TeamNamed core₀ args)
    (checks : clean → TeamNamed core₀ args) :
    Spec drawn (linkTeamMissionFromArgs args) core₀
      (Proc.Outcome clean (TeamEdit strict) core₀) := by
  unfold linkTeamMissionFromArgs
  refine Proc.Spec.checked fun teamUid hteam => ?_
  refine Proc.Spec.checked fun missionUid hmission => ?_
  refine Spec.read ?_
  refine Proc.Spec.guarded fun hknown => ?_
  refine Spec.read ?_
  refine linkThenUpdate_spec (linkable_dedupe fun uid huid => ?_) (fun hs => .inl (known hs _ hteam))
    fun hc => .inl (checks hc _ hteam)
  have hmissionKnown : core₀.missions.contains missionUid = true := by simpa using hknown
  have trimmed := (requiredText_trimmed hmission).1
  split at huid
  · exact .inl huid
  · rcases List.mem_append.1 huid with huid | huid
    · exact .inl huid
    · rw [List.mem_singleton.1 huid]
      exact .inr ⟨trimmed, hmissionKnown⟩

omit [Host] in
/-- A team that is not there and has no links belongs to no mission. -/
theorem teamMissionIds_unlinked {core : RchCore} {teamUid : String}
    (missing : core.teams.get teamUid = none)
    (unlinked : ∀ link ∈ core.missionTeamLinks, link.2 ≠ teamUid) :
    core.teamMissionIds teamUid = [] := by
  unfold RchCore.teamMissionIds
  have hlinks : core.missionTeamLinks.toList.filter (fun link => link.2 == teamUid) = [] := by
    refine List.filter_eq_nil_iff.2 fun link hlink => ?_
    simpa using unlinked link hlink
  rw [hlinks, missing]
  rfl

omit [Host] in
theorem setTeamMissionLinks_nil {core : RchCore} {teamUid : String}
    (unlinked : ∀ link ∈ core.missionTeamLinks, link.2 ≠ teamUid) :
    setTeamMissionLinks teamUid [] core = core := by
  have hkept : core.missionTeamLinks.retain (fun link => link.2 != teamUid) = core.missionTeamLinks :=
    HSet.retain_eq_self fun link hlink => by simpa using unlinked link hlink
  unfold setTeamMissionLinks
  rw [hkept]
  rfl

theorem unlinkTeamMissionFromArgs_spec (args : Value)
    (known : strict → TeamNamedOrUnlinked core₀ args)
    (checks : clean → TeamNamedOrUnlinked core₀ args) :
    Spec drawn (unlinkTeamMissionFromArgs args) core₀
      (Proc.Outcome clean (TeamEdit strict) core₀) := by
  unfold unlinkTeamMissionFromArgs
  refine Proc.Spec.checked fun teamUid hteam => ?_
  refine Proc.Spec.checked fun missionUid _ => ?_
  refine Spec.read ?_
  have linkless : TeamNamedOrUnlinked core₀ args → core₀.teams.contains teamUid = true ∨
      (core₀.teamMissionIds teamUid).filter (fun uid => uid != missionUid) = [] ∧
        setTeamMissionLinks teamUid [] core₀ = core₀ := by
    intro h
    cases hget : core₀.teams.get teamUid with
    | some team => exact .inl (Dict.contains_iff.2 ⟨team, hget⟩)
    | none =>
      rcases h teamUid hteam with hpresent | hunlinked
      · exact .inl hpresent
      · rw [teamMissionIds_unlinked hget hunlinked]
        exact .inr ⟨rfl, setTeamMissionLinks_nil hunlinked⟩
  refine linkThenUpdate_spec (fun uid huid => .inr (List.mem_filter.1 huid).1)
    (fun hs => (linkless (known hs)).imp_right And.left) fun hc => ?_
  rcases linkless (checks hc) with hpresent | ⟨hnil, hsame⟩
  · exact .inl hpresent
  · rw [hnil]
    exact .inr hsame

theorem applyRegistryTeamCommand_spec (command : MissionCommandEnvelope)
    (checks : clean → TeamCommandChecks core₀ command)
    (known : strict → TeamCommandKnown core₀ command) :
    Spec drawn (applyRegistryTeamCommand command) core₀
      (Proc.Outcome clean (TeamEdit strict) core₀) := by
  unfold applyRegistryTeamCommand
  split
  · rename_i htype
    refine .finish (upsertTeamFromArgs_spec _ ?_ ?_) fun _ _ _ => .finished
    · exact fun hc => (checks hc).upsert htype
    · exact fun hs => (known hs).upsert htype
  · refine Proc.Spec.checked fun teamUid _ => ?_
    refine Spec.read ?_
    exact Proc.Spec.required fun team _ => .answer
  · exact Spec.read .answer
  · exact .finish (deleteTeamFromArgs_spec _) fun _ _ _ => .finished
  · rename_i htype
    refine .finish (linkTeamMissionFromArgs_spec _ ?_ ?_) fun _ _ _ => .finished
    · exact fun hs => (known hs).link htype
    · exact fun hc => (checks hc).link htype
  · rename_i htype
    refine .finish (unlinkTeamMissionFromArgs_spec _ ?_ ?_) fun _ _ _ => .finished
    · exact fun hs => (known hs).unlink htype
    · exact fun hc => (checks hc).unlink htype
  · exact .failed

/-! ## Members -/

theorem memberTeamFromArgs_known {core : RchCore} {args : Value} {current teamUid : Option String}
    (h : memberTeamFromArgs core args current = .ok teamUid) {uid : String} (huid : teamUid = some uid) :
    current = some uid ∨ core.teams.contains uid = true := by
  unfold memberTeamFromArgs at h
  split at h
  · split at h
    · split at h
      · rw [← Except.ok.inj h] at huid
        rw [← Option.some.inj huid]
        exact .inr ‹_›
      · cases h
    · rw [← Except.ok.inj h] at huid
      cases huid
  · rw [← Except.ok.inj h] at huid
    exact .inl huid

theorem applyTeamMemberFields_keeps {core : RchCore} {args : Value} {member patched : TeamMemberRecord}
    (h : applyTeamMemberFields core args member = .ok patched) :
    patched.uid = member.uid ∧ ∀ teamUid, patched.teamUid = some teamUid →
      member.teamUid = some teamUid ∨ core.teams.contains teamUid = true := by
  obtain ⟨teamUid, hteam, h⟩ := bind_eq_ok.1 h
  obtain ⟨role, -, h⟩ := bind_eq_ok.1 h
  obtain ⟨freq, -, h⟩ := bind_eq_ok.1 h
  obtain ⟨certifications, -, h⟩ := bind_eq_ok.1 h
  rw [← Except.ok.inj h]
  exact ⟨rfl, fun uid huid => memberTeamFromArgs_known hteam huid⟩

theorem upsertTeamMemberFromArgs_spec (args : Value) :
    Spec drawn (upsertTeamMemberFromArgs args) core₀ (Proc.Outcome clean MemberEdit core₀) := by
  unfold upsertTeamMemberFromArgs
  refine Spec.drawUnless fun uid _ => ?_
  refine Proc.Spec.checked fun identity _ => ?_
  refine Spec.clock fun now => ?_
  refine Spec.read ?_
  refine Proc.Spec.checked fun member hmember => ?_
  refine Spec.write (Proc.Spec.done (.single ?_))
  obtain ⟨huid, hteam⟩ := applyTeamMemberFields_keeps hmember
  cases hget : core₀.teamMembers.get uid with
  | none =>
    rw [hget] at huid hteam
    refine .create _ _ huid fun teamUid ht => ?_
    rcases hteam teamUid ht with hnone | hknown
    · cases hnone
    · exact hknown
  | some old =>
    rw [hget] at huid hteam
    exact .patch _ old _ hget huid hteam

omit [Host] in
theorem upsertTeamMemberFromIdentityAnnounce_spec (announce : IdentityAnnounceRecord) :
    Spec drawn (upsertTeamMemberFromIdentityAnnounce announce) core₀
      (Proc.Outcome clean MemberEdit core₀) := by
  unfold upsertTeamMemberFromIdentityAnnounce
  refine Proc.Spec.required fun identity _ => ?_
  refine Spec.read ?_
  refine Spec.clock fun now => ?_
  refine Spec.write (Proc.Spec.done (.single ?_))
  generalize ((core₀.teamMembers.toPairs.find? _).map Prod.fst).getD identity = uid
  cases hget : core₀.teamMembers.get uid with
  | none => exact .create _ _ rfl fun teamUid ht => by cases ht
  | some old => exact .patch _ old _ hget rfl fun teamUid ht => .inl ht

theorem deleteTeamMemberFromArgs_spec (args : Value) :
    Spec drawn (deleteTeamMemberFromArgs args) core₀ (Proc.Outcome clean MemberEdit core₀) := by
  unfold deleteTeamMemberFromArgs
  refine Proc.Spec.checked fun uid _ => ?_
  refine Spec.read ?_
  refine Proc.Spec.required fun member stored => ?_
  refine Spec.read ?_
  refine Proc.Spec.bind (rewriteWhere_spec _ _ _) (fun assets core' h => ?_) fun e core' h => ?_
  · obtain ⟨rfl, _, hr, left⟩ := h
    obtain rfl := Except.ok.inj hr
    exact Spec.write (Proc.Spec.done (.single (.delete _ member _ stored left)))
  · obtain ⟨-, _, hr, -⟩ := h
    cases hr

omit [Host] in
theorem refreshTeamMemberClients_spec (uid : String) {member : TeamMemberRecord}
    (stored : core₀.teamMembers.get uid = some member) :
    Spec drawn (refreshTeamMemberClients uid) core₀ (Proc.Finishes clean MemberEdit core₀) := by
  unfold refreshTeamMemberClients
  refine Spec.read ?_
  refine Spec.read ?_
  refine Proc.Spec.found stored ?_
  refine Spec.clock fun now => ?_
  refine Spec.write ?_
  exact Proc.Spec.pure (.ok (.single (.patch _ member _ stored rfl fun _ ht => .inl ht)) trivial)

theorem linkTeamMemberClientFromArgs_spec (args : Value) :
    Spec drawn (linkTeamMemberClientFromArgs args) core₀ (Proc.Outcome clean MemberEdit core₀) := by
  unfold linkTeamMemberClientFromArgs
  refine Proc.Spec.checked fun uid _ => ?_
  refine Proc.Spec.checked fun identity _ => ?_
  refine Spec.read ?_
  refine Proc.Spec.guarded fun hknown => ?_
  have known : core₀.teamMembers.contains uid = true := by simpa using hknown
  obtain ⟨member, stored⟩ := Dict.contains_iff.1 known
  refine Spec.write ?_
  exact .conclude (.single (.linkClient _ _ known)) (refreshTeamMemberClients_spec uid stored)

/-- The link goes before the member is looked up. -/
theorem unlinkTeamMemberClientFromArgs_spec (args : Value)
    (checks : clean → MemberNamedOrUnlinked core₀ args) :
    Spec drawn (unlinkTeamMemberClientFromArgs args) core₀
      (Proc.Outcome clean MemberEdit core₀) := by
  unfold unlinkTeamMemberClientFromArgs
  refine Proc.Spec.checked fun uid huid => ?_
  refine Proc.Spec.checked fun identity hidentity => ?_
  refine Spec.write ?_
  have edit : MemberEdit core₀ { core₀ with
      teamMemberClientLinks := core₀.teamMemberClientLinks.erase (uid, identity) } := .unlinkClient _
  cases hget : core₀.teamMembers.get uid with
  | some member => exact .conclude (.single edit) (refreshTeamMemberClients_spec uid hget)
  | none =>
    unfold refreshTeamMemberClients
    refine Spec.read ?_
    refine Spec.read ?_
    refine Proc.Spec.require (fun member hmember => ?_) fun _ => .late (.single edit) fun hclean => ?_
    · have hmember : core₀.teamMembers.get uid = some member := hmember
      rw [hget] at hmember
      cases hmember
    · rcases checks hclean uid identity huid hidentity with hpresent | habsent
      · rw [Dict.contains, hget] at hpresent
        cases hpresent
      · rw [HSet.erase_eq_self habsent]

theorem applyRegistryTeamMemberCommand_spec (command : MissionCommandEnvelope)
    (checks : clean → command.commandType = "mission.registry.team_member.client.unlink" →
      MemberNamedOrUnlinked core₀ command.args) :
    Spec drawn (applyRegistryTeamMemberCommand command) core₀
      (Proc.Outcome clean MemberEdit core₀) := by
  unfold applyRegistryTeamMemberCommand
  split
  · exact .finish (upsertTeamMemberFromArgs_spec _) fun _ _ _ => .finished
  · refine Proc.Spec.checked fun uid _ => ?_
    refine Spec.read ?_
    exact Proc.Spec.required fun member _ => .answer
  · exact Spec.read .answer
  · exact .finish (deleteTeamMemberFromArgs_spec _) fun _ _ _ => .finished
  · exact .finish (linkTeamMemberClientFromArgs_spec _) fun _ _ _ => .finished
  · rename_i htype
    refine .finish (unlinkTeamMemberClientFromArgs_spec _ ?_) fun _ _ _ => .finished
    exact fun hc => checks hc htype
  · exact .failed

end
end TelemetryHub
