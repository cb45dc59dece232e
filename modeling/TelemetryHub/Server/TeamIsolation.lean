import Mathlib.Data.List.Induction
import TelemetryHub.Access.Denial
import TelemetryHub.Core.Normal
import TelemetryHub.Server.Commands

/-!
# TEAM isolation

Who is told of what happens in a TEAM. The directory, the legacy list of peers and the
routing of events each pass over the announces in a loop of their own; what one entry asks is
the same for all three.
-/

namespace TelemetryHub

open Lib

/-! ## What the loops keep -/

section Loops

variable {α K V : Type}

theorem maxBy_mem {cmp : α → α → Ordering} {items : List α} {best : α} (chosen : maxBy cmp items = some best) :
    best ∈ items := by
  unfold maxBy at chosen
  induction items using List.reverseRecOn generalizing best with
  | nil => cases chosen
  | append_singleton items item ih =>
    rw [List.foldl_append, List.foldl_cons, List.foldl_nil] at chosen
    rw [List.mem_append, List.mem_singleton]
    split at chosen
    · rename_i other before
      split at chosen
      · cases chosen
        exact .inl (ih before)
      · exact .inr (Option.some.inj chosen).symm
    · exact .inr (Option.some.inj chosen).symm

/-- One entry is kept of every key. -/
structure KeptFrom (entries kept : List (K × V)) : Prop where
  nodup : (kept.map Prod.fst).Nodup
  mem : ∀ key, key ∈ kept.map Prod.fst ↔ ∃ value, (key, value) ∈ entries
  sub : ∀ entry ∈ kept, entry ∈ entries

/-- An entry whose key is kept already is not kept. -/
theorem KeptFrom.skip {entries kept : List (K × V)} {entry : K × V} (before : KeptFrom entries kept)
    (there : entry.1 ∈ kept.map Prod.fst) : KeptFrom (entries ++ [entry]) kept := by
  refine ⟨before.nodup, ?_, fun other mem => List.mem_append_left _ (before.sub other mem)⟩
  intro key
  rw [before.mem]
  constructor
  · rintro ⟨value, mem⟩
    exact ⟨value, List.mem_append_left _ mem⟩
  · rintro ⟨value, mem⟩
    obtain earlier | now := List.mem_append.1 mem
    · exact ⟨value, earlier⟩
    · rw [← List.mem_singleton.1 now, before.mem] at there
      exact there

/-- An entry of another key is kept. -/
theorem KeptFrom.keep {entries kept : List (K × V)} {entry : K × V} (before : KeptFrom entries kept)
    (fresh : entry.1 ∉ kept.map Prod.fst) : KeptFrom (entries ++ [entry]) (kept ++ [entry]) := by
  constructor
  case nodup =>
    rw [List.map_append, List.map_singleton]
    apply List.Nodup.append before.nodup (List.nodup_singleton _)
    intro key there now
    rw [List.mem_singleton.1 now] at there
    exact fresh there
  case mem =>
    intro key
    rw [List.map_append, List.map_singleton, List.mem_append, List.mem_singleton, before.mem]
    constructor
    · rintro (⟨value, mem⟩ | rfl)
      · exact ⟨value, List.mem_append_left _ mem⟩
      · exact ⟨entry.2, List.mem_append_right _ (List.mem_singleton.2 rfl)⟩
    · rintro ⟨value, mem⟩
      obtain earlier | now := List.mem_append.1 mem
      · exact .inl ⟨value, earlier⟩
      · exact .inr (congrArg Prod.fst (List.mem_singleton.1 now))
  case sub =>
    intro other mem
    obtain earlier | now := List.mem_append.1 mem
    · exact List.mem_append_left _ (before.sub other earlier)
    · exact List.mem_append_right _ now

theorem keptFrom_firstByKey [BEq K] [LawfulBEq K] (entries : List (K × V)) :
    KeptFrom entries (entries.foldl (fun kept entry =>
      if kept.any fun other => other.1 == entry.1 then kept else kept ++ [entry]) []) := by
  induction entries using List.reverseRecOn with
  | nil => exact ⟨List.nodup_nil, by simp, nofun⟩
  | append_singleton entries entry before =>
    rw [List.foldl_append, List.foldl_cons, List.foldl_nil]
    split
    · rename_i there
      obtain ⟨other, mem, same⟩ := List.any_eq_true.1 there
      exact before.skip (List.mem_map.2 ⟨other, mem, eq_of_beq same⟩)
    · rename_i absent
      apply before.keep
      intro there
      obtain ⟨other, mem, same⟩ := List.mem_map.1 there
      exact absent (List.any_eq_true.2 ⟨other, mem, beq_iff_eq.2 same⟩)

/-- The values of `firstByKey` are those of the keys, each once. -/
theorem firstByKey_keys [BEq K] [LawfulBEq K] {β : Type} (entries : List (K × V)) (f : V → β) (g : K → β)
    (agree : ∀ entry ∈ entries, f entry.2 = g entry.1) :
    ∃ keys : List K, keys.Nodup ∧ (∀ key, key ∈ keys ↔ ∃ value, (key, value) ∈ entries) ∧
      (RchCore.firstByKey entries).map f = keys.map g := by
  have all := keptFrom_firstByKey entries
  refine ⟨_, all.nodup, all.mem, ?_⟩
  rw [RchCore.firstByKey, List.map_map, List.map_map]
  exact List.map_congr_left fun entry mem => agree entry (all.sub entry mem)

end Loops

namespace RchCore

variable (core : RchCore)

/-! ## The announces of the legacy list -/

/-- The announces that qualify an identity for a list of peers, in the order of the map. -/
def qualifying (qualifies : String → IdentityAnnounceRecord → Bool) (identity : String)
    (records : List IdentityAnnounceRecord) : List IdentityAnnounceRecord :=
  records.filter fun record => announceIdentity record == some identity && qualifies identity record

theorem qualifying_append {qualifies : String → IdentityAnnounceRecord → Bool} {identity : String}
    {records : List IdentityAnnounceRecord} {record : IdentityAnnounceRecord} :
    qualifying qualifies identity (records ++ [record]) = qualifying qualifies identity records ++
      if announceIdentity record = some identity ∧ qualifies identity record = true then [record] else [] := by
  unfold qualifying
  rw [List.filter_append, List.filter_singleton]
  simp

/-- Of several announces of an identity the first from the destination itself, else the first. -/
def shownOf (records : List IdentityAnnounceRecord) : Option IdentityAnnounceRecord :=
  (records.find? fun record => announceSource record == "destination").or records.head?

theorem shownOf_append {records : List IdentityAnnounceRecord} {record : IdentityAnnounceRecord} :
    shownOf (records ++ [record]) =
      match shownOf records with
      | none => some record
      | some shown =>
        if announceSource record = "destination" ∧ announceSource shown ≠ "destination" then some record else some shown := by
  unfold shownOf
  rw [List.find?_append, List.head?_append]
  cases found : records.find? fun record => announceSource record == "destination" with
  | some shown =>
    have destination := List.find?_some found
    simp only [beq_iff_eq] at destination
    simp [destination]
  | none =>
    cases records with
    | nil => by_cases own : announceSource record = "destination" <;> simp [own]
    | cons first rest =>
      have indirect := List.find?_eq_none.1 found first List.mem_cons_self
      simp only [beq_iff_eq] at indirect
      by_cases own : announceSource record = "destination"
      · simp [own, indirect]
      · simp [own]

/-- What one announce makes of the candidate for an identity. -/
theorem candidate_get (qualifies : String → IdentityAnnounceRecord → Bool) (identity : String)
    (candidates : Dict String (IdentityAnnounceRecord × String)) (record : IdentityAnnounceRecord) :
    (match announceIdentity record with
      | none => candidates
      | some identity =>
        if !qualifies identity record then candidates
        else
          let source := announceSource record
          let replace := (candidates.get identity).all fun existing : IdentityAnnounceRecord × String =>
            source = "destination" && existing.2 != "destination"
          if replace then candidates.insert identity (record, source) else candidates).get identity =
      if announceIdentity record = some identity ∧ qualifies identity record = true then
        if (candidates.get identity).all fun existing : IdentityAnnounceRecord × String =>
            announceSource record = "destination" && existing.2 != "destination" then
          some (record, announceSource record)
        else candidates.get identity
      else candidates.get identity := by
  cases own : announceIdentity record with
  | none => simp
  | some other =>
    by_cases same : other = identity
    · subst same
      by_cases fits : qualifies other record = true
      · simp only [fits, Bool.not_true, Bool.false_eq_true, if_false, and_self, if_true]
        split
        · exact Dict.get_insert_self ..
        · rfl
      · simp [fits]
    · have apart : ¬(some other = some identity ∧ qualifies identity record = true) :=
        fun both => same (Option.some.inj both.1)
      rw [if_neg apart]
      dsimp only
      split
      · rfl
      · split
        · exact Dict.get_insert_ne (Ne.symm same)
        · rfl

/-- What a list of peers shows for an identity. -/
theorem announceCandidates_get (qualifies : String → IdentityAnnounceRecord → Bool) (identity : String) :
    (core.announceCandidates qualifies).get identity =
      (shownOf (qualifying qualifies identity core.identityAnnounces.values)).map fun record =>
        (record, announceSource record) := by
  unfold announceCandidates
  induction core.identityAnnounces.values using List.reverseRecOn with
  | nil => rfl
  | append_singleton records record ih =>
    rw [List.foldl_append, List.foldl_cons, List.foldl_nil]
    refine (candidate_get qualifies identity _ record).trans ?_
    rw [ih, qualifying_append]
    by_cases fits : announceIdentity record = some identity ∧ qualifies identity record = true
    · rw [if_pos fits, if_pos fits, shownOf_append]
      cases shownOf (qualifying qualifies identity records) with
      | none => simp
      | some before =>
        by_cases replace : announceSource record = "destination" ∧ announceSource before ≠ "destination"
        · simp [replace]
        · simp only [Option.map_some, Option.all_some, Bool.and_eq_true, decide_eq_true_eq, bne_iff_ne, if_neg replace]
    · rw [if_neg fits, if_neg fits, List.append_nil]

/-! ## Isolation -/

/-- A hash is banned or blackholed, in whatever form the record of it was stored. -/
def Moderated (hash : String) : Prop :=
  ∃ key state, core.identityStates.get key = some state ∧ normalizeHash key = some hash ∧
    (state.isBanned || state.isBlackholed) = true

/-- A member of the team has the identity: as its own, as one of its clients, or by a link. -/
def InTeam (teamUid identity : String) : Prop :=
  ∃ member ∈ core.teamMembers.values, member.teamUid = some teamUid ∧ identity ∈ core.memberIdentities member

/-- The source speaks for an identity that a member of the team has. -/
def SharesTeam (source teamUid : String) : Prop :=
  ∃ requester, core.canonicalIdentityForRemSource source = some requester ∧ core.InTeam teamUid requester

/-- The destination of an announce of the identity. -/
def announcedDestination (identity : String) (record : IdentityAnnounceRecord) : String :=
  (normalizeHash record.destinationHash).getD identity

/-- The announce makes the identity a REM peer. -/
structure RemAnnounceOf (identity : String) (record : IdentityAnnounceRecord) : Prop where
  mem : record ∈ core.identityAnnounces.values
  announced : announceIdentity record = some identity
  client : isRemClient record = true
  capable : identityAnnounceHasRemCapabilities record = true

/-- The source may learn of the identity and of the destination as of one in the team. -/
structure Admitted (source teamUid identity destination : String) : Prop where
  canonical : (canonicalTeamForUid teamUid).isSome = true
  shared : core.SharesTeam source teamUid
  member : core.InTeam teamUid identity
  announced : ∃ record, core.RemAnnounceOf identity record
  other_identity : core.canonicalIdentityForRemSource source ≠ some identity
  other_destination : core.canonicalIdentityForRemSource source ≠ some destination ∧ normalizeHash source ≠ some destination
  unmoderated : ¬ core.Moderated identity ∧ ¬ core.Moderated destination

/-- What the routing of a team owes its source. -/
structure RoutingIsolated (source teamUid : String) (destinations : List String) : Prop where
  admitted : ∀ destination ∈ destinations, ∃ identity record, core.Admitted source teamUid identity destination ∧
    core.RemAnnounceOf identity record ∧ destination = announcedDestination identity record
  strangers : ¬ core.SharesTeam source teamUid → destinations = []
  once : destinations.Nodup

/-- What a list of peers owes the source: every entry is of an identity in a team it shares. -/
def PeersIsolated (source : String) (entries : List Value) : Prop :=
  ∀ entry ∈ entries, ∃ teamUid identity destination, core.Admitted source teamUid identity destination ∧
    entry.get "identity" = some (toValue identity) ∧ entry.get "destination_hash" = some (toValue destination) ∧
    ∀ shown, entry.get "team_uid" = some shown → shown = toValue teamUid

/-- The entries of a payload under a key. -/
def listed (payload : Value) (key : String) : List Value := ((payload.get key).bind Value.asArray).getD []

/-! ## What an entry asks -/

/-- The checks of an entry of the directory. -/
structure Passes (source identity destination : String) : Prop where
  other_identity : core.canonicalIdentityForRemSource source ≠ some identity
  other_destination : normalizeHash source ≠ some destination
  unblocked : core.identityBlocked identity = false ∧ core.identityBlocked destination = false
  reached : ∃ record, core.bestRemAnnounceForIdentity identity = some record ∧
    announcedDestination identity record = destination

/-- A member of a canonical team that the source shares has the identity, and it passes the
checks of the directory at the destination. -/
structure Reaches (source teamUid memberUid identity destination : String) : Prop where
  canonical : (canonicalTeamForUid teamUid).isSome = true
  shared : teamUid ∈ core.sharedTeamUidsForRemSource source
  member : ∃ member ∈ core.teamMembers.values, member.teamUid = some teamUid ∧ member.uid = memberUid ∧
    identity ∈ core.memberIdentities member
  passes : core.Passes source identity destination

variable {core}

theorem bestRemAnnounce_of {identity : String} {record : IdentityAnnounceRecord}
    (best : core.bestRemAnnounceForIdentity identity = some record) : core.RemAnnounceOf identity record := by
  have mem := maxBy_mem best
  rw [List.mem_filter, Bool.and_eq_true, Bool.and_eq_true, beq_iff_eq] at mem
  exact ⟨mem.1, mem.2.1.1, mem.2.1.2, mem.2.2⟩

theorem canonicalIdentity_normal {source identity : String}
    (canonical : core.canonicalIdentityForRemSource source = some identity) : normalizeHash identity = some identity := by
  unfold canonicalIdentityForRemSource at canonical
  obtain ⟨text, normal, found⟩ := Option.bind_eq_some_iff.1 canonical
  rw [Option.or_eq_some_iff] at found
  obtain announced | ⟨-, own⟩ := found
  · obtain ⟨record, -, told⟩ := Option.bind_eq_some_iff.1 announced
    obtain ⟨hash, -, of⟩ := Option.bind_eq_some_iff.1 told
    exact normalizeHash_normal of
  · rw [← Option.some.inj own]
    exact normalizeHash_normal normal

/-- A member that has an identity has it among its own. -/
theorem mem_memberIdentities {member : TeamMemberRecord} {identity : String} (normal : normalizeHash identity = some identity)
    (has : core.memberHasIdentity member identity = true) : identity ∈ core.memberIdentities member := by
  unfold memberHasIdentity at has
  rw [Bool.or_eq_true, Bool.or_eq_true] at has
  unfold memberIdentities
  rw [List.mem_dedup, List.mem_filterMap]
  obtain (own | client) | linked := has
  · exact ⟨member.rnsIdentity, by simp, eq_of_beq own⟩
  · obtain ⟨client, mem, same⟩ := List.any_eq_true.1 client
    refine ⟨client, ?_, eq_of_beq same⟩
    exact List.mem_append_left _ (List.mem_cons_of_mem _ mem)
  · refine ⟨identity, ?_, normal⟩
    rw [HSet.contains_iff, HSet.mem_def] at linked
    exact List.mem_append_right _ (List.mem_map.2 ⟨_, List.mem_filter.2 ⟨linked, by simp⟩, rfl⟩)

theorem sharesTeam_of_shared {source teamUid : String} (shared : teamUid ∈ core.sharedTeamUidsForRemSource source) :
    core.SharesTeam source teamUid := by
  unfold sharedTeamUidsForRemSource at shared
  cases canonical : core.canonicalIdentityForRemSource source with
  | none =>
    rw [canonical] at shared
    cases shared
  | some requester =>
    rw [canonical] at shared
    simp only [List.mem_dedup, List.mem_filterMap, List.mem_filter] at shared
    obtain ⟨member, ⟨mem, has⟩, team⟩ := shared
    exact ⟨requester, canonical, member, mem, team, mem_memberIdentities (canonicalIdentity_normal canonical) has⟩

/-! ## The directory -/

section Directory

variable [Host] {modes : List (String × String)} {cutoffMs : Int} {source teamUid identity : String}
  {member : TeamMemberRecord}

/-- An entry of the directory has passed its checks, and shows what it is of. -/
theorem directoryEntry_passes {entry : (String × String × String × String) × Value}
    (made : core.directoryEntry (core.canonicalIdentityForRemSource source) (normalizeHash source) modes cutoffMs teamUid
      member identity = some entry) :
    ∃ destination, core.Passes source identity destination ∧
      entry.1 = (teamUid, member.uid, identity, destination) ∧ entry.2.get "team_uid" = some (toValue teamUid) ∧
      entry.2.get "identity" = some (toValue identity) ∧
      entry.2.get "destination_hash" = some (toValue destination) := by
  unfold directoryEntry at made
  split at made
  · cases made
  · rename_i open'
    rw [Bool.or_eq_true, decide_eq_true_eq, not_or, Bool.not_eq_true] at open'
    obtain ⟨record, best, made⟩ := Option.bind_eq_some_iff.1 made
    dsimp only at made
    split at made
    · cases made
    · rename_i reachable
      rw [Bool.or_eq_true, decide_eq_true_eq, not_or, Bool.not_eq_true] at reachable
      cases made
      exact ⟨_, ⟨open'.1, reachable.1, ⟨open'.2, reachable.2⟩, record, best, rfl⟩, rfl, rfl, rfl, rfl⟩

/-- What passes the checks has an entry. -/
theorem exists_directoryEntry (modes : List (String × String)) (cutoffMs : Int) (teamUid : String)
    (member : TeamMemberRecord) {destination : String} (passes : core.Passes source identity destination) :
    ∃ value, core.directoryEntry (core.canonicalIdentityForRemSource source) (normalizeHash source) modes cutoffMs teamUid
      member identity = some ((teamUid, member.uid, identity, destination), value) := by
  obtain ⟨other, away, ⟨unblocked, unblocked'⟩, record, best, rfl⟩ := passes
  have reachable : ¬(decide (normalizeHash source = some ((normalizeHash record.destinationHash).getD identity)) ||
      core.identityBlocked ((normalizeHash record.destinationHash).getD identity)) = true := by
    unfold announcedDestination at away unblocked'
    simp [away, unblocked']
  unfold directoryEntry
  rw [if_neg (by simp [other, unblocked]), best]
  simp only [bind, Option.bind_some, if_neg reachable]
  exact ⟨_, rfl⟩

variable (core) in
/-- The entries of the directory before one is kept of each. -/
def directoryEntries (source : String) (teamUids : List String) (modes : List (String × String)) (cutoffMs : Int) :
    List ((String × String × String × String) × Value) :=
  core.teamMembers.values.flatMap fun member =>
    match member.teamUid with
    | none => []
    | some teamUid =>
      if !teamUids.contains teamUid || (canonicalTeamForUid teamUid).isNone then []
      else (core.memberIdentities member).filterMap
        (core.directoryEntry (core.canonicalIdentityForRemSource source) (normalizeHash source) modes cutoffMs teamUid member)

theorem directoryMembers_eq {teamUids : List String} :
    core.durableTeamDirectoryMembers teamUids (core.canonicalIdentityForRemSource source) (normalizeHash source) modes
      cutoffMs = sortByFields ["team_uid", "team_member_uid", "identity"]
        (firstByKey (core.directoryEntries source teamUids modes cutoffMs)) := rfl

theorem mem_directoryEntries {teamUids : List String} {entry : (String × String × String × String) × Value} :
    entry ∈ core.directoryEntries source teamUids modes cutoffMs ↔
      ∃ member ∈ core.teamMembers.values, ∃ teamUid ∈ teamUids, ∃ identity ∈ core.memberIdentities member,
        member.teamUid = some teamUid ∧ (canonicalTeamForUid teamUid).isSome = true ∧
        core.directoryEntry (core.canonicalIdentityForRemSource source) (normalizeHash source) modes cutoffMs teamUid member
          identity = some entry := by
  unfold directoryEntries
  rw [List.mem_flatMap]
  constructor
  · rintro ⟨member, mem, there⟩
    cases team : member.teamUid with
    | none =>
      rw [team] at there
      cases there
    | some teamUid =>
      rw [team] at there
      dsimp only at there
      split at there
      · cases there
      · rename_i listed
        obtain ⟨identity, of, made⟩ := List.mem_filterMap.1 there
        simp only [Bool.or_eq_true, Bool.not_eq_true', List.contains_eq_mem, decide_eq_false_iff_not, not_or, not_not,
          Option.isNone_iff_eq_none] at listed
        exact ⟨member, mem, teamUid, listed.1, identity, of, team, Option.isSome_iff_ne_none.2 listed.2, made⟩
  · rintro ⟨member, mem, teamUid, listed, identity, of, team, canonical, made⟩
    refine ⟨member, mem, ?_⟩
    rw [team]
    dsimp only
    rw [if_neg (by simp [listed, Option.isSome_iff_ne_none.1 canonical])]
    exact List.mem_filterMap.2 ⟨identity, of, made⟩

/-- The keys of the directory are what reaches its source in the teams. -/
theorem directoryEntries_key {teamUids : List String} (shared : ∀ teamUid ∈ teamUids, teamUid ∈ core.sharedTeamUidsForRemSource source)
    {key : String × String × String × String} :
    (∃ value, (key, value) ∈ core.directoryEntries source teamUids modes cutoffMs) ↔
      key.1 ∈ teamUids ∧ core.Reaches source key.1 key.2.1 key.2.2.1 key.2.2.2 := by
  constructor
  · rintro ⟨value, mem⟩
    obtain ⟨member, there, teamUid, listed, identity, of, team, canonical, made⟩ := mem_directoryEntries.1 mem
    obtain ⟨destination, passes, key, -⟩ := directoryEntry_passes made
    dsimp only at key
    subst key
    exact ⟨listed, canonical, shared teamUid listed, ⟨member, there, team, rfl, of⟩, passes⟩
  · rintro ⟨listed, canonical, -, ⟨member, there, team, uid, of⟩, passes⟩
    obtain ⟨value, made⟩ := exists_directoryEntry modes cutoffMs key.1 member passes
    rw [uid] at made
    exact ⟨value, mem_directoryEntries.2 ⟨member, there, key.1, listed, key.2.2.1, of, team, canonical, made⟩⟩

/-- What an entry of the directory shows of its key. -/
theorem directoryEntries_shows {teamUids : List String} {entry : (String × String × String × String) × Value}
    (mem : entry ∈ core.directoryEntries source teamUids modes cutoffMs) :
    entry.2.get "team_uid" = some (toValue entry.1.1) ∧ entry.2.get "identity" = some (toValue entry.1.2.2.1) ∧
      entry.2.get "destination_hash" = some (toValue entry.1.2.2.2) := by
  obtain ⟨member, -, teamUid, -, identity, -, -, -, made⟩ := mem_directoryEntries.1 mem
  obtain ⟨destination, -, key, team, own, reached⟩ := directoryEntry_passes made
  rw [key]
  exact ⟨team, own, reached⟩

/-- The destinations of the directory are those of its keys, in some order. -/
theorem directory_destinations (modes : List (String × String)) (cutoffMs : Int) {teamUids : List String}
    (shared : ∀ teamUid ∈ teamUids, teamUid ∈ core.sharedTeamUidsForRemSource source) :
    ∃ keys : List (String × String × String × String), keys.Nodup ∧
      (∀ key, key ∈ keys ↔ key.1 ∈ teamUids ∧ core.Reaches source key.1 key.2.1 key.2.2.1 key.2.2.2) ∧
      ((core.durableTeamDirectoryMembers teamUids (core.canonicalIdentityForRemSource source) (normalizeHash source) modes
        cutoffMs).filterMap fun member => (member.get "destination_hash").bind Value.asStr).Perm
        (keys.map fun key => key.2.2.2) := by
  obtain ⟨keys, nodup, mem, same⟩ := firstByKey_keys (core.directoryEntries source teamUids modes cutoffMs)
    (fun value => (value.get "destination_hash").bind Value.asStr) (fun key => some key.2.2.2) (by
      intro entry there
      rw [(directoryEntries_shows there).2.2]
      rfl)
  refine ⟨keys, nodup, fun key => (mem key).trans (directoryEntries_key shared), ?_⟩
  have sorted := (List.perm_insertionSort (fun left right : Value => (["team_uid", "team_member_uid", "identity"].foldl
    (fun order key => order.then (compare (fieldText left key) (fieldText right key))) .eq : Ordering) ≠ .gt)
    (firstByKey (core.directoryEntries source teamUids modes cutoffMs))).filterMap
      fun member => (member.get "destination_hash").bind Value.asStr
  have mapped := congrArg (List.filterMap id) same
  rw [List.filterMap_map, List.filterMap_map] at mapped
  have destinations : keys.filterMap (id ∘ fun key => some key.2.2.2) = keys.map fun key => key.2.2.2 :=
    congrFun (List.filterMap_eq_map (f := fun key : String × String × String × String => key.2.2.2)) keys
  rw [destinations] at mapped
  rw [directoryMembers_eq]
  exact sorted.trans (List.Perm.of_eq mapped)

/-- What reaches the source has an entry in the directory. -/
theorem directory_has {teamUids : List String} {teamUid memberUid destination : String} (listed : teamUid ∈ teamUids)
    (shared : ∀ teamUid ∈ teamUids, teamUid ∈ core.sharedTeamUidsForRemSource source)
    (reaches : core.Reaches source teamUid memberUid identity destination) :
    ∃ entry ∈ core.durableTeamDirectoryMembers teamUids (core.canonicalIdentityForRemSource source) (normalizeHash source)
      modes cutoffMs, entry.get "identity" = some (toValue identity) ∧
        entry.get "destination_hash" = some (toValue destination) := by
  obtain ⟨keys, -, mem, same⟩ := firstByKey_keys (core.directoryEntries source teamUids modes cutoffMs)
    (fun value => (value.get "identity", value.get "destination_hash"))
    (fun key => (some (toValue key.2.2.1), some (toValue key.2.2.2))) (by
      intro entry there
      have shows := (directoryEntries_shows there).2
      rw [shows.1, shows.2])
  have there := (mem (teamUid, memberUid, identity, destination)).2 ((directoryEntries_key shared).2 ⟨listed, reaches⟩)
  have shown := List.mem_map_of_mem (f := fun key : String × String × String × String =>
    (some (toValue key.2.2.1), some (toValue key.2.2.2))) there
  rw [← same] at shown
  obtain ⟨entry, kept, fields⟩ := List.mem_map.1 shown
  rw [Prod.mk.injEq] at fields
  rw [directoryMembers_eq]
  exact ⟨entry, mem_sortBy.2 kept, fields⟩

/-- An entry of the directory is of what reaches the source. -/
theorem directory_of {teamUids : List String} {entry : Value}
    (shared : ∀ teamUid ∈ teamUids, teamUid ∈ core.sharedTeamUidsForRemSource source)
    (mem : entry ∈ core.durableTeamDirectoryMembers teamUids (core.canonicalIdentityForRemSource source)
      (normalizeHash source) modes cutoffMs) :
    ∃ teamUid ∈ teamUids, ∃ memberUid identity destination,
      core.Reaches source teamUid memberUid identity destination ∧ entry.get "team_uid" = some (toValue teamUid) ∧
      entry.get "identity" = some (toValue identity) ∧ entry.get "destination_hash" = some (toValue destination) := by
  rw [directoryMembers_eq] at mem
  obtain ⟨kept, there, rfl⟩ := List.mem_map.1 (mem_sortBy.1 mem)
  have listed := (keptFrom_firstByKey (core.directoryEntries source teamUids modes cutoffMs)).sub kept there
  obtain ⟨teamUid, reaches⟩ := (directoryEntries_key shared).1 ⟨kept.2, listed⟩
  exact ⟨_, teamUid, _, _, _, reaches, directoryEntries_shows listed⟩

end Directory

/-! ## The legacy list -/

section Items

variable [Host] {source identity destination : String} {cutoffMs : Int}

variable (core) in
/-- What the legacy list asks of an announce. -/
def peerQualifies (source : String) (cutoffMs : Int) (identity : String) (record : IdentityAnnounceRecord) : Bool :=
  (core.teamMemberIdentitiesForTeams (core.sharedTeamUidsForRemSource source)).contains identity &&
    core.canonicalIdentityForRemSource source != some identity &&
    normalizeHash source != normalizeHash record.destinationHash &&
    cutoffMs ≤ record.lastSeenTsMs && isRemClient record &&
    identityAnnounceHasRemCapabilities record && !core.identityBlocked identity

/-- The destination the legacy list shows of an announce. -/
def shownDestination (identity : String) (record : IdentityAnnounceRecord) : String :=
  if announceSource record = "destination" then (normalizeHash record.destinationHash).getD identity else identity

variable (core) in
/-- The legacy list shows the identity at the destination. -/
def Shows (source : String) (cutoffMs : Int) (identity destination : String) : Prop :=
  ∃ record, shownOf (qualifying (core.peerQualifies source cutoffMs) identity core.identityAnnounces.values) = some record ∧
    shownDestination identity record = destination

omit [Host] in
theorem shownOf_mem {records : List IdentityAnnounceRecord} {record : IdentityAnnounceRecord}
    (shown : shownOf records = some record) : record ∈ records := by
  unfold shownOf at shown
  obtain found | ⟨-, first⟩ := Option.or_eq_some_iff.1 shown
  · exact List.mem_of_find?_eq_some found
  · exact List.mem_of_head? first

omit [Host] in
/-- What is shown is announced by a REM peer. -/
theorem Shows.announced (shows : core.Shows source cutoffMs identity destination) : ∃ record, core.RemAnnounceOf identity record := by
  obtain ⟨record, shown, -⟩ := shows
  have mem := List.mem_filter.1 (shownOf_mem shown)
  rw [Bool.and_eq_true, beq_iff_eq] at mem
  obtain ⟨there, own, fits⟩ := mem
  simp only [peerQualifies, Bool.and_eq_true] at fits
  exact ⟨record, there, own, fits.1.1.2, fits.1.2⟩

omit [Host] in
theorem Shows.other (shows : core.Shows source cutoffMs identity destination) :
    core.canonicalIdentityForRemSource source ≠ some identity := by
  obtain ⟨record, shown, -⟩ := shows
  have mem := List.mem_filter.1 (shownOf_mem shown)
  rw [Bool.and_eq_true, beq_iff_eq] at mem
  have fits := mem.2.2
  simp only [peerQualifies, Bool.and_eq_true, bne_iff_ne] at fits
  exact fits.1.1.1.1.1.2

/-- The cutoff of a run. -/
def cutoffOf (world : World) : Int := max (-(2 ^ 63)) ((world.clock 0).timestampMillis - Host.recentAnnounceWindowMs)

/-- The registry of a source: its directory and its legacy list. -/
theorem registry_run (core : RchCore) (source : String) (world : World) :
    ∃ payload, ((core.remTeamPeerRegistryPayload source).run world).1 = .ok payload ∧
      listed payload "members" = core.durableTeamDirectoryMembers
        ((core.sharedTeamUidsForRemSource source).filter fun teamUid => (canonicalTeamForUid teamUid).isSome)
        (core.canonicalIdentityForRemSource source) (normalizeHash source) (core.remModes "autonomous") (cutoffOf world) ∧
      listed payload "items" = sortByFields ["identity"]
        ((core.announceCandidates (core.peerQualifies source (cutoffOf world))).toPairs.map fun (identity, record, from') =>
          peerItem (remModeForAnnounce (core.remModes "autonomous") identity record) identity record from') :=
  ⟨_, rfl, rfl, rfl⟩

/-- The routing of a team is by its directory. -/
theorem routing_run (core : RchCore) (source teamUid : String) (world : World) :
    ((core.remTeamRoutingDestinations source teamUid).run world).1 = .ok
      (if (canonicalTeamForUid teamUid).isNone || !(core.sharedTeamUidsForRemSource source).contains teamUid then []
      else (core.durableTeamDirectoryMembers [teamUid] (core.canonicalIdentityForRemSource source) (normalizeHash source)
        (core.remModes "") (cutoffOf world)).filterMap fun member => (member.get "destination_hash").bind Value.asStr) := by
  unfold remTeamRoutingDestinations
  split
  · rfl
  · rfl

/-- The items of the legacy list are what it shows. -/
theorem items_shows {entry : Value} :
    entry ∈ sortByFields ["identity"] ((core.announceCandidates (core.peerQualifies source cutoffMs)).toPairs.map
      fun (identity, record, from') =>
        peerItem (remModeForAnnounce (core.remModes "autonomous") identity record) identity record from') →
    ∃ identity destination, core.Shows source cutoffMs identity destination ∧
      entry.get "identity" = some (toValue identity) ∧ entry.get "destination_hash" = some (toValue destination) ∧
      entry.get "team_uid" = none := by
  intro mem
  obtain ⟨⟨identity, record, from'⟩, there, rfl⟩ := List.mem_map.1 (mem_sortBy.1 mem)
  rw [Dict.mem_toPairs, announceCandidates_get, Option.map_eq_some_iff] at there
  obtain ⟨record, shown, same⟩ := there
  cases same
  exact ⟨identity, _, ⟨record, shown, rfl⟩, rfl, rfl, rfl⟩

/-- What the legacy list shows is among its items. -/
theorem items_has (shows : core.Shows source cutoffMs identity destination) :
    ∃ entry ∈ sortByFields ["identity"] ((core.announceCandidates (core.peerQualifies source cutoffMs)).toPairs.map
      fun (identity, record, from') =>
        peerItem (remModeForAnnounce (core.remModes "autonomous") identity record) identity record from'),
      entry.get "identity" = some (toValue identity) ∧ entry.get "destination_hash" = some (toValue destination) := by
  obtain ⟨record, shown, rfl⟩ := shows
  have there : (identity, record, announceSource record) ∈
      (core.announceCandidates (core.peerQualifies source cutoffMs)).toPairs := by
    rw [Dict.mem_toPairs, announceCandidates_get, shown]
    rfl
  exact ⟨_, mem_sortBy.2 (List.mem_map_of_mem there), rfl, rfl⟩

end Items

/-! ## When a team is isolated -/

section Isolation

variable [ServerHost] {source teamUid : String} {world : World}

variable (core) in
/-- The routing of a team, the fanout of an event by it, and both lists of the registry keep
to the team. -/
structure TeamIsolated (world : World) (source teamUid : String) : Prop where
  routing : ∃ destinations, ((core.remTeamRoutingDestinations source teamUid).run world).1 = .ok destinations ∧
    core.RoutingIsolated source teamUid destinations ∧
    ∀ response, fanoutMissionSyncResponseToTeam response (some teamUid) (some destinations) =
      match response.event with
      | none => pure ()
      | some event =>
        destinations.forM (fanoutToMember response event (missionUidFromResponseFields response) (some teamUid))
  registry : ∃ payload, ((core.remTeamPeerRegistryPayload source).run world).1 = .ok payload ∧
    core.PeersIsolated source (listed payload "members") ∧ core.PeersIsolated source (listed payload "items")

variable (core) in
/-- Nothing that reaches the source is moderated under another form of its hash, nothing the
legacy list shows is moderated or of no canonical team, none of it is at the identity of the
source, and no destination is reached twice in the team. -/
structure TeamSound (world : World) (source teamUid : String) : Prop where
  directory : ∀ {team memberUid identity destination}, core.Reaches source team memberUid identity destination →
    (¬ core.Moderated identity ∧ ¬ core.Moderated destination) ∧ core.canonicalIdentityForRemSource source ≠ some destination
  single : ∀ {memberUid identity memberUid' identity' destination},
    core.Reaches source teamUid memberUid identity destination →
    core.Reaches source teamUid memberUid' identity' destination → memberUid = memberUid' ∧ identity = identity'
  items : ∀ {identity destination}, core.Shows source (cutoffOf world) identity destination →
    (∃ team, (canonicalTeamForUid team).isSome = true ∧ core.SharesTeam source team ∧ core.InTeam team identity) ∧
    (¬ core.Moderated identity ∧ ¬ core.Moderated destination) ∧
    core.canonicalIdentityForRemSource source ≠ some destination ∧ normalizeHash source ≠ some destination

theorem Reaches.admitted {memberUid identity destination : String} (sound : core.TeamSound world source teamUid) {team : String}
    (reaches : core.Reaches source team memberUid identity destination) :
    core.Admitted source team identity destination := by
  obtain ⟨unmoderated, other⟩ := sound.directory reaches
  obtain ⟨member, mem, of, -, has⟩ := reaches.member
  obtain ⟨record, best, -⟩ := reaches.passes.reached
  exact ⟨reaches.canonical, sharesTeam_of_shared reaches.shared, ⟨member, mem, of, has⟩, ⟨record, bestRemAnnounce_of best⟩,
    reaches.passes.other_identity, ⟨other, reaches.passes.other_destination⟩, unmoderated⟩

/-- The routing of a sound team is isolated. -/
theorem routing_isolated (sound : core.TeamSound world source teamUid) :
    ∃ destinations, ((core.remTeamRoutingDestinations source teamUid).run world).1 = .ok destinations ∧
      core.RoutingIsolated source teamUid destinations := by
  refine ⟨_, routing_run core source teamUid world, ?_⟩
  split
  · exact ⟨nofun, fun _ => rfl, List.nodup_nil⟩
  · rename_i routed
    rw [Bool.or_eq_true, Bool.not_eq_true', not_or, Bool.not_eq_false, List.contains_iff_mem] at routed
    have shared : ∀ team ∈ [teamUid], team ∈ core.sharedTeamUidsForRemSource source := by
      intro team mem
      rw [List.mem_singleton.1 mem]
      exact routed.2
    obtain ⟨keys, nodup, mem, perm⟩ := directory_destinations (core.remModes "") (cutoffOf world) shared
    constructor
    case admitted =>
      intro destination there
      obtain ⟨key, keyMem, rfl⟩ := List.mem_map.1 (perm.mem_iff.1 there)
      obtain ⟨same, reaches⟩ := (mem key).1 keyMem
      rw [List.mem_singleton.1 same] at reaches
      obtain ⟨record, best, destination⟩ := reaches.passes.reached
      exact ⟨_, record, reaches.admitted sound, bestRemAnnounce_of best, destination.symm⟩
    case strangers => exact fun stranger => absurd (sharesTeam_of_shared routed.2) stranger
    case once =>
      rw [perm.nodup_iff]
      apply List.Nodup.map_on _ nodup
      intro key keyMem key' keyMem' same
      obtain ⟨of, reaches⟩ := (mem key).1 keyMem
      obtain ⟨of', reaches'⟩ := (mem key').1 keyMem'
      have team := List.mem_singleton.1 of
      have team' := List.mem_singleton.1 of'
      rw [team] at reaches
      rw [team', ← same] at reaches'
      have both := sound.single reaches reaches'
      exact Prod.ext (team.trans team'.symm) (Prod.ext both.1 (Prod.ext both.2 same))

/-- The lists of the registry of a sound team are isolated. -/
theorem registry_isolated (sound : core.TeamSound world source teamUid) :
    ∃ payload, ((core.remTeamPeerRegistryPayload source).run world).1 = .ok payload ∧
      core.PeersIsolated source (listed payload "members") ∧ core.PeersIsolated source (listed payload "items") := by
  obtain ⟨payload, run, members, items⟩ := registry_run core source world
  refine ⟨payload, run, ?_, ?_⟩
  · intro entry mem
    rw [members] at mem
    obtain ⟨team, -, memberUid, identity, destination, reaches, shownTeam, own, reached⟩ :=
      directory_of (fun team mem => (List.mem_filter.1 mem).1) mem
    refine ⟨team, identity, destination, reaches.admitted sound, own, reached, ?_⟩
    intro shown there
    rw [shownTeam] at there
    exact (Option.some.inj there).symm
  · intro entry mem
    rw [items] at mem
    obtain ⟨identity, destination, shows, own, reached, none'⟩ := items_shows mem
    obtain ⟨⟨team, canonical, shared, of⟩, unmoderated, other, away⟩ := sound.items shows
    refine ⟨team, identity, destination, ⟨canonical, shared, of, shows.announced, shows.other, ⟨other, away⟩, unmoderated⟩,
      own, reached, ?_⟩
    intro shown there
    rw [none'] at there
    cases there

omit [ServerHost] in
/-- What a list of peers shows is admitted. -/
theorem PeersIsolated.admitted {entries : List Value} {identity destination : String} (isolated : core.PeersIsolated source entries)
    (there : ∃ entry ∈ entries, entry.get "identity" = some (toValue identity) ∧
      entry.get "destination_hash" = some (toValue destination)) :
    ∃ team, core.Admitted source team identity destination := by
  obtain ⟨entry, mem, own, reached⟩ := there
  obtain ⟨team, identity', destination', admitted, own', reached', -⟩ := isolated entry mem
  rw [own] at own'
  rw [reached] at reached'
  have sameIdentity := Value.string.inj (Option.some.inj own')
  have sameDestination := Value.string.inj (Option.some.inj reached')
  rw [← sameIdentity, ← sameDestination] at admitted
  exact ⟨team, admitted⟩

/-- A team is isolated exactly when it is sound. -/
theorem team_isolated_iff (core : RchCore) (world : World) (source teamUid : String) :
    core.TeamIsolated world source teamUid ↔ core.TeamSound world source teamUid := by
  constructor
  · rintro ⟨⟨destinations, routed, isolated, -⟩, payload, ran, members, items⟩
    obtain ⟨payload', run, shownMembers, shownItems⟩ := registry_run core source world
    rw [run] at ran
    obtain rfl := Except.ok.inj ran
    rw [shownMembers] at members
    rw [shownItems] at items
    constructor
    case directory =>
      intro team memberUid identity destination reaches
      have listed : team ∈ (core.sharedTeamUidsForRemSource source).filter fun team => (canonicalTeamForUid team).isSome :=
        List.mem_filter.2 ⟨reaches.shared, reaches.canonical⟩
      obtain ⟨team', admitted⟩ := members.admitted (directory_has listed (fun team mem => (List.mem_filter.1 mem).1) reaches)
      exact ⟨admitted.unmoderated, admitted.other_destination.1⟩
    case single =>
      intro memberUid identity memberUid' identity' destination reaches reaches'
      have open' : ¬((canonicalTeamForUid teamUid).isNone || !(core.sharedTeamUidsForRemSource source).contains teamUid) = true := by
        simp [Option.isSome_iff_ne_none.1 reaches.canonical, reaches.shared]
      rw [routing_run, if_neg open'] at routed
      have shared : ∀ team ∈ [teamUid], team ∈ core.sharedTeamUidsForRemSource source := by
        intro team mem
        rw [List.mem_singleton.1 mem]
        exact reaches.shared
      obtain ⟨keys, nodup, mem, perm⟩ := directory_destinations (core.remModes "") (cutoffOf world) shared
      rw [Except.ok.inj routed] at perm
      have once := perm.nodup_iff.1 isolated.once
      have there : (teamUid, memberUid, identity, destination) ∈ keys := (mem _).2 ⟨List.mem_singleton.2 rfl, reaches⟩
      have there' : (teamUid, memberUid', identity', destination) ∈ keys := (mem _).2 ⟨List.mem_singleton.2 rfl, reaches'⟩
      have same := List.inj_on_of_nodup_map once there there' rfl
      rw [Prod.mk.injEq, Prod.mk.injEq, Prod.mk.injEq] at same
      exact ⟨same.2.1, same.2.2.1⟩
    case items =>
      intro identity destination shows
      obtain ⟨team, admitted⟩ := items.admitted (items_has shows)
      exact ⟨⟨team, admitted.canonical, admitted.shared, admitted.member⟩, admitted.unmoderated, admitted.other_destination⟩
  · intro sound
    obtain ⟨destinations, routed, isolated⟩ := routing_isolated sound
    refine ⟨⟨destinations, routed, isolated, ?_⟩, registry_isolated sound⟩
    intro response
    unfold fanoutMissionSyncResponseToTeam
    cases response.event <;> rfl

end Isolation

/-- The uid of the yellow team. -/
def yellow : String := "d6b6e188b910d6bdd24d04b7a7ec5444"

/-- A member of the yellow team. -/
def yellowMember (uid rnsIdentity : String) (clientIdentities : List String) : TeamMemberRecord :=
  { uid, teamUid := some yellow, rnsIdentity, displayName := uid, icon := none, role := none
    callsign := none, freq := none, email := none, phone := none, modulation := none, availability := none
    certifications := [], lastActive := none, clientIdentities, createdTsMs := 0, updatedTsMs := 0 }

/-- A REM announce of the identity from a destination of it. -/
def yellowAnnounce (identity destinationHash : String) : IdentityAnnounceRecord :=
  { destinationHash, announcedIdentityHash := some identity, displayName := none, sourceInterface := some "destination"
    announceCapabilities := ["r3akt", "emergencymessages"], clientType := "rem", firstSeenTsMs := 0, lastSeenTsMs := 0 }

/-- The identity `c1`, and `a1` of the members, in the yellow team; `a1` announces `d1`. -/
def yellowTeam (mates : List TeamMemberRecord) : RchCore :=
  { teamMembers := mates.foldl (fun members mate => members.insert mate.uid mate)
      ((∅ : Dict String TeamMemberRecord).insert "caller" (yellowMember "caller" "c1" []))
    identityAnnounces := (∅ : Dict String IdentityAnnounceRecord).insert "d1" (yellowAnnounce "a1" "d1") }

/-- A ban stored under the key. -/
def bannedAs (core : RchCore) (key : String) : RchCore :=
  let state : IdentityStateRecord := { identity := key, isBanned := true, isBlackholed := false, updatedTsMs := 0 }
  { core with identityStates := core.identityStates.insert key state }

theorem routed_twice :
    letI := ServerHost.blank
    let core := yellowTeam [yellowMember "m1" "a1" [], yellowMember "m2" "b1" ["a1"]]
    ((core.remTeamRoutingDestinations "c1" yellow).run (World.atEpoch core)).1.toOption = some ["d1", "d1"] := by
  decide +kernel

/-- An identity of two members is routed to twice; one that is banned in upper case is still
routed to; and the legacy list still shows a destination that is banned. -/
theorem yellow_team_leaks :
    letI := ServerHost.blank
    let twice := yellowTeam [yellowMember "m1" "a1" [], yellowMember "m2" "b1" ["a1"]]
    let upper := bannedAs (yellowTeam [yellowMember "m1" "a1" []]) "A1"
    let shown := bannedAs (yellowTeam [yellowMember "m1" "a1" []]) "d1"
    (((twice.remTeamRoutingDestinations "c1" yellow).run (World.atEpoch twice)).1.toOption = some ["d1", "d1"] ∧
      ¬ twice.TeamIsolated (World.atEpoch twice) "c1" yellow) ∧
    (((upper.remTeamRoutingDestinations "c1" yellow).run (World.atEpoch upper)).1.toOption = some ["d1"] ∧
      ¬ upper.TeamIsolated (World.atEpoch upper) "c1" yellow) ∧
    (((shown.remTeamRoutingDestinations "c1" yellow).run (World.atEpoch shown)).1.toOption = some [] ∧
      ((shown.remTeamPeerRegistryPayload "c1").run (World.atEpoch shown)).1.toOption.map
        (fun payload => (listed payload "items").map fun item => item.get "destination_hash") =
          some [some (.string "d1")] ∧
      ¬ shown.TeamIsolated (World.atEpoch shown) "c1" yellow) := by
  let := ServerHost.blank
  intro twice upper shown
  have routedUpper : ((upper.remTeamRoutingDestinations "c1" yellow).run (World.atEpoch upper)).1.toOption = some ["d1"] := by
    rfl
  have listedShown : ((shown.remTeamPeerRegistryPayload "c1").run (World.atEpoch shown)).1.toOption.map
      (fun payload => (listed payload "items").map fun item => item.get "destination_hash") = some [some (.string "d1")] := by
    rfl
  refine ⟨⟨routed_twice, ?_⟩, ⟨routedUpper, ?_⟩, by rfl, listedShown, ?_⟩
  · rintro ⟨⟨destinations, routed, isolated, -⟩, -⟩
    have found := routed_twice
    dsimp only at found
    rw [routed] at found
    obtain rfl := Option.some.inj found
    exact absurd isolated.once (by decide)
  · rintro ⟨⟨destinations, routed, isolated, -⟩, -⟩
    rw [routed] at routedUpper
    obtain rfl := Option.some.inj routedUpper
    obtain ⟨identity, record, admitted, announce, -⟩ := isolated.admitted "d1" List.mem_cons_self
    have sole : record = yellowAnnounce "a1" "d1" := List.mem_singleton.1 announce.mem
    have own := announce.announced
    rw [sole] at own
    obtain rfl : "a1" = identity := Option.some.inj own
    exact admitted.unmoderated.1 ⟨"A1", _, rfl, rfl, rfl⟩
  · rintro ⟨-, payload, ran, -, items⟩
    rw [ran] at listedShown
    obtain ⟨item, rest, split, there, -⟩ := List.map_eq_cons_iff.1 (Option.some.inj listedShown)
    obtain ⟨team, identity, destination, admitted, -, reached, -⟩ := items item (by rw [split]; exact List.mem_cons_self)
    rw [there] at reached
    obtain rfl : "d1" = destination := Value.string.inj (Option.some.inj reached)
    exact admitted.unmoderated.2 ⟨"d1", _, rfl, rfl, rfl⟩

end RchCore

end TelemetryHub
