import Mathlib.Data.List.Dedup
import TelemetryHub.Core.WholeSnapshot
import TelemetryHub.Edits.SheetKeys
import TelemetryHub.Runs.Answers
import TelemetryHub.Runs.Composites

/-!
# Cores restored

A core that commands have reached is built again from its snapshot, table by table. It rests
on each record being filed under the key that `from_snapshot` files it under.
-/

namespace TelemetryHub

open Lib CoreM

/-! ## Keys -/

/-- The records of the registry are filed under the keys they have. -/
structure RegistryKeys (core : RchCore) : Prop where
  clients : FiledBy ClientRecord.key core.clients
  identityAnnounces : Filed IdentityAnnounceRecord.destinationHash id core.identityAnnounces
  identityStates : Filed IdentityStateRecord.identity id core.identityStates
  identityRemModes : Filed IdentityRemModeRecord.identity id core.identityRemModes
  markers : Filed MarkerRecord.objectDestinationHash id core.markers
  zones : Filed ZoneRecord.zoneId id core.zones
  missions : Filed MissionRecord.uid id core.missions
  logEntries : Filed LogEntryRecord.entryUid id core.logEntries
  fileAttachments : Filed FileAttachmentRecord.fileId id core.fileAttachments
  eamSnapshots : Filed EamSnapshotRecord.eamUid id core.eamSnapshots
  teams : Filed TeamRecord.uid id core.teams
  teamMembers : Filed TeamMemberRecord.uid id core.teamMembers
  assets : Filed AssetRecord.assetUid id core.assets
  skills : Filed SkillRecord.skillUid id core.skills
  assignments : Filed AssignmentRecord.assignmentUid id core.assignments
  capabilities : ∀ identity held, core.identityCapabilities.get identity = some held →
    normalizeHash identity = some identity ∧ ∃ capability, capability ∈ held
  access : Filed MissionAccessAssignment.key id core.missionAccessAssignments
  rights : Filed SubjectOperationRight.key id core.subjectOperationRights

/-- The rows that a rewriting loop leaves are filed as those it found. -/
theorem Rewritten.filed {V : Type} {part : V → String} {p : V → Bool} {f : Int → V → V} {m m' : Dict String V}
    (rewritten : Rewritten p f m m') (h : Filed part id m) (same : ∀ now v, part (f now v) = part v) : Filed part id m' := by
  intro k v stored
  obtain ⟨old, was, ⟨-, rfl⟩ | ⟨-, now, rfl⟩⟩ := rewritten.source stored
  · exact h k _ was
  · rw [same]
    exact h k old was

namespace RegistryKeys

variable {core core' : RchCore}

theorem new : RegistryKeys RchCore.new where
  clients := .empty
  identityAnnounces := .empty
  identityStates := .empty
  identityRemModes := .empty
  markers := .empty
  zones := .empty
  missions := .empty
  logEntries := .empty
  fileAttachments := .empty
  eamSnapshots := .empty
  teams := .empty
  teamMembers := .empty
  assets := .empty
  skills := .empty
  assignments := .empty
  capabilities identity _ stored := absurd ((Dict.get_empty identity).symm.trans stored) nofun
  access := .empty
  rights := .empty

/-! ### One write -/

theorem journal (h : RegistryKeys core) (edit : JournalEdit core core') : RegistryKeys core' := by
  cases edit <;> exact { h with }

theorem roster (h : RegistryKeys core) (edit : RosterEdit core core') : RegistryKeys core' := by
  cases edit with
  | join identity client key => exact { h with clients := h.clients.insert key }
  | touch identity old client stored key =>
    refine { h with clients := h.clients.insert ?_ }
    rw [ClientRecord.key, key]
    exact h.clients identity old stored
  | leave identity => exact { h with clients := h.clients.remove identity }
  | announce identity record normal key => exact { h with identityAnnounces := h.identityAnnounces.put key.symm }
  | refresh identity old record stored key =>
    exact { h with identityAnnounces := h.identityAnnounces.putBack stored key }
  | state identity record normal key => exact { h with identityStates := h.identityStates.put key.symm }
  | remMode identity record normal key => exact { h with identityRemModes := h.identityRemModes.put key.symm }

theorem marker {strict : Prop} (h : RegistryKeys core) (edit : MarkerEdit strict core core') : RegistryKeys core' := by
  cases edit with
  | create markerHash marker key fresh => exact { h with markers := h.markers.put key.symm }
  | patch markerHash old marker stored key localId => exact { h with markers := h.markers.putBack stored key }
  | delete markerHash marker stored unlinked => exact { h with markers := h.markers.remove markerHash }
  | createZone zoneId zone key => exact { h with zones := h.zones.put key.symm }
  | patchZone zoneId old zone stored key => exact { h with zones := h.zones.putBack stored key }
  | deleteZone zoneId zone stored unlinked => exact { h with zones := h.zones.remove zoneId }

theorem mission (h : RegistryKeys core) (edit : MissionEdit core core') : RegistryKeys core' := by
  cases edit with
  | create uid mission key trimmed topic => exact { h with missions := h.missions.put key.symm }
  | patch uid old mission stored key topic => exact { h with missions := h.missions.putBack stored key }
  | _ => exact { h with }

theorem log (h : RegistryKeys core) (edit : LogEdit core core') : RegistryKeys core' := by
  cases edit with
  | defaultMission mission key topic absent => exact { h with missions := h.missions.put key.symm }
  | change uid record key mission => exact { h with }
  | entry entryUid record key mission => exact { h with logEntries := h.logEntries.put key.symm }

theorem eam [Host] {strict : Prop} {drawn : String → Prop} (h : RegistryKeys core)
    (edit : EamEdit strict drawn core core') : RegistryKeys core' := by
  cases edit with
  | createTeam teamUid team key mission absent => exact { h with teams := h.teams.put key.symm }
  | canonizeTeam teamUid old team stored key mission => exact { h with teams := h.teams.putBack stored key }
  | createMember uid teamUid member key team known absent => exact { h with teamMembers := h.teamMembers.put key.symm }
  | report args eamUid eam key active subject target owned =>
    exact { h with eamSnapshots := h.eamSnapshots.put key.symm }
  | delete eamUid old now stored => exact { h with eamSnapshots := h.eamSnapshots.putBack stored rfl }

theorem team {strict : Prop} (h : RegistryKeys core) (edit : TeamEdit strict core core') : RegistryKeys core' := by
  cases edit with
  | create uid team key mission => exact { h with teams := h.teams.put key.symm }
  | patch uid old team stored key mission => exact { h with teams := h.teams.putBack stored key }
  | link teamUid missionUids linkable known => exact { h with }
  | linkNew teamUid missionUids team linkable key mission => exact { h with teams := h.teams.put key.symm }
  | delete teamUid teamMembers members =>
    exact { h with
      teams := h.teams.remove teamUid
      teamMembers := members.filed h.teamMembers fun _ _ => rfl }

theorem member (h : RegistryKeys core) (edit : MemberEdit core core') : RegistryKeys core' := by
  cases edit with
  | create uid member key team => exact { h with teamMembers := h.teamMembers.put key.symm }
  | patch uid old member stored key team => exact { h with teamMembers := h.teamMembers.putBack stored key }
  | delete uid member assets stored left =>
    exact { h with
      teamMembers := h.teamMembers.remove uid
      assets := left.filed h.assets fun _ _ => rfl }
  | _ => exact { h with }

theorem asset (h : RegistryKeys core) (edit : AssetEdit core core') : RegistryKeys core' := by
  cases edit with
  | create assetUid asset key member => exact { h with assets := h.assets.put key.symm }
  | patch assetUid old asset stored key member => exact { h with assets := h.assets.putBack stored key }
  | delete assetUid =>
    exact { h with
      assets := h.assets.remove assetUid
      assignments := h.assignments.mapValues fun _ => rfl }
  | createSkill skillUid skill key => exact { h with skills := h.skills.put key.symm }
  | patchSkill skillUid old skill stored key => exact { h with skills := h.skills.putBack stored key }
  | assign assignmentUid assignment key mission task => exact { h with assignments := h.assignments.put key.symm }
  | equip assignmentUid old assets stored => exact { h with assignments := h.assignments.putBack stored rfl }
  | journal entry => exact h.journal entry
  | _ => exact { h with }

theorem right (h : RegistryKeys core) (edit : RightsEdit core core') : RegistryKeys core' := by
  cases edit with
  | assign key record keyed => exact { h with access := h.access.put keyed.symm }
  | unassign key => exact { h with access := h.access.remove key }
  | right key record keyed => exact { h with rights := h.rights.put keyed.symm }
  | capabilities identity held normal nonempty =>
    refine { h with capabilities := fun identity' held' stored => ?_ }
    rw [Dict.get_insert] at stored
    split at stored
    · rename_i same
      rw [← Option.some.inj stored, same]
      exact ⟨normal, List.exists_mem_of_ne_nil _ nonempty⟩
    · exact h.capabilities identity' held' stored
  | noCapabilities identity =>
    refine { h with capabilities := fun identity' held' stored => ?_ }
    rw [Dict.get_remove] at stored
    split at stored
    · cases stored
    · exact h.capabilities identity' held' stored
  | authorization required => exact { h with }

theorem topic {strict : Prop} (h : RegistryKeys core) (edit : TopicEdit strict core core') : RegistryKeys core' := by
  cases edit with
  | delete topicId now unused =>
    refine { h with fileAttachments := h.fileAttachments.mapValues fun attachment => ?_ }
    unfold detachTopic
    split <;> rfl
  | _ => exact { h with }

theorem checklist (h : RegistryKeys core) (edit : ChecklistEdit core core') : RegistryKeys core' := by
  cases edit with
  | tables => exact { h with }
  | delete checklistUid => exact { h with assignments := h.assignments.retain _ }
  | journal entry => exact h.journal entry

end RegistryKeys

/-- Outside the checklist commands only mission changes are written of the tables of theirs. -/
theorem SheetKeys.other [Host] {family : CommandFamily} (other : family ≠ .checklist) {core core' : RchCore}
    (h : SheetKeys core) (edit : family.Edit core core') : SheetKeys core' := by
  cases family with
  | checklist => exact absurd rfl other
  | log =>
    cases edit with
    | change uid record key mission => exact h.putChange key.symm
    | _ => exact { h with }
  | asset | skill | assignment =>
    cases edit with
    | journal entry => exact h.journal entry
    | _ => exact { h with }
  | _ => cases edit <;> exact { h with }

/-- Every table of the core is filed as `from_snapshot` files it. -/
structure WholeKeys (core : RchCore) : Prop where
  composed : KeysComposed core
  registry : RegistryKeys core
  sheets : SheetKeys core
  answers : Filed CommandResultEnvelope.commandId id core.commandResults

/-! ## Runs -/

section

variable [Host]

theorem CommandFamily.apply_registryKeys (family : CommandFamily) (command : MissionCommandEnvelope) (w : World)
    (h : RegistryKeys w.core) : RegistryKeys ((family.apply command).run w).2.core := by
  by_cases checklists : family = .checklist
  · subst checklists
    exact applyChecklistCommand_holds (fun _ _ h edit => h.checklist edit) command w h
  refine family.apply_holds checklists (fun core core' h edit => ?_) command w h
  cases family with
  | remRegistry | clientEvent => exact h.roster edit
  | marker | zone => exact h.marker edit
  | mission => exact h.mission edit
  | log => exact h.log edit
  | eam => exact h.eam edit
  | team => exact h.team edit
  | teamMember => exact h.member edit
  | asset | skill | assignment => exact h.asset edit
  | rights => exact h.right edit
  | topic => exact h.topic edit
  | checklist => exact absurd rfl checklists

theorem CommandFamily.apply_sheetKeys (family : CommandFamily) (command : MissionCommandEnvelope) (w : World)
    (h : SheetKeys w.core) : SheetKeys ((family.apply command).run w).2.core := by
  by_cases checklists : family = .checklist
  · subst checklists
    exact (applyChecklistCommand_keeping command w h).1
  · exact family.apply_holds checklists (fun _ _ h edit => h.other checklists edit) command w h

/-- Along every run each record is filed under the key it is restored under. -/
theorem run_wholeKeys {permitted : CommandEntry → MissionCommandEnvelope → World → Prop} {core : RchCore}
    (run : CommandRun permitted RchCore.new core) : WholeKeys core where
  composed := run_keysComposed run
  registry := run.holds .new fun entry command w _ h =>
    entry.after_holds command (fun _ _ h edit => h.journal edit) w
      (fun family w' _ h' => family.apply_registryKeys command w' h') h
  sheets := run.holds .new fun entry command w _ h =>
    entry.after_holds command (fun _ _ h edit => h.journal edit) w
      (fun family w' _ h' => family.apply_sheetKeys command w' h') h
  answers := run.answers.filed .empty

end

/-! ## Cores that are alike -/

/-- The tables have the same record under every key. -/
def SameTable {K V : Type} [DecidableEq K] (table table' : Dict K V) : Prop := ∀ key, table'.get key = table.get key

/-- The sets have the same pairs. -/
def SameLinks (links links' : HSet (String × String)) : Prop := ∀ link, link ∈ links' ↔ link ∈ links

/-- The cores have the same records under the same keys, the same links, lists and rights; only
the order in which a table is walked may differ. -/
structure RchCore.Alike (core core' : RchCore) : Prop where
  topics : SameTable core.topics core'.topics
  subscribers : SameTable core.subscribers core'.subscribers
  messages : core'.messages = core.messages
  clients : SameTable core.clients core'.clients
  identityAnnounces : SameTable core.identityAnnounces core'.identityAnnounces
  identityStates : SameTable core.identityStates core'.identityStates
  identityRemModes : SameTable core.identityRemModes core'.identityRemModes
  auditEvents : core'.auditEvents = core.auditEvents
  systemEvents : core'.systemEvents = core.systemEvents
  telemetryRecords : core'.telemetryRecords = core.telemetryRecords
  markers : SameTable core.markers core'.markers
  zones : SameTable core.zones core'.zones
  missions : SameTable core.missions core'.missions
  missionChanges : SameTable core.missionChanges core'.missionChanges
  logEntries : SameTable core.logEntries core'.logEntries
  fileAttachments : SameTable core.fileAttachments core'.fileAttachments
  eamSnapshots : SameTable core.eamSnapshots core'.eamSnapshots
  teams : SameTable core.teams core'.teams
  missionTeamLinks : SameLinks core.missionTeamLinks core'.missionTeamLinks
  missionZoneLinks : SameLinks core.missionZoneLinks core'.missionZoneLinks
  missionMarkerLinks : SameLinks core.missionMarkerLinks core'.missionMarkerLinks
  teamMembers : SameTable core.teamMembers core'.teamMembers
  teamMemberClientLinks : SameLinks core.teamMemberClientLinks core'.teamMemberClientLinks
  assets : SameTable core.assets core'.assets
  skills : SameTable core.skills core'.skills
  teamMemberSkills : SameTable core.teamMemberSkills core'.teamMemberSkills
  taskSkillRequirements : SameTable core.taskSkillRequirements core'.taskSkillRequirements
  assignments : SameTable core.assignments core'.assignments
  assignmentAssetLinks : SameLinks core.assignmentAssetLinks core'.assignmentAssetLinks
  checklists : SameTable core.checklists core'.checklists
  checklistTemplates : SameTable core.checklistTemplates core'.checklistTemplates
  checklistColumns : SameTable core.checklistColumns core'.checklistColumns
  checklistTasks : SameTable core.checklistTasks core'.checklistTasks
  checklistCells : SameTable core.checklistCells core'.checklistCells
  checklistFeedPublications : SameTable core.checklistFeedPublications core'.checklistFeedPublications
  commandResults : SameTable core.commandResults core'.commandResults
  capabilities : ∀ identity capability,
    Holds core'.identityCapabilities identity capability ↔ Holds core.identityCapabilities identity capability
  capable : ∀ identity, core'.identityCapabilities.contains identity = core.identityCapabilities.contains identity
  missionAccessAssignments : SameTable core.missionAccessAssignments core'.missionAccessAssignments
  subjectOperationRights : SameTable core.subjectOperationRights core'.subjectOperationRights
  authorizationRequired : core'.authorizationRequired = core.authorizationRequired

/-! ### What an identity may do -/

theorem SameTable.mem_values {K V : Type} [DecidableEq K] {table table' : Dict K V} (same : SameTable table table') {v : V} :
    v ∈ table'.values ↔ v ∈ table.values := by
  rw [Dict.mem_values, Dict.mem_values]
  exact exists_congr fun key => by rw [same key]

/-- Texts without repetition are sorted to one list, in whatever order they come. -/
theorem sortBy_texts {texts texts' : List String} (nodup : texts.Nodup) (nodup' : texts'.Nodup)
    (same : ∀ text, text ∈ texts ↔ text ∈ texts') : sortBy compare texts = sortBy compare texts' := by
  have order : ∀ left right : String, (compare left right ≠ .gt) ↔ left ≤ right := fun _ _ => compare_le_iff_le
  have : Std.Total fun left right : String => compare left right ≠ .gt :=
    ⟨fun a b => by simpa only [order] using le_total a b⟩
  have : IsTrans String fun left right : String => compare left right ≠ .gt :=
    ⟨fun a b c => by simpa only [order] using le_trans⟩
  have perm : (sortBy compare texts).Perm (sortBy compare texts') :=
    (sortBy_perm _ _).trans (((List.perm_ext_iff_of_nodup nodup nodup').2 same).trans (sortBy_perm _ _).symm)
  refine List.Perm.eq_of_pairwise (fun a b _ _ first second => ?_) (List.pairwise_insertionSort _ _)
    (List.pairwise_insertionSort _ _) perm
  exact le_antisymm ((order a b).1 first) ((order b a).1 second)

namespace RchCore.Alike

variable {core core' : RchCore}

theorem mem_subjectRefs (alike : core.Alike core') (identity : String) (ref : String × String) :
    ref ∈ core'.subjectRefsForIdentity identity ↔ ref ∈ core.subjectRefsForIdentity identity := by
  unfold subjectRefsForIdentity
  cases normalizeHash identity with
  | none => rfl
  | some identity =>
    have links : ∀ link, link ∈ core'.teamMemberClientLinks.toList ↔ link ∈ core.teamMemberClientLinks.toList :=
      alike.teamMemberClientLinks
    simp only [List.mem_cons, List.mem_map, List.mem_append, List.mem_filter, alike.teamMembers.mem_values, links]

theorem contains_subjectRefs (alike : core.Alike core') (identity : String) (ref : String × String) :
    (core'.subjectRefsForIdentity identity).contains ref = (core.subjectRefsForIdentity identity).contains ref := by
  rw [Bool.eq_iff_iff, List.contains_iff_mem, List.contains_iff_mem]
  exact alike.mem_subjectRefs identity ref

theorem mem_capabilities (alike : core.Alike core') (identity : Option String) (capability : String) :
    capability ∈ (identity.bind core'.identityCapabilities.get).elim [] HSet.toList ↔
      capability ∈ (identity.bind core.identityCapabilities.get).elim [] HSet.toList := by
  have held (capabilities : Dict String (HSet String)) (identity : String) :
      capability ∈ (capabilities.get identity).elim [] HSet.toList ↔ Holds capabilities identity capability := by
    unfold Holds
    cases capabilities.get identity with
    | none => simp
    | some held => simp [HSet.mem_def]
  cases identity with
  | none => rfl
  | some identity => exact (held _ _).trans ((alike.capabilities identity capability).trans (held _ _).symm)

theorem mem_rights (alike : core.Alike core') (identity : String) (missionUid : Option String) (right : SubjectOperationRight) :
    right ∈ core'.matchingOperationRights (core'.subjectRefsForIdentity identity) missionUid ↔
      right ∈ core.matchingOperationRights (core.subjectRefsForIdentity identity) missionUid := by
  unfold matchingOperationRights
  rw [List.mem_filter, List.mem_filter, alike.subjectOperationRights.mem_values, alike.contains_subjectRefs]

theorem mem_access (alike : core.Alike core') (identity : String) (missionUid : Option String)
    (assignment : MissionAccessAssignment) :
    assignment ∈ core'.matchingMissionAccessAssignments (core'.subjectRefsForIdentity identity) missionUid ↔
      assignment ∈ core.matchingMissionAccessAssignments (core.subjectRefsForIdentity identity) missionUid := by
  unfold matchingMissionAccessAssignments
  rw [List.mem_filter, List.mem_filter, alike.missionAccessAssignments.mem_values, alike.contains_subjectRefs]

/-- Cores that are alike give every identity the same operations in every mission. -/
theorem resolveEffectiveOperations_eq (alike : core.Alike core') (identity : String) (missionUid : Option String) :
    core'.resolveEffectiveOperations identity missionUid = core.resolveEffectiveOperations identity missionUid := by
  unfold resolveEffectiveOperations
  dsimp only
  refine sortBy_texts (List.nodup_dedup _) (List.nodup_dedup _) fun operation => ?_
  have denied : (((core'.matchingOperationRights (core'.subjectRefsForIdentity identity)
      ((missionUid.map trim).filter fun uid => !uid.isEmpty)).filter fun right => !right.granted).map
        SubjectOperationRight.operation).contains operation =
      (((core.matchingOperationRights (core.subjectRefsForIdentity identity)
      ((missionUid.map trim).filter fun uid => !uid.isEmpty)).filter fun right => !right.granted).map
        SubjectOperationRight.operation).contains operation := by
    rw [Bool.eq_iff_iff, List.contains_iff_mem, List.contains_iff_mem]
    simp only [List.mem_map, List.mem_filter, alike.mem_rights]
  rw [List.mem_dedup, List.mem_dedup, List.mem_filter, List.mem_filter, denied]
  simp only [List.mem_append, List.mem_map, List.mem_filter, List.mem_flatMap, alike.mem_capabilities, alike.mem_rights,
    alike.mem_access]

end RchCore.Alike

/-! ## Restoring -/

variable {core : RchCore}

theorem sameTable_refile {K V : Type} [DecidableEq K] {part : V → K} {table : Dict K V} (filed : Filed part id table)
    (cmp : V → V → Ordering) : SameTable table (refile part id (sortBy cmp table.values)) :=
  filed.refile_get _ fun _ => mem_sortBy

theorem sameLinks_extend (links : HSet (String × String)) : SameLinks links (HSet.extend ∅ (RchCore.linkRecords links)) := by
  intro link
  rw [HSet.mem_extend, RchCore.linkRecords, mem_sortBy]
  exact or_iff_right (HSet.not_mem_empty link)

/-- What the snapshot has of the capabilities. -/
theorem mem_grants (identity capability : String) :
    (⟨identity, capability⟩ : IdentityCapabilityGrant) ∈ core.identityCapabilityGrantRecords ↔
      Holds core.identityCapabilities identity capability := by
  rw [RchCore.identityCapabilityGrantRecords, mem_sortBy, List.mem_flatMap]
  constructor
  · rintro ⟨⟨key, held⟩, stored, granted⟩
    obtain ⟨capability', mem, same⟩ := List.mem_map.1 granted
    obtain ⟨rfl, rfl⟩ := IdentityCapabilityGrant.mk.inj same
    exact ⟨held, Dict.mem_toPairs.1 stored, mem⟩
  · rintro ⟨held, stored, mem⟩
    exact ⟨(identity, held), Dict.mem_toPairs.2 stored, List.mem_map.2 ⟨capability, mem, rfl⟩⟩

/-- Grants to identities in normal form are gathered as they are. -/
theorem foldl_withGrant {grants : List IdentityCapabilityGrant}
    (normal : ∀ grant ∈ grants, normalizeHash grant.identity = some grant.identity) :
    grants.foldl withGrant ∅ = gather (grants.map fun grant => (grant.identity, grant.capability)) := by
  suffices step : ∀ m : Dict String (HSet String), grants.foldl withGrant m =
      (grants.map fun grant => (grant.identity, grant.capability)).foldl addValue m from step ∅
  induction grants with
  | nil => exact fun m => rfl
  | cons grant grants ih =>
    intro m
    rw [List.foldl_cons, List.map_cons, List.foldl_cons, withGrant, normal grant List.mem_cons_self]
    exact ih (fun other mem => normal other (List.mem_cons_of_mem _ mem)) _

theorem RegistryKeys.grants (h : RegistryKeys core) :
    core.identityCapabilityGrantRecords.foldl withGrant ∅ =
      gather (core.identityCapabilityGrantRecords.map fun grant => (grant.identity, grant.capability)) := by
  refine foldl_withGrant fun grant mem => ?_
  obtain ⟨held, stored, -⟩ := (mem_grants grant.identity grant.capability).1 mem
  exact (h.capabilities grant.identity held stored).1

theorem RegistryKeys.capabilities_restored (h : RegistryKeys core) (identity capability : String) :
    Holds (core.identityCapabilityGrantRecords.foldl withGrant ∅) identity capability ↔
      Holds core.identityCapabilities identity capability := by
  rw [h.grants, holds_gather, ← mem_grants, List.mem_map]
  constructor
  · rintro ⟨grant, mem, same⟩
    obtain ⟨rfl, rfl⟩ := Prod.mk.inj same
    exact mem
  · exact fun mem => ⟨_, mem, rfl⟩

theorem RegistryKeys.capable_restored (h : RegistryKeys core) (identity : String) :
    (core.identityCapabilityGrantRecords.foldl withGrant ∅).contains identity =
      core.identityCapabilities.contains identity := by
  have full : ∀ identity held, (core.identityCapabilityGrantRecords.foldl withGrant ∅).get identity = some held →
      ∃ capability, capability ∈ held := by
    rw [h.grants]
    exact fun identity held stored => gather_nonempty stored
  rw [Bool.eq_iff_iff, contains_iff_holds full, contains_iff_holds fun identity held stored => (h.capabilities identity held stored).2]
  exact exists_congr fun capability => h.capabilities_restored identity capability

/-- The tables that can be refused are not, and are filed anew. -/
theorem fromSnapshot_filed (keys : KeysComposed core) : RchCore.fromSnapshot core.snapshot = .ok { RchCore.new with
    topics := refile TopicRecord.topicId id core.snapshot.topics
    subscribers := refile SubscriberRecord.pair id core.snapshot.subscribers
    teamMemberSkills := refile TeamMemberSkillRecord.pair joinedKey core.snapshot.teamMemberSkills
    taskSkillRequirements := refile TaskSkillRequirementRecord.pair joinedKey core.snapshot.taskSkillRequirements } := by
  obtain ⟨restored, built, -⟩ := fromSnapshot_snapshot keys
  rw [built]
  obtain ⟨topics, filedTopics, rest⟩ := bind_eq_ok.1 built
  obtain ⟨subscribers, filedSubscribers, rest⟩ := bind_eq_ok.1 rest
  obtain ⟨-, -, rest⟩ := bind_eq_ok.1 rest
  have normalTopics : ∀ topic ∈ core.snapshot.topics, normalTopic topic = .ok topic := by
    intro topic mem
    obtain ⟨key, stored⟩ := Dict.mem_values.1 (mem_sortBy.1 mem)
    obtain ⟨same, normal⟩ := keys.topics key topic stored
    have own : normalizeTopicId topic.topicId = some topic.topicId := by rw [same]; exact normal
    rw [normalTopic, requireTopicId_eq_ok.2 own]
    rfl
  have normalSubscribers : ∀ record ∈ core.snapshot.subscribers, normalSubscriber record = .ok record := by
    intro record mem
    obtain ⟨key, stored⟩ := Dict.mem_values.1 (mem_sortBy.1 mem)
    exact (keys.subscriptions key record stored).normalSubscriber_eq
  rw [← Except.ok.inj rest, fileAll_ok normalTopics filedTopics, fileAll_ok normalSubscribers filedSubscribers]

/-- A core whose records are filed under their keys is restored from its snapshot. -/
theorem WholeKeys.restored (keys : WholeKeys core) :
    ∃ restored, RchCore.fromWholeSnapshot core.wholeSnapshot = .ok restored ∧ core.Alike restored := by
  have built : RchCore.fromWholeSnapshot core.wholeSnapshot = _ := bind_eq_ok.2 ⟨_, fromSnapshot_filed keys.composed, rfl⟩
  refine ⟨_, built, ?_⟩
  obtain ⟨composed, registry, sheets, answers⟩ := keys
  exact {
    topics := sameTable_refile (fun key topic stored => (composed.topics key topic stored).1.symm) _
    subscribers := sameTable_refile composed.filedSubscriptions _
    messages := rfl
    clients := registry.clients.refileSome_get _ fun _ => mem_sortBy
    identityAnnounces := sameTable_refile registry.identityAnnounces _
    identityStates := sameTable_refile registry.identityStates _
    identityRemModes := sameTable_refile registry.identityRemModes _
    auditEvents := rfl
    systemEvents := rfl
    telemetryRecords := rfl
    markers := sameTable_refile registry.markers _
    zones := sameTable_refile registry.zones _
    missions := sameTable_refile registry.missions _
    missionChanges := sameTable_refile sheets.changes _
    logEntries := sameTable_refile registry.logEntries _
    fileAttachments := sameTable_refile registry.fileAttachments _
    eamSnapshots := sameTable_refile registry.eamSnapshots _
    teams := sameTable_refile registry.teams _
    missionTeamLinks := sameLinks_extend _
    missionZoneLinks := sameLinks_extend _
    missionMarkerLinks := sameLinks_extend _
    teamMembers := sameTable_refile registry.teamMembers _
    teamMemberClientLinks := sameLinks_extend _
    assets := sameTable_refile registry.assets _
    skills := sameTable_refile registry.skills _
    teamMemberSkills := composed.memberSkills.refile_get _ fun _ => mem_sortBy
    taskSkillRequirements := composed.requirements.refile_get _ fun _ => mem_sortBy
    assignments := sameTable_refile registry.assignments _
    assignmentAssetLinks := sameLinks_extend _
    checklists := sameTable_refile sheets.checklists _
    checklistTemplates := sameTable_refile sheets.templates _
    checklistColumns := sameTable_refile sheets.columns _
    checklistTasks := sameTable_refile sheets.tasks _
    checklistCells := sameTable_refile sheets.cells _
    checklistFeedPublications := sameTable_refile sheets.publications _
    commandResults := sameTable_refile answers _
    capabilities := registry.capabilities_restored
    capable := registry.capable_restored
    missionAccessAssignments := sameTable_refile registry.access _
    subjectOperationRights := sameTable_refile registry.rights _
    authorizationRequired := rfl }

/-- Every state that commands reach is restored from its snapshot, in every table, and gives every
identity the same operations. -/
theorem snapshot_restores [Host] {core : RchCore} (run : CommandRun (fun _ _ _ => True) RchCore.new core) :
    ∃ restored, RchCore.fromWholeSnapshot core.wholeSnapshot = .ok restored ∧ core.Alike restored ∧
      ∀ identity missionUid,
        restored.resolveEffectiveOperations identity missionUid = core.resolveEffectiveOperations identity missionUid := by
  obtain ⟨restored, built, alike⟩ := (run_wholeKeys run).restored
  exact ⟨restored, built, alike, alike.resolveEffectiveOperations_eq⟩

/-- The team of a drill, its links and its answer are there again. -/
theorem snapshot_restores_drill :
    ∃ restored, RchCore.fromWholeSnapshot (coreBehind teamDrill).wholeSnapshot = .ok restored ∧
      (restored.teams.get "t").map TeamRecord.missionUids = some ["b", "a"] ∧
      ("b", "t") ∈ restored.missionTeamLinks ∧ (restored.commandResults.get "3").isSome := by
  let _ := Host.blank
  have run : CommandRun (fun _ _ _ => True) RchCore.new (coreBehind teamDrill) := coreBehind_run fun _ _ _ => trivial
  obtain ⟨restored, built, alike, -⟩ := snapshot_restores run
  refine ⟨restored, built, ?_, (alike.missionTeamLinks ("b", "t")).2 ?_, ?_⟩
  · rw [alike.teams "t"]
    decide +kernel
  · decide +kernel
  · rw [alike.commandResults "3"]
    decide +kernel

end TelemetryHub
