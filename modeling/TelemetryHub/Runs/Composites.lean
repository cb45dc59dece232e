import TelemetryHub.Core.Snapshot
import TelemetryHub.Runs.Mirrors

/-!
# Composite keys along a run

The skill records of members and tasks are filed under two texts joined by a colon, the
subscriptions under a pair. What a run of commands keeps of that, and what a write to one
record does to the others.
-/

namespace TelemetryHub

open Lib CoreM

/-- The tables of records under composite keys, and the topics. -/
def RchCore.compositeTables (core : RchCore) :
    Dict String TopicRecord × Dict (String × String) SubscriberRecord × Dict String TeamMemberSkillRecord ×
      Dict String TaskSkillRequirementRecord :=
  (core.topics, core.subscribers, core.teamMemberSkills, core.taskSkillRequirements)

/-- Each record is under the key its fields make. -/
structure KeysComposed (core : RchCore) : Prop where
  topics : ∀ key topic, core.topics.get key = some topic → topic.topicId = key ∧ normalizeTopicId key = some key
  subscriptions : ∀ key record, core.subscribers.get key = some record → SubscriptionKey key record
  memberSkills : Filed TeamMemberSkillRecord.pair joinedKey core.teamMemberSkills
  requirements : Filed TaskSkillRequirementRecord.pair joinedKey core.taskSkillRequirements

namespace KeysComposed

variable {core core' : RchCore}

theorem of_same (h : KeysComposed core) (same : core'.compositeTables = core.compositeTables) : KeysComposed core' := by
  obtain ⟨topics, rest⟩ := Prod.mk.inj same
  obtain ⟨subscribers, rest⟩ := Prod.mk.inj rest
  obtain ⟨memberSkills, requirements⟩ := Prod.mk.inj rest
  exact ⟨by rw [topics]; exact h.topics, by rw [subscribers]; exact h.subscriptions,
    by rw [memberSkills]; exact h.memberSkills, by rw [requirements]; exact h.requirements⟩

theorem new : KeysComposed RchCore.new where
  topics key _ stored := absurd ((Dict.get_empty key).symm.trans stored) nofun
  subscriptions key _ stored := absurd ((Dict.get_empty key).symm.trans stored) nofun
  memberSkills := .empty
  requirements := .empty

theorem filedSubscriptions (h : KeysComposed core) : Filed SubscriberRecord.pair id core.subscribers := by
  intro key record stored
  obtain ⟨node, topic, -, -⟩ := h.subscriptions key record stored
  exact Prod.ext node.symm topic.symm

/-! ## One write -/

theorem journal (h : KeysComposed core) (edit : JournalEdit core core') : KeysComposed core' :=
  h.of_same (by cases edit <;> rfl)

theorem member (h : KeysComposed core) (edit : MemberEdit core core') : KeysComposed core' := by
  cases edit with
  | delete uid member assets stored left => exact { h with memberSkills := h.memberSkills.retain _ }
  | _ => exact h.of_same rfl

theorem asset (h : KeysComposed core) (edit : AssetEdit core core') : KeysComposed core' := by
  cases edit with
  | memberSkill record key keyed skill =>
    subst keyed
    exact { h with memberSkills := h.memberSkills.insert record }
  | requirement record key keyed task skill =>
    subst keyed
    exact { h with requirements := h.requirements.insert record }
  | journal entry => exact h.journal entry
  | _ => exact h.of_same rfl

theorem checklist (h : KeysComposed core) (edit : ChecklistEdit core core') : KeysComposed core' := by
  cases edit with
  | tables => exact h.of_same rfl
  | delete checklistUid => exact { h with requirements := h.requirements.retain _ }
  | journal entry => exact h.journal entry

theorem putTopic (h : KeysComposed core) {topicId : String} {topic : TopicRecord} (key : topic.topicId = topicId)
    (normal : normalizeTopicId topicId = some topicId) :
    KeysComposed { core with topics := core.topics.insert topicId topic } := by
  refine { h with topics := fun key' topic' stored => ?_ }
  rw [Dict.get_insert] at stored
  split at stored
  · rename_i same
    rw [← Option.some.inj stored, same]
    exact ⟨key, normal⟩
  · exact h.topics key' topic' stored

theorem putSubscription (h : KeysComposed core) {subscribers : Dict (String × String) SubscriberRecord}
    (old : ∀ key record, subscribers.get key = some record → core.subscribers.get key = some record)
    {key : String × String} {record : SubscriberRecord} (keyed : SubscriptionKey key record) :
    KeysComposed { core with subscribers := subscribers.insert key record } := by
  refine { h with subscriptions := fun key' record' stored => ?_ }
  rw [Dict.get_insert] at stored
  split at stored
  · rename_i same
    rw [← Option.some.inj stored, same]
    exact keyed
  · exact h.subscriptions key' record' (old key' record' stored)

theorem get_of_get_remove {m : Dict (String × String) SubscriberRecord} {key key' : String × String}
    {record : SubscriberRecord} (stored : (m.remove key).get key' = some record) : m.get key' = some record := by
  rw [Dict.get_remove] at stored
  split at stored
  · cases stored
  · exact stored

theorem topic {strict : Prop} (h : KeysComposed core) (edit : TopicEdit strict core core') : KeysComposed core' := by
  cases edit with
  | create topicId topic key normal => exact h.putTopic key normal
  | patch topicId old topic stored key =>
    obtain ⟨same, normal⟩ := h.topics topicId old stored
    exact h.putTopic (key.trans same) normal
  | delete topicId now unused =>
    refine { h with topics := fun key topic stored => ?_, subscriptions := fun key record stored => ?_ }
    · rw [RchCore.withoutTopic, Dict.get_remove] at stored
      split at stored
      · cases stored
      · exact h.topics key topic stored
    · rw [RchCore.withoutTopic, Dict.get_retain] at stored
      exact h.subscriptions key record (Option.filter_eq_some_iff.1 stored).1
  | subscribe key record keyed => exact h.putSubscription (fun _ _ stored => stored) keyed
  | resubscribe key old record stored keyed =>
    exact h.putSubscription (fun _ _ stored => stored) (keyed (h.subscriptions key old stored))
  | patchSubscription key updated old record stored keyed =>
    exact h.putSubscription (fun _ _ => get_of_get_remove) (keyed (h.subscriptions key old stored))
  | unsubscribe key =>
    exact { h with subscriptions := fun key' record stored => h.subscriptions key' record (get_of_get_remove stored) }
  | message record => exact h.of_same rfl

end KeysComposed

/-! ## Runs -/

section

variable [Host]

theorem CommandFamily.apply_keysComposed (family : CommandFamily) (command : MissionCommandEnvelope) (w : World)
    (h : KeysComposed w.core) : KeysComposed ((family.apply command).run w).2.core := by
  by_cases checklists : family = .checklist
  · subst checklists
    exact applyChecklistCommand_holds (fun _ _ h edit => h.checklist edit) command w h
  refine family.apply_holds checklists (fun core core' h edit => ?_) command w h
  cases family with
  | teamMember => exact h.member edit
  | asset => exact h.asset edit
  | skill => exact h.asset edit
  | assignment => exact h.asset edit
  | topic => exact h.topic edit
  | checklist => exact absurd rfl checklists
  | _ => exact h.of_same (by cases edit <;> rfl)

theorem CommandEntry.after_keysComposed (entry : CommandEntry) (command : MissionCommandEnvelope) (w : World)
    (h : KeysComposed w.core) : KeysComposed (entry.after command w).core :=
  entry.after_holds command (fun _ _ h edit => h.journal edit) w
    (fun family w' _ h' => family.apply_keysComposed command w' h') h

/-- Along every run each record is under the key its fields make. -/
theorem run_keysComposed {permitted : CommandEntry → MissionCommandEnvelope → World → Prop} {core : RchCore}
    (run : CommandRun permitted RchCore.new core) : KeysComposed core :=
  run.holds .new fun entry command w _ h => entry.after_keysComposed command w h

/-! ## Writes to one record -/

variable {core₀ : RchCore}

/-- An accepted upsert files one record of the pair that the arguments name. -/
theorem upsertTeamMemberSkillFromArgs_files (args : Value) :
    Spec (fun _ => True) (upsertTeamMemberSkillFromArgs args) core₀ fun r core' => ∀ record, r = .ok record →
      requiredText args ["team_member_rns_identity"] = .ok record.teamMemberRnsIdentity ∧
      requiredText args ["skill_uid"] = .ok record.skillUid ∧
      core'.teamMemberSkills = core₀.teamMemberSkills.insert (joinedKey record.pair) record := by
  unfold upsertTeamMemberSkillFromArgs
  refine Proc.Spec.check (fun identity named => ?_) fun _ _ => nofun
  refine Spec.read (Proc.Spec.check (fun _ _ => ?_) fun _ _ => nofun)
  refine Proc.Spec.check (fun skillUid chosen => ?_) fun _ _ => nofun
  refine Proc.Spec.guard (fun _ => nofun) fun _ => ?_
  refine Proc.Spec.check (fun level _ => ?_) fun _ _ => nofun
  refine Spec.drawUnless fun uid _ => ?_
  refine Proc.Spec.check (fun level _ => ?_) fun _ _ => nofun
  refine Spec.write (Proc.Spec.pure ?_)
  rintro record ⟨⟩
  exact ⟨named, chosen, rfl⟩

theorem upsertTaskSkillRequirementFromArgs_files (args : Value) :
    Spec (fun _ => True) (upsertTaskSkillRequirementFromArgs args) core₀ fun r core' => ∀ record, r = .ok record →
      requiredText args ["task_uid"] = .ok record.taskUid ∧ requiredText args ["skill_uid"] = .ok record.skillUid ∧
      core'.taskSkillRequirements = core₀.taskSkillRequirements.insert (joinedKey record.pair) record := by
  unfold upsertTaskSkillRequirementFromArgs
  refine Proc.Spec.check (fun taskUid named => ?_) fun _ _ => nofun
  refine Proc.Spec.check (fun skillUid chosen => ?_) fun _ _ => nofun
  refine Spec.read (Proc.Spec.check (fun _ _ => ?_) fun _ _ => nofun)
  refine Proc.Spec.guard (fun _ => nofun) fun _ => ?_
  refine Proc.Spec.check (fun minimumLevel _ => ?_) fun _ _ => nofun
  refine Spec.drawUnless fun uid _ => ?_
  refine Proc.Spec.check (fun minimumLevel _ => ?_) fun _ _ => nofun
  refine Spec.write (Proc.Spec.pure ?_)
  rintro record ⟨⟩
  exact ⟨named, chosen, rfl⟩

omit [Host] in
/-- An accepted subscription files one record of its node and its topic. -/
theorem subscribe_files (topicId subscriberId : String) (rejectTests : Option Int) (metadata : Value)
    (keys : KeysComposed core₀) :
    Spec (fun _ => True) (subscribe topicId subscriberId rejectTests metadata) core₀ fun r core' => r = .ok () →
      ∃ node, ∃ record : SubscriberRecord, normalizeSubscriberNodeId subscriberId = some node ∧
        record.pair = (node, topicId) ∧ core'.subscribers = core₀.subscribers.insert (node, topicId) record := by
  unfold subscribe
  refine Spec.read (Proc.Spec.guard (fun _ => nofun) fun _ => ?_)
  refine Proc.Spec.check (fun nodeId normal => ?_) fun _ _ => nofun
  refine Spec.clock fun now => Spec.lastWrite fun _ => ?_
  refine ⟨nodeId, _, requireNodeId_eq_ok.1 normal, ?_, rfl⟩
  cases stored : core₀.subscribers.get (nodeId, topicId) with
  | none => rfl
  | some old => exact (keys.filedSubscriptions _ old stored).symm

/-- An accepted patch moves one record, to a pair that is its own or has no record. -/
theorem patchSubscriberFromArgs_moves (args : Value) (keys : KeysComposed core₀) :
    Spec (fun _ => True) (patchSubscriberFromArgs args) core₀ fun r core' => ∀ record, r = .ok record →
      ∃ old : SubscriberRecord, filedUnder SubscriberRecord.pair core₀.subscribers old.pair = some old ∧
        (record.pair ≠ old.pair → filedUnder SubscriberRecord.pair core₀.subscribers record.pair = none) ∧
        core'.subscribers = (core₀.subscribers.remove old.pair).insert record.pair record := by
  unfold patchSubscriberFromArgs
  refine Proc.Spec.check (fun text _ => ?_) fun _ _ => nofun
  refine Proc.Spec.check (fun subscriberId _ => Spec.read ?_) fun _ _ => nofun
  refine Proc.Spec.require (fun existingKey _ => Spec.read ?_) fun _ => nofun
  refine Proc.Spec.require (fun old stored => ?_) fun _ => nofun
  refine Proc.Spec.check (fun nodeId _ => Spec.read ?_) fun _ _ => nofun
  refine Proc.Spec.check (fun topicId _ => ?_) fun _ _ => nofun
  refine Proc.Spec.check (fun rejectTests _ => ?_) fun _ _ => nofun
  refine Spec.clock fun now => Spec.read ?_
  refine Proc.Spec.guard (fun _ => nofun) fun free => Spec.write (Proc.Spec.pure ?_)
  rintro record ⟨⟩
  have own : existingKey = old.pair := keys.filedSubscriptions _ _ stored
  subst own
  refine ⟨old, keys.filedSubscriptions.filedUnder_eq_some.2 ⟨stored, rfl⟩, fun other => ?_, rfl⟩
  cases found : filedUnder SubscriberRecord.pair core₀.subscribers (nodeId, topicId) with
  | none => exact found
  | some there =>
    obtain ⟨held, -⟩ := keys.filedSubscriptions.filedUnder_eq_some.1 found
    exact absurd ⟨other, Dict.contains_iff.2 ⟨there, held⟩⟩ free

/-! ## Snapshots -/

omit [Host] in
theorem requireSubscriberTopicId_normal {topicId problem : String} (normal : normalizeTopicId topicId = some topicId) :
    requireSubscriberTopicId topicId problem = .ok topicId := by
  have filled : (trim topicId).isEmpty = false := by
    unfold normalizeTopicId at normal
    dsimp only at normal
    split at normal
    · exact absurd normal nofun
    · rename_i filled
      exact Bool.not_eq_true _ ▸ filled
  have trimmed : normalizeTopicId (trim topicId) = some topicId := by
    rw [← normal, normalizeTopicId, normalizeTopicId, trim_trim]
  rw [requireSubscriberTopicId, normalizeSubscriberTopicId, filled, if_neg Bool.false_ne_true, trimmed]

omit [Host] in
/-- A subscription under its own key is normal as it is. -/
theorem SubscriptionKey.normalSubscriber_eq {key : String × String} {record : SubscriberRecord}
    (keyed : SubscriptionKey key record) : normalSubscriber record = .ok record := by
  have node : normalizeSubscriberNodeId record.nodeId = some record.nodeId := by rw [keyed.node]; exact keyed.nodeNormal
  have topic : normalizeTopicId record.topicId = some record.topicId := by rw [keyed.topic]; exact keyed.topicNormal
  rw [normalSubscriber, requireNodeId_eq_ok.2 node, requireSubscriberTopicId_normal topic]
  rfl

omit [Host] in
theorem SubscriptionKey.validateSubscriber_eq {key : String × String} {record : SubscriberRecord}
    (keyed : SubscriptionKey key record) {seen : HSet (String × String)} (new : key ∉ seen) :
    validateSubscriber seen (key, record) = .ok (seen.insert key) := by
  have free : ¬seen.contains key = true := fun has => new (HSet.contains_iff.1 has)
  obtain ⟨node, topic, nodeNormal, topicNormal⟩ := keyed
  simp only [validateSubscriber, requireNodeId_eq_ok.2 nodeNormal, requireSubscriberTopicId_normal topicNormal, bind,
    Except.bind, node, topic, ne_eq, not_true, or_self, if_false, free]
  rfl

omit [Host] in
/-- The keys of a map are its own, so that no pair is seen twice. -/
theorem validateSubscribers_ok {pairs : List ((String × String) × SubscriberRecord)} (nodup : (pairs.map Prod.fst).Nodup)
    (keyed : ∀ entry ∈ pairs, SubscriptionKey entry.1 entry.2) {seen : HSet (String × String)}
    (new : ∀ entry ∈ pairs, entry.1 ∉ seen) : ∃ seen', pairs.foldlM validateSubscriber seen = .ok seen' := by
  induction pairs generalizing seen with
  | nil => exact ⟨seen, rfl⟩
  | cons entry pairs ih =>
    rw [List.map_cons, List.nodup_cons] at nodup
    rw [List.foldlM_cons, (keyed entry List.mem_cons_self).validateSubscriber_eq (new entry List.mem_cons_self)]
    refine ih nodup.2 (fun other mem => keyed other (List.mem_cons_of_mem _ mem)) fun other mem there => ?_
    rcases HSet.mem_insert.1 there with same | there
    · exact nodup.1 (List.mem_map.2 ⟨other, mem, same⟩)
    · exact new other (List.mem_cons_of_mem _ mem) there

omit [Host] in
/-- A core whose records are under their keys is built again from its snapshot. -/
theorem fromSnapshot_snapshot (keys : KeysComposed core₀) :
    ∃ restored, RchCore.fromSnapshot core₀.snapshot = .ok restored ∧
      (∀ pair, filedUnder TeamMemberSkillRecord.pair restored.teamMemberSkills pair =
        filedUnder TeamMemberSkillRecord.pair core₀.teamMemberSkills pair) ∧
      (∀ pair, filedUnder TaskSkillRequirementRecord.pair restored.taskSkillRequirements pair =
        filedUnder TaskSkillRequirementRecord.pair core₀.taskSkillRequirements pair) ∧
      ∀ pair, filedUnder SubscriberRecord.pair restored.subscribers pair =
        filedUnder SubscriberRecord.pair core₀.subscribers pair := by
  have filedTopics : Filed TopicRecord.topicId id core₀.topics := fun key topic stored => (keys.topics key topic stored).1.symm
  have topics : fileAll TopicRecord.topicId id normalTopic
      (fun topic => .invalidPayload ("topic invariant violation: duplicate normalized topic '" ++ topic.topicId ++ "'"))
      core₀.snapshot.topics = .ok (refile TopicRecord.topicId id core₀.snapshot.topics) := by
    refine Filed.fileAll_eq (fun topic mem => ?_) ?_
    · obtain ⟨key, stored⟩ := Dict.mem_values.1 (mem_sortBy.1 mem)
      obtain ⟨same, normal⟩ := keys.topics key topic stored
      have own : normalizeTopicId topic.topicId = some topic.topicId := by rw [same]; exact normal
      rw [normalTopic, requireTopicId_eq_ok.2 own]
      rfl
    · exact ((sortBy_perm _ _).map _).nodup_iff.2 filedTopics.nodup_keys
  have subscribers : fileAll SubscriberRecord.pair id normalSubscriber
      (fun _ => .invalidPayload "subscriber invariant violation: duplicate normalized destination/topic pair")
      core₀.snapshot.subscribers = .ok (refile SubscriberRecord.pair id core₀.snapshot.subscribers) := by
    refine Filed.fileAll_eq (fun record mem => ?_) ?_
    · obtain ⟨key, stored⟩ := Dict.mem_values.1 (mem_sortBy.1 mem)
      exact (keys.subscriptions key record stored).normalSubscriber_eq
    · exact ((sortBy_perm _ _).map _).nodup_iff.2 keys.filedSubscriptions.nodup_keys
  have all {V : Type} (cmp : V → V → Ordering) (m : List V) (v : V) : v ∈ sortBy cmp m ↔ v ∈ m := mem_sortBy
  have valid : ∀ core : RchCore, core.subscribers = refile SubscriberRecord.pair id core₀.snapshot.subscribers →
      validateSubscriberInvariants core = .ok () := by
    intro core same
    have keyed : ∀ entry ∈ core.subscribers.toPairs, SubscriptionKey entry.1 entry.2 := by
      rintro ⟨key, record⟩ mem
      rw [Dict.mem_toPairs, same, keys.filedSubscriptions.refile_get core₀.snapshot.subscribers (all _ _)] at mem
      exact keys.subscriptions key record mem
    obtain ⟨seen, valid⟩ := validateSubscribers_ok core.subscribers.nodup_toPairs keyed fun _ _ => HSet.not_mem_empty _
    rw [validateSubscriberInvariants, valid]
    rfl
  refine ⟨{ RchCore.new with
    topics := refile TopicRecord.topicId id core₀.snapshot.topics
    subscribers := refile SubscriberRecord.pair id core₀.snapshot.subscribers
    teamMemberSkills := refile TeamMemberSkillRecord.pair joinedKey core₀.snapshot.teamMemberSkills
    taskSkillRequirements := refile TaskSkillRequirementRecord.pair joinedKey core₀.snapshot.taskSkillRequirements },
    ?_, ?_⟩
  · refine bind_eq_ok.2 ⟨_, topics, bind_eq_ok.2 ⟨_, subscribers, ?_⟩⟩
    exact bind_eq_ok.2 ⟨(), valid _ rfl, rfl⟩
  · exact ⟨keys.memberSkills.filedUnder_refile _ (all _ _), keys.requirements.filedUnder_refile _ (all _ _),
      keys.filedSubscriptions.filedUnder_refile _ (all _ _)⟩

/-! ## The tables of a run -/

/-- Every pair but the one written has the record it had. -/
def OthersKept {K V : Type} [DecidableEq K] (part : V → String × String) (pair : String × String)
    (before after : Dict K V) : Prop :=
  ∀ other, other ≠ pair → filedUnder part after other = filedUnder part before other

/-- No other pair whose texts join to the same key has a record. -/
def JoinedAlone {V : Type} (part : V → String × String) (pair : String × String) (table : Dict String V) : Prop :=
  ∀ other, other ≠ pair → joinedKey other = joinedKey pair → filedUnder part table other = none

omit [Host] in
theorem othersKept_iff_joinedAlone {V : Type} {part : V → String × String} {table : Dict String V}
    (filed : Filed part joinedKey table) (record : V) :
    OthersKept part (part record) table (table.insert (joinedKey (part record)) record) ↔
      JoinedAlone part (part record) table := by
  constructor
  · exact fun kept other apart => (filed.filedUnder_insert apart).1 (kept other apart)
  · exact fun alone other apart => (filed.filedUnder_insert apart).2 (alone other apart)

omit [Host] in
/-- Under keys of their own the others are always kept. -/
theorem othersKept_pairs {table : Dict (String × String) SubscriberRecord} (filed : Filed SubscriberRecord.pair id table)
    (record : SubscriberRecord) :
    OthersKept SubscriberRecord.pair record.pair table (table.insert record.pair record) :=
  fun _ apart => (filed.filedUnder_insert apart).2 fun same => absurd same apart

/-- In every state that commands reach, an accepted upsert of a skill record leaves the
records of the other pairs as they are exactly if none of them is filed under the same
joined text; a subscription leaves all others as they are; and a snapshot restores all. -/
theorem composite_records_kept_iff {core : RchCore} (run : CommandRun (fun _ _ _ => True) RchCore.new core) :
    (∀ args identity skillUid w record, w.core = core → requiredText args ["team_member_rns_identity"] = .ok identity →
      requiredText args ["skill_uid"] = .ok skillUid → ((upsertTeamMemberSkillFromArgs args).run w).1 = .ok record →
      filedUnder TeamMemberSkillRecord.pair ((upsertTeamMemberSkillFromArgs args).run w).2.core.teamMemberSkills
        (identity, skillUid) = some record ∧
      (OthersKept TeamMemberSkillRecord.pair (identity, skillUid) core.teamMemberSkills
        ((upsertTeamMemberSkillFromArgs args).run w).2.core.teamMemberSkills ↔
          JoinedAlone TeamMemberSkillRecord.pair (identity, skillUid) core.teamMemberSkills)) ∧
    (∀ args taskUid skillUid w record, w.core = core → requiredText args ["task_uid"] = .ok taskUid →
      requiredText args ["skill_uid"] = .ok skillUid → ((upsertTaskSkillRequirementFromArgs args).run w).1 = .ok record →
      filedUnder TaskSkillRequirementRecord.pair
        ((upsertTaskSkillRequirementFromArgs args).run w).2.core.taskSkillRequirements (taskUid, skillUid) = some record ∧
      (OthersKept TaskSkillRequirementRecord.pair (taskUid, skillUid) core.taskSkillRequirements
        ((upsertTaskSkillRequirementFromArgs args).run w).2.core.taskSkillRequirements ↔
          JoinedAlone TaskSkillRequirementRecord.pair (taskUid, skillUid) core.taskSkillRequirements)) ∧
    (∀ topicId subscriberId rejectTests metadata w, w.core = core →
      ((subscribe topicId subscriberId rejectTests metadata).run w).1 = .ok () →
      ∃ node, normalizeSubscriberNodeId subscriberId = some node ∧
        (∃ record, filedUnder SubscriberRecord.pair
          ((subscribe topicId subscriberId rejectTests metadata).run w).2.core.subscribers (node, topicId) = some record) ∧
        OthersKept SubscriberRecord.pair (node, topicId) core.subscribers
          ((subscribe topicId subscriberId rejectTests metadata).run w).2.core.subscribers) ∧
    (∀ args w record, w.core = core → ((patchSubscriberFromArgs args).run w).1 = .ok record →
      ∃ old : SubscriberRecord, filedUnder SubscriberRecord.pair core.subscribers old.pair = some old ∧
        (record.pair ≠ old.pair → filedUnder SubscriberRecord.pair core.subscribers record.pair = none) ∧
        ∀ other, other ≠ old.pair → other ≠ record.pair →
          filedUnder SubscriberRecord.pair ((patchSubscriberFromArgs args).run w).2.core.subscribers other =
            filedUnder SubscriberRecord.pair core.subscribers other) ∧
    ∃ restored, RchCore.fromSnapshot core.snapshot = .ok restored ∧
      (∀ pair, filedUnder TeamMemberSkillRecord.pair restored.teamMemberSkills pair =
        filedUnder TeamMemberSkillRecord.pair core.teamMemberSkills pair) ∧
      (∀ pair, filedUnder TaskSkillRequirementRecord.pair restored.taskSkillRequirements pair =
        filedUnder TaskSkillRequirementRecord.pair core.taskSkillRequirements pair) ∧
      ∀ pair, filedUnder SubscriberRecord.pair restored.subscribers pair =
        filedUnder SubscriberRecord.pair core.subscribers pair := by
  have keys := run_keysComposed run
  refine ⟨?_, ?_, ?_, ?_, fromSnapshot_snapshot keys⟩
  · rintro args identity skillUid w record rfl named chosen accepted
    obtain ⟨owner, skill, files⟩ := (upsertTeamMemberSkillFromArgs_files args w rfl fun _ => trivial).1 record accepted
    obtain rfl : identity = record.teamMemberRnsIdentity := Except.ok.inj (named.symm.trans owner)
    obtain rfl : skillUid = record.skillUid := Except.ok.inj (chosen.symm.trans skill)
    have after : ((upsertTeamMemberSkillFromArgs args).run w).2.core.teamMemberSkills = _ := files
    rw [after]
    exact ⟨keys.memberSkills.filedUnder_insert_self record, othersKept_iff_joinedAlone keys.memberSkills record⟩
  · rintro args taskUid skillUid w record rfl named chosen accepted
    obtain ⟨owner, skill, files⟩ := (upsertTaskSkillRequirementFromArgs_files args w rfl fun _ => trivial).1 record accepted
    obtain rfl : taskUid = record.taskUid := Except.ok.inj (named.symm.trans owner)
    obtain rfl : skillUid = record.skillUid := Except.ok.inj (chosen.symm.trans skill)
    have after : ((upsertTaskSkillRequirementFromArgs args).run w).2.core.taskSkillRequirements = _ := files
    rw [after]
    exact ⟨keys.requirements.filedUnder_insert_self record, othersKept_iff_joinedAlone keys.requirements record⟩
  · rintro topicId subscriberId rejectTests metadata w rfl accepted
    obtain ⟨node, record, normal, own, files⟩ :=
      (subscribe_files topicId subscriberId rejectTests metadata keys w rfl fun _ => trivial).1 accepted
    have after : ((subscribe topicId subscriberId rejectTests metadata).run w).2.core.subscribers = _ := files
    rw [← own] at after
    refine ⟨node, normal, ⟨record, ?_⟩, ?_⟩
    · rw [after, ← own]
      exact keys.filedSubscriptions.filedUnder_insert_self record
    · rw [after, ← own]
      exact othersKept_pairs keys.filedSubscriptions record
  · rintro args w record rfl accepted
    obtain ⟨old, held, free, moves⟩ := (patchSubscriberFromArgs_moves args keys w rfl fun _ => trivial).1 record accepted
    have after : ((patchSubscriberFromArgs args).run w).2.core.subscribers = _ := moves
    refine ⟨old, held, free, fun other apart fresh => ?_⟩
    rw [after, othersKept_pairs (keys.filedSubscriptions.remove old.pair) record other fresh]
    exact keys.filedSubscriptions.filedUnder_remove apart

end

/-! ## A drill -/

def createSkill (commandId skillUid : String) : MissionCommandEnvelope :=
  drillCommand commandId "mission.registry.skill.upsert" [("skill_uid", .string skillUid)]

def createMemberOf (commandId uid identity : String) : MissionCommandEnvelope :=
  drillCommand commandId "mission.registry.team_member.upsert" [("uid", .string uid), ("rns_identity", .string identity)]

/-- What an upsert of a member's skill is given. -/
def skillArgs (identity skillUid : String) : List (String × Value) :=
  [("team_member_rns_identity", .string identity), ("skill_uid", .string skillUid), ("uid", .string "u")]

/-- Two members and two skills, one member rated for one skill. -/
def skillDrill : List MissionCommandEnvelope :=
  [drillCommand "5" "mission.registry.team_member_skill.upsert" (skillArgs "a:b" "c"), createSkill "4" "b:c",
    createSkill "3" "c", createMemberOf "2" "n" "a", createMemberOf "1" "m" "a:b"]

/-- No pair but the rated one has a record. -/
theorem skillDrill_alone :
    JoinedAlone TeamMemberSkillRecord.pair ("a", "c") (coreBehind skillDrill).teamMemberSkills := by
  have pairs : (coreBehind skillDrill).teamMemberSkills.values.map TeamMemberSkillRecord.pair = [("a:b", "c")] := by
    decide +kernel
  intro other _ same
  cases found : filedUnder TeamMemberSkillRecord.pair (coreBehind skillDrill).teamMemberSkills other with
  | none => rfl
  | some record =>
    have own : record.pair = other := by simpa using List.find?_some found
    have mem := List.mem_map_of_mem (f := TeamMemberSkillRecord.pair) (List.mem_of_find?_eq_some found)
    rw [pairs, own, List.mem_singleton] at mem
    rw [mem] at same
    exact absurd same (by decide)

/-- A rating of the other member for the rated skill leaves the rating as it is. -/
theorem composite_records_kept_drill :
    letI := Host.blank
    filedUnder TeamMemberSkillRecord.pair ((upsertTeamMemberSkillFromArgs (.object (skillArgs "a" "c"))).run
      (World.atEpoch (coreBehind skillDrill))).2.core.teamMemberSkills ("a:b", "c") =
        filedUnder TeamMemberSkillRecord.pair (coreBehind skillDrill).teamMemberSkills ("a:b", "c") := by
  let _ := Host.blank
  have run : CommandRun (fun _ _ _ => True) RchCore.new (coreBehind skillDrill) := coreBehind_run fun _ _ _ => trivial
  have accepted : ((upsertTeamMemberSkillFromArgs (.object (skillArgs "a" "c"))).run
      (World.atEpoch (coreBehind skillDrill))).1.toOption.isSome = true := by
    decide +kernel
  cases outcome : ((upsertTeamMemberSkillFromArgs (.object (skillArgs "a" "c"))).run
      (World.atEpoch (coreBehind skillDrill))).1 with
  | error e =>
    rw [outcome] at accepted
    exact absurd accepted nofun
  | ok record =>
    obtain ⟨-, kept⟩ := (composite_records_kept_iff run).1 (.object (skillArgs "a" "c")) "a" "c" _ record rfl (by rfl)
      (by rfl) outcome
    exact kept.2 skillDrill_alone ("a:b", "c") (by decide)

/-- The rating of a member is lost to one of another member for another skill. -/
theorem skill_record_clobbered :
    letI := Host.blank
    CommandRun (fun _ _ _ => True) RchCore.new (coreBehind skillDrill) ∧
    (filedUnder TeamMemberSkillRecord.pair (coreBehind skillDrill).teamMemberSkills ("a:b", "c")).isSome = true ∧
    (((upsertTeamMemberSkillFromArgs (.object (skillArgs "a" "b:c"))).run
      (World.atEpoch (coreBehind skillDrill))).1.toOption.map TeamMemberSkillRecord.pair) = some ("a", "b:c") ∧
    filedUnder TeamMemberSkillRecord.pair ((upsertTeamMemberSkillFromArgs (.object (skillArgs "a" "b:c"))).run
      (World.atEpoch (coreBehind skillDrill))).2.core.teamMemberSkills ("a:b", "c") = none := by
  let _ := Host.blank
  refine ⟨coreBehind_run fun _ _ _ => trivial, ?_⟩
  decide +kernel

end TelemetryHub
