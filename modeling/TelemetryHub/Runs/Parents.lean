import TelemetryHub.Lib.Forest
import TelemetryHub.Edits.MissionWrites
import TelemetryHub.Runs.Mirrors

/-!
# The parents of missions along a run

Each parent of a mission is a mission, and the way up from a mission ends. The check of a
new parent climbs that way, and accepts it exactly if no cycle comes of it.
-/

namespace TelemetryHub

open Lib CoreM

/-- The mission above another. -/
def RchCore.parentOf (core : RchCore) (uid : String) : Option String :=
  (core.missions.get uid).bind MissionRecord.parentUid

/-- The missions are a forest by their parents. -/
structure MissionForest (core : RchCore) : Prop where
  known : ∀ uid parentUid, core.parentOf uid = some parentUid → core.missions.contains parentUid = true
  rooted : ∀ uid, Rooted core.parentOf uid

/-! ## The check -/

/-- The loop of `ensure_parent_chain_acyclic` from what it has seen and where it is, with as
many turns as it makes. -/
inductive ClimbsTo (missions : Dict String MissionRecord) : List String → Option String → Except RchCoreError Unit → Prop
  | top (seen) : ClimbsTo missions seen none (.ok ())
  | cycle {seen uid} (again : uid ∈ seen) :
      ClimbsTo missions seen (some uid) (invalidPayload "mission parent relationship would create a cycle")
  | missing {seen uid} (first : uid ∉ seen) (unknown : missions.get uid = none) :
      ClimbsTo missions seen (some uid) (invalidPayload ("Parent mission '" ++ uid ++ "' not found"))
  | up {seen uid parent result} (first : uid ∉ seen) (found : missions.get uid = some parent)
      (rest : ClimbsTo missions (uid :: seen) parent.parentUid result) : ClimbsTo missions seen (some uid) result

/-- The check of a parent with its loop run to the end. -/
inductive EnsuresTo (core : RchCore) (missionUid : String) : Option String → Except RchCoreError Unit → Prop
  | none : EnsuresTo core missionUid none (.ok ())
  | itself : EnsuresTo core missionUid (some missionUid) (invalidPayload "parent_uid cannot reference itself")
  | climb {parentUid result} (other : parentUid ≠ missionUid)
      (climbed : ClimbsTo core.missions [missionUid] (some parentUid) result) :
      EnsuresTo core missionUid (some parentUid) result

/-- The loop ends one way. -/
theorem ClimbsTo.unique {missions : Dict String MissionRecord} {seen : List String} {current : Option String}
    {result result' : Except RchCoreError Unit} (one : ClimbsTo missions seen current result)
    (two : ClimbsTo missions seen current result') : result = result' := by
  induction one with
  | top => cases two; rfl
  | cycle again =>
    cases two with
    | cycle => rfl
    | missing first _ => exact absurd again first
    | up first _ _ => exact absurd again first
  | missing first unknown =>
    cases two with
    | cycle again => exact absurd again first
    | missing => rfl
    | up _ found _ => exact absurd (unknown.symm.trans found) nofun
  | up first found rest ih =>
    cases two with
    | cycle again => exact absurd again first
    | missing _ unknown => exact absurd (unknown.symm.trans found) nofun
    | up _ found' rest' =>
      obtain rfl := Option.some.inj (found.symm.trans found')
      exact ih rest'

theorem EnsuresTo.unique {core : RchCore} {missionUid : String} {parentUid : Option String}
    {result result' : Except RchCoreError Unit} (one : EnsuresTo core missionUid parentUid result)
    (two : EnsuresTo core missionUid parentUid result') : result = result' := by
  cases one with
  | none => cases two; rfl
  | itself =>
    cases two with
    | itself => rfl
    | climb other _ => exact absurd rfl other
  | climb other climbed =>
    cases two with
    | itself => exact absurd rfl other
    | climb _ climbed' => exact climbed.unique climbed'

/-- The missions that a climb has not seen. -/
def unseenMissions (missions : Dict String MissionRecord) (seen : List String) : List (String × MissionRecord) :=
  missions.toPairs.filter fun entry => !seen.contains entry.1

/-- A turn sees one more. -/
theorem unseenMissions_cons {missions : Dict String MissionRecord} {seen : List String} {uid : String}
    {mission : MissionRecord} (first : uid ∉ seen) (found : missions.get uid = some mission) :
    (unseenMissions missions (uid :: seen)).length < (unseenMissions missions seen).length := by
  have split : unseenMissions missions (uid :: seen) =
      (unseenMissions missions seen).filter fun entry => !(entry.1 == uid) := by
    rw [unseenMissions, unseenMissions, List.filter_filter]
    refine List.filter_congr fun entry _ => ?_
    rw [List.contains_cons, Bool.not_or]
  rw [split, List.length_filter_lt_length_iff_exists]
  refine ⟨(uid, mission), List.mem_filter.2 ⟨Dict.mem_toPairs.2 found, ?_⟩, ?_⟩
  · simpa using first
  · simp

/-- With a turn for each mission it has not seen, and one more, the climb is the loop. -/
theorem climbParents_climbs {missions : Dict String MissionRecord} {fuel : Nat} {seen : List String}
    {current : Option String} (enough : (unseenMissions missions seen).length < fuel) :
    ClimbsTo missions seen current (climbParents missions fuel seen current) := by
  induction fuel generalizing seen current with
  | zero => omega
  | succ fuel ih =>
    cases current with
    | none => exact .top seen
    | some uid =>
      rw [climbParents]
      by_cases again : uid ∈ seen
      · rw [if_pos again]
        exact .cycle again
      · rw [if_neg again]
        cases found : missions.get uid with
        | none => exact .missing again found
        | some parent =>
          have fewer := unseenMissions_cons again found
          exact .up again found (ih (by omega))

/-- The check ends in every state, as the loop does. -/
theorem ensureParentChainAcyclic_ends (core : RchCore) (missionUid : String) (parentUid : Option String) :
    EnsuresTo core missionUid parentUid (ensureParentChainAcyclic core missionUid parentUid) := by
  have enough : (unseenMissions core.missions [missionUid]).length < core.missions.values.length + 1 := by
    have bound := List.length_filter_le (fun entry : String × MissionRecord => ! [missionUid].contains entry.1) core.missions.toPairs
    rw [unseenMissions]
    rw [Dict.toPairs, List.length_map] at bound
    rw [Dict.values, List.length_map]
    exact Nat.lt_succ_of_le bound
  unfold ensureParentChainAcyclic
  cases parentUid with
  | none =>
    rw [if_neg (Option.some_ne_none missionUid).symm, climbParents]
    exact .none
  | some parentUid =>
    by_cases itself : parentUid = missionUid
    · rw [if_pos (congrArg some itself)]
      subst itself
      exact .itself
    · rw [if_neg fun same => itself (Option.some.inj same)]
      exact .climb itself (climbParents_climbs enough)

namespace MissionForest

variable {core core' : RchCore}

theorem new : MissionForest RchCore.new := ⟨nofun, fun _ => .root rfl⟩

theorem of_same (h : MissionForest core) (same : core'.missions = core.missions) : MissionForest core' := by
  have parents : core'.parentOf = core.parentOf := by
    funext uid
    rw [RchCore.parentOf, same, RchCore.parentOf]
  refine ⟨fun uid parentUid up => ?_, fun uid => ?_⟩
  · rw [same]
    exact h.known uid parentUid (parents ▸ up)
  · rw [parents]
    exact h.rooted uid

/-- In a forest the climb gets to the top if it starts at a mission and meets nothing it has seen. -/
theorem climbs_iff (h : MissionForest core) (uid : String) {seen : List String} :
    ClimbsTo core.missions seen (some uid) (.ok ()) ↔
      core.missions.contains uid = true ∧ ∀ other ∈ seen, ¬OnChain core.parentOf uid other := by
  induction h.rooted uid generalizing seen with
  | @root uid top =>
    constructor
    · rintro (_ | _ | _ | ⟨first, found, -⟩)
      refine ⟨Dict.contains_iff.2 ⟨_, found⟩, fun other mem chain => first ?_⟩
      exact (onChain_root top).1 chain ▸ mem
    · rintro ⟨contained, apart⟩
      obtain ⟨mission, found⟩ := Dict.contains_iff.1 contained
      have none : mission.parentUid = none := by
        rw [RchCore.parentOf, found] at top
        exact top
      exact .up (fun mem => apart uid mem .refl) found (none ▸ .top _)
  | @climb uid parentUid up _ ih =>
    constructor
    · rintro (_ | _ | _ | ⟨first, found, rest⟩)
      refine ⟨Dict.contains_iff.2 ⟨_, found⟩, fun other mem chain => ?_⟩
      rename_i mission
      have parent : mission.parentUid = some parentUid := by
        rw [RchCore.parentOf, found] at up
        exact up
      rw [parent] at rest
      rcases (onChain_climb up).1 chain with rfl | higher
      · exact first mem
      · exact (ih.1 rest).2 other (List.mem_cons_of_mem _ mem) higher
    · rintro ⟨contained, apart⟩
      obtain ⟨mission, found⟩ := Dict.contains_iff.1 contained
      have parent : mission.parentUid = some parentUid := by
        rw [RchCore.parentOf, found] at up
        exact up
      refine .up (fun mem => apart uid mem .refl) found ?_
      rw [parent]
      refine ih.2 ⟨h.known uid parentUid up, fun other mem chain => ?_⟩
      rcases List.mem_cons.1 mem with rfl | mem
      · exact (h.rooted other).notOnChain up chain
      · exact apart other mem ((onChain_climb up).2 (.inr chain))

/-- The check accepts the missions that are not below the one to be moved. -/
theorem ensures_iff (h : MissionForest core) (missionUid parentUid : String) :
    ensureParentChainAcyclic core missionUid (some parentUid) = .ok () ↔
      core.missions.contains parentUid = true ∧ ¬OnChain core.parentOf parentUid missionUid := by
  have ends := ensureParentChainAcyclic_ends core missionUid (some parentUid)
  constructor
  · intro accepted
    rw [accepted] at ends
    obtain - | - | ⟨-, climbed⟩ := ends
    obtain ⟨contained, apart⟩ := (h.climbs_iff parentUid).1 climbed
    exact ⟨contained, apart missionUid List.mem_cons_self⟩
  · rintro ⟨contained, apart⟩
    have other : parentUid ≠ missionUid := by
      rintro rfl
      exact apart .refl
    have climbed : ClimbsTo core.missions [missionUid] (some parentUid) (.ok ()) :=
      (h.climbs_iff parentUid).2 ⟨contained, fun seen mem => List.mem_singleton.1 mem ▸ apart⟩
    exact ends.unique (.climb other climbed)

/-- A mission put where its parent is the one before or has been checked. -/
theorem put (h : MissionForest core) {uid : String} {mission : MissionRecord}
    (parent : mission.parentUid = core.parentOf uid ∨ ensureParentChainAcyclic core uid mission.parentUid = .ok ()) :
    MissionForest { core with missions := core.missions.insert uid mission } := by
  have parents : RchCore.parentOf { core with missions := core.missions.insert uid mission } =
      Function.update core.parentOf uid mission.parentUid := by
    funext other
    rw [RchCore.parentOf, Dict.get_insert]
    by_cases same : other = uid
    · subst same
      rw [if_pos rfl, Function.update_self]
      rfl
    · rw [if_neg same, Function.update_of_ne same]
      rfl
  -- the parent that is written is a mission that is not below this one
  have checked : ∀ parentUid, mission.parentUid = some parentUid →
      core.missions.contains parentUid = true ∧ ¬OnChain core.parentOf parentUid uid := by
    intro parentUid given
    rcases parent with same | accepted
    · rw [given] at same
      exact ⟨h.known uid parentUid same.symm, (h.rooted uid).notOnChain same.symm⟩
    · rw [given] at accepted
      exact (h.ensures_iff uid parentUid).1 accepted
  refine ⟨fun other parentUid up => Dict.contains_insert.2 (.inr ?_), fun other => ?_⟩
  · rw [parents] at up
    by_cases same : other = uid
    · subst same
      rw [Function.update_self] at up
      exact (checked parentUid up).1
    · rw [Function.update_of_ne same] at up
      exact h.known other parentUid up
  · rw [parents]
    exact rooted_update h.rooted (fun parentUid given => (checked parentUid given).2) other

theorem write (h : MissionForest core) {blank : Prop} (edit : MissionWrite blank core core') : MissionForest core' := by
  cases edit with
  | put uid mission status parent => exact h.put parent
  | other core' same => exact h.of_same same

end MissionForest

/-! ## Runs -/

section

variable [Host]

/-- What every write to the missions preserves, and depends on the missions only, the commands
of a family do. -/
theorem CommandFamily.apply_missions {P : RchCore → Prop} (family : CommandFamily) (command : MissionCommandEnvelope)
    (same : ∀ core core', core'.missions = core.missions → P core → P core')
    (writes : ∀ core core', P core → MissionWrite (GivesBlankMissionStatus command) core core' → P core') (w : World)
    (h : P w.core) : P ((family.apply command).run w).2.core := by
  have walked : ∀ {m : CoreM EventEnvelope}, Spec (fun _ => True) m w.core
      (Proc.Outcome False (MissionWrite (GivesBlankMissionStatus command)) w.core) → P (m.run w).2.core := by
    intro m spec
    have steps : Relation.ReflTransGen (MissionWrite (GivesBlankMissionStatus command)) w.core (m.run w).2.core :=
      (spec w rfl fun _ => trivial).1.steps
    generalize (m.run w).2.core = core' at steps ⊢
    induction steps with
    | refl => exact h
    | tail _ edit ih => exact writes _ _ ih edit
  by_cases checklists : family = .checklist
  · subst checklists
    refine applyChecklistCommand_holds (fun core core' h edit => ?_) command w h
    refine same core core' ?_ h
    cases edit with
    | journal entry => cases entry <;> rfl
    | _ => rfl
  by_cases missions : family = .mission
  · subst missions
    exact walked (applyRegistryMissionCommand_writes command)
  by_cases logs : family = .log
  · subst logs
    exact walked (applyRegistryLogCommand_writes command)
  refine family.apply_holds (P := P) checklists (fun core core' h edit => same core core' ?_ h) command w h
  have assets : ∀ core core', AssetEdit core core' → core'.missions = core.missions := by
    intro core core' edit
    cases edit with
    | journal entry => cases entry <;> rfl
    | _ => rfl
  cases family with
  | asset => exact assets _ _ edit
  | skill => exact assets _ _ edit
  | assignment => exact assets _ _ edit
  | checklist => exact absurd rfl checklists
  | mission => exact absurd rfl missions
  | log => exact absurd rfl logs
  | _ => cases edit <;> rfl

/-- Along every run the missions are a forest. -/
theorem run_missionForest {permitted : CommandEntry → MissionCommandEnvelope → World → Prop} {core : RchCore}
    (run : CommandRun permitted RchCore.new core) : MissionForest core :=
  run.holds .new fun entry command w _ h => entry.after_holds command
    (fun _ _ h edit => h.of_same (by cases edit <;> rfl)) w
    (fun family w' _ h' => family.apply_missions command (fun _ _ same h => h.of_same same)
      (fun _ _ h edit => h.write edit) w' h') h

/-- In every state that commands reach the missions are a forest; the check of a parent ends
there, one way, and accepts a mission exactly if no cycle comes of it, and nothing else. -/
theorem mission_parents_forest {core : RchCore} (run : CommandRun (fun _ _ _ => True) RchCore.new core) :
    MissionForest core ∧
      (∀ missionUid parentUid result, EnsuresTo core missionUid parentUid result ↔
        ensureParentChainAcyclic core missionUid parentUid = result) ∧
      (∀ missionUid parentUid, core.missions.contains parentUid = true →
        (ensureParentChainAcyclic core missionUid (some parentUid) = .ok () ↔
          Acyclic (Function.update core.parentOf missionUid (some parentUid)))) ∧
      (∀ missionUid parentUid, core.missions.contains parentUid = false →
        ensureParentChainAcyclic core missionUid (some parentUid) ≠ .ok ()) ∧
      ∀ missionUid, ensureParentChainAcyclic core missionUid none = .ok () ∧
        Acyclic (Function.update core.parentOf missionUid none) := by
  have forest := run_missionForest run
  refine ⟨forest, ?_, ?_, ?_, ?_⟩
  · intro missionUid parentUid result
    have ends := ensureParentChainAcyclic_ends core missionUid parentUid
    exact ⟨fun other => ends.unique other, fun same => same ▸ ends⟩
  · intro missionUid parentUid contained
    rw [forest.ensures_iff, acyclic_update_iff forest.rooted]
    exact and_iff_right contained
  · intro missionUid parentUid unknown accepted
    have contained := ((forest.ensures_iff missionUid parentUid).1 accepted).1
    rw [unknown] at contained
    exact absurd contained nofun
  · refine fun missionUid => ⟨(ensureParentChainAcyclic_ends core missionUid none).unique .none, fun other => ?_⟩
    have apart : ∀ parentUid, none = some parentUid → ¬OnChain core.parentOf parentUid missionUid := nofun
    exact (rooted_update forest.rooted apart other).acyclic

end

/-! ## A drill -/

/-- A mission and one below it. -/
def twoMissions : List MissionCommandEnvelope :=
  [drillCommand "2" "mission.registry.mission.upsert" [("uid", .string "b"), ("parent_uid", .string "a")],
    drillCommand "1" "mission.registry.mission.upsert" [("uid", .string "a")]]

/-- Below the one mission the other cannot be put. -/
theorem mission_parents_drill :
    letI := Host.blank
    (coreBehind twoMissions).parentOf "b" = some "a" ∧
      ensureParentChainAcyclic (coreBehind twoMissions) "a" (some "b") ≠ .ok () := by
  let _ := Host.blank
  have run : CommandRun (fun _ _ _ => True) RchCore.new (coreBehind twoMissions) := coreBehind_run fun _ _ _ => trivial
  have above : (coreBehind twoMissions).parentOf "b" = some "a" := by decide +kernel
  have known : (coreBehind twoMissions).missions.contains "b" = true := by decide +kernel
  refine ⟨above, fun accepted => ?_⟩
  have acyclic := ((mission_parents_forest run).2.2.1 "a" "b" known).1 accepted
  have chain : OnChain (coreBehind twoMissions).parentOf "b" "a" := .single above
  exact acyclic "a" (cycle_of_onChain chain)

end TelemetryHub
