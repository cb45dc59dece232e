import TelemetryHub.Server.Sends
import TelemetryHub.Core.Listing

/-!
# Mission change listeners

A command that leaves other mission changes than it found hands each of them to the
fan-out and records an event of it. A cache of the change uids that were fanned out
within a day keeps a uid from being fanned out again, whatever its payload now is.
-/

namespace TelemetryHub

open Lib ServerM

/-! ## Equality of JSON values -/

/-- `Number::eq`. -/
def Number.same : Number → Number → Bool
  | .int n, .int n' => n == n'
  | .float x, .float x' => x == x'
  | _, _ => false

mutual

/-- `Value::eq`: objects are compared as maps. -/
def Value.same : Value → Value → Bool
  | .null, .null => true
  | .bool b, .bool b' => b == b'
  | .number n, .number n' => n.same n'
  | .string s, .string s' => s == s'
  | .array items, .array items' => Value.sameItems items items'
  | .object fields, .object fields' => fields.length == fields'.length && Value.sameFields fields fields'
  | _, _ => false

/-- The elements one by one. -/
def Value.sameItems : List Value → List Value → Bool
  | [], [] => true
  | item :: items, item' :: items' => item.same item' && Value.sameItems items items'
  | _, _ => false

/-- Every field has its like in the other object. -/
def Value.sameFields : List (String × Value) → List (String × Value) → Bool
  | [], _ => true
  | (key, value) :: fields, fields' =>
    (match fields'.lookup key with
      | some value' => value.same value'
      | none => false) && Value.sameFields fields fields'

end

/-! ## The cache -/

/-- `MISSION_CHANGE_FANOUT_CACHE_TTL_MS`. -/
def missionChangeFanoutCacheTtlMs : Int := 24 * 60 * 60 * 1000

/-- `now_ms.saturating_add(MISSION_CHANGE_FANOUT_CACHE_TTL_MS)`. -/
def fanoutExpiry (nowMs : Int) : Int := saturateI64 (nowMs + missionChangeFanoutCacheTtlMs)

/-- `prune_mission_change_fanout_cache`. -/
def pruneMissionChangeFanoutCache (cache : Dict String Int) (nowMs : Int) : Dict String Int :=
  cache.retain fun _ expiresAtMs => nowMs < expiresAtMs

/-- `mark_mission_change_fanned_out`. -/
def markMissionChangeFannedOut (cache : Dict String Int) (missionChangeUid : String) (nowMs : Int) :
    Bool × Dict String Int :=
  let uid := trim missionChangeUid
  if uid.isEmpty then (true, cache)
  else
    let cache := pruneMissionChangeFanoutCache cache nowMs
    if cache.contains uid then (false, cache) else (true, cache.insert uid (fanoutExpiry nowMs))

/-- The server and `mission_change_fanout_cache`. -/
structure ListenerWorld where
  server : ServerWorld
  missionChangeFanoutCache : Dict String Int := ∅

/-- A handler on both. -/
abbrev ListenerM (α : Type) : Type := Proc ApiError ListenerWorld α

/-- A handler of the server: it leaves the cache alone. -/
def onServer {α : Type} (m : ServerM α) : ListenerM α := fun w =>
  ((m.run w.server).1, { w with server := (m.run w.server).2 })

/-! ## Listener events -/

/-- The `uid` of a mission change. -/
def missionChangeUid (change : Value) : String := ((change.get "uid").bind Value.asStr).getD ""

/-- The order of the changes: by `timestamp`, then by `uid`. -/
def compareMissionChanges (left right : Value) : Ordering :=
  (compare ((left.get "timestamp").bind Value.asStr) ((right.get "timestamp").bind Value.asStr)).then
    (compare ((left.get "uid").bind Value.asStr) ((right.get "uid").bind Value.asStr))

/-- The payloads that are not as they were. -/
def changedPayloads (before after : Dict String Value) : List Value :=
  sortBy compareMissionChanges
    ((after.toPairs.filter fun entry => !(before.get entry.1).any fun payload => payload.same entry.2).map Prod.snd)

/-- The summary of a change that was not fanned out. -/
def duplicateSuppressed : Value :=
  .object [
    ("attempted", .bool false),
    ("reason", toValue "duplicate_suppressed"),
    ("recipient_count", toValue 0),
    ("sent", toValue 0),
    ("failed", toValue 0)]

/-- The event of a change. -/
def recordListenerEvent (change : Value) (fanoutMarked : Bool) (fanoutSummary : Value) : ListenerM Unit := do
  let _ ← onServer (recordSystemEvent "mission.registry.mission_change.upserted" "Mission change listener notification"
    (.object [
      ("mission_uid", toValue (((change.get "mission_uid").bind Value.asStr).getD "")),
      ("mission_change_uid", toValue (missionChangeUid change)),
      ("mission_change", change),
      ("listener_event", .bool true),
      ("fanout_duplicate_suppressed", .bool !fanoutMarked),
      ("fanout_cache_ttl_ms", toValue missionChangeFanoutCacheTtlMs),
      ("recipient_fanout", fanoutSummary)]))
  return ()

section

-- `fanout_mission_change_to_recipients`, of the mission, the uid and the change: any handler
-- of the server, which may fail.
variable (fanout : String → String → Value → ServerM Value)

/-- A change that is fanned out. -/
def fanOutMissionChange (change : Value) : ListenerM Unit := do
  let summary ← onServer (fanout (((change.get "mission_uid").bind Value.asStr).getD "") (missionChangeUid change) change)
  recordListenerEvent change true summary

/-- One change of `emit_mission_change_listener_events`. -/
def emitMissionChange (change : Value) : ListenerM Unit := do
  let nowMs ← onServer unixNowMs
  let fanoutMarked ← modifyGet fun w =>
    let marked := markMissionChangeFannedOut w.missionChangeFanoutCache (missionChangeUid change) nowMs
    (marked.1, { w with missionChangeFanoutCache := marked.2 })
  if fanoutMarked then fanOutMissionChange fanout change
  else recordListenerEvent change false duplicateSuppressed

/-- `emit_mission_change_listener_events`. -/
def emitMissionChangeListenerEvents (before after : Dict String Value) : ListenerM Unit :=
  (changedPayloads before after).forM (emitMissionChange fanout)

end

/-! ## Runs -/

/-- What a run does with the cache. -/
inductive FanoutStep where
  | pruned (nowMs : Int)
  | change (payload : Value) (nowMs : Int) (fannedOut : Bool)

namespace FanoutStep

/-- The uid of a change, as the cache has it. -/
def uid : FanoutStep → String
  | pruned _ => ""
  | change payload _ _ => trim (missionChangeUid payload)

/-- The time at which a step looks into the cache. -/
def readAt : FanoutStep → Option Int
  | pruned nowMs => some nowMs
  | change payload nowMs _ => if (trim (missionChangeUid payload)).isEmpty then none else some nowMs

end FanoutStep

/-- The uid was fanned out, and the clock has not been seen to reach a day later since. -/
def FannedOutRecently (steps : List FanoutStep) (uid : String) (nowMs : Int) : Prop :=
  ∃ earlier payload fannedAt later, steps = earlier ++ .change payload fannedAt true :: later ∧
    trim (missionChangeUid payload) = uid ∧ nowMs < fanoutExpiry fannedAt ∧
    ∀ step ∈ later, ∀ readAt, step.readAt = some readAt → readAt < fanoutExpiry fannedAt

/-- The steps of the changes of one call. -/
def changeSteps (fanout : String → String → Value → ServerM Value) : List Value → ListenerWorld → List FanoutStep
  | [], _ => []
  | payload :: rest, w =>
    let nowMs := (w.server.clock 0).timestampMillis
    .change payload nowMs (markMissionChangeFannedOut w.missionChangeFanoutCache (missionChangeUid payload) nowMs).1 ::
      changeSteps fanout rest ((emitMissionChange fanout payload).run w).2

/-- The cache holds what was fanned out recently. -/
def CacheHolds (steps : List FanoutStep) (cache : Dict String Int) : Prop :=
  ∀ uid expiresAtMs, cache.get uid = some expiresAtMs ↔
    uid ≠ "" ∧ ∃ earlier payload fannedAt later, steps = earlier ++ .change payload fannedAt true :: later ∧
      trim (missionChangeUid payload) = uid ∧ expiresAtMs = fanoutExpiry fannedAt ∧
      ∀ step ∈ later, ∀ readAt, step.readAt = some readAt → readAt < fanoutExpiry fannedAt

theorem snoc_eq_split {α : Type} {steps earlier later : List α} {step x : α} :
    steps ++ [step] = earlier ++ x :: later ↔
      (later = [] ∧ steps = earlier ∧ step = x) ∨ ∃ later', later = later' ++ [step] ∧ steps = earlier ++ x :: later' := by
  constructor
  · intro h
    rcases List.eq_nil_or_concat later with rfl | ⟨later', last, rfl⟩
    · left
      have h := List.append_inj' h rfl
      exact ⟨rfl, h.1, List.cons.inj h.2 |>.1⟩
    · right
      rw [List.concat_eq_append, ← List.cons_append, ← List.append_assoc] at h
      have h := List.append_inj' h rfl
      use later'
      rw [List.concat_eq_append, ← (List.cons.inj h.2).1]
      exact ⟨rfl, h.1⟩
  · rintro (⟨rfl, rfl, rfl⟩ | ⟨later', rfl, rfl⟩)
    · rfl
    · simp

theorem CacheHolds.start : CacheHolds [] ∅ := by
  intro uid expiresAtMs
  constructor
  · intro h
    rw [Dict.get_empty] at h
    cases h
  · rintro ⟨-, earlier, _, _, later, h, -⟩
    cases earlier <;> cases h

/-- A reading that fans nothing out prunes the cache. -/
theorem CacheHolds.read {steps : List FanoutStep} {cache : Dict String Int} (h : CacheHolds steps cache)
    {step : FanoutStep} {nowMs : Int} (hread : step.readAt = some nowMs)
    (hquiet : ∀ payload fannedAt, step ≠ .change payload fannedAt true) :
    CacheHolds (steps ++ [step]) (pruneMissionChangeFanoutCache cache nowMs) := by
  intro uid expiresAtMs
  rw [pruneMissionChangeFanoutCache, Dict.get_retain, Option.filter_eq_some_iff, h uid expiresAtMs]
  constructor
  · rintro ⟨⟨huid, earlier, payload, fannedAt, later, rfl, htrim, rfl, hlater⟩, hnow⟩
    use huid, earlier, payload, fannedAt, later ++ [step]
    constructor
    · simp
    · use htrim, rfl
      intro other hother readAt hreadAt
      rcases List.mem_append.mp hother with hother | hother
      · exact hlater other hother readAt hreadAt
      · rw [List.mem_singleton.mp hother, hread] at hreadAt
        cases hreadAt
        simpa using hnow
  · rintro ⟨huid, earlier, payload, fannedAt, later, hsteps, htrim, hexpires, hlater⟩
    rcases snoc_eq_split.mp hsteps with ⟨-, -, hstep⟩ | ⟨later', rfl, rfl⟩
    · exact absurd hstep (hquiet payload fannedAt)
    · have hnow : nowMs < fanoutExpiry fannedAt := hlater step (by simp) nowMs hread
      constructor
      · use huid, earlier, payload, fannedAt, later', rfl, htrim, hexpires
        intro other hother
        exact hlater other (List.mem_append_left _ hother)
      · simpa [hexpires] using hnow

/-- A change without a uid passes the cache by. -/
theorem CacheHolds.blank {steps : List FanoutStep} {cache : Dict String Int} (h : CacheHolds steps cache)
    {payload : Value} (hblank : trim (missionChangeUid payload) = "") (nowMs : Int) (fannedOut : Bool) :
    CacheHolds (steps ++ [.change payload nowMs fannedOut]) cache := by
  intro uid expiresAtMs
  rw [h uid expiresAtMs]
  have hread : (FanoutStep.change payload nowMs fannedOut).readAt = none := by simp [FanoutStep.readAt, hblank]
  constructor
  · rintro ⟨huid, earlier, payload', fannedAt, later, rfl, htrim, rfl, hlater⟩
    use huid, earlier, payload', fannedAt, later ++ [.change payload nowMs fannedOut]
    constructor
    · simp
    · use htrim, rfl
      intro other hother readAt hreadAt
      rcases List.mem_append.mp hother with hother | hother
      · exact hlater other hother readAt hreadAt
      · rw [List.mem_singleton.mp hother, hread] at hreadAt
        cases hreadAt
  · rintro ⟨huid, earlier, payload', fannedAt, later, hsteps, htrim, hexpires, hlater⟩
    rcases snoc_eq_split.mp hsteps with ⟨-, -, hstep⟩ | ⟨later', rfl, rfl⟩
    · cases hstep
      exact absurd (htrim.symm.trans hblank) huid
    · use huid, earlier, payload', fannedAt, later', rfl, htrim, hexpires
      intro other hother
      exact hlater other (List.mem_append_left _ hother)

/-- A change that is fanned out is put in. -/
theorem CacheHolds.fanOut {steps : List FanoutStep} {cache : Dict String Int} (h : CacheHolds steps cache)
    {payload : Value} {uid : String} (huid : trim (missionChangeUid payload) = uid) (hnamed : uid ≠ "") {nowMs : Int}
    (hfree : (pruneMissionChangeFanoutCache cache nowMs).contains uid = false) :
    CacheHolds (steps ++ [.change payload nowMs true])
      ((pruneMissionChangeFanoutCache cache nowMs).insert uid (fanoutExpiry nowMs)) := by
  have hread : (FanoutStep.change payload nowMs true).readAt = some nowMs := by
    simp [FanoutStep.readAt, huid, hnamed]
  intro other expiresAtMs
  rw [Dict.get_insert]
  by_cases hother : other = uid
  · subst hother
    rw [if_pos rfl]
    constructor
    · intro hexpires
      cases hexpires
      exact ⟨hnamed, steps, payload, nowMs, [], rfl, huid, rfl, nofun⟩
    · rintro ⟨-, earlier, payload', fannedAt, later, hsteps, htrim, hexpires, hlater⟩
      rcases snoc_eq_split.mp hsteps with ⟨-, -, hstep⟩ | ⟨later', rfl, rfl⟩
      · cases hstep
        rw [hexpires]
      · have hnow : nowMs < fanoutExpiry fannedAt := hlater _ (by simp) nowMs hread
        have hheld : cache.get other = some (fanoutExpiry fannedAt) := by
          apply (h other _).mpr
          use hnamed, earlier, payload', fannedAt, later', rfl, htrim, rfl
          intro step hstep
          exact hlater step (List.mem_append_left _ hstep)
        rw [Dict.contains_eq_false, pruneMissionChangeFanoutCache, Dict.get_retain, hheld] at hfree
        simp [Option.filter_some, hnow] at hfree
  · rw [if_neg hother]
    have hread' : FanoutStep.readAt (.pruned nowMs) = some nowMs := rfl
    have hpruned := (h.read hread' nofun) other expiresAtMs
    rw [hpruned]
    constructor
    · rintro ⟨hnamed', earlier, payload', fannedAt, later, hsteps, htrim, hexpires, hlater⟩
      rcases snoc_eq_split.mp hsteps with ⟨-, -, hstep⟩ | ⟨later', rfl, rfl⟩
      · cases hstep
      · use hnamed', earlier, payload', fannedAt, later' ++ [.change payload nowMs true]
        constructor
        · simp
        · use htrim, hexpires
          intro step hstep readAt hreadAt
          rcases List.mem_append.mp hstep with hstep | hstep
          · exact hlater step (List.mem_append_left _ hstep) readAt hreadAt
          · rw [List.mem_singleton.mp hstep, hread] at hreadAt
            exact hlater (.pruned nowMs) (by simp) readAt hreadAt
    · rintro ⟨hnamed', earlier, payload', fannedAt, later, hsteps, htrim, hexpires, hlater⟩
      rcases snoc_eq_split.mp hsteps with ⟨-, -, hstep⟩ | ⟨later', rfl, rfl⟩
      · cases hstep
        exact absurd (htrim.symm.trans huid) hother
      · use hnamed', earlier, payload', fannedAt, later' ++ [.pruned nowMs]
        constructor
        · simp
        · use htrim, hexpires
          intro step hstep readAt hreadAt
          rcases List.mem_append.mp hstep with hstep | hstep
          · exact hlater step (List.mem_append_left _ hstep) readAt hreadAt
          · rw [List.mem_singleton.mp hstep] at hreadAt
            cases hreadAt
            exact hlater _ (by simp) nowMs hread

/-- What the cache knows of a uid. -/
theorem CacheHolds.contains_iff {steps : List FanoutStep} {cache : Dict String Int} (h : CacheHolds steps cache)
    {uid : String} (hnamed : uid ≠ "") (nowMs : Int) :
    (pruneMissionChangeFanoutCache cache nowMs).contains uid = true ↔ FannedOutRecently steps uid nowMs := by
  rw [Dict.contains_iff]
  constructor
  · rintro ⟨expiresAtMs, hget⟩
    rw [pruneMissionChangeFanoutCache, Dict.get_retain, Option.filter_eq_some_iff] at hget
    obtain ⟨hget, hnow⟩ := hget
    obtain ⟨-, earlier, payload, fannedAt, later, hsteps, htrim, rfl, hlater⟩ := (h uid _).mp hget
    exact ⟨earlier, payload, fannedAt, later, hsteps, htrim, by simpa using hnow, hlater⟩
  · rintro ⟨earlier, payload, fannedAt, later, hsteps, htrim, hnow, hlater⟩
    use fanoutExpiry fannedAt
    rw [pruneMissionChangeFanoutCache, Dict.get_retain, Option.filter_eq_some_iff]
    constructor
    · exact (h uid _).mpr ⟨hnamed, earlier, payload, fannedAt, later, hsteps, htrim, rfl, hlater⟩
    · simpa using hnow

/-- What marking a change decides. -/
theorem CacheHolds.marks_iff {steps : List FanoutStep} {cache : Dict String Int} (h : CacheHolds steps cache)
    (missionChangeUid : String) (nowMs : Int) :
    (markMissionChangeFannedOut cache missionChangeUid nowMs).1 = true ↔
      trim missionChangeUid = "" ∨ ¬FannedOutRecently steps (trim missionChangeUid) nowMs := by
  by_cases hblank : trim missionChangeUid = ""
  · simp [markMissionChangeFannedOut, hblank]
  · rw [← h.contains_iff hblank nowMs]
    simp only [markMissionChangeFannedOut, String.isEmpty_iff, hblank, if_false, false_or]
    split <;> simp [*]

/-- What marking a change leaves in the cache. -/
theorem CacheHolds.marked {steps : List FanoutStep} {cache : Dict String Int} (h : CacheHolds steps cache)
    (payload : Value) (nowMs : Int) :
    CacheHolds
      (steps ++ [.change payload nowMs (markMissionChangeFannedOut cache (missionChangeUid payload) nowMs).1])
      (markMissionChangeFannedOut cache (missionChangeUid payload) nowMs).2 := by
  by_cases hblank : trim (missionChangeUid payload) = ""
  · have hcache : (markMissionChangeFannedOut cache (missionChangeUid payload) nowMs).2 = cache := by
      simp [markMissionChangeFannedOut, hblank]
    rw [hcache]
    exact h.blank hblank nowMs _
  · cases hheld : (pruneMissionChangeFanoutCache cache nowMs).contains (trim (missionChangeUid payload)) with
    | true =>
      have hmark : markMissionChangeFannedOut cache (missionChangeUid payload) nowMs =
          (false, pruneMissionChangeFanoutCache cache nowMs) := by
        simp [markMissionChangeFannedOut, hblank, hheld]
      rw [hmark]
      apply h.read
      · simp [FanoutStep.readAt, hblank]
      · intro payload' fannedAt same
        cases same
    | false =>
      have hmark : markMissionChangeFannedOut cache (missionChangeUid payload) nowMs =
          (true, (pruneMissionChangeFanoutCache cache nowMs).insert (trim (missionChangeUid payload))
            (fanoutExpiry nowMs)) := by
        simp [markMissionChangeFannedOut, hblank, hheld]
      rw [hmark]
      exact h.fanOut rfl hblank hheld

section

variable (fanout : String → String → Value → ServerM Value)

/-- A world whose clock was read and whose cache was marked for a change. -/
def ListenerWorld.markedFor (w : ListenerWorld) (payload : Value) : ListenerWorld where
  server := { w.server with clock := fun n => w.server.clock (n + 1) }
  missionChangeFanoutCache :=
    (markMissionChangeFannedOut w.missionChangeFanoutCache (missionChangeUid payload) (w.server.clock 0).timestampMillis).2

theorem ListenerWorld.markedFor_cache (w : ListenerWorld) (payload : Value) :
    (w.markedFor payload).missionChangeFanoutCache =
      (markMissionChangeFannedOut w.missionChangeFanoutCache (missionChangeUid payload)
        (w.server.clock 0).timestampMillis).2 := rfl

theorem run_onServer_now_bind {α : Type} (k : Int → ListenerM α) (w : ListenerWorld) :
    (onServer unixNowMs >>= k).run w =
      (k (w.server.clock 0).timestampMillis).run
        { w with server := { w.server with clock := fun n => w.server.clock (n + 1) } } := rfl

theorem run_marked {α : Type} (mark : Dict String Int → Bool × Dict String Int) (fanned suppressed : ListenerM α)
    (w : ListenerWorld) :
    ((modifyGet fun w => ((mark w.missionChangeFanoutCache).1,
        { w with missionChangeFanoutCache := (mark w.missionChangeFanoutCache).2 }) : ListenerM Bool) >>= fun marked =>
      if marked then fanned else suppressed).run w =
    if (mark w.missionChangeFanoutCache).1 = true then
      fanned.run { w with missionChangeFanoutCache := (mark w.missionChangeFanoutCache).2 }
    else suppressed.run { w with missionChangeFanoutCache := (mark w.missionChangeFanoutCache).2 } := by
  have hrun : ((modifyGet fun w => ((mark w.missionChangeFanoutCache).1,
        { w with missionChangeFanoutCache := (mark w.missionChangeFanoutCache).2 }) : ListenerM Bool) >>= fun marked =>
      if marked then fanned else suppressed).run w =
    Proc.run (if (mark w.missionChangeFanoutCache).1 then fanned else suppressed)
      { w with missionChangeFanoutCache := (mark w.missionChangeFanoutCache).2 } := rfl
  rw [hrun]
  cases (mark w.missionChangeFanoutCache).1 with
  | true => rfl
  | false => rfl

/-- One change: its mark decides what is done. -/
theorem emitMissionChange_run (payload : Value) (w : ListenerWorld) :
    (emitMissionChange fanout payload).run w =
      if (markMissionChangeFannedOut w.missionChangeFanoutCache (missionChangeUid payload)
          (w.server.clock 0).timestampMillis).1 = true then
        (fanOutMissionChange fanout payload).run (w.markedFor payload)
      else (recordListenerEvent payload false duplicateSuppressed).run (w.markedFor payload) := by
  rw [emitMissionChange, run_onServer_now_bind]
  exact run_marked (fun cache => markMissionChangeFannedOut cache (missionChangeUid payload)
    (w.server.clock 0).timestampMillis) (fanOutMissionChange fanout payload)
    (recordListenerEvent payload false duplicateSuppressed)
    { w with server := { w.server with clock := fun n => w.server.clock (n + 1) } }

/-- A handler that leaves the cache as it is. -/
def KeepsCache {α : Type} (m : ListenerM α) : Prop :=
  ∀ w, (m.run w).2.missionChangeFanoutCache = w.missionChangeFanoutCache

theorem KeepsCache.onServer {α : Type} (m : ServerM α) : KeepsCache (onServer m) := fun _ => rfl

theorem KeepsCache.bind {α β : Type} {m : ListenerM α} {k : α → ListenerM β} (hm : KeepsCache m)
    (hk : ∀ a, KeepsCache (k a)) : KeepsCache (m >>= k) := by
  intro w
  have hfirst := hm w
  rw [Proc.run_bind]
  match h : m.run w with
  | (.ok a, w') =>
    rw [h] at hfirst
    exact (hk a w').trans hfirst
  | (.error e, w') =>
    rw [h] at hfirst
    exact hfirst

theorem recordListenerEvent_keepsCache (change : Value) (fanoutMarked : Bool) (fanoutSummary : Value) :
    KeepsCache (recordListenerEvent change fanoutMarked fanoutSummary) := by
  unfold recordListenerEvent
  exact KeepsCache.bind (KeepsCache.onServer _) fun _ _ => rfl

theorem fanOutMissionChange_keepsCache (change : Value) : KeepsCache (fanOutMissionChange fanout change) := by
  unfold fanOutMissionChange
  exact KeepsCache.bind (KeepsCache.onServer _) fun summary => recordListenerEvent_keepsCache change true summary

/-- One change leaves in the cache what its mark leaves. -/
theorem emitMissionChange_cache (payload : Value) (w : ListenerWorld) :
    ((emitMissionChange fanout payload).run w).2.missionChangeFanoutCache =
      (markMissionChangeFannedOut w.missionChangeFanoutCache (missionChangeUid payload)
        (w.server.clock 0).timestampMillis).2 := by
  have hfanned := fanOutMissionChange_keepsCache fanout payload (w.markedFor payload)
  have hsuppressed := recordListenerEvent_keepsCache payload false duplicateSuppressed (w.markedFor payload)
  rw [← w.markedFor_cache payload, emitMissionChange_run]
  split
  · exact hfanned
  · exact hsuppressed

/-- Each change of a history was fanned out unless its uid was recently. -/
def FannedOutUnlessRecent (steps : List FanoutStep) : Prop :=
  ∀ earlier payload nowMs fannedOut later, steps = earlier ++ .change payload nowMs fannedOut :: later →
    (fannedOut = true ↔
      trim (missionChangeUid payload) = "" ∨ ¬FannedOutRecently earlier (trim (missionChangeUid payload)) nowMs)

theorem FannedOutUnlessRecent.snoc {steps : List FanoutStep} {step : FanoutStep} (h : FannedOutUnlessRecent steps)
    (hlast : ∀ payload nowMs fannedOut, step = .change payload nowMs fannedOut → (fannedOut = true ↔
      trim (missionChangeUid payload) = "" ∨ ¬FannedOutRecently steps (trim (missionChangeUid payload)) nowMs)) :
    FannedOutUnlessRecent (steps ++ [step]) := by
  intro earlier payload nowMs fannedOut later hsteps
  rcases snoc_eq_split.mp hsteps with ⟨-, rfl, hstep⟩ | ⟨later', -, hsteps⟩
  · exact hlast payload nowMs fannedOut hstep
  · exact h earlier payload nowMs fannedOut later' hsteps

/-- What a history of the cache keeps. -/
structure ListenerInvariant (steps : List FanoutStep) (cache : Dict String Int) : Prop where
  holds : CacheHolds steps cache
  flags : FannedOutUnlessRecent steps

/-- One change. -/
theorem ListenerInvariant.change {steps : List FanoutStep} {w : ListenerWorld}
    (h : ListenerInvariant steps w.missionChangeFanoutCache) (payload : Value) :
    ListenerInvariant
      (steps ++ [.change payload (w.server.clock 0).timestampMillis
        (markMissionChangeFannedOut w.missionChangeFanoutCache (missionChangeUid payload)
          (w.server.clock 0).timestampMillis).1])
      ((emitMissionChange fanout payload).run w).2.missionChangeFanoutCache := by
  constructor
  · rw [emitMissionChange_cache]
    exact h.holds.marked payload _
  · apply h.flags.snoc
    intro payload' nowMs fannedOut hstep
    cases hstep
    exact h.holds.marks_iff (missionChangeUid payload) _

omit fanout in
theorem run_forM_cons {α : Type} (a : α) (rest : List α) (body : α → ListenerM PUnit) (w : ListenerWorld) :
    ((a :: rest).forM body).run w =
      match (body a).run w with
      | (.ok _, w') => (rest.forM body).run w'
      | (.error e, w') => (.error e, w') := by
  have hcons : (a :: rest).forM body = body a >>= fun _ => rest.forM body := rfl
  rw [hcons, Proc.run_bind]
  rcases (body a).run w with ⟨_ | _, w'⟩
  · rfl
  · rfl

/-- The changes of a call. -/
theorem ListenerInvariant.changes {steps : List FanoutStep} {w : ListenerWorld} {payloads : List Value}
    (h : ListenerInvariant steps w.missionChangeFanoutCache)
    (hended : ((payloads.forM (emitMissionChange fanout)).run w).1 = .ok ()) :
    ListenerInvariant (steps ++ changeSteps fanout payloads w)
      ((payloads.forM (emitMissionChange fanout)).run w).2.missionChangeFanoutCache := by
  induction payloads generalizing steps w with
  | nil =>
    rw [changeSteps, List.append_nil]
    exact h
  | cons payload rest ih =>
    have hfirst := h.change fanout payload
    have hsteps : changeSteps fanout (payload :: rest) w =
        .change payload (w.server.clock 0).timestampMillis
          (markMissionChangeFannedOut w.missionChangeFanoutCache (missionChangeUid payload)
            (w.server.clock 0).timestampMillis).1 ::
          changeSteps fanout rest ((emitMissionChange fanout payload).run w).2 := by rw [changeSteps]
    rw [run_forM_cons] at hended ⊢
    rw [hsteps, List.append_cons]
    generalize (emitMissionChange fanout payload).run w = ended at hended hfirst ⊢
    match ended with
    | (.error e, w') => cases hended
    | (.ok _, w') => exact ih hfirst hended

end

/-! ## A change that is changed again -/

/-- A fan-out that has nobody to send to. -/
def fanoutToNobody (_ _ : String) (_ : Value) : ServerM Value := pure .null

/-- The payload of a mission change, by its notes. -/
def changeNoted (notes : String) : Value := .object [("uid", .string "change-alpha"), ("notes", .string notes)]

/-- The mission changes of a core that has this one. -/
def oneChange (notes : String) : Dict String Value := (∅ : Dict String Value).insert "change-alpha" (changeNoted notes)

/-- The hub after the change is made. -/
def changeMade : ListenerWorld :=
  ((emitMissionChangeListenerEvents fanoutToNobody ∅ (oneChange "first")).run { server := ServerWorld.atEpoch {} }).2

theorem changeMade_steps :
    changeSteps fanoutToNobody (changedPayloads ∅ (oneChange "first")) { server := ServerWorld.atEpoch {} } =
      [.change (changeNoted "first") 0 true] := rfl

theorem changeAgain_steps :
    changeSteps fanoutToNobody (changedPayloads (oneChange "first") (oneChange "second")) changeMade =
      [.change (changeNoted "second") 0 false] := rfl

end TelemetryHub
