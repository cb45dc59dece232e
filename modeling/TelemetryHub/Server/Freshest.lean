import Mathlib.Data.List.Induction
import TelemetryHub.Server.Telemetry
import TelemetryHub.Core.Normal

/-!
# The newest record of a peer

The list in memory follows the calls, the rows follow the writes. Of each peer there is a
history: the row, and after it the records still to be written in the order of the calls.
Where the writes of a peer keep that order the last of the history is what memory holds, so
when nothing is left to be written the rows hold the same.
-/

namespace TelemetryHub

open Lib

/-! ## Peers -/

section Peers

variable {record other : TelemetryRecord} {records rows : List TelemetryRecord} {key key' : String}

theorem AppState.isOwnSource_memory (s : AppState) (records : List TelemetryRecord) (peerDestination : String) :
    { s with telemetryRecords := records }.isOwnSource peerDestination = s.isOwnSource peerDestination := by
  unfold AppState.isOwnSource
  rfl

theorem eqIgnoreAsciiCase_iff {left right : String} :
    eqIgnoreAsciiCase left right = true ↔ toAsciiLowercase left = toAsciiLowercase right := beq_iff_eq

theorem samePeer_iff : samePeer key record = true ↔ telemetryIdentityKey record.peerDestination = some key := beq_iff_eq

/-- What differs in letter case alone has one key. -/
theorem telemetryIdentityKey_case {left right : String} (same : eqIgnoreAsciiCase left right = true) :
    telemetryIdentityKey left = telemetryIdentityKey right := by
  have lower : toAsciiLowercase left = toAsciiLowercase right := eqIgnoreAsciiCase_iff.1 same
  have trimmed : toAsciiLowercase (trim left) = toAsciiLowercase (trim right) := by
    rw [← trim_toAsciiLowercase, ← trim_toAsciiLowercase, lower]
  unfold telemetryIdentityKey normalizeIdentityKey
  rw [trimmed]

theorem filter_withTelemetry (keyed : telemetryIdentityKey record.peerDestination = some key) :
    (withTelemetry records record).filter (samePeer key') =
      if key' = key then [record] else records.filter (samePeer key') := by
  have own : samePeer key' record = decide (key' = key) := by
    rw [samePeer, keyed]
    by_cases same : key' = key
    · simp [same]
    · simp [same, Ne.symm same]
  unfold withTelemetry
  rw [keyed, List.filter_append, List.filter_filter, List.filter_singleton, own]
  by_cases same : key' = key
  · have none : records.filter (fun existing => samePeer key' existing && !samePeer key existing) = [] := by
      rw [List.filter_eq_nil_iff]
      intro existing _
      rw [same, Bool.and_not_self]
      exact Bool.false_ne_true
    rw [none, if_pos same, decide_eq_true same]
    rfl
  · have rest : records.filter (fun existing => samePeer key' existing && !samePeer key existing) =
        records.filter (samePeer key') := by
      apply List.filter_congr
      intro existing _
      by_cases here : samePeer key existing = true
      · have there : samePeer key' existing = false := by
          rw [Bool.eq_false_iff, Ne, samePeer_iff, samePeer_iff.1 here, Option.some.injEq]
          exact Ne.symm same
        rw [there, Bool.false_and]
      · rw [Bool.eq_false_iff.2 here, Bool.not_false, Bool.and_true]
    rw [rest, if_neg same, decide_eq_false same, cond_false, List.append_nil]

/-- A row takes the place of the peer's others where all are in one letter case. -/
theorem filter_insertTelemetryRecord (store : SqliteStore)
    (keyed : telemetryIdentityKey record.peerDestination = some key)
    (oneCase : ∀ row ∈ store.telemetryRecords, samePeer key row = true →
      eqIgnoreAsciiCase row.peerDestination record.peerDestination = true) :
    (store.insertTelemetryRecord record).telemetryRecords.filter (samePeer key') =
      if key' = key then [record] else store.telemetryRecords.filter (samePeer key') := by
  have agree : ∀ row ∈ store.telemetryRecords,
      (!eqIgnoreAsciiCase row.peerDestination record.peerDestination) = !samePeer key row := by
    intro row mem
    have iff : eqIgnoreAsciiCase row.peerDestination record.peerDestination = true ↔ samePeer key row = true := by
      constructor
      · intro same
        rw [samePeer_iff, telemetryIdentityKey_case same, keyed]
      · exact oneCase row mem
    rw [Bool.eq_iff_iff.2 iff]
  have inserted : (store.insertTelemetryRecord record).telemetryRecords = withTelemetry store.telemetryRecords record := by
    unfold withTelemetry
    rw [keyed]
    exact congrArg (· ++ [record]) (List.filter_congr agree)
  rw [inserted]
  exact filter_withTelemetry keyed

/-- A record that is not kept back is no older than the one of its peer. -/
theorem newerTelemetry_eq_none (keyed : telemetryIdentityKey record.peerDestination = some key)
    (kept : newerTelemetry records record = none) :
    ∀ existing ∈ (records.filter (samePeer key)).head?, existing.timestampS ≤ record.timestampS := by
  intro existing found
  rw [List.head?_filter] at found
  rw [newerTelemetry, keyed, Option.bind_some, Option.mem_def.1 found, Option.filter_some] at kept
  by_contra older
  rw [if_pos (decide_eq_true (by omega))] at kept
  cases kept

/-- A record that is kept back is older than one of its peer. -/
theorem newerTelemetry_eq_some (kept : newerTelemetry records record = some other) :
    other ∈ records ∧ telemetryIdentityKey other.peerDestination = telemetryIdentityKey record.peerDestination ∧
    record.timestampS < other.timestampS := by
  unfold newerTelemetry at kept
  obtain ⟨key, keyed, found⟩ := Option.bind_eq_some_iff.1 kept
  obtain ⟨first, older⟩ := Option.filter_eq_some_iff.1 found
  have same := samePeer_iff.1 (List.find?_some first)
  exact ⟨List.mem_of_find?_eq_some first, same.trans keyed.symm, of_decide_eq_true older⟩

end Peers

/-! ## The condition -/

namespace TelemetrySystem

/-- A move that keeps memory and rows together: a peer is named, and in the letter case and
padding it has; a row is written after those of earlier calls for its peer, and where rows
may be written. -/
def Orderly (s : TelemetrySystem) : TelemetryMove → Prop
  | .keep call => s.state.isOwnSource call.peerDestination = false →
    telemetryIdentityKey call.peerDestination ≠ none ∧
    ∀ record ∈ s.state.telemetryRecords,
      telemetryIdentityKey record.peerDestination = telemetryIdentityKey call.peerDestination →
      record.timestampS ≤ call.timestampS → eqIgnoreAsciiCase record.peerDestination call.peerDestination = true
  | .write index => ∀ thread, s.threads[index]? = some thread → thread.written = false →
    s.state.persistenceLocked = false ∧
    ∀ earlier ∈ s.threads.take index, earlier.written = false →
      telemetryIdentityKey earlier.record.peerDestination ≠ telemetryIdentityKey thread.record.peerDestination
  | .tell _ => True

end TelemetrySystem

/-- A run whose moves are all orderly. -/
inductive OrderlyTelemetry (start : TelemetrySystem) : List TelemetryMove → Prop
  | start : OrderlyTelemetry start []
  | move (moves : List TelemetryMove) (move : TelemetryMove) (before : OrderlyTelemetry start moves)
    (orderly : (start.run moves).Orderly move) : OrderlyTelemetry start (moves ++ [move])

/-! ## Histories -/

/-- The records of a peer that are still to be written. -/
def pendingTelemetry (key : String) (threads : List TelemetryThread) : List TelemetryRecord :=
  (threads.filter fun thread => !thread.written && samePeer key thread.record).map TelemetryThread.record

namespace TelemetrySystem

/-- The row of a peer and the records still to be written. -/
def history (s : TelemetrySystem) (key : String) : List TelemetryRecord :=
  s.store.telemetryRecords.filter (samePeer key) ++ pendingTelemetry key s.threads

/-- Memory holds the last of every history, which is in the order of time. -/
structure Traced (s : TelemetrySystem) : Prop where
  kept : ∀ record ∈ s.state.telemetryRecords, telemetryIdentityKey record.peerDestination ≠ none ∧
    s.state.isOwnSource record.peerDestination = false
  rows : ∀ record ∈ s.store.telemetryRecords, telemetryIdentityKey record.peerDestination ≠ none
  pending : ∀ thread ∈ s.threads, telemetryIdentityKey thread.record.peerDestination ≠ none
  newest : ∀ key, s.state.telemetryRecords.filter (samePeer key) = (s.history key).getLast?.toList
  single : ∀ key, (s.store.telemetryRecords.filter (samePeer key)).length ≤ 1
  sorted : ∀ key, (s.history key).Pairwise fun earlier later => earlier.timestampS ≤ later.timestampS
  oneCase : ∀ key, ∀ record ∈ s.history key, ∀ other ∈ s.history key,
    eqIgnoreAsciiCase record.peerDestination other.peerDestination = true

end TelemetrySystem

section Pending

variable {key : String} {threads : List TelemetryThread} {index : Nat} {thread : TelemetryThread} {record : TelemetryRecord}

theorem pendingTelemetry_append (keyed : samePeer key record = true) :
    pendingTelemetry key (threads ++ [{ record := record }]) = pendingTelemetry key threads ++ [record] := by
  rw [pendingTelemetry, List.filter_append, List.map_append, List.filter_singleton, keyed]
  rfl

theorem pendingTelemetry_append_other (other : samePeer key record = false) :
    pendingTelemetry key (threads ++ [{ record := record }]) = pendingTelemetry key threads := by
  rw [pendingTelemetry, List.filter_append, List.map_append, List.filter_singleton, other]
  exact List.append_nil _

/-- The threads on both sides of one. -/
theorem pendingTelemetry_split (found : threads[index]? = some thread) :
    pendingTelemetry key threads =
      pendingTelemetry key (threads.take index) ++ pendingTelemetry key [thread] ++
        pendingTelemetry key (threads.drop (index + 1)) := by
  obtain ⟨inside, rfl⟩ := List.getElem?_eq_some_iff.1 found
  have parts : threads = threads.take index ++ [threads[index]] ++ threads.drop (index + 1) := by
    rw [List.append_assoc, List.singleton_append, ← List.drop_eq_getElem_cons inside, List.take_append_drop]
  have whole := congrArg (pendingTelemetry key) parts
  rw [pendingTelemetry, pendingTelemetry, List.filter_append, List.filter_append, List.map_append, List.map_append] at whole
  exact whole

theorem pendingTelemetry_set (found : threads[index]? = some thread) (new : TelemetryThread) :
    pendingTelemetry key (threads.set index new) =
      pendingTelemetry key (threads.take index) ++ pendingTelemetry key [new] ++
        pendingTelemetry key (threads.drop (index + 1)) := by
  obtain ⟨inside, -⟩ := List.getElem?_eq_some_iff.1 found
  rw [pendingTelemetry, List.set_eq_take_append_cons_drop, if_pos inside, List.filter_append, List.filter_cons,
    List.map_append]
  rw [List.append_assoc]
  congr 1
  split
  · rename_i counted
    rw [pendingTelemetry, List.filter_singleton, counted]
    rfl
  · rename_i uncounted
    rw [pendingTelemetry, List.filter_singleton, Bool.eq_false_iff.2 uncounted]
    rfl

theorem pendingTelemetry_eraseIdx (found : threads[index]? = some thread) (written : thread.written = true) :
    pendingTelemetry key (threads.eraseIdx index) = pendingTelemetry key threads := by
  have none : pendingTelemetry key [thread] = [] := by
    rw [pendingTelemetry, List.filter_singleton, written]
    rfl
  rw [pendingTelemetry_split found, none, List.append_nil, List.eraseIdx_eq_take_drop_succ, pendingTelemetry,
    List.filter_append, List.map_append]
  rfl

end Pending

/-! ## What a move does -/

namespace TelemetrySystem

/-- A record is put into memory. -/
def withRecord (s : TelemetrySystem) (record : TelemetryRecord) : TelemetrySystem :=
  { s with
    state := { s.state with telemetryRecords := withTelemetry s.state.telemetryRecords record }
    threads := s.threads ++ [{ record := record }] }

/-- A row is written. -/
def withRow (s : TelemetrySystem) (index : Nat) (thread : TelemetryThread) : TelemetrySystem :=
  { s with
    store := s.store.insertTelemetryRecord thread.record
    threads := s.threads.set index { thread with written := true } }

theorem withRow_store (s : TelemetrySystem) (index : Nat) (thread : TelemetryThread) :
    (s.withRow index thread).store = s.store.insertTelemetryRecord thread.record := rfl

theorem withRecord_memory (s : TelemetrySystem) (record : TelemetryRecord) :
    (s.withRecord record).state.telemetryRecords = withTelemetry s.state.telemetryRecords record := rfl

/-- A call has ended. -/
def without (s : TelemetrySystem) (index : Nat) : TelemetrySystem := { s with threads := s.threads.eraseIdx index }

/-- The moves that do something, and those that do not. -/
inductive Stepped (s : TelemetrySystem) : TelemetryMove → TelemetrySystem → Prop
  | own (call : TelemetryCall) (own : s.state.isOwnSource call.peerDestination = true) : Stepped s (.keep call) s
  | older (call : TelemetryCall) (existing : TelemetryRecord)
    (newer : newerTelemetry s.state.telemetryRecords call.record = some existing) : Stepped s (.keep call) s
  | kept (call : TelemetryCall) (foreign : s.state.isOwnSource call.peerDestination = false)
    (newest : newerTelemetry s.state.telemetryRecords call.record = none) :
    Stepped s (.keep call) (s.withRecord call.record)
  | written (index : Nat) (thread : TelemetryThread) (found : s.threads[index]? = some thread)
    (unwritten : thread.written = false) (unlocked : s.state.persistenceLocked = false) :
    Stepped s (.write index) (s.withRow index thread)
  | failed (index : Nat) (thread : TelemetryThread) (found : s.threads[index]? = some thread)
    (unwritten : thread.written = false) (locked : s.state.persistenceLocked = true) :
    Stepped s (.write index) (s.without index)
  | told (index : Nat) (thread : TelemetryThread) (found : s.threads[index]? = some thread)
    (written : thread.written = true) : Stepped s (.tell index) (s.without index)
  | missed (index : Nat) (move : TelemetryMove) (idle : move = .write index ∨ move = .tell index) : Stepped s move s

theorem stepped (s : TelemetrySystem) (move : TelemetryMove) : Stepped s move (s.step move) := by
  cases move with
  | keep call =>
    unfold TelemetrySystem.step AppState.keepTelemetry
    dsimp only
    by_cases own : s.state.isOwnSource call.record.peerDestination = true
    · rw [if_pos own]
      exact .own call own
    · rw [if_neg own]
      cases newer : newerTelemetry s.state.telemetryRecords call.record with
      | some existing => exact .older call existing newer
      | none => exact .kept call (Bool.eq_false_iff.2 own) newer
  | write index =>
    unfold TelemetrySystem.step writeThread
    dsimp only
    split
    · rename_i thread found
      split
      · exact .missed index _ (.inl rfl)
      · rename_i unwritten
        split
        · exact .failed index thread found (Bool.eq_false_iff.2 unwritten) ‹_›
        · rename_i unlocked
          exact .written index thread found (Bool.eq_false_iff.2 unwritten) (Bool.eq_false_iff.2 unlocked)
    · exact .missed index _ (.inl rfl)
  | tell index =>
    unfold TelemetrySystem.step
    dsimp only
    split
    · rename_i thread found
      split
      · exact .told index thread found ‹_›
      · exact .missed index _ (.inr rfl)
    · exact .missed index _ (.inr rfl)

end TelemetrySystem

/-! ## The steps -/

namespace TelemetrySystem

variable {s : TelemetrySystem} {key : String} {index : Nat} {thread : TelemetryThread} {record : TelemetryRecord}

/-- What memory holds of a peer is as late as its history. -/
theorem Traced.le_newest (h : s.Traced) (mem : record ∈ s.history key) :
    ∃ newest, newest ∈ s.state.telemetryRecords.filter (samePeer key) ∧ newest ∈ s.history key ∧
      record.timestampS ≤ newest.timestampS := by
  have sorted := h.sorted key
  have newest := h.newest key
  obtain ⟨front, last, split⟩ := List.eq_nil_or_concat (s.history key) |>.resolve_left (List.ne_nil_of_mem mem)
  rw [List.concat_eq_append] at split
  rw [split] at mem sorted newest ⊢
  rw [List.getLast?_append, List.getLast?_singleton, Option.some_or, Option.toList_some] at newest
  have reached : record.timestampS ≤ last.timestampS := by
    obtain before | same := List.mem_append.1 mem
    · exact (List.pairwise_append.1 sorted).2.2 record before last (List.mem_singleton.2 rfl)
    · rw [List.mem_singleton.1 same]
  refine ⟨last, ?_, List.mem_append_right front (List.mem_singleton.2 rfl), reached⟩
  rw [newest]
  exact List.mem_singleton.2 rfl

/-- The first records of the histories have gone, never all of one. -/
theorem Traced.suffix (h : s.Traced) (s' : TelemetrySystem) (state : s'.state = s.state)
    (rows : ∀ record ∈ s'.store.telemetryRecords, telemetryIdentityKey record.peerDestination ≠ none)
    (pending : ∀ thread ∈ s'.threads, telemetryIdentityKey thread.record.peerDestination ≠ none)
    (single : ∀ key, (s'.store.telemetryRecords.filter (samePeer key)).length ≤ 1)
    (rest : ∀ key, ∃ gone, s.history key = gone ++ s'.history key ∧ (s'.history key = [] → gone = [])) : s'.Traced := by
  constructor
  case kept =>
    rw [state]
    exact h.kept
  case rows => exact rows
  case pending => exact pending
  case newest =>
    intro key
    obtain ⟨gone, split, whole⟩ := rest key
    rw [state, h.newest key, split]
    by_cases empty : s'.history key = []
    · rw [whole empty, List.nil_append]
    · rw [List.getLast?_append_of_ne_nil _ empty]
  case single => exact single
  case sorted =>
    intro key
    obtain ⟨gone, split, _⟩ := rest key
    have sorted := h.sorted key
    rw [split] at sorted
    exact (List.pairwise_append.1 sorted).2.1
  case oneCase =>
    intro key record mem other mem'
    obtain ⟨gone, split, _⟩ := rest key
    have oneCase := h.oneCase key
    rw [split] at oneCase
    exact oneCase record (List.mem_append_right gone mem) other (List.mem_append_right gone mem')

theorem samePeer_false {other : String} (keyed : telemetryIdentityKey record.peerDestination = some key)
    (differ : other ≠ key) : samePeer other record = false := by
  rw [Bool.eq_false_iff, Ne, samePeer_iff, keyed, Option.some.injEq]
  exact Ne.symm differ

/-- A record that is put into memory ends the history of its peer. -/
theorem Traced.keep (h : s.Traced) (record : TelemetryRecord) (keyed : telemetryIdentityKey record.peerDestination = some key)
    (foreign : s.state.isOwnSource record.peerDestination = false)
    (newest : newerTelemetry s.state.telemetryRecords record = none)
    (oneCase : ∀ existing ∈ s.state.telemetryRecords,
      telemetryIdentityKey existing.peerDestination = some key → existing.timestampS ≤ record.timestampS →
      eqIgnoreAsciiCase existing.peerDestination record.peerDestination = true) :
    (s.withRecord record).Traced := by
  have history : ∀ key', (s.withRecord record).history key' =
      if key' = key then s.history key ++ [record] else s.history key' := by
    intro key'
    unfold TelemetrySystem.history withRecord
    dsimp only
    by_cases same : key' = key
    · rw [if_pos same, same, pendingTelemetry_append (samePeer_iff.2 keyed), List.append_assoc]
    · rw [if_neg same, pendingTelemetry_append_other (samePeer_false keyed same)]
  have older : ∀ earlier ∈ s.history key, earlier.timestampS ≤ record.timestampS ∧
      eqIgnoreAsciiCase earlier.peerDestination record.peerDestination = true := by
    intro earlier mem
    obtain ⟨last, held, traced, reached⟩ := h.le_newest mem
    have first : last ∈ (s.state.telemetryRecords.filter (samePeer key)).head? := by
      rw [h.newest key] at held ⊢
      cases found : (s.history key).getLast? with
      | none =>
        rw [found] at held
        cases held
      | some only =>
        rw [found] at held
        rw [List.mem_singleton.1 held]
        rfl
    have late := newerTelemetry_eq_none keyed newest last first
    obtain ⟨mem', same⟩ := List.mem_filter.1 held
    have lower := eqIgnoreAsciiCase_iff.1 (oneCase last mem' (samePeer_iff.1 same) late)
    have lower' := eqIgnoreAsciiCase_iff.1 (h.oneCase key earlier mem last traced)
    exact ⟨by omega, eqIgnoreAsciiCase_iff.2 (lower'.trans lower)⟩
  constructor
  case kept =>
    intro existing mem
    rw [withRecord, AppState.isOwnSource_memory]
    obtain old | new := List.mem_append.1 mem
    · have there : existing ∈ s.state.telemetryRecords := by
        split at old
        · exact List.mem_of_mem_filter old
        · exact old
      exact h.kept existing there
    · rw [List.mem_singleton.1 new, keyed]
      exact ⟨Option.some_ne_none key, foreign⟩
  case rows => exact h.rows
  case pending =>
    intro thread mem
    obtain old | new := List.mem_append.1 mem
    · exact h.pending thread old
    · rw [List.mem_singleton.1 new, keyed]
      exact Option.some_ne_none key
  case newest =>
    intro key'
    rw [history, withRecord_memory, filter_withTelemetry keyed]
    by_cases same : key' = key
    · rw [if_pos same, if_pos same, List.getLast?_append, List.getLast?_singleton]
      rfl
    · rw [if_neg same, if_neg same]
      exact h.newest key'
  case single => exact h.single
  case sorted =>
    intro key'
    rw [history]
    split
    · rw [List.pairwise_append]
      refine ⟨h.sorted key, List.pairwise_singleton _ _, fun earlier mem later mem' => ?_⟩
      rw [List.mem_singleton.1 mem']
      exact (older earlier mem).1
    · exact h.sorted key'
  case oneCase =>
    intro key' earlier mem later mem'
    rw [history] at mem mem'
    split at mem
    · rename_i same
      rw [if_pos same] at mem'
      have lowered : ∀ either ∈ s.history key ++ [record],
          toAsciiLowercase either.peerDestination = toAsciiLowercase record.peerDestination := by
        intro either mem
        obtain old | new := List.mem_append.1 mem
        · exact eqIgnoreAsciiCase_iff.1 (older either old).2
        · rw [List.mem_singleton.1 new]
      exact eqIgnoreAsciiCase_iff.2 ((lowered earlier mem).trans (lowered later mem').symm)
    · rename_i differ
      rw [if_neg differ] at mem'
      exact h.oneCase key' earlier mem later mem'

/-- The row of the first record that is still to be written for a peer takes the place of
the peer's others. -/
theorem Traced.write (h : s.Traced) (found : s.threads[index]? = some thread) (unwritten : thread.written = false)
    (first : ∀ earlier ∈ s.threads.take index, earlier.written = false →
      telemetryIdentityKey earlier.record.peerDestination ≠ telemetryIdentityKey thread.record.peerDestination) :
    (s.withRow index thread).Traced := by
  obtain ⟨key, keyed⟩ := Option.ne_none_iff_exists'.1 (h.pending thread (List.mem_of_getElem? found))
  have own : pendingTelemetry key [thread] = [thread.record] := by
    rw [pendingTelemetry, List.filter_singleton, unwritten, samePeer_iff.2 keyed]
    rfl
  have none : pendingTelemetry key (s.threads.take index) = [] := by
    rw [pendingTelemetry, List.map_eq_nil_iff, List.filter_eq_nil_iff]
    intro earlier mem counted
    simp only [Bool.and_eq_true, Bool.not_eq_true'] at counted
    exact first earlier mem counted.1 ((samePeer_iff.1 counted.2).trans keyed.symm)
  have before : s.history key = s.store.telemetryRecords.filter (samePeer key) ++
      ([thread.record] ++ pendingTelemetry key (s.threads.drop (index + 1))) := by
    rw [TelemetrySystem.history, pendingTelemetry_split found, none, own, List.nil_append]
  have oneCase : ∀ row ∈ s.store.telemetryRecords, samePeer key row = true →
      eqIgnoreAsciiCase row.peerDestination thread.record.peerDestination = true := by
    intro row mem same
    apply h.oneCase key
    · exact List.mem_append_left _ (List.mem_filter.2 ⟨mem, same⟩)
    · rw [before]
      exact List.mem_append_right _ (List.mem_append_left _ (List.mem_singleton.2 rfl))
  have rows : ∀ key', (s.store.insertTelemetryRecord thread.record).telemetryRecords.filter (samePeer key') =
      if key' = key then [thread.record] else s.store.telemetryRecords.filter (samePeer key') :=
    fun key' => filter_insertTelemetryRecord s.store keyed oneCase
  have written : ∀ key', pendingTelemetry key' [{ thread with written := true }] = [] := fun _ => rfl
  refine h.suffix _ rfl ?_ ?_ ?_ ?_
  · intro record mem
    obtain old | new := List.mem_append.1 mem
    · exact h.rows record (List.mem_of_mem_filter old)
    · rw [List.mem_singleton.1 new, keyed]
      exact Option.some_ne_none key
  · intro other mem
    obtain old | rfl := List.mem_or_eq_of_mem_set mem
    · exact h.pending other old
    · exact h.pending thread (List.mem_of_getElem? found)
  · intro key'
    rw [withRow_store, rows]
    split
    · exact Nat.le_refl _
    · exact h.single key'
  · intro key'
    have after : (s.withRow index thread).history key' =
        (if key' = key then [thread.record] else s.store.telemetryRecords.filter (samePeer key')) ++
          (pendingTelemetry key' (s.threads.take index) ++ pendingTelemetry key' (s.threads.drop (index + 1))) := by
      unfold TelemetrySystem.history withRow
      dsimp only
      rw [rows, pendingTelemetry_set found, written, List.append_nil]
    rw [after]
    by_cases same : key' = key
    · subst same
      rw [if_pos rfl, before, none, List.nil_append]
      exact ⟨_, rfl, fun empty => absurd empty (List.cons_ne_nil _ _)⟩
    · have other : pendingTelemetry key' [thread] = [] := by
        rw [pendingTelemetry, List.filter_singleton, samePeer_false keyed same, Bool.and_false]
        rfl
      refine ⟨[], ?_, fun _ => rfl⟩
      rw [if_neg same, List.nil_append, TelemetrySystem.history, pendingTelemetry_split found, other, List.append_nil]

/-- An orderly move keeps memory at the end of every history. -/
theorem Traced.step {move : TelemetryMove} (h : s.Traced) (orderly : s.Orderly move) : (s.step move).Traced := by
  have stepped := s.stepped move
  generalize s.step move = after at stepped
  cases stepped with
  | own call own => exact h
  | older call existing newer => exact h
  | kept call foreign newest =>
    obtain ⟨named, oneCase⟩ := orderly foreign
    obtain ⟨key, keyed⟩ := Option.ne_none_iff_exists'.1 named
    apply h.keep call.record keyed foreign newest
    intro existing mem same late
    exact oneCase existing mem (same.trans keyed.symm) late
  | written index thread found unwritten unlocked => exact h.write found unwritten (orderly thread found unwritten).2
  | failed index thread found unwritten locked =>
    have unlocked := (orderly thread found unwritten).1
    rw [locked] at unlocked
    cases unlocked
  | told index thread found written =>
    have same : ∀ key, (s.without index).history key = s.history key := by
      intro key
      unfold TelemetrySystem.history without
      dsimp only
      rw [pendingTelemetry_eraseIdx found written]
    refine h.suffix _ rfl h.rows ?_ ?_ ?_
    · exact fun other mem => h.pending other (List.mem_of_mem_eraseIdx mem)
    · exact h.single
    · intro key
      exact ⟨[], (same key).symm, fun _ => rfl⟩
  | missed index _ idle => exact h

end TelemetrySystem

/-! ## Never older -/

/-- For every record of a list another has one of the same peer that is no older. -/
def Supersedes (later earlier : List TelemetryRecord) : Prop :=
  ∀ record ∈ earlier, ∃ newer ∈ later,
    telemetryIdentityKey newer.peerDestination = telemetryIdentityKey record.peerDestination ∧
    record.timestampS ≤ newer.timestampS

theorem Supersedes.refl (records : List TelemetryRecord) : Supersedes records records :=
  fun record mem => ⟨record, mem, rfl, Int.le_refl _⟩

theorem Supersedes.trans {last middle first : List TelemetryRecord} (late : Supersedes last middle)
    (early : Supersedes middle first) : Supersedes last first := by
  intro record mem
  obtain ⟨newer, mem', same, reached⟩ := early record mem
  obtain ⟨newest, mem'', same', reached'⟩ := late newer mem'
  exact ⟨newest, mem'', same'.trans same, by omega⟩

namespace TelemetrySystem

variable {s start : TelemetrySystem} {moves : List TelemetryMove} {move : TelemetryMove}

/-- Of a peer that is named there is no more than one record. -/
def SinglePeers (records : List TelemetryRecord) : Prop := ∀ key, (records.filter (samePeer key)).length ≤ 1

section Memory

variable {records : List TelemetryRecord} {record : TelemetryRecord}

theorem withTelemetry_single (single : SinglePeers records) : SinglePeers (withTelemetry records record) := by
  intro key'
  cases keyed : telemetryIdentityKey record.peerDestination with
  | none =>
    have blank : samePeer key' record = false := by
      rw [Bool.eq_false_iff, Ne, samePeer_iff, keyed]
      exact nofun
    rw [withTelemetry, keyed, List.filter_append, List.filter_singleton, blank, cond_false, List.append_nil]
    exact single key'
  | some key =>
    rw [filter_withTelemetry keyed]
    split
    · exact Nat.le_refl _
    · exact single key'

/-- A record takes the place of none that is newer. -/
theorem withTelemetry_supersedes (single : SinglePeers records) (newest : newerTelemetry records record = none) :
    Supersedes (withTelemetry records record) records := by
  intro existing mem
  cases keyed : telemetryIdentityKey record.peerDestination with
  | none =>
    refine ⟨existing, ?_, rfl, Int.le_refl _⟩
    rw [withTelemetry, keyed]
    exact List.mem_append_left _ mem
  | some key =>
    by_cases same : samePeer key existing = true
    · refine ⟨record, List.mem_append_right _ (List.mem_singleton.2 rfl), keyed.trans (samePeer_iff.1 same).symm, ?_⟩
      have only := List.mem_filter.2 ⟨mem, same⟩
      have late := newerTelemetry_eq_none keyed newest
      have few := single key
      cases found : records.filter (samePeer key) with
      | nil =>
        rw [found] at only
        cases only
      | cons last rest =>
        rw [found, List.length_cons] at few
        have none : rest = [] := List.length_eq_zero_iff.1 (by omega)
        rw [found, none] at only
        rw [found] at late
        rw [List.mem_singleton.1 only]
        exact late last rfl
    · refine ⟨existing, ?_, rfl, Int.le_refl _⟩
      rw [withTelemetry, keyed]
      apply List.mem_append_left
      rw [List.mem_filter, Bool.not_eq_true', Bool.eq_false_iff]
      exact ⟨mem, same⟩

end Memory

/-- No move puts an older record into memory. -/
theorem memory_step (single : SinglePeers s.state.telemetryRecords) (move : TelemetryMove) :
    Supersedes (s.step move).state.telemetryRecords s.state.telemetryRecords ∧
    SinglePeers (s.step move).state.telemetryRecords := by
  have stepped := s.stepped move
  generalize s.step move = after at stepped
  cases stepped with
  | own call own => exact ⟨.refl _, single⟩
  | older call existing newer => exact ⟨.refl _, single⟩
  | kept call foreign newest =>
    rw [withRecord_memory]
    exact ⟨withTelemetry_supersedes single newest, withTelemetry_single single⟩
  | written index thread found unwritten unlocked => exact ⟨.refl _, single⟩
  | failed index thread found unwritten locked => exact ⟨.refl _, single⟩
  | told index thread found written => exact ⟨.refl _, single⟩
  | missed index _ idle => exact ⟨.refl _, single⟩

theorem Traced.singlePeers (h : s.Traced) : SinglePeers s.state.telemetryRecords := by
  intro key
  rw [h.newest key]
  cases (s.history key).getLast? with
  | none => exact Nat.zero_le _
  | some last => exact Nat.le_refl _

/-- A row takes the place of none that is newer. -/
theorem Traced.rows_write (h : s.Traced) {index : Nat} {thread : TelemetryThread}
    (found : s.threads[index]? = some thread) (unwritten : thread.written = false) :
    Supersedes (s.store.insertTelemetryRecord thread.record).telemetryRecords s.store.telemetryRecords := by
  intro row mem
  by_cases same : eqIgnoreAsciiCase row.peerDestination thread.record.peerDestination = true
  · have keyed := telemetryIdentityKey_case same
    obtain ⟨key, rowKeyed⟩ := Option.ne_none_iff_exists'.1 (h.rows row mem)
    have waits : thread.record ∈ pendingTelemetry key s.threads := by
      refine List.mem_map.2 ⟨thread, List.mem_filter.2 ⟨List.mem_of_getElem? found, ?_⟩, rfl⟩
      rw [unwritten, samePeer_iff.2 (keyed.symm.trans rowKeyed)]
      rfl
    have order := (List.pairwise_append.1 (h.sorted key)).2.2 row (List.mem_filter.2 ⟨mem, samePeer_iff.2 rowKeyed⟩)
      thread.record waits
    exact ⟨thread.record, List.mem_append_right _ (List.mem_singleton.2 rfl), keyed.symm, order⟩
  · refine ⟨row, List.mem_append_left _ (List.mem_filter.2 ⟨mem, ?_⟩), rfl, Int.le_refl _⟩
    rw [Bool.eq_false_iff.2 same]
    rfl

/-- No move writes an older row. -/
theorem Traced.rows_step (h : s.Traced) :
    Supersedes (s.step move).store.telemetryRecords s.store.telemetryRecords := by
  have stepped := s.stepped move
  generalize s.step move = after at stepped
  cases stepped with
  | own call own => exact .refl _
  | older call existing newer => exact .refl _
  | kept call foreign newest => exact .refl _
  | written index thread found unwritten unlocked =>
    rw [withRow_store]
    exact h.rows_write found unwritten
  | failed index thread found unwritten locked => exact .refl _
  | told index thread found written => exact .refl _
  | missed index _ idle => exact .refl _

/-! ## What memory holds -/

/-- The calls of a run that are not for the hub's own telemetry. -/
def calls (s : TelemetrySystem) (moves : List TelemetryMove) : List TelemetryCall :=
  moves.filterMap fun
    | .keep call => if s.state.isOwnSource call.peerDestination then none else some call
    | _ => none

theorem step_isOwnSource {peerDestination : String} :
    (s.step move).state.isOwnSource peerDestination = s.state.isOwnSource peerDestination := by
  have stepped := s.stepped move
  generalize s.step move = after at stepped
  cases stepped with
  | kept call foreign newest => exact AppState.isOwnSource_memory ..
  | own call own => rfl
  | older call existing newer => rfl
  | written index thread found unwritten unlocked => rfl
  | failed index thread found unwritten locked => rfl
  | told index thread found written => rfl
  | missed index _ idle => rfl

/-- The records a run has been told of. -/
def offered (s : TelemetrySystem) (moves : List TelemetryMove) : List TelemetryRecord :=
  s.state.telemetryRecords ++ (s.calls moves).map TelemetryCall.record

theorem offered_keep (call : TelemetryCall) : start.offered (moves ++ [.keep call]) =
    start.offered moves ++ if start.state.isOwnSource call.peerDestination then [] else [call.record] := by
  unfold offered calls
  rw [List.filterMap_append, List.map_append, List.append_assoc]
  congr 2
  by_cases own : start.state.isOwnSource call.peerDestination = true
  · simp [own]
  · simp [own]

theorem offered_idle {index : Nat} (idle : move = .write index ∨ move = .tell index) :
    start.offered (moves ++ [move]) = start.offered moves := by
  unfold offered calls
  rw [List.filterMap_append, List.map_append, List.filterMap_cons, List.filterMap_nil]
  obtain rfl | rfl := idle
  · exact congrArg _ (List.append_nil _)
  · exact congrArg _ (List.append_nil _)

theorem run_append : start.run (moves ++ [move]) = (start.run moves).step move := by
  rw [run, List.foldl_append]
  rfl

/-- What a run has made of what it has been told. -/
structure Ledger (start : TelemetrySystem) (moves : List TelemetryMove) : Prop where
  single : SinglePeers (start.run moves).state.telemetryRecords
  own : ∀ peerDestination, (start.run moves).state.isOwnSource peerDestination = start.state.isOwnSource peerDestination
  told : ∀ record ∈ (start.run moves).state.telemetryRecords, record ∈ start.offered moves
  newest : Supersedes (start.run moves).state.telemetryRecords (start.offered moves)

theorem Ledger.step (h : Ledger start moves) (move : TelemetryMove) : Ledger start (moves ++ [move]) := by
  obtain ⟨later, single⟩ := memory_step h.single move
  have own : ∀ peerDestination, ((start.run moves).step move).state.isOwnSource peerDestination =
      start.state.isOwnSource peerDestination := fun peerDestination => step_isOwnSource.trans (h.own peerDestination)
  have stepped := (start.run moves).stepped move
  have known : (∀ record ∈ ((start.run moves).step move).state.telemetryRecords,
        record ∈ start.offered (moves ++ [move])) ∧
      Supersedes ((start.run moves).step move).state.telemetryRecords (start.offered (moves ++ [move])) := by
    generalize (start.run moves).step move = after at stepped later
    cases stepped with
    | own call mine =>
      rw [offered_keep, ← h.own, if_pos mine, List.append_nil]
      exact ⟨h.told, h.newest⟩
    | older call existing newer =>
      obtain ⟨mem, same, late⟩ := newerTelemetry_eq_some newer
      rw [offered_keep]
      constructor
      · exact fun record mem => List.mem_append_left _ (h.told record mem)
      · intro record known
        obtain old | new := List.mem_append.1 known
        · exact h.newest record old
        · split at new
          · cases new
          · rw [List.mem_singleton.1 new]
            exact ⟨existing, mem, same, by omega⟩
    | kept call foreign newest =>
      rw [offered_keep, ← h.own, foreign, if_neg Bool.false_ne_true]
      have there : call.record ∈ ((start.run moves).withRecord call.record).state.telemetryRecords :=
        List.mem_append_right _ (List.mem_singleton.2 rfl)
      constructor
      · intro record mem
        rw [withRecord_memory, withTelemetry] at mem
        obtain old | new := List.mem_append.1 mem
        · have before : record ∈ (start.run moves).state.telemetryRecords := by
            split at old
            · exact List.mem_of_mem_filter old
            · exact old
          exact List.mem_append_left _ (h.told record before)
        · exact List.mem_append_right _ new
      · intro record mem
        obtain old | new := List.mem_append.1 mem
        · exact later.trans h.newest record old
        · rw [List.mem_singleton.1 new]
          exact ⟨call.record, there, rfl, Int.le_refl _⟩
    | written index thread found unwritten unlocked =>
      rw [offered_idle (.inl rfl)]
      exact ⟨h.told, h.newest⟩
    | failed index thread found unwritten locked =>
      rw [offered_idle (.inl rfl)]
      exact ⟨h.told, h.newest⟩
    | told index thread found written =>
      rw [offered_idle (.inr rfl)]
      exact ⟨h.told, h.newest⟩
    | missed index _ idle =>
      rw [offered_idle idle]
      exact ⟨h.told, h.newest⟩
  constructor
  case single =>
    rw [run_append]
    exact single
  case own =>
    rw [run_append]
    exact own
  case told =>
    rw [run_append]
    exact known.1
  case newest =>
    rw [run_append]
    exact known.2

/-- In every run memory holds of every peer that is named the newest that has been told. -/
theorem ledger (single : SinglePeers start.state.telemetryRecords) (moves : List TelemetryMove) : Ledger start moves := by
  induction moves using List.reverseRecOn with
  | nil =>
    have nothing : start.offered [] = start.state.telemetryRecords := List.append_nil _
    constructor
    case single => exact single
    case own => exact fun _ => rfl
    case told =>
      rw [nothing]
      exact fun record mem => mem
    case newest =>
      rw [nothing]
      exact .refl _
  | append_singleton moves move ih => exact ih.step move

end TelemetrySystem

theorem OrderlyTelemetry.traced {start : TelemetrySystem} {moves : List TelemetryMove}
    (orderly : OrderlyTelemetry start moves) (traced : start.Traced) : (start.run moves).Traced := by
  induction orderly with
  | start => exact traced
  | move moves move before orderly ih =>
    rw [TelemetrySystem.run_append]
    exact ih.step orderly

/-- Along an orderly run nothing in memory or in the rows becomes older. -/
theorem OrderlyTelemetry.supersedes {start : TelemetrySystem} {moves before after : List TelemetryMove}
    (orderly : OrderlyTelemetry start moves) (traced : start.Traced) (split : moves = before ++ after) :
    Supersedes (start.run moves).state.telemetryRecords (start.run before).state.telemetryRecords ∧
    Supersedes (start.run moves).store.telemetryRecords (start.run before).store.telemetryRecords := by
  induction orderly generalizing after with
  | start =>
    rw [(List.append_eq_nil_iff.1 split.symm).1]
    exact ⟨.refl _, .refl _⟩
  | move moves move earlier orderly ih =>
    obtain rfl | ⟨rest, last, rfl⟩ := List.eq_nil_or_concat after
    · rw [List.append_nil] at split
      rw [split]
      exact ⟨.refl _, .refl _⟩
    · rw [List.concat_eq_append, ← List.append_assoc] at split
      obtain ⟨same, -⟩ := List.append_inj' split rfl
      obtain ⟨memory, rows⟩ := ih same
      have traced' := earlier.traced traced
      rw [TelemetrySystem.run_append]
      exact ⟨(TelemetrySystem.memory_step traced'.singlePeers move).1.trans memory, traced'.rows_step.trans rows⟩

/-! ## When nothing is left to be written -/

section Lists

variable {α β : Type} {l : List α} {f : α → β}

/-- What a predicate picks out of a list without repetitions of a key, where it picks one key. -/
theorem filter_eq_singleton {p : α → Bool} {a : α} (nodup : (l.map f).Nodup) (mem : a ∈ l) (holds : p a = true)
    (same : ∀ b ∈ l, p b = true → f b = f a) : l.filter p = [a] := by
  induction l with
  | nil => cases mem
  | cons b l ih =>
    rw [List.map_cons, List.nodup_cons] at nodup
    obtain rfl | tail := List.mem_cons.1 mem
    · have none : l.filter p = [] := by
        rw [List.filter_eq_nil_iff]
        intro c mem' holds'
        apply nodup.1
        rw [← same c (List.mem_cons_of_mem a mem') holds']
        exact List.mem_map_of_mem mem'
      rw [List.filter_cons, if_pos holds, none]
    · have differ : ¬p b = true := by
        intro holds'
        apply nodup.1
        rw [same b List.mem_cons_self holds']
        exact List.mem_map_of_mem tail
      rw [List.filter_cons, if_neg differ]
      exact ih nodup.2 tail fun c mem' => same c (List.mem_cons_of_mem b mem')

end Lists

section Rows

variable {records rows : List TelemetryRecord}

/-- No two records of one peer, and each of a peer that is named. -/
structure OfDistinctPeers (records : List TelemetryRecord) : Prop where
  nodup : (records.map fun record => telemetryIdentityKey record.peerDestination).Nodup
  keyed : ∀ record ∈ records, telemetryIdentityKey record.peerDestination ≠ none

theorem ofDistinctPeers (keyed : ∀ record ∈ records, telemetryIdentityKey record.peerDestination ≠ none)
    (single : ∀ key, (records.filter (samePeer key)).length ≤ 1) : OfDistinctPeers records := by
  refine ⟨?_, keyed⟩
  rw [List.nodup_iff_count_le_one]
  intro key
  rw [List.count_eq_countP, List.countP_map]
  cases key with
  | none =>
    have none : records.countP ((· == none) ∘ fun record => telemetryIdentityKey record.peerDestination) = 0 := by
      rw [List.countP_eq_zero]
      intro record mem
      rw [Function.comp, beq_iff_eq]
      exact keyed record mem
    omega
  | some key =>
    have counted := single key
    rw [← List.countP_eq_length_filter] at counted
    exact counted

theorem OfDistinctPeers.nodup_records (h : OfDistinctPeers records) : records.Nodup := h.nodup.of_map _

theorem OfDistinctPeers.perm (h : OfDistinctPeers records) (perm : rows.Perm records) : OfDistinctPeers rows :=
  ⟨(perm.map _).nodup_iff.2 h.nodup, fun record mem => h.keyed record (perm.mem_iff.1 mem)⟩

/-- The latest row of a peer that has one is that one. -/
theorem latestTelemetryRows_eq (h : OfDistinctPeers rows) : SqliteStore.latestTelemetryRows rows = rows := by
  have all : ∀ row ∈ rows.zipIdx, (SqliteStore.latestTelemetryId rows row.1.peerDestination == some row.2) = true := by
    intro row mem
    have nodup : (rows.zipIdx.map fun row => telemetryIdentityKey row.1.peerDestination).Nodup := by
      have keys := h.nodup
      rw [← List.zipIdx_map_fst 0 rows, List.map_map, Function.comp_def] at keys
      exact keys
    have self : eqIgnoreAsciiCase row.1.peerDestination row.1.peerDestination = true := by rw [eqIgnoreAsciiCase_iff]
    have same : ∀ other ∈ rows.zipIdx, eqIgnoreAsciiCase other.1.peerDestination row.1.peerDestination = true →
        telemetryIdentityKey other.1.peerDestination = telemetryIdentityKey row.1.peerDestination :=
      fun other _ lower => telemetryIdentityKey_case lower
    have only : rows.zipIdx.filter (fun other => eqIgnoreAsciiCase other.1.peerDestination row.1.peerDestination) = [row] :=
      filter_eq_singleton nodup mem self same
    rw [SqliteStore.latestTelemetryId, only, beq_iff_eq]
    rfl
  rw [SqliteStore.latestTelemetryRows, List.filter_eq_self.2 all, List.zipIdx_map_fst]

theorem loadLatestTelemetryRecords_perm {store : SqliteStore} (h : OfDistinctPeers store.telemetryRecords) :
    store.loadLatestTelemetryRecords.Perm store.telemetryRecords := by
  rw [SqliteStore.loadLatestTelemetryRecords, latestTelemetryRows_eq h]
  exact List.perm_insertionSort _ _

/-- Records of distinct peers are all kept, each under its key. -/
theorem foldl_latestOf (h : OfDistinctPeers records) (excluded : String) (latest : Dict String TelemetryRecord)
    (apart : ∀ record ∈ records, ∀ key, telemetryIdentityKey record.peerDestination = some key →
      key ≠ excluded ∧ latest.get key = none) (key : String) (record : TelemetryRecord) :
    (records.foldl (latestOf (some excluded)) latest).get key = some record ↔
      latest.get key = some record ∨ (record ∈ records ∧ telemetryIdentityKey record.peerDestination = some key) := by
  induction records generalizing latest with
  | nil =>
    rw [List.foldl_nil]
    exact ⟨Or.inl, fun either => either.resolve_right fun ⟨mem, _⟩ => absurd mem List.not_mem_nil⟩
  | cons first records ih =>
    obtain ⟨own, keyed⟩ := Option.ne_none_iff_exists'.1 (h.keyed first List.mem_cons_self)
    obtain ⟨foreign, absent⟩ := apart first List.mem_cons_self own keyed
    have nodup := h.nodup
    rw [List.map_cons, List.nodup_cons, keyed] at nodup
    have tail : OfDistinctPeers records := ⟨nodup.2, fun other mem => h.keyed other (List.mem_cons_of_mem first mem)⟩
    have stored : latestOf (some excluded) latest first = latest.insert own first := by
      rw [latestOf, keyed]
      dsimp only
      rw [absent, Option.any_some, if_neg (by rw [beq_iff_eq]; exact foreign)]
      rfl
    have apart' : ∀ other ∈ records, ∀ key, telemetryIdentityKey other.peerDestination = some key →
        key ≠ excluded ∧ (latest.insert own first).get key = none := by
      intro other mem key otherKeyed
      obtain ⟨foreign', absent'⟩ := apart other (List.mem_cons_of_mem first mem) key otherKeyed
      have differ : key ≠ own := by
        rintro rfl
        apply nodup.1
        rw [← otherKeyed]
        exact List.mem_map_of_mem mem
      rw [Dict.get_insert_ne differ]
      exact ⟨foreign', absent'⟩
    rw [List.foldl_cons, stored, ih tail _ apart', Dict.get_insert, List.mem_cons]
    constructor
    · rintro (held | ⟨mem, same⟩)
      · split at held
        · rename_i here
          cases held
          exact .inr ⟨.inl rfl, by rw [keyed, here]⟩
        · exact .inl held
      · exact .inr ⟨.inr mem, same⟩
    · rintro (held | ⟨rfl | mem, same⟩)
      · left
        rw [if_neg, held]
        rintro rfl
        rw [absent] at held
        cases held
      · left
        rw [keyed, Option.some.injEq] at same
        rw [if_pos same.symm]
      · exact .inr ⟨mem, same⟩

/-- Records of distinct peers are all kept, but in another order. -/
theorem latestTelemetryRecordsForIdentities_perm (h : OfDistinctPeers records) {excluded : String}
    (apart : ∀ record ∈ records, telemetryIdentityKey record.peerDestination ≠ some excluded) :
    (latestTelemetryRecordsForIdentities records (some excluded)).Perm records := by
  have fold := foldl_latestOf h excluded ∅ fun record mem key keyed =>
    ⟨fun same => apart record mem (by rw [keyed, same]), Dict.get_empty key⟩
  have sorted : (latestTelemetryRecordsForIdentities records (some excluded)).Perm
      (records.foldl (latestOf (some excluded)) ∅).values := List.perm_insertionSort _ _
  have values : (records.foldl (latestOf (some excluded)) ∅).values.Perm records := by
    have keys : ∀ pair ∈ (records.foldl (latestOf (some excluded)) ∅).toPairs,
        telemetryIdentityKey pair.2.peerDestination = some pair.1 := by
      intro pair mem
      obtain held | ⟨-, keyed⟩ := (fold pair.1 pair.2).1 (Dict.mem_toPairs.1 mem)
      · rw [Dict.get_empty] at held
        cases held
      · exact keyed
    have nodup : (records.foldl (latestOf (some excluded)) ∅).values.Nodup := by
      have pairs : (records.foldl (latestOf (some excluded)) ∅).values =
          (records.foldl (latestOf (some excluded)) ∅).toPairs.map Prod.snd := by
        rw [Dict.values, Dict.toPairs, List.map_map]
        rfl
      rw [pairs]
      apply List.Nodup.of_map fun record => telemetryIdentityKey record.peerDestination
      rw [List.map_map, Function.comp_def, List.map_congr_left keys]
      have distinct := (Dict.nodup_toPairs (records.foldl (latestOf (some excluded)) ∅)).map (Option.some_injective String)
      rwa [List.map_map, Function.comp_def] at distinct
    rw [List.perm_ext_iff_of_nodup nodup h.nodup_records]
    intro record
    rw [Dict.mem_values]
    constructor
    · rintro ⟨key, held⟩
      obtain held | ⟨mem, -⟩ := (fold key record).1 held
      · rw [Dict.get_empty] at held
        cases held
      · exact mem
    · intro mem
      obtain ⟨key, keyed⟩ := Option.ne_none_iff_exists'.1 (h.keyed record mem)
      exact ⟨key, (fold key record).2 (.inr ⟨mem, keyed⟩)⟩
  exact sorted.trans values

end Rows

/-! ## The newest wins -/

namespace TelemetrySystem

/-- Memory and rows hold the same, and no call is under way. -/
structure Settled (s : TelemetrySystem) : Prop where
  idle : s.threads = []
  kept : ∀ record ∈ s.state.telemetryRecords, telemetryIdentityKey record.peerDestination ≠ none ∧
    s.state.isOwnSource record.peerDestination = false
  single : ∀ key, (s.state.telemetryRecords.filter (samePeer key)).length ≤ 1
  agree : s.state.telemetryRecords.Perm s.store.telemetryRecords

variable {s start : TelemetrySystem} {moves : List TelemetryMove}

theorem Settled.traced (h : s.Settled) : s.Traced := by
  have history : ∀ key, s.history key = s.store.telemetryRecords.filter (samePeer key) := by
    intro key
    rw [TelemetrySystem.history, h.idle]
    exact List.append_nil _
  have rows : ∀ key, (s.state.telemetryRecords.filter (samePeer key)).Perm
      (s.store.telemetryRecords.filter (samePeer key)) := fun key => h.agree.filter _
  have single : ∀ key, (s.store.telemetryRecords.filter (samePeer key)).length ≤ 1 := by
    intro key
    rw [← (rows key).length_eq]
    exact h.single key
  have keyed : ∀ record ∈ s.store.telemetryRecords, telemetryIdentityKey record.peerDestination ≠ none :=
    fun record mem => (h.kept record (h.agree.mem_iff.2 mem)).1
  have pending : ∀ thread ∈ s.threads, telemetryIdentityKey thread.record.peerDestination ≠ none := by
    rw [h.idle]
    exact fun thread mem => absurd mem List.not_mem_nil
  have newest : ∀ key, s.state.telemetryRecords.filter (samePeer key) = (s.history key).getLast?.toList := by
    intro key
    have perm := rows key
    rw [history]
    cases found : s.store.telemetryRecords.filter (samePeer key) with
    | nil =>
      rw [found] at perm
      exact perm.eq_nil
    | cons first rest =>
      have few := single key
      rw [found, List.length_cons] at few
      have none : rest = [] := List.length_eq_zero_iff.1 (by omega)
      rw [found, none] at perm
      rw [none]
      exact perm.eq_singleton
  have alone : ∀ key, ∀ record ∈ s.history key, s.history key = [record] := by
    intro key record mem
    rw [history] at mem ⊢
    have few := single key
    cases found : s.store.telemetryRecords.filter (samePeer key) with
    | nil =>
      rw [found] at mem
      cases mem
    | cons first rest =>
      rw [found, List.length_cons] at few
      have none : rest = [] := List.length_eq_zero_iff.1 (by omega)
      rw [found, none] at mem
      rw [none, List.mem_singleton.1 mem]
  constructor
  case kept => exact h.kept
  case rows => exact keyed
  case pending => exact pending
  case newest => exact newest
  case single => exact single
  case sorted =>
    intro key
    cases found : s.history key with
    | nil => exact List.Pairwise.nil
    | cons first rest =>
      have only := alone key first (by rw [found]; exact List.mem_cons_self)
      rw [← found, only]
      exact List.pairwise_singleton _ _
  case oneCase =>
    intro key record mem other mem'
    rw [alone key record mem, List.mem_singleton] at mem'
    rw [mem', eqIgnoreAsciiCase_iff]

/-- Once every call has ended memory and rows hold the same. -/
theorem Traced.settled (h : s.Traced) (idle : s.threads = []) : s.Settled := by
  have history : ∀ key, s.history key = s.store.telemetryRecords.filter (samePeer key) := by
    intro key
    rw [TelemetrySystem.history, idle]
    exact List.append_nil _
  have same : ∀ key, s.state.telemetryRecords.filter (samePeer key) = s.store.telemetryRecords.filter (samePeer key) := by
    intro key
    have single := h.single key
    rw [h.newest key, history]
    cases found : s.store.telemetryRecords.filter (samePeer key) with
    | nil => rfl
    | cons first rest =>
      rw [found, List.length_cons] at single
      have none : rest = [] := List.length_eq_zero_iff.1 (by omega)
      rw [none]
      rfl
  have single : ∀ key, (s.state.telemetryRecords.filter (samePeer key)).length ≤ 1 := by
    intro key
    rw [same]
    exact h.single key
  have memory := ofDistinctPeers (fun record mem => (h.kept record mem).1) single
  have rows := ofDistinctPeers h.rows h.single
  have agree : s.state.telemetryRecords.Perm s.store.telemetryRecords := by
    rw [List.perm_ext_iff_of_nodup memory.nodup_records rows.nodup_records]
    intro record
    constructor
    · intro mem
      obtain ⟨key, keyed⟩ := Option.ne_none_iff_exists'.1 (memory.keyed record mem)
      have there := List.mem_filter.2 ⟨mem, samePeer_iff.2 keyed⟩
      rw [same] at there
      exact List.mem_of_mem_filter there
    · intro mem
      obtain ⟨key, keyed⟩ := Option.ne_none_iff_exists'.1 (rows.keyed record mem)
      have there := List.mem_filter.2 ⟨mem, samePeer_iff.2 keyed⟩
      rw [← same] at there
      exact List.mem_of_mem_filter there
  exact ⟨idle, h.kept, single, agree⟩

theorem Settled.distinct (h : s.Settled) : OfDistinctPeers s.state.telemetryRecords :=
  ofDistinctPeers (fun record mem => (h.kept record mem).1) h.single

theorem pruneTelemetryRecords_eq (h : s.Settled) :
    s.store.pruneTelemetryRecords s.state.reticulumdSource = s.store := by
  have distinct := h.distinct.perm h.agree.symm
  have foreign : ∀ destination ∈ s.state.reticulumdSource, ∀ row ∈ s.store.telemetryRecords,
      (!eqIgnoreAsciiCase row.peerDestination destination) = true := by
    intro destination own row mem
    obtain ⟨keyed, foreign⟩ := h.kept row (h.agree.mem_iff.2 mem)
    rw [Bool.not_eq_true', Bool.eq_false_iff]
    intro same
    obtain ⟨key, keyed⟩ := Option.ne_none_iff_exists'.1 keyed
    have source : telemetryIdentityKey destination = some key := (telemetryIdentityKey_case same).symm.trans keyed
    rw [AppState.isOwnSource, Option.mem_def.1 own, Option.bind_some, source, Option.any_some, keyed, beq_self_eq_true] at foreign
    cases foreign
  unfold SqliteStore.pruneTelemetryRecords
  cases own : s.state.reticulumdSource with
  | none =>
    dsimp only
    rw [latestTelemetryRows_eq distinct]
  | some destination =>
    dsimp only
    rw [List.filter_eq_self.2 (foreign destination own), latestTelemetryRows_eq distinct]

/-- A restart loads what was in memory. -/
theorem Settled.restart (h : s.Settled) :
    s.restart.state.telemetryRecords.Perm s.state.telemetryRecords ∧
    s.restart.store.telemetryRecords = s.store.telemetryRecords := by
  have distinct := h.distinct.perm h.agree.symm
  have loaded := (loadLatestTelemetryRecords_perm distinct).trans h.agree.symm
  have pruned := pruneTelemetryRecords_eq h
  unfold TelemetrySystem.restart
  cases own : s.state.reticulumdSource.bind telemetryIdentityKey with
  | none =>
    dsimp only
    rw [pruned]
    exact ⟨loaded, rfl⟩
  | some sourceKey =>
    dsimp only
    rw [pruned, pruned]
    have apart : ∀ record ∈ s.store.loadLatestTelemetryRecords,
        telemetryIdentityKey record.peerDestination ≠ some sourceKey := by
      intro record mem keyed
      have foreign := (h.kept record (loaded.mem_iff.1 mem)).2
      rw [AppState.isOwnSource, own, Option.any_some, keyed, beq_self_eq_true] at foreign
      cases foreign
    exact ⟨(latestTelemetryRecordsForIdentities_perm (h.distinct.perm loaded) apart).trans loaded, rfl⟩

end TelemetrySystem

/-- In a run whose moves are orderly no record of a peer takes the place of a newer one, in
memory or in the rows; and once every call has ended both hold the newest record of every
peer that has been told and nothing else, as they do after a restart. -/
theorem newest_telemetry_wins (start : TelemetrySystem) (settled : start.Settled) (moves : List TelemetryMove)
    (orderly : OrderlyTelemetry start moves) :
    (∀ before after, moves = before ++ after →
      Supersedes (start.run moves).state.telemetryRecords (start.run before).state.telemetryRecords ∧
      Supersedes (start.run moves).store.telemetryRecords (start.run before).store.telemetryRecords) ∧
    ((start.run moves).threads = [] →
      (start.run moves).state.telemetryRecords.Perm (start.run moves).store.telemetryRecords ∧
      OfDistinctPeers (start.run moves).state.telemetryRecords ∧
      (∀ record ∈ (start.run moves).state.telemetryRecords, record ∈ start.offered moves ∧
        ∀ other ∈ start.offered moves,
          telemetryIdentityKey other.peerDestination = telemetryIdentityKey record.peerDestination →
          other.timestampS ≤ record.timestampS) ∧
      (∀ other ∈ start.offered moves, ∃ record ∈ (start.run moves).state.telemetryRecords,
        telemetryIdentityKey record.peerDestination = telemetryIdentityKey other.peerDestination) ∧
      (start.run moves).restart.state.telemetryRecords.Perm (start.run moves).state.telemetryRecords ∧
      (start.run moves).restart.store.telemetryRecords = (start.run moves).store.telemetryRecords) := by
  have ledger := TelemetrySystem.ledger settled.traced.singlePeers moves
  constructor
  · exact fun before after split => orderly.supersedes settled.traced split
  · intro idle
    have settled' := (orderly.traced settled.traced).settled idle
    have distinct := settled'.distinct
    refine ⟨settled'.agree, distinct, fun record mem => ⟨ledger.told record mem, fun other known same => ?_⟩, ?_,
      settled'.restart⟩
    · obtain ⟨newer, mem', same', late⟩ := ledger.newest other known
      have only := List.inj_on_of_nodup_map distinct.nodup mem' mem (same'.trans same)
      rw [← only]
      exact late
    · intro other known
      obtain ⟨newer, mem, same, -⟩ := ledger.newest other known
      exact ⟨newer, mem, same⟩

/-- A sample of one peer. -/
def sampleAt (timestampS : Int) : TelemetryCall := { peerDestination := "ab12", telemetry := .null, timestampS }

theorem sample_wins :
    let start : TelemetrySystem := { state := {}, store := {} }
    let moves : List TelemetryMove := [.keep (sampleAt 1), .write 0, .tell 0]
    (start.run moves).state.telemetryRecords.Perm (start.run moves).store.telemetryRecords ∧
    (start.run moves).restart.state.telemetryRecords.Perm (start.run moves).state.telemetryRecords := by
  intro start moves
  have settled : start.Settled := by
    constructor
    case idle => rfl
    case kept => exact fun record mem => absurd mem List.not_mem_nil
    case single => exact fun key => Nat.zero_le _
    case agree => exact .refl _
  have kept : OrderlyTelemetry start [.keep (sampleAt 1)] := by
    refine .move [] _ .start fun _ => ⟨by decide, fun record mem => absurd mem List.not_mem_nil⟩
  have written : OrderlyTelemetry start [.keep (sampleAt 1), .write 0] := by
    refine .move [.keep (sampleAt 1)] _ kept fun thread found _ => ⟨rfl, fun earlier mem => ?_⟩
    rw [List.take_zero] at mem
    exact absurd mem List.not_mem_nil
  have told : OrderlyTelemetry start moves := .move [.keep (sampleAt 1), .write 0] _ written trivial
  have wins := (newest_telemetry_wins start settled moves told).2 rfl
  exact ⟨wins.1, wins.2.2.2.2.1⟩

/-- The row of the older sample is written last: memory holds the newer one, the rows and the
server after a restart the older. -/
theorem older_sample_wins :
    let s := TelemetrySystem.run { state := {}, store := {} }
      [.keep (sampleAt 1), .keep (sampleAt 2), .write 1, .write 0, .tell 0, .tell 0]
    s.threads.length = 0 ∧ s.state.telemetryRecords.map TelemetryRecord.timestampS = [2] ∧
    s.store.telemetryRecords.map TelemetryRecord.timestampS = [1] ∧
    s.restart.state.telemetryRecords.map TelemetryRecord.timestampS = [1] := by decide

end TelemetryHub
