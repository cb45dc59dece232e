import TelemetryHub.Server.Inbound

/-!
# Telemetry records

A call of `record_telemetry` puts its record into the list in memory under the lock of the
list, writes its row after the lock is released, and tells the followers last. Calls of
several threads interleave between these steps. The list is loaded from the rows when the
server starts.
-/

namespace TelemetryHub

open Lib ServerM

/-! ## One call -/

/-- The arguments of `record_telemetry`. -/
structure TelemetryCall where
  peerDestination : String
  telemetry : Value
  timestampS : Int
  displayName : Option String := none

/-- The record of a call. -/
def TelemetryCall.record (call : TelemetryCall) : TelemetryRecord :=
  { peerDestination := call.peerDestination, timestampS := call.timestampS, telemetry := call.telemetry
    displayName := normalizeOptionalText call.displayName, identityLabel := normalizeOptionalText call.displayName }

/-- The part of `record_telemetry` under the lock: the list after it, and the record that is
to be written, if the call has not returned. -/
def AppState.keepTelemetry (s : AppState) (record : TelemetryRecord) : Option TelemetryRecord × AppState :=
  if s.isOwnSource record.peerDestination then (none, s)
  else match newerTelemetry s.telemetryRecords record with
    | some _ => (none, s)
    | none => (some record, { s with telemetryRecords := withTelemetry s.telemetryRecords record })

/-- A call that nothing interrupts. -/
theorem recordTelemetry_run {peerDestination : String} {telemetry : Value} {timestampS : Int} {w : ServerWorld}
    {store : SqliteStore} (opened : w.state.sqlite = some store) (unlocked : w.state.persistenceLocked = false) :
    ((recordTelemetry peerDestination telemetry timestampS).run w).2.state =
      match w.state.keepTelemetry (TelemetryCall.record { peerDestination, telemetry, timestampS }) with
      | (none, s) => s
      | (some record, s) => { s with sqlite := some (store.insertTelemetryRecord record) } := by
  have record : TelemetryCall.record { peerDestination, telemetry, timestampS } =
    { peerDestination, timestampS, telemetry, displayName := none, identityLabel := none } := rfl
  rw [record]
  unfold recordTelemetry AppState.keepTelemetry
  by_cases own : w.state.isOwnSource peerDestination
  · simp [own, Proc.run_bind, state]
  · cases newer : newerTelemetry w.state.telemetryRecords
      { peerDestination, timestampS, telemetry, displayName := none, identityLabel := none } with
    | some existing => simp [own, newer, Proc.run_bind, state]
    | none =>
      simp [own, newer, Proc.run_bind, state, update, persistTelemetryRecordRow, withCoreStoreWrite,
        ensureKillSwitchPersistenceUnlocked, unlocked, opened]
      rfl

/-! ## Rows -/

namespace SqliteStore

/-- The row of a peer that is the latest, the later one of two of one time:
`ORDER BY candidate.timestamp_s DESC, candidate.id DESC LIMIT 1`. -/
def latestTelemetryId (rows : List TelemetryRecord) (peerDestination : String) : Option Nat :=
  ((rows.zipIdx.filter fun row => eqIgnoreAsciiCase row.1.peerDestination peerDestination).foldl
    (fun best row => match best with
      | some kept => if kept.1.timestampS ≤ row.1.timestampS then some row else some kept
      | none => some row) none).map Prod.snd

/-- The latest row of every peer. -/
def latestTelemetryRows (rows : List TelemetryRecord) : List TelemetryRecord :=
  (rows.zipIdx.filter fun row => latestTelemetryId rows row.1.peerDestination == some row.2).map Prod.fst

/-- `prune_telemetry_records`. -/
def pruneTelemetryRecords (excludedPeerDestination : Option String) (store : SqliteStore) : SqliteStore :=
  let rows := match excludedPeerDestination with
    | some destination => store.telemetryRecords.filter fun row => !eqIgnoreAsciiCase row.peerDestination destination
    | none => store.telemetryRecords
  { store with telemetryRecords := latestTelemetryRows rows }

/-- `load_latest_telemetry_records`. -/
def loadLatestTelemetryRecords (store : SqliteStore) : List TelemetryRecord :=
  sortBy (fun left right =>
      (compare (toAsciiLowercase left.peerDestination) (toAsciiLowercase right.peerDestination)).then
        (compare left.timestampS right.timestampS))
    (latestTelemetryRows store.telemetryRecords)

end SqliteStore

/-- The loop of `latest_telemetry_records_for_identities`. -/
def latestOf (excludedIdentity : Option String) (latest : Dict String TelemetryRecord) (record : TelemetryRecord) :
    Dict String TelemetryRecord :=
  match telemetryIdentityKey record.peerDestination with
  | none => latest
  | some identity =>
    if excludedIdentity.any (identity == ·) then latest
    else if (latest.get identity).all fun existing => existing.timestampS ≤ record.timestampS then
      latest.insert identity record
    else latest

/-- `latest_telemetry_records_for_identities`. -/
def latestTelemetryRecordsForIdentities (records : List TelemetryRecord) (excludedIdentity : Option String) :
    List TelemetryRecord :=
  sortBy (fun left right =>
      (compare left.peerDestination right.peerDestination).then (compare left.timestampS right.timestampS))
    (records.foldl (latestOf excludedIdentity) ∅).values

/-! ## The system -/

/-- A call whose record is in the list: whether its row is written. -/
structure TelemetryThread where
  record : TelemetryRecord
  written : Bool := false

/-- The state, the database beside it, and the calls under way, in the order in which they
have had the lock. -/
structure TelemetrySystem where
  state : AppState
  store : SqliteStore
  threads : List TelemetryThread := []

/-- The moves of a run: the part of a call under the lock, the write of a row, and the
broadcast. -/
inductive TelemetryMove where
  | keep (call : TelemetryCall)
  | write (index : Nat)
  | tell (index : Nat)

namespace TelemetrySystem

/-- The write of the thread at the index; where the rows may not be written the call has
failed. -/
def writeThread (s : TelemetrySystem) (index : Nat) (thread : TelemetryThread) : TelemetrySystem :=
  if s.state.persistenceLocked then { s with threads := s.threads.eraseIdx index }
  else
    { s with
      store := s.store.insertTelemetryRecord thread.record
      threads := s.threads.set index { thread with written := true } }

/-- One move; one that is not possible changes nothing. -/
def step (s : TelemetrySystem) : TelemetryMove → TelemetrySystem
  | .keep call =>
    match s.state.keepTelemetry call.record with
    | (none, state) => { s with state }
    | (some record, state) => { s with state, threads := s.threads ++ [{ record }] }
  | .write index =>
    match s.threads[index]? with
    | some thread => if thread.written then s else s.writeThread index thread
    | none => s
  | .tell index =>
    match s.threads[index]? with
    | some thread => if thread.written then { s with threads := s.threads.eraseIdx index } else s
    | none => s

/-- A run. -/
def run (s : TelemetrySystem) (moves : List TelemetryMove) : TelemetrySystem := moves.foldl step s

/-- The start of the server on its rows: `from_sqlite_path_with_reticulumd_source`, and
`prune_telemetry_for_local_source` where a source is configured. -/
def restart (s : TelemetrySystem) : TelemetrySystem :=
  let store := s.store.pruneTelemetryRecords s.state.reticulumdSource
  let loaded := store.loadLatestTelemetryRecords
  match s.state.reticulumdSource.bind telemetryIdentityKey with
  | none => { s with state := { s.state with telemetryRecords := loaded }, store, threads := [] }
  | some sourceKey =>
    { s with
      state := { s.state with telemetryRecords := latestTelemetryRecordsForIdentities loaded (some sourceKey) }
      store := store.pruneTelemetryRecords s.state.reticulumdSource
      threads := [] }

end TelemetrySystem

end TelemetryHub
