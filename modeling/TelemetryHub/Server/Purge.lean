import TelemetryHub.Server.KillSwitch

/-!
# What a purge leaves on disk

The database and the configuration files beside the kill switch: the operations of the
server by the accesses they make, those that ask whether the persistence is locked and
those that do not, interleaved with the requests and the worker of the kill switch.
-/

namespace TelemetryHub

/-! ## The disk -/

/-- A row of the database. -/
structure DatabaseRow where
  table : String
  key : String
  payload : String
  deriving DecidableEq

abbrev Database : Type := List DatabaseRow

/-- `RCH_SQLITE_DATA_TABLES`. -/
def rchSqliteDataTables : List String :=
  ["rch_topics", "rch_subscribers", "rch_messages", "rch_clients", "rch_identity_announces", "rch_identity_states",
    "rch_identity_rem_modes", "rch_audit_events", "rch_system_events", "rch_telemetry_records", "rch_markers",
    "rch_zones", "rch_missions", "rch_mission_changes", "rch_log_entries", "rch_file_attachments",
    "rch_eam_snapshots", "rch_teams", "rch_mission_team_links", "rch_mission_zone_links",
    "rch_mission_marker_links", "rch_team_members", "rch_team_member_client_links", "rch_assets", "rch_skills",
    "rch_team_member_skills", "rch_task_skill_requirements", "rch_assignments", "rch_assignment_asset_links",
    "rch_checklists", "rch_checklist_templates", "rch_checklist_columns", "rch_checklist_tasks",
    "rch_checklist_cells", "rch_checklist_feed_publications", "rch_command_results", "rch_identity_capabilities",
    "rch_mission_access_assignments", "rch_subject_operation_rights", "rch_domain_events", "rch_outbound_jobs",
    "rch_settings"]

/-- The rows `migrate` leaves in a new database. -/
def migratedRows : Database :=
  [⟨"rch_schema_migrations", "1", "rch_core_snapshot"⟩, ⟨"rch_schema_migrations", "2", "ordered_migrations"⟩,
    ⟨"rch_schema_migrations", "3", "topic_subscription_corrections"⟩, ⟨"rch_settings", "schema_version", "3"⟩]

/-- `wipe_database`. -/
def wipeDatabase (rows : Database) : Database := rows.filter fun row => !rchSqliteDataTables.contains row.table

/-- `set_setting_value`. -/
def setSettingValue (key value : String) (rows : Database) : Database :=
  rows.filter (fun row => !(row.table == "rch_settings" && row.key == key)) ++ [⟨"rch_settings", key, value⟩]

/-- `setting_value`. -/
def settingValue (key : String) (rows : Database) : Option String :=
  (rows.find? fun row => row.table == "rch_settings" && row.key == key).map DatabaseRow.payload

/-- `save_kill_switch_pin_secret`. -/
def saveKillSwitchPinSecret (secret : KillSwitchPinSecret) (rows : Database) : Database :=
  setSettingValue "kill_switch_pin_created_at_ts_ms" (toString secret.createdAtTsMs)
    (setSettingValue "kill_switch_pin_hash" secret.hash (setSettingValue "kill_switch_pin_salt" secret.salt rows))

/-- `save_remote_access_password`. -/
def saveRemoteAccessPassword (secret : KillSwitchPinSecret) (rows : Database) : Database :=
  setSettingValue "remote_access_password_created_at_ts_ms" (toString secret.createdAtTsMs)
    (setSettingValue "remote_access_password_hash" secret.hash
      (setSettingValue "remote_access_password_salt" secret.salt rows))

/-- The database, if its file exists, and the texts of the other files. -/
structure HubDisk where
  database : Option Database
  files : String → Option String

namespace HubDisk

/-- `RchSqliteStore::open`: a database that is not there is made. -/
def opened (disk : HubDisk) : HubDisk := { disk with database := some (disk.database.getD migratedRows) }

/-- The database is opened and written. -/
def write (disk : HubDisk) (rows : Database → Database) : HubDisk :=
  { disk with database := some (rows (disk.database.getD migratedRows)) }

/-- A file is written. -/
def writeFile (disk : HubDisk) (path text : String) : HubDisk :=
  { disk with files := Function.update disk.files path (some text) }

/-- `delete_kill_switch_artifacts`, of the configuration files at the paths. -/
def deleted (disk : HubDisk) (paths : List String) : HubDisk :=
  { database := none, files := fun path => if path ∈ paths then none else disk.files path }

/-- There is no database, and no file at the paths. -/
def Erased (disk : HubDisk) (paths : List String) : Prop := disk.database = none ∧ ∀ path ∈ paths, disk.files path = none

end HubDisk

/-! ## The operations of the server -/

/-- One access to the disk. -/
inductive DiskAccess where
  /-- `with_core_store_write` and `with_required_core_store_write`. -/
  | checkedStore (rows : Database → Database)
  /-- The store, opened without asking. -/
  | store (rows : Database → Database)
  | file (path text : String)
  /-- `load_kill_switch_pin`, and the end of the operation where a PIN is enrolled. -/
  | unlessEnrolled
  /-- The reading of `load_kill_switch_pin`, behind its check. -/
  | readPin

/-- The operations that reach the disk, by the functions that do. -/
inductive HubOperation where
  /-- The `persist_*_row` and `delete_*_row` functions, and the secrets of remote access. -/
  | coreStoreWrite (rows : Database → Database)
  | saveReticulumdEventCursor (cursor : String)
  | clearReticulumdEventCursor
  | persistIdentityAnnounceRecords (rows : Database → Database)
  | persistIdentityStateRecords (rows : Database → Database)
  | processInboundMissionSyncCommand (rows : Database → Database)
  | internalIdentityAnnounce (announce identityState event : Database → Database)
  | r3aktCommand (rows : Database → Database)
  | checklistCommand (rows : Database → Database)
  | withR3aktCore (rows : Database → Database)
  /-- The lists that are read from a store opened for writing. -/
  | openedForReading
  | pruneTelemetryForLocalSource (rows : Database → Database)
  | applyConfigFile (path backupPath backupText text : String)
  | rollbackConfigFile (path text : String)
  | firstRunSetupComplete (hubName : String) (config reticulumConfig : Option (String × String))
      (password pin : KillSwitchPinSecret)

/-- A file is written where one is configured. -/
def writeConfigFileForSetup (file : Option (String × String)) : List DiskAccess :=
  file.toList.map fun (path, text) => .file path text

/-- The accesses of an operation, in their order. -/
def HubOperation.accesses : HubOperation → List DiskAccess
  | coreStoreWrite rows => [.checkedStore rows]
  | saveReticulumdEventCursor cursor => [.store (setSettingValue "reticulumd_event_cursor" cursor)]
  | clearReticulumdEventCursor => [.store (setSettingValue "reticulumd_event_cursor" "")]
  | persistIdentityAnnounceRecords rows | persistIdentityStateRecords rows | processInboundMissionSyncCommand rows
  | r3aktCommand rows | checklistCommand rows | withR3aktCore rows | pruneTelemetryForLocalSource rows => [.store rows]
  | internalIdentityAnnounce announce identityState event =>
    [.store announce, .checkedStore identityState, .checkedStore event]
  | openedForReading => [.store id]
  | applyConfigFile path backupPath backupText text => [.file backupPath backupText, .file path text]
  | rollbackConfigFile path text => [.file path text]
  | firstRunSetupComplete hubName config reticulumConfig password pin =>
    [.unlessEnrolled] ++ writeConfigFileForSetup config ++ writeConfigFileForSetup reticulumConfig ++
      [.checkedStore (setSettingValue "hub_name" hubName), .checkedStore (saveRemoteAccessPassword password),
        .checkedStore (saveKillSwitchPinSecret pin)]

/-- An operation that asks before each access, or before the first. -/
def HubOperation.asks : HubOperation → Bool
  | coreStoreWrite _ | firstRunSetupComplete .. => true
  | _ => false

/-- A batch of events: its announces, its envelopes, and the cursor behind it. -/
def eventBatch (announces envelopes : List HubOperation) (cursor : Option String) : List HubOperation :=
  announces ++ envelopes ++ [(cursor.map .saveReticulumdEventCursor).getD .clearReticulumdEventCursor]

/-! ## The system -/

/-- The kill switch, the disk, and the accesses that the operations under way still make. -/
structure PurgeSystem where
  killSwitch : KillSwitchSystem
  disk : HubDisk
  tasks : Nat → List DiskAccess := fun _ => []

/-- What happens next: a step of the kill switch, a task that comes in, or the next access of
one; where the access is refused the task ends, unless the error is passed over. -/
inductive PurgeMove where
  | killSwitch (move : KillSwitchMove)
  | receive (task : Nat) (operations : List HubOperation)
  | access (task : Nat) (passedOver : Bool)

namespace PurgeSystem

/-- The mode is `Deleting` or `Completed`. -/
def locked (s : PurgeSystem) : Bool := s.killSwitch.runtime.locked

/-- What a step of the kill switch does to the disk. -/
def diskAfter (paths : List String) (s : PurgeSystem) : KillSwitchMove → HubDisk
  | .advance i input =>
    match s.killSwitch.threads i with
    | .pinRead _ | .purgePreviewRead | .statusPreviewRead => s.disk.opened
    | .rehashWrite _ secret =>
      if input.failure.isSome then s.disk
      else s.disk.write (saveKillSwitchPinSecret { secret with hash := input.rehashed })
    | .workerWipe => if input.failure.isSome then s.disk else s.disk.write wipeDatabase
    | .workerDelete _ => if input.failure.isSome then s.disk else s.disk.deleted paths
    | _ => s.disk
  | _ => s.disk

/-- Something of a PIN is stored. -/
def enrolled (s : PurgeSystem) : Bool :=
  ["kill_switch_pin_salt", "kill_switch_pin_hash", "kill_switch_pin_created_at_ts_ms"].any fun key =>
    (settingValue key (s.disk.database.getD migratedRows)).isSome

/-- A task at its next accesses. -/
def goto (s : PurgeSystem) (task : Nat) (rest : List DiskAccess) : PurgeSystem :=
  { s with tasks := Function.update s.tasks task rest }

/-- The next access of a task. -/
def access (task : Nat) (passedOver : Bool) (s : PurgeSystem) : PurgeSystem :=
  match s.tasks task with
  | [] => s
  | .checkedStore rows :: rest =>
    if s.locked then s.goto task (if passedOver then rest else []) else s.goto task (.store rows :: rest)
  | .store rows :: rest => { s with disk := s.disk.write rows }.goto task rest
  | .file path text :: rest => { s with disk := s.disk.writeFile path text }.goto task rest
  | .unlessEnrolled :: rest => s.goto task (if s.locked then [] else .readPin :: rest)
  | .readPin :: rest => { s with disk := s.disk.opened }.goto task (if s.enrolled then [] else rest)

/-- One move, with the paths of the configuration files. -/
def step (verify : KillSwitchSystem.Verifier) (paths : List String) (move : PurgeMove) (s : PurgeSystem) : PurgeSystem :=
  match move with
  | .killSwitch move => { s with killSwitch := s.killSwitch.step verify move, disk := s.diskAfter paths move }
  | .receive task operations =>
    match s.tasks task with
    | [] => s.goto task (operations.flatMap HubOperation.accesses)
    | _ => s
  | .access task passedOver => s.access task passedOver

end PurgeSystem

/-! ## Runs in which the purge finds the server quiet -/

/-- Under the lock these accesses reach nothing: each is refused, or comes behind one that is. -/
def refused : List DiskAccess → Bool
  | [] => true
  | .checkedStore _ :: rest => refused rest
  | .unlessEnrolled :: _ => true
  | _ => false

/-- A thread of the kill switch that is not between the check of the lock and what comes behind it. -/
def KillSwitchThread.settled : KillSwitchThread → Bool
  | pinRead _ | rehashWrite .. | purgePreviewRead | statusPreviewRead | notEnrolledWrite => false
  | _ => true

/-- The worker is about to write down its success. -/
def KillSwitchThread.succeeded : KillSwitchThread → Bool
  | workerWrite (.ok _) => true
  | _ => false

theorem KillSwitchThread.purges_of_succeeded {thread : KillSwitchThread} (success : thread.succeeded) : thread.purges := by
  cases thread with
  | workerWrite result => rfl
  | _ => cases success

namespace PurgeSystem

/-- No thread of the kill switch but the one, and no task, is behind a check already, and no
task is about to reach the disk without one. -/
def Quiet (s : PurgeSystem) (purging : Nat) : Prop :=
  (∀ i, i ≠ purging → (s.killSwitch.threads i).settled) ∧ ∀ task, refused (s.tasks task)

/-- A purge starts only where the server is quiet, and an operation that comes in while a
purge is active or completed asks before it reaches the disk. -/
def Permitted (s : PurgeSystem) : PurgeMove → Prop
  | .killSwitch (.advance i input) =>
    ∀ rows runtime, s.killSwitch.threads i = .purgeWrite rows →
      purgeSection rows input.nowMs s.killSwitch.runtime = .ok (some runtime) → s.Quiet i
  | .receive _ operations => s.locked → ∀ operation ∈ operations, operation.asks
  | _ => True

/-- A run of permitted moves. -/
inductive PermittedRun (verify : KillSwitchSystem.Verifier) (paths : List String) : PurgeSystem → PurgeSystem → Prop
  | refl (s) : PermittedRun verify paths s s
  | step {s s' move} :
      PermittedRun verify paths s s' → Permitted s' move → PermittedRun verify paths s (s'.step verify paths move)

end PurgeSystem

theorem refused_append {front : List DiskAccess} (h : refused front) {back : List DiskAccess} (h' : refused back) :
    refused (front ++ back) := by
  induction front with
  | nil => exact h'
  | cons first front ih =>
    cases first with
    | checkedStore rows => exact ih h
    | unlessEnrolled => rfl
    | store rows => cases h
    | file path text => cases h
    | readPin => cases h

theorem HubOperation.asks_refused {operation : HubOperation} (asks : operation.asks) : refused operation.accesses := by
  cases operation with
  | coreStoreWrite rows => rfl
  | firstRunSetupComplete hubName config reticulumConfig password pin => rfl
  | _ => cases asks

theorem refused_flatMap {operations : List HubOperation} (asks : ∀ operation ∈ operations, operation.asks) :
    refused (operations.flatMap HubOperation.accesses) := by
  induction operations with
  | nil => rfl
  | cons operation operations ih =>
    rw [List.flatMap_cons]
    apply refused_append (HubOperation.asks_refused (asks operation List.mem_cons_self))
    exact ih fun other mem => asks other (List.mem_cons_of_mem _ mem)

/-! ## The kill switch under the lock -/

namespace KillSwitchSystem

variable {verify : Verifier} {s : KillSwitchSystem}

theorem settled_goto {i : Nat} {thread : KillSwitchThread} (settled : thread.settled)
    (others : ∀ j, j ≠ i → (s.threads j).settled) (j : Nat) : ((s.goto i thread).threads j).settled := by
  simp only [goto, Function.update_apply]
  split
  · exact settled
  · next other => exact others j other

theorem settled_branch (i : Nat) (p : Prop) [Decidable p] {yes no : KillSwitchThread} (settledYes : p → yes.settled)
    (settledNo : no.settled) (others : ∀ j, j ≠ i → (s.threads j).settled) (j : Nat) :
    ((s.goto i (if p then yes else no)).threads j).settled := by
  split
  · next h => exact settled_goto (settledYes h) others j
  · exact settled_goto settledNo others j

/-- Under the lock every thread stays clear of what comes behind a check. -/
theorem advance_settled (locked : s.runtime.locked) (settled : ∀ j, (s.threads j).settled) (i : Nat) (input : SectionInput)
    (j : Nat) : ((s.advance verify i input).threads j).settled := by
  have here := settled i
  have others : ∀ k, k ≠ i → (s.threads k).settled := fun k _ => settled k
  unfold KillSwitchSystem.advance
  split
  · exact settled j
  · rw [if_pos locked]
    exact settled_goto rfl others j
  · next reading =>
    rw [reading] at here
    cases here
  · split
    · exact settled_goto rfl others j
    · exact settled_goto rfl others j
  · split
    · exact settled_branch i _ (fun _ => rfl) rfl others j
    · exact settled_goto rfl others j
  · rw [if_pos locked]
    exact settled_goto rfl others j
  · next writing =>
    rw [writing] at here
    cases here
  · split
    · exact settled_goto rfl others j
    · exact settled_goto rfl others j
  · rw [if_pos locked]
    exact settled_goto rfl others j
  · next reading =>
    rw [reading] at here
    cases here
  · split
    · exact settled_goto rfl others j
    · exact settled_goto rfl others j
    · exact settled_goto rfl others j
  · split
    · exact settled_goto rfl (fun k _ => settled_goto rfl others k) j
    · exact settled j
  · exact settled_branch i _ (fun _ => rfl) rfl others j
  · next writing =>
    rw [writing] at here
    cases here
  · rw [if_pos locked]
    exact settled_goto rfl others j
  · next reading =>
    rw [reading] at here
    cases here
  · exact settled_goto rfl others j
  · split
    · exact settled_goto rfl others j
    · exact settled_goto rfl others j
  · split
    · exact settled_goto rfl others j
    · exact settled_goto rfl others j
  · split
    · exact settled_goto rfl others j
    · exact settled_goto rfl others j
  · split
    · exact settled_goto rfl others j
    · exact settled_goto rfl others j
  · exact settled_goto rfl others j

theorem enters_settled (request : KillSwitchRequest) : request.enters.settled := by
  cases request with
  | arm armA armB => rfl
  | authorize pin throttled =>
    unfold KillSwitchRequest.enters
    dsimp only
    split <;> rfl
  | purge => rfl
  | status => rfl

theorem enters_succeeds (request : KillSwitchRequest) : request.enters.succeeded = false := by
  cases request with
  | arm armA armB => rfl
  | authorize pin throttled =>
    unfold KillSwitchRequest.enters
    dsimp only
    split <;> rfl
  | purge => rfl
  | status => rfl

theorem goto_succeeds {i j : Nat} {thread : KillSwitchThread} (plain : thread.succeeded = false)
    (success : ((s.goto i thread).threads j).succeeded) : (s.threads j).succeeded := by
  simp only [goto, Function.update_apply] at success
  split at success
  · rw [plain] at success
    cases success
  · exact success

theorem branch_succeeds {i j : Nat} (p : Prop) [Decidable p] {yes no : KillSwitchThread} (plainYes : yes.succeeded = false)
    (plainNo : no.succeeded = false) (success : ((s.goto i (if p then yes else no)).threads j).succeeded) :
    (s.threads j).succeeded := by
  split at success
  · exact goto_succeeds plainYes success
  · exact goto_succeeds plainNo success

/-- The worker succeeds only behind its deletion of the files. -/
theorem advance_succeeds {i j : Nat} {input : SectionInput}
    (success : ((s.advance verify i input).threads j).succeeded) :
    (s.threads j).succeeded ∨ j = i ∧ ∃ rows, s.threads i = .workerDelete rows ∧ input.failure = none := by
  unfold KillSwitchSystem.advance at success
  split at success
  · exact Or.inl success
  · exact Or.inl (branch_succeeds _ rfl rfl success)
  · next use _ =>
    have quiet := (pinLoaded_quiet verify s use).1
    apply Or.inl (goto_succeeds _ success)
    cases loaded : s.pinLoaded use with
    | workerWrite result =>
      rw [loaded] at quiet
      cases quiet
    | _ => rfl
  · split at success
    · exact Or.inl (goto_succeeds rfl success)
    · exact Or.inl (goto_succeeds rfl success)
  · split at success
    · exact Or.inl (branch_succeeds _ rfl rfl success)
    · exact Or.inl (goto_succeeds rfl success)
  · exact Or.inl (branch_succeeds _ rfl rfl success)
  · split at success
    · exact Or.inl (goto_succeeds rfl success)
    · exact Or.inl (goto_succeeds rfl success)
  · split at success
    · exact Or.inl (goto_succeeds rfl success)
    · exact Or.inl (goto_succeeds rfl success)
  · exact Or.inl (branch_succeeds _ rfl rfl success)
  · exact Or.inl (branch_succeeds _ rfl rfl success)
  · split at success
    · exact Or.inl (goto_succeeds rfl success)
    · exact Or.inl (goto_succeeds rfl success)
    · exact Or.inl (goto_succeeds rfl success)
  · split at success
    · exact Or.inl (goto_succeeds rfl (goto_succeeds rfl success))
    · exact Or.inl success
  · exact Or.inl (branch_succeeds _ rfl rfl success)
  · exact Or.inl (goto_succeeds rfl success)
  · exact Or.inl (branch_succeeds _ rfl rfl success)
  · exact Or.inl (branch_succeeds _ rfl rfl success)
  · exact Or.inl (goto_succeeds rfl success)
  · split at success
    · exact Or.inl (goto_succeeds rfl success)
    · exact Or.inl (goto_succeeds rfl success)
  · split at success
    · exact Or.inl (goto_succeeds rfl success)
    · exact Or.inl (goto_succeeds rfl success)
  · split at success
    · exact Or.inl (goto_succeeds rfl success)
    · exact Or.inl (goto_succeeds rfl success)
  · next rows deleting =>
    split at success
    · exact Or.inl (goto_succeeds rfl success)
    · next done =>
      by_cases here : j = i
      · exact Or.inr ⟨here, rows, deleting, done⟩
      · left
        simp only [goto, Function.update_apply, if_neg here] at success
        exact success
  · exact Or.inl (goto_succeeds rfl success)

/-- The lock is set by the purge request alone. -/
theorem Guarded.lock_set (h : Guarded verify s) (unlocked : s.runtime.locked = false) {i : Nat} {input : SectionInput}
    (locked : (s.advance verify i input).runtime.locked) :
    ∃ rows runtime, s.threads i = .purgeWrite rows ∧ purgeSection rows input.nowMs s.runtime = .ok (some runtime) ∧
      s.advance verify i input =
        { s with runtime, history := .workerStarted input.nowMs :: s.history }.goto i .spawnWorker := by
  have no : ∀ {r : KillSwitchRuntimeState}, r.mode = .armed ∨ r.mode = .idle → ¬ r.locked := by
    intro r mode locked
    rcases mode with mode | mode
    · simp [KillSwitchRuntimeState.locked, mode] at locked
    · simp [KillSwitchRuntimeState.locked, mode] at locked
  have kept : ∀ {p : Prop}, s.runtime.locked = true → p := by
    intro p locked
    rw [unlocked] at locked
    cases locked
  unfold KillSwitchSystem.advance at locked ⊢
  split at locked
  · exact kept locked
  · exact kept locked
  · exact kept locked
  · split at locked
    · exact kept locked
    · next wrote => exact absurd locked (no (armSection_ok wrote).2.2.2.2)
  · split at locked
    · exact kept locked
    · exact kept locked
  · exact kept locked
  · split at locked
    · exact kept locked
    · exact kept locked
  · split at locked
    · exact kept locked
    · next wrote =>
      have mode := (authorizeSection_ok wrote).2.2.2.2
      simp [KillSwitchSystem.goto, KillSwitchRuntimeState.locked, mode] at locked
  · exact kept locked
  · exact kept locked
  · next rows purging =>
    split at locked
    · exact kept locked
    · exact kept locked
    · next runtime wrote =>
      refine ⟨rows, runtime, purging, wrote, ?_⟩
      rfl
  · split at locked
    · exact kept locked
    · exact kept locked
  · exact kept locked
  · exact absurd locked (no (Or.inr rfl))
  · exact kept locked
  · exact kept locked
  · obtain ⟨_, _, ⟨mode, _⟩ | ⟨_, _, mode⟩⟩ := statusSection_cases s.runtime input.nowMs
    · apply kept
      simpa [KillSwitchSystem.goto, KillSwitchRuntimeState.locked, mode] using locked
    · exact absurd locked (no mode)
  · split at locked
    · exact kept locked
    · exact kept locked
  · split at locked
    · exact kept locked
    · exact kept locked
  · split at locked
    · exact kept locked
    · exact kept locked
  · split at locked
    · exact kept locked
    · exact kept locked
  · next writing =>
    apply kept
    have deleting := h.deleting i (by rw [writing]; rfl)
    simp [KillSwitchRuntimeState.locked, deleting]

end KillSwitchSystem

namespace PurgeSystem

variable (verify : KillSwitchSystem.Verifier) (paths : List String)

/-- The purge is sealed off: while it is active or completed nobody is behind a check, and the
worker leaves nothing when it is done. -/
structure Sealed (s : PurgeSystem) : Prop where
  guarded : KillSwitchSystem.Guarded verify s.killSwitch
  settled : s.locked → ∀ i, (s.killSwitch.threads i).settled
  refuses : s.locked → ∀ task, refused (s.tasks task)
  deleted : ∀ i, (s.killSwitch.threads i).succeeded → s.disk.Erased paths
  completed : s.killSwitch.runtime.mode = .completed → s.disk.Erased paths

variable {verify paths} {s : PurgeSystem}

/-- Nobody has done anything yet. -/
theorem sealed_start (pinRecord : Except ApiError (Option KillSwitchPinSecret)) (disk : HubDisk) :
    Sealed verify paths { killSwitch := { pinRecord }, disk } where
  guarded := KillSwitchSystem.guarded_start pinRecord
  settled locked := by cases locked
  refuses locked := by cases locked
  deleted i success := by cases success
  completed mode := by cases mode

/-- Under the lock only the worker reaches the disk. -/
theorem Sealed.disk_kept (h : Sealed verify paths s) (locked : s.locked) (move : PurgeMove) :
    (s.step verify paths move).disk = s.disk ∨
      ∃ i input, move = .killSwitch (.advance i input) ∧ (s.killSwitch.threads i).purges := by
  cases move with
  | killSwitch move =>
    cases move with
    | advance i input =>
      have settled := h.settled locked i
      cases thread : s.killSwitch.threads i with
      | workerWipe => exact Or.inr ⟨i, input, rfl, by rw [thread]; rfl⟩
      | workerDelete rows => exact Or.inr ⟨i, input, rfl, by rw [thread]; rfl⟩
      | pinRead use =>
        rw [thread] at settled
        cases settled
      | rehashWrite pin secret =>
        rw [thread] at settled
        cases settled
      | purgePreviewRead =>
        rw [thread] at settled
        cases settled
      | statusPreviewRead =>
        rw [thread] at settled
        cases settled
      | _ =>
        left
        simp only [step, diskAfter, thread]
    | receive i request => exact Or.inl rfl
    | settings pinRecord => exact Or.inl rfl
    | setup nowMs => exact Or.inl rfl
  | receive task operations =>
    left
    unfold step
    dsimp only
    split
    · rfl
    · rfl
  | access task passedOver =>
    left
    have refuses := h.refuses locked task
    unfold step access
    dsimp only
    split
    · rfl
    · rw [if_pos locked]
      rfl
    · next at' =>
      rw [at'] at refuses
      cases refuses
    · next at' =>
      rw [at'] at refuses
      cases refuses
    · rfl
    · next at' =>
      rw [at'] at refuses
      cases refuses

/-- The tasks keep being refused under the lock. -/
theorem access_refuses (locked : s.locked) (refuses : ∀ task, refused (s.tasks task)) (task : Nat) (passedOver : Bool)
    (other : Nat) : refused ((s.access task passedOver).tasks other) := by
  have here := refuses task
  have goes : ∀ {rest}, refused rest → refused ((s.goto task rest).tasks other) := by
    intro rest refusedRest
    simp only [goto, Function.update_apply]
    split
    · exact refusedRest
    · exact refuses other
  unfold access
  split
  · exact refuses other
  · next rows rest at' =>
    rw [at'] at here
    rw [if_pos locked]
    apply goes
    split
    · exact here
    · rfl
  · next at' =>
    rw [at'] at here
    cases here
  · next at' =>
    rw [at'] at here
    cases here
  · rw [if_pos locked]
    exact goes rfl
  · next at' =>
    rw [at'] at here
    cases here

theorem access_killSwitch (s : PurgeSystem) (task : Nat) (passedOver : Bool) :
    (s.access task passedOver).killSwitch = s.killSwitch := by
  unfold access
  split
  · rfl
  · split <;> rfl
  · rfl
  · rfl
  · rfl
  · rfl

theorem Sealed.orderly (h : Sealed verify paths s) (i : Nat) :
    s.killSwitch.threads i = .notEnrolledWrite → s.killSwitch.runtime.locked = false := by
  intro writing
  by_contra locked
  have settled := h.settled (by simpa [PurgeSystem.locked] using locked) i
  rw [writing] at settled
  cases settled

/-- A purging thread holds the lock. -/
theorem Sealed.locked_of_purges (h : Sealed verify paths s) {i : Nat} (purges : (s.killSwitch.threads i).purges) :
    s.locked := by
  have deleting := h.guarded.deleting i purges
  simp [PurgeSystem.locked, KillSwitchRuntimeState.locked, deleting]

theorem Sealed.advance (h : Sealed verify paths s) {i : Nat} {input : SectionInput}
    (permitted : Permitted s (.killSwitch (.advance i input))) :
    Sealed verify paths (s.step verify paths (.killSwitch (.advance i input))) where
  guarded := h.guarded.advance i input (h.orderly i)
  settled locked j := by
    cases before : s.locked with
    | true => exact KillSwitchSystem.advance_settled before (h.settled before) i input j
    | false =>
      obtain ⟨rows, runtime, purging, wrote, after⟩ := h.guarded.lock_set before locked
      have quiet := (permitted rows runtime purging wrote).1
      show ((s.killSwitch.advance verify i input).threads j).settled
      rw [after]
      exact KillSwitchSystem.settled_goto rfl quiet j
  refuses locked := by
    cases before : s.locked with
    | true => exact h.refuses before
    | false =>
      obtain ⟨rows, runtime, purging, wrote, -⟩ := h.guarded.lock_set before locked
      exact (permitted rows runtime purging wrote).2
  deleted j success := by
    rcases KillSwitchSystem.advance_succeeds success with already | ⟨rfl, rows, deleting, done⟩
    · have purges := KillSwitchThread.purges_of_succeeded already
      rcases h.disk_kept (h.locked_of_purges purges) (.killSwitch (.advance i input)) with same | ⟨k, input', move, also⟩
      · rw [same]
        exact h.deleted j already
      · cases move
        obtain rfl := h.guarded.single j i purges also
        have same : s.diskAfter paths (.advance j input) = s.disk := by
          cases thread : s.killSwitch.threads j with
          | workerWrite result => simp only [diskAfter, thread]
          | _ =>
            rw [thread] at already
            cases already
        show (s.diskAfter paths (.advance j input)).Erased paths
        rw [same]
        exact h.deleted j already
    · have after : s.diskAfter paths (.advance j input) = s.disk.deleted paths := by
        simp only [diskAfter, deleting, done]
        rfl
      show (s.diskAfter paths (.advance j input)).Erased paths
      rw [after]
      exact ⟨rfl, fun path mem => if_pos mem⟩
  completed mode := by
    cases before : s.locked with
    | true =>
      rcases h.guarded.locked_mode before i input (h.orderly i) with same | ⟨result, writing⟩
      · have completed : s.killSwitch.runtime.mode = .completed := same.symm.trans mode
        rcases h.disk_kept before (.killSwitch (.advance i input)) with kept | ⟨k, input', -, purges⟩
        · rw [kept]
          exact h.completed completed
        · have deleting := h.guarded.deleting k purges
          rw [completed] at deleting
          cases deleting
      · have kept : s.diskAfter paths (.advance i input) = s.disk := by simp only [diskAfter, writing]
        have runtime : (s.killSwitch.advance verify i input).runtime = workerSection result input.nowMs s.killSwitch.runtime := by
          simp only [KillSwitchSystem.advance, writing]
          rfl
        show (s.diskAfter paths (.advance i input)).Erased paths
        rw [kept]
        have mode : (s.killSwitch.advance verify i input).runtime.mode = .completed := mode
        rw [runtime] at mode
        cases result with
        | ok report => exact h.deleted i (by rw [writing]; rfl)
        | error error => cases mode
    | false =>
      have mode : (s.killSwitch.advance verify i input).runtime.mode = .completed := mode
      obtain ⟨rows, runtime, purging, wrote, after⟩ := h.guarded.lock_set before
        (show (s.killSwitch.advance verify i input).runtime.locked by simp [KillSwitchRuntimeState.locked, mode])
      rw [after] at mode
      have deleting := (purgeSection_ok wrote).2.2.2.2.2.2
      exact absurd (deleting.symm.trans mode) (by decide)

theorem Sealed.receive (h : Sealed verify paths s) {task : Nat} {operations : List HubOperation}
    (permitted : Permitted s (.receive task operations)) :
    Sealed verify paths (s.step verify paths (.receive task operations)) := by
  unfold PurgeSystem.step
  dsimp only
  split
  · refine ⟨h.guarded, h.settled, ?_, h.deleted, h.completed⟩
    intro locked other
    show refused (Function.update s.tasks task _ other)
    rw [Function.update_apply]
    split
    · exact refused_flatMap (permitted locked)
    · exact h.refuses locked other
  · exact h

theorem Sealed.access (h : Sealed verify paths s) (task : Nat) (passedOver : Bool) :
    Sealed verify paths (s.step verify paths (.access task passedOver)) := by
  show Sealed verify paths (s.access task passedOver)
  have killSwitch := access_killSwitch s task passedOver
  have lock : (s.access task passedOver).locked = s.locked := by
    rw [PurgeSystem.locked, killSwitch, PurgeSystem.locked]
  have kept : s.locked → (s.access task passedOver).disk = s.disk := by
    intro locked
    rcases h.disk_kept locked (.access task passedOver) with same | ⟨_, _, move, _⟩
    · exact same
    · cases move
  constructor
  case guarded =>
    rw [killSwitch]
    exact h.guarded
  case settled =>
    rw [lock, killSwitch]
    exact h.settled
  case refuses =>
    rw [lock]
    intro locked other
    exact access_refuses locked (h.refuses locked) task passedOver other
  case deleted =>
    rw [killSwitch]
    intro i success
    rw [kept (h.locked_of_purges (KillSwitchThread.purges_of_succeeded success))]
    exact h.deleted i success
  case completed =>
    rw [killSwitch]
    intro mode
    rw [kept (by simp [PurgeSystem.locked, KillSwitchRuntimeState.locked, mode])]
    exact h.completed mode

theorem Sealed.enter (h : Sealed verify paths s) (i : Nat) (request : KillSwitchRequest) :
    Sealed verify paths (s.step verify paths (.killSwitch (.receive i request))) := by
  have entered : s.killSwitch.step verify (.receive i request) = s.killSwitch.goto i request.enters ∨
      s.killSwitch.step verify (.receive i request) = s.killSwitch := by
    unfold KillSwitchSystem.step
    dsimp only
    split
    · exact Or.inl rfl
    · exact Or.inr rfl
  have guarded : KillSwitchSystem.Guarded verify (s.killSwitch.step verify (.receive i request)) :=
    h.guarded.step trivial
  unfold PurgeSystem.step
  dsimp only
  rcases entered with entered | entered
  · rw [entered] at guarded ⊢
    refine ⟨guarded, ?_, h.refuses, ?_, h.completed⟩
    · intro locked
      exact KillSwitchSystem.settled_goto (KillSwitchSystem.enters_settled request) fun j _ => h.settled locked j
    · intro j success
      apply h.deleted j
      exact KillSwitchSystem.goto_succeeds (KillSwitchSystem.enters_succeeds request) success
  · rw [entered]
    exact ⟨h.guarded, h.settled, h.refuses, h.deleted, h.completed⟩

theorem Sealed.step (h : Sealed verify paths s) {move : PurgeMove} (permitted : Permitted s move) :
    Sealed verify paths (s.step verify paths move) := by
  cases move with
  | killSwitch move =>
    cases move with
    | receive i request => exact h.enter i request
    | advance i input => exact h.advance permitted
    | settings pinRecord => exact ⟨h.guarded.settings pinRecord, h.settled, h.refuses, h.deleted, h.completed⟩
    | setup nowMs => exact ⟨h.guarded.quiet rfl rfl rfl rfl, h.settled, h.refuses, h.deleted, h.completed⟩
  | receive task operations => exact h.receive permitted
  | access task passedOver => exact h.access task passedOver

theorem Sealed.run (h : Sealed verify paths s) {s' : PurgeSystem} (run : PermittedRun verify paths s s') :
    Sealed verify paths s' := by
  induction run with
  | refl => exact h
  | step _ permitted ih => exact ih.step permitted

/-- Once it has completed, nothing changes the mode or the disk. -/
theorem Sealed.step_completed (h : Sealed verify paths s) (completed : s.killSwitch.runtime.mode = .completed)
    (move : PurgeMove) :
    (s.step verify paths move).killSwitch.runtime.mode = .completed ∧ (s.step verify paths move).disk = s.disk := by
  have locked : s.locked := by simp [PurgeSystem.locked, KillSwitchRuntimeState.locked, completed]
  have idle (i : Nat) : (s.killSwitch.threads i).purges = false :=
    h.guarded.none_purges (by rw [completed]; decide) i
  constructor
  · cases move with
    | killSwitch move =>
      have orderly : KillSwitchSystem.Orderly s.killSwitch move := by
        cases move with
        | advance i input => exact h.orderly i
        | _ => trivial
      rcases h.guarded.step_locked locked orderly with same | ⟨i, _, _, _, writing, _⟩
      · exact same.trans completed
      · have purging := idle i
        rw [writing] at purging
        cases purging
    | receive task operations =>
      unfold PurgeSystem.step
      dsimp only
      split
      · exact completed
      · exact completed
    | access task passedOver =>
      show (s.access task passedOver).killSwitch.runtime.mode = _
      rw [access_killSwitch]
      exact completed
  · rcases h.disk_kept locked move with same | ⟨i, _, _, purges⟩
    · exact same
    · rw [idle i] at purges
      cases purges

theorem Sealed.run_completed (h : Sealed verify paths s) (completed : s.killSwitch.runtime.mode = .completed)
    {s' : PurgeSystem} (run : PermittedRun verify paths s s') :
    s'.killSwitch.runtime.mode = .completed ∧ s'.disk = s.disk := by
  induction run with
  | refl => exact ⟨completed, rfl⟩
  | @step s' move before _ ih =>
    obtain ⟨mode, disk⟩ := (h.run before).step_completed ih.1 move
    exact ⟨mode, disk.trans ih.2⟩

/-- What the purging thread does to the disk: nothing, the wipe of the tables, or the deletion. -/
theorem diskAfter_purging {i : Nat} {input : SectionInput} (purges : (s.killSwitch.threads i).purges) :
    s.diskAfter paths (.advance i input) = s.disk ∨ s.diskAfter paths (.advance i input) = s.disk.write wipeDatabase ∨
      s.diskAfter paths (.advance i input) = s.disk.deleted paths := by
  cases thread : s.killSwitch.threads i with
  | workerWipe =>
    simp only [diskAfter, thread]
    split
    · exact Or.inl rfl
    · exact Or.inr (Or.inl rfl)
  | workerDelete rows =>
    simp only [diskAfter, thread]
    split
    · exact Or.inl rfl
    · exact Or.inr (Or.inr rfl)
  | pinRead use =>
    rw [thread] at purges
    cases purges
  | rehashWrite pin secret =>
    rw [thread] at purges
    cases purges
  | purgePreviewRead =>
    rw [thread] at purges
    cases purges
  | statusPreviewRead =>
    rw [thread] at purges
    cases purges
  | _ =>
    left
    simp only [diskAfter, thread]

/-- Where every purge finds the server quiet and what comes in later asks before it reaches
the disk, a purge that is active or completed leaves the disk to its worker, which only wipes
and deletes; a completed one leaves no database and no configuration file, for good. -/
theorem purge_complete (pinRecord : Except ApiError (Option KillSwitchPinSecret)) (disk : HubDisk)
    (run : PermittedRun verify paths { killSwitch := { pinRecord }, disk } s) :
    (s.locked → ∀ move,
      (s.step verify paths move).disk = s.disk ∨
        ∃ i input, move = .killSwitch (.advance i input) ∧ (s.killSwitch.threads i).purges ∧
          ((s.step verify paths move).disk = s.disk.write wipeDatabase ∨
            (s.step verify paths move).disk = s.disk.deleted paths)) ∧
    (s.killSwitch.runtime.mode = .completed →
      s.disk.Erased paths ∧
        ∀ s', PermittedRun verify paths s s' → s'.killSwitch.runtime.mode = .completed ∧ s'.disk = s.disk) := by
  have sealedOff : Sealed verify paths s := (sealed_start pinRecord disk).run run
  constructor
  · intro locked move
    rcases sealedOff.disk_kept locked move with same | ⟨i, input, rfl, purges⟩
    · exact Or.inl same
    · rcases diskAfter_purging purges with same | writes
      · exact Or.inl same
      · exact Or.inr ⟨i, input, rfl, purges, writes⟩
  · intro completed
    refine ⟨sealedOff.completed completed, ?_⟩
    intro s' onwards
    exact sealedOff.run_completed completed onwards

/-- The moves one after another. -/
def runMoves (verify : KillSwitchSystem.Verifier) (paths : List String) (moves : List PurgeMove) (s : PurgeSystem) :
    PurgeSystem :=
  moves.foldl (fun s move => s.step verify paths move) s

/-- Neither a purge request at its last section nor an operation that comes in under the lock. -/
def plain (s : PurgeSystem) : PurgeMove → Bool
  | .killSwitch (.advance i _) =>
    match s.killSwitch.threads i with
    | .purgeWrite _ => false
    | _ => true
  | .receive _ operations => !s.locked || operations.all HubOperation.asks
  | _ => true

theorem permitted_of_plain {move : PurgeMove} (h : s.plain move) : Permitted s move := by
  cases move with
  | killSwitch move =>
    cases move with
    | advance i input =>
      intro rows runtime purging _
      rw [plain, purging] at h
      cases h
    | _ => trivial
  | receive task operations =>
    intro locked
    rw [plain, locked] at h
    simpa using h
  | access task passedOver => trivial

theorem permittedRun_runMoves {moves : List PurgeMove} :
    ∀ {s s' : PurgeSystem}, PermittedRun verify paths s s' →
      (∀ i, (h : i < moves.length) → (runMoves verify paths (moves.take i) s').plain moves[i]) →
      PermittedRun verify paths s (runMoves verify paths moves s') := by
  induction moves with
  | nil =>
    intro s s' run _
    exact run
  | cons move moves ih =>
    intro s s' run plain
    apply ih (run.step (permitted_of_plain (plain 0 (by simp))))
    intro i h
    exact plain (i + 1) (by simpa using h)

/-- Plain moves before and after one that is permitted where it is made. -/
theorem permittedRun_around {before after : List PurgeMove} {move : PurgeMove}
    (plainBefore : ∀ i, (h : i < before.length) → (runMoves verify paths (before.take i) s).plain before[i])
    (permitted : Permitted (runMoves verify paths before s) move)
    (plainAfter : ∀ i, (h : i < after.length) →
      (runMoves verify paths (after.take i) ((runMoves verify paths before s).step verify paths move)).plain after[i]) :
    PermittedRun verify paths s (runMoves verify paths after ((runMoves verify paths before s).step verify paths move)) :=
  permittedRun_runMoves ((permittedRun_runMoves (.refl s) plainBefore).step permitted) plainAfter

/-- The database and the configuration of the runs below. -/
def smallDisk : HubDisk :=
  { database := some [⟨"rch_topics", "ops", "t"⟩], files := fun path => if path = "config" then some "[hub]" else none }

def enrolledStart : PurgeSystem := { killSwitch := { pinRecord := .ok (some KillSwitchSystem.sixOnes) }, disk := smallDisk }

/-- A purge request before its last section. -/
def purgeRequested : List PurgeMove := (KillSwitchSystem.armAndPurge.take 14).map .killSwitch

def addsTopic (rows : Database) : Database := rows ++ [⟨"rch_topics", "late", "t"⟩]

/-- A topic that has asked and is still to be stored. -/
def topicAsked : List PurgeMove := [.receive 1 [.coreStoreWrite addsTopic], .access 1 false]

/-- The purge is started, its worker runs to its end, and a topic comes in that is refused. -/
def purgeCarriedOut : List PurgeMove :=
  ([KillSwitchSystem.turn 3 30] ++ List.replicate 5 (KillSwitchSystem.turn 9 40)).map .killSwitch ++
    topicAsked

theorem purgeRequested_quiet :
    (runMoves KillSwitchSystem.plainVerifier ["config"] purgeRequested enrolledStart).Quiet 3 := by
  constructor
  · intro i _
    by_cases small : i < 10
    · have settled : ∀ i < 10, ((runMoves KillSwitchSystem.plainVerifier ["config"] purgeRequested
          enrolledStart).killSwitch.threads i).settled := by decide +kernel
      exact settled i small
    · obtain ⟨i, rfl⟩ := Nat.exists_eq_add_of_le' (Nat.le_of_not_lt small)
      rfl
  · intro task
    rfl

/-- A topic that is stored too late is refused. -/
theorem purge_complete_refused :
    let started := (runMoves KillSwitchSystem.plainVerifier ["config"] purgeRequested enrolledStart).step
      KillSwitchSystem.plainVerifier ["config"] (.killSwitch (KillSwitchSystem.turn 3 30))
    let s := runMoves KillSwitchSystem.plainVerifier ["config"] purgeCarriedOut started
    s.killSwitch.runtime.mode = .completed ∧ s.disk.Erased ["config"] := by
  intro started s
  have run : PermittedRun KillSwitchSystem.plainVerifier ["config"] enrolledStart s :=
    permittedRun_around (by decide +kernel) (fun _ _ _ _ => purgeRequested_quiet) (by decide +kernel)
  have completed : s.killSwitch.runtime.mode = .completed := by decide +kernel
  exact ⟨completed, ((purge_complete (.ok (some KillSwitchSystem.sixOnes)) smallDisk run).2 completed).1⟩

/-- The disk of a purge by the thread 9, after the moves before it and so many turns of the worker. -/
def purgedAfter (before : List PurgeMove) (turns : Nat) : PurgeSystem :=
  runMoves KillSwitchSystem.plainVerifier ["config"]
    (before ++ purgeRequested ++ List.replicate 2 (.killSwitch (KillSwitchSystem.turn 3 30)) ++
      List.replicate turns (.killSwitch (KillSwitchSystem.turn 9 40)))
    enrolledStart

/-- An operation comes in and makes its first access. -/
def afterwards (operations : List HubOperation) (s : PurgeSystem) : PurgeSystem :=
  runMoves KillSwitchSystem.plainVerifier ["config"] [.receive 1 operations, .access 1 false] s

/-- The cursor of a batch makes the erased database anew, a topic that asked before the purge
is stored after it, a command of the mesh adds a row while the worker is at work, and a
configuration is written back after the purge. -/
theorem purged_disk_written :
    (purgedAfter [] 5).killSwitch.runtime.mode = .completed ∧ (purgedAfter [] 5).disk.database = none ∧
    (afterwards (eventBatch [] [] (some "17")) (purgedAfter [] 5)).disk.database =
      some (migratedRows ++ [⟨"rch_settings", "reticulumd_event_cursor", "17"⟩]) ∧
    (purgedAfter topicAsked 5).killSwitch.runtime.mode = .completed ∧ (purgedAfter topicAsked 5).disk.database = none ∧
    ((purgedAfter topicAsked 5).access 1 false).disk.database = some (addsTopic migratedRows) ∧
    (purgedAfter [] 2).killSwitch.runtime.mode = .deleting ∧ (purgedAfter [] 2).disk.database = some [] ∧
    (afterwards [.processInboundMissionSyncCommand addsTopic] (purgedAfter [] 2)).disk.database =
      some [⟨"rch_topics", "late", "t"⟩] ∧
    (purgedAfter [] 5).disk.files "config" = none ∧
    (afterwards [.rollbackConfigFile "config" "[hub]"] (purgedAfter [] 5)).disk.files "config" = some "[hub]" := by
  decide +kernel

end PurgeSystem

end TelemetryHub
