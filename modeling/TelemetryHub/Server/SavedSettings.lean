import TelemetryHub.Server.Setup

/-!
# The settings beside a snapshot

A snapshot is saved over what was saved before: every table is cleared, the settings with
them. Put back are the settings of one prefix, and the two that a snapshot has.
-/

namespace TelemetryHub

open Lib

/-! ## The rows of a store -/

/-- `LIKE`: ASCII letters of either case, `%` for any text and `_` for any character. -/
def like : List Char → List Char → Bool
  | [], text => text.isEmpty
  | '%' :: pattern, text => text.tails.any (like pattern)
  | _ :: _, [] => false
  | p :: pattern, c :: text => (p == '_' || asciiLower p == asciiLower c) && like pattern text

/-- `LIKE` over texts as SQLite keeps them: one ends at its first NUL. -/
def likeText (pattern text : String) : Bool := like pattern.toList (text.toList.takeWhile (· != '\x00'))

/-- The tables that `clear_snapshot_tables` clears. -/
def snapshotTables : List String :=
  ["rch_topics", "rch_subscribers", "rch_messages", "rch_clients", "rch_identity_announces", "rch_identity_states",
    "rch_identity_rem_modes", "rch_audit_events", "rch_system_events", "rch_telemetry_records", "rch_markers",
    "rch_zones", "rch_missions", "rch_mission_changes", "rch_log_entries", "rch_file_attachments", "rch_eam_snapshots",
    "rch_teams", "rch_mission_team_links", "rch_mission_zone_links", "rch_mission_marker_links", "rch_team_members",
    "rch_team_member_client_links", "rch_assets", "rch_skills", "rch_team_member_skills",
    "rch_task_skill_requirements", "rch_assignments", "rch_assignment_asset_links", "rch_checklists",
    "rch_checklist_templates", "rch_checklist_columns", "rch_checklist_tasks", "rch_checklist_cells",
    "rch_checklist_feed_publications", "rch_command_results", "rch_identity_capabilities",
    "rch_mission_access_assignments", "rch_subject_operation_rights", "rch_settings"]

/-- A row that a save inserts: its key, unless the table counts its rows up, and what it holds
or the error one of its values is refused with. -/
structure SnapshotRow (K V : Type) where
  table : String
  ofSnapshot : table ∈ snapshotTables ∧ table ≠ "rch_settings"
  keyColumns : String
  key : Option K
  payload : Except RchCoreError V

/-- `RchCoreSnapshot`, by the rows that it is saved as, in their order. -/
structure SnapshotRows (K V : Type) where
  rows : List (SnapshotRow K V)
  authorizationRequired : Bool

/-- The tables of a `RchSqliteStore`; a setting is a row of `rch_settings`. -/
structure SnapshotStore (K V : Type) where
  tables : Dict String (List (Option K × V))
  settings : Dict String String

variable {K V : Type}

/-- The rows of a table. -/
def SnapshotStore.rowsOf (store : SnapshotStore K V) (table : String) : List (Option K × V) :=
  (store.tables.get table).getD []

theorem rowsOf_insert (store : SnapshotStore K V) (table table' : String) (rows : List (Option K × V)) :
    ({ store with tables := store.tables.insert table rows } : SnapshotStore K V).rowsOf table'
      = if table' = table then rows else store.rowsOf table' := by
  unfold SnapshotStore.rowsOf
  rw [Dict.get_insert]
  split <;> rfl

/-- `settings_with_prefix`. -/
def SnapshotStore.settingsWithPrefix (store : SnapshotStore K V) (start : String) : List (String × String) :=
  store.settings.toPairs.filter fun entry => likeText (start ++ "%") entry.1

/-- `DELETE FROM`. -/
def SnapshotStore.deleteFrom (store : SnapshotStore K V) (table : String) : SnapshotStore K V :=
  if table = "rch_settings" then { store with settings := ∅ }
  else { store with tables := store.tables.insert table [] }

/-- `clear_snapshot_tables`. -/
def clearSnapshotTables (store : SnapshotStore K V) (preserveIdentityAnnounces : Bool) : SnapshotStore K V :=
  snapshotTables.foldl (fun store table =>
    if preserveIdentityAnnounces && table == "rch_identity_announces" then store else store.deleteFrom table) store

section Saves

variable [DecidableEq K]

/-- `INSERT INTO` a table of the snapshot. -/
def SnapshotStore.insertRow (store : SnapshotStore K V) (row : SnapshotRow K V) : Except RchCoreError (SnapshotStore K V) := do
  let payload ← row.payload
  if row.key.isSome && (store.rowsOf row.table).any (·.1 == row.key) then
    throw (.sqlite ("UNIQUE constraint failed: " ++ row.keyColumns))
  return { store with tables := store.tables.insert row.table (store.rowsOf row.table ++ [(row.key, payload)]) }

/-- `INSERT INTO rch_settings`. -/
def SnapshotStore.insertSetting (store : SnapshotStore K V) (key value : String) : Except RchCoreError (SnapshotStore K V) :=
  if store.settings.contains key then .error (.sqlite "UNIQUE constraint failed: rch_settings.setting_key")
  else .ok { store with settings := store.settings.insert key value }

/-- The rows that a save inserts. -/
def SnapshotRows.inserted (snapshot : SnapshotRows K V) (preserveIdentityAnnounces : Bool) : List (SnapshotRow K V) :=
  snapshot.rows.filter fun row => !(preserveIdentityAnnounces && row.table == "rch_identity_announces")

/-- `save_snapshot_with_options`: what the transaction commits. -/
def SnapshotStore.saveSnapshotWithOptions (store : SnapshotStore K V) (snapshot : SnapshotRows K V)
    (preserveIdentityAnnounces : Bool) : Except RchCoreError (SnapshotStore K V) := do
  let preservedSettings := store.settingsWithPrefix "reticulumd_"
  let store ← (snapshot.inserted preserveIdentityAnnounces).foldlM SnapshotStore.insertRow
    (clearSnapshotTables store preserveIdentityAnnounces)
  let store ← store.insertSetting "schema_version" "3"
  let store ← store.insertSetting "authorization_required" (if snapshot.authorizationRequired then "true" else "false")
  return { store with settings := preservedSettings.foldl (fun settings entry => settings.insert entry.1 entry.2) store.settings }

/-- `save_snapshot`, and `save_snapshot_preserving_identity_announces`. -/
structure SnapshotSave (K V : Type) where
  snapshot : SnapshotRows K V
  preserveIdentityAnnounces : Bool

/-- The store behind a save; one that fails is rolled back. -/
def SnapshotStore.after (store : SnapshotStore K V) (save : SnapshotSave K V) : SnapshotStore K V :=
  (store.saveSnapshotWithOptions save.snapshot save.preserveIdentityAnnounces).toOption.getD store

/-- The settings that a snapshot has. -/
def writtenSettings : List String := ["schema_version", "authorization_required"]

/-- The saves leave the other settings as they were. -/
def SnapshotStore.KeepsSettings (store : SnapshotStore K V) (saves : List (SnapshotSave K V)) : Prop :=
  ∀ key, key ∉ writtenSettings → (saves.foldl SnapshotStore.after store).settings.get key = store.settings.get key

end Saves

/-- The table and the key that a row takes, if it has a key. -/
def SnapshotRow.slot (row : SnapshotRow K V) : Option (String × K) := row.key.map (row.table, ·)

/-- A key of a table is taken. -/
def SnapshotStore.Taken (store : SnapshotStore K V) (slot : String × K) : Prop :=
  ∃ row ∈ store.rowsOf slot.1, row.1 = some slot.2

/-- Every row can be written, and no two of a table have one key. -/
structure SnapshotSave.Sound (save : SnapshotSave K V) : Prop where
  encoded : ∀ row ∈ save.snapshot.inserted save.preserveIdentityAnnounces, ∃ payload, row.payload = .ok payload
  distinct : ((save.snapshot.inserted save.preserveIdentityAnnounces).filterMap SnapshotRow.slot).Nodup

/-! ## Clearing the tables -/

theorem deleteFrom_rowsOf {store : SnapshotStore K V} {table table' : String} (h : store.rowsOf table' = [] ∨ table = table')
    (other : table' ≠ "rch_settings") : (store.deleteFrom table).rowsOf table' = [] := by
  unfold SnapshotStore.deleteFrom
  split
  · cases h with
    | inl empty => exact empty
    | inr same => exact absurd (same ▸ ‹table = "rch_settings"›) other
  · rw [rowsOf_insert]
    split
    · rfl
    · cases h with
      | inl empty => exact empty
      | inr same => exact absurd same.symm ‹_›

/-- What is not passed over is empty behind the deletes. -/
theorem deletes_rowsOf (passed : String → Bool) (tables : List String) {table : String} (kept : passed table = false)
    (other : table ≠ "rch_settings") (store : SnapshotStore K V) (h : store.rowsOf table = [] ∨ table ∈ tables) :
    (tables.foldl (fun store table => if passed table then store else store.deleteFrom table) store).rowsOf table = [] := by
  induction tables generalizing store with
  | nil => simpa using h
  | cons table' tables ih =>
    rw [List.foldl_cons]
    apply ih
    by_cases same : table' = table
    · subst same
      rw [kept]
      exact .inl (deleteFrom_rowsOf (.inr rfl) other)
    · cases h with
      | inl empty =>
        left
        split
        · exact empty
        · exact deleteFrom_rowsOf (.inl empty) other
      | inr mem => exact .inr ((List.mem_cons.1 mem).resolve_left (Ne.symm same))

theorem deletes_settings (passed : String → Bool) (tables : List String) (kept : passed "rch_settings" = false)
    (store : SnapshotStore K V) (h : store.settings = ∅ ∨ "rch_settings" ∈ tables) :
    (tables.foldl (fun store table => if passed table then store else store.deleteFrom table) store).settings = ∅ := by
  induction tables generalizing store with
  | nil => simpa using h
  | cons table tables ih =>
    rw [List.foldl_cons]
    apply ih
    by_cases same : table = "rch_settings"
    · subst same
      rw [kept]
      exact .inl rfl
    · cases h with
      | inl empty =>
        left
        split
        · exact empty
        · rw [SnapshotStore.deleteFrom, if_neg same]
          exact empty
      | inr mem => exact .inr ((List.mem_cons.1 mem).resolve_left (Ne.symm same))

theorem clearSnapshotTables_settings (store : SnapshotStore K V) (preserve : Bool) :
    (clearSnapshotTables store preserve).settings = ∅ :=
  deletes_settings _ _ (by simp) store (.inr (by simp [snapshotTables]))

/-- No row that a save inserts finds its key taken by what was there before. -/
theorem clearSnapshotTables_free {store : SnapshotStore K V} {snapshot : SnapshotRows K V} {preserve : Bool}
    {slot : String × K} (mem : slot ∈ (snapshot.inserted preserve).filterMap SnapshotRow.slot) :
    ¬(clearSnapshotTables store preserve).Taken slot := by
  obtain ⟨row, inserted, takes⟩ := List.mem_filterMap.1 mem
  obtain ⟨key, -, rfl⟩ := Option.map_eq_some_iff.1 takes
  have kept : (preserve && row.table == "rch_identity_announces") = false := by
    simpa only [Bool.not_eq_true'] using (List.mem_filter.1 inserted).2
  have empty : (clearSnapshotTables store preserve).rowsOf row.table = [] :=
    deletes_rowsOf _ _ kept row.ofSnapshot.2 store (.inr row.ofSnapshot.1)
  rintro ⟨before, taken, -⟩
  simp [empty] at taken

/-! ## The settings put back -/

/-- The settings that a save puts back. -/
def putBack (key : String) : Bool := likeText ("reticulumd_" ++ "%") key

theorem mem_settingsWithPrefix {store : SnapshotStore K V} {start key value : String} :
    (key, value) ∈ store.settingsWithPrefix start
      ↔ store.settings.get key = some value ∧ likeText (start ++ "%") key = true := by
  simp [SnapshotStore.settingsWithPrefix, Dict.mem_toPairs]

theorem insertSetting_get {store store' : SnapshotStore K V} {key value key' : String}
    (h : store.insertSetting key value = .ok store') :
    store'.settings.get key' = if key' = key then some value else store.settings.get key' := by
  unfold SnapshotStore.insertSetting at h
  split at h
  · cases h
  · cases h
    exact Dict.get_insert _ _ _ _

theorem lookup_of_mem {entries : List (String × String)} (distinct : (entries.map Prod.fst).Nodup) {key value : String}
    (mem : (key, value) ∈ entries) : entries.lookup key = some value := by
  induction entries with
  | nil => cases mem
  | cons entry entries ih =>
    obtain ⟨key', value'⟩ := entry
    obtain ⟨fresh, distinct⟩ := List.nodup_cons.1 distinct
    rw [List.lookup_cons]
    cases List.mem_cons.1 mem with
    | inl same =>
      cases same
      simp
    | inr mem =>
      have other : key ≠ key' := fun same => fresh (List.mem_map.2 ⟨_, mem, same⟩)
      rw [beq_false_of_ne other]
      exact ih distinct mem

/-- Entries written one after another: a key has the value of its entry, where it has one. -/
theorem get_foldl_insert (entries : List (String × String)) (distinct : (entries.map Prod.fst).Nodup)
    (settings : Dict String String) (key : String) :
    (entries.foldl (fun settings entry => settings.insert entry.1 entry.2) settings).get key
      = (entries.lookup key).or (settings.get key) := by
  induction entries generalizing settings with
  | nil => simp
  | cons entry entries ih =>
    obtain ⟨key', value⟩ := entry
    obtain ⟨fresh, distinct⟩ := List.nodup_cons.1 distinct
    rw [List.foldl_cons, ih distinct, List.lookup_cons, Dict.get_insert]
    by_cases same : key = key'
    · subst same
      have absent : entries.lookup key = none := by
        rw [List.lookup_eq_none_iff]
        intro entry mem
        rw [bne_iff_ne]
        exact fun same => fresh (List.mem_map.2 ⟨entry, mem, same.symm⟩)
      simp [absent]
    · rw [if_neg same, beq_false_of_ne same]

theorem get_putBack (store : SnapshotStore K V) (settings : Dict String String) (key : String) :
    ((store.settingsWithPrefix "reticulumd_").foldl (fun settings entry => settings.insert entry.1 entry.2) settings).get key
      = if putBack key then (store.settings.get key).or (settings.get key) else settings.get key := by
  have distinct : ((store.settingsWithPrefix "reticulumd_").map Prod.fst).Nodup :=
    (Dict.nodup_toPairs store.settings).sublist (List.filter_sublist.map _)
  rw [get_foldl_insert _ distinct]
  have absent (h : ∀ value, (key, value) ∉ store.settingsWithPrefix "reticulumd_") :
      (store.settingsWithPrefix "reticulumd_").lookup key = none := by
    rw [List.lookup_eq_none_iff]
    rintro ⟨key', value⟩ mem
    rw [bne_iff_ne]
    rintro rfl
    exact h value mem
  by_cases back : putBack key = true
  · rw [if_pos back]
    cases stored : store.settings.get key with
    | none =>
      rw [absent fun value mem => ?_]
      rw [mem_settingsWithPrefix, stored] at mem
      cases mem.1
    | some value =>
      have mem := mem_settingsWithPrefix.2 ⟨stored, back⟩
      rw [lookup_of_mem distinct mem, Option.some_or]
  · rw [if_neg back, absent fun value mem => back (mem_settingsWithPrefix.1 mem).2]
    rfl

/-! ## Inserting the rows -/

variable [DecidableEq K]

/-- Nothing in the way of a row: it can be written, and its key is free. -/
def SnapshotStore.Fits (store : SnapshotStore K V) (row : SnapshotRow K V) : Prop :=
  (∃ payload, row.payload = .ok payload) ∧ ∀ slot, row.slot = some slot → ¬store.Taken slot

theorem insertRow_taken {store : SnapshotStore K V} {row : SnapshotRow K V} :
    (row.key.isSome && (store.rowsOf row.table).any (·.1 == row.key)) = true
      ↔ ∃ slot, row.slot = some slot ∧ store.Taken slot := by
  obtain ⟨table, ofSnapshot, keyColumns, key, payload⟩ := row
  cases key with
  | none => simp [SnapshotRow.slot]
  | some key => simp [SnapshotRow.slot, SnapshotStore.Taken]

theorem insertRow_fits {store : SnapshotStore K V} {row : SnapshotRow K V} {payload : V}
    (encoded : row.payload = .ok payload) (free : ∀ slot, row.slot = some slot → ¬store.Taken slot) :
    store.insertRow row
      = .ok { store with tables := store.tables.insert row.table (store.rowsOf row.table ++ [(row.key, payload)]) } := by
  have untaken : ¬(row.key.isSome && (store.rowsOf row.table).any (·.1 == row.key)) = true := by
    rw [insertRow_taken]
    rintro ⟨slot, takes, taken⟩
    exact free slot takes taken
  simp only [SnapshotStore.insertRow, encoded, bind, Except.bind, if_neg untaken]
  rfl

theorem insertRow_ok {store store' : SnapshotStore K V} {row : SnapshotRow K V} (h : store.insertRow row = .ok store') :
    store.Fits row ∧ store'.settings = store.settings
      ∧ ∀ slot, store'.Taken slot ↔ store.Taken slot ∨ row.slot = some slot := by
  have fits : store.Fits row := by
    unfold SnapshotStore.insertRow at h
    constructor
    · cases encoded : row.payload with
      | error e => simp [encoded, bind, Except.bind] at h
      | ok payload => exact ⟨payload, rfl⟩
    · intro slot takes taken
      have inUse := insertRow_taken.2 ⟨slot, takes, taken⟩
      cases encoded : row.payload with
      | error e => simp [encoded, bind, Except.bind] at h
      | ok payload => simp [encoded, bind, Except.bind, inUse, throw, throwThe, MonadExceptOf.throw] at h
  obtain ⟨⟨payload, encoded⟩, free⟩ := fits
  rw [insertRow_fits encoded free] at h
  cases h
  refine ⟨⟨⟨payload, encoded⟩, free⟩, rfl, fun slot => ?_⟩
  obtain ⟨table, key⟩ := slot
  simp only [SnapshotStore.Taken, rowsOf_insert, SnapshotRow.slot]
  by_cases same : table = row.table
  · subst same
    cases row.key with
    | none => simp
    | some key' => simp [eq_comm]
  · cases row.key with
    | none => simp [same]
    | some key' => simp [same, Ne.symm same]

/-- The rows are all inserted exactly where each can be written and no key is taken, by the
store or by a row before. -/
theorem insertRows_iff (rows : List (SnapshotRow K V)) (store : SnapshotStore K V) :
    (∃ store', rows.foldlM SnapshotStore.insertRow store = .ok store')
      ↔ (∀ row ∈ rows, ∃ payload, row.payload = .ok payload) ∧ (rows.filterMap SnapshotRow.slot).Nodup
        ∧ ∀ slot ∈ rows.filterMap SnapshotRow.slot, ¬store.Taken slot := by
  induction rows generalizing store with
  | nil => simp [pure, Except.pure]
  | cons row rows ih =>
    rw [List.foldlM_cons]
    constructor
    · rintro ⟨last, h⟩
      cases inserted : store.insertRow row with
      | error e => simp [inserted, bind, Except.bind] at h
      | ok next =>
        simp only [inserted, bind, Except.bind] at h
        obtain ⟨⟨encoded, free⟩, -, taken⟩ := insertRow_ok inserted
        obtain ⟨encodeds, distinct, frees⟩ := (ih next).1 ⟨last, h⟩
        refine ⟨List.forall_mem_cons.2 ⟨encoded, encodeds⟩, ?_, ?_⟩
        · cases takes : row.slot with
          | none => simpa [takes] using distinct
          | some slot =>
            simp only [List.filterMap_cons, takes, List.nodup_cons]
            exact ⟨fun again => frees slot again ((taken slot).2 (.inr takes)), distinct⟩
        · intro slot mem
          cases takes : row.slot with
          | none =>
            rw [List.filterMap_cons_none takes] at mem
            exact fun before => frees slot mem ((taken slot).2 (.inl before))
          | some slot' =>
            rw [List.filterMap_cons_some takes, List.mem_cons] at mem
            cases mem with
            | inl same => exact same ▸ free slot' takes
            | inr mem => exact fun before => frees slot mem ((taken slot).2 (.inl before))
    · rintro ⟨encodeds, distinct, frees⟩
      obtain ⟨⟨payload, encoded⟩, encodeds⟩ := List.forall_mem_cons.1 encodeds
      have free : ∀ slot, row.slot = some slot → ¬store.Taken slot :=
        fun slot takes => frees slot (List.mem_filterMap.2 ⟨row, List.mem_cons_self, takes⟩)
      have inserted := insertRow_fits encoded free
      obtain ⟨-, -, taken⟩ := insertRow_ok inserted
      rw [inserted]
      refine (ih _).2 ⟨encodeds, ?_, fun slot mem => ?_⟩
      · cases takes : row.slot with
        | none => simpa [takes] using distinct
        | some slot =>
          simp only [List.filterMap_cons, takes, List.nodup_cons] at distinct
          exact distinct.2
      · rw [taken slot]
        cases takes : row.slot with
        | none =>
          rw [List.filterMap_cons_none takes] at frees
          simpa using frees slot mem
        | some slot' =>
          rw [List.filterMap_cons_some takes] at frees distinct
          have other : slot' ≠ slot := fun same => (List.nodup_cons.1 distinct).1 (same ▸ mem)
          simp only [Option.some.injEq, other, or_false]
          exact frees slot (List.mem_cons_of_mem _ mem)

theorem insertRows_settings (rows : List (SnapshotRow K V)) {store store' : SnapshotStore K V}
    (h : rows.foldlM SnapshotStore.insertRow store = .ok store') : store'.settings = store.settings := by
  induction rows generalizing store with
  | nil =>
    cases h
    rfl
  | cons row rows ih =>
    rw [List.foldlM_cons] at h
    cases inserted : store.insertRow row with
    | error e => simp [inserted, bind, Except.bind] at h
    | ok next =>
      simp only [inserted, bind, Except.bind] at h
      rw [ih h, (insertRow_ok inserted).2.1]

/-! ## What a save leaves -/

theorem saveSnapshotWithOptions_settings {store store' : SnapshotStore K V} {save : SnapshotSave K V}
    (h : store.saveSnapshotWithOptions save.snapshot save.preserveIdentityAnnounces = .ok store') {key : String}
    (other : key ∉ writtenSettings) :
    store'.settings.get key = if putBack key then store.settings.get key else none := by
  obtain ⟨inserted, insertedAll, h⟩ := bind_eq_ok.1 h
  obtain ⟨versioned, version, h⟩ := bind_eq_ok.1 h
  obtain ⟨required, requirement, h⟩ := bind_eq_ok.1 h
  cases h
  have blank : inserted.settings = ∅ := by rw [insertRows_settings _ insertedAll, clearSnapshotTables_settings]
  have fresh : required.settings.get key = none := by
    simp only [writtenSettings, List.mem_cons, List.not_mem_nil, or_false, not_or] at other
    rw [insertSetting_get requirement, if_neg other.2, insertSetting_get version, if_neg other.1, blank, Dict.get_empty]
  simp only [get_putBack, fresh, Option.or_none]

/-- A save goes through exactly where its rows can all be written. -/
theorem saveSnapshotWithOptions_iff {store : SnapshotStore K V} {save : SnapshotSave K V} :
    (∃ store', store.saveSnapshotWithOptions save.snapshot save.preserveIdentityAnnounces = .ok store') ↔ save.Sound := by
  constructor
  · rintro ⟨store', h⟩
    obtain ⟨inserted, insertedAll, -⟩ := bind_eq_ok.1 h
    obtain ⟨encoded, distinct, -⟩ := (insertRows_iff _ _).1 ⟨inserted, insertedAll⟩
    exact ⟨encoded, distinct⟩
  · rintro ⟨encoded, distinct⟩
    obtain ⟨inserted, insertedAll⟩ :=
      (insertRows_iff _ (clearSnapshotTables store save.preserveIdentityAnnounces)).2
        ⟨encoded, distinct, fun _ mem => clearSnapshotTables_free mem⟩
    have blank : inserted.settings = ∅ := by rw [insertRows_settings _ insertedAll, clearSnapshotTables_settings]
    unfold SnapshotStore.saveSnapshotWithOptions
    simp [insertedAll, SnapshotStore.insertSetting, blank, Dict.contains, Dict.get_insert, bind, Except.bind, pure, Except.pure]

theorem after_settings {store : SnapshotStore K V} {save : SnapshotSave K V} (sound : save.Sound) {key : String}
    (other : key ∉ writtenSettings) :
    (store.after save).settings.get key = if putBack key then store.settings.get key else none := by
  have goes : ∃ store', store.saveSnapshotWithOptions save.snapshot save.preserveIdentityAnnounces = .ok store' :=
    saveSnapshotWithOptions_iff.2 sound
  obtain ⟨store', saved⟩ := goes
  rw [← saveSnapshotWithOptions_settings saved other, SnapshotStore.after, saved]
  rfl

theorem after_rolledBack {store : SnapshotStore K V} {save : SnapshotSave K V} (unsound : ¬save.Sound) :
    store.after save = store := by
  unfold SnapshotStore.after
  cases saved : store.saveSnapshotWithOptions save.snapshot save.preserveIdentityAnnounces with
  | error e => rfl
  | ok store' => exact absurd (saveSnapshotWithOptions_iff.1 ⟨store', saved⟩) unsound

/-! ## What a run of saves leaves -/

/-- What a save puts back is there after every run. -/
theorem saves_putBack (saves : List (SnapshotSave K V)) (store : SnapshotStore K V) {key : String}
    (other : key ∉ writtenSettings) (back : store.settings.contains key = true → putBack key = true) :
    (saves.foldl SnapshotStore.after store).settings.get key = store.settings.get key := by
  induction saves generalizing store with
  | nil => rfl
  | cons save saves ih =>
    have once : (store.after save).settings.get key = store.settings.get key := by
      by_cases sound : save.Sound
      · rw [after_settings sound other]
        split
        · rfl
        · exact (Dict.contains_eq_false.1 (Bool.eq_false_iff.2 fun there => ‹¬_› (back there))).symm
      · rw [after_rolledBack sound]
    rw [List.foldl_cons, ih _ (by rwa [Dict.contains, once]), once]

/-- What no save puts back is gone behind the first that goes through. -/
theorem saves_forget (saves : List (SnapshotSave K V)) (store : SnapshotStore K V) {key : String}
    (other : key ∉ writtenSettings) (lost : putBack key = false) {save : SnapshotSave K V} (mem : save ∈ saves)
    (sound : save.Sound) : (saves.foldl SnapshotStore.after store).settings.get key = none := by
  induction saves generalizing store with
  | nil => cases mem
  | cons first saves ih =>
    rw [List.foldl_cons]
    cases List.mem_cons.1 mem with
    | inl same =>
      have gone : (store.after first).settings.get key = none := by
        rw [after_settings (same ▸ sound) other, lost]
        rfl
      rw [saves_putBack saves _ other (fun there => by simp [Dict.contains, gone] at there), gone]
    | inr mem => exact ih _ mem

/-- The saves leave the other settings as they were exactly where every one of them is put back,
or no save goes through. -/
theorem keepsSettings_iff (store : SnapshotStore K V) (saves : List (SnapshotSave K V)) :
    store.KeepsSettings saves
      ↔ (∀ key, store.settings.contains key = true → key ∈ writtenSettings ∨ putBack key = true)
        ∨ ∀ save ∈ saves, ¬save.Sound := by
  constructor
  · intro keeps
    by_cases saved : ∃ save ∈ saves, save.Sound
    · left
      intro key there
      by_contra neither
      rw [not_or, Bool.not_eq_true] at neither
      obtain ⟨save, mem, sound⟩ := saved
      have gone := saves_forget saves store neither.1 neither.2 mem sound
      rw [keeps key neither.1] at gone
      simp [Dict.contains, gone] at there
    · exact .inr fun save mem sound => saved ⟨save, mem, sound⟩
  · rintro (kept | unsound) key other
    · exact saves_putBack saves store other fun there => (kept key there).resolve_left other
    · have still : saves.foldl SnapshotStore.after store = store := by
        clear other
        induction saves with
        | nil => rfl
        | cons save saves ih =>
          rw [List.foldl_cons, after_rolledBack (unsound save List.mem_cons_self)]
          exact ih fun save mem => unsound save (List.mem_cons_of_mem _ mem)
      rw [still]

/-- The snapshot of a core that holds nothing. -/
def blankSave : SnapshotSave String String :=
  { snapshot := { rows := [], authorizationRequired := true }, preserveIdentityAnnounces := false }

/-- The store of a hub that is set up and has read some of the daemon's events. -/
def setUpStore : SnapshotStore String String :=
  { tables := ∅
    settings := (((Dict.insert ∅ hubNameSetting "Alpha").insert killSwitchPinSettings.salt "salt").insert
      killSwitchPinSettings.hash "$argon2id$").insert "reticulumd_event_cursor" "7" }

theorem blankSave_forgets : ¬setUpStore.KeepsSettings [blankSave] := by
  intro keeps
  have pin := keeps killSwitchPinSettings.hash (by decide)
  revert pin
  decide

/-! ## The secrets of setup -/

/-- Behind a save the hub has no PIN and no remote password enrolled, whichever it had. -/
theorem after_notEnrolled [SetupHost] {names : SecretSettings}
    (either : names = killSwitchPinSettings ∨ names = remoteAccessPasswordSettings) (store : SnapshotStore K V)
    {save : SnapshotSave K V} (sound : save.Sound) : loadSecret names (store.after save).settings = .ok none := by
  have lost (key : String) (other : key ∉ writtenSettings) (unkept : putBack key = false) :
      (store.after save).settings.get key = none := by
    rw [after_settings sound other, unkept]
    rfl
  cases either with
  | inl pin =>
    subst pin
    simp only [loadSecret, lost killSwitchPinSettings.salt (by decide) (by decide),
      lost killSwitchPinSettings.hash (by decide) (by decide), lost killSwitchPinSettings.createdAt (by decide) (by decide)]
  | inr password =>
    subst password
    simp only [loadSecret, lost remoteAccessPasswordSettings.salt (by decide) (by decide),
      lost remoteAccessPasswordSettings.hash (by decide) (by decide),
      lost remoteAccessPasswordSettings.createdAt (by decide) (by decide)]

end TelemetryHub
