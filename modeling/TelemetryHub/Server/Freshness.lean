import TelemetryHub.Core.Normal
import TelemetryHub.Server.Announces
import TelemetryHub.Server.Logic

/-!
# The times an announce is stored with

What an import does to the stored announce of one destination is a function of
the stored record, the batch and the clock. From it follows when a run of imports
keeps the earliest and the latest time it has been told.
-/

namespace TelemetryHub

open Lib ServerM

theorem normalizeIdentityKey_eq (identity : String) : normalizeIdentityKey identity = normalizeHash identity := rfl

/-! ## The stored rows of one destination -/

/-- The announces stored under a destination. -/
def announcesOf (destination : String) (records : List IdentityAnnounceRecord) : List IdentityAnnounceRecord :=
  records.filter (·.destinationHash == destination)

/-- The rows of a destination, if there is a database. -/
def AppState.announceRows (destination : String) (s : AppState) : Option (List IdentityAnnounceRecord) :=
  s.sqlite.map fun store => announcesOf destination store.identityAnnounces

variable {destination : String}

theorem announcesOf_append (records more : List IdentityAnnounceRecord) :
    announcesOf destination (records ++ more) = announcesOf destination records ++ announcesOf destination more :=
  List.filter_append ..

theorem announcesOf_upsert (store : SqliteStore) (record : IdentityAnnounceRecord) :
    announcesOf destination (store.upsertIdentityAnnounce record).identityAnnounces =
      if record.destinationHash = destination then [record]
      else announcesOf destination store.identityAnnounces := by
  unfold SqliteStore.upsertIdentityAnnounce announcesOf
  rw [List.filter_append, List.filter_filter]
  by_cases h : record.destinationHash = destination
  · have hnone : store.identityAnnounces.filter (fun other =>
        other.destinationHash == destination && other.destinationHash != record.destinationHash) = [] := by
      simp [h, List.filter_eq_nil_iff]
    rw [hnone, if_pos h]
    simp [h]
  · have hsame : store.identityAnnounces.filter (fun other =>
        other.destinationHash == destination && other.destinationHash != record.destinationHash) =
        store.identityAnnounces.filter (·.destinationHash == destination) := by
      apply List.filter_congr
      intro other _
      by_cases hother : other.destinationHash = destination
      · simp [hother, Ne.symm h]
      · simp [hother]
    rw [hsame, if_neg h]
    simp [h]

/-- The last record written for a destination is its row. -/
theorem announcesOf_upserts (records : List IdentityAnnounceRecord) (store : SqliteStore) :
    announcesOf destination (records.foldl .upsertIdentityAnnounce store).identityAnnounces =
      ((announcesOf destination records).getLast?.map fun record => [record]).getD
        (announcesOf destination store.identityAnnounces) := by
  induction records generalizing store with
  | nil => rfl
  | cons record rest ih =>
    rw [List.foldl_cons, ih, announcesOf_upsert]
    by_cases h : record.destinationHash = destination
    · have hcons : announcesOf destination (record :: rest) = record :: announcesOf destination rest := by
        simp [announcesOf, h]
      rw [if_pos h, hcons, List.getLast?_cons]
      cases (announcesOf destination rest).getLast? <;> rfl
    · have hcons : announcesOf destination (record :: rest) = announcesOf destination rest := by
        simp [announcesOf, h]
      rw [if_neg h, hcons]

/-- A destination has one row at most, so the order of the rows does not matter. -/
theorem priorRecord_load {store : SqliteStore}
    (hone : (announcesOf destination store.identityAnnounces).length ≤ 1) :
    priorRecord store.loadIdentityAnnounces destination =
      (announcesOf destination store.identityAnnounces).head? := by
  have hperm : (announcesOf destination store.loadIdentityAnnounces).Perm
      (announcesOf destination store.identityAnnounces) := (List.perm_insertionSort _ _).filter _
  have hsame : announcesOf destination store.loadIdentityAnnounces =
      announcesOf destination store.identityAnnounces := by
    generalize announcesOf destination store.identityAnnounces = rows at hone hperm
    rcases rows with _ | ⟨row, _ | ⟨other, rest⟩⟩
    · exact List.perm_nil.1 hperm
    · exact List.perm_singleton.1 hperm
    · simp at hone
  rw [← hsame, priorRecord, announcesOf, List.head?_filter]

theorem priorRecord_destinationHash {stored : List IdentityAnnounceRecord} {record : IdentityAnnounceRecord}
    (h : priorRecord stored destination = some record) : record.destinationHash = destination := by
  have hfound := List.find?_some h
  simpa using hfound


theorem announcesOf_prior {touchTsMs : Int} {key : String} {stored : List IdentityAnnounceRecord} :
    announcesOf destination ((priorRecord stored key).map fun record =>
      { record with lastSeenTsMs := touchTsMs }).toList =
    if key = destination then ((priorRecord stored key).map fun record =>
      { record with lastSeenTsMs := touchTsMs }).toList else [] := by
  cases hprior : priorRecord stored key with
  | none => simp [announcesOf]
  | some record =>
    have hkey := priorRecord_destinationHash hprior
    by_cases h : key = destination
    · simp [announcesOf, hkey, h]
    · simp [announcesOf, hkey, h]

/-! ## One pass over a batch -/

/-- The times of a record. -/
def IdentityAnnounceRecord.times (record : IdentityAnnounceRecord) : Int × Int :=
  (record.firstSeenTsMs, record.lastSeenTsMs)

/-- The announce is one of the latest of its destination in the batch. -/
def isLatestIn (announces : List ReticulumdAnnounce) (destination : String) (announce : ReticulumdAnnounce) :
    Bool :=
  announce.destination == some destination && latestTsMs announces destination == some announce.tsMs

theorem latestTsMs_of_mem {announces : List ReticulumdAnnounce} {announce : ReticulumdAnnounce}
    (hmem : announce ∈ announces) (hdest : announce.destination = some destination) :
    ∃ latest, latestTsMs announces destination = some latest ∧ announce.tsMs ≤ latest := by
  have htime : announce.tsMs ∈
      (announces.filter fun other => other.destination == some destination).map (·.tsMs) := by
    apply List.mem_map_of_mem
    simp [hmem, hdest]
  unfold latestTsMs
  cases hmax : ((announces.filter fun other => other.destination == some destination).map (·.tsMs)).max? with
  | none =>
    rw [List.max?_eq_none_iff] at hmax
    rw [hmax] at htime
    cases htime
  | some latest => exact ⟨latest, rfl, (List.max?_eq_some_iff.1 hmax).2 _ htime⟩

/-- The loop passes over the announces that are not the latest ones. -/
theorem isLatestIn_iff {announces : List ReticulumdAnnounce} {announce : ReticulumdAnnounce}
    (hmem : announce ∈ announces) (hdest : announce.destination = some destination) :
    isLatestIn announces destination announce = true ↔
      (latestTsMs announces destination).any (announce.tsMs < ·) = false := by
  obtain ⟨latest, hlatest, hle⟩ := latestTsMs_of_mem hmem hdest
  simp only [isLatestIn, hdest, hlatest, beq_self_eq_true, Bool.true_and, beq_iff_eq, Option.some.injEq,
    Option.any_some, decide_eq_false_iff_not]
  omega

theorem not_isLatestIn {announces : List ReticulumdAnnounce} {announce : ReticulumdAnnounce}
    (h : announce.destination ≠ some destination) : isLatestIn announces destination announce = false := by
  simp [isLatestIn, h]

variable [ServerHost]

/-- Of some announces the latest ones, those that tell something new or those that do not. -/
def latestThat (new : Bool) (announces : List ReticulumdAnnounce) (destination : String)
    (prior : Option IdentityAnnounceRecord) (among : List ReticulumdAnnounce) : List ReticulumdAnnounce :=
  among.filter fun announce => isLatestIn announces destination announce && announce.isNewTo prior == new

/-- What the pass has gathered for a destination from the announces it has read. -/
structure Gathered (destination : String) (prior : Option IdentityAnnounceRecord)
    (announces : List ReticulumdAnnounce) (touchUnchangedRecords : Bool) (touchTsMs : Int)
    (done : List ReticulumdAnnounce) (pass : ImportPass) : Prop where
  valid : ∀ announce ∈ done, announce.destination.isSome
  keyed : ∀ key record, pass.core.identityAnnounces.get key = some record → record.destinationHash = key
  known : ∀ key ∈ pass.recordKeys, pass.core.identityAnnounces.contains key
  keys : destination ∈ pass.recordKeys ↔ latestThat true announces destination prior done ≠ []
  timestamps : pass.recordTimestamps.get destination =
    (latestThat true announces destination prior done).getLast?.map fun announce =>
      ((prior.map (·.firstSeenTsMs)).getD announce.firstSeenMs, announce.tsMs)
  touched : announcesOf destination pass.recordsToTouch =
    if touchUnchangedRecords then
      (latestThat false announces destination prior done).filterMap fun _ =>
        prior.map fun record => { record with lastSeenTsMs := touchTsMs }
    else []

section Pass

variable {prior : Option IdentityAnnounceRecord} {announces done : List ReticulumdAnnounce}
  {touchUnchangedRecords : Bool} {touchTsMs : Int} {pass : ImportPass} {announce : ReticulumdAnnounce}

theorem latestThat_snoc (new : Bool) : latestThat new announces destination prior (done ++ [announce]) =
    latestThat new announces destination prior done ++
      if isLatestIn announces destination announce && announce.isNewTo prior == new then [announce] else [] := by
  unfold latestThat
  rw [List.filter_append, List.filter_cons, List.filter_nil]

/-- Where the batch goes on without a write for the destination. -/
theorem Gathered.skip
    (h : Gathered destination prior announces touchUnchangedRecords touchTsMs done pass)
    (hvalid : announce.destination.isSome) (hold : isLatestIn announces destination announce = false) :
    Gathered destination prior announces touchUnchangedRecords touchTsMs (done ++ [announce]) pass := by
  have hsame (new : Bool) : latestThat new announces destination prior (done ++ [announce]) =
      latestThat new announces destination prior done := by
    simp [latestThat_snoc, hold]
  refine ⟨?_, h.keyed, h.known, ?_, ?_, ?_⟩
  · intro other hother
    rcases List.mem_append.1 hother with hother | hother
    · exact h.valid other hother
    · rw [List.mem_singleton.1 hother]
      exact hvalid
  · rw [hsame]
    exact h.keys
  · rw [hsame]
    exact h.timestamps
  · rw [hsame]
    exact h.touched

/-- Where the announce tells nothing new. -/
theorem Gathered.touch {stored : List IdentityAnnounceRecord} {key : String}
    (h : Gathered destination (priorRecord stored destination) announces touchUnchangedRecords touchTsMs done pass)
    (hkey : announce.destination = some key) (hlatest : isLatestIn announces key announce = true)
    (hold : announce.isNewTo (priorRecord stored key) = false) :
    Gathered destination (priorRecord stored destination) announces touchUnchangedRecords touchTsMs
      (done ++ [announce]) (pass.touch touchUnchangedRecords touchTsMs (priorRecord stored key)) := by
  have hnew : latestThat true announces destination (priorRecord stored destination) (done ++ [announce]) =
      latestThat true announces destination (priorRecord stored destination) done := by
    rw [latestThat_snoc]
    by_cases heq : key = destination
    · subst heq
      simp [hold]
    · have hother := @not_isLatestIn destination announces announce (by simpa [hkey] using heq)
      simp [hother]
  have hcore : (pass.touch touchUnchangedRecords touchTsMs (priorRecord stored key)).core = pass.core ∧
      (pass.touch touchUnchangedRecords touchTsMs (priorRecord stored key)).recordKeys = pass.recordKeys ∧
      (pass.touch touchUnchangedRecords touchTsMs (priorRecord stored key)).recordTimestamps =
        pass.recordTimestamps := by
    unfold ImportPass.touch
    split
    · exact ⟨rfl, rfl, rfl⟩
    · exact ⟨rfl, rfl, rfl⟩
  obtain ⟨hcore, hkeys, htimestamps⟩ := hcore
  refine ⟨?_, ?_, ?_, ?_, ?_, ?_⟩
  · intro other hother
    rcases List.mem_append.1 hother with hother | hother
    · exact h.valid other hother
    · rw [List.mem_singleton.1 hother, hkey]
      rfl
  · rw [hcore]
    exact h.keyed
  · rw [hcore, hkeys]
    exact h.known
  · rw [hkeys, hnew]
    exact h.keys
  · rw [htimestamps, hnew]
    exact h.timestamps
  · have htouched := h.touched
    unfold ImportPass.touch
    cases touchUnchangedRecords with
    | false => simpa using htouched
    | true =>
      simp only [if_true] at htouched ⊢
      rw [announcesOf_append, htouched, announcesOf_prior, latestThat_snoc, List.filterMap_append]
      by_cases heq : key = destination
      · subst heq
        simp only [hlatest, hold, if_true, beq_self_eq_true, Bool.true_and, List.filterMap_cons, List.filterMap_nil]
        cases priorRecord stored key <;> rfl
      · have hother := @not_isLatestIn destination announces announce (by simpa [hkey] using heq)
        simp [hother, heq]

/-- Where the announce tells something new and the core has recorded it. -/
theorem Gathered.recorded {stored : List IdentityAnnounceRecord} {key : String} {core : RchCore}
    {record : IdentityAnnounceRecord}
    (h : Gathered destination (priorRecord stored destination) announces touchUnchangedRecords touchTsMs done pass)
    (hkey : announce.destination = some key) (hlatest : isLatestIn announces key announce = true)
    (hnew : announce.isNewTo (priorRecord stored key) = true)
    (hcore : core.identityAnnounces = pass.core.identityAnnounces.insert key record)
    (hrecord : record.destinationHash = key) :
    Gathered destination (priorRecord stored destination) announces touchUnchangedRecords touchTsMs
      (done ++ [announce]) (pass.recorded announce key (priorRecord stored key) core) := by
  refine ⟨?_, ?_, ?_, ?_, ?_, ?_⟩
  · intro other hother
    rcases List.mem_append.1 hother with hother | hother
    · exact h.valid other hother
    · rw [List.mem_singleton.1 hother, hkey]
      rfl
  · intro other found hfound
    change core.identityAnnounces.get other = some found at hfound
    rw [hcore, Dict.get_insert] at hfound
    split at hfound
    · subst other
      rw [← Option.some.inj hfound]
      exact hrecord
    · exact h.keyed other found hfound
  · intro other hother
    change core.identityAnnounces.contains other = true
    rw [hcore, Dict.contains_insert]
    rcases HSet.mem_insert.1 hother with hother | hother
    · exact .inl hother
    · exact .inr (h.known other hother)
  · change destination ∈ pass.recordKeys.insert key ↔ _
    rw [HSet.mem_insert, h.keys, latestThat_snoc]
    by_cases heq : key = destination
    · subst heq
      simp [hlatest, hnew]
    · have hother := @not_isLatestIn destination announces announce (by simpa [hkey] using heq)
      simp [hother, Ne.symm heq]
  · change (pass.recordTimestamps.insert key _).get destination = _
    rw [Dict.get_insert, latestThat_snoc]
    by_cases heq : key = destination
    · subst heq
      simp [hlatest, hnew]
    · have hother := @not_isLatestIn destination announces announce (by simpa [hkey] using heq)
      simp [hother, Ne.symm heq, h.timestamps]
  · have hold : latestThat false announces destination (priorRecord stored destination) (done ++ [announce]) =
        latestThat false announces destination (priorRecord stored destination) done := by
      rw [latestThat_snoc]
      by_cases heq : key = destination
      · subst heq
        simp [hnew]
      · have hother := @not_isLatestIn destination announces announce (by simpa [hkey] using heq)
        simp [hother]
    rw [hold]
    exact h.touched

end Pass

/-! ## The loop -/

omit [ServerHost] in
/-- The core files an announce under its destination. -/
theorem recordIdentityAnnounce_files {identity key : String} (hkey : normalizeHash identity = some key)
    (announcedIdentityHash displayName sourceInterface : Option String) (announceCapabilities : List String)
    {core : RchCore}
    (hkeyed : ∀ key record, core.identityAnnounces.get key = some record → record.destinationHash = key) :
    CoreM.Spec (fun _ => True)
      (recordIdentityAnnounce identity announcedIdentityHash displayName sourceInterface announceCapabilities)
      core fun r core' => r = .ok () ∧ ∃ record, record.destinationHash = key ∧
        core'.identityAnnounces = core.identityAnnounces.insert key record := by
  unfold recordIdentityAnnounce
  apply Proc.Spec.check
  · intro id hid
    unfold requireIdentity at hid
    rw [hkey] at hid
    cases hid
    apply CoreM.Spec.clock
    intro now
    apply CoreM.Spec.lastWrite
    refine ⟨rfl, _, ?_, rfl⟩
    cases hget : core.identityAnnounces.get key with
    | none => rfl
    | some record => exact hkeyed key record hget
  · intro e he
    unfold requireIdentity at he
    rw [hkey] at he
    cases he

theorem record_files {announce : ReticulumdAnnounce} {key : String} (hkey : announce.destination = some key)
    {core : RchCore}
    (hkeyed : ∀ key record, core.identityAnnounces.get key = some record → record.destinationHash = key) :
    CoreM.Spec (fun _ => True) (announce.record key) core fun r core' => r = .ok () ∧
      ∃ record, record.destinationHash = key ∧
        core'.identityAnnounces = core.identityAnnounces.insert key record := by
  have hpeer : normalizeHash announce.peer = some key := hkey
  exact recordIdentityAnnounce_files (normalizeHash_normal hpeer) _ _ _ _ hkeyed

theorem importAnnounce_gathers {stored : List IdentityAnnounceRecord} {announces done rest : List ReticulumdAnnounce}
    {touchUnchangedRecords : Bool} {touchTsMs : Int} {pass : ImportPass} {announce : ReticulumdAnnounce}
    {s : AppState} (hitems : announces = done ++ announce :: rest)
    (h : Gathered destination (priorRecord stored destination) announces touchUnchangedRecords touchTsMs done pass) :
    Spec id (importAnnounce stored announces touchUnchangedRecords touchTsMs pass announce) s fun r s' =>
      s' = s ∧ (∀ pass', r = .ok pass' → Gathered destination (priorRecord stored destination) announces
        touchUnchangedRecords touchTsMs (done ++ [announce]) pass') ∧
      ∀ e, r = .error e → ∃ announce ∈ announces, announce.destination = none := by
  have hmem : announce ∈ announces := by simp [hitems]
  unfold importAnnounce
  apply Proc.Spec.require
  · intro key hkey
    dsimp only
    apply Proc.Spec.ite
    · intro holder
      refine Proc.Spec.pure ⟨rfl, ?_, nofun⟩
      rintro pass' ⟨⟩
      apply h.skip (by simp [hkey])
      by_cases heq : key = destination
      · subst heq
        rw [← Bool.not_eq_true, isLatestIn_iff hmem hkey, holder]
        decide
      · exact not_isLatestIn (by simpa [hkey] using heq)
    · intro hlatest
      have hlatest := (isLatestIn_iff hmem hkey).2 (by simpa using hlatest)
      apply Proc.Spec.ite
      · intro hold
        refine Proc.Spec.pure ⟨rfl, ?_, nofun⟩
        rintro pass' ⟨⟩
        exact h.touch hkey hlatest (by simpa using hold)
      · intro hnew
        apply Spec.onCore (record_files hkey h.keyed)
        rintro r core' ⟨rfl, record, hrecord, hcore⟩
        refine Proc.Spec.pure ⟨rfl, ?_, nofun⟩
        rintro pass' ⟨⟩
        exact h.recorded hkey hlatest (by simpa using hnew) hcore hrecord
  · intro hnone
    exact ⟨rfl, nofun, fun e he => ⟨announce, hmem, hnone⟩⟩

/-! ## What is written back -/

omit [ServerHost] in
/-- The core's record of a key the pass has written is found in its listing. -/
theorem find_identityAnnounceList {core : RchCore} {key : String}
    (hkeyed : ∀ key record, core.identityAnnounces.get key = some record → record.destinationHash = key)
    (hknown : core.identityAnnounces.contains key = true) :
    ∃ record, core.identityAnnounceList.find? (·.destinationHash == key) = some record ∧
      record.destinationHash = key := by
  obtain ⟨record, hget⟩ := Dict.contains_iff.1 hknown
  have hmem : record ∈ core.identityAnnounceList :=
    (List.perm_insertionSort _ _).mem_iff.2 (Dict.mem_values.2 ⟨key, hget⟩)
  have hfound : (core.identityAnnounceList.find? (·.destinationHash == key)).isSome := by
    rw [List.find?_isSome]
    exact ⟨record, hmem, by simpa using hkeyed key record hget⟩
  obtain ⟨found, hfound⟩ := Option.isSome_iff_exists.1 hfound
  exact ⟨found, hfound, by simpa using List.find?_some hfound⟩

omit [ServerHost] in
/-- Of records made under distinct keys a destination has at most one. -/
theorem announcesOf_filterMap {write : String → Option IdentityAnnounceRecord} {keys : List String}
    (hwrite : ∀ key record, write key = some record → record.destinationHash = key) (hnodup : keys.Nodup) :
    announcesOf destination (keys.filterMap write) =
      if destination ∈ keys then (write destination).toList else [] := by
  induction keys with
  | nil => rfl
  | cons key rest ih =>
    obtain ⟨hkey, hrest⟩ := List.nodup_cons.1 hnodup
    have ih := ih hrest
    by_cases heq : key = destination
    · subst heq
      rw [if_neg hkey] at ih
      rw [if_pos List.mem_cons_self, List.filterMap_cons]
      cases hwritten : write key with
      | none => simpa using ih
      | some record =>
        have hrecord := hwrite key record hwritten
        have hcons : announcesOf key (record :: rest.filterMap write) =
            record :: announcesOf key (rest.filterMap write) := by simp [announcesOf, hrecord]
        rw [hcons, ih]
        rfl
    · have hmem : destination ∈ key :: rest ↔ destination ∈ rest := by simp [Ne.symm heq]
      simp only [hmem]
      rw [← ih, List.filterMap_cons]
      cases hwritten : write key with
      | none => rfl
      | some record =>
        have hrecord := hwrite key record hwritten
        simp [announcesOf, hrecord, heq]

/-- The times a pass writes for a destination, if it writes any. -/
def writtenTimes (destination : String) (prior : Option IdentityAnnounceRecord)
    (announces : List ReticulumdAnnounce) (touchUnchangedRecords : Bool) (touchTsMs : Int) :
    Option (Int × Int) :=
  match (latestThat true announces destination prior announces).getLast? with
  | some announce => some ((prior.map (·.firstSeenTsMs)).getD announce.firstSeenMs, announce.tsMs)
  | none =>
    if touchUnchangedRecords ∧ latestThat false announces destination prior announces ≠ [] then
      prior.map fun record => (record.firstSeenTsMs, touchTsMs)
    else none

theorem Gathered.written {prior : Option IdentityAnnounceRecord} {announces : List ReticulumdAnnounce}
    {touchUnchangedRecords : Bool} {touchTsMs : Int} {pass : ImportPass}
    (h : Gathered destination prior announces touchUnchangedRecords touchTsMs announces pass) :
    (announcesOf destination (pass.recordsToTouch ++ pass.updatedRecords)).getLast?.map (·.times) =
      writtenTimes destination prior announces touchUnchangedRecords touchTsMs := by
  unfold writtenTimes
  rw [announcesOf_append, ImportPass.updatedRecords, announcesOf_filterMap, h.touched]
  case hnodup => exact pass.recordKeys.nodup
  case hwrite =>
    intro key record hwritten
    obtain ⟨found, hfound, rfl⟩ := Option.map_eq_some_iff.1 hwritten
    have hkey : found.destinationHash = key := by simpa using List.find?_some hfound
    cases pass.recordTimestamps.get key with
    | none => exact hkey
    | some times => exact hkey
  cases hnew : (latestThat true announces destination prior announces).getLast? with
  | some announce =>
    have hne : latestThat true announces destination prior announces ≠ [] := by
      intro hnil
      rw [hnil] at hnew
      cases hnew
    obtain ⟨record, hfound, -⟩ := find_identityAnnounceList h.keyed (h.known _ (h.keys.2 hne))
    have hkeys : destination ∈ pass.recordKeys.toList := h.keys.2 hne
    rw [if_pos hkeys, hfound, h.timestamps, hnew]
    simp [IdentityAnnounceRecord.times]
  | none =>
    have hnil : latestThat true announces destination prior announces = [] := List.getLast?_eq_none_iff.1 hnew
    have hkeys : destination ∉ pass.recordKeys.toList := fun hkey => h.keys.1 hkey hnil
    rw [if_neg hkeys, List.append_nil]
    cases touchUnchangedRecords with
    | false => rfl
    | true =>
      cases prior with
      | none => simp
      | some record =>
        by_cases hold : latestThat false announces destination (some record) announces = []
        · simp [hold]
        · simp [hold, List.getLast?_replicate, IdentityAnnounceRecord.times]

omit [ServerHost] in
theorem announces_upsertIdentityStates (records : List IdentityStateRecord) (store : SqliteStore) :
    (records.foldl .upsertIdentityState store).identityAnnounces = store.identityAnnounces := by
  induction records generalizing store with
  | nil => rfl
  | cons record rest ih => rw [List.foldl_cons, ih]; rfl

omit [ServerHost] in
theorem Keeps.recordAnnounceIdentityState (announce : IdentityAnnounceRecord) :
    Keeps (AppState.announceRows destination) (recordAnnounceIdentityState announce) := by
  apply Keeps.bind (Keeps.orThrow _ _)
  intro primaryIdentity
  apply Keeps.update
  intro s
  split <;> rfl

omit [ServerHost] in
theorem persistImported_rows (records rows : List IdentityAnnounceRecord) :
    Spec (AppState.announceRows destination) (persistImported records) (some rows) fun _ t =>
      t = some (((announcesOf destination records).getLast?.map fun record => [record]).getD rows) := by
  unfold persistImported
  apply Proc.Spec.ite
  · intro hempty
    apply Proc.Spec.pure
    rw [List.isEmpty_iff.1 hempty]
    rfl
  · intro _
    have hkeeps : Keeps (AppState.announceRows destination) (do
        records.forM TelemetryHub.recordAnnounceIdentityState
        persistIdentityStateRecords records) := by
      apply Keeps.bind (Keeps.forM fun announce _ => Keeps.recordAnnounceIdentityState announce)
      intro _
      apply Keeps.update
      intro s
      cases hstore : s.sqlite with
      | none => simp [AppState.announceRows, hstore]
      | some store => simp [AppState.announceRows, hstore, announces_upsertIdentityStates]
    refine Spec.write ?_ (hkeeps _)
    intro s hs
    obtain ⟨store, hstore, rfl⟩ := Option.map_eq_some_iff.1 hs
    simp [AppState.announceRows, hstore, announcesOf_upserts]

omit [ServerHost] in
/-- The core the loop starts from files every announce under its destination. -/
theorem keyed_load (stored : List IdentityAnnounceRecord) {core : RchCore}
    (hkeyed : ∀ key record, core.identityAnnounces.get key = some record → record.destinationHash = key) :
    ∀ key record, (stored.foldl (fun core announce =>
      { core with identityAnnounces := core.identityAnnounces.insert announce.destinationHash announce })
      core).identityAnnounces.get key = some record → record.destinationHash = key := by
  induction stored generalizing core with
  | nil => exact hkeyed
  | cons announce rest ih =>
    rw [List.foldl_cons]
    apply ih
    intro key record hget
    rw [Dict.get_insert] at hget
    split at hget
    · subst key
      rw [← Option.some.inj hget]
    · exact hkeyed key record hget

theorem importLoop_gathers {core : RchCore} (stored : List IdentityAnnounceRecord)
    (announces : List ReticulumdAnnounce) (touchUnchangedRecords : Bool) (touchTsMs : Int)
    (hkeyed : ∀ key record, core.identityAnnounces.get key = some record → record.destinationHash = key)
    (s : AppState) :
    Spec id (announces.foldlM (importAnnounce stored announces touchUnchangedRecords touchTsMs) { core }) s
      fun r s' => s' = s ∧ (∀ pass, r = .ok pass → Gathered destination (priorRecord stored destination) announces
        touchUnchangedRecords touchTsMs announces pass) ∧
      ∀ e, r = .error e → ∃ announce ∈ announces, announce.destination = none := by
  have hround : ∀ done announce rest pass, announces = done ++ announce :: rest →
      Gathered destination (priorRecord stored destination) announces touchUnchangedRecords touchTsMs done pass →
      Spec id (importAnnounce stored announces touchUnchangedRecords touchTsMs pass announce) s fun r s' =>
        s' = s ∧ (∀ pass', r = .ok pass' → Gathered destination (priorRecord stored destination) announces
          touchUnchangedRecords touchTsMs (done ++ [announce]) pass') ∧
        ∀ e, r = .error e → ∃ announce ∈ announces, announce.destination = none := by
    intro done announce rest pass hitems h
    exact importAnnounce_gathers hitems h
  have hstart : Gathered destination (priorRecord stored destination) announces touchUnchangedRecords touchTsMs []
      { core } := by
    refine ⟨nofun, hkeyed, fun key hkey => absurd hkey (HSet.not_mem_empty key), ?_, rfl, ?_⟩
    · simp [latestThat]
    · simp [latestThat, announcesOf]
  have hloop := Proc.Spec.foldlM hround hstart
  exact hloop

/-- What a batch does to the row of a destination. -/
theorem importBatch_rows {w : ServerWorld} {rows : List IdentityAnnounceRecord}
    (hrows : w.state.announceRows destination = some rows) (hone : rows.length ≤ 1)
    (announces : List ReticulumdAnnounce) (touchUnchangedRecords : Bool) :
    ∃ rows', ((importReticulumdAnnounceBatch announces touchUnchangedRecords).run w).2.state.announceRows
        destination = some rows' ∧ rows'.length ≤ 1 ∧
      rows'.head?.map (·.times) =
        if announces.all (·.destination.isSome) then
          (writtenTimes destination rows.head? announces touchUnchangedRecords (w.clock 0).timestampMillis).or
            (rows.head?.map (·.times))
        else rows.head?.map (·.times) := by
  unfold importReticulumdAnnounceBatch
  by_cases hempty : announces.isEmpty = true
  · rw [if_pos hempty]
    obtain rfl := List.isEmpty_iff.1 hempty
    exact ⟨rows, hrows, hone, by simp [writtenTimes, latestThat]⟩
  · rw [if_neg hempty]
    obtain ⟨store, hstore, rfl⟩ := Option.map_eq_some_iff.1 hrows
    have hprior := priorRecord_load hone
    rw [run_state_bind, hstore, Proc.orThrow_some_bind, run_unixNowMs_bind, Proc.run_bind]
    generalize (w.clock 0).timestampMillis = touchTsMs
    have hkeyed := @keyed_load store.loadIdentityAnnounces .new (by simp [RchCore.new])
    obtain ⟨⟨hstate, hok, herror⟩, -⟩ := @importLoop_gathers destination _ _ store.loadIdentityAnnounces announces
      touchUnchangedRecords touchTsMs hkeyed w.state { w with clock := fun n => w.clock (n + 1) } rfl trivial
    rw [hprior] at hok
    split
    · rename_i pass w' hrun
      rw [hrun] at hstate hok
      have hgathered := hok pass rfl
      have hvalid : announces.all (·.destination.isSome) = true := List.all_eq_true.2 hgathered.valid
      have hspec := @persistImported_rows destination (pass.recordsToTouch ++ pass.updatedRecords)
        (announcesOf destination store.identityAnnounces)
      have hview : w'.state.announceRows destination = some (announcesOf destination store.identityAnnounces) := by
        rw [show w'.state = w.state from hstate]
        exact hrows
      obtain ⟨hwritten, -⟩ := Spec.before (a := (pass.imported, pass.lastId)) hspec w' hview trivial
      refine ⟨_, hwritten, ?_, ?_⟩
      · cases (announcesOf destination (pass.recordsToTouch ++ pass.updatedRecords)).getLast? with
        | none => exact hone
        | some record => exact Nat.le_refl 1
      · rw [hvalid, if_pos rfl, ← hgathered.written]
        cases (announcesOf destination (pass.recordsToTouch ++ pass.updatedRecords)).getLast? <;> rfl
    · rename_i e w' hrun
      rw [hrun] at hstate herror
      obtain ⟨announce, hmem, hnone⟩ := herror e rfl
      have hinvalid : announces.all (·.destination.isSome) = false := by
        rw [List.all_eq_false]
        exact ⟨announce, hmem, by simp [hnone]⟩
      refine ⟨_, ?_, hone, by rw [hinvalid, if_neg Bool.false_ne_true]⟩
      change w'.state.announceRows destination = _
      rw [show w'.state = w.state from hstate]
      exact hrows

end TelemetryHub
