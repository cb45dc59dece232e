import Mathlib.Data.List.Induction
import TelemetryHub.Server.Freshness

/-!
# Runs of announce imports

A run of imports keeps the earliest and the latest announced time of a destination
as long as every batch fits what is stored. Batches that do not fit are ones the
daemon can send: an older announce, or an announce sent again after a touch.
-/

namespace TelemetryHub

open Lib ServerM

/-- The earliest and the latest time stored for a destination. -/
def ServerWorld.announceTimes (destination : String) (w : ServerWorld) : Option (Int × Int) :=
  ((w.state.announceRows destination).bind List.head?).map (·.times)

/-- The stored times are the earliest of those seen and one not before the latest. -/
def Summarizes (seen : List Int) (times : Option (Int × Int)) : Prop :=
  match times with
  | none => seen = []
  | some (first, last) => first ∈ seen ∧ ∀ time ∈ seen, first ≤ time ∧ time ≤ last

/-- The latest time stored is not taken back. -/
def LastNotBefore (before after : Option (Int × Int)) : Prop :=
  ∀ times ∈ before, ∃ times' ∈ after, times.2 ≤ times'.2

/-- One call of the import. -/
structure ImportBatch where
  announces : List ReticulumdAnnounce
  touchUnchangedRecords : Bool

namespace ImportBatch

/-- The daemon's batches name valid peers only; one that does not is refused whole. -/
def accepted (batch : ImportBatch) : Bool := batch.announces.all (·.destination.isSome)

/-- The times a batch tells of a destination. -/
def timesOf (destination : String) (batch : ImportBatch) : List Int :=
  if batch.accepted then
    (batch.announces.filter fun announce => announce.destination == some destination).map (·.tsMs)
  else []

/-- The latest announces of a destination in the batch. -/
def latest (destination : String) (batch : ImportBatch) : List ReticulumdAnnounce :=
  batch.announces.filter (isLatestIn batch.announces destination)

variable [ServerHost]

/-- The state the call leaves, whatever it returns. -/
def run (batch : ImportBatch) (w : ServerWorld) : ServerWorld :=
  ((importReticulumdAnnounceBatch batch.announces batch.touchUnchangedRecords).run w).2

/-- The batch fits the record stored of the destination. A first announce names the
earliest time itself. Later ones are not before the first seen, one is not before
the last seen, and a touch is not either. -/
def Fits (destination : String) (batch : ImportBatch) (w : ServerWorld) : Prop :=
  batch.timesOf destination = [] ∨
    match (w.state.announceRows destination).bind List.head? with
    | none => ∃ announce ∈ (batch.latest destination).getLast?,
        announce.firstSeenMs ∈ batch.timesOf destination ∧
          ∀ time ∈ batch.timesOf destination, announce.firstSeenMs ≤ time
    | some record => (∀ time ∈ batch.timesOf destination, record.firstSeenTsMs ≤ time) ∧
        (∃ time ∈ batch.timesOf destination, record.lastSeenTsMs ≤ time) ∧
          (batch.touchUnchangedRecords = true →
            (∀ announce ∈ batch.latest destination, announce.isNewTo (some record) = false) →
              record.lastSeenTsMs ≤ (w.clock 0).timestampMillis)

end ImportBatch

section Batch

variable {destination : String} {batch : ImportBatch}

/-- The latest announces tell the latest time. -/
theorem mem_latest (haccepted : batch.accepted = true) {announce : ReticulumdAnnounce}
    (h : announce ∈ batch.latest destination) :
    announce.tsMs ∈ batch.timesOf destination ∧ ∀ time ∈ batch.timesOf destination, time ≤ announce.tsMs := by
  have hlatest := (List.mem_filter.1 h).2
  simp only [isLatestIn, Bool.and_eq_true, beq_iff_eq] at hlatest
  have hmax := List.max?_eq_some_iff.1 hlatest.2
  simp only [ImportBatch.timesOf, haccepted, if_true]
  exact hmax

theorem latest_eq_nil (haccepted : batch.accepted = true) :
    batch.latest destination = [] ↔ batch.timesOf destination = [] := by
  constructor
  · intro hnone
    by_contra htimes
    simp only [ImportBatch.timesOf, haccepted, if_true] at htimes
    obtain ⟨time, htime⟩ := Option.isSome_iff_exists.1 (List.isSome_max?_of_ne_nil htimes)
    obtain ⟨hmem, -⟩ := List.max?_eq_some_iff.1 htime
    obtain ⟨announce, hannounce, rfl⟩ := List.mem_map.1 hmem
    obtain ⟨hin, hdest⟩ := List.mem_filter.1 hannounce
    have hlatest : announce ∈ batch.latest destination := by
      apply List.mem_filter.2
      refine ⟨hin, ?_⟩
      simp only [isLatestIn, latestTsMs, htime, hdest, beq_self_eq_true, Bool.and_self]
    rw [hnone] at hlatest
    cases hlatest
  · intro htimes
    by_contra hsome
    obtain ⟨announce, hannounce⟩ := List.exists_mem_of_ne_nil _ hsome
    obtain ⟨hmem, -⟩ := mem_latest haccepted hannounce
    rw [htimes] at hmem
    cases hmem

/-- Nothing told, nothing to fit. -/
theorem unchanged_iff {seen : List Int} {times : Option (Int × Int)} (h : Summarizes seen times) :
    Summarizes (seen ++ []) times ∧ LastNotBefore times times := by
  rw [List.append_nil]
  exact ⟨h, fun times htimes => ⟨times, htimes, Int.le_refl _⟩⟩

/-- A first record. -/
theorem first_iff {first last : Int} {told : List Int} (hlatest : ∀ time ∈ told, time ≤ last) :
    (Summarizes ([] ++ told) (some (first, last)) ∧ LastNotBefore none (some (first, last))) ↔
      first ∈ told ∧ ∀ time ∈ told, first ≤ time := by
  constructor
  · rintro ⟨⟨hfirst, hbounds⟩, -⟩
    exact ⟨hfirst, fun time htime => (hbounds time htime).1⟩
  · rintro ⟨hfirst, hleast⟩
    refine ⟨⟨hfirst, ?_⟩, nofun⟩
    intro time htime
    exact ⟨hleast time htime, hlatest time htime⟩

/-- A record that is there keeps its first time and gets another last one. -/
theorem later_iff {first last last' latest : Int} {seen told : List Int}
    (h : Summarizes seen (some (first, last))) (hlatest : ∀ time ∈ told, time ≤ latest) (hreach : last ≤ last' → latest ≤ last') :
    (Summarizes (seen ++ told) (some (first, last')) ∧ LastNotBefore (some (first, last)) (some (first, last'))) ↔
      (∀ time ∈ told, first ≤ time) ∧ last ≤ last' := by
  obtain ⟨hfirst, hbounds⟩ := h
  constructor
  · rintro ⟨⟨-, hafter⟩, hlast⟩
    obtain ⟨times, htimes, hle⟩ := hlast (first, last) rfl
    cases htimes
    exact ⟨fun time htime => (hafter time (List.mem_append_right _ htime)).1, hle⟩
  · rintro ⟨hleast, hle⟩
    refine ⟨⟨List.mem_append_left _ hfirst, ?_⟩, ?_⟩
    · intro time htime
      rcases List.mem_append.1 htime with htime | htime
      · have hold := hbounds time htime
        exact ⟨hold.1, by omega⟩
      · have hnew := hlatest time htime
        have hlast := hreach hle
        exact ⟨hleast time htime, by omega⟩
    · rintro times ⟨⟩
      exact ⟨_, rfl, hle⟩

variable [ServerHost] {w : ServerWorld}

theorem latestThat_eq (new : Bool) (prior : Option IdentityAnnounceRecord) :
    latestThat new batch.announces destination prior batch.announces =
      (batch.latest destination).filter fun announce => announce.isNewTo prior == new := by
  unfold latestThat ImportBatch.latest
  rw [List.filter_filter]
  apply List.filter_congr
  intro announce _
  exact Bool.and_comm ..

/-- What a call does to the stored times. -/
theorem announceTimes_run {rows : List IdentityAnnounceRecord} (hrows : w.state.announceRows destination = some rows)
    (hone : rows.length ≤ 1) : (batch.run w).announceTimes destination =
      if batch.accepted then
        (writtenTimes destination rows.head? batch.announces batch.touchUnchangedRecords
          (w.clock 0).timestampMillis).or (rows.head?.map (·.times))
      else rows.head?.map (·.times) := by
  obtain ⟨rows', hrows', -, htimes⟩ := importBatch_rows hrows hone batch.announces batch.touchUnchangedRecords
  unfold ServerWorld.announceTimes ImportBatch.run
  rw [hrows']
  exact htimes

/-- The announces of an unknown destination all tell something new. -/
theorem first_fits (haccepted : batch.accepted = true) (htold : batch.timesOf destination ≠ []) (touchTsMs : Int) :
    (Summarizes ([] ++ batch.timesOf destination)
        (writtenTimes destination none batch.announces batch.touchUnchangedRecords touchTsMs) ∧
      LastNotBefore none
        (writtenTimes destination none batch.announces batch.touchUnchangedRecords touchTsMs)) ↔
    ∃ announce ∈ (batch.latest destination).getLast?, announce.firstSeenMs ∈ batch.timesOf destination ∧
      ∀ time ∈ batch.timesOf destination, announce.firstSeenMs ≤ time := by
  have hnew : (batch.latest destination).filter (fun announce => announce.isNewTo none == true) =
      batch.latest destination := by
    apply List.filter_eq_self.2
    intro announce _
    rfl
  have hlatest : batch.latest destination ≠ [] := fun hnil => htold ((latest_eq_nil haccepted).1 hnil)
  obtain ⟨announce, hlast⟩ := Option.isSome_iff_exists.1 (List.getLast?_isSome.2 hlatest)
  obtain ⟨-, hmax⟩ := mem_latest haccepted (List.mem_of_getLast? hlast)
  unfold writtenTimes
  rw [latestThat_eq, hnew, hlast]
  simp only [Option.map_none, Option.getD_none]
  rw [first_iff hmax]
  constructor
  · intro h
    exact ⟨announce, rfl, h⟩
  · rintro ⟨_, ⟨⟩, h⟩
    exact h

/-- The announces of a known destination leave its first time. -/
theorem later_fits {record : IdentityAnnounceRecord} {seen : List Int} (haccepted : batch.accepted = true)
    (htold : batch.timesOf destination ≠ []) (h : Summarizes seen (some record.times)) (touchTsMs : Int) :
    (Summarizes (seen ++ batch.timesOf destination)
        ((writtenTimes destination (some record) batch.announces batch.touchUnchangedRecords touchTsMs).or
          (some record.times)) ∧
      LastNotBefore (some record.times)
        ((writtenTimes destination (some record) batch.announces batch.touchUnchangedRecords touchTsMs).or
          (some record.times))) ↔
    (∀ time ∈ batch.timesOf destination, record.firstSeenTsMs ≤ time) ∧
      (∃ time ∈ batch.timesOf destination, record.lastSeenTsMs ≤ time) ∧
        (batch.touchUnchangedRecords = true →
          (∀ announce ∈ batch.latest destination, announce.isNewTo (some record) = false) →
            record.lastSeenTsMs ≤ touchTsMs) := by
  unfold writtenTimes
  rw [latestThat_eq, latestThat_eq]
  cases hlast : ((batch.latest destination).filter fun announce =>
      announce.isNewTo (some record) == true).getLast? with
  | some announce =>
    obtain ⟨hmem, hnew⟩ := List.mem_filter.1 (List.mem_of_getLast? hlast)
    obtain ⟨htime, hmax⟩ := mem_latest haccepted hmem
    have hreach : (∃ time ∈ batch.timesOf destination, record.lastSeenTsMs ≤ time) ↔
        record.lastSeenTsMs ≤ announce.tsMs := by
      constructor
      · rintro ⟨time, htime, hle⟩
        have hle' := hmax time htime
        omega
      · intro hle
        exact ⟨_, htime, hle⟩
    have htouch : ¬∀ announce ∈ batch.latest destination, announce.isNewTo (some record) = false := by
      intro hall
      rw [hall announce hmem] at hnew
      cases hnew
    have hiff := later_iff h hmax (fun _ => Int.le_refl announce.tsMs)
    rw [hreach]
    simp only [htouch, false_implies, implies_true, and_true]
    exact hiff
  | none =>
    rw [List.getLast?_eq_none_iff, List.filter_eq_nil_iff] at hlast
    have hold : ∀ announce ∈ batch.latest destination, announce.isNewTo (some record) = false := by
      intro announce hmem
      simpa using hlast announce hmem
    have hlatest : batch.latest destination ≠ [] := fun hnil => htold ((latest_eq_nil haccepted).1 hnil)
    obtain ⟨announce, hmem⟩ := List.exists_mem_of_ne_nil _ hlatest
    obtain ⟨htime, hmax⟩ := mem_latest haccepted hmem
    -- an announce that tells nothing new was last seen when it says
    have hsame : record.lastSeenTsMs = announce.tsMs := by
      have hannounce := hold announce hmem
      simp only [ReticulumdAnnounce.isNewTo, Option.all_some, Bool.or_eq_false_iff, bne_eq_false_iff_eq] at hannounce
      exact hannounce.1
    rw [← hsame] at htime hmax
    have hreach : ∃ time ∈ batch.timesOf destination, record.lastSeenTsMs ≤ time := ⟨_, htime, Int.le_refl _⟩
    have holds : (batch.latest destination).filter (fun announce => announce.isNewTo (some record) == false) ≠ [] := by
      intro hnil
      rw [List.filter_eq_nil_iff] at hnil
      exact hnil announce hmem (by simp [hold announce hmem])
    cases htouch : batch.touchUnchangedRecords with
    | true =>
      have hiff := later_iff h hmax (fun hle : record.lastSeenTsMs ≤ touchTsMs => hle)
      have hsettled : ((∀ announce ∈ batch.latest destination, announce.isNewTo (some record) = false) →
          record.lastSeenTsMs ≤ touchTsMs) ↔ record.lastSeenTsMs ≤ touchTsMs :=
        ⟨fun hall => hall hold, fun hle _ => hle⟩
      simp only [holds, ne_eq, not_false_eq_true, and_self, if_true, Option.map_some, Option.some_or, hreach, true_and,
        true_implies, hsettled]
      exact hiff
    | false =>
      have hiff := later_iff h hmax (fun hle : record.lastSeenTsMs ≤ record.lastSeenTsMs => hle)
      simp only [Int.le_refl, and_true] at hiff
      simp only [Bool.false_eq_true, false_and, if_false, Option.none_or, hreach, false_implies, and_true]
      exact hiff

/-- One call keeps the times in order exactly if its batch fits. -/
theorem run_iff_fits {rows : List IdentityAnnounceRecord} {seen : List Int}
    (hrows : w.state.announceRows destination = some rows) (hone : rows.length ≤ 1)
    (h : Summarizes seen (w.announceTimes destination)) :
    (Summarizes (seen ++ batch.timesOf destination) ((batch.run w).announceTimes destination) ∧
      LastNotBefore (w.announceTimes destination) ((batch.run w).announceTimes destination)) ↔
    batch.Fits destination w := by
  have hbefore : w.announceTimes destination = rows.head?.map (·.times) := by
    simp [ServerWorld.announceTimes, hrows]
  rw [hbefore] at h ⊢
  unfold ImportBatch.Fits
  rw [announceTimes_run hrows hone, hrows, Option.bind_some]
  by_cases haccepted : batch.accepted = true
  · rw [if_pos haccepted]
    by_cases htold : batch.timesOf destination = []
    · have hnone : writtenTimes destination rows.head? batch.announces batch.touchUnchangedRecords
          (w.clock 0).timestampMillis = none := by
        simp [writtenTimes, latestThat_eq, (latest_eq_nil haccepted).2 htold]
      rw [hnone, Option.none_or]
      rw [htold]
      exact iff_of_true (unchanged_iff h) (.inl rfl)
    · rw [or_iff_right htold]
      cases hrow : rows.head? with
      | none =>
        rw [hrow] at h
        obtain rfl : seen = [] := h
        rw [Option.map_none, Option.or_none]
        exact first_fits haccepted htold _
      | some record =>
        rw [hrow] at h
        exact later_fits haccepted htold h _
  · have htold : batch.timesOf destination = [] := by simp [ImportBatch.timesOf, haccepted]
    rw [if_neg haccepted, htold]
    exact iff_of_true (unchanged_iff h) (.inl rfl)

theorem run_rows {rows : List IdentityAnnounceRecord} (hrows : w.state.announceRows destination = some rows)
    (hone : rows.length ≤ 1) :
    ∃ rows', (batch.run w).state.announceRows destination = some rows' ∧ rows'.length ≤ 1 := by
  obtain ⟨rows', hrows', hone', -⟩ := importBatch_rows hrows hone batch.announces batch.touchUnchangedRecords
  exact ⟨rows', hrows', hone'⟩

end Batch

/-! ## Runs -/

section Runs

variable [ServerHost]

/-- The calls one after the other. -/
def importRun (batches : List ImportBatch) (w : ServerWorld) : ServerWorld :=
  batches.foldl (fun w batch => batch.run w) w

variable {destination : String} {w : ServerWorld}

theorem importRun_snoc (batches : List ImportBatch) (batch : ImportBatch) :
    importRun (batches ++ [batch]) w = batch.run (importRun batches w) := by
  simp [importRun]

theorem importRun_rows (batches : List ImportBatch) (hrows : w.state.announceRows destination = some []) :
    ∃ rows, (importRun batches w).state.announceRows destination = some rows ∧ rows.length ≤ 1 := by
  induction batches using List.reverseRecOn with
  | nil => exact ⟨[], hrows, Nat.zero_le 1⟩
  | append_singleton batches batch ih =>
    obtain ⟨rows, hrows, hone⟩ := ih
    rw [importRun_snoc]
    exact run_rows hrows hone

/-- After the calls so far one more call keeps the stored times those of the announces. -/
def KeepsTimes (destination : String) (w : ServerWorld) (before : List ImportBatch) (batch : ImportBatch) : Prop :=
  Summarizes ((before ++ [batch]).flatMap (·.timesOf destination))
      ((importRun (before ++ [batch]) w).announceTimes destination) ∧
    LastNotBefore ((importRun before w).announceTimes destination)
      ((importRun (before ++ [batch]) w).announceTimes destination)

theorem keepsTimes_iff {before : List ImportBatch} {batch : ImportBatch}
    (hrows : w.state.announceRows destination = some [])
    (h : Summarizes (before.flatMap (·.timesOf destination)) ((importRun before w).announceTimes destination)) :
    KeepsTimes destination w before batch ↔ batch.Fits destination (importRun before w) := by
  obtain ⟨rows, hrows, hone⟩ := importRun_rows before hrows
  unfold KeepsTimes
  rw [importRun_snoc, List.flatMap_append, List.flatMap_singleton]
  exact run_iff_fits hrows hone h

omit [ServerHost] in
theorem summarizes_nil (hrows : w.state.announceRows destination = some []) :
    Summarizes [] (w.announceTimes destination) := by
  unfold ServerWorld.announceTimes
  rw [hrows]
  rfl

/-- Over a run of imports, whichever way the announces are split and ordered, the
stored times are at every point those of the announces so far, and the last one is
never taken back, exactly if every batch of the run fits what is stored before it. -/
theorem imports_keep_times_iff {batches : List ImportBatch} (hrows : w.state.announceRows destination = some []) :
    (∀ before batch after, batches = before ++ batch :: after → KeepsTimes destination w before batch) ↔
      ∀ before batch after, batches = before ++ batch :: after → batch.Fits destination (importRun before w) := by
  constructor
  · intro hkeeps before batch after hsplit
    apply (keepsTimes_iff hrows ?_).1 (hkeeps before batch after hsplit)
    cases before using List.reverseRecOn with
    | nil => exact summarizes_nil hrows
    | append_singleton earlier last =>
      exact (hkeeps earlier last (batch :: after) (by rw [hsplit, List.append_assoc]; rfl)).1
  · intro hfits
    -- what is stored before a batch is right by induction on the batches before it
    have hsummarizes : ∀ before after, batches = before ++ after →
        Summarizes (before.flatMap (·.timesOf destination)) ((importRun before w).announceTimes destination) := by
      intro before
      induction before using List.reverseRecOn with
      | nil =>
        intro after _
        exact summarizes_nil hrows
      | append_singleton earlier last ih =>
        intro after hsplit
        have hsplit' : batches = earlier ++ last :: after := by rw [hsplit, List.append_assoc]; rfl
        exact ((keepsTimes_iff hrows (ih _ hsplit')).2 (hfits _ _ _ hsplit')).1
    intro before batch after hsplit
    exact (keepsTimes_iff hrows (hsummarizes before _ hsplit)).2 (hfits before batch after hsplit)

end Runs

/-! The daemon lists an announce it heard at ten seconds and then, in another batch,
one it heard at five. -/

/-- An announce heard at `seconds`. -/
def announceAt (seconds : Int) : ReticulumdAnnounce :=
  { id := "a", peer := "aa", timestamp := seconds, firstSeen := seconds }

/-- A server with an empty database. -/
def freshServer : ServerWorld := .atEpoch { sqlite := some {} }

/-- An import of one announce. -/
def importOf (seconds : Int) : ImportBatch := ⟨[announceAt seconds], false⟩

theorem announces_in_order_keep_times :
    letI := ServerHost.blank
    KeepsTimes "aa" freshServer [] (importOf 5) ∧ KeepsTimes "aa" freshServer [importOf 5] (importOf 10) := by
  let := ServerHost.blank
  have keep : ∀ before batch after, [importOf 5, importOf 10] = before ++ batch :: after →
      KeepsTimes "aa" freshServer before batch := by
    apply (imports_keep_times_iff (by decide +kernel)).2
    intro before batch after hsplit
    rcases before with _ | ⟨earlier, _ | ⟨another, rest⟩⟩
    · cases hsplit
      have hnone : freshServer.state.announceRows "aa" = some [] := by decide +kernel
      have hrun : importRun [] freshServer = freshServer := rfl
      unfold ImportBatch.Fits
      rw [hrun, hnone]
      right
      exact ⟨announceAt 5, rfl, by decide +kernel, by decide +kernel⟩
    · cases hsplit
      have htimes : (importRun [importOf 5] freshServer).announceTimes "aa" = some (5000, 5000) := by decide +kernel
      obtain ⟨record, hrecord, hrecordTimes⟩ := Option.map_eq_some_iff.1 htimes
      obtain ⟨hfirst, hlast⟩ := Prod.mk.inj hrecordTimes
      unfold ImportBatch.Fits
      rw [hrecord]
      refine .inr ⟨?_, ⟨10000, by decide +kernel, by omega⟩, nofun⟩
      have htold : (importOf 10).timesOf "aa" = [10000] := by decide +kernel
      rw [htold]
      intro time htime
      rw [List.mem_singleton.1 htime]
      omega
    · simp at hsplit
  exact ⟨keep [] (importOf 5) [importOf 10] rfl, keep [importOf 5] (importOf 10) [] rfl⟩

theorem older_announce_takes_time_back :
    letI := ServerHost.blank
    (importRun [importOf 10] freshServer).announceTimes "aa" = some (10000, 10000) ∧
      (importRun [importOf 10, importOf 5] freshServer).announceTimes "aa" = some (10000, 5000) ∧
      ¬KeepsTimes "aa" freshServer [importOf 10] (importOf 5) := by
  let := ServerHost.blank
  have hfirst : (importRun [importOf 10] freshServer).announceTimes "aa" = some (10000, 10000) := by decide +kernel
  have hsecond : (importRun [importOf 10, importOf 5] freshServer).announceTimes "aa" = some (10000, 5000) := by
    decide +kernel
  refine ⟨hfirst, hsecond, ?_⟩
  rintro ⟨-, hlast⟩
  obtain ⟨times, htimes, hle⟩ := hlast _ hfirst
  rw [List.cons_append, List.nil_append, hsecond] at htimes
  cases htimes
  exact absurd hle (by decide)

end TelemetryHub
