import TelemetryHub.Lib.Entries
import TelemetryHub.Runs.Commands

/-!
# The checklists and their tasks

A checklist carries the counts of its tasks, its progress and its status. Every method that
writes a task row counts the rows of the checklist anew before it returns; between the write
and the count nothing fails.
-/

namespace TelemetryHub

open Lib CoreM

/-! ## Counts -/

/-- `derive_task_status` at a reading of the clock. -/
def derivedStatusAt (now : Int) (userStatus : String) (dueTsMs completedTsMs : Option Int) : String × Bool :=
  if userStatus = "COMPLETE" then
    match dueTsMs, completedTsMs with
    | some due, some completed => if completed > due then ("COMPLETE_LATE", true) else ("COMPLETE", false)
    | _, _ => ("COMPLETE", false)
  else if dueTsMs.any fun due => now > due then ("LATE", true)
  else ("PENDING", false)

/-- The status of the task is the derived one at a reading of the clock. -/
def ChecklistTaskRecord.Derived (ticks : Int → Prop) (task : ChecklistTaskRecord) : Prop :=
  ∃ now, ticks now ∧
    (task.taskStatus, task.isLate) = derivedStatusAt now task.userStatus task.dueTsMs task.completedTsMs

/-- The status that a checklist of these tasks has. -/
def statusOfTasks (tasks : List ChecklistTaskRecord) : String :=
  checklistStatusOf (tasks.filter fun task => task.userStatus != "COMPLETE").length
    (tasks.filter fun task => task.taskStatus == "LATE").length
    (tasks.filter fun task => task.userStatus == "COMPLETE").length
    (tasks.any fun task => task.taskStatus == "COMPLETE_LATE")

/-- The checklist counts these tasks, whose statuses were derived at readings of the clock. -/
structure Tallied (ticks : Int → Prop) (tasks : List ChecklistTaskRecord) (checklist : ChecklistRecord) : Prop where
  derived : ∀ task ∈ tasks, task.Derived ticks
  total : checklist.pendingCount + checklist.completeCount = tasks.length
  complete : checklist.completeCount = (tasks.filter fun task => task.userStatus == "COMPLETE").length
  late : checklist.lateCount = (tasks.filter fun task => task.taskStatus == "LATE").length
  progress : checklist.progressPercent =
    progressPercent (tasks.filter fun task => task.userStatus == "COMPLETE").length tasks.length

/-- A derived status is late only of a task that is open, and complete late only of one that is done. -/
theorem ChecklistTaskRecord.Derived.status {ticks : Int → Prop} {task : ChecklistTaskRecord} (h : task.Derived ticks) :
    (task.userStatus = "COMPLETE" → task.taskStatus ≠ "LATE") ∧
      (task.userStatus ≠ "COMPLETE" → task.taskStatus ≠ "COMPLETE_LATE") := by
  obtain ⟨now, _, derived⟩ := h
  unfold derivedStatusAt at derived
  constructor
  · intro done
    rw [if_pos done] at derived
    split at derived
    · split at derived
      · rw [(Prod.mk.inj derived).1]
        decide
      · rw [(Prod.mk.inj derived).1]
        decide
    · rw [(Prod.mk.inj derived).1]
      decide
  · intro open_
    rw [if_neg open_] at derived
    split at derived
    · rw [(Prod.mk.inj derived).1]
      decide
    · rw [(Prod.mk.inj derived).1]
      decide

/-- What `recompute_checklist_status` writes counts the tasks. -/
theorem tallied_recounted {ticks : Int → Prop} {tasks : List ChecklistTaskRecord} (checklist : ChecklistRecord)
    (updatedTsMs : Int) (derived : ∀ task ∈ tasks, task.Derived ticks) :
    Tallied ticks tasks { checklist.recounted tasks with updatedTsMs } ∧
      (checklist.recounted tasks).checklistStatus = statusOfTasks tasks := by
  have late : ((tasks.filter fun task => task.userStatus != "COMPLETE").filter fun task => task.taskStatus == "LATE") =
      tasks.filter fun task => task.taskStatus == "LATE" := by
    rw [List.filter_filter]
    apply List.filter_congr
    intro task mem
    have status := (derived task mem).status.1
    by_cases done : task.userStatus = "COMPLETE"
    · simp [done, status done]
    · simp [done]
  have completeLate : ((tasks.filter fun task => task.userStatus == "COMPLETE").any fun task =>
      task.taskStatus == "COMPLETE_LATE") = tasks.any fun task => task.taskStatus == "COMPLETE_LATE" := by
    rw [Bool.eq_iff_iff, List.any_eq_true, List.any_eq_true]
    constructor
    · rintro ⟨task, mem, late⟩
      exact ⟨task, List.mem_of_mem_filter mem, late⟩
    · rintro ⟨task, mem, late⟩
      refine ⟨task, List.mem_filter.2 ⟨mem, ?_⟩, late⟩
      by_contra open_
      exact (derived task mem).status.2 (by simpa using open_) (by simpa using late)
  have split : (tasks.filter fun task => task.userStatus != "COMPLETE").length +
      (tasks.filter fun task => task.userStatus == "COMPLETE").length = tasks.length := by
    rw [tasks.length_eq_length_filter_add fun task => task.userStatus != "COMPLETE"]
    simp [bne]
  refine ⟨⟨derived, ?_, rfl, ?_, ?_⟩, ?_⟩
  · simp only [ChecklistRecord.recounted]
    omega
  · simp only [ChecklistRecord.recounted, late]
  · simp only [ChecklistRecord.recounted, split]
  · simp only [ChecklistRecord.recounted, statusOfTasks, late, completeLate]

/-! ## The tables -/

/-- The checklists and their tasks. -/
structure ChecklistTables where
  checklists : Dict String ChecklistRecord
  tasks : Dict String ChecklistTaskRecord

def RchCore.checklistTables (core : RchCore) : ChecklistTables := ⟨core.checklists, core.checklistTasks⟩

/-- The tasks of a checklist, in the order of the table. -/
def ChecklistTables.tasksOf (t : ChecklistTables) (uid : String) : List ChecklistTaskRecord :=
  t.tasks.values.filter fun task => task.checklistUid == uid

/-- The tasks are stored under their uids, and their checklists are there. -/
structure ChecklistTables.Sound (t : ChecklistTables) : Prop where
  keyed : ∀ uid task, t.tasks.get uid = some task → task.taskUid = uid
  owned : ∀ uid task, t.tasks.get uid = some task → t.checklists.contains task.checklistUid = true

/-- A checklist that is not there has no tasks. -/
theorem ChecklistTables.Sound.tasksOf_absent {t : ChecklistTables} (sound : t.Sound) {uid : String}
    (absent : t.checklists.get uid = none) : t.tasksOf uid = [] := by
  rw [ChecklistTables.tasksOf, List.filter_eq_nil_iff]
  intro task mem here
  obtain ⟨key, stored⟩ := Dict.mem_values.1 mem
  have known := sound.owned key task stored
  rw [beq_iff_eq.1 here, Dict.contains, absent] at known
  cases known

/-- The counts and the progress. -/
def ChecklistRecord.counts (checklist : ChecklistRecord) : Int × Int × Int × Float :=
  (checklist.pendingCount, checklist.lateCount, checklist.completeCount, checklist.progressPercent)

theorem Tallied.of_counts {ticks : Int → Prop} {tasks : List ChecklistTaskRecord} {old checklist : ChecklistRecord}
    (h : Tallied ticks tasks old) (same : checklist.counts = old.counts) : Tallied ticks tasks checklist := by
  simp only [ChecklistRecord.counts, Prod.mk.injEq] at same
  obtain ⟨pending, late, complete, progress⟩ := same
  exact ⟨h.derived, by rw [pending, complete, h.total], by rw [complete, h.complete], by rw [late, h.late],
    by rw [progress, h.progress]⟩

section

variable (ticks : Int → Prop) (patched : String → String → Prop)

/-- A checklist behind a step of the tables: its tasks are counted, or they and the counts are
the old ones. Its status goes with that, or was patched. -/
inductive ChecklistStep (t t' : ChecklistTables) (uid : String) (checklist : ChecklistRecord) : Prop
  | tallied (tally : Tallied ticks (t'.tasksOf uid) checklist)
      (status : checklist.checklistStatus = statusOfTasks (t'.tasksOf uid) ∨ patched uid checklist.checklistStatus)
  | kept (old : ChecklistRecord) (stored : t.checklists.get uid = some old) (tasks : t'.tasksOf uid = t.tasksOf uid)
      (counts : checklist.counts = old.counts)
      (status : checklist.checklistStatus = old.checklistStatus ∨ patched uid checklist.checklistStatus)

/-- A step of the tables. -/
structure ChecklistTables.Step (t t' : ChecklistTables) : Prop where
  sound : t'.Sound
  each : ∀ uid checklist, t'.checklists.get uid = some checklist → ChecklistStep ticks patched t t' uid checklist

variable {ticks patched} {t t' t'' : ChecklistTables}

theorem ChecklistTables.Step.refl (sound : t.Sound) : t.Step ticks patched t where
  sound
  each _ checklist stored := .kept checklist stored rfl rfl (.inl rfl)

theorem ChecklistTables.Step.trans (h : t.Step ticks patched t') (h' : t'.Step ticks patched t'') :
    t.Step ticks patched t'' where
  sound := h'.sound
  each uid checklist stored := by
    cases h'.each uid checklist stored with
    | tallied tally status => exact .tallied tally status
    | kept old stored' tasks counts status =>
      cases h.each uid old stored' with
      | tallied tally status' =>
        rw [← tasks] at tally status'
        refine .tallied (tally.of_counts counts) ?_
        rcases status with same | patch
        · rw [same]
          exact status'
        · exact .inr patch
      | kept older stored'' tasks' counts' status' =>
        refine .kept older stored'' (tasks.trans tasks') (counts.trans counts') ?_
        rcases status with same | patch
        · rw [same]
          exact status'
        · exact .inr patch

theorem ChecklistTables.Step.mono {ticks' : Int → Prop} {patched' : String → String → Prop}
    (h : t.Step ticks patched t') (moreTicks : ∀ now, ticks now → ticks' now)
    (morePatched : ∀ uid status, patched uid status → patched' uid status) : t.Step ticks' patched' t' where
  sound := h.sound
  each uid checklist stored := by
    cases h.each uid checklist stored with
    | tallied tally status =>
      refine .tallied { tally with derived := ?_ } (status.imp_right (morePatched _ _))
      intro task mem
      obtain ⟨now, tick, derived⟩ := tally.derived task mem
      exact ⟨now, moreTicks now tick, derived⟩
    | kept old stored' tasks counts status =>
      exact .kept old stored' tasks counts (status.imp_right (morePatched _ _))

end

/-! ## Methods on the tables -/

/-- A world seen as its tables, the clock reading `ticks` from here on. -/
def checklistsSeen (ticks : Int → Prop) : Proc.Observation World ChecklistTables where
  view w := w.core.checklistTables
  rest w := ∀ n, ticks (w.clock n).timestampMillis

section

variable {ticks : Int → Prop} {α β : Type}

theorem keeps_core : Proc.Keeps (checklistsSeen ticks) core := by
  rintro t w rfl clock
  exact ⟨rfl, clock⟩

theorem keeps_now : Proc.Keeps (checklistsSeen ticks) now := by
  rintro t w rfl clock
  exact ⟨rfl, fun n => clock (n + 1)⟩

theorem keeps_clock : Proc.Keeps (checklistsSeen ticks) utcNowMs := keeps_now.bind fun _ => .pure _

theorem keeps_clockText : Proc.Keeps (checklistsSeen ticks) utcNowRfc3339 := keeps_now.bind fun _ => .pure _

theorem keeps_draw : Proc.Keeps (checklistsSeen ticks) newUuid := by
  rintro t w rfl clock
  exact ⟨rfl, clock⟩

theorem keeps_orNewUuid (value : Option String) : Proc.Keeps (checklistsSeen ticks) (orNewUuid value) := by
  cases value with
  | some uid => exact .pure uid
  | none => exact keeps_draw

theorem keeps_check (x : Except RchCoreError α) : Proc.Keeps (checklistsSeen ticks) (liftM x : CoreM α) := by
  rintro t w rfl clock
  exact ⟨rfl, clock⟩

/-- A write to other tables. -/
theorem keeps_update {f : RchCore → RchCore} (other : ∀ core, (f core).checklistTables = core.checklistTables) :
    Proc.Keeps (checklistsSeen ticks) (update f) := by
  rintro t w rfl clock
  exact ⟨other w.core, clock⟩

variable {t : ChecklistTables} {Q : Except RchCoreError α → ChecklistTables → Prop}

/-- `self`, read where the tables are known. -/
theorem readTables {k : RchCore → CoreM α}
    (h : ∀ core, core.checklistTables = t → Proc.Spec (checklistsSeen ticks) (k core) t Q) :
    Proc.Spec (checklistsSeen ticks) (core >>= k) t Q := by
  intro w seen clock
  exact h w.core seen w seen clock

/-- The clock, read. -/
theorem readClock {k : Int → CoreM α} (h : ∀ now, ticks now → Proc.Spec (checklistsSeen ticks) (k now) t Q) :
    Proc.Spec (checklistsSeen ticks) (utcNowMs >>= k) t Q := by
  rintro w rfl clock
  exact h _ (clock 0) { w with clock := fun n => w.clock (n + 1) } rfl fun n => clock (n + 1)

theorem drawUid {k : String → CoreM α} (h : ∀ uid, Proc.Spec (checklistsSeen ticks) (k uid) t Q) :
    Proc.Spec (checklistsSeen ticks) (newUuid >>= k) t Q := by
  rintro w rfl clock
  exact h _ { w with draws := fun n => w.draws (n + 1) } rfl clock

/-- A write to the tables. -/
theorem writeTables {f : RchCore → RchCore} {g : ChecklistTables → ChecklistTables}
    (writes : ∀ core, (f core).checklistTables = g core.checklistTables) {k : Unit → CoreM α}
    (h : Proc.Spec (checklistsSeen ticks) (k ()) (g t) Q) : Proc.Spec (checklistsSeen ticks) (update f >>= k) t Q := by
  rintro w rfl clock
  exact h { w with core := f w.core } (writes w.core) clock

/-- A task written, and what follows it. -/
theorem writeTask {taskUid : String} {task : ChecklistTaskRecord} {k : Unit → CoreM α}
    (h : Proc.Spec (checklistsSeen ticks) (k ()) { t with tasks := t.tasks.insert taskUid task } Q) :
    Proc.Spec (checklistsSeen ticks) (update (fun core =>
      { core with checklistTasks := core.checklistTasks.insert taskUid task }) >>= k) t Q :=
  writeTables (g := fun t => { t with tasks := t.tasks.insert taskUid task }) (fun _ => rfl) h

theorem writeChecklist {uid : String} {checklist : ChecklistRecord} {k : Unit → CoreM α}
    (h : Proc.Spec (checklistsSeen ticks) (k ()) { t with checklists := t.checklists.insert uid checklist } Q) :
    Proc.Spec (checklistsSeen ticks) (update (fun core =>
      { core with checklists := core.checklists.insert uid checklist }) >>= k) t Q :=
  writeTables (g := fun t => { t with checklists := t.checklists.insert uid checklist }) (fun _ => rfl) h

/-- From sound tables the method goes a step, on either exit. -/
def Tables (ticks : Int → Prop) (patched : String → String → Prop) (m : CoreM α) : Prop :=
  ∀ t : ChecklistTables, t.Sound → Proc.Spec (checklistsSeen ticks) m t fun _ t' => t.Step ticks patched t'

variable {patched : String → String → Prop}

theorem Tables.keeps {m : CoreM α} (h : Proc.Keeps (checklistsSeen ticks) m) : Tables ticks patched m := by
  intro t sound
  refine (h t).mono ?_
  rintro _ t' rfl
  exact .refl sound

theorem Tables.bind {m : CoreM β} {k : β → CoreM α} (hm : Tables ticks patched m)
    (hk : ∀ b, Tables ticks patched (k b)) : Tables ticks patched (m >>= k) := by
  intro t sound
  refine Proc.Spec.bind (hm t sound) (fun b t' h => ?_) fun _ _ h => h
  exact (hk b t' h.sound).mono fun _ _ h' => h.trans h'

/-- After a method that leaves the tables as they are. -/
theorem Tables.after {m : CoreM β} {k : β → CoreM α} (hm : Proc.Keeps (checklistsSeen ticks) m)
    (hk : ∀ b, Tables ticks patched (k b)) : Tables ticks patched (m >>= k) := (Tables.keeps hm).bind hk

theorem Tables.pure (a : α) : Tables ticks patched (Pure.pure a : CoreM α) := .keeps (.pure a)

theorem Tables.throw (e : RchCoreError) : Tables ticks patched (MonadExcept.throw e : CoreM α) := .keeps (.throw e)

theorem Tables.ite {c : Prop} [Decidable c] {m m' : CoreM α} (hm : Tables ticks patched m)
    (hm' : Tables ticks patched m') : Tables ticks patched (if c then m else m') := by
  split
  · exact hm
  · exact hm'

/-- `if c { return Err(e) }` before the rest. -/
theorem Tables.guard {c : Prop} [Decidable c] {e : RchCoreError} {k : β → CoreM α} {m : CoreM α}
    (hm : Tables ticks patched m) : Tables ticks patched (if c then MonadExcept.throw e >>= k else m) :=
  .ite (.throw e) hm

theorem Tables.forM {items : List β} {body : β → CoreM PUnit} (h : ∀ b, Tables ticks patched (body b)) :
    Tables ticks patched (items.forM body) := by
  induction items with
  | nil => exact .pure _
  | cons b rest ih => exact (h b).bind fun _ => ih

end

/-! ## Counting anew -/

section

variable {ticks : Int → Prop}

/-- A task with its status derived anew. -/
def ChecklistTaskRecord.refreshedAt (now : Int) (task : ChecklistTaskRecord) : ChecklistTaskRecord :=
  { task with
    taskStatus := (derivedStatusAt now task.userStatus task.dueTsMs task.completedTsMs).1
    isLate := (derivedStatusAt now task.userStatus task.dueTsMs task.completedTsMs).2 }

theorem ChecklistTaskRecord.refreshedAt_derived {now : Int} (tick : ticks now) (task : ChecklistTaskRecord) :
    (task.refreshedAt now).Derived ticks := ⟨now, tick, rfl⟩

theorem deriveTaskStatus_tables (userStatus : String) (dueTsMs completedTsMs : Option Int) (t : ChecklistTables) :
    Proc.Spec (checklistsSeen ticks) (deriveTaskStatus userStatus dueTsMs completedTsMs) t fun r t' =>
      t' = t ∧ ∃ now, ticks now ∧ r = .ok (derivedStatusAt now userStatus dueTsMs completedTsMs) := by
  rintro w rfl clock
  have answered : ∀ status, derivedStatusAt (w.clock 0).timestampMillis userStatus dueTsMs completedTsMs = status →
      ∃ now, ticks now ∧ (.ok status : Except RchCoreError (String × Bool)) =
        .ok (derivedStatusAt now userStatus dueTsMs completedTsMs) := by
    rintro status rfl
    exact ⟨_, clock 0, rfl⟩
  unfold deriveTaskStatus
  by_cases done : userStatus = "COMPLETE"
  · rw [if_pos done]
    cases dueTsMs with
    | none => exact ⟨⟨rfl, answered _ (by simp [derivedStatusAt, done])⟩, clock⟩
    | some due =>
      cases completedTsMs with
      | none => exact ⟨⟨rfl, answered _ (by simp [derivedStatusAt, done])⟩, clock⟩
      | some completed =>
        dsimp only
        split
        · next late => exact ⟨⟨rfl, answered _ (by simp [derivedStatusAt, done, late])⟩, clock⟩
        · next late => exact ⟨⟨rfl, answered _ (by simp [derivedStatusAt, done, late])⟩, clock⟩
  · rw [if_neg done]
    cases dueTsMs with
    | none => exact ⟨⟨rfl, answered _ (by simp [derivedStatusAt, done])⟩, clock⟩
    | some due =>
      have later : ∀ n, ticks (w.clock (n + 1)).timestampMillis := fun n => clock (n + 1)
      dsimp only
      by_cases late : (w.clock 0).timestampMillis > due
      · have run : ((do if (← utcNowMs) > due then return ("LATE", true) else return ("PENDING", false)) :
            CoreM (String × Bool)).run w = (.ok ("LATE", true), { w with clock := fun n => w.clock (n + 1) }) := by
          simp [utcNowMs, Proc.run_bind, late]
        rw [run]
        exact ⟨⟨rfl, answered _ (by simp [derivedStatusAt, done, late])⟩, later⟩
      · have run : ((do if (← utcNowMs) > due then return ("LATE", true) else return ("PENDING", false)) :
            CoreM (String × Bool)).run w = (.ok ("PENDING", false), { w with clock := fun n => w.clock (n + 1) }) := by
          simp [utcNowMs, Proc.run_bind, late]
        rw [run]
        exact ⟨⟨rfl, answered _ (by simp [derivedStatusAt, done, late])⟩, later⟩

theorem refreshTaskStatus_tables {t : ChecklistTables} {taskUid : String} {task : ChecklistTaskRecord}
    (stored : t.tasks.get taskUid = some task) :
    Proc.Spec (checklistsSeen ticks) (refreshTaskStatus taskUid) t fun r t' =>
      ∃ now, ticks now ∧ r = .ok (task.refreshedAt now) ∧
        t' = { t with tasks := t.tasks.insert taskUid (task.refreshedAt now) } := by
  unfold refreshTaskStatus
  refine readTables fun core seen => ?_
  subst seen
  refine Proc.Spec.found stored ?_
  refine Proc.Spec.bind (deriveTaskStatus_tables _ _ _ _) ?_ ?_
  · rintro status t' ⟨rfl, now, tick, derived⟩
    obtain rfl := Except.ok.inj derived
    exact writeTables (g := fun t => { t with tasks := t.tasks.insert taskUid (task.refreshedAt now) }) (fun _ => rfl)
      (Proc.Spec.pure ⟨now, tick, rfl, rfl⟩)
  · rintro e t' ⟨-, now, -, failed⟩
    cases failed

/-- An entry behind the loop over the tasks of a checklist. -/
def RefreshedEntry (ticks : Int → Prop) (checklistUid : String) (e e' : String × ChecklistTaskRecord) : Prop :=
  e'.1 = e.1 ∧ (e.2.checklistUid = checklistUid ∧ (∃ now, ticks now ∧ e'.2 = e.2.refreshedAt now) ∨
    e.2.checklistUid ≠ checklistUid ∧ e'.2 = e.2)

/-- The tasks of a checklist among entries. -/
def tasksAmong (checklistUid : String) (entries : List (String × ChecklistTaskRecord)) : List ChecklistTaskRecord :=
  (entries.map Prod.snd).filter fun task => task.checklistUid == checklistUid

/-- The loop refreshes the tasks of the checklist where they stand. The induction is on the
entries still to come. -/
theorem refreshLoop_tables {checklistUid : String} {rest : List (String × ChecklistTaskRecord)} :
    ∀ {front : List (String × ChecklistTaskRecord)} {t : ChecklistTables}, t.tasks.toPairs = front ++ rest →
      (∀ e ∈ rest, e.2.taskUid = e.1) →
      Proc.Spec (checklistsSeen ticks) (((tasksAmong checklistUid rest).map ChecklistTaskRecord.taskUid).mapM
        refreshTaskStatus) t fun r t' =>
          t'.checklists = t.checklists ∧ ∃ rest', t'.tasks.toPairs = front ++ rest' ∧
            List.Forall₂ (RefreshedEntry ticks checklistUid) rest rest' ∧ r = .ok (tasksAmong checklistUid rest') := by
  induction rest with
  | nil =>
    intro front t entries _
    exact Proc.Spec.pure ⟨rfl, [], entries, .nil, rfl⟩
  | cons e rest ih =>
    intro front t entries keyed
    obtain ⟨key, here⟩ := List.forall_mem_cons.1 keyed
    have stored : t.tasks.get e.1 = some e.2 := Dict.mem_toPairs.1 (by simp [entries])
    by_cases owner : e.2.checklistUid = checklistUid
    · have first : tasksAmong checklistUid (e :: rest) = e.2 :: tasksAmong checklistUid rest := by
        simp [tasksAmong, owner]
      rw [first, List.map_cons, List.mapM_cons, key]
      refine Proc.Spec.bind (refreshTaskStatus_tables stored) ?_ ?_
      · rintro task t' ⟨now, tick, done, rfl⟩
        obtain rfl := Except.ok.inj done
        have entries' : (t.tasks.insert e.1 (e.2.refreshedAt now)).toPairs =
            (front ++ [(e.1, e.2.refreshedAt now)]) ++ rest := by
          rw [Dict.toPairs_insert_present entries, List.append_assoc]
          rfl
        refine Proc.Spec.bind (ih entries' here) ?_ ?_
        · rintro tasks t'' ⟨checklists, rest', after, refreshed, done⟩
          obtain rfl := Except.ok.inj done
          refine Proc.Spec.pure ⟨checklists, (e.1, e.2.refreshedAt now) :: rest', ?_, ?_, ?_⟩
          · rw [after, List.append_assoc]
            rfl
          · exact .cons ⟨rfl, .inl ⟨owner, now, tick, rfl⟩⟩ refreshed
          · have owner' : (e.2.refreshedAt now).checklistUid = checklistUid := owner
            simp [tasksAmong, owner']
        · rintro e' t'' ⟨-, rest', -, -, failed⟩
          cases failed
      · rintro e' t' ⟨now, -, failed, -⟩
        cases failed
    · have first : tasksAmong checklistUid (e :: rest) = tasksAmong checklistUid rest := by
        simp [tasksAmong, owner]
      rw [first]
      have entries' : t.tasks.toPairs = (front ++ [e]) ++ rest := by
        rw [entries, List.append_assoc]
        rfl
      refine (ih entries' here).mono ?_
      rintro r t' ⟨checklists, rest', after, refreshed, done⟩
      refine ⟨checklists, e :: rest', ?_, .cons ⟨rfl, .inr ⟨owner, rfl⟩⟩ refreshed, ?_⟩
      · rw [after, List.append_assoc]
        rfl
      · rw [done]
        simp [tasksAmong, owner]

theorem tasksOf_eq_tasksAmong (t : ChecklistTables) (uid : String) : t.tasksOf uid = tasksAmong uid t.tasks.toPairs := by
  rw [ChecklistTables.tasksOf, Dict.values_eq_map_toPairs, tasksAmong]

section

variable {checklistUid : String} {entries entries' : List (String × ChecklistTaskRecord)}
  (h : List.Forall₂ (RefreshedEntry ticks checklistUid) entries entries')

include h

theorem refreshed_derived : ∀ task ∈ tasksAmong checklistUid entries', task.Derived ticks := by
  induction h with
  | nil =>
    intro task mem
    simp [tasksAmong] at mem
  | @cons e e' rest rest' first _ ih =>
    intro task mem
    rw [tasksAmong, List.map_cons, List.filter_cons] at mem
    obtain ⟨-, ⟨-, now, tick, same⟩ | ⟨other, same⟩⟩ := first
    · split at mem
      · rcases List.mem_cons.1 mem with rfl | mem
        · rw [same]
          exact ChecklistTaskRecord.refreshedAt_derived tick _
        · exact ih task mem
      · exact ih task mem
    · rw [same, if_neg (by simpa using other)] at mem
      exact ih task mem

theorem refreshed_others {other : String} (ne : other ≠ checklistUid) :
    tasksAmong other entries' = tasksAmong other entries := by
  induction h with
  | nil => rfl
  | @cons e e' rest rest' first _ ih =>
    have cons : ∀ (e : String × ChecklistTaskRecord) rest, tasksAmong other (e :: rest) =
        (if e.2.checklistUid = other then [e.2] else []) ++ tasksAmong other rest := by
      intro e rest
      by_cases here : e.2.checklistUid = other
      · simp [tasksAmong, here]
      · simp [tasksAmong, here]
    rw [cons e' rest', cons e rest, ih]
    obtain ⟨-, ⟨owner, now, tick, same⟩ | ⟨-, same⟩⟩ := first
    · have owner' : e'.2.checklistUid = checklistUid := by
        rw [same]
        exact owner
      rw [owner, owner', if_neg (Ne.symm ne), if_neg (Ne.symm ne)]
    · rw [same]

/-- Each entry has the key, the task's uid and the checklist of one that was there. -/
theorem refreshed_source : ∀ e' ∈ entries', ∃ e ∈ entries, e'.1 = e.1 ∧ e'.2.taskUid = e.2.taskUid ∧
    e'.2.checklistUid = e.2.checklistUid := by
  induction h with
  | nil =>
    intro e mem
    cases mem
  | @cons e e' rest rest' first _ ih =>
    intro e'' mem
    rcases List.mem_cons.1 mem with rfl | mem
    · obtain ⟨key, ⟨-, now, -, same⟩ | ⟨-, same⟩⟩ := first
      · exact ⟨e, List.mem_cons_self, key, by rw [same]; rfl, by rw [same]; rfl⟩
      · exact ⟨e, List.mem_cons_self, key, by rw [same], by rw [same]⟩
    · obtain ⟨e, mem, source⟩ := ih e'' mem
      exact ⟨e, List.mem_cons_of_mem _ mem, source⟩

end

/-- The checklist is stored and counts its tasks, and its status is theirs. -/
structure CountSettled (ticks : Int → Prop) (t : ChecklistTables) (uid : String) (checklist : ChecklistRecord) : Prop where
  stored : t.checklists.get uid = some checklist
  tally : Tallied ticks (t.tasksOf uid) checklist
  status : checklist.checklistStatus = statusOfTasks (t.tasksOf uid)

theorem recomputeChecklistStatus_tables {t : ChecklistTables} (sound : t.Sound) {checklistUid : String}
    (known : t.checklists.contains checklistUid = true) :
    Proc.Spec (checklistsSeen ticks) (recomputeChecklistStatus checklistUid) t fun r t' =>
      ∃ checklist, r = .ok checklist ∧ CountSettled ticks t' checklistUid checklist ∧ t'.Sound ∧
        ∀ other, other ≠ checklistUid → t'.checklists.get other = t.checklists.get other ∧
          t'.tasksOf other = t.tasksOf other := by
  unfold recomputeChecklistStatus
  refine readTables fun core seen => ?_
  have uids : checklistTaskUids core checklistUid =
      (tasksAmong checklistUid t.tasks.toPairs).map ChecklistTaskRecord.taskUid := by
    subst seen
    rw [← tasksOf_eq_tasksAmong]
    rfl
  rw [uids]
  have keyed : ∀ e ∈ t.tasks.toPairs, e.2.taskUid = e.1 := fun e mem => sound.keyed e.1 e.2 (Dict.mem_toPairs.1 mem)
  have whole : t.tasks.toPairs = [] ++ t.tasks.toPairs := rfl
  refine Proc.Spec.bind (refreshLoop_tables whole keyed) ?_ ?_
  · rintro tasks t' ⟨checklists, entries', after, refreshed, done⟩
    obtain rfl := Except.ok.inj done
    rw [List.nil_append] at after
    refine readTables fun core' seen' => ?_
    obtain ⟨old, stored⟩ := Dict.contains_iff.1 known
    have stored' : core'.checklists.get checklistUid = some old := by
      have same : core'.checklists = t.checklists := by rw [← checklists, ← seen']; rfl
      rw [same, stored]
    refine Proc.Spec.found stored' ?_
    refine readClock fun updatedTsMs _ => ?_
    refine writeTables (g := fun t => { t with
      checklists := t.checklists.insert checklistUid
        { old.recounted (tasksAmong checklistUid entries') with updatedTsMs } }) (fun _ => rfl) ?_
    obtain ⟨tally, status⟩ := tallied_recounted old updatedTsMs (refreshed_derived refreshed)
    have counted (checklists : Dict String ChecklistRecord) (uid : String) :
        ({ t' with checklists } : ChecklistTables).tasksOf uid = tasksAmong uid entries' := by
      rw [tasksOf_eq_tasksAmong]
      show tasksAmong uid t'.tasks.toPairs = _
      rw [after]
    have source : ∀ uid task, t'.tasks.get uid = some task → ∃ task', t.tasks.get uid = some task' ∧
        task.taskUid = task'.taskUid ∧ task.checklistUid = task'.checklistUid := by
      intro uid task stored
      obtain ⟨e, mem, key, same, owner⟩ := refreshed_source refreshed (uid, task) (after ▸ Dict.mem_toPairs.2 stored)
      have here : uid = e.1 := key
      rw [here]
      exact ⟨e.2, Dict.mem_toPairs.1 mem, same, owner⟩
    refine Proc.Spec.pure ⟨_, rfl, ⟨Dict.get_insert_self _ _ _, ?_, ?_⟩, ⟨?_, ?_⟩, ?_⟩
    · rw [counted]
      exact tally
    · rw [counted]
      exact status
    · intro uid task stored
      obtain ⟨task', stored', same, -⟩ := source uid task stored
      exact same.trans (sound.keyed uid task' stored')
    · intro uid task stored
      obtain ⟨task', stored', -, owner⟩ := source uid task stored
      rw [owner]
      refine Dict.contains_insert.2 (.inr ?_)
      rw [checklists]
      exact sound.owned uid task' stored'
    · intro other ne
      refine ⟨?_, ?_⟩
      · show (t'.checklists.insert _ _).get other = _
        rw [Dict.get_insert_ne ne, checklists]
      · rw [counted, refreshed_others refreshed ne, tasksOf_eq_tasksAmong]
  · rintro e t' ⟨-, entries', -, -, failed⟩
    cases failed

/-! ## Task rows -/

variable {patched : String → String → Prop}

/-- A row method goes a step of the tables, and counts the tasks before it returns. -/
def RowDone (ticks : Int → Prop) (patched : String → String → Prop) (t : ChecklistTables) (uid : String)
    (r : Except RchCoreError ChecklistRecord) (t' : ChecklistTables) : Prop :=
  t.Step ticks patched t' ∧ ∀ checklist, r = .ok checklist → CountSettled ticks t' uid checklist

theorem RowDone.refused {t : ChecklistTables} (sound : t.Sound) {uid : String} {e : RchCoreError} :
    RowDone ticks patched t uid (.error e) t :=
  ⟨.refl sound, fun _ h => absurd h error_ne_ok⟩

/-- Tables in which the rows of one checklist are written and not counted yet. -/
structure RowsWritten (t t' : ChecklistTables) (uid : String) : Prop where
  sound : t'.Sound
  checklists : t'.checklists = t.checklists
  others : ∀ other, other ≠ uid → t'.tasksOf other = t.tasksOf other

theorem RowsWritten.refl {t : ChecklistTables} (sound : t.Sound) (uid : String) : RowsWritten t t uid :=
  ⟨sound, rfl, fun _ _ => rfl⟩

/-- The count behind the write of a row. -/
theorem RowsWritten.recompute {t t' : ChecklistTables} {uid : String} (h : RowsWritten t t' uid)
    (known : t.checklists.contains uid = true) :
    Proc.Spec (checklistsSeen ticks) (recomputeChecklistStatus uid) t' (RowDone ticks patched t uid) := by
  refine (recomputeChecklistStatus_tables h.sound (by rw [h.checklists]; exact known)).mono ?_
  rintro r t'' ⟨checklist, rfl, settled, sound, others⟩
  refine ⟨⟨sound, ?_⟩, ?_⟩
  · intro uid' checklist' stored
    by_cases here : uid' = uid
    · subst here
      obtain rfl := Option.some.inj (settled.stored.symm.trans stored)
      exact .tallied settled.tally (.inl settled.status)
    · obtain ⟨same, tasks⟩ := others uid' here
      refine .kept checklist' ?_ (tasks.trans (h.others uid' here)) rfl (.inl rfl)
      rw [← h.checklists, ← same, stored]
  · rintro checklist' ⟨⟩
    exact settled

theorem recomputeChecklistStatus_step (checklistUid : String) :
    Tables ticks patched (recomputeChecklistStatus checklistUid) := by
  intro t sound
  cases present : t.checklists.contains checklistUid with
  | true => exact ((RowsWritten.refl sound checklistUid).recompute present).mono fun _ _ h => h.1
  | false =>
    have absent := Dict.contains_eq_false.1 present
    unfold recomputeChecklistStatus
    refine readTables fun core seen => ?_
    subst seen
    have none : checklistTaskUids core checklistUid = [] := congrArg (List.map _) (sound.tasksOf_absent absent)
    rw [none, List.mapM_nil, pure_bind]
    refine readTables fun core' seen' => ?_
    have absent' : core'.checklists.get checklistUid = Option.none := by
      show core'.checklistTables.checklists.get checklistUid = _
      rw [seen', absent]
    rw [absent']
    exact Proc.Spec.throw (.refl sound)

/-- A task written over one of its checklist, or where there is none. -/
theorem ChecklistTables.Sound.putTask {t : ChecklistTables} (sound : t.Sound) {uid : String} {task : ChecklistTaskRecord}
    (key : task.taskUid = uid) (known : t.checklists.contains task.checklistUid = true)
    (replaced : ∀ old, t.tasks.get uid = some old → old.checklistUid = task.checklistUid) :
    RowsWritten t { t with tasks := t.tasks.insert uid task } task.checklistUid where
  sound := by
    constructor
    · intro uid' task' stored
      have stored : (t.tasks.insert uid task).get uid' = some task' := stored
      rw [Dict.get_insert] at stored
      split at stored
      · next here =>
        obtain rfl := Option.some.inj stored
        rw [key, here]
      · exact sound.keyed uid' task' stored
    · intro uid' task' stored
      have stored : (t.tasks.insert uid task).get uid' = some task' := stored
      rw [Dict.get_insert] at stored
      split at stored
      · obtain rfl := Option.some.inj stored
        exact known
      · exact sound.owned uid' task' stored
  checklists := rfl
  others other ne := by
    apply Dict.filter_values_insert
    · simpa using Ne.symm ne
    · intro old stored
      rw [replaced old stored]
      simpa using Ne.symm ne

theorem checklistTaskOf_tables {checklistUid taskUid : String} (t : ChecklistTables) :
    Proc.Spec (checklistsSeen ticks) (checklistTaskOf checklistUid taskUid) t fun r t' => t' = t ∧
      ∀ task, r = .ok task → t.checklists.contains checklistUid = true ∧
        t.tasks.get taskUid = some task ∧ task.checklistUid = checklistUid := by
  unfold checklistTaskOf
  refine readTables fun core seen => ?_
  subst seen
  refine Proc.Spec.guard (fun _ => ⟨rfl, fun _ h => absurd h error_ne_ok⟩) fun present => ?_
  refine readTables fun core' seen => ?_
  unfold Proc.orThrow
  cases found : (core'.checklistTasks.get taskUid).filter fun task => task.checklistUid == checklistUid with
  | none => exact Proc.Spec.throw ⟨rfl, fun _ h => absurd h error_ne_ok⟩
  | some task =>
    obtain ⟨stored, owner⟩ := Option.filter_eq_some_iff.1 found
    refine Proc.Spec.pure ⟨rfl, ?_⟩
    rintro _ ⟨⟩
    have known : core.checklists.contains checklistUid = true := by simpa using present
    refine ⟨known, ?_, by simpa using owner⟩
    rw [← seen]
    exact stored

/-- A method on a row that is there. -/
theorem onRow_tables {checklistUid taskUid : String} {k : ChecklistTaskRecord → CoreM ChecklistRecord}
    {t : ChecklistTables} (sound : t.Sound)
    (hk : ∀ task, t.checklists.contains checklistUid = true → t.tasks.get taskUid = some task →
      task.checklistUid = checklistUid →
        Proc.Spec (checklistsSeen ticks) (k task) t (RowDone ticks patched t checklistUid)) :
    Proc.Spec (checklistsSeen ticks) (checklistTaskOf checklistUid taskUid >>= k) t
      (RowDone ticks patched t checklistUid) := by
  refine Proc.Spec.bind (checklistTaskOf_tables t) ?_ ?_
  · rintro task t' ⟨rfl, found⟩
    obtain ⟨known, stored, owner⟩ := found task rfl
    exact hk task known stored owner
  · rintro e t' ⟨rfl, -⟩
    exact .refused sound

section

variable [Host] {t : ChecklistTables} {checklistUid : String}

omit [Host] in
theorem insertEmptyCells_tables (taskUid : String) (now : Int) (columns : List ChecklistColumnRecord) :
    Proc.Spec (checklistsSeen ticks) (insertEmptyCells taskUid now columns) t fun r t' => r = .ok () ∧ t' = t := by
  induction columns with
  | nil => exact Proc.Spec.pure ⟨rfl, rfl⟩
  | cons column rest ih =>
    unfold insertEmptyCells
    refine drawUid fun _ => writeTables (g := id) (fun _ => ?_) ih
    rfl

theorem putChecklistTask_tables (sound : t.Sound) (known : t.checklists.contains checklistUid = true)
    (taskUid : String) (times : TaskRowTimes) (args : Value) (now : Int) :
    Proc.Spec (checklistsSeen ticks) (putChecklistTask checklistUid taskUid times args now) t fun r t' =>
      (∃ e, r = .error e ∧ t' = t) ∨ r = .ok () ∧ RowsWritten t t' checklistUid := by
  unfold putChecklistTask
  refine readTables fun core seen => ?_
  subst seen
  split
  · next existing stored =>
    refine Proc.Spec.guard (fun _ => .inl ⟨_, rfl, rfl⟩) fun owner => ?_
    have owner : existing.checklistUid = checklistUid := by simpa using owner
    subst owner
    have key : existing.taskUid = taskUid := sound.keyed taskUid existing stored
    rw [← bind_pure (update _)]
    refine writeTask (Proc.Spec.pure (.inr ⟨rfl, sound.putTask key known ?_⟩))
    intro old stored'
    obtain rfl := Option.some.inj (stored.symm.trans stored')
    rfl
  · next absent =>
    unfold insertChecklistTask
    refine Proc.Spec.bind (deriveTaskStatus_tables _ _ _ _) ?_ ?_
    · rintro ⟨taskStatus, isLate⟩ t' ⟨rfl, -⟩
      dsimp only
      refine writeTask (readTables fun core' _ => ?_)
      refine (insertEmptyCells_tables _ _ _).mono ?_
      rintro r t'' ⟨rfl, rfl⟩
      refine .inr ⟨rfl, sound.putTask rfl known ?_⟩
      intro old stored
      have absent : core.checklistTasks.get taskUid = none := absent
      exact absurd (absent.symm.trans stored) nofun
    · rintro e t' ⟨-, now, -, failed⟩
      cases failed

theorem addChecklistTaskRow_tables (sound : t.Sound) (args : Value) :
    Proc.Spec (checklistsSeen ticks) (addChecklistTaskRow checklistUid args) t
      (RowDone ticks patched t checklistUid) := by
  unfold addChecklistTaskRow
  refine readTables fun core seen => ?_
  subst seen
  refine Proc.Spec.require (fun checklist stored => ?_) fun _ => .refused sound
  have known : core.checklistTables.checklists.contains checklistUid = true := Dict.contains_iff.2 ⟨checklist, stored⟩
  refine Proc.Spec.check (fun times _ => ?_) fun _ _ => .refused sound
  refine readClock fun now _ => ?_
  refine Proc.Spec.after (keeps_orNewUuid _) (fun taskUid => ?_) fun _ => .refused sound
  refine Proc.Spec.bind (putChecklistTask_tables sound known taskUid times args now) ?_ ?_
  · rintro _ t' (⟨e, failed, -⟩ | ⟨-, written⟩)
    · cases failed
    · exact written.recompute known
  · rintro e t' (⟨-, -, rfl⟩ | ⟨failed, -⟩)
    · exact .refused sound
    · cases failed

omit [Host] in
theorem deleteChecklistTaskRow_tables (sound : t.Sound) (taskUid : String) :
    Proc.Spec (checklistsSeen ticks) (deleteChecklistTaskRow checklistUid taskUid) t
      (RowDone ticks patched t checklistUid) := by
  unfold deleteChecklistTaskRow
  refine onRow_tables sound fun task known stored owner => ?_
  refine writeTables (g := fun t => { t with tasks := t.tasks.remove taskUid }) (fun _ => rfl) ?_
  apply RowsWritten.recompute _ known
  have kept : ∀ uid task, (t.tasks.remove taskUid).get uid = some task → t.tasks.get uid = some task := by
    intro uid task stored
    rw [Dict.get_remove] at stored
    split at stored
    · cases stored
    · exact stored
  refine ⟨⟨?_, ?_⟩, rfl, ?_⟩
  · intro uid task stored
    exact sound.keyed uid task (kept uid task stored)
  · intro uid task stored
    exact sound.owned uid task (kept uid task stored)
  · intro other ne
    apply Dict.filter_values_remove
    intro old stored'
    obtain rfl := Option.some.inj (stored.symm.trans stored')
    rw [owner]
    simpa using Ne.symm ne

theorem setChecklistTaskRowStyle_tables (sound : t.Sound) (taskUid : String) (args : Value) :
    Proc.Spec (checklistsSeen ticks) (setChecklistTaskRowStyle checklistUid taskUid args) t
      (RowDone ticks patched t checklistUid) := by
  unfold setChecklistTaskRowStyle
  refine onRow_tables sound fun task known stored owner => ?_
  subst owner
  refine readClock fun updatedTsMs _ => ?_
  have key : task.taskUid = taskUid := sound.keyed taskUid task stored
  refine writeTask (RowsWritten.recompute (sound.putTask key known ?_) known)
  intro old stored'
  obtain rfl := Option.some.inj (stored.symm.trans stored')
  rfl

theorem setChecklistTaskCell_tables (sound : t.Sound) (taskUid columnUid : String) (args : Value) :
    Proc.Spec (checklistsSeen ticks) (setChecklistTaskCell checklistUid taskUid columnUid args) t
      (RowDone ticks patched t checklistUid) := by
  unfold setChecklistTaskCell
  refine onRow_tables sound fun task known _ _ => ?_
  refine readTables fun core seen => ?_
  refine Proc.Spec.guard (fun _ => .refused sound) fun _ => ?_
  refine readClock fun now _ => ?_
  refine readTables fun core' _ => ?_
  refine Proc.Spec.after (keeps_orNewUuid _) (fun cellUid => ?_) fun _ => .refused sound
  refine Proc.Spec.after (keeps_update fun _ => rfl) (fun _ => ?_) fun _ => .refused sound
  exact (RowsWritten.refl sound checklistUid).recompute known

theorem setChecklistTaskStatus_tables (sound : t.Sound) (taskUid : String) (args : Value) :
    Proc.Spec (checklistsSeen ticks) (setChecklistTaskStatus checklistUid taskUid args) t
      (RowDone ticks patched t checklistUid) := by
  unfold setChecklistTaskStatus
  refine onRow_tables sound fun task known stored owner => ?_
  subst owner
  have key : task.taskUid = taskUid := sound.keyed taskUid task stored
  refine Proc.Spec.check (fun userStatus _ => ?_) fun _ _ => .refused sound
  refine readClock fun now _ => ?_
  refine Proc.Spec.bind (deriveTaskStatus_tables _ _ _ _) ?_ ?_
  · rintro ⟨taskStatus, isLate⟩ t' ⟨rfl, -⟩
    refine writeTask (RowsWritten.recompute (sound.putTask key known ?_) known)
    intro old stored'
    obtain rfl := Option.some.inj (stored.symm.trans stored')
    rfl
  · rintro e t' ⟨-, now, -, failed⟩
    cases failed

end

end

end TelemetryHub
