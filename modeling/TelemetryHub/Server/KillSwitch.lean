import TelemetryHub.Server.State
import TelemetryHub.Server.Delivery
import Mathlib.Logic.Function.Basic

/-!
# The kill switch

The requests to arm, to authorize and to purge, the status request and the purge worker,
each as the lock-protected sections and the calls into the database between them. A step
runs one section of one thread, so any threads interleave.
-/

namespace TelemetryHub

/-! ## The runtime -/

/-- `KillSwitchRuntimeMode`. -/
inductive KillSwitchRuntimeMode where
  | idle
  | armed
  | authorized
  | deleting
  | completed
  | failed
  deriving DecidableEq

/-- `KillSwitchRuntimeState`, its list of targets apart. -/
structure KillSwitchRuntimeState where
  armA : Bool := false
  armB : Bool := false
  mode : KillSwitchRuntimeMode := .idle
  authorizedAtTsMs : Option Int := none
  purgeStartedAtTsMs : Option Int := none
  purgeCompletedAtTsMs : Option Int := none
  failedAtTsMs : Option Int := none
  initialPinReveal : Option String := none
  progressPercent : Nat := 0
  message : String := ""
  rowsDeleted : Nat := 0
  lastError : Option String := none
  updatedAtTsMs : Int := 0

/-- `KillSwitchPinSecret`. -/
structure KillSwitchPinSecret where
  salt : String
  hash : String
  createdAtTsMs : Int

/-- `KILL_SWITCH_AUTHORIZATION_TTL_MS`. -/
def killSwitchAuthorizationTtlMs : Int := 120000

/-- `KILL_SWITCH_PROGRESS_WINDOW_MS`. -/
def killSwitchProgressWindowMs : Int := 18000

namespace KillSwitchRuntimeState

/-- The mode is `Deleting` or `Completed`. -/
def locked (r : KillSwitchRuntimeState) : Bool := r.mode = .deleting || r.mode = .completed

/-- `kill_switch_auth_active`. -/
def authActive (r : KillSwitchRuntimeState) (nowMs : Int) : Bool :=
  r.authorizedAtTsMs.any fun authorizedAt => saturateI64 (nowMs - authorizedAt) ≤ killSwitchAuthorizationTtlMs

end KillSwitchRuntimeState

/-- The section of `kill_switch_arm`. -/
def armSection (armA armB : Bool) (nowMs : Int) (r : KillSwitchRuntimeState) : Except ApiError KillSwitchRuntimeState :=
  if r.locked then .error (.badRequest "Kill switch controls are locked while purge is active or completed")
  else .ok { r with
    armA
    armB
    authorizedAtTsMs := none
    progressPercent := 0
    mode := if armA && armB then .armed else .idle
    message :=
      if armA && armB then "Dual-arm gates engaged. PIN authorization is required."
      else "Dual-arm controls are idle. Enter the configured PIN to authorize purge."
    updatedAtTsMs := nowMs }

/-- The section of `kill_switch_authorize`. -/
def authorizeSection (nowMs : Int) (r : KillSwitchRuntimeState) : Except ApiError KillSwitchRuntimeState :=
  if !r.armA || !r.armB then .error (.badRequest "Both kill switch arms must be enabled before PIN authorization")
  else if r.locked then .error (.badRequest "Kill switch controls are locked while purge is active or completed")
  else .ok { r with
    mode := .authorized
    authorizedAtTsMs := some nowMs
    initialPinReveal := none
    message := "PIN accepted. Final purge command is authorized for this session."
    updatedAtTsMs := nowMs }

/-- The section of `kill_switch_purge`: nothing where a purge is on its way already. -/
def purgeSection (rows : Nat) (nowMs : Int) (r : KillSwitchRuntimeState) :
    Except ApiError (Option KillSwitchRuntimeState) :=
  if r.mode = .deleting then .ok none
  else if !r.armA || !r.armB then .error (.badRequest "Both kill switch arms must be enabled before purge")
  else if !r.authActive nowMs then .error (.unauthorized "Kill switch PIN authorization is missing or expired")
  else .ok (some { r with
    mode := .deleting
    purgeStartedAtTsMs := some nowMs
    purgeCompletedAtTsMs := none
    failedAtTsMs := none
    progressPercent := 1
    rowsDeleted := rows
    message := "Deleting databases, configuration files, and Reticulum identity."
    lastError := none
    updatedAtTsMs := nowMs })

/-- The section of `kill_switch_status_payload` where no PIN is enrolled. -/
def notEnrolledSection (nowMs : Int) (r : KillSwitchRuntimeState) : KillSwitchRuntimeState :=
  { r with
    updatedAtTsMs := if r.updatedAtTsMs = 0 then nowMs else r.updatedAtTsMs
    armA := false
    armB := false
    authorizedAtTsMs := none
    mode := .idle
    initialPinReveal := none
    message :=
      if r.message.isEmpty then "First-run setup must configure a kill switch PIN before purge controls unlock."
      else r.message }

/-- `kill_switch_elapsed_progress`. -/
def killSwitchElapsedProgress (elapsedMs : Int) : Nat :=
  (max 1 (min 96 (saturateI64 (elapsedMs * 96) / killSwitchProgressWindowMs))).toNat

/-- An authorization that has run out is taken back. -/
def expireAuthorization (nowMs : Int) (r : KillSwitchRuntimeState) : KillSwitchRuntimeState :=
  if r.mode = .authorized && !r.authActive nowMs then
    { r with
      authorizedAtTsMs := none
      mode := if r.armA && r.armB then .armed else .idle
      message := "PIN authorization expired; re-enter PIN before purge."
      updatedAtTsMs := nowMs }
  else r

/-- The progress of a purge on its way. -/
def advanceProgress (nowMs : Int) (r : KillSwitchRuntimeState) : KillSwitchRuntimeState :=
  if r.mode = .deleting then
    let progress := killSwitchElapsedProgress (saturateI64 (nowMs - r.purgeStartedAtTsMs.getD nowMs))
    if r.progressPercent < progress then { r with progressPercent := progress, updatedAtTsMs := nowMs } else r
  else r

/-- The section of `kill_switch_status_payload` where a PIN is enrolled. -/
def statusSection (nowMs : Int) (r : KillSwitchRuntimeState) : KillSwitchRuntimeState :=
  advanceProgress nowMs
    (expireAuthorization nowMs { r with updatedAtTsMs := if r.updatedAtTsMs = 0 then nowMs else r.updatedAtTsMs })

/-- The last section of `run_kill_switch_purge_worker`, of the rows and the files erased or the error. -/
def workerSection (result : Except String (Nat × Nat)) (nowMs : Int) (r : KillSwitchRuntimeState) :
    KillSwitchRuntimeState :=
  match result with
  | .ok (rows, files) => { r with
      mode := .completed
      purgeCompletedAtTsMs := some nowMs
      failedAtTsMs := none
      authorizedAtTsMs := none
      progressPercent := 100
      rowsDeleted := rows
      message := "Kill switch purge complete. " ++ toString rows ++ " persisted rows and " ++ toString files ++
        " runtime files erased."
      lastError := none
      updatedAtTsMs := nowMs }
  | .error error => { r with
      mode := .failed
      failedAtTsMs := some nowMs
      progressPercent := min r.progressPercent 96
      message := "Database purge failed: " ++ error
      lastError := some error
      updatedAtTsMs := nowMs }

/-- The section of `first_run_setup_complete`. -/
def setupSection (nowMs : Int) (r : KillSwitchRuntimeState) : KillSwitchRuntimeState :=
  { r with
    initialPinReveal := none, message := "Kill switch PIN enrolled by first-run setup.", updatedAtTsMs := nowMs }

/-! ## Threads -/

/-- What the PIN is loaded for. -/
inductive PinUse where
  | arm (armA armB : Bool)
  | authorize (pin : String)
  | purge
  | status

/-- A thread, by the section it runs next. -/
inductive KillSwitchThread where
  | idle
  | pinCheck (use : PinUse)
  | pinRead (use : PinUse)
  | armWrite (armA armB : Bool)
  | verifyPin (pin : String) (secret : KillSwitchPinSecret)
  | rehashCheck (pin : String) (secret : KillSwitchPinSecret)
  | rehashWrite (pin : String) (secret : KillSwitchPinSecret)
  | authorizeWrite (pin : String) (secret : KillSwitchPinSecret)
  | purgePreviewCheck
  | purgePreviewRead
  | purgeWrite (rows : Nat)
  | spawnWorker
  | statusEarly
  | notEnrolledWrite
  | statusPreviewCheck
  | statusPreviewRead
  | statusWrite
  | workerStop
  | workerWipe
  | workerClear (rows : Nat)
  | workerDelete (rows : Nat)
  | workerWrite (result : Except String (Nat × Nat))

/-- A thread that purges, or is about to start to. -/
def KillSwitchThread.purges : KillSwitchThread → Bool
  | spawnWorker | workerStop | workerWipe | workerClear _ | workerDelete _ | workerWrite _ => true
  | _ => false

/-- A status request that found no PIN. -/
def KillSwitchThread.unenrolled : KillSwitchThread → Bool
  | notEnrolledWrite => true
  | _ => false

theorem KillSwitchThread.unenrolled_iff (thread : KillSwitchThread) :
    thread.unenrolled = true ↔ thread = .notEnrolledWrite := by
  cases thread <;> simp [unenrolled]

/-- What is told of the requests and of the worker. -/
inductive KillSwitchEvent where
  | armed (armA armB : Bool) (nowMs : Int)
  | pinAccepted (pin : String) (secret : KillSwitchPinSecret) (nowMs : Int)
  | workerStarted (nowMs : Int)

/-- The runtime, what the settings of the database say of the PIN, the threads, and what
was done so far, the latest first. -/
structure KillSwitchSystem where
  runtime : KillSwitchRuntimeState := {}
  pinRecord : Except ApiError (Option KillSwitchPinSecret) := .ok none
  threads : Nat → KillSwitchThread := fun _ => .idle
  history : List KillSwitchEvent := []

/-- What a section meets: the clock, a failure of what it calls, the answers of the database
and of the file system, and a slot for the worker. -/
structure SectionInput where
  nowMs : Int := 0
  failure : Option String := none
  rows : Nat := 0
  files : Nat := 0
  rehashed : String := ""
  slot : Nat := 0

/-- A request. -/
inductive KillSwitchRequest where
  | arm (armA armB : Bool)
  | authorize (pin : String) (throttled : Bool)
  | purge
  | status

/-- What happens next: a request comes in, a thread runs its next section, or another part of
the server writes the PIN's settings or the message of the first-run setup. -/
inductive KillSwitchMove where
  | receive (thread : Nat) (request : KillSwitchRequest)
  | advance (thread : Nat) (input : SectionInput)
  | settings (pinRecord : Except ApiError (Option KillSwitchPinSecret))
  | setup (nowMs : Int)

/-- The first section of a request: a PIN that is not six digits, and a client that is
throttled, are turned away at once. -/
def KillSwitchRequest.enters : KillSwitchRequest → KillSwitchThread
  | arm armA armB => .pinCheck (.arm armA armB)
  | authorize pin throttled =>
    let pin := trim pin
    if throttled || pin.utf8ByteSize ≠ 6 || !pin.toList.all fun c => '0' ≤ c && c ≤ '9' then .idle
    else .pinCheck (.authorize pin)
  | purge => .pinCheck .purge
  | status => .statusEarly

/-- The hash is an Argon2id record: it is not written anew. -/
def isArgon2idPhc (hash : String) : Bool := startsWith hash "$argon2id$"

namespace KillSwitchSystem

/-- A thread at its next section. -/
def goto (s : KillSwitchSystem) (i : Nat) (thread : KillSwitchThread) : KillSwitchSystem :=
  { s with threads := Function.update s.threads i thread }

/-- What a loaded PIN is taken to: no answer of the database ends the request. -/
def pinLoaded (s : KillSwitchSystem) : PinUse → KillSwitchThread
  | .arm armA armB =>
    match s.pinRecord with
    | .ok (some _) => .armWrite armA armB
    | _ => .idle
  | .authorize pin =>
    match s.pinRecord with
    | .ok (some secret) => .verifyPin pin secret
    | _ => .idle
  | .purge =>
    match s.pinRecord with
    | .ok (some _) => .purgePreviewCheck
    | _ => .idle
  | .status =>
    match s.pinRecord with
    | .ok (some _) => .statusPreviewCheck
    | .ok none => .notEnrolledWrite
    | .error _ => .idle

/-- `verify_versioned_secret`, of the salt and the hash of a record and a PIN. -/
abbrev Verifier : Type := KillSwitchPinSecret → String → Except ApiError Bool

variable (verify : Verifier)

/-- The next section of a thread. -/
def advance (i : Nat) (input : SectionInput) (s : KillSwitchSystem) : KillSwitchSystem :=
  match s.threads i with
  | .idle => s
  | .pinCheck use => s.goto i (if s.runtime.locked then .idle else .pinRead use)
  | .pinRead use => s.goto i (s.pinLoaded use)
  | .armWrite armA armB =>
    match armSection armA armB input.nowMs s.runtime with
    | .error _ => s.goto i .idle
    | .ok runtime =>
      { s with runtime, history := KillSwitchEvent.armed armA armB input.nowMs :: s.history }.goto i .statusEarly
  | .verifyPin pin secret =>
    match verify secret pin with
    | .ok true => s.goto i (if isArgon2idPhc secret.hash then .authorizeWrite pin secret else .rehashCheck pin secret)
    | _ => s.goto i .idle
  | .rehashCheck pin secret => s.goto i (if s.runtime.locked then .idle else .rehashWrite pin secret)
  | .rehashWrite pin secret =>
    match input.failure with
    | some _ => s.goto i .idle
    | none =>
      { s with pinRecord := .ok (some { secret with hash := input.rehashed }) }.goto i (.authorizeWrite pin secret)
  | .authorizeWrite pin secret =>
    match authorizeSection input.nowMs s.runtime with
    | .error _ => s.goto i .idle
    | .ok runtime =>
      { s with runtime, history := KillSwitchEvent.pinAccepted pin secret input.nowMs :: s.history }.goto i .statusEarly
  | .purgePreviewCheck => s.goto i (if s.runtime.locked then .idle else .purgePreviewRead)
  | .purgePreviewRead => s.goto i (if input.failure.isSome then .idle else .purgeWrite input.rows)
  | .purgeWrite rows =>
    match purgeSection rows input.nowMs s.runtime with
    | .error _ => s.goto i .idle
    | .ok none => s.goto i .statusEarly
    | .ok (some runtime) =>
      { s with runtime, history := KillSwitchEvent.workerStarted input.nowMs :: s.history }.goto i .spawnWorker
  | .spawnWorker =>
    match s.threads input.slot with
    | .idle => (s.goto i .statusEarly).goto input.slot .workerStop
    | _ => s
  | .statusEarly => s.goto i (if s.runtime.locked || s.runtime.mode = .failed then .idle else .pinCheck .status)
  | .notEnrolledWrite => { s with runtime := notEnrolledSection input.nowMs s.runtime }.goto i .idle
  | .statusPreviewCheck => s.goto i (if s.runtime.locked then .idle else .statusPreviewRead)
  | .statusPreviewRead => s.goto i (if input.failure.isSome then .idle else .statusWrite)
  | .statusWrite => { s with runtime := statusSection input.nowMs s.runtime }.goto i .idle
  | .workerStop =>
    match input.failure with
    | some error => s.goto i (.workerWrite (.error error))
    | none => s.goto i .workerWipe
  | .workerWipe =>
    match input.failure with
    | some error => s.goto i (.workerWrite (.error error))
    | none => { s with pinRecord := .ok none }.goto i (.workerClear input.rows)
  | .workerClear rows =>
    match input.failure with
    | some error => s.goto i (.workerWrite (.error error))
    | none => s.goto i (.workerDelete rows)
  | .workerDelete rows =>
    match input.failure with
    | some error => s.goto i (.workerWrite (.error error))
    | none => s.goto i (.workerWrite (.ok (rows, input.files)))
  | .workerWrite result => { s with runtime := workerSection result input.nowMs s.runtime }.goto i .idle

/-- One move. -/
def step (move : KillSwitchMove) (s : KillSwitchSystem) : KillSwitchSystem :=
  match move with
  | .receive i request =>
    match s.threads i with
    | .idle => s.goto i request.enters
    | _ => s
  | .advance i input => s.advance verify i input
  | .settings pinRecord => { s with pinRecord }
  | .setup nowMs => { s with runtime := setupSection nowMs s.runtime }

/-! ## Orderly runs -/

/-- A status request that found no PIN does not write while a purge is active or completed. -/
def Orderly (s : KillSwitchSystem) : KillSwitchMove → Prop
  | .advance i _ => s.threads i = .notEnrolledWrite → s.runtime.locked = false
  | _ => True

instance (s : KillSwitchSystem) (move : KillSwitchMove) : Decidable (Orderly s move) :=
  match move with
  | .advance i _ =>
    decidable_of_iff ((s.threads i).unenrolled → s.runtime.locked = false) (by
      rw [KillSwitchThread.unenrolled_iff]
      rfl)
  | .receive .. => .isTrue trivial
  | .settings _ => .isTrue trivial
  | .setup _ => .isTrue trivial

/-- A run of moves, each orderly where it is made. -/
inductive OrderlyRun : KillSwitchSystem → KillSwitchSystem → Prop
  | refl (s) : OrderlyRun s s
  | step {s s' move} : OrderlyRun s s' → Orderly s' move → OrderlyRun s (s'.step verify move)

end KillSwitchSystem

/-! ## What the history says -/

/-- An arm request was carried out. -/
def KillSwitchEvent.arms : KillSwitchEvent → Bool
  | armed .. => true
  | _ => false

/-- The arms as the last arm request set them. -/
def lastArms : List KillSwitchEvent → Option (Bool × Bool)
  | [] => none
  | .armed armA armB _ :: _ => some (armA, armB)
  | _ :: earlier => lastArms earlier

/-- A correct PIN was accepted at the time, after the last arm request. -/
def AcceptedSinceArm (verify : KillSwitchSystem.Verifier) (history : List KillSwitchEvent) (atMs : Int) : Prop :=
  ∃ later pin secret earlier, history = later ++ .pinAccepted pin secret atMs :: earlier ∧
    (∀ event ∈ later, event.arms = false) ∧ verify secret pin = .ok true

/-- What a worker needs to be started: both arms, and a PIN that is not too old. -/
def MayPurge (verify : KillSwitchSystem.Verifier) (history : List KillSwitchEvent) (nowMs : Int) : Prop :=
  lastArms history = some (true, true) ∧
    ∃ atMs, AcceptedSinceArm verify history atMs ∧ nowMs - atMs ≤ killSwitchAuthorizationTtlMs

/-- A worker was started, and no arm request carried out since. -/
def PurgeStarted (history : List KillSwitchEvent) : Prop :=
  ∃ later nowMs earlier, history = later ++ .workerStarted nowMs :: earlier ∧ ∀ event ∈ later, event.arms = false

section History

variable {verify : KillSwitchSystem.Verifier} {history : List KillSwitchEvent} {event : KillSwitchEvent} {atMs nowMs : Int}

theorem lastArms_cons (quiet : event.arms = false) : lastArms (event :: history) = lastArms history := by
  cases event with
  | armed armA armB at' => cases quiet
  | pinAccepted pin secret at' => rfl
  | workerStarted at' => rfl

theorem AcceptedSinceArm.cons (h : AcceptedSinceArm verify history atMs) (quiet : event.arms = false) :
    AcceptedSinceArm verify (event :: history) atMs := by
  obtain ⟨later, pin, secret, earlier, rfl, quietLater, correct⟩ := h
  refine ⟨event :: later, pin, secret, earlier, rfl, ?_, correct⟩
  intro other mem
  rcases List.mem_cons.1 mem with rfl | mem
  · exact quiet
  · exact quietLater other mem

theorem PurgeStarted.cons (h : PurgeStarted history) (quiet : event.arms = false) : PurgeStarted (event :: history) := by
  obtain ⟨later, nowMs, earlier, rfl, quietLater⟩ := h
  refine ⟨event :: later, nowMs, earlier, rfl, ?_⟩
  intro other mem
  rcases List.mem_cons.1 mem with rfl | mem
  · exact quiet
  · exact quietLater other mem

theorem saturateI64_le {x : Int} (h : saturateI64 x ≤ killSwitchAuthorizationTtlMs) : x ≤ killSwitchAuthorizationTtlMs := by
  simp only [saturateI64, killSwitchAuthorizationTtlMs] at h ⊢
  omega

/-- Every worker in the history was started with both arms set and a fresh PIN. -/
def PurgesAllowed (verify : KillSwitchSystem.Verifier) (history : List KillSwitchEvent) : Prop :=
  ∀ later nowMs earlier, history = later ++ .workerStarted nowMs :: earlier → MayPurge verify earlier nowMs

theorem PurgesAllowed.cons (h : PurgesAllowed verify history)
    (allowed : ∀ nowMs, event = .workerStarted nowMs → MayPurge verify history nowMs) :
    PurgesAllowed verify (event :: history) := by
  intro later nowMs earlier split
  cases later with
  | nil =>
    obtain ⟨rfl, rfl⟩ := List.cons.inj split
    exact allowed nowMs rfl
  | cons head later =>
    obtain ⟨rfl, rfl⟩ := List.cons.inj split
    exact h later nowMs earlier rfl

end History

/-! ## The invariant -/

/-- The PIN the thread carries was verified. -/
def KillSwitchThread.Verified (verify : KillSwitchSystem.Verifier) : KillSwitchThread → Prop
  | rehashCheck pin secret | rehashWrite pin secret | authorizeWrite pin secret => verify secret pin = .ok true
  | _ => True

namespace KillSwitchSystem

variable (verify : Verifier)

/-- The purge is guarded: at most one thread purges, under the mode `Deleting` and with both
arms set, and the history accounts for the arms and for the authorization. -/
structure Guarded (s : KillSwitchSystem) : Prop where
  single : ∀ i j, (s.threads i).purges → (s.threads j).purges → i = j
  deleting : ∀ i, (s.threads i).purges → s.runtime.mode = .deleting
  armed : ∀ i, (s.threads i).purges → s.runtime.armA ∧ s.runtime.armB
  started : ∀ i, (s.threads i).purges → PurgeStarted s.history
  completed : s.runtime.mode = .completed → s.runtime.authorizedAtTsMs = none
  verified : ∀ i, (s.threads i).Verified verify
  arms : s.runtime.armA → s.runtime.armB → lastArms s.history = some (true, true)
  accepted : ∀ atMs, s.runtime.authorizedAtTsMs = some atMs → AcceptedSinceArm verify s.history atMs
  allowed : PurgesAllowed verify s.history

variable {verify} {s : KillSwitchSystem}

/-- Nothing has run yet. -/
theorem guarded_start (pinRecord : Except ApiError (Option KillSwitchPinSecret)) : Guarded verify { pinRecord } where
  single i j purges := by cases purges
  deleting i purges := by cases purges
  armed i purges := by cases purges
  started i purges := by cases purges
  completed mode := by cases mode
  verified i := trivial
  arms armA := by cases armA
  accepted atMs authorized := by cases authorized
  allowed later nowMs earlier split := by
    have := congrArg List.length split
    simp at this

theorem purges_goto {i j : Nat} {thread : KillSwitchThread} (keeps : thread.purges → (s.threads i).purges)
    (purges : ((s.goto i thread).threads j).purges) : (s.threads j).purges := by
  simp only [goto, Function.update_apply] at purges
  split at purges
  · next here =>
    subst here
    exact keeps purges
  · exact purges

theorem verified_goto {i : Nat} {thread : KillSwitchThread} (h : ∀ j, (s.threads j).Verified verify)
    (carried : thread.Verified verify) (j : Nat) : ((s.goto i thread).threads j).Verified verify := by
  simp only [goto, Function.update_apply]
  split
  · exact carried
  · exact h j

/-- A thread that goes on and starts no purge changes nothing else. -/
theorem Guarded.goto (h : Guarded verify s) {i : Nat} {thread : KillSwitchThread}
    (keeps : thread.purges → (s.threads i).purges) (carried : thread.Verified verify) :
    Guarded verify (s.goto i thread) where
  single j k hj hk := h.single j k (purges_goto keeps hj) (purges_goto keeps hk)
  deleting j hj := h.deleting j (purges_goto keeps hj)
  armed j hj := h.armed j (purges_goto keeps hj)
  started j hj := h.started j (purges_goto keeps hj)
  completed := h.completed
  verified := verified_goto h.verified carried
  arms := h.arms
  accepted := h.accepted
  allowed := h.allowed

/-- So does one that goes on to a section without a PIN to carry. -/
theorem Guarded.leave (h : Guarded verify s) (i : Nat) {thread : KillSwitchThread} (quiet : thread.purges = false)
    (carried : thread.Verified verify) : Guarded verify (s.goto i thread) := by
  apply h.goto _ carried
  intro purges
  rw [quiet] at purges
  cases purges

/-- The PIN's settings are no part of the guard. -/
theorem Guarded.settings (h : Guarded verify s) (pinRecord : Except ApiError (Option KillSwitchPinSecret)) :
    Guarded verify { s with pinRecord } :=
  ⟨h.single, h.deleting, h.armed, h.started, h.completed, h.verified, h.arms, h.accepted, h.allowed⟩

/-- While no thread purges, the runtime and the history are to be accounted for alone. -/
theorem Guarded.unlocked (h : Guarded verify s) (none : ∀ i, (s.threads i).purges = false)
    {runtime : KillSwitchRuntimeState} {history : List KillSwitchEvent}
    (completed : runtime.mode = .completed → runtime.authorizedAtTsMs = Option.none)
    (arms : runtime.armA → runtime.armB → lastArms history = some (true, true))
    (accepted : ∀ atMs, runtime.authorizedAtTsMs = some atMs → AcceptedSinceArm verify history atMs)
    (allowed : PurgesAllowed verify history) : Guarded verify { s with runtime, history } where
  single i j purges := absurd purges (by simp [none i])
  deleting i purges := absurd purges (by simp [none i])
  armed i purges := absurd purges (by simp [none i])
  started i purges := absurd purges (by simp [none i])
  completed
  verified := h.verified
  arms
  accepted
  allowed

theorem Guarded.none_purges (h : Guarded verify s) (unlocked : s.runtime.mode ≠ .deleting) (i : Nat) :
    (s.threads i).purges = false := by
  by_contra purges
  exact unlocked (h.deleting i (by simpa using purges))

/-- A runtime that differs in nothing the guard reads. -/
theorem Guarded.quiet (h : Guarded verify s) {runtime : KillSwitchRuntimeState} (mode : runtime.mode = s.runtime.mode)
    (armA : runtime.armA = s.runtime.armA) (armB : runtime.armB = s.runtime.armB)
    (authorized : runtime.authorizedAtTsMs = s.runtime.authorizedAtTsMs) : Guarded verify { s with runtime } where
  single := h.single
  deleting i purges := mode.trans (h.deleting i purges)
  armed i purges := by
    rw [armA, armB]
    exact h.armed i purges
  started := h.started
  completed := by
    rw [mode, authorized]
    exact h.completed
  verified := h.verified
  arms := by
    rw [armA, armB]
    exact h.arms
  accepted := by
    rw [authorized]
    exact h.accepted
  allowed := h.allowed

/-- A thread that purges and goes on to a section of no purge leaves none that purges. -/
theorem Guarded.retire (h : Guarded verify s) {i : Nat} {thread : KillSwitchThread} (purges : (s.threads i).purges)
    (quiet : thread.purges = false) (j : Nat) : ((s.goto i thread).threads j).purges = false := by
  simp only [KillSwitchSystem.goto, Function.update_apply]
  split
  · exact quiet
  · next other =>
    by_contra also
    exact other (h.single j i (by simpa using also) purges)

/-- Where no thread purges, one may begin to under the mode `Deleting`. -/
theorem Guarded.hire (h : Guarded verify s) (none : ∀ j, (s.threads j).purges = false) (i : Nat)
    {thread : KillSwitchThread} (carried : thread.Verified verify) (mode : s.runtime.mode = .deleting)
    (armed : s.runtime.armA ∧ s.runtime.armB) (started : PurgeStarted s.history) : Guarded verify (s.goto i thread) where
  single j k hj hk := by
    have only : ∀ l, ((s.goto i thread).threads l).purges → l = i := by
      intro l purges
      by_contra other
      simp only [KillSwitchSystem.goto, Function.update_apply, if_neg other] at purges
      simp [none l] at purges
    rw [only j hj, only k hk]
  deleting _ _ := mode
  armed _ _ := armed
  started _ _ := started
  completed := h.completed
  verified := verified_goto h.verified carried
  arms := h.arms
  accepted := h.accepted
  allowed := h.allowed

end KillSwitchSystem

/-! ## What the sections do -/

section Sections

variable {r r' : KillSwitchRuntimeState} {nowMs : Int}

theorem locked_eq_false : r.locked = false ↔ r.mode ≠ .deleting ∧ r.mode ≠ .completed := by
  simp [KillSwitchRuntimeState.locked]

theorem armSection_ok {armA armB : Bool} (h : armSection armA armB nowMs r = .ok r') :
    r.locked = false ∧ r'.armA = armA ∧ r'.armB = armB ∧ r'.authorizedAtTsMs = none ∧
      (r'.mode = .armed ∨ r'.mode = .idle) := by
  unfold armSection at h
  split at h
  · cases h
  · next unlocked =>
    cases h
    refine ⟨by simpa using unlocked, rfl, rfl, rfl, ?_⟩
    by_cases both : (armA && armB) = true
    · exact Or.inl (if_pos both)
    · exact Or.inr (if_neg both)

theorem authorizeSection_ok (h : authorizeSection nowMs r = .ok r') :
    r.locked = false ∧ r'.armA = r.armA ∧ r'.armB = r.armB ∧ r'.authorizedAtTsMs = some nowMs ∧
      r'.mode = .authorized := by
  unfold authorizeSection at h
  split at h
  · cases h
  · split at h
    · cases h
    · next unlocked =>
      cases h
      exact ⟨by simpa using unlocked, rfl, rfl, rfl, rfl⟩

theorem purgeSection_ok {rows : Nat} (h : purgeSection rows nowMs r = .ok (some r')) :
    r.mode ≠ .deleting ∧ (r.armA ∧ r.armB) ∧ r.authActive nowMs ∧ r'.armA = r.armA ∧ r'.armB = r.armB ∧
      r'.authorizedAtTsMs = r.authorizedAtTsMs ∧ r'.mode = .deleting := by
  unfold purgeSection at h
  split at h
  · cases h
  · next idle =>
    split at h
    · cases h
    · next arms =>
      split at h
      · cases h
      · next active =>
        cases h
        exact ⟨idle, by simpa using arms, by simpa using active, rfl, rfl, rfl, rfl⟩

theorem advanceProgress_same : (advanceProgress nowMs r).mode = r.mode ∧ (advanceProgress nowMs r).armA = r.armA ∧
    (advanceProgress nowMs r).armB = r.armB ∧ (advanceProgress nowMs r).authorizedAtTsMs = r.authorizedAtTsMs := by
  unfold advanceProgress
  split
  · dsimp only
    split
    · exact ⟨rfl, rfl, rfl, rfl⟩
    · exact ⟨rfl, rfl, rfl, rfl⟩
  · exact ⟨rfl, rfl, rfl, rfl⟩

/-- A status request only takes back an authorization, and only in the mode `Authorized`. -/
theorem expireAuthorization_cases : (expireAuthorization nowMs r).armA = r.armA ∧ (expireAuthorization nowMs r).armB = r.armB ∧
    ((expireAuthorization nowMs r).mode = r.mode ∧
        (expireAuthorization nowMs r).authorizedAtTsMs = r.authorizedAtTsMs ∨
      r.mode = .authorized ∧ (expireAuthorization nowMs r).authorizedAtTsMs = none ∧
        ((expireAuthorization nowMs r).mode = .armed ∨ (expireAuthorization nowMs r).mode = .idle)) := by
  unfold expireAuthorization
  split
  · next expired =>
    have authorized : r.mode = .authorized := by
      simp only [Bool.and_eq_true, decide_eq_true_eq] at expired
      exact expired.1
    refine ⟨rfl, rfl, Or.inr ⟨authorized, rfl, ?_⟩⟩
    by_cases both : (r.armA && r.armB) = true
    · exact Or.inl (if_pos both)
    · exact Or.inr (if_neg both)
  · exact ⟨rfl, rfl, Or.inl ⟨rfl, rfl⟩⟩

theorem statusSection_cases (r : KillSwitchRuntimeState) (nowMs : Int) :
    (statusSection nowMs r).armA = r.armA ∧ (statusSection nowMs r).armB = r.armB ∧
    ((statusSection nowMs r).mode = r.mode ∧ (statusSection nowMs r).authorizedAtTsMs = r.authorizedAtTsMs ∨
      r.mode = .authorized ∧ (statusSection nowMs r).authorizedAtTsMs = none ∧
        ((statusSection nowMs r).mode = .armed ∨ (statusSection nowMs r).mode = .idle)) := by
  unfold statusSection
  rw [advanceProgress_same.1, advanceProgress_same.2.1, advanceProgress_same.2.2.1, advanceProgress_same.2.2.2]
  exact expireAuthorization_cases

theorem workerSection_mode (r : KillSwitchRuntimeState) (nowMs : Int) (result : Except String (Nat × Nat)) :
    (workerSection result nowMs r).mode = .completed ∧ (workerSection result nowMs r).authorizedAtTsMs = none ∨
      (workerSection result nowMs r).mode = .failed ∧
        (workerSection result nowMs r).authorizedAtTsMs = r.authorizedAtTsMs := by
  cases result with
  | ok report => exact Or.inl ⟨rfl, rfl⟩
  | error error => exact Or.inr ⟨rfl, rfl⟩

theorem workerSection_arms {result : Except String (Nat × Nat)} :
    (workerSection result nowMs r).armA = r.armA ∧ (workerSection result nowMs r).armB = r.armB := by
  cases result with
  | ok report => exact ⟨rfl, rfl⟩
  | error error => exact ⟨rfl, rfl⟩

end Sections

namespace KillSwitchSystem

/-! ## Every step keeps the guard -/

variable {verify : Verifier} {s : KillSwitchSystem}

theorem Guarded.armWrite (h : Guarded verify s) (i : Nat) {armA armB : Bool} {nowMs : Int} {runtime}
    (wrote : armSection armA armB nowMs s.runtime = .ok runtime) :
    Guarded verify ({ s with runtime, history := .armed armA armB nowMs :: s.history }.goto i .statusEarly) := by
  obtain ⟨unlocked, rfl, rfl, unauthorized, mode⟩ := armSection_ok wrote
  apply Guarded.leave _ i rfl (by trivial)
  apply h.unlocked (h.none_purges (locked_eq_false.1 unlocked).1)
  · intro _
    exact unauthorized
  · intro armA armB
    rw [lastArms, armA, armB]
  · intro atMs authorized
    rw [unauthorized] at authorized
    cases authorized
  · apply h.allowed.cons
    intro at' other
    cases other

theorem Guarded.authorizeWrite (h : Guarded verify s) (i : Nat) {pin : String} {secret : KillSwitchPinSecret} {nowMs : Int}
    {runtime} (correct : verify secret pin = .ok true) (wrote : authorizeSection nowMs s.runtime = .ok runtime) :
    Guarded verify ({ s with runtime, history := .pinAccepted pin secret nowMs :: s.history }.goto i .statusEarly) := by
  obtain ⟨unlocked, armA, armB, authorized, mode⟩ := authorizeSection_ok wrote
  apply Guarded.leave _ i rfl (by trivial)
  apply h.unlocked (h.none_purges (locked_eq_false.1 unlocked).1)
  · intro completed
    rw [mode] at completed
    cases completed
  · rw [armA, armB]
    exact h.arms
  · intro atMs at'
    rw [authorized] at at'
    cases at'
    exact ⟨[], pin, secret, s.history, rfl, by simp, correct⟩
  · apply h.allowed.cons
    intro at' other
    cases other

/-- The purge is allowed where its section says so, and then no thread purges yet. -/
theorem Guarded.purgeWrite (h : Guarded verify s) (i : Nat) {rows : Nat} {nowMs : Int} {runtime}
    (wrote : purgeSection rows nowMs s.runtime = .ok (some runtime)) :
    Guarded verify ({ s with runtime, history := .workerStarted nowMs :: s.history }.goto i .spawnWorker) := by
  obtain ⟨idle, arms, active, armA, armB, authorized, mode⟩ := purgeSection_ok wrote
  have none := h.none_purges idle
  have may : MayPurge verify s.history nowMs := by
    refine ⟨h.arms arms.1 arms.2, ?_⟩
    obtain ⟨atMs, at', fresh⟩ := (Option.any_eq_true _ _).1 active
    exact ⟨atMs, h.accepted atMs at', saturateI64_le (by simpa using fresh)⟩
  have guarded : Guarded verify { s with runtime, history := .workerStarted nowMs :: s.history } := by
    apply h.unlocked none
    · intro completed
      rw [mode] at completed
      cases completed
    · rw [armA, armB]
      exact h.arms
    · intro atMs at'
      rw [authorized] at at'
      exact (h.accepted atMs at').cons rfl
    · apply h.allowed.cons
      intro at' same
      cases same
      exact may
  apply guarded.hire none i (by trivial) mode
  · dsimp only
    rw [armA, armB]
    exact arms
  · exact ⟨[], nowMs, s.history, rfl, by simp⟩

/-- The spawned worker takes the purge over from the request. -/
theorem Guarded.spawn (h : Guarded verify s) {i slot : Nat} (spawning : s.threads i = .spawnWorker) :
    Guarded verify ((s.goto i .statusEarly).goto slot .workerStop) := by
  have purges : (s.threads i).purges := by rw [spawning]; rfl
  have left : Guarded verify (s.goto i .statusEarly) := h.leave i rfl trivial
  apply left.hire (h.retire purges rfl) slot (by trivial)
  · exact h.deleting i purges
  · exact h.armed i purges
  · exact h.started i purges

theorem Guarded.workerWrite (h : Guarded verify s) {i : Nat} {result : Except String (Nat × Nat)}
    (writing : s.threads i = .workerWrite result) (nowMs : Int) :
    Guarded verify ({ s with runtime := workerSection result nowMs s.runtime }.goto i .idle) := by
  have purges : (s.threads i).purges := by rw [writing]; rfl
  have left : Guarded verify (s.goto i .idle) := h.leave i rfl trivial
  apply left.unlocked (h.retire purges rfl)
  · intro completed
    rcases workerSection_mode s.runtime nowMs result with ⟨_, none⟩ | ⟨failed, _⟩
    · exact none
    · rw [failed] at completed
      cases completed
  · rw [workerSection_arms.1, workerSection_arms.2]
    exact h.arms
  · intro atMs authorized
    rcases workerSection_mode s.runtime nowMs result with ⟨_, none⟩ | ⟨_, same⟩
    · rw [none] at authorized
      cases authorized
    · rw [same] at authorized
      exact h.accepted atMs authorized
  · exact h.allowed

theorem Guarded.notEnrolledWrite (h : Guarded verify s) (i : Nat) (unlocked : s.runtime.locked = false) (nowMs : Int) :
    Guarded verify ({ s with runtime := notEnrolledSection nowMs s.runtime }.goto i .idle) := by
  apply Guarded.leave _ i rfl (by trivial)
  apply h.unlocked (h.none_purges (locked_eq_false.1 unlocked).1)
  · intro _
    rfl
  · intro armA
    cases armA
  · intro atMs authorized
    cases authorized
  · exact h.allowed

theorem Guarded.statusWrite (h : Guarded verify s) (i : Nat) (nowMs : Int) :
    Guarded verify ({ s with runtime := statusSection nowMs s.runtime }.goto i .idle) := by
  obtain ⟨armA, armB, ⟨mode, authorized⟩ | ⟨mode, unauthorized, _⟩⟩ := statusSection_cases s.runtime nowMs
  · exact (h.quiet mode armA armB authorized).leave i rfl trivial
  · apply Guarded.leave _ i rfl (by trivial)
    apply h.unlocked (h.none_purges (by rw [mode]; decide))
    · intro _
      exact unauthorized
    · rw [armA, armB]
      exact h.arms
    · intro atMs at'
      rw [unauthorized] at at'
      cases at'
    · exact h.allowed

theorem pinLoaded_quiet (verify : Verifier) (s : KillSwitchSystem) (use : PinUse) :
    (s.pinLoaded use).purges = false ∧ (s.pinLoaded use).Verified verify := by
  unfold pinLoaded
  cases use with
  | arm armA armB =>
    dsimp only
    split <;> exact ⟨rfl, trivial⟩
  | authorize pin =>
    dsimp only
    split <;> exact ⟨rfl, trivial⟩
  | purge =>
    dsimp only
    split <;> exact ⟨rfl, trivial⟩
  | status =>
    dsimp only
    split <;> exact ⟨rfl, trivial⟩

theorem enters_quiet (verify : Verifier) (request : KillSwitchRequest) :
    request.enters.purges = false ∧ request.enters.Verified verify := by
  cases request with
  | arm armA armB => exact ⟨rfl, trivial⟩
  | authorize pin throttled =>
    unfold KillSwitchRequest.enters
    dsimp only
    split <;> exact ⟨rfl, trivial⟩
  | purge => exact ⟨rfl, trivial⟩
  | status => exact ⟨rfl, trivial⟩

/-- A section that goes one of two ways, neither of them into a purge. -/
theorem Guarded.branch (h : Guarded verify s) (i : Nat) (p : Prop) [Decidable p] {yes no : KillSwitchThread}
    (quietYes : yes.purges = false) (carriedYes : yes.Verified verify) (quietNo : no.purges = false)
    (carriedNo : no.Verified verify) : Guarded verify (s.goto i (if p then yes else no)) := by
  split
  · exact h.leave i quietYes carriedYes
  · exact h.leave i quietNo carriedNo

/-- The worker at work: it goes on to its next section, or writes down what failed. -/
theorem Guarded.work (h : Guarded verify s) {i : Nat} (purges : (s.threads i).purges) {thread : KillSwitchThread}
    (carried : thread.Verified verify) : Guarded verify (s.goto i thread) :=
  h.goto (fun _ => purges) carried

theorem Guarded.advance (h : Guarded verify s) (i : Nat) (input : SectionInput)
    (orderly : s.threads i = .notEnrolledWrite → s.runtime.locked = false) :
    Guarded verify (s.advance verify i input) := by
  unfold KillSwitchSystem.advance
  split
  · exact h
  · exact h.branch i _ rfl trivial rfl trivial
  · next use _ => exact h.leave i (pinLoaded_quiet verify s use).1 (pinLoaded_quiet verify s use).2
  · split
    · exact h.leave i rfl trivial
    · next wrote => exact h.armWrite i wrote
  · split
    · next correct => exact h.branch i _ rfl correct rfl correct
    · exact h.leave i rfl trivial
  · next pin secret at' =>
    have correct := h.verified i
    rw [at'] at correct
    exact h.branch i _ rfl trivial rfl correct
  · next pin secret at' =>
    have correct := h.verified i
    rw [at'] at correct
    split
    · exact h.leave i rfl trivial
    · exact (h.settings _).leave i rfl correct
  · next pin secret at' =>
    have correct := h.verified i
    rw [at'] at correct
    split
    · exact h.leave i rfl trivial
    · next wrote => exact h.authorizeWrite i correct wrote
  · exact h.branch i _ rfl trivial rfl trivial
  · exact h.branch i _ rfl trivial rfl trivial
  · split
    · exact h.leave i rfl trivial
    · exact h.leave i rfl trivial
    · next wrote => exact h.purgeWrite i wrote
  · next spawning =>
    split
    · exact h.spawn spawning
    · exact h
  · exact h.branch i _ rfl trivial rfl trivial
  · next writing => exact h.notEnrolledWrite i (orderly writing) input.nowMs
  · exact h.branch i _ rfl trivial rfl trivial
  · exact h.branch i _ rfl trivial rfl trivial
  · exact h.statusWrite i input.nowMs
  · next working =>
    have purges : (s.threads i).purges := by rw [working]; rfl
    split
    · exact h.work purges trivial
    · exact h.work purges trivial
  · next working =>
    have purges : (s.threads i).purges := by rw [working]; rfl
    split
    · exact h.work purges trivial
    · exact Guarded.settings (h.work purges trivial : Guarded verify (s.goto i (.workerClear input.rows))) _
  · next working =>
    have purges : (s.threads i).purges := by rw [working]; rfl
    split
    · exact h.work purges trivial
    · exact h.work purges trivial
  · next working =>
    have purges : (s.threads i).purges := by rw [working]; rfl
    split
    · exact h.work purges trivial
    · exact h.work purges trivial
  · next writing => exact h.workerWrite writing input.nowMs

theorem Guarded.step (h : Guarded verify s) {move : KillSwitchMove} (orderly : Orderly s move) :
    Guarded verify (s.step verify move) := by
  cases move with
  | receive i request =>
    unfold KillSwitchSystem.step
    dsimp only
    split
    · exact h.leave i (enters_quiet verify request).1 (enters_quiet verify request).2
    · exact h
  | advance i input => exact h.advance i input orderly
  | settings pinRecord => exact h.settings pinRecord
  | setup nowMs => exact h.quiet rfl rfl rfl rfl

theorem Guarded.run (h : Guarded verify s) {s' : KillSwitchSystem} (run : OrderlyRun verify s s') : Guarded verify s' := by
  induction run with
  | refl => exact h
  | step _ orderly ih => exact ih.step orderly

/-! ## What a purge cannot be taken back by -/

theorem branch_mode (i : Nat) (p : Prop) [Decidable p] (yes no : KillSwitchThread) :
    (s.goto i (if p then yes else no)).runtime.mode = s.runtime.mode := rfl

/-- While a purge is active or completed, only the worker's last section changes the mode. -/
theorem Guarded.locked_mode (h : Guarded verify s) (locked : s.runtime.locked) (i : Nat) (input : SectionInput)
    (orderly : s.threads i = .notEnrolledWrite → s.runtime.locked = false) :
    (s.advance verify i input).runtime.mode = s.runtime.mode ∨ ∃ result, s.threads i = .workerWrite result := by
  unfold KillSwitchSystem.advance
  split
  · exact Or.inl rfl
  · exact Or.inl rfl
  · exact Or.inl rfl
  · split
    · exact Or.inl rfl
    · next wrote =>
      rw [(armSection_ok wrote).1] at locked
      cases locked
  · split
    · exact Or.inl rfl
    · exact Or.inl rfl
  · exact Or.inl rfl
  · split
    · exact Or.inl rfl
    · exact Or.inl rfl
  · split
    · exact Or.inl rfl
    · next wrote =>
      rw [(authorizeSection_ok wrote).1] at locked
      cases locked
  · exact Or.inl rfl
  · exact Or.inl rfl
  · split
    · exact Or.inl rfl
    · exact Or.inl rfl
    · next wrote =>
      -- a completed purge has taken the authorization with it
      obtain ⟨idle, _, active, _⟩ := purgeSection_ok wrote
      have completed : s.runtime.mode = .completed := by
        by_contra other
        rw [locked_eq_false.2 ⟨idle, other⟩] at locked
        cases locked
      rw [KillSwitchRuntimeState.authActive, h.completed completed] at active
      cases active
  · split
    · exact Or.inl rfl
    · exact Or.inl rfl
  · exact Or.inl rfl
  · next writing =>
    rw [orderly writing] at locked
    cases locked
  · exact Or.inl rfl
  · exact Or.inl rfl
  · obtain ⟨_, _, ⟨mode, _⟩ | ⟨mode, _⟩⟩ := statusSection_cases s.runtime input.nowMs
    · exact Or.inl mode
    · rw [KillSwitchRuntimeState.locked, mode] at locked
      cases locked
  · split
    · exact Or.inl rfl
    · exact Or.inl rfl
  · split
    · exact Or.inl rfl
    · exact Or.inl rfl
  · split
    · exact Or.inl rfl
    · exact Or.inl rfl
  · split
    · exact Or.inl rfl
    · exact Or.inl rfl
  · next writing => exact Or.inr ⟨_, writing⟩

theorem Guarded.step_locked (h : Guarded verify s) (locked : s.runtime.locked) {move : KillSwitchMove}
    (orderly : Orderly s move) :
    (s.step verify move).runtime.mode = s.runtime.mode ∨
      ∃ i input result, move = .advance i input ∧ s.threads i = .workerWrite result ∧
        ((s.step verify move).runtime.mode = .completed ∨ (s.step verify move).runtime.mode = .failed) := by
  cases move with
  | receive i request =>
    left
    unfold KillSwitchSystem.step
    dsimp only
    split
    · rfl
    · rfl
  | advance i input =>
    rcases h.locked_mode locked i input orderly with same | ⟨result, writing⟩
    · exact Or.inl same
    · right
      refine ⟨i, input, result, rfl, writing, ?_⟩
      have after : (s.step verify (.advance i input)).runtime = workerSection result input.nowMs s.runtime := by
        simp only [KillSwitchSystem.step, KillSwitchSystem.advance, writing]
        rfl
      rw [after]
      exact (workerSection_mode s.runtime input.nowMs result).imp And.left And.left
  | settings pinRecord => exact Or.inl rfl
  | setup nowMs => exact Or.inl rfl

theorem Guarded.completed_final (h : Guarded verify s) (completed : s.runtime.mode = .completed)
    {s' : KillSwitchSystem} (run : OrderlyRun verify s s') : s'.runtime.mode = .completed := by
  induction run with
  | refl => exact completed
  | @step s' move before orderly ih =>
    have guarded := h.run before
    have locked : s'.runtime.locked := by simp [KillSwitchRuntimeState.locked, ih]
    rcases guarded.step_locked locked orderly with same | ⟨i, _, result, _, writing, _⟩
    · rw [same]
      exact ih
    · have deleting := guarded.deleting i (by rw [writing]; rfl)
      rw [ih] at deleting
      cases deleting

/-- A step that is not orderly throws a purge that is active or completed back to `Idle`. -/
theorem disorderly_step {move : KillSwitchMove} (disorderly : ¬ Orderly s move) :
    s.runtime.locked ∧ (s.step verify move).runtime.mode = .idle := by
  cases move with
  | advance i input =>
    simp only [Orderly, Classical.not_imp, Bool.not_eq_false] at disorderly
    obtain ⟨writing, locked⟩ := disorderly
    refine ⟨locked, ?_⟩
    simp only [KillSwitchSystem.step, KillSwitchSystem.advance, writing]
    rfl
  | receive i request => exact absurd trivial disorderly
  | settings pinRecord => exact absurd trivial disorderly
  | setup nowMs => exact absurd trivial disorderly

/-! ## A status request that races with the purge -/

/-- The PIN of the runs below. -/
def sixOnes : KillSwitchPinSecret := { salt := "salt", hash := "$argon2id$111111", createdAtTsMs := 1 }

/-- A verifier of records whose hash ends in the PIN. -/
def plainVerifier : Verifier := fun secret pin => .ok (secret.hash == "$argon2id$" ++ pin)

/-- A section that runs at a time without a failure, hiring the thread 9. -/
def turn (thread : Nat) (nowMs : Int) : KillSwitchMove := .advance thread { nowMs, slot := 9 }

/-- The arms are set, the PIN is accepted and the purge is started. -/
def armAndPurge : List KillSwitchMove :=
  [.receive 1 (.arm true true), turn 1 10, turn 1 10, turn 1 10, .receive 2 (.authorize "111111" false),
    turn 2 20, turn 2 20, turn 2 20, turn 2 20, .receive 3 .purge, turn 3 30, turn 3 30, turn 3 30, turn 3 30, turn 3 30, turn 3 30]

/-- A status request that is about to load the PIN. -/
def statusBegins (thread : Nat) : List KillSwitchMove := [.receive thread .status, turn thread 5, turn thread 5]

/-- The moves one after another. -/
def runMoves (verify : Verifier) (moves : List KillSwitchMove) (s : KillSwitchSystem) : KillSwitchSystem :=
  moves.foldl (fun s move => s.step verify move) s

theorem orderlyRun_runMoves {verify : Verifier} {moves : List KillSwitchMove} :
    ∀ {s s' : KillSwitchSystem}, OrderlyRun verify s s' →
      (∀ i, (h : i < moves.length) → Orderly (runMoves verify (moves.take i) s') moves[i]) →
      OrderlyRun verify s (runMoves verify moves s') := by
  induction moves with
  | nil =>
    intro s s' run _
    exact run
  | cons move moves ih =>
    intro s s' run orderly
    apply ih (run.step (orderly 0 (by simp)))
    intro i h
    exact orderly (i + 1) (by simpa using h)

/-- In every orderly run a purge is started only under both arms and a fresh PIN, by one
worker at a time, the mode stays `Deleting` until that worker ends it, and `Completed` is
final; the first step that is not orderly throws the mode back to `Idle`. -/
theorem purge_guarded (pinRecord : Except ApiError (Option KillSwitchPinSecret))
    (run : OrderlyRun verify { pinRecord } s) :
    (∀ i, (s.threads i).purges → PurgeStarted s.history ∧ s.runtime.armA ∧ s.runtime.armB) ∧
    PurgesAllowed verify s.history ∧
    (∀ i j, (s.threads i).purges → (s.threads j).purges → i = j) ∧
    (∀ i, (s.threads i).purges → s.runtime.mode = .deleting) ∧
    (∀ move, Orderly s move → s.runtime.mode = .deleting →
      (s.step verify move).runtime.mode = .deleting ∨
        ∃ i input result, move = .advance i input ∧ s.threads i = .workerWrite result ∧
          ((s.step verify move).runtime.mode = .completed ∨ (s.step verify move).runtime.mode = .failed)) ∧
    (s.runtime.mode = .completed → ∀ s', OrderlyRun verify s s' → s'.runtime.mode = .completed) ∧
    (∀ move, ¬ Orderly s move → s.runtime.locked ∧ (s.step verify move).runtime.mode = .idle) := by
  have guarded : Guarded verify s := (guarded_start pinRecord).run run
  refine ⟨?_, guarded.allowed, guarded.single, guarded.deleting, ?_, ?_, ?_⟩
  · intro i purges
    exact ⟨guarded.started i purges, guarded.armed i purges⟩
  · intro move orderly deleting
    rw [← deleting]
    apply guarded.step_locked _ orderly
    simp [KillSwitchRuntimeState.locked, deleting]
  · intro completed s' onwards
    exact guarded.completed_final completed onwards
  · intro move disorderly
    exact disorderly_step disorderly

/-- A purge is at work after its request, and was allowed. -/
theorem purge_guarded_carried_out :
    let s := runMoves plainVerifier (armAndPurge ++ [turn 9 40]) { pinRecord := .ok (some sixOnes) }
    s.runtime.mode = .deleting ∧ (s.threads 9).purges = true ∧ PurgesAllowed plainVerifier s.history := by
  refine ⟨by decide +kernel, by decide +kernel, (purge_guarded (.ok (some sixOnes)) ?_).2.1⟩
  apply orderlyRun_runMoves (.refl _)
  decide +kernel

/-- The status request loads the PIN that the worker has wiped, and writes `Idle` while the
worker is at work; another does so after the purge has completed. -/
theorem raced_purge_idle :
    (let s := runMoves plainVerifier
      (statusBegins 4 ++ armAndPurge ++ [turn 9 40, turn 9 40, turn 4 41, turn 4 41]) { pinRecord := .ok (some sixOnes) }
    (s.threads 9).purges = true ∧ s.runtime.mode = .idle) ∧
    let s := runMoves plainVerifier
      (statusBegins 5 ++ armAndPurge ++ [turn 9 40, turn 9 40, turn 9 40, turn 9 40, turn 9 40])
      { pinRecord := .ok (some sixOnes) }
    s.runtime.mode = .completed ∧ (runMoves plainVerifier [turn 5 41, turn 5 41] s).runtime.mode = .idle := by
  decide +kernel

end KillSwitchSystem

end TelemetryHub
