import TelemetryHub.Server.Throttle

/-!
# How many guesses there are

Between two successes a key is good for so many wrong credentials in a window of time,
where an attempt is let in only alone or with room left for all that are under way. What
carries it is an account of each key: the wrong credentials of the window are failures on
record or attempts about to be recorded, and these never exceed the limit together.
-/

namespace TelemetryHub

open Lib

/-! ## What is claimed of the log -/

/-- The wrong credentials of a key in a stretch of the log. -/
def wrongIn (key : String) : List AuthEvent → Nat
  | [] => 0
  | event :: rest => (if event.key = key then event.wrong else 0) + wrongIn key rest

/-- In every stretch of the log without a success of the key that lies within a window of
time, the key has no more wrong credentials than the limit. -/
def GuessesBounded (key : String) (log : List AuthEvent) : Prop :=
  ∀ after stretch before, log = after ++ stretch ++ before →
    (∀ event ∈ stretch, event.key = key → event.success = false) →
    (∀ event ∈ stretch, ∀ earlier ∈ stretch, event.key = key → earlier.key = key →
      event.tsMs < earlier.tsMs + authFailureWindowMs) →
    wrongIn key stretch ≤ authFailureLimit

/-! ## The condition -/

/-- An attempt with no more than one credential to be verified. -/
def AuthCredentials.Single (apiKey : Option String) : AuthCredentials → Prop
  | .remote key token => apiKey = none ∨ (key.toList ++ token.toList).dedup.length ≤ 1
  | .pin _ => True

/-- The stored password of an attempt can be read, or no API key has been compared before. -/
def AuthCredentials.Readable (apiKey : Option String) (secrets : AuthSecrets) : AuthCredentials → Prop
  | .remote key token =>
    apiKey = none ∨ ∀ error, validateStoredRemotePassword secrets (key.or token) ≠ .error error
  | .pin _ => True

/-- A move that does not outrun the throttle: an attempt that is let in has one credential,
and is alone with its key or finds room for all attempts under way; and the password an
attempt is verified against can be read. -/
def AuthSystem.Orderly (s : AuthSystem) : AuthMove → Prop
  | .tick _ | .settle _ => True
  | .check attempt =>
    attempt.exempt s.apiKey = false → ¬s.LockedOut attempt.key → attempt.credentials.Single s.apiKey ∧
      (s.inFlight attempt.key = 0 ∨
        ((s.window attempt.key).retained s.nowMs).length + s.inFlight attempt.key < authFailureLimit)
  | .verify index secrets => ∀ thread, s.threads[index]? = some thread →
    thread.attempt.credentials.Readable s.apiKey secrets

/-- A run whose moves are all orderly. -/
inductive OrderlyLogins (start : AuthSystem) : List AuthMove → Prop
  | start : OrderlyLogins start []
  | move (moves : List AuthMove) (move : AuthMove) (before : OrderlyLogins start moves)
    (orderly : (start.run moves).Orderly move) : OrderlyLogins start (moves ++ [move])

/-! ## The account of a key -/

/-- The wrong credentials of a key since its last success that are later than a time. -/
def recentWrong (key : String) (tsMs : Int) : List AuthEvent → Nat
  | [] => 0
  | event :: rest =>
    if event.key = key then
      if event.success then 0 else (if tsMs < event.tsMs then event.wrong else 0) + recentWrong key tsMs rest
    else recentWrong key tsMs rest

/-- The failures of a window later than a time. -/
def AuthFailureWindow.later (window : AuthFailureWindow) (tsMs : Int) : Nat := window.failures.countP fun f => tsMs < f

/-- The attempts of a key about to record a failure. -/
def AuthSystem.failing (s : AuthSystem) (key : String) : Nat :=
  s.threads.countP fun thread => thread.attempt.key == key && thread.verdict == some .failed

/-- The account of a key. -/
structure AuthSystem.Accounts (s : AuthSystem) (key : String) : Prop where
  sane : 0 ≤ s.nowMs ∧ s.nowMs < 2 ^ 62
  past : ∀ f ∈ (s.window key).failures, 0 ≤ f ∧ f ≤ s.nowMs
  logged : ∀ event ∈ s.log, event.tsMs ≤ s.nowMs
  single : ∀ thread ∈ s.threads, thread.attempt.credentials.Single s.apiKey
  covered : ∀ tsMs, s.nowMs - authFailureWindowMs ≤ tsMs →
    recentWrong key tsMs s.log ≤ (s.window key).later tsMs + s.failing key
  room : (s.window key).later (s.nowMs - authFailureWindowMs) + s.inFlight key ≤ authFailureLimit
  kept : ((s.window key).retained s.nowMs).length + s.inFlight key ≤ authFailureLimit ∨ s.inFlight key ≤ 1
  lockout : ∀ tsMs, s.nowMs - authFailureWindowMs ≤ tsMs → authFailureLimit ≤ (s.window key).later tsMs →
    ∃ until' ∈ (s.window key).lockedUntilTsMs, tsMs + authFailureWindowMs < until'
  alone : s.LockedOut key → s.inFlight key = 0
  bounded : GuessesBounded key s.log

/-! ## Counting -/

section Counting

variable {key : String} {log rest stretch before : List AuthEvent} {event : AuthEvent} {tsMs tsMs' : Int}

/-- A stretch without a success is among what has happened since the last one. -/
theorem wrongIn_le_recentWrong (quiet : ∀ event ∈ stretch, event.key = key → event.success = false)
    (late : ∀ event ∈ stretch, event.key = key → tsMs < event.tsMs) :
    wrongIn key stretch ≤ recentWrong key tsMs (stretch ++ before) := by
  induction stretch with
  | nil => exact Nat.zero_le _
  | cons event stretch ih =>
    have tail := ih (fun other mem => quiet other (List.mem_cons_of_mem event mem))
      fun other mem => late other (List.mem_cons_of_mem event mem)
    rw [List.cons_append, wrongIn, recentWrong]
    by_cases same : event.key = key
    · rw [if_pos same, if_pos same, quiet event List.mem_cons_self same, if_neg Bool.false_ne_true,
        if_pos (late event List.mem_cons_self same)]
      omega
    · rw [if_neg same, if_neg same]
      omega

/-- One more event, with what the key has had of late within the limit. -/
theorem GuessesBounded.push (h : GuessesBounded key log)
    (recent : event.success = false → event.key = key →
      recentWrong key (event.tsMs - authFailureWindowMs) (event :: log) ≤ authFailureLimit) :
    GuessesBounded key (event :: log) := by
  intro after stretch before split quiet close
  cases after with
  | cons first after =>
    rw [List.cons_append, List.cons_append, List.cons.injEq] at split
    exact h after stretch before split.2 quiet close
  | nil =>
    cases stretch with
    | nil => exact Nat.zero_le _
    | cons first stretch =>
      rw [List.nil_append, List.cons_append, List.cons.injEq] at split
      obtain ⟨rfl, rfl⟩ := split
      by_cases same : event.key = key
      · have failed := quiet event List.mem_cons_self same
        calc wrongIn key (event :: stretch)
          _ ≤ recentWrong key (event.tsMs - authFailureWindowMs) (event :: stretch ++ before) := by
            apply wrongIn_le_recentWrong quiet
            intro other mem other_key
            have near := close event List.mem_cons_self other mem same other_key
            omega
          _ ≤ authFailureLimit := recent failed same
      · rw [wrongIn, if_neg same, Nat.zero_add]
        exact h [] stretch before rfl (fun other mem => quiet other (List.mem_cons_of_mem event mem))
          fun other mem earlier mem' => close other (List.mem_cons_of_mem event mem) earlier
            (List.mem_cons_of_mem event mem')

/-- The threads once one has been replaced, counted. -/
theorem countP_replaceThread {threads : List AuthThread} {index : Nat} {thread : AuthThread}
    (found : threads[index]? = some thread) (new : Option AuthThread) (p : AuthThread → Bool) :
    (replaceThread threads index new).countP p + (if p thread then 1 else 0) =
      threads.countP p + new.toList.countP p := by
  obtain ⟨inside, rfl⟩ := List.getElem?_eq_some_iff.1 found
  have parts : threads = threads.take index ++ threads[index] :: threads.drop (index + 1) := by
    rw [← List.drop_eq_getElem_cons inside, List.take_append_drop]
  have whole := congrArg (List.countP p) parts
  rw [List.countP_append, List.countP_cons] at whole
  rw [replaceThread, List.countP_append, List.countP_append]
  omega

/-- A thread replaced by what has become of it leaves no more attempts with a key. -/
theorem inFlight_replaceThread {threads : List AuthThread} {index : Nat} {thread : AuthThread} {new : Option AuthThread}
    (found : threads[index]? = some thread) (kept : ∀ next ∈ new, next.attempt = thread.attempt) :
    (replaceThread threads index new).countP (fun thread => thread.attempt.key == key) ≤
      threads.countP fun thread => thread.attempt.key == key := by
  have count := countP_replaceThread found new fun thread => thread.attempt.key == key
  cases new with
  | none =>
    rw [Option.toList_none, List.countP_nil] at count
    omega
  | some next =>
    rw [Option.toList_some, List.countP_singleton, kept next rfl] at count
    omega

theorem mem_replaceThread {threads : List AuthThread} {index : Nat} {new : Option AuthThread} {thread : AuthThread}
    (mem : thread ∈ replaceThread threads index new) : thread ∈ threads ∨ thread ∈ new := by
  rw [replaceThread, List.mem_append, List.mem_append, Option.mem_toList] at mem
  obtain (taken | found) | dropped := mem
  · exact .inl (List.mem_of_mem_take taken)
  · exact .inr found
  · exact .inl (List.mem_of_mem_drop dropped)

end Counting

/-! ## Verifications -/

/-- One credential is one guess. -/
theorem AuthCredentials.Single.guesses {credentials : AuthCredentials} {apiKey : Option String}
    (single : credentials.Single apiKey) (secrets : AuthSecrets) : (credentials.verify apiKey secrets).2.length ≤ 1 := by
  cases credentials with
  | pin text =>
    unfold AuthCredentials.verify
    dsimp only
    split
    · exact Nat.zero_le _
    · split
      · exact Nat.zero_le _
      · exact Nat.zero_le _
      · exact Nat.le_refl _
  | remote key token =>
    have supplied : (if apiKey.isSome then key.toList ++ token.toList else []).dedup.length ≤ 1 ∧
        ((if apiKey.isSome then key.toList ++ token.toList else []) ++ (key.or token).toList).dedup.length ≤ 1 := by
      cases apiKey with
      | none =>
        constructor
        · exact Nat.zero_le _
        · cases key <;> cases token <;> simp
      | some expected =>
        obtain none | few := single
        · cases none
        · cases key with
          | none => cases token <;> simp
          | some key =>
            cases token with
            | none => simp
            | some token =>
              have same : key = token := by
                by_contra differ
                have two : [key, token].dedup = [key, token] := List.dedup_eq_self.2 (by simp [differ])
                simp [two] at few
              subst same
              simp
    unfold AuthCredentials.verify
    dsimp only
    split
    · exact Nat.zero_le _
    · split
      · exact supplied.1
      · exact Nat.zero_le _
      · exact supplied.2
      · exact supplied.1

/-- Where nothing is to be recorded nothing wrong has been verified, and a success has
verified nothing wrong either. -/
theorem AuthCredentials.verify_wrong {credentials : AuthCredentials} {apiKey : Option String} {secrets : AuthSecrets}
    (readable : credentials.Readable apiKey secrets) (unfailed : (credentials.verify apiKey secrets).1 ≠ .failed) :
    (credentials.verify apiKey secrets).2 = [] := by
  cases credentials with
  | pin text =>
    unfold AuthCredentials.verify at unfailed ⊢
    dsimp only at unfailed ⊢
    split at unfailed
    · exact absurd rfl unfailed
    · rename_i format
      rw [if_neg format]
      split at unfailed
      · rfl
      · rfl
      · exact absurd rfl unfailed
  | remote key token =>
    unfold AuthCredentials.verify at unfailed ⊢
    dsimp only at unfailed ⊢
    split at unfailed
    · rename_i matched
      rw [if_pos matched]
    · rename_i unmatched
      rw [if_neg unmatched]
      split at unfailed
      · rename_i error unread
        obtain rfl | read := readable
        · rfl
        · exact absurd unread (read error)
      · rfl
      · exact absurd rfl unfailed
      · rename_i unstored
        by_cases none : (key.toList ++ token.toList).isEmpty = true
        · rw [List.isEmpty_iff.1 none]
          cases apiKey <;> rfl
        · rw [if_neg none] at unfailed
          exact absurd rfl unfailed

/-! ## The windows -/

section Windows

variable {key other : String} {nowMs tsMs failure : Int} {throttle : AuthThrottleState} {window : AuthFailureWindow}

theorem retains_iff (_ : 0 ≤ nowMs ∧ nowMs < 2 ^ 62) (past : 0 ≤ failure ∧ failure ≤ nowMs) :
    saturateI64 (nowMs - failure) ≤ authFailureWindowMs ↔ nowMs - authFailureWindowMs ≤ failure := by
  simp only [saturateI64, authFailureWindowMs]
  omega

theorem AuthFailureWindow.retained_retained :
    ({ window with failures := window.retained nowMs } : AuthFailureWindow).retained nowMs = window.retained nowMs := by
  simp only [retained, List.filter_filter, Bool.and_self]

/-- What is dropped is too old to count. -/
theorem AuthFailureWindow.later_retained (sane : 0 ≤ nowMs ∧ nowMs < 2 ^ 62)
    (past : ∀ f ∈ window.failures, 0 ≤ f ∧ f ≤ nowMs) (recent : nowMs - authFailureWindowMs ≤ tsMs) :
    (window.retained nowMs).countP (fun f => tsMs < f) = window.later tsMs := by
  rw [retained, later, List.countP_filter]
  apply List.countP_congr
  intro f mem
  have kept := retains_iff sane (past f mem)
  simp only [Bool.and_eq_true, decide_eq_true_eq, kept]
  omega

theorem AuthFailureWindow.later_le_retained (sane : 0 ≤ nowMs ∧ nowMs < 2 ^ 62)
    (past : ∀ f ∈ window.failures, 0 ≤ f ∧ f ≤ nowMs) (recent : nowMs - authFailureWindowMs ≤ tsMs) :
    window.later tsMs ≤ (window.retained nowMs).length := by
  rw [← later_retained sane past recent]
  exact List.countP_le_length

theorem AuthFailureWindow.later_antitone {tsMs' : Int} (earlier : tsMs ≤ tsMs') :
    window.later tsMs' ≤ window.later tsMs := by
  apply List.countP_mono_left
  intro f _ after
  simp only [decide_eq_true_eq] at after ⊢
  omega

/-- As time passes less is retained. -/
theorem AuthFailureWindow.retained_mono {ms : Nat} (sane : 0 ≤ nowMs ∧ nowMs + ms < 2 ^ 62)
    (past : ∀ f ∈ window.failures, 0 ≤ f ∧ f ≤ nowMs) :
    (window.retained (nowMs + ms)).length ≤ (window.retained nowMs).length := by
  rw [retained, retained, ← List.countP_eq_length_filter, ← List.countP_eq_length_filter]
  apply List.countP_mono_left
  intro f mem kept
  have := past f mem
  rw [decide_eq_true_eq, retains_iff (by omega) (by omega)] at kept
  rw [decide_eq_true_eq, retains_iff (by omega) (by omega)]
  omega

theorem ensureAuthAttemptAllowed_locked
    (locked : ∃ until' ∈ ((throttle.get key).getD {}).lockedUntilTsMs, nowMs < until') :
    ensureAuthAttemptAllowed key nowMs throttle = (.error rateLimitDetail, throttle) := by
  obtain ⟨until', held, before⟩ := locked
  cases found : throttle.get key with
  | none =>
    rw [found] at held
    cases held
  | some window =>
    rw [found, Option.getD_some, Option.mem_def] at held
    simp only [ensureAuthAttemptAllowed, found, held, Option.any_some, before, decide_true, if_true]

/-- An attempt that is allowed leaves the failures that still count, and no lockout. -/
theorem ensureAuthAttemptAllowed_open
    (unlocked : ¬∃ until' ∈ ((throttle.get key).getD {}).lockedUntilTsMs, nowMs < until') :
    (ensureAuthAttemptAllowed key nowMs throttle).1 = .ok () ∧
    ((ensureAuthAttemptAllowed key nowMs throttle).2.get key).getD {} =
      { failures := ((throttle.get key).getD {}).retained nowMs, lockedUntilTsMs := none } := by
  cases found : throttle.get key with
  | none =>
    simp only [ensureAuthAttemptAllowed, found]
    exact ⟨trivial, rfl⟩
  | some window =>
    have passed : window.lockedUntilTsMs.any (fun until' => decide (nowMs < until')) = false := by
      rw [found, Option.getD_some] at unlocked
      rw [← Bool.not_eq_true, Option.any_eq_true]
      rintro ⟨until', held, before⟩
      exact unlocked ⟨until', held, of_decide_eq_true before⟩
    simp only [ensureAuthAttemptAllowed, found, passed, Bool.false_eq_true, if_false, Dict.get_insert_self,
      Option.getD_some, and_self]

theorem ensureAuthAttemptAllowed_other (differ : other ≠ key) :
    (ensureAuthAttemptAllowed key nowMs throttle).2.get other = throttle.get other := by
  unfold ensureAuthAttemptAllowed
  split
  · rfl
  · split
    · rfl
    · exact Dict.get_insert_ne differ

theorem recordAuthFailure_same :
    ((recordAuthFailure key nowMs throttle).2.get key).getD {} =
      { failures := ((throttle.get key).getD {}).retained nowMs ++ [nowMs]
        lockedUntilTsMs :=
          if authFailureLimit ≤ (((throttle.get key).getD {}).retained nowMs ++ [nowMs]).length then
            some (saturateI64 (nowMs + authLockoutMs))
          else ((throttle.get key).getD {}).lockedUntilTsMs } := by
  unfold recordAuthFailure
  dsimp only
  split
  · rw [Dict.get_insert_self, Option.getD_some]
  · rw [Dict.get_insert_self, Option.getD_some]

theorem recordAuthFailure_other (differ : other ≠ key) :
    (recordAuthFailure key nowMs throttle).2.get other = throttle.get other := by
  unfold recordAuthFailure
  dsimp only
  split
  · exact Dict.get_insert_ne differ
  · exact Dict.get_insert_ne differ

end Windows

/-! ## The steps -/

section Steps

variable {s : AuthSystem} {key : String} {attempt : AuthAttempt} {thread : AuthThread} {index ms : Nat}
  {secrets : AuthSecrets} {tsMs : Int} {log : List AuthEvent}

theorem recentWrong_other {event : AuthEvent} (differ : event.key ≠ key) :
    recentWrong key tsMs (event :: log) = recentWrong key tsMs log := by rw [recentWrong, if_neg differ]

/-- What has been logged is no later than now. -/
theorem recentWrong_now (logged : ∀ event ∈ log, event.tsMs ≤ tsMs) : recentWrong key tsMs log = 0 := by
  induction log with
  | nil => rfl
  | cons event log ih =>
    have tail := ih fun other mem => logged other (List.mem_cons_of_mem event mem)
    have early := logged event List.mem_cons_self
    rw [recentWrong]
    split
    · split
      · rfl
      · rw [if_neg (by omega)]
        omega
    · exact tail

theorem AuthSystem.failing_le : s.failing key ≤ s.inFlight key := by
  apply List.countP_mono_left
  intro thread _ counted
  exact (Bool.and_eq_true_iff.1 counted).1

theorem AuthSystem.Accounts.tick (h : s.Accounts key) (range : s.nowMs + ms < 2 ^ 62) :
    AuthSystem.Accounts { s with nowMs := s.nowMs + ms } key := by
  have sane := h.sane
  have dropped := (s.window key).later_antitone
    (show s.nowMs - authFailureWindowMs ≤ s.nowMs + ms - authFailureWindowMs by omega)
  have retained := (s.window key).retained_mono ⟨sane.1, range⟩ h.past
  constructor
  case sane => exact ⟨by dsimp only; omega, range⟩
  case past =>
    intro f mem
    have := h.past f mem
    exact ⟨this.1, by dsimp only; omega⟩
  case logged =>
    intro event mem
    have := h.logged event mem
    dsimp only
    omega
  case single => exact h.single
  case covered =>
    intro tsMs recent
    exact h.covered tsMs (by dsimp only at recent; omega)
  case room =>
    have room := h.room
    calc (s.window key).later (s.nowMs + ms - authFailureWindowMs) + s.inFlight key
      _ ≤ (s.window key).later (s.nowMs - authFailureWindowMs) + s.inFlight key := by omega
      _ ≤ authFailureLimit := room
  case kept =>
    obtain fits | few := h.kept
    · left
      calc ((s.window key).retained (s.nowMs + ms)).length + s.inFlight key
        _ ≤ ((s.window key).retained s.nowMs).length + s.inFlight key := by omega
        _ ≤ authFailureLimit := fits
    · exact .inr few
  case lockout =>
    intro tsMs recent
    exact h.lockout tsMs (by dsimp only at recent; omega)
  case alone =>
    rintro ⟨until', held, before⟩
    exact h.alone ⟨until', held, by dsimp only at before; omega⟩
  case bounded => exact h.bounded

/-- A move that leaves the window of a key and lets no more attempts of it in. -/
theorem AuthSystem.Accounts.frame (h : s.Accounts key) (s' : AuthSystem) (now : s'.nowMs = s.nowMs)
    (window : s'.window key = s.window key) (flight : s'.inFlight key ≤ s.inFlight key)
    (logged : ∀ event ∈ s'.log, event.tsMs ≤ s.nowMs)
    (single : ∀ thread ∈ s'.threads, thread.attempt.credentials.Single s'.apiKey)
    (covered : ∀ tsMs, s.nowMs - authFailureWindowMs ≤ tsMs →
      recentWrong key tsMs s'.log ≤ (s.window key).later tsMs + s'.failing key)
    (bounded : GuessesBounded key s'.log) : s'.Accounts key := by
  have room := h.room
  constructor
  case sane =>
    rw [now]
    exact h.sane
  case past =>
    rw [now, window]
    exact h.past
  case logged =>
    rw [now]
    exact logged
  case single => exact single
  case covered =>
    rw [now, window]
    exact covered
  case room =>
    rw [now, window]
    omega
  case kept =>
    rw [now, window]
    have kept := h.kept
    omega
  case lockout =>
    rw [now, window]
    exact h.lockout
  case alone =>
    rintro ⟨until', held, before⟩
    rw [window] at held
    rw [now] at before
    have none := h.alone ⟨until', held, before⟩
    omega
  case bounded => exact bounded

/-- An attempt that is let in. -/
def AuthSystem.letIn (s : AuthSystem) (attempt : AuthAttempt) : AuthSystem :=
  { s with
    throttle := (ensureAuthAttemptAllowed attempt.key s.nowMs s.throttle).2
    threads := s.threads ++ [{ attempt := attempt }] }

theorem AuthSystem.letIn_inFlight :
    (s.letIn attempt).inFlight key = s.inFlight key + if attempt.key = key then 1 else 0 := by
  rw [inFlight, letIn, List.countP_append, List.countP_singleton, inFlight]
  simp only [beq_iff_eq]

theorem AuthSystem.letIn_failing : (s.letIn attempt).failing key = s.failing key := by
  rw [failing, letIn, List.countP_append, List.countP_singleton, failing]
  simp

theorem AuthSystem.letIn_single (h : s.Accounts key) (single : attempt.credentials.Single s.apiKey) :
    ∀ thread ∈ (s.letIn attempt).threads, thread.attempt.credentials.Single s.apiKey := by
  intro thread mem
  rw [letIn, List.mem_append, List.mem_singleton] at mem
  obtain old | rfl := mem
  · exact h.single thread old
  · exact single

theorem AuthSystem.Accounts.letIn_other (h : s.Accounts key) (single : attempt.credentials.Single s.apiKey)
    (differ : attempt.key ≠ key) : (s.letIn attempt).Accounts key := by
  have window : (s.letIn attempt).window key = s.window key :=
    congrArg (·.getD {}) (ensureAuthAttemptAllowed_other (Ne.symm differ))
  have flight : (s.letIn attempt).inFlight key = s.inFlight key := by rw [letIn_inFlight, if_neg differ, Nat.add_zero]
  have covered : ∀ tsMs, s.nowMs - authFailureWindowMs ≤ tsMs →
      recentWrong key tsMs s.log ≤ (s.window key).later tsMs + (s.letIn attempt).failing key := by
    rw [letIn_failing]
    exact h.covered
  exact h.frame _ rfl window (le_of_eq flight) h.logged (letIn_single h single) covered h.bounded

/-- The attempt finds room: the failures on record and the attempts under way stay within
the limit. -/
theorem AuthSystem.Accounts.letIn_same (h : s.Accounts attempt.key) (unlocked : ¬s.LockedOut attempt.key)
    (single : attempt.credentials.Single s.apiKey)
    (fits : s.inFlight attempt.key = 0 ∨
      ((s.window attempt.key).retained s.nowMs).length + s.inFlight attempt.key < authFailureLimit) :
    (s.letIn attempt).Accounts attempt.key := by
  have sane := h.sane
  have window : (s.letIn attempt).window attempt.key =
      { failures := (s.window attempt.key).retained s.nowMs, lockedUntilTsMs := none } :=
    (ensureAuthAttemptAllowed_open unlocked).2
  have flight : (s.letIn attempt).inFlight attempt.key = s.inFlight attempt.key + 1 := by
    rw [letIn_inFlight, if_pos rfl]
  have later : ∀ tsMs, s.nowMs - authFailureWindowMs ≤ tsMs →
      ((s.letIn attempt).window attempt.key).later tsMs = (s.window attempt.key).later tsMs := by
    intro tsMs recent
    rw [window]
    exact AuthFailureWindow.later_retained sane h.past recent
  have recently := later (s.nowMs - authFailureWindowMs) (Int.le_refl _)
  have below : (s.window attempt.key).later (s.nowMs - authFailureWindowMs) < authFailureLimit := by
    by_contra full
    obtain ⟨until', held, before⟩ := h.lockout (s.nowMs - authFailureWindowMs) (Int.le_refl _) (by omega)
    exact unlocked ⟨until', held, by omega⟩
  have retained := AuthFailureWindow.later_le_retained sane h.past (Int.le_refl (s.nowMs - authFailureWindowMs))
  constructor
  case sane => exact sane
  case past =>
    intro f mem
    rw [window] at mem
    exact h.past f (List.mem_of_mem_filter mem)
  case logged => exact h.logged
  case single => exact letIn_single h single
  case covered =>
    intro tsMs recent
    rw [later tsMs recent, letIn_failing]
    exact h.covered tsMs recent
  case room =>
    show ((s.letIn attempt).window attempt.key).later (s.nowMs - authFailureWindowMs) +
      (s.letIn attempt).inFlight attempt.key ≤ authFailureLimit
    omega
  case kept =>
    rw [window, flight]
    show (({ s.window attempt.key with failures := _ } : AuthFailureWindow).retained s.nowMs).length + _ ≤ _ ∨ _
    rw [AuthFailureWindow.retained_retained]
    omega
  case lockout =>
    intro tsMs (recent : s.nowMs - authFailureWindowMs ≤ tsMs) full
    have earlier := (s.window attempt.key).later_antitone recent
    rw [later tsMs recent] at full
    omega
  case alone =>
    rintro ⟨until', held, before⟩
    rw [window] at held
    cases held
  case bounded => exact h.bounded

/-- What becomes of an attempt that is verified. -/
def AuthThread.verified (thread : AuthThread) (verdict : AuthVerdict) : Option AuthThread :=
  if verdict = .passed then none else some { thread with verdict := some verdict }

theorem AuthThread.verified_attempt {verdict : AuthVerdict} :
    ∀ next ∈ thread.verified verdict, next.attempt = thread.attempt := by
  intro next mem
  unfold verified at mem
  split at mem
  · cases mem
  · cases mem
    rfl

theorem AuthSystem.verifyThread_threads : (s.verifyThread index thread secrets).threads =
    replaceThread s.threads index (thread.verified (thread.attempt.credentials.verify s.apiKey secrets).1) := rfl

/-- A verification that fails is one more failure to be recorded. -/
theorem AuthSystem.verifyThread_failing (found : s.threads[index]? = some thread) (asked : thread.verdict = none) :
    (s.verifyThread index thread secrets).failing key = s.failing key +
      if thread.attempt.key = key ∧ (thread.attempt.credentials.verify s.apiKey secrets).1 = .failed then 1 else 0 := by
  have count := countP_replaceThread found (thread.verified (thread.attempt.credentials.verify s.apiKey secrets).1)
    fun thread => thread.attempt.key == key && thread.verdict == some .failed
  have before : (thread.attempt.key == key && thread.verdict == some .failed) = false := by
    rw [asked]
    exact Bool.and_false _
  rw [before, if_neg Bool.false_ne_true] at count
  have after : (thread.verified (thread.attempt.credentials.verify s.apiKey secrets).1).toList.countP
      (fun thread => thread.attempt.key == key && thread.verdict == some .failed) =
      if thread.attempt.key = key ∧ (thread.attempt.credentials.verify s.apiKey secrets).1 = .failed then 1 else 0 := by
    cases (thread.attempt.credentials.verify s.apiKey secrets).1 with
    | passed => simp [AuthThread.verified]
    | accepted => simp [AuthThread.verified]
    | failed => simp [AuthThread.verified, List.countP_singleton]
  rw [after] at count
  rw [failing, verifyThread_threads, failing]
  omega

/-- The wrong credential of a verification is a failure about to be recorded. -/
theorem AuthSystem.Accounts.verify (h : s.Accounts key) (found : s.threads[index]? = some thread)
    (asked : thread.verdict = none) (readable : thread.attempt.credentials.Readable s.apiKey secrets) :
    (s.verifyThread index thread secrets).Accounts key := by
  have single := h.single thread (List.mem_of_getElem? found)
  have guesses := single.guesses secrets
  have failing : (s.verifyThread index thread secrets).failing key = _ := verifyThread_failing found asked
  have flight : (s.verifyThread index thread secrets).inFlight key ≤ s.inFlight key :=
    inFlight_replaceThread found AuthThread.verified_attempt
  have threads : ∀ other ∈ (s.verifyThread index thread secrets).threads, other.attempt.credentials.Single s.apiKey := by
    intro other mem
    obtain old | new := mem_replaceThread mem
    · exact h.single other old
    · rw [AuthThread.verified_attempt other new]
      exact single
  by_cases wrong : (thread.attempt.credentials.verify s.apiKey secrets).2 = []
  · have log : (s.verifyThread index thread secrets).log = s.log := if_pos (List.isEmpty_iff.2 wrong)
    apply h.frame (s.verifyThread index thread secrets) rfl rfl flight
    · rw [log]
      exact h.logged
    · exact threads
    · intro tsMs recent
      have covered := h.covered tsMs recent
      rw [log]
      omega
    · rw [log]
      exact h.bounded
  · have failed : (thread.attempt.credentials.verify s.apiKey secrets).1 = .failed := by
      by_contra unfailed
      exact wrong (AuthCredentials.verify_wrong readable unfailed)
    have log : (s.verifyThread index thread secrets).log =
        { key := thread.attempt.key, tsMs := s.nowMs
          wrong := (thread.attempt.credentials.verify s.apiKey secrets).2.length, success := false } :: s.log :=
      if_neg fun empty => wrong (List.isEmpty_iff.1 empty)
    have covered : ∀ tsMs, s.nowMs - authFailureWindowMs ≤ tsMs →
        recentWrong key tsMs (s.verifyThread index thread secrets).log ≤
          (s.window key).later tsMs + (s.verifyThread index thread secrets).failing key := by
      intro tsMs recent
      have covered := h.covered tsMs recent
      rw [log]
      by_cases same : thread.attempt.key = key
      · rw [if_pos ⟨same, failed⟩] at failing
        rw [recentWrong, if_pos same, if_neg Bool.false_ne_true]
        dsimp only
        split
        · omega
        · omega
      · rw [recentWrong_other same]
        omega
    apply h.frame (s.verifyThread index thread secrets) rfl rfl flight
    · rw [log]
      intro event mem
      obtain rfl | old := List.mem_cons.1 mem
      · exact Int.le_refl _
      · exact h.logged event old
    · exact threads
    · exact covered
    · have now := covered (s.nowMs - authFailureWindowMs) (Int.le_refl _)
      have room := h.room
      have some_fail : (s.verifyThread index thread secrets).failing key ≤ _ := AuthSystem.failing_le
      rw [log] at now ⊢
      apply h.bounded.push
      intro _ _
      dsimp only
      omega

/-- The threads once one has ended. -/
theorem replaceThread_none_inFlight (key : String) (found : s.threads[index]? = some thread) :
    (replaceThread s.threads index none).countP (fun thread => thread.attempt.key == key) +
      (if thread.attempt.key = key then 1 else 0) = s.inFlight key := by
  have count := countP_replaceThread found none fun thread => thread.attempt.key == key
  rw [Option.toList_none, List.countP_nil, Nat.add_zero] at count
  simp only [beq_iff_eq] at count
  exact count

theorem replaceThread_none_failing (key : String) (found : s.threads[index]? = some thread) :
    (replaceThread s.threads index none).countP
        (fun thread => thread.attempt.key == key && thread.verdict == some .failed) +
      (if thread.attempt.key = key ∧ thread.verdict = some .failed then 1 else 0) = s.failing key := by
  have count := countP_replaceThread found none fun thread => thread.attempt.key == key && thread.verdict == some .failed
  rw [Option.toList_none, List.countP_nil, Nat.add_zero] at count
  simp only [Bool.and_eq_true, beq_iff_eq] at count
  exact count

theorem AuthSystem.Accounts.ended (h : s.Accounts key) :
    ∀ thread ∈ replaceThread s.threads index none, thread.attempt.credentials.Single s.apiKey := by
  intro thread mem
  obtain old | new := mem_replaceThread mem
  · exact h.single thread old
  · cases new

/-- A failure is recorded with another key. -/
theorem AuthSystem.Accounts.fail_other (h : s.Accounts key) (found : s.threads[index]? = some thread)
    (differ : thread.attempt.key ≠ key) : (s.settleThread index thread .failed).Accounts key := by
  have window : (s.settleThread index thread .failed).window key = s.window key :=
    congrArg (·.getD {}) (recordAuthFailure_other (Ne.symm differ))
  have flight := replaceThread_none_inFlight key found
  have failing : (s.settleThread index thread .failed).failing key + _ = s.failing key :=
    replaceThread_none_failing _ found
  rw [if_neg differ] at flight
  rw [if_neg fun both => differ both.1] at failing
  have covered : ∀ tsMs, s.nowMs - authFailureWindowMs ≤ tsMs →
      recentWrong key tsMs s.log ≤ (s.window key).later tsMs + (s.settleThread index thread .failed).failing key := by
    intro tsMs recent
    have covered := h.covered tsMs recent
    omega
  exact h.frame _ rfl window (le_of_eq flight) h.logged h.ended covered h.bounded

/-- The failure that was about to be recorded is on record. -/
theorem AuthSystem.Accounts.fail_same (h : s.Accounts thread.attempt.key) (found : s.threads[index]? = some thread)
    (failed : thread.verdict = some .failed) :
    (s.settleThread index thread .failed).Accounts thread.attempt.key := by
  have sane := h.sane
  have window : (s.settleThread index thread .failed).window thread.attempt.key =
      { failures := (s.window thread.attempt.key).retained s.nowMs ++ [s.nowMs]
        lockedUntilTsMs :=
          if authFailureLimit ≤ ((s.window thread.attempt.key).retained s.nowMs ++ [s.nowMs]).length then
            some (saturateI64 (s.nowMs + authLockoutMs))
          else (s.window thread.attempt.key).lockedUntilTsMs } := recordAuthFailure_same
  have flight : (s.settleThread index thread .failed).inFlight thread.attempt.key + _ = s.inFlight thread.attempt.key :=
    replaceThread_none_inFlight _ found
  have failing : (s.settleThread index thread .failed).failing thread.attempt.key + _ = s.failing thread.attempt.key :=
    replaceThread_none_failing _ found
  rw [if_pos rfl] at flight
  rw [if_pos ⟨rfl, failed⟩] at failing
  have later : ∀ tsMs, s.nowMs - authFailureWindowMs ≤ tsMs →
      ((s.settleThread index thread .failed).window thread.attempt.key).later tsMs =
        (s.window thread.attempt.key).later tsMs + if tsMs < s.nowMs then 1 else 0 := by
    intro tsMs recent
    rw [window, AuthFailureWindow.later, List.countP_append, List.countP_singleton]
    rw [AuthFailureWindow.later_retained sane h.past recent]
    simp only [decide_eq_true_eq]
  have retained : ((s.settleThread index thread .failed).window thread.attempt.key).retained s.nowMs =
      (s.window thread.attempt.key).retained s.nowMs ++ [s.nowMs] := by
    have now : saturateI64 (s.nowMs - s.nowMs) ≤ authFailureWindowMs := by simp [saturateI64, authFailureWindowMs]
    rw [window, AuthFailureWindow.retained, List.filter_append, List.filter_singleton, decide_eq_true now]
    exact congrArg (· ++ [s.nowMs]) AuthFailureWindow.retained_retained
  have recently := later (s.nowMs - authFailureWindowMs) (Int.le_refl _)
  have kept := h.kept
  have room := h.room
  constructor
  case sane => exact sane
  case past =>
    intro f mem
    rw [window] at mem
    obtain old | new := List.mem_append.1 mem
    · exact h.past f (List.mem_of_mem_filter old)
    · rw [List.mem_singleton.1 new]
      exact ⟨sane.1, Int.le_refl _⟩
  case logged => exact h.logged
  case single => exact h.ended
  case covered =>
    intro tsMs (recent : s.nowMs - authFailureWindowMs ≤ tsMs)
    have covered := h.covered tsMs recent
    show recentWrong thread.attempt.key tsMs s.log ≤ _
    rw [later tsMs recent]
    by_cases before : tsMs < s.nowMs
    · rw [if_pos before]
      omega
    · have none : recentWrong thread.attempt.key tsMs s.log = 0 := by
        apply recentWrong_now
        intro event mem
        have := h.logged event mem
        omega
      omega
  case room =>
    show ((s.settleThread index thread .failed).window thread.attempt.key).later (s.nowMs - authFailureWindowMs) +
      (s.settleThread index thread .failed).inFlight thread.attempt.key ≤ authFailureLimit
    split at recently
    · omega
    · omega
  case kept =>
    show (((s.settleThread index thread .failed).window thread.attempt.key).retained s.nowMs).length + _ ≤ _ ∨ _
    rw [retained, List.length_append, List.length_singleton]
    omega
  case lockout =>
    intro tsMs (recent : s.nowMs - authFailureWindowMs ≤ tsMs) full
    have earlier : _ ≤ ((s.window thread.attempt.key).retained s.nowMs).length :=
      AuthFailureWindow.later_le_retained sane h.past recent
    rw [later tsMs recent] at full
    by_cases before : tsMs < s.nowMs
    · have reached : authFailureLimit ≤ ((s.window thread.attempt.key).retained s.nowMs ++ [s.nowMs]).length := by
        rw [if_pos before] at full
        rw [List.length_append, List.length_singleton]
        omega
      rw [window]
      dsimp only
      rw [if_pos reached]
      refine ⟨_, rfl, ?_⟩
      simp only [saturateI64, authLockoutMs, authFailureWindowMs]
      omega
    · have none : (s.window thread.attempt.key).later tsMs = 0 := by
        rw [AuthFailureWindow.later, List.countP_eq_zero]
        intro f mem
        have := h.past f mem
        rw [decide_eq_true_eq]
        omega
      rw [none, if_neg before] at full
      exact absurd full (by decide)
  case alone =>
    rintro ⟨until', held, before⟩
    rw [window] at held
    dsimp only at held
    by_cases reached : authFailureLimit ≤ ((s.window thread.attempt.key).retained s.nowMs ++ [s.nowMs]).length
    · rw [List.length_append, List.length_singleton] at reached
      omega
    · rw [if_neg reached] at held
      have none := h.alone ⟨until', held, before⟩
      omega
  case bounded => exact h.bounded

theorem AuthSystem.Accounts.clear_other (h : s.Accounts key) (found : s.threads[index]? = some thread)
    (differ : thread.attempt.key ≠ key) :
    (s.settleThread index thread .accepted).Accounts key := by
  have window : (s.settleThread index thread .accepted).window key = s.window key := by
    show ((s.throttle.remove thread.attempt.key).get key).getD {} = _
    rw [Dict.get_remove, if_neg (Ne.symm differ)]
    rfl
  have flight := replaceThread_none_inFlight key found
  have failing : (s.settleThread index thread .accepted).failing key + _ = s.failing key :=
    replaceThread_none_failing _ found
  rw [if_neg differ] at flight
  rw [if_neg fun both => differ both.1] at failing
  apply h.frame (s.settleThread index thread .accepted) rfl window (le_of_eq flight)
  · intro event mem
    obtain rfl | old := List.mem_cons.1 mem
    · exact Int.le_refl _
    · exact h.logged event old
  · exact h.ended
  · intro tsMs recent
    have covered := h.covered tsMs recent
    show recentWrong key tsMs (_ :: s.log) ≤ _
    rw [recentWrong_other differ]
    omega
  · exact h.bounded.push fun failed => Bool.noConfusion failed

/-- After a success the account of its key is empty. -/
theorem AuthSystem.Accounts.clear_same (h : s.Accounts thread.attempt.key) (found : s.threads[index]? = some thread) :
    (s.settleThread index thread .accepted).Accounts thread.attempt.key := by
  have window : (s.settleThread index thread .accepted).window thread.attempt.key = {} := by
    show ((s.throttle.remove thread.attempt.key).get thread.attempt.key).getD {} = _
    rw [Dict.get_remove, if_pos rfl]
    rfl
  have flight : (s.settleThread index thread .accepted).inFlight thread.attempt.key + _ =
      s.inFlight thread.attempt.key := replaceThread_none_inFlight _ found
  rw [if_pos rfl] at flight
  have room := h.room
  constructor
  case sane => exact h.sane
  case past =>
    rw [window]
    exact fun f mem => absurd mem List.not_mem_nil
  case logged =>
    intro event mem
    obtain rfl | old := List.mem_cons.1 mem
    · exact Int.le_refl _
    · exact h.logged event old
  case single => exact h.ended
  case covered =>
    intro tsMs _
    show recentWrong thread.attempt.key tsMs (_ :: s.log) ≤ _
    rw [recentWrong, if_pos rfl, if_pos rfl]
    exact Nat.zero_le _
  case room =>
    rw [window]
    show 0 + (s.settleThread index thread .accepted).inFlight thread.attempt.key ≤ authFailureLimit
    omega
  case kept =>
    rw [window]
    left
    show 0 + (s.settleThread index thread .accepted).inFlight thread.attempt.key ≤ authFailureLimit
    omega
  case lockout =>
    rw [window]
    intro tsMs _ full
    exact absurd full (by decide : ¬authFailureLimit ≤ 0)
  case alone =>
    rw [AuthSystem.LockedOut, window]
    rintro ⟨until', held, before⟩
    cases held
  case bounded => exact h.bounded.push fun failed => Bool.noConfusion failed

/-- An orderly move keeps the account of every key. -/
theorem AuthSystem.Accounts.step {move : AuthMove} (h : s.Accounts key) (orderly : s.Orderly move) :
    (s.step move).Accounts key := by
  cases move with
  | tick ms =>
    unfold AuthSystem.step
    dsimp only
    split
    · exact h.tick ‹_›
    · exact h
  | check attempt =>
    unfold AuthSystem.step
    dsimp only
    split
    · exact h
    · rename_i asked
      by_cases locked : s.LockedOut attempt.key
      · rw [ensureAuthAttemptAllowed_locked locked]
        exact h
      · have passed := (ensureAuthAttemptAllowed_open locked).1
        obtain ⟨single, fits⟩ := orderly (Bool.eq_false_iff.2 asked) locked
        rw [passed]
        show (s.letIn attempt).Accounts key
        by_cases same : attempt.key = key
        · subst same
          exact h.letIn_same locked single fits
        · exact h.letIn_other single same
  | verify index secrets =>
    unfold AuthSystem.step
    dsimp only
    split
    · rename_i thread found
      split
      · rename_i asked
        exact h.verify found asked (orderly thread found)
      · exact h
    · exact h
  | settle index =>
    unfold AuthSystem.step
    dsimp only
    split
    · rename_i thread found
      split
      · rename_i verdict decided
        by_cases same : thread.attempt.key = key
        · subst same
          cases verdict with
          | failed => exact h.fail_same found decided
          | accepted => exact h.clear_same found
          | passed => exact h
        · cases verdict with
          | failed => exact h.fail_other found same
          | accepted => exact h.clear_other found same
          | passed => exact h
      · exact h
    · exact h

/-- Before any attempt. -/
theorem AuthSystem.Accounts.fresh {apiKey : Option String} {nowMs : Int} (sane : 0 ≤ nowMs ∧ nowMs < 2 ^ 62) :
    AuthSystem.Accounts { apiKey, nowMs } key := by
  constructor
  case sane => exact sane
  case past => exact fun f mem => absurd mem List.not_mem_nil
  case logged => exact fun event mem => absurd mem List.not_mem_nil
  case single => exact fun thread mem => absurd mem List.not_mem_nil
  case covered => exact fun tsMs _ => Nat.zero_le _
  case room => exact Nat.zero_le _
  case kept => exact .inl (Nat.zero_le _)
  case lockout => exact fun tsMs _ full => absurd full (by decide : ¬authFailureLimit ≤ 0)
  case alone => exact fun _ => rfl
  case bounded =>
    intro after stretch before split _ _
    obtain ⟨leading, _⟩ := List.append_eq_nil_iff.1 split.symm
    rw [(List.append_eq_nil_iff.1 leading).2]
    exact Nat.zero_le _

end Steps

/-- A run keeps the accounts while its moves are orderly. -/
theorem OrderlyLogins.accounts {apiKey : Option String} {nowMs : Int} {moves : List AuthMove}
    (orderly : OrderlyLogins { apiKey, nowMs } moves) (sane : 0 ≤ nowMs ∧ nowMs < 2 ^ 62) (key : String) :
    (AuthSystem.run { apiKey, nowMs } moves).Accounts key := by
  induction orderly with
  | start => exact .fresh sane
  | move moves move before orderly ih =>
    rw [AuthSystem.run, List.foldl_append]
    exact ih.step orderly

/-- The key of an attempt tells the surface and the address. -/
theorem authThrottleKey_inj {surface surface' : AuthSurface} {clientAddr clientAddr' : Option ClientAddr}
    (same : authThrottleKey surface clientAddr = authThrottleKey surface' clientAddr') :
    surface = surface' ∧
    (clientAddr.map ClientAddr.ip).getD "unknown" = (clientAddr'.map ClientAddr.ip).getD "unknown" := by
  have letters := congrArg String.toList same
  simp only [authThrottleKey, String.toList_append] at letters
  cases surface <;> cases surface' <;> simp [AuthSurface.name] at letters ⊢
  all_goals exact String.toList_injective letters

/-! ## The bound -/

/-- A run whose moves are orderly has no more wrong credentials of a surface and a client
between two successes in a window of time than the limit, and a credential waits to be
verified only where no lockout is in force. -/
theorem orderly_logins_bounded (apiKey : Option String) (nowMs : Int) (sane : 0 ≤ nowMs ∧ nowMs < 2 ^ 62)
    (moves : List AuthMove) (orderly : OrderlyLogins { apiKey, nowMs } moves) (surface : AuthSurface)
    (clientAddr : Option ClientAddr) :
    GuessesBounded (authThrottleKey surface clientAddr) (AuthSystem.run { apiKey, nowMs } moves).log ∧
    ∀ thread ∈ (AuthSystem.run { apiKey, nowMs } moves).threads,
      thread.attempt.key = authThrottleKey surface clientAddr → thread.verdict = none →
        ¬(AuthSystem.run { apiKey, nowMs } moves).LockedOut (authThrottleKey surface clientAddr) := by
  have account := orderly.accounts sane (authThrottleKey surface clientAddr)
  constructor
  · exact account.bounded
  · intro thread mem same _ locked
    have none := account.alone locked
    rw [AuthSystem.inFlight, List.countP_eq_zero] at none
    exact none thread mem (beq_iff_eq.2 same)

/-- A wrong PIN from nowhere in particular. -/
def pinLogin : AuthAttempt := { surface := .killSwitchPin, clientAddr := none, credentials := .pin "000000" }

/-- A PIN that is another one. -/
def otherPin : AuthSecrets := { remotePassword := .ok none, killSwitchPin := .ok fun pin => .ok (pin == "123456") }

theorem one_login_bounded :
    GuessesBounded (authThrottleKey .killSwitchPin none)
      (AuthSystem.run { apiKey := none, nowMs := 0 } [.check pinLogin, .verify 0 otherPin, .settle 0]).log ∧
    ∀ thread ∈ (AuthSystem.run { apiKey := none, nowMs := 0 } [.check pinLogin, .verify 0 otherPin, .settle 0]).threads,
      thread.attempt.key = authThrottleKey .killSwitchPin none → thread.verdict = none →
        ¬(AuthSystem.run { apiKey := none, nowMs := 0 } [.check pinLogin, .verify 0 otherPin, .settle 0]).LockedOut
          (authThrottleKey .killSwitchPin none) := by
  have checked : OrderlyLogins { apiKey := none, nowMs := 0 } [.check pinLogin] :=
    .move [] _ .start fun _ _ => ⟨trivial, .inl rfl⟩
  have verified : OrderlyLogins { apiKey := none, nowMs := 0 } [.check pinLogin, .verify 0 otherPin] := by
    apply OrderlyLogins.move [.check pinLogin] _ checked
    intro thread found
    cases found
    trivial
  exact orderly_logins_bounded none 0 (by decide) [.check pinLogin, .verify 0 otherPin, .settle 0]
    (.move [.check pinLogin, .verify 0 otherPin] _ verified trivial) .killSwitchPin none

/-- Six attempts that are let in before the first is verified, and five of them to their end. -/
def sixLogins : List AuthMove :=
  List.replicate 6 (.check pinLogin) ++ (List.replicate 5 [.verify 0 otherPin, .settle 0]).flatten

/-- The sixth is verified while the lockout is in force, and is one guess too many. -/
theorem sixth_guess_in_lockout :
    ((AuthSystem.run { apiKey := none, nowMs := 0 } sixLogins).threads.map fun thread =>
      (thread.attempt.key == pinLogin.key, thread.verdict)) = [(true, none)] ∧
    (AuthSystem.run { apiKey := none, nowMs := 0 } sixLogins).LockedOut pinLogin.key ∧
    ¬GuessesBounded pinLogin.key
      (AuthSystem.run { apiKey := none, nowMs := 0 } (sixLogins ++ [.verify 0 otherPin])).log := by
  refine ⟨by decide, ⟨300000, by decide, by decide⟩, fun bounded => ?_⟩
  have guesses := bounded [] _ [] (List.append_nil _).symm (by decide) (by decide)
  exact absurd guesses (by decide)

end TelemetryHub
