import TelemetryHub.Server.Setup

/-!
# One setup, whole

Where no request passes the checks while another is under way, and none is stopped between
the first and the last setting of the PIN, the PIN stands or it does not: either nothing of
it is written and setup can be completed, or all of one request is in force.
-/

namespace TelemetryHub

open Lib

/-! ## Numbers as settings -/

theorem foldl_digits {digits : List Char} (all : ∀ c ∈ digits, c.isDigit = true) (start : Nat) :
    digits.foldl (fun acc c => acc.bind fun n => if c.isDigit then some (n * 10 + (c.toNat - 48)) else none) (some start) =
      some (Nat.ofDigitChars 10 digits start) := by
  induction digits generalizing start with
  | nil => rfl
  | cons c digits ih =>
    have next : start * 10 + (c.toNat - 48) = 10 * start + (c.toNat - '0'.toNat) := by rw [Nat.mul_comm]; rfl
    rw [List.foldl_cons, Option.bind_some, if_pos (all c List.mem_cons_self), next,
      ih fun other mem => all other (List.mem_cons_of_mem c mem), Nat.ofDigitChars_cons]

theorem digitsValue_toDigits (n : Nat) : digitsValue (Nat.toDigits 10 n) = some n := by
  have digits : ∀ c ∈ Nat.toDigits 10 n, c.isDigit = true :=
    fun c mem => Nat.isDigit_of_mem_toDigits (by decide) (by decide) mem
  have value := foldl_digits digits 0
  rw [Nat.ofDigitChars_ten_toDigits] at value
  unfold digitsValue
  split
  · rename_i empty
    exact absurd empty Nat.toDigits_ne_nil
  · exact value

/-- A number is read back from its text. -/
theorem parseI64_toString {n : Int} (range : inI64 n = true) : parseI64 (toString n) = some n := by
  cases n with
  | ofNat m =>
    have text : (toString (Int.ofNat m)).toList = Nat.toDigits 10 m := Nat.toList_repr
    have first : ∀ c rest, Nat.toDigits 10 m = c :: rest → c.isDigit = true := by
      intro c rest split
      apply Nat.isDigit_of_mem_toDigits (b := 10) (n := m) (by decide) (by decide)
      rw [split]
      exact List.mem_cons_self
    unfold parseI64
    rw [text]
    split
    · rename_i rest minus
      exact absurd (first '-' rest minus) (by decide)
    · rename_i rest plus
      exact absurd (first '+' rest plus) (by decide)
    · simp only [digitsValue_toDigits]
      exact Option.filter_eq_some_iff.2 ⟨rfl, range⟩
  | negSucc m =>
    have text : (toString (Int.negSucc m)).toList = '-' :: Nat.toDigits 10 (m + 1) := by
      show (("-" : String) ++ Nat.repr (m + 1)).toList = _
      rw [String.toList_append, Nat.toList_repr]
      rfl
    unfold parseI64
    rw [text]
    simp only [digitsValue_toDigits]
    exact Option.filter_eq_some_iff.2 ⟨rfl, range⟩

/-! ## Records -/

section Records

variable [SetupHost] {names : SecretSettings} {settings : Dict String String} {secret : StoredSecret}

/-- Nothing of a secret is written. -/
def Unwritten (names : SecretSettings) (settings : Dict String String) : Prop :=
  settings.get names.salt = none ∧ settings.get names.hash = none ∧ settings.get names.createdAt = none

theorem loadSecret_eq_none : loadSecret names settings = .ok none ↔ Unwritten names settings := by
  unfold loadSecret Unwritten
  cases settings.get names.salt with
  | none =>
    cases settings.get names.hash with
    | none => cases settings.get names.createdAt <;> simp
    | some hash => simp
  | some salt =>
    cases settings.get names.hash with
    | none => simp
    | some hash =>
      cases settings.get names.createdAt with
      | none => simp
      | some createdAt =>
        dsimp only
        split
        · split
          · simp
          · simp
        · simp

/-- A secret whose three settings are written is read back. -/
theorem loadSecret_eq_some (salt : settings.get names.salt = some secret.salt)
    (hash : settings.get names.hash = some secret.hash)
    (createdAt : settings.get names.createdAt = some (toString secret.createdAtTsMs))
    (filled : secret.salt.isEmpty = false ∧ secret.hash.isEmpty = false) (range : inI64 secret.createdAtTsMs = true) :
    loadSecret names settings = .ok (some secret) := by
  unfold loadSecret
  rw [salt, hash, createdAt]
  dsimp only
  rw [filled.1, filled.2, parseI64_toString range]
  rfl

/-- A record without its last setting is an error. -/
theorem loadSecret_partial (secret : StoredSecret) (salt : settings.get names.salt = some secret.salt)
    (createdAt : settings.get names.createdAt = none) :
    ∃ error, loadSecret names settings = .error error := by
  unfold loadSecret
  rw [salt, createdAt]
  cases settings.get names.hash <;> exact ⟨_, rfl⟩

theorem SecretDraws.filled (draws : SecretDraws) (value : String) :
    (draws.secret value).salt.isEmpty = false ∧ (draws.secret value).hash.isEmpty = false := by
  constructor
  · have letters : draws.salt.hyphenated.toList ≠ [] := by
      rw [Uuid.hyphenated, String.toList_ofList]
      simp
    rw [Bool.eq_false_iff, Ne, String.isEmpty_iff, ← String.toList_eq_nil_iff]
    exact letters
  · have phc := SetupHost.argon2idHash_phc draws.hashSalt value
    rw [Bool.eq_false_iff, Ne, String.isEmpty_iff]
    intro empty
    rw [show (draws.secret value).hash = SetupHost.argon2idHash draws.hashSalt value from rfl] at empty
    rw [empty] at phc
    exact absurd phc (by decide)

end Records

/-! ## What the writes leave -/

namespace SetupSystem

variable [SetupHost] {s base : SetupSystem} {request : SetupRequest} {key : String} {writes more : List SetupWrite}

omit [SetupHost] in
/-- Several writes. -/
def applyAll (s : SetupSystem) (writes : List SetupWrite) : SetupSystem := writes.foldl apply s

omit [SetupHost] in
theorem applyAll_append : s.applyAll (writes ++ more) = (s.applyAll writes).applyAll more := List.foldl_append ..

omit [SetupHost] in
/-- The same files and settings. -/
structure SameStore (s other : SetupSystem) : Prop where
  config : s.config = other.config
  reticulumConfig : s.reticulumConfig = other.reticulumConfig
  settings : s.settings = other.settings

omit [SetupHost] in
theorem SameStore.apply {other : SetupSystem} (same : s.SameStore other) (write : SetupWrite) :
    (s.apply write).SameStore (other.apply write) := by
  obtain ⟨config, reticulumConfig, settings⟩ := same
  cases write with
  | hubConfig hubName =>
    refine ⟨?_, reticulumConfig, settings⟩
    show s.config.map _ = other.config.map _
    rw [config]
  | reticulumConfig text =>
    refine ⟨config, ?_, settings⟩
    show s.reticulumConfig.map _ = other.reticulumConfig.map _
    rw [reticulumConfig]
  | setting key value =>
    refine ⟨config, reticulumConfig, ?_⟩
    show s.settings.insert key value = other.settings.insert key value
    rw [settings]

omit [SetupHost] in
/-- The writes of the files. -/
def fileWrites (s : SetupSystem) (request : SetupRequest) : List SetupWrite :=
  (if s.config.isSome then [.hubConfig request.hubName] else []) ++
    ((s.reticulumConfig.bind fun _ => request.payload.reticulumConfigText).toList.map .reticulumConfig)

/-- The writes before those of the PIN. -/
def earlyWrites (s : SetupSystem) (request : SetupRequest) : List SetupWrite :=
  s.fileWrites request ++ [.setting hubNameSetting request.hubName] ++
    secretWrites remoteAccessPasswordSettings request.remotePassword

theorem writes_eq : s.writes request =
    s.earlyWrites request ++ secretWrites killSwitchPinSettings request.killSwitchPin := rfl

omit [SetupHost] in
/-- A setting that is not among the writes stays. -/
theorem applyAll_other (other : ∀ write ∈ writes, ∀ key' value, write = .setting key' value → key ≠ key') :
    (s.applyAll writes).settings.get key = s.settings.get key := by
  induction writes generalizing s with
  | nil => rfl
  | cons write writes ih =>
    have rest := ih (s := s.apply write) fun later mem => other later (List.mem_cons_of_mem write mem)
    show ((s.apply write).applyAll writes).settings.get key = _
    rw [rest]
    cases write with
    | hubConfig hubName => rfl
    | reticulumConfig text => rfl
    | setting key' value => exact Dict.get_insert_ne (other _ List.mem_cons_self key' value rfl)

/-- No write before those of the PIN is of a setting of it. -/
theorem earlyWrites_other (mem : key ∈ [killSwitchPinSettings.salt, killSwitchPinSettings.hash, killSwitchPinSettings.createdAt]) :
    ∀ write ∈ s.earlyWrites request, ∀ key' value, write = .setting key' value → key ≠ key' := by
  rintro write there key' value rfl
  have known : key' ∈ [hubNameSetting, remoteAccessPasswordSettings.salt, remoteAccessPasswordSettings.hash,
      remoteAccessPasswordSettings.createdAt] := by
    simp only [earlyWrites, fileWrites, secretWrites, List.mem_append, List.mem_map, List.mem_cons, SetupWrite.setting.injEq,
      List.not_mem_nil, or_false, reduceCtorEq, and_false, exists_false] at there ⊢
    obtain (absent | ⟨rfl, -⟩) | ⟨rfl, -⟩ | ⟨rfl, -⟩ | ⟨rfl, -⟩ := there
    · split at absent
      · simp at absent
      · cases absent
    · simp
    · simp
    · simp
    · simp
  rintro rfl
  simp only [List.mem_cons, List.not_mem_nil, or_false] at mem known
  obtain rfl | rfl | rfl := mem
  · revert known
    decide
  · revert known
    decide
  · revert known
    decide

/-- The settings of the PIN stand as before while only the writes before them have been made. -/
theorem applyAll_early {done : List SetupWrite} (prior : done <+: base.earlyWrites request)
    (unwritten : Unwritten killSwitchPinSettings base.settings) :
    Unwritten killSwitchPinSettings (base.applyAll done).settings := by
  have stays : ∀ key ∈ [killSwitchPinSettings.salt, killSwitchPinSettings.hash, killSwitchPinSettings.createdAt],
      (base.applyAll done).settings.get key = base.settings.get key := by
    intro key mem
    apply applyAll_other
    exact fun write there => earlyWrites_other mem write (prior.subset there)
  refine ⟨?_, ?_, ?_⟩
  · rw [stays _ (by simp)]
    exact unwritten.1
  · rw [stays _ (by simp)]
    exact unwritten.2.1
  · rw [stays _ (by simp)]
    exact unwritten.2.2

/-- Once a setting of the PIN is written, and until the last is, the record is not whole. -/
theorem applyAll_partial (request : SetupRequest) (unwritten : Unwritten killSwitchPinSettings base.settings) {done : List SetupWrite}
    (between : done = base.earlyWrites request ++ [.setting killSwitchPinSettings.salt request.killSwitchPin.salt] ∨
      done = base.earlyWrites request ++ [.setting killSwitchPinSettings.salt request.killSwitchPin.salt,
        .setting killSwitchPinSettings.hash request.killSwitchPin.hash]) :
    ∃ error, loadKillSwitchPin (base.applyAll done).settings = .error error := by
  have early := applyAll_early (List.prefix_rfl : base.earlyWrites request <+: base.earlyWrites request) unwritten
  obtain rfl | rfl := between
  · apply loadSecret_partial request.killSwitchPin
    · rw [applyAll_append]
      exact Dict.get_insert_self ..
    · rw [applyAll_append]
      show (((base.applyAll (base.earlyWrites request)).settings.insert _ _).get _) = _
      rw [Dict.get_insert_ne (by decide)]
      exact early.2.2
  · apply loadSecret_partial request.killSwitchPin
    · rw [applyAll_append]
      show ((((base.applyAll (base.earlyWrites request)).settings.insert _ _).insert _ _).get _) = _
      rw [Dict.get_insert_ne (by decide)]
      exact Dict.get_insert_self ..
    · rw [applyAll_append]
      show ((((base.applyAll (base.earlyWrites request)).settings.insert _ _).insert _ _).get _) = _
      rw [Dict.get_insert_ne (by decide), Dict.get_insert_ne (by decide)]
      exact early.2.2

/-- All of one request is in force. -/
structure InForce (s : SetupSystem) (request : SetupRequest) : Prop where
  killSwitchPin : loadKillSwitchPin s.settings = .ok (some request.killSwitchPin)
  remotePassword : loadStoredRemotePassword s.settings = .ok (some request.remotePassword)
  hubName : s.settings.get hubNameSetting = some request.hubName
  config : ∀ config ∈ s.config, ∃ current, config = upsertIniSetting current "hub" "name" request.hubName

omit [SetupHost] in
/-- The three writes of a secret. -/
theorem applyAll_secret (names : SecretSettings) (secret : StoredSecret) (hash : names.salt ≠ names.hash)
    (createdAt : names.salt ≠ names.createdAt) (createdAt' : names.hash ≠ names.createdAt) :
    (s.applyAll (secretWrites names secret)).settings.get names.salt = some secret.salt ∧
    (s.applyAll (secretWrites names secret)).settings.get names.hash = some secret.hash ∧
    (s.applyAll (secretWrites names secret)).settings.get names.createdAt = some (toString secret.createdAtTsMs) := by
  have settings : (s.applyAll (secretWrites names secret)).settings =
      ((s.settings.insert names.salt secret.salt).insert names.hash secret.hash).insert names.createdAt
        (toString secret.createdAtTsMs) := rfl
  rw [settings]
  refine ⟨?_, ?_, ?_⟩
  · rw [Dict.get_insert_ne createdAt, Dict.get_insert_ne hash, Dict.get_insert_self]
  · rw [Dict.get_insert_ne createdAt', Dict.get_insert_self]
  · rw [Dict.get_insert_self]

omit [SetupHost] in
theorem secretWrites_other {names : SecretSettings} {secret : StoredSecret}
    (apart : key ≠ names.salt ∧ key ≠ names.hash ∧ key ≠ names.createdAt) :
    (s.applyAll (secretWrites names secret)).settings.get key = s.settings.get key := by
  apply applyAll_other
  rintro write there key' value rfl
  simp only [secretWrites, List.mem_cons, SetupWrite.setting.injEq, List.not_mem_nil, or_false] at there
  obtain ⟨rfl, -⟩ | ⟨rfl, -⟩ | ⟨rfl, -⟩ := there
  · exact apart.1
  · exact apart.2.1
  · exact apart.2.2

omit [SetupHost] in
theorem texts_config {texts : List String} : (s.applyAll (texts.map .reticulumConfig)).config = s.config := by
  induction texts generalizing s with
  | nil => rfl
  | cons text texts ih => exact ih (s := s.apply (.reticulumConfig text))

omit [SetupHost] in
theorem secretWrites_config {names : SecretSettings} {secret : StoredSecret} :
    (s.applyAll (secretWrites names secret)).config = s.config := rfl

omit [SetupHost] in
/-- The configuration after the writes before the settings has the name, if there is one. -/
theorem fileWrites_config {config : String}
    (present : (base.applyAll (base.fileWrites request)).config = some config) :
    ∃ current, config = upsertIniSetting current "hub" "name" request.hubName := by
  unfold fileWrites at present
  rw [applyAll_append, texts_config] at present
  cases before : base.config with
  | none =>
    rw [before] at present
    have absent : base.config = some config := present
    rw [before] at absent
    cases absent
  | some current =>
    rw [before] at present
    have named : base.config.map (fun current => upsertIniSetting current "hub" "name" request.hubName) = some config := present
    rw [before] at named
    exact ⟨current, (Option.some.inj named).symm⟩

theorem applyAll_inForce : (base.applyAll (base.writes request)).InForce request := by
  let named := (base.applyAll (base.fileWrites request)).applyAll [.setting hubNameSetting request.hubName]
  let guarded := named.applyAll (secretWrites remoteAccessPasswordSettings request.remotePassword)
  have whole : base.applyAll (base.writes request) =
      guarded.applyAll (secretWrites killSwitchPinSettings request.killSwitchPin) := by
    rw [writes_eq, applyAll_append, earlyWrites, applyAll_append, applyAll_append]
  have pin : _ ∧ _ ∧ _ := applyAll_secret (s := guarded) killSwitchPinSettings request.killSwitchPin
    (by decide) (by decide) (by decide)
  have password : _ ∧ _ ∧ _ := applyAll_secret (s := named) remoteAccessPasswordSettings
    request.remotePassword (by decide) (by decide) (by decide)
  rw [whole]
  constructor
  case killSwitchPin =>
    exact loadSecret_eq_some pin.1 pin.2.1 pin.2.2 (SecretDraws.filled _ _) request.pinDraws.createdAt_range
  case remotePassword =>
    apply loadSecret_eq_some
    · rw [secretWrites_other (by decide)]
      exact password.1
    · rw [secretWrites_other (by decide)]
      exact password.2.1
    · rw [secretWrites_other (by decide)]
      exact password.2.2
    · exact SecretDraws.filled _ _
    · exact request.passwordDraws.createdAt_range
  case hubName =>
    rw [secretWrites_other (by decide), secretWrites_other (by decide)]
    exact Dict.get_insert_self ..
  case config =>
    intro config mem
    rw [secretWrites_config, secretWrites_config] at mem
    exact fileWrites_config mem

/-! ## A request run to its end -/

omit [SetupHost] in
@[simp] theorem apply_threads {write : SetupWrite} : (s.apply write).threads = s.threads := by cases write <;> rfl

omit [SetupHost] in
@[simp] theorem apply_succeeded {write : SetupWrite} : (s.apply write).succeeded = s.succeeded := by cases write <;> rfl

omit [SetupHost] in
@[simp] theorem applyAll_succeeded : (s.applyAll writes).succeeded = s.succeeded := by
  induction writes generalizing s with
  | nil => rfl
  | cons write writes ih => exact (ih (s := s.apply write)).trans apply_succeeded

theorem InForce.of_same {other : SetupSystem} (force : other.InForce request) (same : s.SameStore other) :
    s.InForce request := by
  obtain ⟨killSwitchPin, remotePassword, hubName, config⟩ := force
  rw [← same.settings] at killSwitchPin remotePassword hubName
  rw [← same.config] at config
  exact ⟨killSwitchPin, remotePassword, hubName, config⟩

omit [SetupHost] in
theorem applyAll_congr {other : SetupSystem} (writes : List SetupWrite) (same : s.SameStore other) :
    (s.applyAll writes).SameStore (other.applyAll writes) := by
  induction writes generalizing s other with
  | nil => exact same
  | cons write writes ih => exact ih (same.apply write)

/-- The only request under way makes a write. -/
theorem step_write {write : SetupWrite} {rest : List SetupWrite} (threads : s.threads = [{ request, rest := write :: rest }]) :
    s.step (.write 0) = { s.apply write with threads := [{ request, rest }] } := by
  simp only [step, threads, List.getElem?_cons_zero, List.set_cons_zero]

/-- The only request under way ends. -/
theorem step_finish (threads : s.threads = [{ request, rest := [] }]) (force : s.InForce request) :
    (s.step (.finish 0)).threads = [] ∧ (s.step (.finish 0)).SameStore s ∧
      (s.step (.finish 0)).succeeded = s.succeeded ++ [request] := by
  simp only [step, threads, List.getElem?_cons_zero, List.eraseIdx_cons_zero, force.killSwitchPin, force.remotePassword]
  exact ⟨trivial, ⟨rfl, rfl, rfl⟩, trivial⟩

/-- The only request under way makes all of its writes. -/
theorem run_writes {rest : List SetupWrite} (threads : s.threads = [{ request, rest }]) :
    (s.run (List.replicate rest.length (.write 0))).threads = [{ request, rest := [] }] ∧
    (s.run (List.replicate rest.length (.write 0))).SameStore (s.applyAll rest) ∧
    (s.run (List.replicate rest.length (.write 0))).succeeded = s.succeeded := by
  induction rest generalizing s with
  | nil => exact ⟨threads, ⟨rfl, rfl, rfl⟩, rfl⟩
  | cons write rest ih =>
    have first := step_write threads
    have later := ih (s := s.step (.write 0)) (by rw [first])
    have same : (s.step (.write 0)).SameStore (s.apply write) := by
      rw [first]
      exact ⟨rfl, rfl, rfl⟩
    have written := applyAll_congr rest same
    have unended : (s.step (.write 0)).succeeded = s.succeeded := by
      rw [first]
      exact apply_succeeded
    refine ⟨later.1, ⟨?_, ?_, ?_⟩, later.2.2.trans unended⟩
    · exact later.2.1.config.trans written.config
    · exact later.2.1.reticulumConfig.trans written.reticulumConfig
    · exact later.2.1.settings.trans written.settings

/-- A request that has made all of its writes is in force. -/
theorem left_none {done : List SetupWrite} (writes : base.writes request = done ++ []) (same : s.SameStore (base.applyAll done)) :
    s.InForce request := by
  rw [List.append_nil] at writes
  subst writes
  exact applyAll_inForce.of_same same

/-- The moves of the only request under way from the writes it has left to its answer. -/
def remaining (rest : List SetupWrite) : List SetupMove := List.replicate rest.length (.write 0) ++ [.finish 0]

/-- The only request under way, run to its end, succeeds and is in force. -/
theorem run_remaining {done rest : List SetupWrite} (threads : s.threads = [{ request, rest }])
    (writes : base.writes request = done ++ rest) (same : s.SameStore (base.applyAll done)) :
    (s.run (remaining rest)).succeeded = s.succeeded ++ [request] ∧ (s.run (remaining rest)).InForce request := by
  have written := run_writes threads
  have kept := applyAll_congr rest same
  rw [← applyAll_append, ← writes] at kept
  have force := (applyAll_inForce.of_same kept).of_same written.2.1
  have ended := step_finish written.1 force
  have split : s.run (remaining rest) = (s.run (List.replicate rest.length (.write 0))).step (.finish 0) := by
    unfold run remaining
    rw [List.foldl_append]
    rfl
  rw [split]
  exact ⟨ended.2.2.trans (by rw [written.2.2]), force.of_same ended.2.1⟩

theorem check_ok (unwritten : Unwritten killSwitchPinSettings s.settings)
    (valid : checkSetup s.reticulumConfig.isSome request.payload = .ok ()) : s.check request = .ok () := by
  have pin : loadKillSwitchPin s.settings = .ok none := loadSecret_eq_none.2 unwritten
  have passed : s.check request = checkSetup s.reticulumConfig.isSome request.payload := by
    unfold check
    rw [pin]
    simp only [bind, Except.bind, Option.isSome_none, Bool.false_eq_true, if_false]
  rw [passed]
  exact valid

/-- The moves of a request from its check to its answer, with no other between them. -/
def whole (s : SetupSystem) (request : SetupRequest) : List SetupMove := .check request :: remaining (s.writes request)

/-- Where no PIN is enrolled, a valid request run to its end succeeds and is in force. -/
theorem run_whole (unwritten : Unwritten killSwitchPinSettings s.settings) (threads : s.threads = [])
    (valid : checkSetup s.reticulumConfig.isSome request.payload = .ok ()) :
    (s.run (s.whole request)).succeeded = s.succeeded ++ [request] ∧ (s.run (s.whole request)).InForce request := by
  have checked : s.step (.check request) = { s with threads := [{ request, rest := s.writes request }] } := by
    simp only [step, check_ok unwritten valid, threads, List.nil_append]
  have begun : s.run (s.whole request) = (s.step (.check request)).run (remaining (s.writes request)) := rfl
  have same : (s.step (.check request)).SameStore (s.applyAll []) := by
    rw [checked]
    exact ⟨rfl, rfl, rfl⟩
  have ended := run_remaining (by rw [checked]) (List.nil_append _).symm same
  have unended : (s.step (.check request)).succeeded = s.succeeded := by rw [checked]
  rw [begun, ← unended]
  exact ended

/-! ## Orderly runs -/

/-- No request passes the checks while another is under way, and none is stopped between the
first setting of the PIN and the last. -/
def Orderly (s : SetupSystem) : SetupMove → Prop
  | .check request => s.check request = .ok () → s.threads = []
  | .stop index => ∀ thread, s.threads[index]? = some thread → thread.rest.length ≠ 1 ∧ thread.rest.length ≠ 2
  | _ => True

/-- A run all of whose moves are orderly. -/
def OrderlyRun (s : SetupSystem) : List SetupMove → Prop
  | [] => True
  | move :: moves => s.Orderly move ∧ (s.step move).OrderlyRun moves

/-- Writes and answers are orderly. -/
theorem orderlyRun_of_writes {moves : List SetupMove} (plain : ∀ move ∈ moves, move = .write 0 ∨ move = .finish 0) :
    s.OrderlyRun moves := by
  induction moves generalizing s with
  | nil => trivial
  | cons move moves ih =>
    have later := ih (s := s.step move) fun other mem => plain other (List.mem_cons_of_mem move mem)
    obtain rfl | rfl := plain move List.mem_cons_self
    · exact ⟨trivial, later⟩
    · exact ⟨trivial, later⟩

/-- A request run to its end with no other under way is orderly. -/
theorem whole_orderly (threads : s.threads = []) : s.OrderlyRun (s.whole request) := by
  constructor
  · exact fun _ => threads
  · apply orderlyRun_of_writes
    intro move mem
    obtain written | ended := List.mem_append.1 mem
    · exact .inl (List.eq_of_mem_replicate written)
    · exact .inr (List.mem_singleton.1 ended)

/-- What an orderly run leaves of the requests that were asked. -/
inductive Account (asked : List SetupRequest) (s : SetupSystem) : Prop where
  | absent (threads : s.threads = []) (unwritten : Unwritten killSwitchPinSettings s.settings) (succeeded : s.succeeded = [])
  | underWay (base : SetupSystem) (request : SetupRequest) (done rest : List SetupWrite) (mem : request ∈ asked)
      (threads : s.threads = [{ request, rest }]) (writes : base.writes request = done ++ rest)
      (same : s.SameStore (base.applyAll done)) (unwritten : Unwritten killSwitchPinSettings base.settings)
      (succeeded : s.succeeded = [])
  | enrolled (request : SetupRequest) (mem : request ∈ asked) (threads : s.threads = []) (force : s.InForce request)
      (succeeded : s.succeeded = [] ∨ s.succeeded = [request])

section Account

variable {asked : List SetupRequest} {done rest : List SetupWrite}

theorem Account.mono (more : List SetupRequest) (account : Account asked s) (sub : ∀ request ∈ asked, request ∈ more) : Account more s := by
  cases account with
  | absent threads unwritten succeeded => exact .absent threads unwritten succeeded
  | underWay base request done rest mem threads writes same unwritten succeeded =>
    exact .underWay base request done rest (sub _ mem) threads writes same unwritten succeeded
  | enrolled request mem threads force succeeded => exact .enrolled request (sub _ mem) threads force succeeded

omit [SetupHost] in
theorem unwritten_of_same {names : SecretSettings} {other : SetupSystem} (unwritten : Unwritten names other.settings)
    (same : s.SameStore other) : Unwritten names s.settings := by
  rw [same.settings]
  exact unwritten

/-- While the writes of the PIN are all left, nothing of it is written. -/
theorem left_unwritten (writes : base.writes request = done ++ rest) (left : 3 ≤ rest.length)
    (unwritten : Unwritten killSwitchPinSettings base.settings) :
    Unwritten killSwitchPinSettings (base.applyAll done).settings := by
  rw [writes_eq] at writes
  have lengths := congrArg List.length writes
  simp only [List.length_append, secretWrites, List.length_cons, List.length_nil] at lengths
  have prior : done <+: base.earlyWrites request := by
    apply List.prefix_of_prefix_length_le (List.prefix_append done rest)
    · rw [← writes]
      exact List.prefix_append ..
    · omega
  exact applyAll_early prior unwritten

/-- While one or two writes are left, the record is not whole. -/
theorem left_partial (writes : base.writes request = done ++ rest) (left : rest.length = 1 ∨ rest.length = 2)
    (unwritten : Unwritten killSwitchPinSettings base.settings) :
    ∃ error, loadKillSwitchPin (base.applyAll done).settings = .error error := by
  apply applyAll_partial request unwritten
  rw [writes_eq, secretWrites] at writes
  obtain one | two := left
  · right
    have split : base.earlyWrites request ++ [.setting killSwitchPinSettings.salt request.killSwitchPin.salt,
        .setting killSwitchPinSettings.hash request.killSwitchPin.hash] ++
        [.setting killSwitchPinSettings.createdAt (toString request.killSwitchPin.createdAtTsMs)] = done ++ rest := by
      rw [← writes, List.append_assoc]
      rfl
    exact (List.append_inj' split (by rw [one]; rfl)).1.symm
  · left
    have split : base.earlyWrites request ++ [.setting killSwitchPinSettings.salt request.killSwitchPin.salt] ++
        [.setting killSwitchPinSettings.hash request.killSwitchPin.hash,
        .setting killSwitchPinSettings.createdAt (toString request.killSwitchPin.createdAtTsMs)] = done ++ rest := by
      rw [← writes, List.append_assoc]
      rfl
    exact (List.append_inj' split (by rw [two]; rfl)).1.symm

/-- While a request is under way, a PIN is loaded only when the request is in force. -/
theorem underWay_loaded {secret : StoredSecret} (writes : base.writes request = done ++ rest)
    (same : s.SameStore (base.applyAll done)) (unwritten : Unwritten killSwitchPinSettings base.settings)
    (loaded : loadKillSwitchPin s.settings = .ok (some secret)) : s.InForce request := by
  rw [same.settings] at loaded
  by_cases all : 3 ≤ rest.length
  · have absent : loadKillSwitchPin _ = .ok none := loadSecret_eq_none.2 (left_unwritten writes all unwritten)
    rw [absent] at loaded
    cases loaded
  · by_cases some' : rest.length = 1 ∨ rest.length = 2
    · obtain ⟨error, failed⟩ := left_partial writes some' unwritten
      rw [failed] at loaded
      cases loaded
    · have ended : rest = [] := List.eq_nil_of_length_eq_zero (by omega)
      rw [ended] at writes
      exact left_none writes same

theorem check_enrolled {asker : SetupRequest} (force : s.InForce request) : s.check asker ≠ .ok () := by
  unfold check
  rw [force.killSwitchPin]
  exact nofun

theorem step_check_error {asker : SetupRequest} (refused : s.check asker ≠ .ok ()) : s.step (.check asker) = s := by
  cases answer : s.check asker with
  | ok passed => exact absurd answer refused
  | error failure => simp only [step, answer]

/-- A move by a thread that is not there changes nothing. -/
theorem step_absent {index : ℕ} (none' : s.threads[index]? = none) :
    s.step (.write index) = s ∧ s.step (.finish index) = s ∧ s.step (.stop index) = s := by
  have past : s.threads.length ≤ index := List.getElem?_eq_none_iff.1 none'
  refine ⟨?_, ?_, ?_⟩
  · simp only [step, none']
  · simp only [step, none']
  · simp only [step, List.eraseIdx_of_length_le past]

/-- The request a move asks. -/
def asks : SetupMove → List SetupRequest
  | .check request => [request]
  | _ => []

/-- What a move makes of the account where the only request under way is `request`. -/
theorem Account.step_underWay {move : SetupMove} (orderly : s.Orderly move) (mem : request ∈ asked)
    (threads : s.threads = [{ request, rest }]) (writes : base.writes request = done ++ rest)
    (same : s.SameStore (base.applyAll done)) (unwritten : Unwritten killSwitchPinSettings base.settings)
    (succeeded : s.succeeded = []) : Account asked (s.step move) := by
  have unchanged : Account asked s := .underWay base request done rest mem threads writes same unwritten succeeded
  have others : ∀ index, index ≠ 0 → s.threads[index]? = none := by
    intro index later
    rw [threads]
    apply List.getElem?_eq_none
    show 1 ≤ index
    omega
  cases move with
  | check asker =>
    have refused : s.check asker ≠ .ok () := by
      intro passed
      have none' := orderly passed
      rw [threads] at none'
      cases none'
    rw [step_check_error refused]
    exact unchanged
  | write index =>
    by_cases first : index = 0
    · subst first
      cases rest with
      | nil =>
        have idle : s.step (.write 0) = s := by simp only [step, threads, List.getElem?_cons_zero]
        rw [idle]
        exact unchanged
      | cons write rest =>
        rw [step_write threads]
        refine .underWay base request (done ++ [write]) rest mem rfl (by rw [writes, List.append_assoc]; rfl) ?_
          unwritten (apply_succeeded.trans succeeded)
        have written : (s.apply write).SameStore (base.applyAll (done ++ [write])) := by
          rw [applyAll_append]
          exact same.apply write
        exact ⟨written.config, written.reticulumConfig, written.settings⟩
    · rw [(step_absent (others index first)).1]
      exact unchanged
  | finish index =>
    by_cases first : index = 0
    · subst first
      cases rest with
      | nil =>
        have force := left_none writes same
        obtain ⟨none', kept, ended⟩ := step_finish threads force
        refine .enrolled request mem none' (force.of_same kept) (.inr ?_)
        rw [ended, succeeded]
        rfl
      | cons write rest =>
        have idle : s.step (.finish 0) = s := by simp only [step, threads, List.getElem?_cons_zero]
        rw [idle]
        exact unchanged
    · rw [(step_absent (others index first)).2.1]
      exact unchanged
  | stop index =>
    by_cases first : index = 0
    · subst first
      have whole := orderly { request, rest } (by rw [threads]; rfl)
      have stopped : (s.step (.stop 0)).threads = [] := by
        show s.threads.eraseIdx 0 = []
        rw [threads]
        rfl
      have kept : (s.step (.stop 0)).SameStore (base.applyAll done) := ⟨same.config, same.reticulumConfig, same.settings⟩
      by_cases all : 3 ≤ rest.length
      · exact .absent stopped (unwritten_of_same (left_unwritten writes all unwritten) kept) succeeded
      · have ended : rest = [] := by
          apply List.eq_nil_of_length_eq_zero
          have := whole.1
          have := whole.2
          dsimp only at *
          omega
        rw [ended] at writes
        exact .enrolled request mem stopped (left_none writes kept) (.inl succeeded)
    · rw [(step_absent (others index first)).2.2]
      exact unchanged

/-- Where no request is under way, only a check does anything. -/
theorem step_idle (move : SetupMove) (threads : s.threads = []) :
    s.step move = s ∨ ∃ request, move = .check request ∧ s.check request = .ok () ∧
      s.step move = { s with threads := [{ request, rest := s.writes request }] } := by
  have nobody : ∀ index : ℕ, s.threads[index]? = none := by
    intro index
    rw [threads]
    rfl
  cases move with
  | write index => exact .inl (step_absent (nobody index)).1
  | finish index => exact .inl (step_absent (nobody index)).2.1
  | stop index => exact .inl (step_absent (nobody index)).2.2
  | check request =>
    by_cases passed : s.check request = .ok ()
    · right
      refine ⟨request, rfl, passed, ?_⟩
      simp only [step, passed, threads, List.nil_append]
    · exact .inl (step_check_error passed)

/-- An orderly move keeps the account. -/
theorem Account.step {move : SetupMove} (account : Account asked s) (orderly : s.Orderly move) :
    Account (asked ++ asks move) (s.step move) := by
  have kept := account.mono (asked ++ asks move) fun request mem => List.mem_append_left _ mem
  cases account with
  | absent threads unwritten succeeded =>
    obtain idle | ⟨request, rfl, passed, begun⟩ := step_idle move threads
    · rw [idle]
      exact kept
    · rw [begun]
      have mem : request ∈ asked ++ asks (.check request) := List.mem_append_right _ List.mem_cons_self
      exact .underWay s request [] (s.writes request) mem rfl rfl ⟨rfl, rfl, rfl⟩ unwritten succeeded
  | underWay base request done rest mem threads writes same unwritten succeeded =>
    exact step_underWay orderly (List.mem_append_left _ mem) threads writes same unwritten succeeded
  | enrolled request mem threads force succeeded =>
    obtain idle | ⟨asker, rfl, passed, begun⟩ := step_idle move threads
    · rw [idle]
      exact kept
    · exact absurd passed (check_enrolled force)

/-- An orderly run keeps the account. -/
theorem Account.run {moves : List SetupMove} (account : Account asked s) (orderly : s.OrderlyRun moves) :
    Account (asked ++ moves.flatMap asks) (s.run moves) := by
  induction moves generalizing s asked with
  | nil => exact account.mono _ fun request mem => List.mem_append_left _ mem
  | cons move moves ih =>
    have later := ih (account.step orderly.1) orderly.2
    rw [List.append_assoc] at later
    exact later

omit [SetupHost] in
theorem mem_asks {moves : List SetupMove} (mem : request ∈ moves.flatMap asks) : .check request ∈ moves := by
  obtain ⟨move, there, asked⟩ := List.mem_flatMap.1 mem
  cases move with
  | check asker =>
    obtain rfl := List.mem_singleton.1 asked
    exact there
  | write index => cases asked
  | finish index => cases asked
  | stop index => cases asked

end Account

/-- Setup has happened once at most, and wholly or not at all, of the requests that were asked. -/
structure SetUpOnce (moves : List SetupMove) (s : SetupSystem) : Prop where
  once : s.succeeded.length ≤ 1
  /-- A PIN in force is that of a request, with its name and its password, and no other has
  succeeded. -/
  entire : ∀ secret, loadKillSwitchPin s.settings = .ok (some secret) →
    ∃ request, .check request ∈ moves ∧ s.InForce request ∧ secret = request.killSwitchPin ∧
      ∀ other ∈ s.succeeded, other = request
  /-- While no PIN is in force, the request under way succeeds if it is run to its end; or
  none is under way, nothing of a PIN is written, and any valid request run to its end succeeds. -/
  completable : (∀ secret, loadKillSwitchPin s.settings ≠ .ok (some secret)) →
    (∃ request rest, s.threads = [{ request, rest }] ∧
      (s.run (remaining rest)).succeeded = [request] ∧ (s.run (remaining rest)).InForce request) ∨
    (s.threads = [] ∧ loadKillSwitchPin s.settings = .ok none ∧
      ∀ request, checkSetup s.reticulumConfig.isSome request.payload = .ok () →
        (s.run (s.whole request)).succeeded = [request] ∧ (s.run (s.whole request)).InForce request)

/-- In an orderly run from where no PIN is enrolled, setup happens once and wholly. -/
theorem setup_once {moves : List SetupMove} (fresh : s.threads = [] ∧ s.succeeded = [])
    (unenrolled : loadKillSwitchPin s.settings = .ok none) (orderly : s.OrderlyRun moves) :
    (s.run moves).SetUpOnce moves := by
  have account : Account ([] ++ moves.flatMap asks) (s.run moves) :=
    (Account.absent fresh.1 (loadSecret_eq_none.1 unenrolled) fresh.2).run orderly
  rw [List.nil_append] at account
  cases account with
  | absent threads unwritten succeeded =>
    have pin : loadKillSwitchPin (s.run moves).settings = .ok none := loadSecret_eq_none.2 unwritten
    refine ⟨by simp [succeeded], ?_, fun _ => .inr ⟨threads, pin, ?_⟩⟩
    · intro secret loaded
      rw [pin] at loaded
      cases loaded
    · intro request valid
      have ended := run_whole unwritten threads valid
      rw [succeeded] at ended
      exact ended
  | underWay base request done rest mem threads writes same unwritten succeeded =>
    have ended := run_remaining threads writes same
    rw [succeeded] at ended
    refine ⟨by simp [succeeded], ?_, fun _ => .inl ⟨request, rest, threads, ended⟩⟩
    intro secret loaded
    have force := underWay_loaded writes same unwritten loaded
    have pin : loadKillSwitchPin (s.run moves).settings = .ok (some request.killSwitchPin) := force.killSwitchPin
    refine ⟨request, mem_asks mem, force, ?_, by simp [succeeded]⟩
    rw [pin] at loaded
    exact (Option.some.inj (Except.ok.inj loaded)).symm
  | enrolled request mem threads force succeeded =>
    have pin : loadKillSwitchPin (s.run moves).settings = .ok (some request.killSwitchPin) := force.killSwitchPin
    refine ⟨?_, ?_, fun unloaded => absurd pin (unloaded _)⟩
    · obtain none' | one := succeeded
      · simp [none']
      · simp [one]
    · intro secret loaded
      refine ⟨request, mem_asks mem, force, ?_, ?_⟩
      · rw [pin] at loaded
        exact (Option.some.inj (Except.ok.inj loaded)).symm
      · intro other there
        obtain none' | one := succeeded
        · rw [none'] at there
          cases there
        · rw [one] at there
          exact List.mem_singleton.1 there

end SetupSystem

/-- A hash that shows the salt and the value. -/
@[reducible] def SetupHost.plain : SetupHost where
  argon2idHash salt value := "$argon2id$v=19$m=19456,t=2,p=1$" ++ salt ++ "$" ++ value
  argon2idHash_phc salt value := by
    unfold startsWith
    simp only [String.toList_append]
    rfl
  debugText text := "\"" ++ text ++ "\""
  parseI64Error _ := "invalid digit found in string"

/-- Draws with a salt of the number. -/
def SecretDraws.sample (n : ℕ) : SecretDraws where
  salt := Uuid.ofNat n
  hashSalt := "c29tZXNhbHQ"
  createdAtTsMs := 1700000000000
  createdAt_range := by decide

/-- A request for the name, the password and the PIN. -/
def SetupRequest.sample (hubName remotePassword killSwitchPin : String) : SetupRequest where
  payload := { hubName, remotePassword, killSwitchPin }
  passwordDraws := .sample 1
  pinDraws := .sample 2

namespace SetupSystem

theorem sample_setup :
    letI := SetupHost.plain
    let fresh : SetupSystem := {}
    let request := SetupRequest.sample "Hub" "password" "111111"
    (fresh.run (fresh.whole request)).SetUpOnce (fresh.whole request) ∧
      (fresh.run (fresh.whole request)).succeeded = [request] := by
  let := SetupHost.plain
  constructor
  · apply setup_once
    · exact ⟨rfl, rfl⟩
    · rfl
    · exact whole_orderly rfl
  · rfl

/-- Two requests that both pass the check, and write in between one another. -/
def interleaved (first second : SetupRequest) : List SetupMove :=
  [.check first, .check second] ++ List.replicate 4 (.write 0) ++ List.replicate 7 (.write 1) ++
    List.replicate 3 (.write 0) ++ [.finish 0, .finish 0]

/-- A request that is stopped after the salt of its PIN. -/
def stoppedAtPin (request : SetupRequest) : List SetupMove :=
  .check request :: (List.replicate 5 (.write 0) ++ [.stop 0])

/-- Two interleaved requests both succeed, and the PIN of one stands with the password of the
other; and where one is stopped after the salt of its PIN, no request ever passes the check. -/
theorem setups_interleaved :
    letI := SetupHost.plain
    let fresh : SetupSystem := {}
    let first := SetupRequest.sample "Hub" "password" "111111"
    let second := SetupRequest.sample "Other" "passw0rd" "222222"
    (fresh.run (interleaved first second)).succeeded = [first, second] ∧
    loadKillSwitchPin (fresh.run (interleaved first second)).settings = .ok (some first.killSwitchPin) ∧
    loadStoredRemotePassword (fresh.run (interleaved first second)).settings = .ok (some second.remotePassword) ∧
    (fresh.run (stoppedAtPin first)).threads = [] ∧
    ∀ request, (fresh.run (stoppedAtPin first)).check request =
      .error (.internal "incomplete kill switch PIN authentication record") := by
  let := SetupHost.plain
  refine ⟨rfl, rfl, rfl, rfl, ?_⟩
  intro request
  rfl

end SetupSystem

end TelemetryHub
