import Mathlib.Data.List.Induction
import TelemetryHub.Server.Enrolment
import TelemetryHub.Server.KillSwitch

/-!
# Secrets in use

A secret is three settings: a salt, a hash, and a time. A legacy hash is of the salt and the
secret; an Argon2id hash carries its own salt, and the setting beside it is not looked at.
A login with a secret whose hash is legacy saves the secret anew, each setting in a write of
its own. Logins and changes of the password interleave between any two writes, and one may
stop after any.
-/

namespace TelemetryHub

open Lib

/-- What the checks of a secret take from other crates. -/
class SecretHost extends SetupHost where
  /-- `Sha256::digest`, as lower-case hexadecimal digits. -/
  sha256LowerHex : List UInt8 → String
  /-- `PasswordHash::new`, or the text of its error, and `verify_password(..).is_ok()`. -/
  argon2Verify : String → String → Except String Bool
  argon2Verify_hash : ∀ salt value, argon2Verify (argon2idHash salt value) value = .ok true

/-- `secure_string_eq`. -/
def secureStringEq (left right : String) : Bool :=
  if left.toUTF8.data.toList.length ≠ right.toUTF8.data.toList.length then false
  else
    (left.toUTF8.data.toList.zip right.toUTF8.data.toList).foldl
      (fun accumulator pair => accumulator ||| (pair.1 ^^^ pair.2)) 0 == 0

section Host

variable [SecretHost]

/-- `password_hash`. -/
def passwordHash (salt value : String) : String := SecretHost.sha256LowerHex (salt ++ ":" ++ value).toUTF8.data.toList

/-- `verify_versioned_secret`. -/
def verifyVersionedSecret (salt hash value : String) : Except ApiError Bool :=
  if !isArgon2idPhc hash then .ok (secureStringEq (passwordHash salt value) hash)
  else
    match SecretHost.argon2Verify hash value with
    | .ok valid => .ok valid
    | .error error => .error (.internal ("invalid Argon2id PHC secret: " ++ error))

/-! ## Requests that interleave -/

/-- The settings, and the writes that the requests under way have left. -/
structure SecretSystem where
  settings : Dict String String
  threads : List (List SetupWrite) := []

/-- The moves of a run: a login with a password or a PIN, with the settings as it read them, a
change of the password, the next write of a request, and the end of one. -/
inductive SecretMove where
  | login (seen : Dict String String) (password : String) (draws : SecretDraws)
  | authorize (seen : Dict String String) (pin : String) (hashSalt : String)
  | change (password : String) (draws : SecretDraws)
  | write (index : Nat)
  | stop (index : Nat)

namespace SecretSystem

/-- `validate_stored_remote_password`: whether the password is right, and what is written
then. -/
def validateStoredRemotePassword (settings : Dict String String) (password : Option String) (draws : SecretDraws) :
    Except ApiError (Bool × List SetupWrite) :=
  match (password.map trim).filter fun value => !value.isEmpty with
  | none => .ok (false, [])
  | some password => do
    match ← loadStoredRemotePassword settings with
    | none => return (false, [])
    | some secret =>
      let valid ← verifyVersionedSecret secret.salt secret.hash password
      if valid && !isArgon2idPhc secret.hash then
        -- `save_remote_access_password_with_created_at` draws a new salt
        return (true, secretWrites remoteAccessPasswordSettings
          { draws.secret password with createdAtTsMs := secret.createdAtTsMs })
      return (valid, [])

/-- `kill_switch_authorize` up to the arms of the switch, behind its throttle: what is written
for a PIN that is right. -/
def killSwitchAuthorize (settings : Dict String String) (pin : String) (hashSalt : String) :
    Except ApiError (List SetupWrite) :=
  let pin := trim pin
  if !isPinText pin then .error (.badRequest "Kill switch PIN must contain exactly six digits")
  else do
    match ← loadKillSwitchPin settings with
    -- `require_kill_switch_pin`
    | none => .error (.conflict "First-run setup must configure the kill switch PIN")
    | some secret =>
      let valid ← verifyVersionedSecret secret.salt secret.hash pin
      if !valid then .error (.unauthorized "Kill switch PIN rejected")
      else if !isArgon2idPhc secret.hash then
        return secretWrites killSwitchPinSettings { secret with hash := SetupHost.argon2idHash hashSalt pin }
      else return []

omit [SecretHost] in
/-- A setting that is written. -/
def writeSetting (settings : Dict String String) : SetupWrite → Dict String String
  | .setting key value => settings.insert key value
  | _ => settings

/-- One move; one that is not possible changes nothing. -/
def step (s : SecretSystem) : SecretMove → SecretSystem
  | .login seen password draws =>
    match validateStoredRemotePassword seen (some password) draws with
    | .ok (_, writes) => { s with threads := s.threads ++ [writes] }
    | .error _ => s
  | .authorize seen pin hashSalt =>
    match killSwitchAuthorize seen pin hashSalt with
    | .ok writes => { s with threads := s.threads ++ [writes] }
    | .error _ => s
  | .change password draws =>
    { s with threads := s.threads ++ [secretWrites remoteAccessPasswordSettings (draws.secret (trim password))] }
  | .write index =>
    match s.threads[index]? with
    | some (write :: rest) => { settings := writeSetting s.settings write, threads := s.threads.set index rest }
    | _ => s
  | .stop index => { s with threads := s.threads.eraseIdx index }

/-- A run of moves on settings that nothing is being done to. -/
def run (settings : Dict String String) (moves : List SecretMove) : SecretSystem := moves.foldl step { settings }

theorem run_append (settings : Dict String String) (moves : List SecretMove) (move : SecretMove) :
    run settings (moves ++ [move]) = (run settings moves).step move := by
  simp [run]

end SecretSystem

end Host

/-! ## Texts that are compared -/

theorem foldl_or_eq_zero (pairs : List (UInt8 × UInt8)) (start : UInt8) :
    pairs.foldl (fun accumulator pair => accumulator ||| (pair.1 ^^^ pair.2)) start = 0 ↔
      start = 0 ∧ ∀ pair ∈ pairs, pair.1 = pair.2 := by
  induction pairs generalizing start with
  | nil => simp
  | cons pair pairs ih => simp [ih, and_assoc]

theorem eq_of_zip_eq {left right : List UInt8} (sized : left.length = right.length)
    (same : ∀ pair ∈ left.zip right, pair.1 = pair.2) : left = right := by
  induction left generalizing right with
  | nil => exact (List.length_eq_zero_iff.1 sized.symm).symm
  | cons byte left ih =>
    cases right with
    | nil => cases sized
    | cons byte' right =>
      rw [List.zip_cons_cons, List.forall_mem_cons] at same
      rw [show byte = byte' from same.1, ih (Nat.succ.inj sized) same.2]

theorem zip_self_eq (bytes : List UInt8) : ∀ pair ∈ bytes.zip bytes, pair.1 = pair.2 := by
  induction bytes with
  | nil => simp
  | cons byte bytes ih => simpa using ih

/-- The comparison without an early end is equality. -/
theorem secureStringEq_iff {left right : String} : secureStringEq left right = true ↔ left = right := by
  unfold secureStringEq
  constructor
  · intro compared
    split at compared
    · cases compared
    · next sized =>
      rw [beq_iff_eq, foldl_or_eq_zero] at compared
      have bytes := eq_of_zip_eq (not_not.1 sized) compared.2
      exact String.toByteArray_inj.1 (ByteArray.ext (Array.toList_inj.1 bytes))
  · rintro rfl
    rw [if_neg (not_not.2 rfl), beq_iff_eq, foldl_or_eq_zero]
    exact ⟨rfl, zip_self_eq _⟩

/-! ## Records -/

section Host

variable [SecretHost] {names : SecretSettings} {settings : Dict String String} {secret : StoredSecret} {key : String}

omit [SecretHost] in
/-- The settings of a secret are three. -/
def SecretSettings.Apart (names : SecretSettings) : Prop :=
  names.salt ≠ names.hash ∧ names.salt ≠ names.createdAt ∧ names.hash ≠ names.createdAt

theorem loadSecret_iff : loadSecret names settings = .ok (some secret) ↔
    settings.get names.salt = some secret.salt ∧ settings.get names.hash = some secret.hash ∧
      (secret.salt.isEmpty = false ∧ secret.hash.isEmpty = false) ∧
      ∃ createdAt, settings.get names.createdAt = some createdAt ∧ parseI64 createdAt = some secret.createdAtTsMs := by
  unfold loadSecret
  constructor
  · intro loaded
    split at loaded
    · cases loaded
    · next salt hash createdAt foundSalt foundHash foundCreated =>
      split at loaded
      · next filled =>
        simp only [Bool.and_eq_true, Bool.not_eq_true'] at filled
        split at loaded
        · next createdAtTsMs parsed =>
          obtain rfl := Option.some.inj (Except.ok.inj loaded)
          exact ⟨foundSalt, foundHash, filled, createdAt, foundCreated, parsed⟩
        · cases loaded
      · cases loaded
    · cases loaded
  · rintro ⟨foundSalt, foundHash, filled, createdAt, foundCreated, parsed⟩
    rw [foundSalt, foundHash, foundCreated]
    dsimp only
    rw [filled.1, filled.2, parsed]
    rfl

theorem loadSecret_insert_salt (apart : names.Apart) (loaded : loadSecret names settings = .ok (some secret)) {salt : String}
    (filled : salt.isEmpty = false) : loadSecret names (settings.insert names.salt salt) = .ok (some { secret with salt }) := by
  rw [loadSecret_iff] at loaded ⊢
  obtain ⟨-, hash, nonempty, createdAt, created, parsed⟩ := loaded
  refine ⟨Dict.get_insert_self .., ?_, ⟨filled, nonempty.2⟩, createdAt, ?_, parsed⟩
  · rw [Dict.get_insert_ne apart.1.symm, hash]
  · rw [Dict.get_insert_ne apart.2.1.symm, created]

theorem loadSecret_insert_hash (apart : names.Apart) (loaded : loadSecret names settings = .ok (some secret)) {hash : String}
    (filled : hash.isEmpty = false) : loadSecret names (settings.insert names.hash hash) = .ok (some { secret with hash }) := by
  rw [loadSecret_iff] at loaded ⊢
  obtain ⟨salt, -, nonempty, createdAt, created, parsed⟩ := loaded
  refine ⟨?_, Dict.get_insert_self .., ⟨nonempty.1, filled⟩, createdAt, ?_, parsed⟩
  · rw [Dict.get_insert_ne apart.1, salt]
  · rw [Dict.get_insert_ne apart.2.2.symm, created]

theorem loadSecret_insert_createdAt (apart : names.Apart) (loaded : loadSecret names settings = .ok (some secret))
    {createdAtTsMs : Int} (range : inI64 createdAtTsMs = true) :
    loadSecret names (settings.insert names.createdAt (toString createdAtTsMs)) = .ok (some { secret with createdAtTsMs }) := by
  rw [loadSecret_iff] at loaded ⊢
  obtain ⟨salt, hash, nonempty, -⟩ := loaded
  refine ⟨?_, ?_, nonempty, _, Dict.get_insert_self .., parseI64_toString range⟩
  · rw [Dict.get_insert_ne apart.2.1, salt]
  · rw [Dict.get_insert_ne apart.2.2, hash]

/-- A setting of something else does not change the secret. -/
theorem loadSecret_insert_other {value : String} (other : key ≠ names.salt ∧ key ≠ names.hash ∧ key ≠ names.createdAt) :
    loadSecret names (settings.insert key value) = loadSecret names settings := by
  unfold loadSecret
  rw [Dict.get_insert_ne other.1.symm, Dict.get_insert_ne other.2.1.symm, Dict.get_insert_ne other.2.2.symm]

/-! ## What verifies -/

variable {salt hash value : String}

/-- Beside an Argon2id hash the salt is not looked at. -/
theorem verify_argon2id (phc : isArgon2idPhc hash = true) (other : String) :
    verifyVersionedSecret salt hash value = verifyVersionedSecret other hash value := by
  unfold verifyVersionedSecret
  rw [phc]
  rfl

/-- A legacy hash is of the salt and the value. -/
theorem verify_legacy (legacy : isArgon2idPhc hash = false) :
    verifyVersionedSecret salt hash value = .ok true ↔ passwordHash salt value = hash := by
  unfold verifyVersionedSecret
  rw [legacy, ← secureStringEq_iff]
  simp

theorem verify_hashed (salt hashSalt value : String) :
    verifyVersionedSecret salt (SetupHost.argon2idHash hashSalt value) value = .ok true := by
  have phc : isArgon2idPhc (SetupHost.argon2idHash hashSalt value) = true := SetupHost.argon2idHash_phc hashSalt value
  unfold verifyVersionedSecret
  rw [phc, SecretHost.argon2Verify_hash]
  rfl

theorem argon2idHash_filled (hashSalt value : String) : (SetupHost.argon2idHash hashSalt value).isEmpty = false := by
  have phc := SetupHost.argon2idHash_phc hashSalt value
  cases empty : (SetupHost.argon2idHash hashSalt value).isEmpty with
  | false => rfl
  | true =>
    rw [String.isEmpty_iff.1 empty] at phc
    exact absurd phc (by decide)

/-! ## What a login writes -/

namespace SecretSystem

variable {password pin : String} {draws : SecretDraws} {hashSalt : String}

/-- A password is right. -/
def PasswordValid (settings : Dict String String) (password : String) : Prop :=
  ∀ draws, ∃ writes, validateStoredRemotePassword settings (some password) draws = .ok (true, writes)

/-- A PIN is right. -/
def PinValid (settings : Dict String String) (pin : String) : Prop :=
  ∀ hashSalt, ∃ writes, killSwitchAuthorize settings pin hashSalt = .ok writes

theorem validate_eq (typed : (trim password).isEmpty = false) (loaded : loadStoredRemotePassword settings = .ok (some secret)) :
    validateStoredRemotePassword settings (some password) draws =
      (verifyVersionedSecret secret.salt secret.hash (trim password)).map fun valid =>
        (valid, if valid && !isArgon2idPhc secret.hash then secretWrites remoteAccessPasswordSettings
          { draws.secret (trim password) with createdAtTsMs := secret.createdAtTsMs } else []) := by
  unfold validateStoredRemotePassword
  rw [Option.map_some, Option.filter_some, typed]
  simp only [Bool.not_false, ↓reduceIte, loaded, bind, Except.bind]
  cases verifyVersionedSecret secret.salt secret.hash (trim password) with
  | error => rfl
  | ok valid =>
    simp only [Except.map, pure, Except.pure]
    split
    · next upgrade =>
      simp only [Bool.and_eq_true] at upgrade
      rw [upgrade.1]
    · rfl

/-- A login that is answered is refused and writes nothing, or its password verifies. -/
theorem validate_cases {valid : Bool} {writes : List SetupWrite}
    (run : validateStoredRemotePassword settings (some password) draws = .ok (valid, writes)) :
    valid = false ∧ writes = [] ∨ valid = true ∧ (trim password).isEmpty = false ∧
      ∃ secret, loadStoredRemotePassword settings = .ok (some secret) ∧
        verifyVersionedSecret secret.salt secret.hash (trim password) = .ok true ∧
        writes = if !isArgon2idPhc secret.hash then secretWrites remoteAccessPasswordSettings
          { draws.secret (trim password) with createdAtTsMs := secret.createdAtTsMs } else [] := by
  have refused : (.ok (false, []) : Except ApiError (Bool × List SetupWrite)) = .ok (valid, writes) → valid = false ∧ writes = [] := by
    rintro ⟨⟩
    exact ⟨rfl, rfl⟩
  cases typed : (trim password).isEmpty with
  | true =>
    simp only [validateStoredRemotePassword, Option.map_some, Option.filter_some, typed] at run
    exact .inl (refused run)
  | false =>
    cases loaded : loadStoredRemotePassword settings with
    | error => simp [validateStoredRemotePassword, Option.filter_some, typed, loaded, bind, Except.bind] at run
    | ok found =>
      cases found with
      | none =>
        simp only [validateStoredRemotePassword, Option.map_some, Option.filter_some, typed, loaded, bind, Except.bind] at run
        exact .inl (refused run)
      | some secret =>
        rw [validate_eq typed loaded] at run
        cases verified : verifyVersionedSecret secret.salt secret.hash (trim password) with
        | error => simp [verified, Except.map] at run
        | ok right =>
          rw [verified] at run
          obtain ⟨rfl, rfl⟩ := Prod.mk.inj (Except.ok.inj run)
          cases right with
          | false => exact .inl ⟨rfl, rfl⟩
          | true => exact .inr ⟨rfl, rfl, secret, rfl, verified, by simp⟩

theorem passwordValid_iff : PasswordValid settings password ↔ (trim password).isEmpty = false ∧
    ∃ secret, loadStoredRemotePassword settings = .ok (some secret) ∧
      verifyVersionedSecret secret.salt secret.hash (trim password) = .ok true := by
  constructor
  · intro valid
    obtain ⟨writes, run⟩ := valid (.sample 0)
    obtain ⟨refused, -⟩ | ⟨-, typed, secret, loaded, verified, -⟩ := validate_cases run
    · cases refused
    · exact ⟨typed, secret, loaded, verified⟩
  · rintro ⟨typed, secret, loaded, verified⟩ draws
    rw [validate_eq typed loaded, verified]
    exact ⟨_, rfl⟩

/-- A PIN that is accepted verifies, and its salt is kept. -/
theorem authorize_iff {writes : List SetupWrite} : killSwitchAuthorize settings pin hashSalt = .ok writes ↔
    isPinText (trim pin) = true ∧ ∃ secret, loadKillSwitchPin settings = .ok (some secret) ∧
      verifyVersionedSecret secret.salt secret.hash (trim pin) = .ok true ∧
      writes = if !isArgon2idPhc secret.hash then secretWrites killSwitchPinSettings
        { secret with hash := SetupHost.argon2idHash hashSalt (trim pin) } else [] := by
  unfold killSwitchAuthorize
  cases digits : isPinText (trim pin) with
  | false => simp [digits]
  | true =>
    simp only [digits, Bool.not_true, Bool.false_eq_true, ↓reduceIte, bind, Except.bind, true_and]
    cases loaded : loadKillSwitchPin settings with
    | error => simp
    | ok found =>
      cases found with
      | none => simp
      | some secret =>
        simp only [Except.ok.injEq, Option.some.injEq, exists_eq_left']
        cases verified : verifyVersionedSecret secret.salt secret.hash (trim pin) with
        | error => simp
        | ok right =>
          cases right with
          | false => simp
          | true =>
            simp only [Bool.not_true, Bool.false_eq_true, ↓reduceIte, true_and, pure, Except.pure]
            cases isArgon2idPhc secret.hash with
            | false =>
              simp only [Bool.not_false, ↓reduceIte, Except.ok.injEq]
              exact eq_comm
            | true =>
              simp only [Bool.not_true, Bool.false_eq_true, ↓reduceIte, Except.ok.injEq]
              exact eq_comm

theorem pinValid_iff : PinValid settings pin ↔ isPinText (trim pin) = true ∧
    ∃ secret, loadKillSwitchPin settings = .ok (some secret) ∧
      verifyVersionedSecret secret.salt secret.hash (trim pin) = .ok true := by
  constructor
  · intro valid
    obtain ⟨writes, run⟩ := valid ""
    obtain ⟨digits, secret, loaded, verified, -⟩ := authorize_iff.1 run
    exact ⟨digits, secret, loaded, verified⟩
  · rintro ⟨digits, secret, loaded, verified⟩ hashSalt
    exact ⟨_, authorize_iff.2 ⟨digits, secret, loaded, verified, rfl⟩⟩

end SecretSystem

/-! ## The operator -/

omit [SecretHost] in
/-- The operator: the passwords that have been chosen, none of them blank, and the PIN. -/
structure Operator where
  passwords : List String
  typed : ∀ password ∈ passwords, (trim password).isEmpty = false
  pin : String

namespace Operator

open SecretSystem

variable (operator : Operator)

/-- The operator is not locked out: a password that was chosen is right, and the PIN is. -/
def Admitted (settings : Dict String String) : Prop :=
  (∃ password ∈ operator.passwords, PasswordValid settings password) ∧ PinValid settings operator.pin

/-- Each setting was read at some time of the run; other moves may stand between two reads. -/
def Seen (settings : Dict String String) (before : List SecretMove) (seen : Dict String String) : Prop :=
  ∀ key, ∃ earlier, earlier <+: before ∧ seen.get key = (run settings earlier).settings.get key

/-- Logins that are accepted, and changes, are the operator's. -/
def Permits (settings : Dict String String) (before : List SecretMove) : SecretMove → Prop
  | .login seen password _ => Seen settings before seen ∧ (password ∈ operator.passwords ∨ ¬PasswordValid seen password)
  | .authorize seen pin _ => Seen settings before seen ∧ (pin = operator.pin ∨ ¬PinValid seen pin)
  | .change password _ => password ∈ operator.passwords
  | .write _ | .stop _ => True

/-- A salt is beside an Argon2id hash, or the hash in the store is of that salt too. -/
def SaltBeside (settings : Dict String String) (salt : String) : Prop :=
  ∀ hash, settings.get remoteAccessPasswordSettings.hash = some hash →
    isArgon2idPhc hash = true ∨ ∃ password ∈ operator.passwords, passwordHash salt (trim password) = hash

/-- A salt that is written for the password is harmless. -/
def SaltHarmless (s : SecretSystem) : SecretMove → Prop
  | .write index => ∀ salt rest, s.threads[index]? = some (.setting remoteAccessPasswordSettings.salt salt :: rest) →
    operator.SaltBeside s.settings salt
  | _ => True

/-- A write the operator's requests make; a PIN is saved with the salt it has. -/
inductive Writes (pinSalt : String) : SetupWrite → Prop
  | passwordSalt (salt : String) (filled : salt.isEmpty = false) : Writes pinSalt (.setting remoteAccessPasswordSettings.salt salt)
  | passwordHash (hashSalt password : String) (chosen : password ∈ operator.passwords) :
    Writes pinSalt (.setting remoteAccessPasswordSettings.hash (SetupHost.argon2idHash hashSalt (trim password)))
  | passwordCreatedAt (createdAtTsMs : Int) (range : inI64 createdAtTsMs = true) :
    Writes pinSalt (.setting remoteAccessPasswordSettings.createdAt (toString createdAtTsMs))
  | pinSalt : Writes pinSalt (.setting killSwitchPinSettings.salt pinSalt)
  | pinHash (hashSalt : String) :
    Writes pinSalt (.setting killSwitchPinSettings.hash (SetupHost.argon2idHash hashSalt (trim operator.pin)))
  | pinCreatedAt (createdAtTsMs : Int) (range : inI64 createdAtTsMs = true) :
    Writes pinSalt (.setting killSwitchPinSettings.createdAt (toString createdAtTsMs))

/-- What holds in every state: there is a password record, the PIN is right and has its
salt, and the writes that are left are the operator's. -/
structure Secured (pinSalt : String) (s : SecretSystem) : Prop where
  password : ∃ secret, loadStoredRemotePassword s.settings = .ok (some secret)
  digits : isPinText (trim operator.pin) = true
  pin : ∃ secret, loadKillSwitchPin s.settings = .ok (some secret) ∧ secret.salt = pinSalt ∧
    verifyVersionedSecret secret.salt secret.hash (trim operator.pin) = .ok true
  writes : ∀ thread ∈ s.threads, ∀ write ∈ thread, operator.Writes pinSalt write

omit [SecretHost] in
theorem password_apart : remoteAccessPasswordSettings.Apart := ⟨by decide, by decide, by decide⟩

omit [SecretHost] in
theorem pin_apart : killSwitchPinSettings.Apart := ⟨by decide, by decide, by decide⟩

variable {operator} {pinSalt : String} {s : SecretSystem}

/-- The PIN record has its salt whatever is written, and stays right. -/
theorem Writes.pin_kept {write : SetupWrite} (h : operator.Writes pinSalt write)
    (pin : ∃ secret, loadKillSwitchPin settings = .ok (some secret) ∧ secret.salt = pinSalt ∧
      verifyVersionedSecret secret.salt secret.hash (trim operator.pin) = .ok true) :
    ∃ secret, loadKillSwitchPin (writeSetting settings write) = .ok (some secret) ∧ secret.salt = pinSalt ∧
      verifyVersionedSecret secret.salt secret.hash (trim operator.pin) = .ok true := by
  obtain ⟨secret, loaded, salted, verified⟩ := pin
  have other : ∀ key value, key ≠ killSwitchPinSettings.salt ∧ key ≠ killSwitchPinSettings.hash ∧
      key ≠ killSwitchPinSettings.createdAt → loadKillSwitchPin (settings.insert key value) = .ok (some secret) :=
    fun key value apart => (loadSecret_insert_other apart).trans loaded
  have filled : pinSalt.isEmpty = false := salted ▸ (loadSecret_iff.1 loaded).2.2.1.1
  cases h with
  | passwordSalt => exact ⟨secret, other _ _ (by decide), salted, verified⟩
  | passwordHash => exact ⟨secret, other _ _ (by decide), salted, verified⟩
  | passwordCreatedAt => exact ⟨secret, other _ _ (by decide), salted, verified⟩
  | pinSalt => exact ⟨_, loadSecret_insert_salt pin_apart loaded filled, rfl, salted ▸ verified⟩
  | pinHash hashSalt =>
    exact ⟨_, loadSecret_insert_hash pin_apart loaded (argon2idHash_filled _ _), salted, verify_hashed _ _ _⟩
  | pinCreatedAt createdAtTsMs range =>
    exact ⟨_, loadSecret_insert_createdAt pin_apart loaded range, salted, verified⟩

theorem Writes.password_kept {write : SetupWrite} (h : operator.Writes pinSalt write)
    (password : ∃ secret, loadStoredRemotePassword settings = .ok (some secret)) :
    ∃ secret, loadStoredRemotePassword (writeSetting settings write) = .ok (some secret) := by
  obtain ⟨secret, loaded⟩ := password
  have other : ∀ key value, key ≠ remoteAccessPasswordSettings.salt ∧ key ≠ remoteAccessPasswordSettings.hash ∧
      key ≠ remoteAccessPasswordSettings.createdAt → loadStoredRemotePassword (settings.insert key value) = .ok (some secret) :=
    fun key value apart => (loadSecret_insert_other apart).trans loaded
  cases h with
  | passwordSalt salt filled => exact ⟨_, loadSecret_insert_salt password_apart loaded filled⟩
  | passwordHash => exact ⟨_, loadSecret_insert_hash password_apart loaded (argon2idHash_filled _ _)⟩
  | passwordCreatedAt createdAtTsMs range => exact ⟨_, loadSecret_insert_createdAt password_apart loaded range⟩
  | pinSalt => exact ⟨secret, other _ _ (by decide)⟩
  | pinHash => exact ⟨secret, other _ _ (by decide)⟩
  | pinCreatedAt => exact ⟨secret, other _ _ (by decide)⟩

/-- The writes of a password that is saved. -/
theorem secretWrites_password {secret : StoredSecret} (salt : secret.salt.isEmpty = false)
    (hash : ∃ hashSalt, ∃ password ∈ operator.passwords, secret.hash = SetupHost.argon2idHash hashSalt (trim password))
    (range : inI64 secret.createdAtTsMs = true) :
    ∀ write ∈ secretWrites remoteAccessPasswordSettings secret, operator.Writes pinSalt write := by
  obtain ⟨hashSalt, password, chosen, hashed⟩ := hash
  simp only [secretWrites, hashed, List.forall_mem_cons]
  exact ⟨.passwordSalt _ salt, .passwordHash hashSalt password chosen, .passwordCreatedAt _ range, List.forall_mem_nil _⟩

theorem createdAt_range {names : SecretSettings} (loaded : loadSecret names settings = .ok (some secret)) :
    inI64 secret.createdAtTsMs = true := by
  obtain ⟨-, -, -, createdAt, -, parsed⟩ := loadSecret_iff.1 loaded
  exact (Option.filter_eq_some_iff.1 parsed).2

theorem login_writes {seen : Dict String String} {password : String} {draws : SecretDraws} {valid : Bool} {writes : List SetupWrite}
    (permitted : password ∈ operator.passwords ∨ ¬PasswordValid seen password)
    (run : SecretSystem.validateStoredRemotePassword seen (some password) draws = .ok (valid, writes)) :
    ∀ write ∈ writes, operator.Writes pinSalt write := by
  obtain ⟨-, rfl⟩ | ⟨-, typed, secret, loaded, verified, rfl⟩ := validate_cases run
  · nofun
  · have chosen : password ∈ operator.passwords :=
      permitted.resolve_right fun invalid => invalid (passwordValid_iff.2 ⟨typed, secret, loaded, verified⟩)
    have range := createdAt_range loaded
    split
    · exact secretWrites_password (draws.filled (trim password)).1 ⟨draws.hashSalt, password, chosen, rfl⟩ range
    · nofun

theorem authorize_writes {seen : Dict String String} {pin hashSalt : String} {writes : List SetupWrite}
    (salted : seen.get killSwitchPinSettings.salt = some pinSalt) (permitted : pin = operator.pin ∨ ¬PinValid seen pin)
    (run : killSwitchAuthorize seen pin hashSalt = .ok writes) : ∀ write ∈ writes, operator.Writes pinSalt write := by
  obtain ⟨digits, secret, loaded, verified, rfl⟩ := authorize_iff.1 run
  obtain rfl := permitted.resolve_right fun invalid => invalid (pinValid_iff.2 ⟨digits, secret, loaded, verified⟩)
  have kept : secret.salt = pinSalt := Option.some.inj ((loadSecret_iff.1 loaded).1.symm.trans salted)
  split
  · simp only [secretWrites, kept, List.forall_mem_cons]
    exact ⟨.pinSalt, .pinHash hashSalt, .pinCreatedAt _ (createdAt_range loaded), List.forall_mem_nil _⟩
  · exact List.forall_mem_nil _

theorem Secured.salted (h : operator.Secured pinSalt s) : s.settings.get killSwitchPinSettings.salt = some pinSalt := by
  obtain ⟨secret, loaded, rfl, -⟩ := h.pin
  exact (loadSecret_iff.1 loaded).1

/-- What holds in every state is kept by a move of the operator's. -/
theorem Secured.step {before : List SecretMove} {move : SecretMove}
    (earlier : ∀ earlier, earlier <+: before → operator.Secured pinSalt (SecretSystem.run settings earlier))
    (permitted : operator.Permits settings before move) :
    operator.Secured pinSalt ((SecretSystem.run settings before).step move) := by
  have h := earlier before List.prefix_rfl
  have begun : ∀ writes, (∀ write ∈ writes, operator.Writes pinSalt write) → operator.Secured pinSalt
      { SecretSystem.run settings before with threads := (SecretSystem.run settings before).threads ++ [writes] } := by
    intro writes own
    refine { h with writes := ?_ }
    simp only [List.mem_append, List.mem_singleton]
    rintro thread (there | rfl)
    · exact h.writes thread there
    · exact own
  cases move with
  | login seen password draws =>
    cases run : SecretSystem.validateStoredRemotePassword seen (some password) draws with
    | error =>
      simp only [SecretSystem.step, run]
      exact h
    | ok result =>
      simp only [SecretSystem.step, run]
      exact begun result.2 (login_writes permitted.2 run)
  | authorize seen pin hashSalt =>
    cases run : killSwitchAuthorize seen pin hashSalt with
    | error =>
      simp only [SecretSystem.step, run]
      exact h
    | ok writes =>
      simp only [SecretSystem.step, run]
      obtain ⟨time, past, read⟩ := permitted.1 killSwitchPinSettings.salt
      exact begun writes (authorize_writes (read.trans (earlier time past).salted) permitted.2 run)
  | change password draws =>
    exact begun _ (secretWrites_password (draws.filled (trim password)).1 ⟨draws.hashSalt, password, permitted, rfl⟩
      draws.createdAt_range)
  | write index =>
    cases found : (SecretSystem.run settings before).threads[index]? with
    | none =>
      simp only [SecretSystem.step, found]
      exact h
    | some thread =>
      cases thread with
      | nil =>
        simp only [SecretSystem.step, found]
        exact h
      | cons write rest =>
        simp only [SecretSystem.step, found]
        have member := List.mem_of_getElem? found
        have own := h.writes _ member write List.mem_cons_self
        refine ⟨own.password_kept h.password, h.digits, own.pin_kept h.pin, ?_⟩
        intro thread there
        obtain there | rfl := List.mem_or_eq_of_mem_set there
        · exact h.writes thread there
        · exact fun later inside => h.writes _ member later (List.mem_cons_of_mem write inside)
  | stop index =>
    exact { h with writes := fun thread there => h.writes thread (List.mem_of_mem_eraseIdx there) }

/-- A chosen password verifies against the record. -/
def Enters (operator : Operator) (settings : Dict String String) : Prop :=
  ∃ password ∈ operator.passwords, ∃ secret, loadStoredRemotePassword settings = .ok (some secret) ∧
    verifyVersionedSecret secret.salt secret.hash (trim password) = .ok true

/-- The PIN being right, what remains is the password. -/
theorem Secured.admitted_iff (h : operator.Secured pinSalt s) : operator.Admitted s.settings ↔ operator.Enters s.settings := by
  obtain ⟨secret, loaded, -, verified⟩ := h.pin
  have pin : PinValid s.settings operator.pin := pinValid_iff.2 ⟨h.digits, secret, loaded, verified⟩
  constructor
  · rintro ⟨⟨password, chosen, valid⟩, -⟩
    exact ⟨password, chosen, (passwordValid_iff.1 valid).2⟩
  · rintro ⟨password, chosen, found⟩
    exact ⟨⟨password, chosen, passwordValid_iff.2 ⟨operator.typed password chosen, found⟩⟩, pin⟩

/-- After a write of the salt, the hash in the store decides. -/
theorem enters_salt (enters : operator.Enters settings) {salt : String} (filled : salt.isEmpty = false) :
    operator.Enters (settings.insert remoteAccessPasswordSettings.salt salt) ↔ operator.SaltBeside settings salt := by
  obtain ⟨right, chosen, secret, loaded, verified⟩ := enters
  have stored := (loadSecret_iff.1 loaded).2.1
  have loaded' := loadSecret_insert_salt password_apart loaded filled
  cases phc : isArgon2idPhc secret.hash with
  | true =>
    constructor
    · rintro - hash found
      obtain rfl := Option.some.inj (stored.symm.trans found)
      exact .inl phc
    · rintro -
      exact ⟨right, chosen, _, loaded', (verify_argon2id phc secret.salt).trans verified⟩
  | false =>
    constructor
    · rintro ⟨password, own, found, read, verifies⟩ hash there
      obtain rfl := Option.some.inj (stored.symm.trans there)
      obtain rfl := Option.some.inj (Except.ok.inj (loaded'.symm.trans read))
      exact .inr ⟨password, own, (verify_legacy phc).1 verifies⟩
    · intro harmless
      obtain isPhc | ⟨password, own, hashed⟩ := harmless _ stored
      · rw [phc] at isPhc
        cases isPhc
      · exact ⟨password, own, _, loaded', (verify_legacy phc).2 hashed⟩

/-- No other write locks the operator out. -/
theorem Writes.enters {write : SetupWrite} (h : operator.Writes pinSalt write) (enters : operator.Enters settings) :
    operator.Enters (writeSetting settings write) ↔
      ∀ salt, write = .setting remoteAccessPasswordSettings.salt salt → operator.SaltBeside settings salt := by
  have harmless : ∀ {key value}, key ≠ remoteAccessPasswordSettings.salt → operator.Enters (settings.insert key value) →
      (operator.Enters (writeSetting settings (.setting key value)) ↔
        ∀ salt, SetupWrite.setting key value = .setting remoteAccessPasswordSettings.salt salt →
          operator.SaltBeside settings salt) := by
    intro key value other kept
    refine ⟨fun _ salt same => ?_, fun _ => kept⟩
    exact absurd (SetupWrite.setting.inj same).1 other
  have right := enters
  obtain ⟨password, chosen, secret, loaded, verified⟩ := right
  have other : ∀ {key value}, key ≠ remoteAccessPasswordSettings.salt ∧ key ≠ remoteAccessPasswordSettings.hash ∧
      key ≠ remoteAccessPasswordSettings.createdAt → operator.Enters (settings.insert key value) :=
    fun apart => ⟨password, chosen, secret, (loadSecret_insert_other apart).trans loaded, verified⟩
  cases h with
  | passwordSalt salt filled =>
    refine (enters_salt enters filled).trans ⟨?_, fun harmless => harmless salt rfl⟩
    intro harmless salt' same
    obtain rfl := (SetupWrite.setting.inj same).2
    exact harmless
  | passwordHash hashSalt password own =>
    exact harmless (by decide)
      ⟨password, own, _, loadSecret_insert_hash password_apart loaded (argon2idHash_filled _ _), verify_hashed _ _ _⟩
  | passwordCreatedAt createdAtTsMs range =>
    exact harmless (by decide)
      ⟨password, chosen, _, loadSecret_insert_createdAt password_apart loaded range, verified⟩
  | pinSalt => exact harmless (by decide) (other (by decide))
  | pinHash => exact harmless (by decide) (other (by decide))
  | pinCreatedAt => exact harmless (by decide) (other (by decide))

/-- A move keeps a chosen password right where the salt it writes is harmless, and only there. -/
theorem Secured.enters_step (h : operator.Secured pinSalt s) (enters : operator.Enters s.settings) (move : SecretMove) :
    operator.Enters (s.step move).settings ↔ operator.SaltHarmless s move := by
  have unwritten : (s.step move).settings = s.settings → operator.SaltHarmless s move →
      (operator.Enters (s.step move).settings ↔ operator.SaltHarmless s move) := by
    intro same harmless
    rw [same]
    exact ⟨fun _ => harmless, fun _ => enters⟩
  cases move with
  | login seen password draws =>
    refine unwritten ?_ trivial
    simp only [SecretSystem.step]
    split <;> rfl
  | authorize seen pin hashSalt =>
    refine unwritten ?_ trivial
    simp only [SecretSystem.step]
    split <;> rfl
  | change password draws => exact unwritten rfl trivial
  | stop index => exact unwritten rfl trivial
  | write index =>
    cases found : s.threads[index]? with
    | none =>
      refine unwritten (by simp only [SecretSystem.step, found]) ?_
      intro salt rest there
      rw [found] at there
      cases there
    | some thread =>
      cases thread with
      | nil =>
        refine unwritten (by simp only [SecretSystem.step, found]) ?_
        intro salt rest there
        rw [found] at there
        cases there
      | cons write rest =>
        have own := h.writes _ (List.mem_of_getElem? found) write List.mem_cons_self
        simp only [SecretSystem.step, found]
        refine (own.enters enters).trans ⟨?_, ?_⟩
        · intro harmless salt rest' there
          rw [found] at there
          exact harmless salt (List.cons.inj (Option.some.inj there)).1
        · rintro harmless salt rfl
          exact harmless salt rest found

/-- What holds in every state holds throughout a run of the operator's. -/
theorem secured_run (start : operator.Secured pinSalt { settings }) (moves : List SecretMove)
    (permitted : ∀ before move, before ++ [move] <+: moves → operator.Permits settings before move) :
    ∀ before, before <+: moves → operator.Secured pinSalt (run settings before) := by
  induction moves using List.reverseRecOn with
  | nil =>
    intro before inside
    obtain rfl := List.prefix_nil.1 inside
    exact start
  | append_singleton moves last ih =>
    have earlier := ih fun before move inside => permitted before move (inside.trans (List.prefix_append _ _))
    intro before inside
    obtain rfl | inside := List.prefix_concat_iff.1 inside
    · rw [run_append]
      exact Secured.step earlier (permitted moves last List.prefix_rfl)
    · exact earlier before inside

theorem secured_start (start : operator.Admitted settings) : ∃ pinSalt, operator.Secured pinSalt { settings } := by
  obtain ⟨⟨password, -, valid⟩, pin⟩ := start
  obtain ⟨-, secret, loaded, -⟩ := passwordValid_iff.1 valid
  obtain ⟨digits, stored, found, verified⟩ := pinValid_iff.1 pin
  exact ⟨stored.salt, ⟨secret, loaded⟩, digits, ⟨stored, found, rfl, verified⟩, nofun⟩

/-- The operator is admitted in every state of a run exactly when each salt that is written for
the password is written beside a hash that does not depend on it. -/
theorem never_locked_out_iff (operator : Operator) (settings : Dict String String) (start : operator.Admitted settings)
    (moves : List SecretMove)
    (permitted : ∀ before move, before ++ [move] <+: moves → operator.Permits settings before move) :
    (∀ before, before <+: moves → operator.Admitted (run settings before).settings) ↔
      ∀ before move, before ++ [move] <+: moves → operator.SaltHarmless (run settings before) move := by
  obtain ⟨pinSalt, secured⟩ := secured_start start
  have kept := secured_run secured moves permitted
  constructor
  · intro admitted before move inside
    have earlier := (List.prefix_append before [move]).trans inside
    have enters := (kept _ earlier).admitted_iff.1 (admitted _ earlier)
    rw [← (kept _ earlier).enters_step enters, ← run_append]
    exact (kept _ inside).admitted_iff.1 (admitted _ inside)
  · intro harmless before inside
    induction before using List.reverseRecOn with
    | nil => exact start
    | append_singleton before move ih =>
      have earlier := (List.prefix_append before [move]).trans inside
      have enters := (kept _ earlier).admitted_iff.1 (ih earlier)
      refine (kept _ inside).admitted_iff.2 ?_
      rw [run_append]
      exact ((kept _ earlier).enters_step enters move).2 (harmless before move inside)

end Operator

end Host

/-! ## A legacy password is saved anew -/

/-- SHA-256 of the texts below. -/
def sampleDigests : List (String × String) :=
  [
    ("legacy-preview-salt:preview-password", "c2916a1de818dfa16f17d222e1c06c76c4539141f25a0a8931d80c97c01ac60b"),
    ("legacy-preview-pin-salt:123456", "da7bbf22e0d5e5973a79ebe1676525560240b5bd720149fd43666731d4d27395"),
    ("00000000-0000-0000-0000-000000000001:preview-password", "886dcf2d8869d6958f039a680189129192d314d08d083cc81ddf0e7e62cedacf"),
    ("00000000-0000-0000-0000-000000000001:second-password", "43be5836b332afc9d4f002591a69d8009caafaaee10ddd83b4919c5ff81c73ae"),
    ("legacy-preview-salt:second-password", "9ffb2af21f0b2a7898661f36047db1094412a1062f5d8400234ccff50e282278")]

/-- A host whose Argon2id hashes show the value. -/
@[reducible] def SecretHost.plain : SecretHost where
  toSetupHost := SetupHost.plain
  sha256LowerHex bytes := ((sampleDigests.find? fun entry => entry.1.toUTF8.data.toList == bytes).map Prod.snd).getD ""
  argon2Verify hash value := .ok (("$" ++ value).toList.isSuffixOf hash.toList)
  argon2Verify_hash salt value := by
    have ending : ("$" ++ value).toList <:+ ("$argon2id$v=19$m=19456,t=2,p=1$" ++ salt ++ "$" ++ value).toList := by
      simp only [String.toList_append, List.append_assoc]
      exact (List.suffix_append _ _).trans (List.suffix_append _ _)
    exact congrArg Except.ok (List.isSuffixOf_iff_suffix.2 ending)

namespace Operator

open SecretSystem

/-- A password and a PIN of which the hashes are given. -/
def sampleSecrets (passwordHash pinHash : String) : Dict String String :=
  let password := Dict.insert (Dict.insert ∅ remoteAccessPasswordSettings.salt "legacy-preview-salt")
    remoteAccessPasswordSettings.hash passwordHash
  let password := password.insert remoteAccessPasswordSettings.createdAt "1700000000000"
  let pin := (password.insert killSwitchPinSettings.salt "legacy-preview-pin-salt").insert killSwitchPinSettings.hash pinHash
  pin.insert killSwitchPinSettings.createdAt "1700000000001"

def legacyPassword : String := "c2916a1de818dfa16f17d222e1c06c76c4539141f25a0a8931d80c97c01ac60b"

def legacyPin : String := "da7bbf22e0d5e5973a79ebe1676525560240b5bd720149fd43666731d4d27395"

/-- The operator of the samples. -/
def sample : Operator where
  passwords := ["preview-password", "second-password"]
  typed := by decide
  pin := "123456"

theorem sample_admitted :
    letI := SecretHost.plain
    sample.Admitted (sampleSecrets (SetupHost.argon2idHash "c29tZXNhbHQ" "preview-password") legacyPin) ∧
    sample.Admitted (sampleSecrets legacyPassword legacyPin) := by
  let := SecretHost.plain
  constructor
  · constructor
    · refine ⟨"preview-password", by decide, passwordValid_iff.2 ⟨by decide, ?_⟩⟩
      exact ⟨_, rfl, by decide +kernel⟩
    · exact pinValid_iff.2 ⟨by decide, _, rfl, by decide +kernel⟩
  · constructor
    · refine ⟨"preview-password", by decide, passwordValid_iff.2 ⟨by decide, ?_⟩⟩
      exact ⟨_, rfl, by decide +kernel⟩
    · exact pinValid_iff.2 ⟨by decide, _, rfl, by decide +kernel⟩

/-- A change of the password, and a login with a legacy PIN in between its writes. -/
def sampleMoves (settings : Dict String String) : List SecretMove :=
  [.change "second-password" (.sample 1), .authorize settings "123456" "c29tZXNhbHQ",
    .write 0, .write 1, .write 0, .write 1, .write 0, .write 1]

theorem sampleMoves_permitted (settings : Dict String String) :
    letI := SecretHost.plain
    ∀ before move, before ++ [move] <+: sampleMoves settings → sample.Permits settings before move := by
  let := SecretHost.plain
  intro before move inside
  have member : move ∈ sampleMoves settings := inside.subset (List.mem_append_right before List.mem_cons_self)
  simp only [sampleMoves, List.mem_cons, List.not_mem_nil, or_false] at member
  rcases member with rfl | rfl | rfl | rfl | rfl | rfl | rfl | rfl
  · exact List.mem_cons_of_mem _ List.mem_cons_self
  · exact ⟨fun _ => ⟨[], List.nil_prefix, rfl⟩, .inl rfl⟩
  all_goals trivial

/-- The hash in the store is Argon2id throughout. -/
theorem sampleMoves_harmless :
    letI := SecretHost.plain
    let settings := sampleSecrets (SetupHost.argon2idHash "c29tZXNhbHQ" "preview-password") legacyPin
    ∀ before move, before ++ [move] <+: sampleMoves settings → sample.SaltHarmless (run settings before) move := by
  let := SecretHost.plain
  intro settings before move inside
  have hashed : ∀ n < 9, ((run settings ((sampleMoves settings).take n)).settings.get
      remoteAccessPasswordSettings.hash).all isArgon2idPhc = true := by decide +kernel
  have earlier : before = (sampleMoves settings).take before.length :=
    List.prefix_iff_eq_take.1 ((List.prefix_append _ _).trans inside)
  have shorter : before.length < 9 := by
    have sized : before.length + 1 ≤ 8 := by simpa [sampleMoves] using inside.length_le
    omega
  cases move with
  | write index =>
    intro salt rest there hash found
    have phc := hashed before.length shorter
    rw [← earlier, found] at phc
    exact .inl phc
  | _ => trivial

theorem sample_never_locked_out :
    letI := SecretHost.plain
    let settings := sampleSecrets (SetupHost.argon2idHash "c29tZXNhbHQ" "preview-password") legacyPin
    ∀ before, before <+: sampleMoves settings → sample.Admitted (run settings before).settings := by
  let := SecretHost.plain
  intro settings
  exact (never_locked_out_iff sample settings sample_admitted.1 (sampleMoves settings) (sampleMoves_permitted settings)).2
    sampleMoves_harmless

/-- A legacy password is not right any more once its new salt is written, nor is any other;
so with a change of it. -/
theorem new_salt_locks_out :
    letI := SecretHost.plain
    let settings := sampleSecrets legacyPassword legacyPin
    let login := SecretMove.login settings "preview-password" (.sample 1)
    let change := SecretMove.change "second-password" (.sample 1)
    sample.Admitted settings ∧
    sample.Permits settings [] login ∧ ¬sample.Admitted (run settings [login, .write 0, .stop 0]).settings ∧
    sample.Permits settings [] change ∧ ¬sample.Admitted (run settings [change, .write 0, .stop 0]).settings := by
  let := SecretHost.plain
  intro settings login change
  have refused : ∀ move ∈ [login, change], ∀ password ∈ sample.passwords,
      (loadStoredRemotePassword (run settings [move, .write 0, .stop 0]).settings).toOption.join.all fun secret =>
        (verifyVersionedSecret secret.salt secret.hash (trim password)).toOption == some false := by
    decide +kernel
  have out : ∀ move ∈ [login, change], ¬sample.Admitted (run settings [move, .write 0, .stop 0]).settings := by
    rintro move member ⟨⟨password, chosen, valid⟩, -⟩
    obtain ⟨-, secret, loaded, verified⟩ := passwordValid_iff.1 valid
    have wrong := refused move member password chosen
    rw [loaded] at wrong
    simp only [Except.toOption, Option.join_some, Option.all_some, verified] at wrong
    cases wrong
  refine ⟨sample_admitted.2, ⟨fun _ => ⟨[], List.nil_prefix, rfl⟩, .inl List.mem_cons_self⟩, ?_,
    List.mem_cons_of_mem _ List.mem_cons_self, ?_⟩
  · exact out login List.mem_cons_self
  · exact out change (List.mem_cons_of_mem _ List.mem_cons_self)

end Operator

end TelemetryHub
