import TelemetryHub.Server.Envelope
import TelemetryHub.Server.Throttle

/-!
# First-run setup

The request that enrols the hub's name, the remote password and the kill switch PIN. It
asks whether a PIN is enrolled, and then writes the configuration files and seven settings,
each write on its own. Requests interleave between any two writes, and one may stop after
any.
-/

namespace TelemetryHub

open Lib

/-- What setup takes from other crates and from the standard library's tables. -/
class SetupHost where
  /-- `Argon2::hash_password` with a salt, as a PHC text. -/
  argon2idHash : String → String → String
  argon2idHash_phc : ∀ salt value, startsWith (argon2idHash salt value) "$argon2id$" = true
  /-- `{:?}` of a text. -/
  debugText : String → String
  /-- The text of the error `parse::<i64>` fails with. -/
  parseI64Error : String → String

/-! ## Configuration texts -/

/-- `str::lines`. -/
def textLines (text : String) : List String :=
  let parts := splitChars '\n' text.toList
  let ended := parts.dropLast.map fun line => if line.getLast? = some '\r' then line.dropLast else line
  (ended ++ (parts.getLast?.toList.filter fun line => !line.isEmpty)).map String.ofList

/-- A line opens with the character. -/
def opensWith (c : Char) (line : String) : Bool := line.toList.head? == some c

/-- A line closes with the character. -/
def closesWith (c : Char) (line : String) : Bool := line.toList.getLast? == some c

/-- The loop of `validate_ini_text`. -/
def validateIniLines [SetupHost] : Nat → Bool → List String → List String
  | _, _, [] => []
  | index, seenSection, line :: lines =>
    let trimmed := trim line
    if trimmed.isEmpty || opensWith '#' trimmed || opensWith ';' trimmed then
      validateIniLines (index + 1) seenSection lines
    else if opensWith '[' trimmed then
      if closesWith ']' trimmed && 2 < trimmed.utf8ByteSize then validateIniLines (index + 1) true lines
      else
        ("File contains no section headers or has an invalid section header at line " ++ toString (index + 1) ++ ": " ++
          SetupHost.debugText line) :: validateIniLines (index + 1) seenSection lines
    else if !seenSection then
      ["File contains no section headers. file: '<string>', line: " ++ toString (index + 1) ++ " " ++
        SetupHost.debugText line]
    else if !(trimmed.toList.contains '=' || trimmed.toList.contains ':') then
      ["Source contains parsing errors: '<string>' [line " ++ toString (index + 1) ++ "]: " ++ SetupHost.debugText line]
    else validateIniLines (index + 1) seenSection lines

/-- `validate_ini_text`. -/
def validateIniText [SetupHost] (configText : String) : List String := validateIniLines 0 false (textLines configText)

/-- The name of the section a line opens, if it opens one. -/
def iniSection (line : String) : Option String :=
  let trimmed := trim line
  if opensWith '[' trimmed && closesWith ']' trimmed && !startsWith trimmed "[[" then
    let inner := ((trimmed.toList.dropWhile (· == '[')).reverse.dropWhile (· == ']')).reverse
    some (toAsciiLowercase (trim (String.ofList inner)))
  else none

/-- The key a line sets, if it sets one. -/
def iniKey (line : String) : Option String :=
  let trimmed := (trim line).toList
  let separator := if trimmed.contains '=' then some '=' else if trimmed.contains ':' then some ':' else none
  separator.map fun separator => toAsciiLowercase (trim (String.ofList (trimmed.takeWhile (· != separator))))

/-- The loop of `upsert_ini_setting` over the lines: where the section starts, and where the
next one does. -/
def sectionBounds (name : String) : Nat → Option Nat → List String → Option Nat × Option Nat
  | _, start, [] => (start, none)
  | index, start, line :: lines =>
    match iniSection line with
    | none => sectionBounds name (index + 1) start lines
    | some found =>
      if start.isSome then (start, some index)
      else sectionBounds name (index + 1) (if found == name then some index else none) lines

/-- The first line that sets the key, set anew. -/
def setKeyLine (key rendered : String) : List String → Option (List String)
  | [] => none
  | line :: lines =>
    if iniKey line == some key then some (rendered :: lines) else (setKeyLine key rendered lines).map (line :: ·)

/-- `upsert_ini_setting`. -/
def upsertIniSetting (configText section' key value : String) : String :=
  let lines := textLines configText
  let rendered := key ++ " = " ++ value
  let updated := match sectionBounds (toAsciiLowercase (trim section')) 0 none lines with
    | (some start, bound) =>
      let sectionEnd := bound.getD lines.length
      let body := (lines.take sectionEnd).drop (start + 1)
      match setKeyLine (toAsciiLowercase (trim key)) rendered body with
      | some body => lines.take (start + 1) ++ body ++ lines.drop sectionEnd
      | none => lines.take (start + 1) ++ [rendered] ++ lines.drop (start + 1)
    | (none, _) =>
      lines ++ (if lines.getLast?.any fun line => !(trim line).isEmpty then [""] else []) ++
        ["[" ++ section' ++ "]", rendered]
  joinWith "\n" updated ++ "\n"

/-! ## Secrets -/

/-- `HUB_NAME_SETTING`. -/
def hubNameSetting : String := "hub_name"

/-- The settings of a secret, and what is said of a record that is not whole. -/
structure SecretSettings where
  salt : String
  hash : String
  createdAt : String
  label : String

/-- `KILL_SWITCH_PIN_*_SETTING`. -/
def killSwitchPinSettings : SecretSettings :=
  { salt := "kill_switch_pin_salt", hash := "kill_switch_pin_hash", createdAt := "kill_switch_pin_created_at_ts_ms"
    label := "kill switch PIN" }

/-- `REMOTE_ACCESS_PASSWORD_*_SETTING`. -/
def remoteAccessPasswordSettings : SecretSettings :=
  { salt := "remote_access_password_salt", hash := "remote_access_password_hash"
    createdAt := "remote_access_password_created_at_ts_ms", label := "remote password" }

/-- `KillSwitchPinSecret`, and `StoredPasswordSecret`. -/
structure StoredSecret where
  salt : String
  hash : String
  createdAtTsMs : Int

/-- `load_kill_switch_pin` and `load_stored_remote_password`. -/
def loadSecret [SetupHost] (names : SecretSettings) (settings : Dict String String) :
    Except ApiError (Option StoredSecret) :=
  match settings.get names.salt, settings.get names.hash, settings.get names.createdAt with
  | none, none, none => .ok none
  | some salt, some hash, some createdAt =>
    if !salt.isEmpty && !hash.isEmpty then
      match parseI64 createdAt with
      | some createdAtTsMs => .ok (some { salt, hash, createdAtTsMs })
      | none => .error (.internal ("invalid " ++ names.label ++ " creation timestamp: " ++ SetupHost.parseI64Error createdAt))
    else .error (.internal ("incomplete " ++ names.label ++ " authentication record"))
  | _, _, _ => .error (.internal ("incomplete " ++ names.label ++ " authentication record"))

/-- `load_kill_switch_pin`. -/
def loadKillSwitchPin [SetupHost] : Dict String String → Except ApiError (Option StoredSecret) :=
  loadSecret killSwitchPinSettings

/-- `load_stored_remote_password`. -/
def loadStoredRemotePassword [SetupHost] : Dict String String → Except ApiError (Option StoredSecret) :=
  loadSecret remoteAccessPasswordSettings

/-- What saving a secret draws: the salt beside it, the salt of its hash, and the time. -/
structure SecretDraws where
  salt : Uuid
  hashSalt : String
  createdAtTsMs : Int
  createdAt_range : inI64 createdAtTsMs = true

/-- The secret that is saved. -/
def SecretDraws.secret [SetupHost] (draws : SecretDraws) (value : String) : StoredSecret :=
  { salt := draws.salt.hyphenated, hash := SetupHost.argon2idHash draws.hashSalt value, createdAtTsMs := draws.createdAtTsMs }

/-! ## A request -/

/-- `FirstRunSetupPayload`. -/
structure FirstRunSetupPayload where
  hubName : String
  remotePassword : String
  killSwitchPin : String
  reticulumConfigText : Option String := none

/-- What is written in one step. -/
inductive SetupWrite where
  | hubConfig (hubName : String)
  | reticulumConfig (text : String)
  | setting (key value : String)

/-- The writes of a secret: `save_remote_access_password_with_created_at` and
`save_kill_switch_pin_secret`. -/
def secretWrites (names : SecretSettings) (secret : StoredSecret) : List SetupWrite :=
  [.setting names.salt secret.salt, .setting names.hash secret.hash,
    .setting names.createdAt (toString secret.createdAtTsMs)]

/-- A request: its payload and what it draws. -/
structure SetupRequest where
  payload : FirstRunSetupPayload
  passwordDraws : SecretDraws
  pinDraws : SecretDraws

namespace SetupRequest

/-- The name that is saved. -/
def hubName (request : SetupRequest) : String := trim request.payload.hubName

/-- The password that is saved. -/
def remotePassword [SetupHost] (request : SetupRequest) : StoredSecret :=
  request.passwordDraws.secret (trim request.payload.remotePassword)

/-- The PIN that is saved. -/
def killSwitchPin [SetupHost] (request : SetupRequest) : StoredSecret :=
  request.pinDraws.secret (trim request.payload.killSwitchPin)

end SetupRequest

/-- The checks of a payload. -/
def checkSetup [SetupHost] (reticulumConfigPath : Bool) (payload : FirstRunSetupPayload) : Except ApiError Unit := do
  let hubName := trim payload.hubName
  if hubName.isEmpty then throw (.badRequest "Hub name is required")
  if 80 < hubName.length then throw (.badRequest "Hub name must be 80 characters or fewer")
  if (trim payload.remotePassword).utf8ByteSize < 8 then
    throw (.badRequest "Remote access password must contain at least eight characters")
  if !isPinText (trim payload.killSwitchPin) then throw (.badRequest "Kill switch PIN must contain exactly six digits")
  match payload.reticulumConfigText with
  | none => return ()
  | some text =>
    let errors := validateIniText text
    if !errors.isEmpty then
      throw (.badRequest ("Invalid Reticulum configuration payload: " ++ joinWith "; " errors))
    if !(trim text).isEmpty && !reticulumConfigPath then
      throw (.badRequest "Reticulum configuration path is required before setup can save TCP interfaces")
    return ()

/-! ## The system -/

/-- A request that has passed the checks, and the writes it has left. -/
structure SetupThread where
  request : SetupRequest
  rest : List SetupWrite

/-- The files at the configured paths (a missing one is empty), the table `rch_settings`, the
message of the kill switch, the requests under way, and those that have succeeded. -/
structure SetupSystem where
  config : Option String := none
  reticulumConfig : Option String := none
  settings : Dict String String := ∅
  killSwitchMessage : String := ""
  threads : List SetupThread := []
  succeeded : List SetupRequest := []

/-- The moves of a run: a request comes and is checked, writes, ends, or is stopped by an
error or with the server. -/
inductive SetupMove where
  | check (request : SetupRequest)
  | write (index : Nat)
  | finish (index : Nat)
  | stop (index : Nat)

namespace SetupSystem

variable [SetupHost]

/-- The writes of a request. -/
def writes (s : SetupSystem) (request : SetupRequest) : List SetupWrite :=
  (if s.config.isSome then [.hubConfig request.hubName] else []) ++
    ((s.reticulumConfig.bind fun _ => request.payload.reticulumConfigText).toList.map .reticulumConfig) ++
    [.setting hubNameSetting request.hubName] ++ secretWrites remoteAccessPasswordSettings request.remotePassword ++
    secretWrites killSwitchPinSettings request.killSwitchPin

omit [SetupHost] in
/-- One write. -/
def apply (s : SetupSystem) : SetupWrite → SetupSystem
  | .hubConfig hubName => { s with config := s.config.map fun current => upsertIniSetting current "hub" "name" hubName }
  | .reticulumConfig text => { s with reticulumConfig := s.reticulumConfig.map fun _ => text }
  | .setting key value => { s with settings := s.settings.insert key value }

/-- `first_run_setup_complete` up to its first write. -/
def check (s : SetupSystem) (request : SetupRequest) : Except ApiError Unit := do
  if (← loadKillSwitchPin s.settings).isSome then
    throw (.conflict "First-run setup has already enrolled a kill switch PIN")
  checkSetup s.reticulumConfig.isSome request.payload

/-- One move; one that is not possible changes nothing. -/
def step (s : SetupSystem) : SetupMove → SetupSystem
  | .check request =>
    match s.check request with
    | .ok () => { s with threads := s.threads ++ [{ request, rest := s.writes request }] }
    | .error _ => s
  | .write index =>
    match s.threads[index]? with
    | some { request, rest := write :: rest } =>
      { s.apply write with threads := s.threads.set index { request, rest } }
    | _ => s
  | .finish index =>
    match s.threads[index]? with
    | some { request, rest := [] } =>
      let s := { s with
        killSwitchMessage := "Kill switch PIN enrolled by first-run setup.", threads := s.threads.eraseIdx index }
      -- the answer is the status of the setup, which reads both records again
      match loadKillSwitchPin s.settings, loadStoredRemotePassword s.settings with
      | .ok _, .ok _ => { s with succeeded := s.succeeded ++ [request] }
      | _, _ => s
    | _ => s
  | .stop index => { s with threads := s.threads.eraseIdx index }

/-- A run. -/
def run (s : SetupSystem) (moves : List SetupMove) : SetupSystem := moves.foldl step s

end SetupSystem

end TelemetryHub
