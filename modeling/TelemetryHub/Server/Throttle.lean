import Mathlib.Data.List.Dedup
import TelemetryHub.Lib.Dict
import TelemetryHub.Server.Delivery

/-!
# Failed logins

A login on the HTTP surface, on the websocket and with the kill switch PIN is throttled
by surface and client. An attempt asks whether it is allowed, verifies its credential and
records a failure or clears the failures: the first and the last under the lock of the
throttle, the verification between them under none, so any attempts interleave.
-/

namespace TelemetryHub

open Lib

/-! ## The throttle -/

/-- `AUTH_FAILURE_LIMIT`. -/
def authFailureLimit : Nat := 5

/-- `AUTH_FAILURE_WINDOW_MS`. -/
def authFailureWindowMs : Int := 300000

/-- `AUTH_LOCKOUT_MS`. -/
def authLockoutMs : Int := 300000

/-- `AuthFailureWindow`. -/
structure AuthFailureWindow where
  failures : List Int := []
  lockedUntilTsMs : Option Int := none

/-- `AuthThrottleState`. -/
abbrev AuthThrottleState := Dict String AuthFailureWindow

/-- `failures.retain(..)`. -/
def AuthFailureWindow.retained (window : AuthFailureWindow) (nowMs : Int) : List Int :=
  window.failures.filter fun failure => saturateI64 (nowMs - failure) ≤ authFailureWindowMs

/-- The detail of `rate_limit_error`. -/
def rateLimitDetail : String := "Too many authentication failures; retry after five minutes"

/-- `ensure_auth_attempt_allowed`. -/
def ensureAuthAttemptAllowed (key : String) (nowMs : Int) (throttle : AuthThrottleState) :
    Except String Unit × AuthThrottleState :=
  match throttle.get key with
  | none => (.ok (), throttle)
  | some window =>
    if window.lockedUntilTsMs.any (nowMs < ·) then (.error rateLimitDetail, throttle)
    else (.ok (), throttle.insert key { failures := window.retained nowMs, lockedUntilTsMs := none })

/-- `record_auth_failure`. -/
def recordAuthFailure (key : String) (nowMs : Int) (throttle : AuthThrottleState) :
    Except String Unit × AuthThrottleState :=
  let window := (throttle.get key).getD {}
  let failures := window.retained nowMs ++ [nowMs]
  if authFailureLimit ≤ failures.length then
    (.error rateLimitDetail,
      throttle.insert key { failures, lockedUntilTsMs := some (saturateI64 (nowMs + authLockoutMs)) })
  else (.ok (), throttle.insert key { window with failures })

/-- `clear_auth_failures`. -/
def clearAuthFailures (key : String) (throttle : AuthThrottleState) : AuthThrottleState := throttle.remove key

/-! ## Attempts -/

/-- The surfaces that are throttled. -/
inductive AuthSurface where
  | http | websocket | killSwitchPin
  deriving DecidableEq

/-- The surface as it stands in a key. -/
def AuthSurface.name : AuthSurface → String
  | .http => "http"
  | .websocket => "websocket"
  | .killSwitchPin => "kill-switch-pin"

/-- A client's address: `ip().to_string()`, and `is_local_client_addr`. -/
structure ClientAddr where
  ip : String
  loopback : Bool

/-- `auth_throttle_key`. -/
def authThrottleKey (surface : AuthSurface) (clientAddr : Option ClientAddr) : String :=
  surface.name ++ ":" ++ (clientAddr.map ClientAddr.ip).getD "unknown"

/-- What an attempt brings: the API key and the bearer token or the `token` of a request
from outside, or a PIN. -/
inductive AuthCredentials where
  | remote (apiKey token : Option String)
  | pin (text : String)

/-- An attempt: `validate_http_headers`, `validate_ws_credentials` or
`kill_switch_authorize`. -/
structure AuthAttempt where
  surface : AuthSurface
  clientAddr : Option ClientAddr
  credentials : AuthCredentials

/-- The key an attempt is throttled by. -/
def AuthAttempt.key (attempt : AuthAttempt) : String := authThrottleKey attempt.surface attempt.clientAddr

/-- What a credential is verified against, when it is: `load_stored_remote_password` and
`require_kill_switch_pin` with `verify_versioned_secret` and the migration behind it,
`none` where no password is stored. -/
structure AuthSecrets where
  remotePassword : Except String (Option (String → Except String Bool))
  killSwitchPin : Except String (String → Except String Bool)

/-- How a verification ends: the failures are to be cleared, one is to be recorded, or
neither. -/
inductive AuthVerdict where
  | accepted | failed | passed
  deriving DecidableEq

/-- `validate_stored_remote_password`; `none` is a password not verified at all. -/
def validateStoredRemotePassword (secrets : AuthSecrets) (password : Option String) : Except String (Option Bool) :=
  match (password.map trim).filter fun value => !value.isEmpty with
  | none => .ok none
  | some password =>
    match secrets.remotePassword with
    | .error error => .error error
    | .ok none => .ok none
    | .ok (some verify) => (verify password).map some

/-- The format of `kill_switch_authorize`: six ASCII digits. -/
def isPinText (pin : String) : Bool := pin.utf8ByteSize == 6 && pin.toList.all Char.isDigit

/-- The verification of an attempt: its verdict, and the wrong credentials it has verified. -/
def AuthCredentials.verify (apiKey : Option String) (secrets : AuthSecrets) : AuthCredentials → AuthVerdict × List String
  | .remote key token =>
    let supplied := key.toList ++ token.toList
    if apiKey.any fun expected => key == some expected || token == some expected then (.accepted, [])
    else
      let compared := if apiKey.isSome then supplied else []
      match validateStoredRemotePassword secrets (key.or token) with
      | .error _ => (.passed, compared.dedup)
      | .ok (some true) => (.accepted, [])
      | .ok (some false) => (.failed, (compared ++ (key.or token).toList).dedup)
      | .ok none => (if supplied.isEmpty then .passed else .failed, compared.dedup)
  | .pin text =>
    let pin := trim text
    if !isPinText pin then (.failed, [])
    else match secrets.killSwitchPin.bind fun verify => verify pin with
      | .error _ => (.passed, [])
      | .ok true => (.accepted, [])
      | .ok false => (.failed, [pin])

/-- The attempts that are let through without a credential. -/
def AuthAttempt.exempt (apiKey : Option String) (attempt : AuthAttempt) : Bool :=
  attempt.surface != .killSwitchPin &&
    (attempt.clientAddr.any (·.loopback) || (attempt.clientAddr.isNone && apiKey.isNone))

/-! ## The system -/

/-- An attempt that was allowed, and its verdict once there is one. -/
structure AuthThread where
  attempt : AuthAttempt
  verdict : Option AuthVerdict := none

/-- What is kept of a run: a verification that found wrong credentials, or a success. -/
structure AuthEvent where
  key : String
  tsMs : Int
  wrong : Nat
  success : Bool

/-- The throttle, the attempts under way, and what has happened, the latest first. -/
structure AuthSystem where
  apiKey : Option String
  nowMs : Int
  throttle : AuthThrottleState := ∅
  threads : List AuthThread := []
  log : List AuthEvent := []

/-- The moves of a run: time passes, an attempt comes and asks, or one under way is
verified or writes its verdict to the throttle. -/
inductive AuthMove where
  | tick (ms : Nat)
  | check (attempt : AuthAttempt)
  | verify (index : Nat) (secrets : AuthSecrets)
  | settle (index : Nat)

/-- Another thread, or none, in the place of one. -/
def replaceThread (threads : List AuthThread) (index : Nat) (thread : Option AuthThread) : List AuthThread :=
  threads.take index ++ thread.toList ++ threads.drop (index + 1)

namespace AuthSystem

/-- The verification of the thread at the index. -/
def verifyThread (s : AuthSystem) (index : Nat) (thread : AuthThread) (secrets : AuthSecrets) : AuthSystem :=
  let (verdict, wrong) := thread.attempt.credentials.verify s.apiKey secrets
  { s with
    threads := replaceThread s.threads index
      (if verdict = .passed then none else some { thread with verdict := some verdict })
    log :=
      if wrong.isEmpty then s.log
      else { key := thread.attempt.key, tsMs := s.nowMs, wrong := wrong.length, success := false } :: s.log }

/-- The write of the thread at the index, and its end. -/
def settleThread (s : AuthSystem) (index : Nat) (thread : AuthThread) (verdict : AuthVerdict) : AuthSystem :=
  match verdict with
  | .failed =>
    { s with
      throttle := (recordAuthFailure thread.attempt.key s.nowMs s.throttle).2
      threads := replaceThread s.threads index none }
  | .accepted =>
    { s with
      throttle := clearAuthFailures thread.attempt.key s.throttle
      threads := replaceThread s.threads index none
      log := { key := thread.attempt.key, tsMs := s.nowMs, wrong := 0, success := true } :: s.log }
  | .passed => s

/-- One move; one that is not possible changes nothing. -/
def step (s : AuthSystem) : AuthMove → AuthSystem
  -- the clock does not come near the end of its range
  | .tick ms => if s.nowMs + ms < 2 ^ 62 then { s with nowMs := s.nowMs + ms } else s
  | .check attempt =>
    if attempt.exempt s.apiKey then s
    else
      let (allowed, throttle) := ensureAuthAttemptAllowed attempt.key s.nowMs s.throttle
      match allowed with
      | .error _ => { s with throttle }
      | .ok () => { s with throttle, threads := s.threads ++ [{ attempt }] }
  | .verify index secrets =>
    match s.threads[index]? with
    | some thread => if thread.verdict = none then s.verifyThread index thread secrets else s
    | none => s
  | .settle index =>
    match s.threads[index]? with
    | some thread =>
      match thread.verdict with
      | some verdict => s.settleThread index thread verdict
      | none => s
    | none => s

/-- A run. -/
def run (s : AuthSystem) (moves : List AuthMove) : AuthSystem := moves.foldl step s

/-- The window of a key. -/
def window (s : AuthSystem) (key : String) : AuthFailureWindow := (s.throttle.get key).getD {}

/-- The attempts under way with a key. -/
def inFlight (s : AuthSystem) (key : String) : Nat := s.threads.countP fun thread => thread.attempt.key == key

/-- A lockout recorded for the key is in force. -/
def LockedOut (s : AuthSystem) (key : String) : Prop := ∃ tsMs ∈ (s.window key).lockedUntilTsMs, s.nowMs < tsMs

end AuthSystem

end TelemetryHub
