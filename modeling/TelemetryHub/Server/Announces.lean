import TelemetryHub.Core.Roster
import TelemetryHub.Server.Aliases
import TelemetryHub.Server.Delivery

/-!
# Importing announces

A batch of announces from the daemon is compared with the stored announces and
what is new in it is written back. Which announce of a destination counts is
decided within the batch, by the latest timestamp, and whether it is new by
whether the stored time differs.
-/

namespace TelemetryHub

open Lib ServerM

variable [ServerHost]

namespace ReticulumdAnnounce

/-- `announce.timestamp.saturating_mul(1000)`. -/
def tsMs (announce : ReticulumdAnnounce) : Int := saturateI64 (announce.timestamp * 1000)

/-- `announce.first_seen.saturating_mul(1000)`. -/
def firstSeenMs (announce : ReticulumdAnnounce) : Int := saturateI64 (announce.firstSeen * 1000)

/-- The destination the announce is of. -/
def destination (announce : ReticulumdAnnounce) : Option String := normalizeIdentityKey announce.peer

end ReticulumdAnnounce

/-- `normalize_capability_value` of a string. -/
def normalizeCapabilityText (text : String) : List String :=
  let text := String.ofList (text.toList.map fun c => if c = ';' ∨ c = '|' then ',' else c)
  dedupeNonEmpty ((splitOnChar ',' text).map toAsciiLowercase)

/-- `announce_is_telephony`. -/
def announceIsTelephony (announce : ReticulumdAnnounce) : Bool :=
  announce.destination.any isKnownPixelVoiceDestination ||
    (announce.aspect.map toAsciiLowercase).any fun aspect =>
      textContains aspect "telephony" || textContains aspect "voice"

/-- The capability at the end, unless it is there. -/
def withCapability (capabilities : List String) (capability : String) : List String :=
  if capabilities.contains capability then capabilities else capabilities ++ [capability]

/-- `normalize_optional_text`. -/
def normalizeOptionalText (value : Option String) : Option String := value.bind fun v => noneIfEmpty (trim v)

/-- The first list that is not empty. -/
def orElseList (first second : List String) : List String := if first.isEmpty then second else first

/-- The capabilities an announce is recorded with. -/
def ReticulumdAnnounce.importedCapabilities (announce : ReticulumdAnnounce) : List String :=
  let capabilities := orElseList (orElseList (announce.capabilities.flatMap normalizeCapabilityText)
      ((announce.appDataHex.map ServerHost.decodeAnnounceCapabilities).getD []))
    (((normalizeOptionalText announce.name).map normalizeCapabilityText).getD [])
  if announceIsTelephony announce then withCapability (withCapability capabilities "telephony") "voice"
  else capabilities

/-- `latest_ts_by_destination`, read at a destination. -/
def latestTsMs (announces : List ReticulumdAnnounce) (destination : String) : Option Int :=
  ((announces.filter fun announce => announce.destination == some destination).map (·.tsMs)).max?

/-- `should_record`: the announce tells what the stored record does not. -/
def ReticulumdAnnounce.isNewTo (announce : ReticulumdAnnounce) (prior : Option IdentityAnnounceRecord) : Bool :=
  prior.all fun record =>
    record.lastSeenTsMs != announce.tsMs ||
      (!announce.importedCapabilities.isEmpty && record.announceCapabilities != announce.importedCapabilities)

/-- What the loop over a batch carries. -/
structure ImportPass where
  core : RchCore
  recordsToTouch : List IdentityAnnounceRecord := []
  imported : Nat := 0
  lastId : Option String := none
  recordKeys : HSet String := ∅
  recordTimestamps : Dict String (Int × Int) := ∅

/-- The record of a destination among the stored ones. -/
def priorRecord (stored : List IdentityAnnounceRecord) (destination : String) : Option IdentityAnnounceRecord :=
  stored.find? (·.destinationHash == destination)

/-- `core.record_identity_announce(..)` for the announce. -/
def ReticulumdAnnounce.record (announce : ReticulumdAnnounce) (destination : String) : CoreM Unit :=
  recordIdentityAnnounce destination none (normalizeOptionalText announce.name)
    (some ((normalizeOptionalText (announce.interface.or announce.nameSource)).getD "reticulumd"))
    announce.importedCapabilities

/-- An announce that tells nothing new: its record is touched, if the caller asks for it. -/
def ImportPass.touch (pass : ImportPass) (touchUnchangedRecords : Bool) (touchTsMs : Int)
    (prior : Option IdentityAnnounceRecord) : ImportPass :=
  if touchUnchangedRecords then
    { pass with
      recordsToTouch := pass.recordsToTouch ++
        (prior.map fun record => { record with lastSeenTsMs := touchTsMs }).toList }
  else pass

/-- An announce that tells something new: the core has recorded it. -/
def ImportPass.recorded (pass : ImportPass) (announce : ReticulumdAnnounce) (destination : String)
    (prior : Option IdentityAnnounceRecord) (core : RchCore) : ImportPass :=
  { pass with
    core
    imported := pass.imported + 1
    lastId := some announce.id
    recordKeys := pass.recordKeys.insert destination
    recordTimestamps := pass.recordTimestamps.insert destination
      ((prior.map (·.firstSeenTsMs)).getD announce.firstSeenMs, announce.tsMs) }

/-- One round of the loop. -/
def importAnnounce (stored : List IdentityAnnounceRecord) (announces : List ReticulumdAnnounce)
    (touchUnchangedRecords : Bool) (touchTsMs : Int) (pass : ImportPass) (announce : ReticulumdAnnounce) :
    ServerM ImportPass := do
  let destination ← Proc.orThrow announce.destination (.internal "reticulumd announce peer is invalid")
  let prior := priorRecord stored destination
  if (latestTsMs announces destination).any (announce.tsMs < ·) then pure pass
  else if !announce.isNewTo prior then pure (pass.touch touchUnchangedRecords touchTsMs prior)
  else do
    let after ← onCore pass.core (announce.record destination)
    let _ ← (after.1.mapError fun error => ApiError.internal error.text : Except ApiError Unit)
    return pass.recorded announce destination prior after.2

/-- The records the pass has written, with their timestamps. -/
def ImportPass.updatedRecords (pass : ImportPass) : List IdentityAnnounceRecord :=
  pass.recordKeys.toList.filterMap fun key =>
    (pass.core.identityAnnounceList.find? (·.destinationHash == key)).map fun record =>
      match pass.recordTimestamps.get key with
      | some (firstSeenTsMs, lastSeenTsMs) => { record with firstSeenTsMs, lastSeenTsMs }
      | none => record

/-- The identity an announce speaks for. -/
def IdentityAnnounceRecord.primaryIdentity (announce : IdentityAnnounceRecord) : Option String :=
  (announce.announcedIdentityHash.bind normalizeIdentityKey).or (normalizeIdentityKey announce.destinationHash)

/-- `record_announce_identity_state_inner`, without the row. -/
def recordAnnounceIdentityState (announce : IdentityAnnounceRecord) : ServerM Unit := do
  let primaryIdentity ← Proc.orThrow announce.primaryIdentity
    (.internal "identity announce key was not recorded")
  let fresh : IdentityStateRecord :=
    { identity := primaryIdentity
      isBanned := false
      isBlackholed := false
      updatedTsMs := announce.lastSeenTsMs }
  update fun s =>
    if s.identityStates.contains primaryIdentity then s
    else { s with identityStates := s.identityStates.insert primaryIdentity fresh }

/-- `persist_identity_announce_records`. -/
def persistIdentityAnnounceRecords (records : List IdentityAnnounceRecord) : ServerM Unit :=
  update fun s => { s with sqlite := s.sqlite.map fun store => records.foldl .upsertIdentityAnnounce store }

/-- `persist_identity_state_records`. -/
def persistIdentityStateRecords (announces : List IdentityAnnounceRecord) : ServerM Unit :=
  update fun s =>
    let identities := announces.filterMap IdentityAnnounceRecord.primaryIdentity
    let records := s.identityStates.values.filter fun record => identities.contains record.identity
    { s with sqlite := s.sqlite.map fun store => records.foldl .upsertIdentityState store }

/-- What is written back after the loop. -/
def persistImported (records : List IdentityAnnounceRecord) : ServerM Unit :=
  if records.isEmpty then pure ()
  else do
    persistIdentityAnnounceRecords records
    records.forM recordAnnounceIdentityState
    persistIdentityStateRecords records

/-- `import_reticulumd_announce_batch`. -/
def importReticulumdAnnounceBatch (announces : List ReticulumdAnnounce) (touchUnchangedRecords : Bool) :
    ServerM (Nat × Option String) := do
  if announces.isEmpty then return (0, none)
  let store ← Proc.orThrow (← state).sqlite (.serviceUnavailable "RCH SQLite state unavailable")
  let stored := store.loadIdentityAnnounces
  let touchTsMs ← unixNowMs
  let core : RchCore := stored.foldl (fun core announce =>
    { core with identityAnnounces := core.identityAnnounces.insert announce.destinationHash announce }) .new
  let pass ← announces.foldlM (importAnnounce stored announces touchUnchangedRecords touchTsMs) { core }
  persistImported (pass.recordsToTouch ++ pass.updatedRecords)
  return (pass.imported, pass.lastId)

end TelemetryHub
