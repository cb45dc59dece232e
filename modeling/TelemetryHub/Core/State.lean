import TelemetryHub.Lib.Proc
import TelemetryHub.Lib.Dict
import TelemetryHub.Core.Records

/-!
# The core's state

`RchCore` and the computations its handlers are: methods on `&mut self` that
read the clock and draw fresh UUIDs. The clock readings and the draws of a run
are inputs, given as the two streams of `World`.
-/

namespace TelemetryHub

open Lib

/-- `RchCore`. -/
structure RchCore where
  topics : Dict String TopicRecord := ∅
  subscribers : Dict (String × String) SubscriberRecord := ∅
  messages : List MessageRecord := []
  clients : Dict String ClientRecord := ∅
  identityAnnounces : Dict String IdentityAnnounceRecord := ∅
  identityStates : Dict String IdentityStateRecord := ∅
  identityRemModes : Dict String IdentityRemModeRecord := ∅
  auditEvents : List MissionAuditEvent := []
  systemEvents : List SystemEventRecord := []
  telemetryRecords : List TelemetryRecord := []
  markers : Dict String MarkerRecord := ∅
  zones : Dict String ZoneRecord := ∅
  missions : Dict String MissionRecord := ∅
  missionChanges : Dict String MissionChangeRecord := ∅
  logEntries : Dict String LogEntryRecord := ∅
  fileAttachments : Dict Nat FileAttachmentRecord := ∅
  eamSnapshots : Dict String EamSnapshotRecord := ∅
  teams : Dict String TeamRecord := ∅
  missionTeamLinks : HSet (String × String) := ∅
  missionZoneLinks : HSet (String × String) := ∅
  missionMarkerLinks : HSet (String × String) := ∅
  teamMembers : Dict String TeamMemberRecord := ∅
  teamMemberClientLinks : HSet (String × String) := ∅
  assets : Dict String AssetRecord := ∅
  skills : Dict String SkillRecord := ∅
  teamMemberSkills : Dict String TeamMemberSkillRecord := ∅
  taskSkillRequirements : Dict String TaskSkillRequirementRecord := ∅
  assignments : Dict String AssignmentRecord := ∅
  assignmentAssetLinks : HSet (String × String) := ∅
  checklists : Dict String ChecklistRecord := ∅
  checklistTemplates : Dict String ChecklistTemplateRecord := ∅
  checklistColumns : Dict String ChecklistColumnRecord := ∅
  checklistTasks : Dict String ChecklistTaskRecord := ∅
  checklistCells : Dict String ChecklistCellRecord := ∅
  checklistFeedPublications : Dict String ChecklistFeedPublicationRecord := ∅
  commandResults : Dict String CommandResultEnvelope := ∅
  identityCapabilities : Dict String (HSet String) := ∅
  missionAccessAssignments : Dict (String × String × String) MissionAccessAssignment := ∅
  subjectOperationRights : Dict (String × String × String × String × String) SubjectOperationRight := ∅
  authorizationRequired : Bool := false

/-- `RchCore::new`. -/
def RchCore.new : RchCore := {}

/-- The core with the clock readings and the UUIDs still to come. -/
structure World where
  core : RchCore
  clock : Nat → Instant
  draws : Nat → Uuid

/-- A world at the Unix epoch whose clock stands still and whose draws are the
numbers from zero on. -/
def World.atEpoch (core : RchCore) : World :=
  { core, clock := fun _ => ⟨0, "1970-01-01T00:00:00Z"⟩, draws := Uuid.ofNat }

/-- A method on `&mut RchCore`. -/
abbrev CoreM (α : Type) : Type := Proc RchCoreError World α

namespace CoreM

/-- `self`, read. -/
def core : CoreM RchCore := do return (← get).core

/-- A write to `self`. -/
def update (f : RchCore → RchCore) : CoreM Unit := modify fun w => { w with core := f w.core }

variable {α : Type}

@[simp] theorem run_core (w : World) : core.run w = (.ok w.core, w) := rfl

@[simp] theorem run_update (f : RchCore → RchCore) (w : World) :
    (update f).run w = (.ok (), { w with core := f w.core }) := rfl

@[simp] theorem run_core_bind (k : RchCore → CoreM α) (w : World) :
    (core >>= k).run w = (k w.core).run w := rfl

@[simp] theorem run_update_bind (f : RchCore → RchCore) (k : Unit → CoreM α) (w : World) :
    (update f >>= k).run w = (k ()).run { w with core := f w.core } := rfl

end CoreM

/-- One reading of the clock. -/
def now : CoreM Instant := fun w => (.ok (w.clock 0), { w with clock := fun n => w.clock (n + 1) })

@[simp] theorem run_now (w : World) :
    now.run w = (.ok (w.clock 0), { w with clock := fun n => w.clock (n + 1) }) := rfl

/-- `utc_now_ms`. -/
def utcNowMs : CoreM Int := do return (← now).timestampMillis

/-- `utc_now_rfc3339`. -/
def utcNowRfc3339 : CoreM String := do return (← now).rfc3339

/-- `Uuid::new_v4().simple().to_string()`. -/
def newUuid : CoreM String := fun w =>
  (.ok (w.draws 0).simple, { w with draws := fun n => w.draws (n + 1) })

@[simp] theorem run_newUuid (w : World) :
    newUuid.run w = (.ok (w.draws 0).simple, { w with draws := fun n => w.draws (n + 1) }) := rfl

/-- `value.unwrap_or_else(|| Uuid::new_v4().simple().to_string())`. -/
def orNewUuid (value : Option String) : CoreM String :=
  match value with
  | some text => pure text
  | none => newUuid

/-- A loop over `values_mut` that rewrites the records satisfying `p`, each with
a reading of the clock of its own. -/
def rewriteWhere {V : Type} (p : V → Bool) (f : Int → V → V) (records : Dict String V) :
    CoreM (Dict String V) :=
  records.toPairs.foldlM (fun acc (key, record) => do
    if p record then return acc.insert key (f (← utcNowMs) record) else return acc) records

/-- `Err(RchCoreError::InvalidPayload(..))`. -/
def invalidPayload {α : Type} (text : String) : Except RchCoreError α :=
  .error (.invalidPayload text)

end TelemetryHub
