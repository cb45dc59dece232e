import TelemetryHub.Core.Logic
import TelemetryHub.Core.Assets

/-!
# What a command records of itself

The audit events, the mission changes and the cached results. None of these
writes can fail.
-/

namespace TelemetryHub

open Lib CoreM

/-- One entry of the journal. -/
inductive JournalEdit (core : RchCore) : RchCore → Prop
  | audit (record : MissionAuditEvent) :
      JournalEdit core { core with auditEvents := core.auditEvents ++ [record] }
  | change (uid : String) (record : MissionChangeRecord) (key : record.uid = uid) :
      JournalEdit core { core with missionChanges := core.missionChanges.insert uid record }
  | result (commandId : String) (record : CommandResultEnvelope) :
      JournalEdit core { core with commandResults := core.commandResults.insert commandId record }

section

variable {drawn : String → Prop} {clean : Prop} {core₀ : RchCore}

theorem recordAuditEvent_spec (command : MissionCommandEnvelope) (event : EventEnvelope) :
    Spec drawn (recordAuditEvent command event) core₀ (Proc.Finishes clean JournalEdit core₀) := by
  unfold recordAuditEvent
  refine Spec.draw fun eventId _ => ?_
  refine Spec.clock fun timestampMs => ?_
  exact Spec.lastWrite (.ok (.single (.audit _)) trivial)

theorem recordMissionChange_spec [Host] (command : MissionCommandEnvelope)
    (change : MissionChangeRecord) :
    Spec drawn (recordMissionChange command change) core₀
      (Proc.Finishes clean JournalEdit core₀) := by
  unfold recordMissionChange
  refine Spec.write ?_
  have audited : Spec drawn (recordAuditEvent command
      (event "mission.registry.mission_change.upserted" command (missionChangeValue change)))
      { core₀ with missionChanges := core₀.missionChanges.insert change.uid change }
      (Proc.Finishes clean JournalEdit _) := recordAuditEvent_spec command _
  refine audited.mono fun r core' h => ?_
  exact ⟨.head (.change _ _ rfl) h.steps, h.total, h.value⟩

end
end TelemetryHub
