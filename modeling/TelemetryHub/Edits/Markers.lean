import TelemetryHub.Core.Logic
import TelemetryHub.Core.Markers

/-!
# What the marker and zone commands write

An edit is one write of a handler, with what the handler knew when it made it.
Where `strict` holds the write also leaves no reference behind: the handlers do
not check this, their callers may.
-/

namespace TelemetryHub

open Lib CoreM

/-- No mission is linked to the marker, by its hash or by its local id. -/
def MarkerUnlinked (core : RchCore) (markerHash localId : String) : Prop :=
  ∀ link ∈ core.missionMarkerLinks, link.2 ≠ markerHash ∧ link.2 ≠ localId

/-- No mission is linked to the zone. -/
def ZoneUnlinked (core : RchCore) (zoneId : String) : Prop :=
  ∀ link ∈ core.missionZoneLinks, link.2 ≠ zoneId

/-- The marker the arguments delete, if there is one, is linked to no mission. -/
def MarkerDeletable [Host] (core : RchCore) (args : Value) : Prop :=
  ∀ text markerHash marker, requiredText args ["object_destination_hash"] = .ok text →
    requireMarkerHash text = .ok markerHash → core.markers.get markerHash = some marker →
    MarkerUnlinked core markerHash marker.localId

/-- The zone the arguments delete is linked to no mission. -/
def ZoneDeletable [Host] (core : RchCore) (args : Value) : Prop :=
  ∀ zoneId, requiredText args ["zone_id"] = .ok zoneId → ZoneUnlinked core zoneId

/-- The points the arguments give a stored zone are accepted, or its name stays. -/
def ZonePatchChecks [Host] (core : RchCore) (args : Value) : Prop :=
  ∀ zoneId zone, requiredText args ["zone_id"] = .ok zoneId → core.zones.get zoneId = some zone →
    (∃ points, patchedZonePoints args zone.points = .ok points) ∨
      (optionalText args ["name"]).getD zone.name = zone.name

/-- One write of a marker or zone command. -/
inductive MarkerEdit (strict : Prop) (core : RchCore) : RchCore → Prop
  | create (markerHash : String) (marker : MarkerRecord)
      (key : marker.objectDestinationHash = markerHash)
      (fresh : strict → core.markers.get markerHash = none) :
      MarkerEdit strict core { core with markers := core.markers.insert markerHash marker }
  | patch (markerHash : String) (old marker : MarkerRecord)
      (stored : core.markers.get markerHash = some old)
      (key : marker.objectDestinationHash = old.objectDestinationHash)
      (localId : marker.localId = old.localId) :
      MarkerEdit strict core { core with markers := core.markers.insert markerHash marker }
  | delete (markerHash : String) (marker : MarkerRecord)
      (stored : core.markers.get markerHash = some marker)
      (unlinked : strict → MarkerUnlinked core markerHash marker.localId) :
      MarkerEdit strict core { core with markers := core.markers.remove markerHash }
  | createZone (zoneId : String) (zone : ZoneRecord) (key : zone.zoneId = zoneId) :
      MarkerEdit strict core { core with zones := core.zones.insert zoneId zone }
  | patchZone (zoneId : String) (old zone : ZoneRecord) (stored : core.zones.get zoneId = some old)
      (key : zone.zoneId = old.zoneId) :
      MarkerEdit strict core { core with zones := core.zones.insert zoneId zone }
  | deleteZone (zoneId : String) (zone : ZoneRecord) (stored : core.zones.get zoneId = some zone)
      (unlinked : strict → ZoneUnlinked core zoneId) :
      MarkerEdit strict core { core with zones := core.zones.remove zoneId }

section

variable [Host] {drawn : String → Prop} {strict clean : Prop} {core₀ : RchCore}

/-! ## Markers -/

theorem createMarkerFromArgs_spec (command : MissionCommandEnvelope) (args : Value)
    (fresh : strict → ∀ uid, drawn uid → core₀.markers.get uid = none) :
    Spec drawn (createMarkerFromArgs command args) core₀ (Proc.Outcome clean (MarkerEdit strict) core₀) := by
  unfold createMarkerFromArgs
  refine Proc.Spec.checked fun lat _ => ?_
  refine Proc.Spec.checked fun lon _ => ?_
  refine Spec.draw fun localId _ => ?_
  refine Spec.draw fun markerHash hdrawn => ?_
  refine Spec.clock fun now => ?_
  refine Proc.Spec.checked fun markerType _ => ?_
  refine Proc.Spec.checked fun symbol _ => ?_
  refine Spec.write ?_
  exact Proc.Spec.done (.single (.create _ _ rfl fun hs => fresh hs _ hdrawn))

theorem patchMarkerPositionFromArgs_spec (args : Value) :
    Spec drawn (patchMarkerPositionFromArgs args) core₀ (Proc.Outcome clean (MarkerEdit strict) core₀) := by
  unfold patchMarkerPositionFromArgs
  refine Proc.Spec.checked fun text _ => ?_
  refine Proc.Spec.checked fun markerHash _ => ?_
  refine Proc.Spec.checked fun lat _ => ?_
  refine Proc.Spec.checked fun lon _ => ?_
  refine Spec.read ?_
  refine Proc.Spec.required fun marker stored => ?_
  refine Spec.clock fun now => ?_
  refine Spec.write ?_
  exact Proc.Spec.done (.single (.patch _ marker _ stored rfl rfl))

omit drawn strict clean core₀ in
theorem renameMarkerFromArgs_keeps {args : Value} {marker renamed : MarkerRecord}
    (h : renameMarkerFromArgs args marker = .ok renamed) :
    renamed.objectDestinationHash = marker.objectDestinationHash ∧
      renamed.localId = marker.localId := by
  unfold renameMarkerFromArgs at h
  split at h
  · split at h
    · cases h
    · cases h
      exact ⟨rfl, rfl⟩
  · cases h
    exact ⟨rfl, rfl⟩

theorem patchMarkerFromArgs_spec (args : Value) :
    Spec drawn (patchMarkerFromArgs args) core₀ (Proc.Outcome clean (MarkerEdit strict) core₀) := by
  unfold patchMarkerFromArgs
  refine Proc.Spec.checked fun text _ => ?_
  refine Proc.Spec.checked fun markerHash _ => ?_
  refine Spec.read ?_
  refine Proc.Spec.required fun marker stored => ?_
  refine Proc.Spec.checked fun renamed hrenamed => ?_
  refine Spec.clock fun now => ?_
  refine Spec.write ?_
  obtain ⟨key, localId⟩ := renameMarkerFromArgs_keeps hrenamed
  exact Proc.Spec.done (.single (.patch _ marker _ stored key localId))

theorem deleteMarkerFromArgs_spec (args : Value)
    (unlinked : strict → MarkerDeletable core₀ args) :
    Spec drawn (deleteMarkerFromArgs args) core₀ (Proc.Outcome clean (MarkerEdit strict) core₀) := by
  unfold deleteMarkerFromArgs
  refine Proc.Spec.checked fun text htext => ?_
  refine Proc.Spec.checked fun markerHash hhash => ?_
  refine Spec.read ?_
  refine Proc.Spec.required fun marker stored => ?_
  refine Spec.write ?_
  exact Proc.Spec.done (.single (.delete _ marker stored fun hs => unlinked hs _ _ _ htext hhash stored))

theorem applyMarkerCommand_spec (command : MissionCommandEnvelope)
    (fresh : strict → ∀ uid, drawn uid → core₀.markers.get uid = none)
    (unlinked : strict → command.commandType = "mission.marker.delete" →
      MarkerDeletable core₀ command.args) :
    Spec drawn (applyMarkerCommand command) core₀ (Proc.Outcome clean (MarkerEdit strict) core₀) := by
  unfold applyMarkerCommand
  split
  · exact Spec.read .answer
  · exact .finish (createMarkerFromArgs_spec command _ fresh) fun _ _ _ => .finished
  · exact .finish (patchMarkerPositionFromArgs_spec _) fun _ _ _ => .finished
  · exact .finish (patchMarkerFromArgs_spec _) fun _ _ _ => .finished
  · exact .finish (deleteMarkerFromArgs_spec _ fun hs => unlinked hs ‹_›) fun _ _ _ => .finished
  · exact .failed

/-! ## Zones -/

theorem createZoneFromArgs_spec (args : Value) :
    Spec drawn (createZoneFromArgs args) core₀ (Proc.Outcome clean (MarkerEdit strict) core₀) := by
  unfold createZoneFromArgs
  refine Spec.clock fun now => ?_
  refine Spec.draw fun zoneId _ => ?_
  refine Proc.Spec.checked fun points _ => ?_
  refine Spec.write ?_
  exact Proc.Spec.done (.single (.createZone _ _ rfl))

/-- The name is written before the points are checked. -/
theorem patchZoneFromArgs_spec (args : Value) (checks : clean → ZonePatchChecks core₀ args) :
    Spec drawn (patchZoneFromArgs args) core₀ (Proc.Outcome clean (MarkerEdit strict) core₀) := by
  unfold patchZoneFromArgs
  refine Proc.Spec.checked fun zoneId hid => ?_
  refine Spec.read ?_
  refine Proc.Spec.required fun zone stored => ?_
  let named : ZoneRecord := { zone with name := (optionalText args ["name"]).getD zone.name }
  have hnamed : MarkerEdit strict core₀
      { core₀ with zones := core₀.zones.insert zoneId named } :=
    .patchZone _ zone _ stored rfl
  refine Spec.write ?_
  refine Proc.Spec.check (fun points _ => ?_) (fun e he => ?_)
  · refine Spec.clock fun now => ?_
    refine Spec.write ?_
    refine Proc.Spec.done (.tail (.single hnamed) ?_)
    exact .patchZone _ _ _ (Dict.get_insert_self _ _ _) rfl
  · refine .late (.single hnamed) fun hclean => ?_
    rcases checks hclean _ _ hid stored with ⟨points, hpoints⟩ | hname
    · have hpoints : patchedZonePoints args zone.points = .ok points := hpoints
      rw [hpoints] at he
      cases he
    · rw [hname, Dict.insert_eq_self stored]

theorem deleteZoneFromArgs_spec (args : Value) (unlinked : strict → ZoneDeletable core₀ args) :
    Spec drawn (deleteZoneFromArgs args) core₀ (Proc.Outcome clean (MarkerEdit strict) core₀) := by
  unfold deleteZoneFromArgs
  refine Proc.Spec.checked fun zoneId hid => ?_
  refine Spec.read ?_
  refine Proc.Spec.required fun zone stored => ?_
  refine Spec.write ?_
  exact Proc.Spec.done (.single (.deleteZone _ zone stored fun hs => unlinked hs _ hid))

theorem applyZoneCommand_spec (command : MissionCommandEnvelope)
    (checks : clean → command.commandType = "mission.zone.patch" →
      ZonePatchChecks core₀ command.args)
    (unlinked : strict → command.commandType = "mission.zone.delete" →
      ZoneDeletable core₀ command.args) :
    Spec drawn (applyZoneCommand command) core₀ (Proc.Outcome clean (MarkerEdit strict) core₀) := by
  unfold applyZoneCommand
  split
  · exact Spec.read .answer
  · exact .finish (createZoneFromArgs_spec _) fun _ _ _ => .finished
  · exact .finish (patchZoneFromArgs_spec _ fun hc => checks hc ‹_›) fun _ _ _ => .finished
  · exact .finish (deleteZoneFromArgs_spec _ fun hs => unlinked hs ‹_›) fun _ _ _ => .finished
  · exact .failed

end
end TelemetryHub
