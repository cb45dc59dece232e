import TelemetryHub.Core.Geometry
import TelemetryHub.Core.Roster

/-!
# Markers and zones
-/

namespace TelemetryHub

open Lib CoreM

/-- `normalize_marker_symbol_segment`: runs of other characters become one dash. -/
def normalizeMarkerSymbolSegment (value : List Char) : List Char :=
  let step : List Char × Bool → Char → List Char × Bool := fun (normalized, pending) c =>
    if ('a' ≤ c && c ≤ 'z') || c.isDigit then
      ((if pending && !normalized.isEmpty then normalized ++ ['-'] else normalized) ++ [c], false)
    else (normalized, true)
  (((trimChars value).flatMap charToLowercase).foldl step ([], false)).1

/-- The names a symbol may go by. -/
def markerSymbolAlias (normalized : String) : String :=
  match normalized with
  | "pin" | "location" => "marker"
  | "car" | "truck" | "auto" | "automobile" => "vehicle"
  | "uav" | "uas" => "drone"
  | "wildlife" | "pet" => "animal"
  | "radar" | "telemetry" | "vehicle-sensor" => "sensor"
  | "cctv" => "camera"
  | "flame" | "wildfire" => "fire"
  | "water" => "flood"
  | "human" | "operator" => "person"
  | "community" | "group-community" | "team" => "group"
  | "building" | "facility" => "infrastructure"
  | "medical" | "hospital" => "medic"
  | "alarm" | "warning" => "alert"
  | "mission" | "assignment" => "task"
  | other => other

/-- `normalize_marker_symbol`. -/
def normalizeMarkerSymbol (symbol : String) : Option String :=
  let raw := toLowercase (trim symbol)
  if raw.isEmpty then none
  else
    let segments := ((splitChars '.' raw.toList).map normalizeMarkerSymbolSegment).filter
      fun segment => !segment.isEmpty
    let normalized := joinWith "." (segments.map String.ofList)
    if normalized.isEmpty then none else some (markerSymbolAlias normalized)

/-- `is_supported_marker_symbol`. -/
def isSupportedMarkerSymbol (symbol : String) : Bool :=
  symbol ∈ ["marker", "friendly", "hostile", "neutral", "unknown", "vehicle", "drone", "animal",
    "sensor", "radio", "antenna", "camera", "fire", "flood", "person", "group", "infrastructure",
    "medic", "alert", "task"]

/-- `normalize_hash` of `object_destination_hash`. -/
def requireMarkerHash (markerHash : String) : Except RchCoreError String :=
  match normalizeHash markerHash with
  | some markerHash => .ok markerHash
  | none => invalidPayload "object_destination_hash is required"

section

variable [Host]

/-- A symbol field of `create_marker_from_args`, checked against the supported set. -/
def markerSymbolFromArgs (args : Value) (keys : List String) (problem : String) :
    Except RchCoreError String :=
  let symbol := (normalizeMarkerSymbol ((optionalText args keys).getD "marker")).getD "marker"
  if isSupportedMarkerSymbol symbol then .ok symbol else invalidPayload problem

/-- `create_marker_from_args`. -/
def createMarkerFromArgs (command : MissionCommandEnvelope) (args : Value) : CoreM MarkerRecord := do
  let lat ← requiredF64 args "lat"
  let lon ← requiredF64 args "lon"
  let localId ← newUuid
  let objectDestinationHash ← newUuid
  let now ← utcNowMs
  let markerType ← markerSymbolFromArgs args ["marker_type", "type"] "Unsupported marker type"
  let symbol ← markerSymbolFromArgs args ["symbol"] "Unsupported marker symbol"
  let category :=
    (normalizeMarkerSymbol ((optionalText args ["category"]).getD "marker")).getD ""
  let marker : MarkerRecord :=
    { localId, objectDestinationHash,
      originRch := (normalizeHash command.source.rnsIdentity).getD "",
      markerType, symbol, name := (optionalText args ["name"]).getD "Marker",
      category := if category.isEmpty then symbol else category,
      lat, lon, notes := optionalText args ["notes"], createdTsMs := now, updatedTsMs := now }
  update fun core => { core with markers := core.markers.insert objectDestinationHash marker }
  return marker

/-- `patch_marker_position_from_args`. -/
def patchMarkerPositionFromArgs (args : Value) : CoreM MarkerRecord := do
  let markerHash ← requireMarkerHash (← requiredText args ["object_destination_hash"])
  let lat ← requiredF64 args "lat"
  let lon ← requiredF64 args "lon"
  let marker ← Proc.orThrow ((← core).markers.get markerHash) .topicNotFound
  let marker := { marker with lat, lon, updatedTsMs := ← utcNowMs }
  update fun core => { core with markers := core.markers.insert markerHash marker }
  return marker

/-- A marker under the name the arguments give it. -/
def renameMarkerFromArgs (args : Value) (marker : MarkerRecord) : Except RchCoreError MarkerRecord :=
  match optionalText args ["name"] with
  | some name =>
    if (trim name).isEmpty then invalidPayload "Marker name is required"
    else .ok { marker with name := trim name }
  | none => .ok marker

/-- `patch_marker_from_args`. -/
def patchMarkerFromArgs (args : Value) : CoreM MarkerRecord := do
  let markerHash ← requireMarkerHash (← requiredText args ["object_destination_hash"])
  let stored ← Proc.orThrow ((← core).markers.get markerHash) .topicNotFound
  let marker ← renameMarkerFromArgs args stored
  let marker := { marker with updatedTsMs := ← utcNowMs }
  update fun core => { core with markers := core.markers.insert markerHash marker }
  return marker

/-- `delete_marker_from_args`. -/
def deleteMarkerFromArgs (args : Value) : CoreM MarkerRecord := do
  let markerHash ← requireMarkerHash (← requiredText args ["object_destination_hash"])
  let marker ← Proc.orThrow ((← core).markers.get markerHash) .topicNotFound
  update fun core => { core with markers := core.markers.remove markerHash }
  return marker

/-- `apply_marker_command`. -/
def applyMarkerCommand (command : MissionCommandEnvelope) : CoreM EventEnvelope := do
  match command.commandType with
  | "mission.marker.list" =>
    return event "mission.marker.listed" command
      (.object [("markers", .array ((← core).markerList.map markerValue))])
  | "mission.marker.create" =>
    return event "mission.marker.created" command
      (markerValue (← createMarkerFromArgs command command.args))
  | "mission.marker.position.patch" =>
    return event "mission.marker.position.updated" command
      (markerValue (← patchMarkerPositionFromArgs command.args))
  | "mission.marker.patch" =>
    return event "mission.marker.updated" command (markerValue (← patchMarkerFromArgs command.args))
  | "mission.marker.delete" =>
    return event "mission.marker.deleted" command (markerValue (← deleteMarkerFromArgs command.args))
  | other => throw (.unsupportedCommand other)

/-! ## Zones -/

/-- One vertex of `points`. -/
def zonePointFromValue (point : Value) : Except RchCoreError ZonePointRecord :=
  match (point.get "lat").bind valueAsF64, (point.get "lon").bind valueAsF64 with
  | some lat, some lon => .ok { lat, lon }
  | _, _ => invalidPayload "zone point lat/lon must be numeric"

omit [Host] in
/-- Drop a closing vertex that repeats the first. -/
def openRing (points : List ZonePointRecord) : List ZonePointRecord :=
  match points.head?, points.getLast? with
  | some first, some last => if zonePointsEqual first last then points.dropLast else points
  | _, _ => points

/-- `required_zone_points`. -/
def requiredZonePoints (args : Value) : Except RchCoreError (List ZonePointRecord) := do
  let some points := (args.get "points").bind Value.asArray
    | invalidPayload "points must be a list"
  let resolved := openRing (← points.mapM zonePointFromValue)
  validateZonePoints resolved
  return resolved

/-- `create_zone_from_args`. -/
def createZoneFromArgs (args : Value) : CoreM ZoneRecord := do
  let now ← utcNowMs
  let zoneId ← newUuid
  let points ← requiredZonePoints args
  let zone : ZoneRecord :=
    { zoneId, name := (optionalText args ["name"]).getD "Zone", points, createdTsMs := now,
      updatedTsMs := now }
  update fun core => { core with zones := core.zones.insert zoneId zone }
  return zone

/-- The points of a zone, which an argument replaces. -/
def patchedZonePoints (args : Value) (current : List ZonePointRecord) :
    Except RchCoreError (List ZonePointRecord) :=
  if args.containsKey "points" then requiredZonePoints args else .ok current

/-- `patch_zone_from_args`. The name is written to the stored zone before the
points are read. -/
def patchZoneFromArgs (args : Value) : CoreM ZoneRecord := do
  let zoneId ← requiredText args ["zone_id"]
  let zone ← Proc.orThrow ((← core).zones.get zoneId) .topicNotFound
  let zone := { zone with name := (optionalText args ["name"]).getD zone.name }
  update fun core => { core with zones := core.zones.insert zoneId zone }
  let points ← patchedZonePoints args zone.points
  let zone := { zone with points, updatedTsMs := ← utcNowMs }
  update fun core => { core with zones := core.zones.insert zoneId zone }
  return zone

/-- `delete_zone_from_args`. -/
def deleteZoneFromArgs (args : Value) : CoreM ZoneRecord := do
  let zoneId ← requiredText args ["zone_id"]
  let zone ← Proc.orThrow ((← core).zones.get zoneId) .topicNotFound
  update fun core => { core with zones := core.zones.remove zoneId }
  return zone

/-- `apply_zone_command`. -/
def applyZoneCommand (command : MissionCommandEnvelope) : CoreM EventEnvelope := do
  match command.commandType with
  | "mission.zone.list" =>
    return event "mission.zone.listed" command
      (.object [("zones", .array ((← core).zoneList.map zoneValue))])
  | "mission.zone.create" =>
    return event "mission.zone.created" command (zoneValue (← createZoneFromArgs command.args))
  | "mission.zone.patch" =>
    return event "mission.zone.updated" command (zoneValue (← patchZoneFromArgs command.args))
  | "mission.zone.delete" =>
    return event "mission.zone.deleted" command (zoneValue (← deleteZoneFromArgs command.args))
  | other => throw (.unsupportedCommand other)

end
end TelemetryHub
