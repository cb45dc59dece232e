import TelemetryHub.Server.Symbols
import Mathlib.Data.Rat.Lemmas

/-!
# Zones over HTTP and over mission sync

The zone handlers of the server beside those of the core, over any scalar: what each takes
and what it stores. The core's handlers are the ones of the float scalar.
-/

namespace TelemetryHub

open Lib Coordinate

/-- `Value::as_f64` and `str::parse::<f64>`, for the scalar. -/
class JsonScalar (F : Type) where
  ofNumber : Number → F
  parse : String → Option F

instance [Host] : JsonScalar Float where
  ofNumber
    | .int n => Float.ofInt n
    | .float x => x
  parse := Host.parseFloat

open JsonScalar

/-- A zone, over any scalar; the hub's is a `ZoneRecord`. -/
structure ZoneOf (F : Type) where
  zoneId : String
  name : String
  points : List (ZonePoint F)
  createdTsMs : Int
  updatedTsMs : Int

/-- The `ApiError`s of the zone handlers. -/
inductive ZoneError where
  | pydanticValidation (body : Value)
  | unprocessable (detail : String)
  | notFound (detail : String)

/-! ## Python's error bodies -/

/-- One entry of `detail`. -/
def pythonDetail (type : String) (loc : List String) (msg : String) (input : Value) (ctx : List (String × Value)) : Value :=
  .object ([("type", .string type), ("loc", .array (loc.map .string)), ("msg", .string msg), ("input", input)] ++ ctx)

/-- `{"detail": [..]}`. -/
def pythonBody (details : List Value) : Value := .object [("detail", .array details)]

/-- `python_model_attributes_body`. -/
def pythonModelAttributesBody (input : Value) : Value :=
  pythonBody [pythonDetail "model_attributes_type" ["body"]
    "Input should be a valid dictionary or object to extract fields from" input []]

/-- `python_missing_body_body`. -/
def pythonMissingBodyBody : Value := pythonBody [pythonDetail "missing" ["body"] "Field required" .null []]

/-- `python_missing_fields_body`. -/
def pythonMissingFieldsBody (fields : List String) (input : Value) : Value :=
  pythonBody (fields.map fun field => pythonDetail "missing" ["body", field] "Field required" input [])

/-- `python_value_error_body`. -/
def pythonValueErrorBody (message : String) (input : Value) : Value :=
  pythonBody [pythonDetail "value_error" ["body"] ("Value error, " ++ message) input
    [("ctx", .object [("error", .object [])])]]

/-- `python_string_too_short_body`. -/
def pythonStringTooShortBody (field : String) (input : Value) (minLength : Nat) : Value :=
  pythonBody [pythonDetail "string_too_short" ["body", field]
    ("String should have at least " ++ toString minLength ++ " character") input
    [("ctx", .object [("min_length", toValue minLength)])]]

/-- `python_list_too_short_body`. -/
def pythonListTooShortBody (field : String) (input : Value) (minLength actualLength : Nat) : Value :=
  pythonBody [pythonDetail "too_short" ["body", field]
    ("List should have at least " ++ toString minLength ++ " items after validation, not " ++ toString actualLength) input
    [("ctx", .object [("field_type", .string "List"), ("min_length", toValue minLength),
      ("actual_length", toValue actualLength)])]]

section

variable {F : Type} [JsonScalar F] [Coordinate F]

/-! ## The HTTP handlers -/

/-- `validate_lat_lon`. -/
def validateLatLon (point : ZonePoint F) : Except ZoneError Unit :=
  if !(le (ofInt (-90)) point.lat && le point.lat (ofInt 90)) then .error (.unprocessable "lat must be between -90 and 90")
  else if !(le (ofInt (-180)) point.lon && le point.lon (ofInt 180)) then
    .error (.unprocessable "lon must be between -180 and 180")
  else .ok ()

/-- `validate_zone_points` of the server. -/
def validateZonePointsForHttp (points : List (ZonePoint F)) : Except ZoneError Unit := do
  if points.length < 3 then throw (.unprocessable "Zone must include at least 3 points")
  if points.length > 200 then throw (.unprocessable "Zone must include no more than 200 points")
  points.forM validateLatLon

/-- `validate_python_name_field` of the field `name`. -/
def validatePythonName (value : String) : Except ZoneError String :=
  let value := trim value
  if value.isEmpty then .error (.unprocessable "name is required")
  else if 96 < value.utf8ByteSize then .error (.unprocessable "name must be at most 96 characters")
  else .ok value

/-- An `f64` read from a value. -/
def scalarFromValue : Value → Option F
  | .number n => some (ofNumber n)
  | _ => none

/-- A `ZonePointRecord` read from a value: an object, or the two fields in a list. -/
def zonePointFromJson : Value → Option (ZonePoint F)
  | .object fields => do
    return { lat := ← (fields.lookup "lat").bind scalarFromValue, lon := ← (fields.lookup "lon").bind scalarFromValue }
  | .array [lat, lon] => do return { lat := ← scalarFromValue lat, lon := ← scalarFromValue lon }
  | _ => none

/-- The points read from a value. -/
def zonePointsFromJson (value : Value) : Option (List (ZonePoint F)) :=
  value.asArray.bind fun items => items.mapM zonePointFromJson

/-- The check of `name` in `validate_zone_pydantic_shape`. -/
def validateNameShape : Option Value → Except ZoneError Unit
  | some (.string name) =>
    if name.isEmpty then .error (.pydanticValidation (pythonStringTooShortBody "name" (.string name) 1)) else .ok ()
  | _ => .ok ()

/-- The check of `points` in `validate_zone_pydantic_shape`. -/
def validatePointsShape (requirePoints : Bool) : Option Value → Except ZoneError Unit
  | none => .ok ()
  | some points =>
    if points.isNull && !requirePoints then .ok ()
    else match points.asArray with
      | some items =>
        if items.length < 3 then
          .error (.pydanticValidation (pythonListTooShortBody "points" (.array items) 3 items.length))
        else .ok ()
      | none => .ok ()

/-- `validate_zone_pydantic_shape`. -/
def validateZonePydanticShape (input : Value) (requirePoints : Bool) : Except ZoneError Unit := do
  validateNameShape (input.get "name")
  validatePointsShape requirePoints (input.get "points")

/-- The name and the points of a `ZoneCreatePayload`. -/
def zoneCreatePayload (input : Value) : Option (String × List (ZonePoint F)) := do
  return (← (input.get "name").bind Value.asStr, ← (input.get "points").bind zonePointsFromJson)

/-- An optional field: absent, null, or read. -/
def optionalField {α : Type} (read : Value → Option α) (field : Option Value) : Option (Option α) :=
  match field with
  | none | some .null => some none
  | some value => (read value).map some

/-- The name and the points of a `ZoneUpdatePayload`. -/
def zoneUpdatePayload (input : Value) : Option (Option String × Option (List (ZonePoint F))) := do
  return (← optionalField Value.asStr (input.get "name"), ← optionalField zonePointsFromJson (input.get "points"))

/-- `parse_zone_create_payload`, with the text of the decoder's error. -/
def parseZoneCreatePayload (problem : Value → String) (input : Value) : Except ZoneError (String × List (ZonePoint F)) := do
  if input.isNull then throw (.pydanticValidation pythonMissingBodyBody)
  if !input.isObject then throw (.pydanticValidation (pythonModelAttributesBody input))
  let missing := ["name", "points"].filter fun field => !input.containsKey field
  if !missing.isEmpty then throw (.pydanticValidation (pythonMissingFieldsBody missing input))
  validateZonePydanticShape input true
  match zoneCreatePayload input with
  | some payload => return payload
  | none => throw (.unprocessable (problem input))

/-- `parse_zone_update_payload`, with the text of the decoder's error. -/
def parseZoneUpdatePayload (problem : Value → String) (input : Value) :
    Except ZoneError (Option String × Option (List (ZonePoint F))) := do
  if input.isNull then throw (.pydanticValidation pythonMissingBodyBody)
  if !input.isObject then throw (.pydanticValidation (pythonModelAttributesBody input))
  let hasName := (input.get "name").isSome
  let hasPoints := (input.get "points").any fun value => !value.isNull
  if !hasName && !hasPoints then
    throw (.pydanticValidation (pythonValueErrorBody "At least one zone field must be provided" input))
  validateZonePydanticShape input false
  match zoneUpdatePayload input with
  | some payload => return payload
  | none => throw (.unprocessable (problem input))

/-- `create_zone`: the zone it stores and writes. -/
def createZone (problem : Value → String) (zoneId : String) (nowMs : Int) (input : Value) : Except ZoneError (ZoneOf F) := do
  let (name, points) ← parseZoneCreatePayload problem input
  let name ← validatePythonName name
  validateZonePointsForHttp points
  return { zoneId, name, points, createdTsMs := nowMs, updatedTsMs := nowMs }

/-- `zone_not_found`. -/
def zoneNotFound (zoneId : String) : ZoneError := .notFound ("\"Zone '" ++ zoneId ++ "' not found\"")

/-- `patch_zone`: the zone it stores and writes, of the stored ones. -/
def patchZone (problem : Value → String) (zones : String → Option (ZoneOf F)) (zoneId : String) (nowMs : Int)
    (input : Value) : Except ZoneError (ZoneOf F) := do
  let (name, points) ← parseZoneUpdatePayload problem input
  points.forM validateZonePointsForHttp
  let name ← name.mapM validatePythonName
  match zones zoneId with
  | none => throw (zoneNotFound zoneId)
  | some zone =>
    return { zone with name := name.getD zone.name, points := points.getD zone.points, updatedTsMs := nowMs }

/-! ## The core's handlers -/

/-- `value_as_f64`. -/
def coordinateFromValue (value : Value) : Option F := (scalarFromValue value).or (value.asStr.bind parse)

/-- One vertex of `points`. -/
def zonePointFromArgs (point : Value) : Except RchCoreError (ZonePoint F) :=
  match (point.get "lat").bind coordinateFromValue, (point.get "lon").bind coordinateFromValue with
  | some lat, some lon => .ok { lat, lon }
  | _, _ => invalidPayload "zone point lat/lon must be numeric"

/-- Drop a closing vertex that repeats the first. -/
def openRingOf (points : List (ZonePoint F)) : List (ZonePoint F) :=
  match points.head?, points.getLast? with
  | some first, some last => if zonePointsEqual first last then points.dropLast else points
  | _, _ => points

/-- `required_zone_points`. -/
def zonePointsFromArgs (args : Value) : Except RchCoreError (List (ZonePoint F)) := do
  let some points := (args.get "points").bind Value.asArray
    | invalidPayload "points must be a list"
  let resolved := openRingOf (← points.mapM zonePointFromArgs)
  validateZonePoints resolved
  return resolved

variable [Host]

/-- `create_zone_from_args`: the zone it stores. -/
def createZoneOf (zoneId : String) (nowMs : Int) (args : Value) : Except RchCoreError (ZoneOf F) := do
  let points ← zonePointsFromArgs args
  return { zoneId, name := (optionalText args ["name"]).getD "Zone", points, createdTsMs := nowMs, updatedTsMs := nowMs }

/-- The points of a zone, which an argument replaces. -/
def patchedPointsOf (args : Value) (current : List (ZonePoint F)) : Except RchCoreError (List (ZonePoint F)) :=
  if args.containsKey "points" then zonePointsFromArgs args else .ok current

/-- `patch_zone_from_args`: the zone it stores in the end, of the stored ones. -/
def patchZoneOf (zones : String → Option (ZoneOf F)) (nowMs : Int) (args : Value) : Except RchCoreError (ZoneOf F) := do
  let zoneId ← requiredText args ["zone_id"]
  match zones zoneId with
  | none => throw .topicNotFound
  | some zone =>
    let points ← patchedPointsOf args zone.points
    return { zone with name := (optionalText args ["name"]).getD zone.name, points, updatedTsMs := nowMs }

end

/-! ## The core's handlers are those of the float scalar -/

section

variable [Host]

/-- The record of a zone. -/
def ZoneOf.record (zone : ZoneOf Float) : ZoneRecord :=
  { zoneId := zone.zoneId, name := zone.name, points := zone.points, createdTsMs := zone.createdTsMs,
    updatedTsMs := zone.updatedTsMs }

/-- The zone of a record. -/
def ZoneRecord.zone (record : ZoneRecord) : ZoneOf Float :=
  { zoneId := record.zoneId, name := record.name, points := record.points, createdTsMs := record.createdTsMs,
    updatedTsMs := record.updatedTsMs }

theorem valueAsF64_eq (value : Value) : valueAsF64 value = coordinateFromValue value := by
  cases value with
  | number n => cases n <;> rfl
  | null => rfl
  | bool b => rfl
  | string s => rfl
  | array items => rfl
  | object fields => rfl

theorem requiredZonePoints_eq (args : Value) : requiredZonePoints args = zonePointsFromArgs args := by
  have point : zonePointFromValue = zonePointFromArgs := by
    funext value
    unfold zonePointFromValue zonePointFromArgs
    rw [show valueAsF64 = coordinateFromValue from funext valueAsF64_eq]
    cases (value.get "lat").bind (coordinateFromValue : Value → Option Float) with
    | none => rfl
    | some lat =>
      cases (value.get "lon").bind (coordinateFromValue : Value → Option Float) with
      | none => rfl
      | some lon => rfl
  have ring : openRing = openRingOf := by
    funext points
    unfold openRing openRingOf
    cases points.head? with
    | none => rfl
    | some first =>
      cases points.getLast? with
      | none => rfl
      | some last => rfl
  unfold requiredZonePoints zonePointsFromArgs
  cases (args.get "points").bind Value.asArray with
  | none => rfl
  | some points => simp only [point, ring]

theorem createZoneFromArgs_run (args : Value) (w : World) :
    ((createZoneFromArgs args).run w).1 =
        (createZoneOf (w.draws 0).simple (w.clock 0).timestampMillis args).map ZoneOf.record ∧
      ∀ zone, createZoneOf (w.draws 0).simple (w.clock 0).timestampMillis args = .ok zone →
        ((createZoneFromArgs args).run w).2.core.zones.get (w.draws 0).simple = some zone.record := by
  unfold createZoneFromArgs createZoneOf utcNowMs
  rw [requiredZonePoints_eq]
  cases zonePointsFromArgs (F := Float) args with
  | error e => exact ⟨rfl, nofun⟩
  | ok points =>
    refine ⟨rfl, ?_⟩
    rintro zone ⟨⟩
    exact Dict.get_insert_self _ _ _

theorem patchedZonePoints_eq (args : Value) (current : List ZonePointRecord) :
    patchedZonePoints args current = patchedPointsOf args current := by
  rw [patchedZonePoints, requiredZonePoints_eq]
  rfl

theorem patchZoneFromArgs_run (args : Value) (w : World) :
    ((patchZoneFromArgs args).run w).1 =
        (patchZoneOf (fun zoneId => (w.core.zones.get zoneId).map ZoneRecord.zone) (w.clock 0).timestampMillis
          args).map ZoneOf.record ∧
      ∀ zoneId zone, requiredText args ["zone_id"] = .ok zoneId →
        patchZoneOf (fun zoneId => (w.core.zones.get zoneId).map ZoneRecord.zone) (w.clock 0).timestampMillis args =
          .ok zone →
        ((patchZoneFromArgs args).run w).2.core.zones.get zoneId = some zone.record := by
  unfold patchZoneFromArgs patchZoneOf utcNowMs
  cases requiredText args ["zone_id"] with
  | error e => exact ⟨rfl, fun _ _ _ taken => by cases taken⟩
  | ok zoneId =>
    have read : (liftM (Except.ok zoneId : Except RchCoreError String) : CoreM String).run w = (.ok zoneId, w) := rfl
    rw [Proc.run_bind, read]
    dsimp only
    rw [CoreM.run_core_bind]
    cases stored : w.core.zones.get zoneId with
    | none =>
      simp only [bind, Except.bind, stored, Option.map_none]
      exact ⟨rfl, fun _ _ _ taken => by cases taken⟩
    | some record =>
      have given : record.zone.points = record.points := rfl
      simp only [patchedZonePoints_eq, Proc.orThrow_some_bind, CoreM.run_update_bind]
      simp only [bind, Except.bind, stored, Option.map_some, given]
      cases patchedPointsOf args record.points with
      | error e => exact ⟨rfl, fun _ _ _ taken => by cases taken⟩
      | ok points =>
        refine ⟨rfl, ?_⟩
        intro otherId zone same taken
        cases same
        cases taken
        exact Dict.get_insert_self _ _ _

end

/-! ## What each front end takes -/

/-- What comparisons of floats promise for the numbers a coordinate is compared with. -/
class LawfulCoordinate (F : Type) [Coordinate F] : Prop where
  finite_of_between {m n : Int} {x : F} :
    m.natAbs ≤ 180 → n.natAbs ≤ 180 → le (ofInt m) x = true → le x (ofInt n) = true → isFinite x = true
  lt_ofInt {n : Int} {x : F} : isFinite x = true → lt x (ofInt n) = !le (ofInt n) x
  ofInt_lt {n : Int} {x : F} : isFinite x = true → lt (ofInt n) x = !le x (ofInt n)

section

variable {F : Type} [JsonScalar F] [Coordinate F]

/-- A point on the map. -/
def OnMap (point : ZonePoint F) : Prop :=
  (le (ofInt (-90)) point.lat = true ∧ le point.lat (ofInt 90) = true) ∧
    (le (ofInt (-180)) point.lon = true ∧ le point.lon (ofInt 180) = true)

/-- Neither too few points nor too many, all on the map. -/
def Polygon (points : List (ZonePoint F)) : Prop :=
  3 ≤ points.length ∧ points.length ≤ 200 ∧ ∀ point ∈ points, OnMap point

/-- A name that is neither blank nor too long. -/
def NameTaken (name : String) : Prop := (trim name).isEmpty = false ∧ (trim name).utf8ByteSize ≤ 96

instance (name : String) : Decidable (NameTaken name) := inferInstanceAs (Decidable (_ ∧ _))

instance (points : List (ZonePoint F)) : Decidable (Polygon points) :=
  haveI : DecidablePred (OnMap : ZonePoint F → Prop) := fun _ => inferInstanceAs (Decidable ((_ ∧ _) ∧ (_ ∧ _)))
  inferInstanceAs (Decidable (_ ∧ _ ∧ ∀ point ∈ points, OnMap point))

/-- A point of a payload. -/
def zonePointJson (point : Number × Number) : Value := .object [("lat", .number point.1), ("lon", .number point.2)]

/-- A name and a list of points. -/
def zonePayload (name : String) (points : List (Number × Number)) : Value :=
  .object [("name", .string name), ("points", .array (points.map zonePointJson))]

/-- The points of a payload, read. -/
def pointsGiven (points : List (Number × Number)) : List (ZonePoint F) :=
  points.map fun point => { lat := ofNumber point.1, lon := ofNumber point.2 }

omit [JsonScalar F] in
/-- Two checks of ranges, one after the other. -/
theorem ranges_ok {ε : Type} {point : ZonePoint F} {e e' : ε} :
    ((if !(le (ofInt (-90)) point.lat && le point.lat (ofInt 90)) then .error e
      else if !(le (ofInt (-180)) point.lon && le point.lon (ofInt 180)) then .error e'
      else .ok () : Except ε Unit) = .ok ()) ↔ OnMap point := by
  unfold OnMap
  cases lat : le (ofInt (-90)) point.lat && le point.lat (ofInt 90) with
  | false =>
    rw [if_pos (by decide), ← Bool.and_eq_true, lat]
    exact ⟨nofun, fun h => nomatch h.1⟩
  | true =>
    rw [if_neg (by decide)]
    cases lon : le (ofInt (-180)) point.lon && le point.lon (ofInt 180) with
    | false =>
      rw [if_pos (by decide), ← Bool.and_eq_true, ← Bool.and_eq_true, lon]
      exact ⟨nofun, fun h => nomatch h.2⟩
    | true =>
      rw [if_neg (by decide), ← Bool.and_eq_true, ← Bool.and_eq_true, lat, lon]
      exact ⟨fun _ => ⟨rfl, rfl⟩, fun _ => rfl⟩

omit [JsonScalar F] in
theorem validateLatLon_ok {point : ZonePoint F} : validateLatLon point = .ok () ↔ OnMap point := ranges_ok

omit [JsonScalar F] in
theorem validateZonePointsForHttp_ok {points : List (ZonePoint F)} :
    validateZonePointsForHttp points = .ok () ↔ Polygon points := by
  unfold validateZonePointsForHttp Polygon
  by_cases few : points.length < 3
  · rw [if_pos few]
    exact ⟨nofun, fun h => absurd h.1 (by omega)⟩
  · by_cases many : points.length > 200
    · rw [if_neg few, if_pos many]
      exact ⟨nofun, fun h => absurd h.2.1 (by omega)⟩
    · rw [if_neg few, if_neg many]
      have loop : points.forM validateLatLon = .ok () ↔ ∀ point ∈ points, OnMap point := by
        rw [forM_eq_ok]
        exact forall₂_congr fun point _ => validateLatLon_ok
      have sizes : 3 ≤ points.length ∧ points.length ≤ 200 := by omega
      exact loop.trans ⟨fun all => ⟨sizes.1, sizes.2, all⟩, fun h => h.2.2⟩

omit [JsonScalar F] in
theorem OnMap.finite [LawfulCoordinate F] {point : ZonePoint F} (h : OnMap point) :
    isFinite point.lat = true ∧ isFinite point.lon = true :=
  ⟨LawfulCoordinate.finite_of_between (by decide) (by decide) h.1.1 h.1.2,
    LawfulCoordinate.finite_of_between (by decide) (by decide) h.2.1 h.2.2⟩

omit [JsonScalar F] in
/-- The core's check of a point is the server's. -/
theorem validateZonePoint_ok [LawfulCoordinate F] {point : ZonePoint F} :
    validateZonePoint point = .ok () ↔ OnMap point := by
  by_cases finite : isFinite point.lat = true ∧ isFinite point.lon = true
  · obtain ⟨lat, lon⟩ := finite
    unfold validateZonePoint
    rw [LawfulCoordinate.lt_ofInt lat, LawfulCoordinate.ofInt_lt lat, LawfulCoordinate.lt_ofInt lon,
      LawfulCoordinate.ofInt_lt lon, lat, lon, if_neg (by decide), ← Bool.not_and, ← Bool.not_and]
    exact ranges_ok
  · have refused : (!isFinite point.lat || !isFinite point.lon) = true := by
      rw [← Bool.not_and, Bool.not_eq_true', ← Bool.not_eq_true, Bool.and_eq_true]
      exact finite
    unfold validateZonePoint
    rw [if_pos refused]
    exact ⟨nofun, fun h => absurd h.finite finite⟩

omit [JsonScalar F] in
theorem validateZonePoints_ok [LawfulCoordinate F] {points : List (ZonePoint F)} :
    validateZonePoints points = .ok () ↔ Polygon points ∧ zoneIsSelfIntersecting points = false := by
  have loop : points.forM validateZonePoint = .ok () ↔ ∀ point ∈ points, OnMap point := by
    rw [forM_eq_ok]
    exact forall₂_congr fun point _ => validateZonePoint_ok
  unfold validateZonePoints Polygon
  cases points with
  | nil => exact ⟨nofun, fun h => absurd h.1.1 (by simp)⟩
  | cons first rest =>
    rw [if_neg (by simp)]
    by_cases few : (first :: rest).length < 3
    · rw [if_pos few]
      exact ⟨nofun, fun h => absurd h.1.1 (by omega)⟩
    · by_cases many : (first :: rest).length > 200
      · rw [if_neg few, if_pos many]
        exact ⟨nofun, fun h => absurd h.1.2.1 (by omega)⟩
      · rw [if_neg few, if_neg many]
        have sizes : 3 ≤ (first :: rest).length ∧ (first :: rest).length ≤ 200 := by omega
        cases crossing : zoneIsSelfIntersecting (first :: rest) with
        | true =>
          refine ⟨fun h => ?_, fun h => nomatch h.2⟩
          obtain ⟨_, _, h⟩ := bind_eq_ok.1 h
          cases h
        | false =>
          constructor
          · intro h
            obtain ⟨_, taken, _⟩ := bind_eq_ok.1 h
            exact ⟨⟨sizes.1, sizes.2, loop.1 taken⟩, rfl⟩
          · intro h
            exact bind_eq_ok.2 ⟨(), loop.2 h.1.2.2, rfl⟩

/-! ## What a payload is read as -/

omit [Coordinate F] in
theorem mapM_pointsGiven (points : List (Number × Number)) :
    (points.map zonePointJson).mapM zonePointFromJson = some (pointsGiven points : List (ZonePoint F)) := by
  induction points with
  | nil => rfl
  | cons point points ih =>
    rw [List.map_cons, List.mapM_cons, ih]
    rfl

omit [Coordinate F] in
theorem mapM_zonePointFromArgs (points : List (Number × Number)) :
    (points.map zonePointJson).mapM zonePointFromArgs = .ok (pointsGiven points : List (ZonePoint F)) := by
  induction points with
  | nil => rfl
  | cons point points ih =>
    rw [List.map_cons, List.mapM_cons, ih]
    rfl

omit [Coordinate F] in
theorem zonePointsFromJson_array (points : List (Number × Number)) :
    zonePointsFromJson (.array (points.map zonePointJson)) = some (pointsGiven points : List (ZonePoint F)) :=
  mapM_pointsGiven points

omit [Coordinate F] in
theorem length_pointsGiven (points : List (Number × Number)) :
    (pointsGiven points : List (ZonePoint F)).length = points.length := List.length_map _

theorem isEmpty_of_trim {name : String} (taken : (trim name).isEmpty = false) : name.isEmpty = false := by
  cases empty : name.isEmpty with
  | false => rfl
  | true =>
    rw [String.isEmpty_iff] at empty
    subst empty
    exact absurd taken (by decide)

/-- The shape of a payload is refused only for an empty name and for too few points. -/
theorem validateNameShape_ok (name : Option String) :
    validateNameShape (name.map .string) = .ok () ↔ ∀ given ∈ name, given.isEmpty = false := by
  cases name with
  | none => exact ⟨nofun, fun _ => rfl⟩
  | some given =>
    rw [Option.map_some, validateNameShape]
    cases empty : given.isEmpty with
    | true => exact ⟨nofun, fun h => nomatch empty.symm.trans (h given rfl)⟩
    | false =>
      refine ⟨fun _ other same => ?_, fun _ => rfl⟩
      cases same
      exact empty

theorem validatePointsShape_ok (require : Bool) (points : Option (List (Number × Number))) :
    validatePointsShape require (points.map fun points => .array (points.map zonePointJson)) = .ok () ↔
      ∀ given ∈ points, 3 ≤ given.length := by
  cases points with
  | none => exact ⟨nofun, fun _ => rfl⟩
  | some given =>
    have checked : validatePointsShape require (some (.array (given.map zonePointJson))) =
        if (given.map zonePointJson).length < 3 then
          .error (.pydanticValidation (pythonListTooShortBody "points" (.array (given.map zonePointJson)) 3
            (given.map zonePointJson).length))
        else .ok () := rfl
    rw [Option.map_some, checked, List.length_map]
    by_cases few : given.length < 3
    · rw [if_pos few]
      refine ⟨nofun, fun h => ?_⟩
      have := h given rfl
      omega
    · rw [if_neg few]
      refine ⟨fun _ other same => ?_, fun _ => rfl⟩
      cases same
      omega

theorem validatePythonName_ok {name text : String} : validatePythonName name = .ok text ↔ NameTaken name ∧ text = trim name := by
  unfold validatePythonName NameTaken
  dsimp only
  cases blank : (trim name).isEmpty with
  | true => exact ⟨nofun, fun h => nomatch h.1.1⟩
  | false =>
    rw [if_neg (by decide)]
    by_cases long : 96 < (trim name).utf8ByteSize
    · rw [if_pos long]
      refine ⟨nofun, fun h => ?_⟩
      have := h.1.2
      omega
    · rw [if_neg long]
      constructor
      · rintro ⟨⟩
        exact ⟨⟨rfl, by omega⟩, rfl⟩
      · rintro ⟨-, rfl⟩
        rfl

/-! ## The handlers on a payload -/

theorem parseZoneCreatePayload_ok {problem : Value → String} {name : String} {points : List (Number × Number)}
    {payload : String × List (ZonePoint F)} :
    parseZoneCreatePayload problem (zonePayload name points) = .ok payload ↔
      name.isEmpty = false ∧ 3 ≤ points.length ∧ payload = (name, pointsGiven points) := by
  have decoded : zoneCreatePayload (zonePayload name points) =
      some (name, (pointsGiven points : List (ZonePoint F))) := by
    have read := zonePointsFromJson_array (F := F) points
    unfold zoneCreatePayload
    show (do return (name, ← zonePointsFromJson (.array (points.map zonePointJson)))) = _
    rw [read]
    rfl
  have steps : parseZoneCreatePayload problem (zonePayload name points) = (do
      validateNameShape ((some name).map .string)
      validatePointsShape true ((some points).map fun points => .array (points.map zonePointJson))
      return (name, (pointsGiven points : List (ZonePoint F)))) := by
    unfold parseZoneCreatePayload validateZonePydanticShape
    rw [decoded, bind_assoc]
    rfl
  rw [steps, bind_eq_ok]
  constructor
  · rintro ⟨_, named, rest⟩
    obtain ⟨_, enough, stored⟩ := bind_eq_ok.1 rest
    cases stored
    exact ⟨(validateNameShape_ok (some name)).1 named name rfl, (validatePointsShape_ok true (some points)).1 enough points rfl,
      rfl⟩
  · rintro ⟨named, enough, rfl⟩
    refine ⟨(), (validateNameShape_ok (some name)).2 ?_, bind_eq_ok.2 ⟨(), (validatePointsShape_ok true (some points)).2 ?_, rfl⟩⟩
    · rintro other ⟨⟩
      exact named
    · rintro other ⟨⟩
      exact enough

/-- The server creates what a polygon and a taken name say, on the list as it is given. -/
theorem createZone_ok {problem : Value → String} {zoneId name : String} {nowMs : Int} {points : List (Number × Number)}
    {zone : ZoneOf F} :
    createZone problem zoneId nowMs (zonePayload name points) = .ok zone ↔
      NameTaken name ∧ Polygon (pointsGiven points : List (ZonePoint F)) ∧
        zone = { zoneId, name := trim name, points := pointsGiven points, createdTsMs := nowMs, updatedTsMs := nowMs } := by
  unfold createZone
  rw [bind_eq_ok]
  constructor
  · rintro ⟨payload, taken, rest⟩
    obtain ⟨-, -, rfl⟩ := parseZoneCreatePayload_ok.1 taken
    obtain ⟨text, checked, rest⟩ := bind_eq_ok.1 rest
    obtain ⟨named, rfl⟩ := validatePythonName_ok.1 checked
    obtain ⟨_, polygon, stored⟩ := bind_eq_ok.1 rest
    cases stored
    exact ⟨named, validateZonePointsForHttp_ok.1 polygon, rfl⟩
  · rintro ⟨named, polygon, rfl⟩
    refine ⟨_, parseZoneCreatePayload_ok.2 ⟨isEmpty_of_trim named.1, ?_, rfl⟩, ?_⟩
    · rw [← length_pointsGiven (F := F) points]
      exact polygon.1
    · rw [bind_eq_ok]
      refine ⟨trim name, validatePythonName_ok.2 ⟨named, rfl⟩, ?_⟩
      exact bind_eq_ok.2 ⟨(), validateZonePointsForHttp_ok.2 polygon, rfl⟩

/-- The core takes the points of a payload without the one that closes the ring. -/
theorem zonePointsFromArgs_ok [LawfulCoordinate F] {args : Value} {points : List (Number × Number)}
    {taken : List (ZonePoint F)} (pointed : args.get "points" = some (.array (points.map zonePointJson))) :
    zonePointsFromArgs args = .ok taken ↔
      (Polygon (openRingOf (pointsGiven points) : List (ZonePoint F)) ∧
        zoneIsSelfIntersecting (openRingOf (pointsGiven points) : List (ZonePoint F)) = false) ∧
      taken = openRingOf (pointsGiven points) := by
  have items : (args.get "points").bind Value.asArray = some (points.map zonePointJson) := by rw [pointed]; rfl
  unfold zonePointsFromArgs
  rw [items]
  dsimp only
  rw [mapM_zonePointFromArgs (F := F) points]
  rw [← validateZonePoints_ok, bind_eq_ok]
  constructor
  · rintro ⟨_, ⟨⟩, rest⟩
    obtain ⟨_, checked, stored⟩ := bind_eq_ok.1 rest
    cases stored
    exact ⟨checked, rfl⟩
  · rintro ⟨checked, rfl⟩
    exact ⟨_, rfl, bind_eq_ok.2 ⟨(), checked, rfl⟩⟩

theorem optionalText_name [Host] {args : Value} {name : String} (named : args.get "name" = some (.string name))
    (taken : NameTaken name) : optionalText args ["name"] = some (trim name) := by
  have found : findText args ["name"] = some name := by
    cases args with
    | object fields =>
      have text : ((Value.object fields).get "name").bind valueAsStr = some name := by rw [named]; rfl
      simp only [findText, Value.asObject, Option.bind_some, List.findSome?_cons, text]
    | _ => cases named
  rw [optionalText, optionalTextOrEmpty, found, Option.map_some, Option.filter_some, taken.1]
  rfl

/-- The core creates the same of a payload, on the ring without its closing point. -/
theorem createZoneOf_ok [Host] [LawfulCoordinate F] {zoneId name : String} {nowMs : Int} {points : List (Number × Number)}
    {zone : ZoneOf F} (taken : NameTaken name) :
    createZoneOf zoneId nowMs (zonePayload name points) = .ok zone ↔
      (Polygon (openRingOf (pointsGiven points) : List (ZonePoint F)) ∧
        zoneIsSelfIntersecting (openRingOf (pointsGiven points) : List (ZonePoint F)) = false) ∧
      zone =
        { zoneId, name := trim name, points := openRingOf (pointsGiven points), createdTsMs := nowMs,
          updatedTsMs := nowMs } := by
  have pointed : (zonePayload name points).get "points" = some (.array (points.map zonePointJson)) := rfl
  have text : optionalText (zonePayload name points) ["name"] = some (trim name) := optionalText_name rfl taken
  unfold createZoneOf
  rw [text, bind_eq_ok]
  constructor
  · rintro ⟨given, read, stored⟩
    obtain ⟨polygon, rfl⟩ := (zonePointsFromArgs_ok pointed).1 read
    cases stored
    exact ⟨polygon, rfl⟩
  · rintro ⟨polygon, rfl⟩
    exact ⟨_, (zonePointsFromArgs_ok pointed).2 ⟨polygon, rfl⟩, rfl⟩

/-! ## Patches -/

/-- A zone's id, and a name and a list of points where they are given. -/
def zonePatchPayload (zoneId : String) (name : Option String) (points : Option (List (Number × Number))) : Value :=
  .object ((some ("zone_id", Value.string zoneId)).toList ++ (name.map fun name => ("name", Value.string name)).toList ++
    (points.map fun points => ("points", Value.array (points.map zonePointJson))).toList)

section

variable {zoneId : String} {name : Option String} {points : Option (List (Number × Number))}

theorem zonePatchPayload_name : (zonePatchPayload zoneId name points).get "name" = name.map .string := by
  cases name with
  | none =>
    cases points with
    | none => rfl
    | some points => rfl
  | some name => rfl

theorem zonePatchPayload_points : (zonePatchPayload zoneId name points).get "points" =
    points.map fun points => .array (points.map zonePointJson) := by
  cases name with
  | none =>
    cases points with
    | none => rfl
    | some points => rfl
  | some name =>
    cases points with
    | none => rfl
    | some points => rfl

/-- A patch names a field. -/
def Given (name : Option String) (points : Option (List (Number × Number))) : Prop := name.isSome ∨ points.isSome

theorem zoneUpdatePayload_zonePatch : zoneUpdatePayload (zonePatchPayload zoneId name points) =
    some (name, (points.map pointsGiven : Option (List (ZonePoint F)))) := by
  unfold zoneUpdatePayload
  rw [zonePatchPayload_name, zonePatchPayload_points]
  have read := zonePointsFromJson_array (F := F)
  cases name with
  | none =>
    cases points with
    | none => rfl
    | some points =>
      show (do return (none, ← (zonePointsFromJson (.array (points.map zonePointJson))).map some)) = _
      rw [read]
      rfl
  | some name =>
    cases points with
    | none => rfl
    | some points =>
      show (do return (some name, ← (zonePointsFromJson (.array (points.map zonePointJson))).map some)) = _
      rw [read]
      rfl

theorem parseZoneUpdatePayload_ok {problem : Value → String} (given : Given name points)
    {payload : Option String × Option (List (ZonePoint F))} :
    parseZoneUpdatePayload problem (zonePatchPayload zoneId name points) = .ok payload ↔
      (∀ given ∈ name, given.isEmpty = false) ∧ (∀ given ∈ points, 3 ≤ given.length) ∧
        payload = (name, points.map pointsGiven) := by
  have steps : parseZoneUpdatePayload problem (zonePatchPayload zoneId name points) = (do
      validateNameShape (name.map .string)
      validatePointsShape false (points.map fun points => .array (points.map zonePointJson))
      return (name, (points.map pointsGiven : Option (List (ZonePoint F))))) := by
    unfold parseZoneUpdatePayload validateZonePydanticShape
    rw [zoneUpdatePayload_zonePatch, bind_assoc, zonePatchPayload_name, zonePatchPayload_points]
    cases name with
    | some name => rfl
    | none =>
      cases points with
      | some points => rfl
      | none =>
        rcases given with given | given
        · cases given
        · cases given
  rw [steps, bind_eq_ok]
  constructor
  · rintro ⟨_, named, rest⟩
    obtain ⟨_, enough, stored⟩ := bind_eq_ok.1 rest
    cases stored
    exact ⟨(validateNameShape_ok name).1 named, (validatePointsShape_ok false points).1 enough, rfl⟩
  · rintro ⟨named, enough, rfl⟩
    exact ⟨(), (validateNameShape_ok name).2 named, bind_eq_ok.2 ⟨(), (validatePointsShape_ok false points).2 enough, rfl⟩⟩

/-- A zone under the name and with the points it is given. -/
def ZoneOf.patched (zone : ZoneOf F) (name : Option String) (points : Option (List (ZonePoint F))) (nowMs : Int) : ZoneOf F :=
  { zone with name := (name.map trim).getD zone.name, points := points.getD zone.points, updatedTsMs := nowMs }

theorem mapM_validatePythonName {text : Option String} :
    name.mapM validatePythonName = .ok text ↔ (∀ given ∈ name, NameTaken given) ∧ text = name.map trim := by
  cases name with
  | none =>
    constructor
    · rintro ⟨⟩
      exact ⟨nofun, rfl⟩
    · rintro ⟨-, rfl⟩
      rfl
  | some given =>
    have steps : (some given).mapM validatePythonName = (do return some (← validatePythonName given)) := rfl
    rw [steps, bind_eq_ok]
    constructor
    · rintro ⟨read, checked, stored⟩
      obtain ⟨taken, rfl⟩ := validatePythonName_ok.1 checked
      cases stored
      refine ⟨?_, rfl⟩
      rintro other ⟨⟩
      exact taken
    · rintro ⟨taken, rfl⟩
      exact ⟨trim given, validatePythonName_ok.2 ⟨taken given rfl, rfl⟩, rfl⟩

omit [JsonScalar F] in
theorem forM_validateZonePointsForHttp {points : Option (List (ZonePoint F))} :
    points.forM validateZonePointsForHttp = .ok () ↔ ∀ list ∈ points, Polygon list := by
  cases points with
  | none => exact ⟨nofun, fun _ => rfl⟩
  | some list =>
    have checked : (some list).forM validateZonePointsForHttp = validateZonePointsForHttp list := rfl
    rw [checked, validateZonePointsForHttp_ok]
    exact ⟨fun h _ same => Option.some.inj same ▸ h, fun h => h list rfl⟩

/-- The server patches a stored zone with what is given, as it is given. -/
theorem patchZone_ok {problem : Value → String} {zones : String → Option (ZoneOf F)} {nowMs : Int} {zone : ZoneOf F}
    (given : Given name points) :
    patchZone problem zones zoneId nowMs (zonePatchPayload zoneId name points) = .ok zone ↔
      (∀ text ∈ name, NameTaken text) ∧ (∀ list ∈ points, Polygon (pointsGiven list : List (ZonePoint F))) ∧
        ∃ old, zones zoneId = some old ∧ zone = old.patched name (points.map pointsGiven) nowMs := by
  have lists : (∀ list ∈ (points.map pointsGiven : Option (List (ZonePoint F))), Polygon list) ↔
      ∀ list ∈ points, Polygon (pointsGiven list : List (ZonePoint F)) := by
    cases points with
    | none => exact ⟨nofun, nofun⟩
    | some list => simp
  unfold patchZone
  rw [bind_eq_ok]
  constructor
  · rintro ⟨payload, taken, rest⟩
    obtain ⟨-, -, rfl⟩ := (parseZoneUpdatePayload_ok given).1 taken
    obtain ⟨_, polygon, rest⟩ := bind_eq_ok.1 rest
    obtain ⟨text, checked, stored⟩ := bind_eq_ok.1 rest
    obtain ⟨named, rfl⟩ := mapM_validatePythonName.1 checked
    refine ⟨named, lists.1 (forM_validateZonePointsForHttp.1 polygon), ?_⟩
    cases found : zones zoneId with
    | none =>
      rw [found] at stored
      cases stored
    | some old =>
      rw [found] at stored
      cases stored
      exact ⟨old, rfl, rfl⟩
  · rintro ⟨named, polygon, old, found, rfl⟩
    refine ⟨_, (parseZoneUpdatePayload_ok given).2 ⟨?_, ?_, rfl⟩, ?_⟩
    · intro text mem
      exact isEmpty_of_trim (named text mem).1
    · intro list mem
      rw [← length_pointsGiven (F := F) list]
      exact (polygon list mem).1
    · refine bind_eq_ok.2 ⟨(), forM_validateZonePointsForHttp.2 (lists.2 polygon), ?_⟩
      refine bind_eq_ok.2 ⟨_, mapM_validatePythonName.2 ⟨named, rfl⟩, ?_⟩
      rw [found]
      rfl

theorem requiredText_zoneId [Host] (trimmed : trim zoneId = zoneId) (full : zoneId.isEmpty = false) :
    requiredText (zonePatchPayload zoneId name points) ["zone_id"] = .ok zoneId := by
  have found : findText (zonePatchPayload zoneId name points) ["zone_id"] = some zoneId := rfl
  have text : optionalText (zonePatchPayload zoneId name points) ["zone_id"] = some zoneId := by
    rw [optionalText, optionalTextOrEmpty, found, Option.map_some, trimmed, Option.filter_some, full]
    rfl
  rw [requiredText, text, Option.filter_some, trimmed, full]
  rfl

theorem optionalText_patch [Host] (taken : ∀ text ∈ name, NameTaken text) :
    optionalText (zonePatchPayload zoneId name points) ["name"] = name.map trim := by
  cases name with
  | some text => exact optionalText_name rfl (taken text rfl)
  | none =>
    cases points with
    | none => rfl
    | some list => rfl

/-- The core patches it with what is given, without the point that closes the ring. -/
theorem patchZoneOf_ok [Host] [LawfulCoordinate F] {zones : String → Option (ZoneOf F)} {nowMs : Int} {zone : ZoneOf F}
    (trimmed : trim zoneId = zoneId) (full : zoneId.isEmpty = false) (taken : ∀ text ∈ name, NameTaken text) :
    patchZoneOf zones nowMs (zonePatchPayload zoneId name points) = .ok zone ↔
      (∀ list ∈ points, Polygon (openRingOf (pointsGiven list) : List (ZonePoint F)) ∧
        zoneIsSelfIntersecting (openRingOf (pointsGiven list) : List (ZonePoint F)) = false) ∧
      ∃ old, zones zoneId = some old ∧
        zone = old.patched name (points.map fun list => openRingOf (pointsGiven list)) nowMs := by
  have read : ∀ (old : ZoneOf F) list, patchedPointsOf (zonePatchPayload zoneId name points) old.points = .ok list ↔
      (∀ list ∈ points, Polygon (openRingOf (pointsGiven list) : List (ZonePoint F)) ∧
        zoneIsSelfIntersecting (openRingOf (pointsGiven list) : List (ZonePoint F)) = false) ∧
      list = (points.map fun list => openRingOf (pointsGiven list)).getD old.points := by
    intro old list
    unfold patchedPointsOf Value.containsKey
    rw [zonePatchPayload_points]
    cases points with
    | none =>
      constructor
      · rintro ⟨⟩
        exact ⟨nofun, rfl⟩
      · rintro ⟨-, rfl⟩
        rfl
    | some given =>
      rw [Option.map_some, Option.isSome_some, if_pos rfl, zonePointsFromArgs_ok zonePatchPayload_points]
      constructor
      · rintro ⟨polygon, rfl⟩
        exact ⟨fun _ same => Option.some.inj same ▸ polygon, rfl⟩
      · rintro ⟨polygon, rfl⟩
        exact ⟨polygon given rfl, rfl⟩
  unfold patchZoneOf
  rw [requiredText_zoneId trimmed full, optionalText_patch taken, bind_eq_ok]
  constructor
  · rintro ⟨_, ⟨⟩, rest⟩
    cases found : zones zoneId with
    | none =>
      rw [found] at rest
      cases rest
    | some old =>
      rw [found] at rest
      obtain ⟨list, checked, stored⟩ := bind_eq_ok.1 rest
      obtain ⟨polygon, rfl⟩ := (read old list).1 checked
      cases stored
      exact ⟨polygon, old, rfl, rfl⟩
  · rintro ⟨polygon, old, found, rfl⟩
    refine ⟨zoneId, rfl, ?_⟩
    rw [found]
    exact bind_eq_ok.2 ⟨_, (read old _).2 ⟨polygon, rfl⟩, rfl⟩

end

/-! ## The front ends side by side -/

/-- The server and the core take the same marker symbols, and on a payload with a name that
is taken and a ring that does not cross itself they make the same checks and store the same,
the server on the list as given and the core without the point that closes the ring. -/
theorem front_ends_agree [Host] [LawfulCoordinate F] (problem : Value → String) :
    (∀ symbol, normalizeMarkerSymbolForHttp symbol = normalizeMarkerSymbol symbol ∧
      isSupportedMarkerSymbolForHttp symbol = isSupportedMarkerSymbol symbol) ∧
    (∀ zoneId name nowMs (points : List (Number × Number)) (zone : ZoneOf F), NameTaken name →
      zoneIsSelfIntersecting (openRingOf (pointsGiven points) : List (ZonePoint F)) = false →
      (createZone problem zoneId nowMs (zonePayload name points) = .ok zone ↔
        Polygon (pointsGiven points : List (ZonePoint F)) ∧
          zone = ⟨zoneId, trim name, pointsGiven points, nowMs, nowMs⟩) ∧
      (createZoneOf zoneId nowMs (zonePayload name points) = .ok zone ↔
        Polygon (openRingOf (pointsGiven points) : List (ZonePoint F)) ∧
          zone = ⟨zoneId, trim name, openRingOf (pointsGiven points), nowMs, nowMs⟩) ∧
      (openRingOf (pointsGiven points) = (pointsGiven points : List (ZonePoint F)) →
        (createZone problem zoneId nowMs (zonePayload name points) = .ok zone ↔
          createZoneOf zoneId nowMs (zonePayload name points) = .ok zone))) ∧
    ∀ zones zoneId nowMs name (points : Option (List (Number × Number))) (zone : ZoneOf F), Given name points →
      trim zoneId = zoneId → zoneId.isEmpty = false → (∀ text ∈ name, NameTaken text) →
      (∀ list ∈ points, zoneIsSelfIntersecting (openRingOf (pointsGiven list) : List (ZonePoint F)) = false) →
      (patchZone problem zones zoneId nowMs (zonePatchPayload zoneId name points) = .ok zone ↔
        (∀ list ∈ points, Polygon (pointsGiven list : List (ZonePoint F))) ∧
          ∃ old, zones zoneId = some old ∧ zone = old.patched name (points.map pointsGiven) nowMs) ∧
      (patchZoneOf zones nowMs (zonePatchPayload zoneId name points) = .ok zone ↔
        (∀ list ∈ points, Polygon (openRingOf (pointsGiven list) : List (ZonePoint F))) ∧
          ∃ old, zones zoneId = some old ∧
            zone = old.patched name (points.map fun list => openRingOf (pointsGiven list)) nowMs) ∧
      ((∀ list ∈ points, openRingOf (pointsGiven list) = (pointsGiven list : List (ZonePoint F))) →
        (patchZone problem zones zoneId nowMs (zonePatchPayload zoneId name points) = .ok zone ↔
          patchZoneOf zones nowMs (zonePatchPayload zoneId name points) = .ok zone)) := by
  refine ⟨fun symbol => ⟨normalizeMarkerSymbolForHttp_eq symbol, rfl⟩, ?_, ?_⟩
  · intro zoneId name nowMs points zone taken simple
    have http : createZone problem zoneId nowMs (zonePayload name points) = .ok zone ↔
        Polygon (pointsGiven points : List (ZonePoint F)) ∧
          zone = ⟨zoneId, trim name, pointsGiven points, nowMs, nowMs⟩ := by
      rw [createZone_ok]
      exact and_iff_right taken
    have core : createZoneOf zoneId nowMs (zonePayload name points) = .ok zone ↔
        Polygon (openRingOf (pointsGiven points) : List (ZonePoint F)) ∧
          zone = ⟨zoneId, trim name, openRingOf (pointsGiven points), nowMs, nowMs⟩ := by
      rw [createZoneOf_ok taken, and_iff_left simple]
    refine ⟨http, core, ?_⟩
    intro opened
    rw [http, core, opened]
  · intro zones zoneId nowMs name points zone given trimmed full taken simple
    have http : patchZone problem zones zoneId nowMs (zonePatchPayload zoneId name points) = .ok zone ↔
        (∀ list ∈ points, Polygon (pointsGiven list : List (ZonePoint F))) ∧
          ∃ old, zones zoneId = some old ∧ zone = old.patched name (points.map pointsGiven) nowMs := by
      rw [patchZone_ok given]
      exact and_iff_right taken
    have rings : (∀ list ∈ points, Polygon (openRingOf (pointsGiven list) : List (ZonePoint F)) ∧
          zoneIsSelfIntersecting (openRingOf (pointsGiven list) : List (ZonePoint F)) = false) ↔
        ∀ list ∈ points, Polygon (openRingOf (pointsGiven list) : List (ZonePoint F)) :=
      forall₂_congr fun list mem => and_iff_left (simple list mem)
    have core : patchZoneOf zones nowMs (zonePatchPayload zoneId name points) = .ok zone ↔
        (∀ list ∈ points, Polygon (openRingOf (pointsGiven list) : List (ZonePoint F))) ∧
          ∃ old, zones zoneId = some old ∧
            zone = old.patched name (points.map fun list => openRingOf (pointsGiven list)) nowMs := by
      rw [patchZoneOf_ok trimmed full taken, rings]
    refine ⟨http, core, ?_⟩
    intro opened
    have same : points.map (fun list => openRingOf (pointsGiven list)) =
        (points.map pointsGiven : Option (List (ZonePoint F))) := Option.map_congr opened
    have polygons : (∀ list ∈ points, Polygon (openRingOf (pointsGiven list) : List (ZonePoint F))) ↔
        ∀ list ∈ points, Polygon (pointsGiven list : List (ZonePoint F)) := by
      apply forall₂_congr
      intro list mem
      rw [opened list mem]
    rw [http, core, same, polygons]

end

/-! ## Exact coordinates -/

instance : Coordinate Rat where
  sub := (· - ·)
  add := (· + ·)
  mul := (· * ·)
  le x y := decide (x ≤ y)
  lt x y := decide (x < y)
  ofInt n := n
  isFinite _ := true
  epsilon := 1 / 1000000000

/-- Whole numbers, read exactly. -/
instance : JsonScalar Rat where
  ofNumber
    | .int n => n
    | .float _ => 0
  parse _ := none

instance : LawfulCoordinate Rat where
  finite_of_between _ _ _ _ := rfl
  lt_ofInt {n x} _ := by
    rw [Bool.eq_iff_iff]
    simp [lt, le, Rat.not_le]
  ofInt_lt {n x} _ := by
    rw [Bool.eq_iff_iff]
    simp [lt, le, Rat.not_le]

/-- Whole degrees. -/
def degrees (points : List (Int × Int)) : List (Number × Number) :=
  points.map fun point => (.int point.1, .int point.2)

/-- A triangle, stored alike by both. -/
theorem front_ends_agree_triangle :
    letI := Host.blank
    let points := degrees [(0, 0), (0, 10), (10, 0)]
    createZoneOf (F := Rat) "zone" 0 (zonePayload " Camp " points) =
        .ok ⟨"zone", "Camp", pointsGiven points, 0, 0⟩ ∧
      createZone (F := Rat) (fun _ => "") "zone" 0 (zonePayload " Camp " points) =
        .ok ⟨"zone", "Camp", pointsGiven points, 0, 0⟩ := by
  let := Host.blank
  intro points
  obtain ⟨http, core, _⟩ := (front_ends_agree (F := Rat) fun _ => "").2.1 "zone" " Camp " 0 points
    ⟨"zone", "Camp", pointsGiven points, 0, 0⟩ (by decide +kernel) (by decide +kernel)
  have opened : openRingOf (pointsGiven points) = (pointsGiven points : List (ZonePoint Rat)) := if_neg (by decide +kernel)
  have name : trim " Camp " = "Camp" := by decide +kernel
  have polygon : Polygon (pointsGiven points : List (ZonePoint Rat)) := by decide +kernel
  refine ⟨core.2 ⟨?_, ?_⟩, http.2 ⟨polygon, ?_⟩⟩
  · rw [opened]
    exact polygon
  · rw [opened, name]
  · rw [name]

/-- The server stores a triangle with the point that closes it, and takes a ring that
crosses itself; the core stores the triangle without, and refuses the ring. -/
theorem closed_triangle_stored_apart :
    letI := Host.blank
    let closed := zonePayload "Camp" (degrees [(0, 0), (0, 10), (10, 0), (0, 0)])
    let crossed := zonePayload "Camp" (degrees [(0, 0), (10, 10), (0, 10), (10, 0)])
    (createZone (F := Rat) (fun _ => "") "zone" 0 closed).toOption.map (fun zone => zone.points.length) = some 4 ∧
      (createZoneOf (F := Rat) "zone" 0 closed).toOption.map (fun zone => zone.points.length) = some 3 ∧
      (createZone (F := Rat) (fun _ => "") "zone" 0 crossed).toOption.isSome = true ∧
      (createZoneOf (F := Rat) "zone" 0 crossed).toOption.isSome = false := by
  decide +kernel

end TelemetryHub
