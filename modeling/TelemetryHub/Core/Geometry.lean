import TelemetryHub.Core.Records

/-!
# Zone geometry

The polygon check of `validate_zone_points`, over any scalar type with the
operations it uses. The hub runs it on floats.
-/

namespace TelemetryHub

/-- The scalar operations of the zone check. -/
class Coordinate (F : Type) where
  sub : F → F → F
  add : F → F → F
  mul : F → F → F
  le : F → F → Bool
  lt : F → F → Bool
  ofInt : Int → F
  isFinite : F → Bool
  epsilon : F

instance : Coordinate Float where
  sub := (· - ·)
  add := (· + ·)
  mul := (· * ·)
  le x y := decide (x ≤ y)
  lt x y := decide (x < y)
  ofInt := Float.ofInt
  isFinite := Float.isFinite
  epsilon := 1e-9

section

variable {F : Type} [Coordinate F]

open Coordinate

/-- `-x`. -/
def coordNeg (x : F) : F := sub (ofInt 0) x

/-- `x.abs()`. -/
def coordAbs (x : F) : F := if lt x (ofInt 0) then coordNeg x else x

/-- `x.min(y)`. -/
def coordMin (x y : F) : F := if le x y then x else y

/-- `x.max(y)`. -/
def coordMax (x y : F) : F := if le x y then y else x

/-- `zone_points_equal`. -/
def zonePointsEqual (left right : ZonePoint F) : Bool :=
  le (coordAbs (sub left.lat right.lat)) epsilon && le (coordAbs (sub left.lon right.lon)) epsilon

/-- `zone_orientation`. -/
def zoneOrientation (a b c : ZonePoint F) : F :=
  sub (mul (sub b.lon a.lon) (sub c.lat a.lat)) (mul (sub b.lat a.lat) (sub c.lon a.lon))

/-- `zone_on_segment`. -/
def zoneOnSegment (a b c : ZonePoint F) : Bool :=
  le (sub (coordMin a.lon c.lon) epsilon) b.lon && le b.lon (add (coordMax a.lon c.lon) epsilon) &&
    le (sub (coordMin a.lat c.lat) epsilon) b.lat && le b.lat (add (coordMax a.lat c.lat) epsilon)

/-- `zone_segments_intersect`. -/
def zoneSegmentsIntersect (a1 a2 b1 b2 : ZonePoint F) : Bool :=
  let o1 := zoneOrientation a1 a2 b1
  let o2 := zoneOrientation a1 a2 b2
  let o3 := zoneOrientation b1 b2 a1
  let o4 := zoneOrientation b1 b2 a2
  let above (o : F) : Bool := lt epsilon o
  let below (o : F) : Bool := lt o (coordNeg epsilon)
  let flat (o : F) : Bool := le (coordAbs o) epsilon
  ((above o1 && below o2) || (below o1 && above o2)) && ((above o3 && below o4) || (below o3 && above o4)) ||
    flat o1 && zoneOnSegment a1 b1 a2 ||
    flat o2 && zoneOnSegment a1 b2 a2 ||
    flat o3 && zoneOnSegment b1 a1 b2 ||
    flat o4 && zoneOnSegment b1 a2 b2

/-- The edge that starts at vertex `i`. -/
def zoneEdge (points : List (ZonePoint F)) (i : Nat) : Option (ZonePoint F × ZonePoint F) := do
  return (← points[i]?, ← points[(i + 1) % points.length]?)

/-- `zone_is_self_intersecting`. -/
def zoneIsSelfIntersecting (points : List (ZonePoint F)) : Bool :=
  let edgeCount := points.length
  (List.range edgeCount).any fun i =>
    (List.range edgeCount).any fun j =>
      i < j && !((i + 1) % edgeCount == j || i == (j + 1) % edgeCount) &&
        match zoneEdge points i, zoneEdge points j with
        | some (a1, a2), some (b1, b2) => zoneSegmentsIntersect a1 a2 b1 b2
        | _, _ => false

/-- The checks of one vertex, in the order the source makes them. -/
def validateZonePoint (point : ZonePoint F) : Except RchCoreError Unit :=
  if !isFinite point.lat || !isFinite point.lon then
    .error (.invalidPayload "zone point lat/lon must be numeric")
  else if lt point.lat (ofInt (-90)) || lt (ofInt 90) point.lat then
    .error (.invalidPayload "Zone point latitude must be between -90 and 90")
  else if lt point.lon (ofInt (-180)) || lt (ofInt 180) point.lon then
    .error (.invalidPayload "Zone point longitude must be between -180 and 180")
  else .ok ()

/-- `validate_zone_points`. -/
def validateZonePoints (points : List (ZonePoint F)) : Except RchCoreError Unit := do
  if points.isEmpty then throw (.invalidPayload "Zone points are required")
  if points.length < 3 then throw (.invalidPayload "Zone must contain at least 3 points")
  if points.length > 200 then throw (.invalidPayload "Zone cannot contain more than 200 points")
  points.forM validateZonePoint
  if zoneIsSelfIntersecting points then throw (.invalidPayload "Zone polygon cannot self-intersect")

end
end TelemetryHub
