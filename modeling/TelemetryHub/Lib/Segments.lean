import Mathlib.Analysis.Convex.Segment
import Mathlib.Algebra.Order.Field.Basic
import Mathlib.Data.ZMod.Basic
import Mathlib.Tactic.Ring
import Mathlib.Tactic.Linarith
import Mathlib.Tactic.FieldSimp
import Mathlib.Tactic.LinearCombination

/-!
# Segments of the plane

Which way three points turn decides where two segments meet: they cross, or an end of one lies
on the other. A ring of vertices is simple if no two of its edges meet but where one follows
the other, and these in their common vertex only.
-/

namespace TelemetryHub.Lib

variable {K : Type} [Field K] [LinearOrder K] [IsStrictOrderedRing K]

/-- Twice the area on the left of the way from `a` by `b` to `c`. -/
def turn (a b c : K × K) : K := (b.1 - a.1) * (c.2 - a.2) - (b.2 - a.2) * (c.1 - a.1)

/-- An end of one segment lies on the other. -/
def Touching (a b c d : K × K) : Prop :=
  c ∈ segment K a b ∨ d ∈ segment K a b ∨ a ∈ segment K c d ∨ b ∈ segment K c d

section

variable {a b c d p : K × K} {s t u : K}

omit [LinearOrder K] [IsStrictOrderedRing K] in
theorem turn_swap (a b c : K × K) : turn b a c = -turn a b c := by
  unfold turn
  ring

omit [LinearOrder K] [IsStrictOrderedRing K] in
theorem turn_self_left (a c : K × K) : turn a a c = 0 := by
  unfold turn
  ring

omit [IsStrictOrderedRing K] in
theorem Touching.symm (h : Touching a b c d) : Touching c d a b := by
  rcases h with h | h | h | h
  · exact .inr (.inr (.inl h))
  · exact .inr (.inr (.inr h))
  · exact .inl h
  · exact .inr (.inl h)

end
end TelemetryHub.Lib
