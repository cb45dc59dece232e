import Mathlib.Algebra.BigOperators.Intervals
import Mathlib.Order.WellFounded

/-!
# Budgets

Along a run something is spent and what is left falls by it. There may be a point of
no return past which nothing is counted any more.
-/

namespace TelemetryHub.Lib

variable {left spent : Nat → Nat} {gone : Nat → Prop}

/-- What is spent is covered by what was left at the start. -/
theorem spent_covered (hgone : ∀ i, gone i → gone (i + 1))
    (hstep : ∀ i, gone (i + 1) ∨ left (i + 1) + spent i ≤ left i) (n : Nat) :
    gone n ∨ left n + ∑ i ∈ Finset.range n, spent i ≤ left 0 := by
  induction n with
  | zero => simp
  | succ n ih =>
    obtain hout | hleft := hstep n
    · exact .inl hout
    · obtain hout | hcovered := ih
      · exact .inl (hgone n hout)
      · right
        rw [Finset.sum_range_succ]
        omega

/-- In the end nothing is spent. -/
theorem spending_stops (hgone : ∀ i, gone i → gone (i + 1))
    (hstep : ∀ i, gone (i + 1) ∨ left (i + 1) + spent i ≤ left i) : ∃ n, ∀ i ≥ n, gone i ∨ spent i = 0 := by
  by_cases hever : ∃ n, gone n
  · obtain ⟨n, hn⟩ := hever
    refine ⟨n, ?_⟩
    intro i hi
    left
    exact Nat.le_induction hn (fun k _ => hgone k) i hi
  · have hleft : ∀ i, left (i + 1) + spent i ≤ left i := by
      intro i
      obtain hout | hleft := hstep i
      · exact absurd ⟨i + 1, hout⟩ hever
      · exact hleft
    -- From where the least is left on, nothing more can be spent.
    have hleast := Function.argmin_le left
    have hfalls : Antitone left := antitone_nat_of_succ_le fun i => by
      have := hleft i
      omega
    refine ⟨Function.argmin left, ?_⟩
    intro i hi
    right
    have hnow := hfalls hi
    have hnext := hleast (i + 1)
    have hspent := hleft i
    omega

end TelemetryHub.Lib
