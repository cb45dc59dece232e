import Mathlib.Logic.Function.Basic
import Mathlib.Logic.Relation

/-!
# Forests by parents

A partial function gives each node its parent. The nodes above a node form its chain; a
node is rooted if its chain ends. Where all nodes are rooted, a new parent keeps them so
exactly if it is not below its child.
-/

namespace TelemetryHub.Lib

variable {K : Type}

/-- The chain of the node ends in a node without parent. -/
inductive Rooted (parent : K → Option K) : K → Prop
  | root {k : K} (top : parent k = none) : Rooted parent k
  | climb {k p : K} (up : parent k = some p) (above : Rooted parent p) : Rooted parent k

/-- One node is another's parent. -/
def IsParent (parent : K → Option K) (k p : K) : Prop := parent k = some p

/-- The node and what is above it. -/
def OnChain (parent : K → Option K) (k a : K) : Prop := Relation.ReflTransGen (IsParent parent) k a

/-- No node is above itself. -/
def Acyclic (parent : K → Option K) : Prop := ∀ k, ¬Relation.TransGen (IsParent parent) k k

variable {parent : K → Option K} {k p a m : K}

theorem onChain_iff : OnChain parent k a ↔ a = k ∨ ∃ p, parent k = some p ∧ OnChain parent p a := by
  rw [OnChain, Relation.ReflTransGen.cases_head_iff, eq_comm]
  rfl

theorem onChain_root (top : parent k = none) : OnChain parent k a ↔ a = k := by
  rw [onChain_iff]
  refine or_iff_left ?_
  rintro ⟨p, up, -⟩
  rw [top] at up
  exact absurd up nofun

theorem onChain_climb (up : parent k = some p) : OnChain parent k a ↔ a = k ∨ OnChain parent p a := by
  rw [onChain_iff]
  refine or_congr_right ⟨?_, fun above => ⟨p, up, above⟩⟩
  rintro ⟨p', up', above⟩
  rw [up] at up'
  rw [Option.some.inj up']
  exact above

namespace Rooted

/-- A rooted node is not above itself. -/
theorem acyclic (rooted : Rooted parent k) : ¬Relation.TransGen (IsParent parent) k k := by
  induction rooted with
  | root top =>
    intro loop
    obtain ⟨p, up, -⟩ := Relation.TransGen.head'_iff.1 loop
    rw [IsParent, top] at up
    exact absurd up nofun
  | climb up above ih =>
    intro loop
    obtain ⟨p, up', back⟩ := Relation.TransGen.head'_iff.1 loop
    rw [IsParent, up] at up'
    obtain rfl := Option.some.inj up'
    exact ih (Relation.TransGen.tail' back up)

/-- A parent is not below its child. -/
theorem notOnChain (rooted : Rooted parent k) (up : parent k = some p) : ¬OnChain parent p k :=
  fun back => rooted.acyclic (Relation.TransGen.head' up back)

/-- What is above a rooted node is rooted. -/
theorem above (rooted : Rooted parent k) (chain : OnChain parent k a) : Rooted parent a := by
  induction chain with
  | refl => exact rooted
  | tail _ up ih =>
    cases ih with
    | root top =>
      rw [IsParent, top] at up
      exact absurd up nofun
    | climb up' rooted' =>
      rw [IsParent, up'] at up
      exact Option.some.inj up ▸ rooted'

end Rooted

section

variable [DecidableEq K]

theorem isParent_update_of_ne (other : k ≠ m) (q : Option K) :
    IsParent (Function.update parent m q) k a ↔ IsParent parent k a := by
  rw [IsParent, IsParent, Function.update_of_ne other]

/-- A chain that does not meet the node is not changed by its new parent. -/
theorem Rooted.update_off (rooted : Rooted parent k) (off : ¬OnChain parent k m) (q : Option K) :
    Rooted (Function.update parent m q) k := by
  induction rooted with
  | root top =>
    rename_i k
    have other : k ≠ m := fun same => off (same ▸ Relation.ReflTransGen.refl)
    exact .root (by rw [Function.update_of_ne other, top])
  | climb up above ih =>
    rename_i k p
    rw [onChain_climb up, not_or] at off
    have other : k ≠ m := fun same => off.1 same.symm
    exact .climb (by rw [Function.update_of_ne other, up]) (ih off.2)

/-- A chain that meets the node is the old one up to it and goes on as the new one. -/
theorem Rooted.update_on {q : Option K} (rooted : Rooted parent k) (top : Rooted (Function.update parent m q) m) :
    Rooted (Function.update parent m q) k := by
  induction rooted with
  | root none =>
    rename_i k
    by_cases same : k = m
    · exact same ▸ top
    · exact .root (by rw [Function.update_of_ne same, none])
  | climb up above ih =>
    rename_i k p
    by_cases same : k = m
    · exact same ▸ top
    · exact .climb (by rw [Function.update_of_ne same, up]) ih

/-- Where all nodes are rooted they stay so under a new parent that is not below its child. -/
theorem rooted_update (all : ∀ k, Rooted parent k) {q : Option K} (apart : ∀ p, q = some p → ¬OnChain parent p m) (k : K) :
    Rooted (Function.update parent m q) k := by
  refine (all k).update_on ?_
  cases q with
  | none => exact .root (Function.update_self ..)
  | some p => exact .climb (Function.update_self ..) ((all p).update_off (apart p rfl) _)

/-- A chain to the node is there under any new parent of that node. -/
theorem onChain_update (chain : OnChain parent k m) (q : Option K) : OnChain (Function.update parent m q) k m := by
  -- the first part of the chain, up to the node, is as it was
  induction chain using Relation.ReflTransGen.head_induction_on with
  | refl => exact .refl
  | @head k a up _ ih =>
    by_cases same : k = m
    · exact same ▸ .refl
    · exact .head ((isParent_update_of_ne same q).2 up) ih

/-- A parent that is below its child closes a cycle. -/
theorem cycle_of_onChain (chain : OnChain parent p m) :
    Relation.TransGen (IsParent (Function.update parent m (some p))) m m :=
  Relation.TransGen.head' (Function.update_self ..) (onChain_update chain _)

/-- A new parent keeps a rooted forest acyclic exactly if it is not below its child. -/
theorem acyclic_update_iff (all : ∀ k, Rooted parent k) :
    Acyclic (Function.update parent m (some p)) ↔ ¬OnChain parent p m := by
  constructor
  · exact fun acyclic chain => acyclic m (cycle_of_onChain chain)
  · intro apart k
    refine (rooted_update all (fun p' same => ?_) k).acyclic
    rw [← Option.some.inj same]
    exact apart

end
end TelemetryHub.Lib
