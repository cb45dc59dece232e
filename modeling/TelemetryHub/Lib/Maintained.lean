import TelemetryHub.Lib.Proc

/-!
# Methods that maintain an invariant

An invariant alone does not carry through a method whose later writes rest on what its earlier
steps returned. So a method is held to both: the invariant of the states it leaves, and what is
known of the value it returns.
-/

namespace TelemetryHub.Lib.Proc

variable {ε σ α β : Type}

/-- From a state with the invariant the method leaves one with it, and what it returns is as `P` says. -/
def Maintains (I : σ → Prop) (P : α → Prop) (m : Proc ε σ α) : Prop :=
  ∀ s, I s → I (run m s).2 ∧ ∀ a, (run m s).1 = .ok a → P a

namespace Maintains

variable {I : σ → Prop} {P : α → Prop} {P' : β → Prop}

theorem pure {a : α} (h : P a) : Maintains I P (Pure.pure a : Proc ε σ α) := by
  intro s holds
  refine ⟨holds, fun b returned => ?_⟩
  rw [← show a = b from Except.ok.inj returned]
  exact h

theorem throw (e : ε) : Maintains I P (MonadExcept.throw e : Proc ε σ α) :=
  fun _ holds => ⟨holds, fun _ returned => absurd returned error_ne_ok⟩

theorem mono {P₁ : α → Prop} {m : Proc ε σ α} (hm : Maintains I P m) (weaken : ∀ a, P a → P₁ a) : Maintains I P₁ m := by
  intro s holds
  obtain ⟨after, value⟩ := hm s holds
  exact ⟨after, fun a returned => weaken a (value a returned)⟩

/-- What the first method is known to return is there for the second. -/
theorem bind {m : Proc ε σ β} {k : β → Proc ε σ α} (hm : Maintains I P' m) (hk : ∀ b, P' b → Maintains I P (k b)) :
    Maintains I P (m >>= k) := by
  intro s holds
  obtain ⟨after, value⟩ := hm s holds
  rw [run_bind]
  cases ran : run m s with
  | mk r s' =>
    rw [ran] at after value
    cases r with
    | error e => exact ⟨after, fun a returned => absurd returned error_ne_ok⟩
    | ok b => exact hk b (value b rfl) s' after

/-- A method of which the value does not matter, before another. -/
theorem andThen {m : Proc ε σ β} {k : β → Proc ε σ α} (hm : Maintains I (fun _ => True) m)
    (hk : ∀ b, Maintains I P (k b)) : Maintains I P (m >>= k) := bind hm fun b _ => hk b

theorem ite {c : Prop} [Decidable c] {m m' : Proc ε σ α} (hm : c → Maintains I P m) (hm' : ¬c → Maintains I P m') :
    Maintains I P (if c then m else m') := by
  by_cases here : c
  · rw [if_pos here]
    exact hm here
  · rw [if_neg here]
    exact hm' here

/-- `if c { return Err(e) }` before the rest. -/
theorem guard {c : Prop} [Decidable c] {e : ε} {k : β → Proc ε σ α} {m : Proc ε σ α} (hm : ¬c → Maintains I P m) :
    Maintains I P (if c then MonadExcept.throw e >>= k else m) := ite (fun _ => throw e) hm

theorem checked {x : Except ε β} {k : β → Proc ε σ α} (hk : ∀ b, x = .ok b → Maintains I P (k b)) :
    Maintains I P ((liftM x : Proc ε σ β) >>= k) := by
  cases x with
  | error e => exact throw e
  | ok b => exact hk b rfl

theorem required {x : Option β} {e : ε} {k : β → Proc ε σ α} (hk : ∀ b, x = some b → Maintains I P (k b)) :
    Maintains I P (Proc.orThrow x e >>= k) := by
  cases x with
  | none => exact throw e
  | some b => exact hk b rfl

theorem orThrow {x : Option α} {e : ε} (h : ∀ a, x = some a → P a) : Maintains I P (Proc.orThrow x e : Proc ε σ α) := by
  cases x with
  | none => exact throw e
  | some a => exact pure (h a rfl)

theorem forM {items : List β} {body : β → Proc ε σ PUnit} (h : ∀ b, Maintains I (fun _ => True) (body b)) :
    Maintains I (fun _ => True) (items.forM body) := by
  induction items with
  | nil => exact pure trivial
  | cons b items ih => exact andThen (h b) fun _ => ih

/-- A loop that collects what its rounds return. -/
theorem mapM {items : List β} {body : β → Proc ε σ α} (h : ∀ b, Maintains I (fun _ => True) (body b)) :
    Maintains I (fun _ => True) (items.mapM body) := by
  induction items with
  | nil => exact pure trivial
  | cons b items ih =>
    rw [List.mapM_cons]
    exact andThen (h b) fun _ => andThen ih fun _ => pure trivial

end Maintains
end TelemetryHub.Lib.Proc
