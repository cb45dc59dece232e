import TelemetryHub.Lib.Proc

/-!
# Methods made of moves

Loops, attempts and readings among the methods that get where they end by steps of a relation.
-/

namespace TelemetryHub.Lib.Proc.Moves

variable {ε ε' σ τ α β γ : Type} {obs : Observation σ τ} {R R' : τ → τ → Prop}

theorem mono {m : Proc ε σ α} (hm : Moves obs R m) (hR : ∀ a b, R a b → R' a b) : Moves obs R' m :=
  fun t => (hm t).mono fun _ _ h => h.mono hR

/-- Where the method gets to. -/
theorem steps {m : Proc ε σ α} (hm : Moves obs R m) {s : σ} (rest : obs.rest s) :
    Relation.ReflTransGen R (obs.view s) (obs.view (run m s).2) := (hm _ s rfl rest).1.steps

theorem of_keeps {m : Proc ε σ α} (hm : Keeps obs m) : Moves obs R m := by
  intro t
  refine (hm t).mono fun r t' same => ?_
  rw [same]
  exact ⟨.refl, False.elim, fun _ _ => trivial⟩

theorem check (x : Except ε α) : Moves obs R (liftM x : Proc ε σ α) := by
  rw [← bind_pure (liftM x : Proc ε σ α)]
  exact .checked fun a _ => .pure a

theorem attempt {m : Proc ε σ α} (hm : Moves obs R m) : Moves obs R (Proc.attempt m : Proc ε' σ (Except ε α)) := by
  intro t s seen rest
  obtain ⟨moved, rest'⟩ := hm t s seen rest
  exact ⟨⟨moved.steps, False.elim, fun _ _ => trivial⟩, rest'⟩

theorem mapM {items : List β} {body : β → Proc ε σ γ} (h : ∀ b, Moves obs R (body b)) : Moves obs R (items.mapM body) := by
  induction items with
  | nil => exact .pure _
  | cons b rest ih =>
    rw [List.mapM_cons]
    exact .bind (h b) fun _ => .bind ih fun _ => .pure _

theorem foldlM {items : List β} {body : α → β → Proc ε σ α} (h : ∀ a, ∀ b ∈ items, Moves obs R (body a b)) (a : α) :
    Moves obs R (items.foldlM body a) := by
  induction items generalizing a with
  | nil => exact .pure a
  | cons b rest ih =>
    rw [List.foldlM_cons]
    exact .bind (h a b List.mem_cons_self) fun a' => ih (fun a b mem => h a b (List.mem_cons_of_mem _ mem)) a'

end TelemetryHub.Lib.Proc.Moves
