import Mathlib.Logic.Relation

/-!
# Computations on a mutable state that may fail

`Proc ε σ α` is a program with one mutable state `σ` that ends in a value or in
an error. What it has written stays written when it fails: this is a method on
`&mut self` left by `?`, not a transaction. The rules are those of a Hoare logic
with two postconditions, one for each exit.
-/

namespace TelemetryHub.Lib

theorem error_ne_ok {ε α : Type} {e : ε} {a : α} : (.error e : Except ε α) ≠ .ok a := nofun

/-- `?` in a check: both parts are accepted. -/
theorem bind_eq_ok {ε α β : Type} {x : Except ε α} {k : α → Except ε β} {b : β} :
    x >>= k = .ok b ↔ ∃ a, x = .ok a ∧ k a = .ok b := by
  cases x with
  | error e => exact ⟨nofun, by rintro ⟨a, h, -⟩; cases h⟩
  | ok a =>
    refine ⟨fun h => ⟨a, rfl, h⟩, ?_⟩
    rintro ⟨a', h, hk⟩
    rw [Except.ok.inj h]
    exact hk

/-- A loop of checks accepts what every check accepts. -/
theorem forM_eq_ok {ε α : Type} {items : List α} {check : α → Except ε Unit} :
    items.forM check = .ok () ↔ ∀ a ∈ items, check a = .ok () := by
  induction items with
  | nil => exact ⟨fun _ => nofun, fun _ => rfl⟩
  | cons a rest ih =>
    have hcons : (a :: rest).forM check = check a >>= fun _ => rest.forM check := rfl
    rw [List.forall_mem_cons, ← ih, hcons, bind_eq_ok]
    constructor
    · rintro ⟨_, hhead, hrest⟩
      exact ⟨hhead, hrest⟩
    · rintro ⟨hhead, hrest⟩
      exact ⟨(), hhead, hrest⟩

/-- A computation on the state `σ`, with result `α` or error `ε`. -/
def Proc (ε σ α : Type) : Type := σ → Except ε α × σ

namespace Proc

variable {ε σ α β : Type}

/-- Run `m` from `s`. -/
def run (m : Proc ε σ α) (s : σ) : Except ε α × σ := m s

instance : Monad (Proc ε σ) where
  pure a := fun s => (.ok a, s)
  bind m k := fun s =>
    match m s with
    | (.ok a, s') => k a s'
    | (.error e, s') => (.error e, s')

instance : MonadExceptOf ε (Proc ε σ) where
  throw e := fun s => (.error e, s)
  tryCatch m h := fun s =>
    match m s with
    | (.ok a, s') => (.ok a, s')
    | (.error e, s') => h e s'

instance : MonadStateOf σ (Proc ε σ) where
  get := fun s => (.ok s, s)
  set s := fun _ => (.ok ⟨⟩, s)
  modifyGet f := fun s => (.ok (f s).1, (f s).2)

/-- A check on values alone, its error thrown. -/
def liftE (x : Except ε α) : Proc ε σ α := fun s => (x, s)

/-- `?` on a checked value. -/
instance : MonadLift (Except ε) (Proc ε σ) := ⟨liftE⟩

/-- `?` on an option. -/
def orThrow (x : Option α) (e : ε) : Proc ε σ α :=
  match x with
  | some a => pure a
  | none => throw e

/-- Run `m` and hand its outcome on as a value; what it wrote stays. -/
def attempt {ε' : Type} (m : Proc ε σ α) : Proc ε' σ (Except ε α) := fun s => (.ok (m s).1, (m s).2)

@[simp] theorem run_pure (a : α) (s : σ) : run (pure a : Proc ε σ α) s = (.ok a, s) := rfl

@[simp] theorem run_get (s : σ) : run (get : Proc ε σ σ) s = (.ok s, s) := rfl

@[simp] theorem run_set (s s' : σ) : run (set s' : Proc ε σ PUnit) s = (.ok ⟨⟩, s') := rfl

@[simp] theorem run_modify (f : σ → σ) (s : σ) :
    run (modify f : Proc ε σ PUnit) s = (.ok ⟨⟩, f s) := rfl

@[simp] theorem run_modifyGet (f : σ → α × σ) (s : σ) :
    run (modifyGet f : Proc ε σ α) s = (.ok (f s).1, (f s).2) := rfl

@[simp] theorem run_liftE (x : Except ε α) (s : σ) : run (liftE x : Proc ε σ α) s = (x, s) := rfl

@[simp] theorem run_monadLift (x : Except ε α) (s : σ) :
    run (monadLift x : Proc ε σ α) s = (x, s) := rfl

theorem run_bind (m : Proc ε σ α) (k : α → Proc ε σ β) (s : σ) :
    run (m >>= k) s = match run m s with
      | (.ok a, s') => run (k a) s'
      | (.error e, s') => (.error e, s') := rfl

@[simp] theorem run_orThrow_some (a : α) (e : ε) (s : σ) :
    run (orThrow (some a) e : Proc ε σ α) s = (.ok a, s) := rfl

@[simp] theorem run_orThrow_none (e : ε) (s : σ) :
    run (orThrow none e : Proc ε σ α) s = (.error e, s) := rfl

theorem orThrow_some_bind (a : α) (e : ε) (k : α → Proc ε σ β) : (orThrow (some a) e >>= k) = k a := rfl

@[simp] theorem run_attempt {ε' : Type} (m : Proc ε σ α) (s : σ) :
    run (attempt m : Proc ε' σ (Except ε α)) s = (.ok (run m s).1, (run m s).2) := rfl

/-! ## The monad laws -/

theorem map_id (m : Proc ε σ α) : id <$> m = m := by
  funext s
  change (match m s with
    | (.ok a, s') => (.ok a, s')
    | (.error e, s') => (.error e, s')) = m s
  rcases m s with ⟨e | a, s'⟩ <;> rfl

theorem bind_bind {γ : Type} (m : Proc ε σ α) (k : α → Proc ε σ β) (l : β → Proc ε σ γ) :
    m >>= k >>= l = m >>= fun a => k a >>= l := by
  funext s
  change (match (match m s with
      | (.ok a, s') => k a s'
      | (.error e, s') => (.error e, s')) with
    | (.ok b, s') => l b s'
    | (.error e, s') => (.error e, s')) =
    (match m s with
    | (.ok a, s') => (match k a s' with
      | (.ok b, s'') => l b s''
      | (.error e, s'') => (.error e, s''))
    | (.error e, s') => (.error e, s'))
  rcases m s with ⟨e | a, s'⟩ <;> rfl

instance : LawfulMonad (Proc ε σ) := LawfulMonad.mk' _ map_id (fun _ _ => rfl) bind_bind

@[simp] theorem throw_bind (e : ε) (k : α → Proc ε σ β) : (throw e >>= k) = throw e := rfl

/-! ## Specifications

A state is looked at through an observation: the part a statement is about, and
what is known of the rest and stays true of it. `Spec` says what every run from
an observed state ends in, on either exit. -/

/-- What a statement about a state sees of it. -/
structure Observation (σ τ : Type) where
  /-- The observed part. -/
  view : σ → τ
  /-- What is known of the rest. -/
  rest : σ → Prop

variable {τ : Type} {obs : Observation σ τ}

/-- Every run of `m` from a state observed as `t` ends as `Q` says. -/
def Spec (obs : Observation σ τ) (m : Proc ε σ α) (t : τ) (Q : Except ε α → τ → Prop) : Prop :=
  ∀ s, obs.view s = t → obs.rest s → Q (m.run s).1 (obs.view (m.run s).2) ∧ obs.rest (m.run s).2

namespace Spec

variable {m : Proc ε σ α} {t : τ} {Q Q' : Except ε α → τ → Prop}

theorem mono (h : Spec obs m t Q') (weaken : ∀ r t', Q' r t' → Q r t') : Spec obs m t Q := by
  intro s hview hrest
  obtain ⟨hq, hrest'⟩ := h s hview hrest
  exact ⟨weaken _ _ hq, hrest'⟩

theorem pure {a : α} (h : Q (.ok a) t) : Spec obs (Pure.pure a : Proc ε σ α) t Q := by
  rintro s rfl hrest
  exact ⟨h, hrest⟩

theorem throw {e : ε} (h : Q (.error e) t) : Spec obs (MonadExcept.throw e : Proc ε σ α) t Q := by
  rintro s rfl hrest
  exact ⟨h, hrest⟩

/-- Sequencing: the first exit is passed on, the other continues. -/
theorem bind {k : α → Proc ε σ β} {Q : Except ε β → τ → Prop} (hm : Spec obs m t Q')
    (hk : ∀ a t', Q' (.ok a) t' → Spec obs (k a) t' Q)
    (he : ∀ e t', Q' (.error e) t' → Q (.error e) t') : Spec obs (m >>= k) t Q := by
  intro s hview hrest
  obtain ⟨hq, hrest'⟩ := hm s hview hrest
  rw [run_bind]
  rcases hrun : m.run s with ⟨e | a, s'⟩
  · rw [hrun] at hq hrest'
    exact ⟨he e _ hq, hrest'⟩
  · rw [hrun] at hq hrest'
    exact hk a _ hq s' rfl hrest'

/-- After a method known to return `b` and to end as `t'`. -/
theorem step {m : Proc ε σ β} {k : β → Proc ε σ α} {b : β} {t' : τ}
    (hm : Spec obs m t fun r t'' => r = .ok b ∧ t'' = t') (hk : Spec obs (k b) t' Q) : Spec obs (m >>= k) t Q := by
  apply bind hm
  · rintro b' t'' ⟨hb, rfl⟩
    cases hb
    exact hk
  · rintro e t'' ⟨he, -⟩
    cases he

/-- Nothing comes after a method known to fail. -/
theorem stop {m : Proc ε σ β} {k : β → Proc ε σ α} {t₁ : τ}
    (hm : Spec obs m t fun r t' => (∃ e, r = .error e) ∧ t' = t₁) (he : ∀ e, Q (.error e) t₁) :
    Spec obs (m >>= k) t Q := by
  apply bind hm
  · rintro b t' ⟨⟨e, hr⟩, -⟩
    cases hr
  · rintro e t' ⟨-, rfl⟩
    exact he e

/-- `?` on a checked value. -/
theorem check {x : Except ε β} {k : β → Proc ε σ α} (hk : ∀ b, x = .ok b → Spec obs (k b) t Q)
    (he : ∀ e, x = .error e → Q (.error e) t) : Spec obs (liftM x >>= k) t Q := by
  cases x with
  | error e =>
    rintro s rfl hrest
    exact ⟨he e rfl, hrest⟩
  | ok b => exact hk b rfl

/-- `?` on an option. -/
theorem require {x : Option β} {e : ε} {k : β → Proc ε σ α}
    (hk : ∀ b, x = some b → Spec obs (k b) t Q) (he : x = none → Q (.error e) t) :
    Spec obs (orThrow x e >>= k) t Q := by
  cases x with
  | none =>
    rintro s rfl hrest
    exact ⟨he rfl, hrest⟩
  | some b => exact hk b rfl

/-- `?` on an option known to hold a value. -/
theorem found {x : Option β} {b : β} {e : ε} {k : β → Proc ε σ α} (hx : x = some b)
    (hk : Spec obs (k b) t Q) : Spec obs (orThrow x e >>= k) t Q := by
  subst hx
  exact hk

theorem ite {c : Prop} [Decidable c] {m' : Proc ε σ α} (ht : c → Spec obs m t Q)
    (hf : ¬c → Spec obs m' t Q) : Spec obs (if c then m else m') t Q := by
  split
  · exact ht ‹_›
  · exact hf ‹_›

/-- `if c { return Err(e) }` before the rest. -/
theorem guard {c : Prop} [Decidable c] {e : ε} {k : β → Proc ε σ α} {m' : Proc ε σ α}
    (he : c → Q (.error e) t) (hf : ¬c → Spec obs m' t Q) :
    Spec obs (if c then MonadExcept.throw e >>= k else m') t Q :=
  ite (fun h => throw (he h)) hf

/-- A loop with an accumulator that leaves the observed part as it is: what one round
does for the items so far the loop does for all of them. -/
theorem foldlM {items : List β} {body : α → β → Proc ε σ α} {Inv : List β → α → Prop} {E : ε → Prop}
    (hbody : ∀ done b rest a, items = done ++ b :: rest → Inv done a →
      Spec obs (body a b) t fun r t' =>
        t' = t ∧ (∀ a', r = .ok a' → Inv (done ++ [b]) a') ∧ ∀ e, r = .error e → E e)
    {a : α} (h : Inv [] a) :
    Spec obs (items.foldlM body a) t fun r t' =>
      t' = t ∧ (∀ a', r = .ok a' → Inv items a') ∧ ∀ e, r = .error e → E e := by
  suffices hrest : ∀ rest done a, items = done ++ rest → Inv done a →
      Spec obs (rest.foldlM body a) t fun r t' =>
        t' = t ∧ (∀ a', r = .ok a' → Inv items a') ∧ ∀ e, r = .error e → E e from
    hrest items [] a rfl h
  intro rest
  induction rest with
  | nil =>
    intro done a hitems hinv
    rw [List.append_nil] at hitems
    subst hitems
    refine pure ⟨rfl, ?_, nofun⟩
    rintro a' ⟨⟩
    exact hinv
  | cons b rest ih =>
    intro done a hitems hinv
    rw [List.foldlM_cons]
    refine bind (hbody done b rest a hitems hinv) ?_ ?_
    · rintro a' t' ⟨rfl, hok, -⟩
      exact ih (done ++ [b]) a' (by rw [hitems, List.append_assoc]; rfl) (hok a' rfl)
    · rintro e t' ⟨rfl, -, herror⟩
      exact ⟨rfl, nofun, fun e' he => by cases he; exact herror e rfl⟩

/-- An outcome handed on as a value. -/
theorem attempt {ε' : Type} {k : Except ε β → Proc ε' σ α} {m : Proc ε σ β}
    {Q : Except ε' α → τ → Prop} {Q' : Except ε β → τ → Prop} (hm : Spec obs m t Q')
    (hk : ∀ r t', Q' r t' → Spec obs (k r) t' Q) : Spec obs (Proc.attempt m >>= k) t Q := by
  intro s hview hrest
  obtain ⟨hq, hrest'⟩ := hm s hview hrest
  exact hk _ _ hq _ rfl hrest'

end Spec

/-! ## Methods that leave the observed part as it is -/

/-- Whatever `m` does, the observed part stays. -/
def Keeps (obs : Observation σ τ) (m : Proc ε σ α) : Prop := ∀ t, Spec obs m t fun _ t' => t' = t

/-- After a method that leaves the observed part as it is. -/
theorem Spec.after {m : Proc ε σ β} {k : β → Proc ε σ α} {t : τ} {Q : Except ε α → τ → Prop} (hm : Keeps obs m)
    (hk : ∀ b, Spec obs (k b) t Q) (he : ∀ e, Q (.error e) t) : Spec obs (m >>= k) t Q := by
  apply Spec.bind (hm t)
  · rintro b t' rfl
    exact hk b
  · rintro e t' rfl
    exact he e

namespace Keeps

theorem pure (a : α) : Keeps obs (Pure.pure a : Proc ε σ α) := fun _ => Spec.pure rfl

theorem throw (e : ε) : Keeps obs (MonadExcept.throw e : Proc ε σ α) := fun _ => Spec.throw rfl

theorem bind {m : Proc ε σ β} {k : β → Proc ε σ α} (hm : Keeps obs m) (hk : ∀ b, Keeps obs (k b)) :
    Keeps obs (m >>= k) := fun t => Spec.after hm (fun b => hk b t) fun _ => rfl

theorem ite {c : Prop} [Decidable c] {m m' : Proc ε σ α} (hm : Keeps obs m) (hm' : Keeps obs m') :
    Keeps obs (if c then m else m') := by
  split
  · exact hm
  · exact hm'

/-- `if c { return Err(e) }` before the rest. -/
theorem guard {c : Prop} [Decidable c] {e : ε} {k : β → Proc ε σ α} {m : Proc ε σ α} (hm : Keeps obs m) :
    Keeps obs (if c then MonadExcept.throw e >>= k else m) := ite (throw e) hm

theorem orThrow (x : Option α) (e : ε) : Keeps obs (Proc.orThrow x e : Proc ε σ α) := by
  cases x with
  | none => exact throw e
  | some a => exact pure a

theorem attempt {ε' : Type} {m : Proc ε σ α} (hm : Keeps obs m) :
    Keeps obs (Proc.attempt m : Proc ε' σ (Except ε α)) := fun t s hview hrest => hm t s hview hrest

theorem forM {items : List β} {body : β → Proc ε σ PUnit} (h : ∀ b ∈ items, Keeps obs (body b)) :
    Keeps obs (items.forM body) := by
  induction items with
  | nil => exact pure _
  | cons b rest ih =>
    apply bind (h b List.mem_cons_self)
    intro _
    exact ih fun b' hb' => h b' (List.mem_cons_of_mem _ hb')

theorem foldlM {items : List β} {body : α → β → Proc ε σ α} (h : ∀ b ∈ items, ∀ a, Keeps obs (body a b)) (a : α) :
    Keeps obs (items.foldlM body a) := by
  induction items generalizing a with
  | nil => exact pure a
  | cons b rest ih =>
    rw [List.foldlM_cons]
    apply bind (h b List.mem_cons_self a)
    intro a'
    exact ih (fun b' hb' => h b' (List.mem_cons_of_mem _ hb')) a'

end Keeps

/-! ## Methods made of steps -/

/-- Wherever `m` is run, it gets to where it ends by steps of `R`. -/
def Walks (R : σ → σ → Prop) (m : Proc ε σ α) : Prop := ∀ s, Relation.ReflTransGen R s (run m s).2

namespace Walks

variable {R : σ → σ → Prop}

theorem step {m : Proc ε σ α} (h : ∀ s, R s (run m s).2) : Walks R m := fun s => .single (h s)

theorem pure (a : α) : Walks R (Pure.pure a : Proc ε σ α) := fun _ => .refl

theorem bind {m : Proc ε σ β} {k : β → Proc ε σ α} (hm : Walks R m) (hk : ∀ b, Walks R (k b)) :
    Walks R (m >>= k) := by
  intro s
  have hfirst := hm s
  rw [run_bind]
  cases hrun : run m s with
  | mk r s' =>
    rw [hrun] at hfirst
    cases r with
    | error e => exact hfirst
    | ok b => exact hfirst.trans (hk b s')

theorem throw (e : ε) : Walks R (MonadExcept.throw e : Proc ε σ α) := fun _ => .refl

theorem attempt {ε' : Type} {m : Proc ε σ α} (hm : Walks R m) :
    Walks R (Proc.attempt m : Proc ε' σ (Except ε α)) := fun s => hm s

theorem ite {c : Prop} [Decidable c] {m m' : Proc ε σ α} (hm : Walks R m) (hm' : Walks R m') :
    Walks R (if c then m else m') := by
  split
  · exact hm
  · exact hm'

/-- `if c { return Err(e) }` before the rest. -/
theorem guard {c : Prop} [Decidable c] {e : ε} {k : β → Proc ε σ α} {m : Proc ε σ α} (hm : Walks R m) :
    Walks R (if c then MonadExcept.throw e >>= k else m) := ite (throw e) hm

theorem check (x : Except ε α) : Walks R (liftM x : Proc ε σ α) := fun _ => .refl

theorem orThrow (x : Option α) (e : ε) : Walks R (Proc.orThrow x e : Proc ε σ α) := by
  cases x with
  | none => exact throw e
  | some a => exact pure a

theorem forM {items : List β} {body : β → Proc ε σ PUnit} (h : ∀ b, Walks R (body b)) :
    Walks R (items.forM body) := by
  induction items with
  | nil => exact pure _
  | cons b rest ih => exact bind (h b) fun _ => ih

theorem mapM {γ : Type} {items : List β} {body : β → Proc ε σ γ} (h : ∀ b, Walks R (body b)) :
    Walks R (items.mapM body) := by
  induction items with
  | nil => exact pure _
  | cons b rest ih =>
    rw [List.mapM_cons]
    apply bind (h b)
    intro c
    exact bind ih fun cs => pure _

end Walks

/-! ## Methods that run another one in their midst -/

/-- `m` goes by steps of `R`, and runs `inner` at most once on its way. -/
def Around (R : σ → σ → Prop) {ε' : Type} (inner : Proc ε' σ β) (m : Proc ε σ α) : Prop :=
  ∀ s, Relation.ReflTransGen R s (run m s).2 ∨
    ∃ s', Relation.ReflTransGen R s s' ∧ Relation.ReflTransGen R (run inner s').2 (run m s).2

namespace Around

variable {R : σ → σ → Prop} {γ ε' : Type} {inner : Proc ε' σ γ}

theorem walks {m : Proc ε σ α} (h : Walks R m) : Around R inner m := fun s => .inl (h s)

theorem ite {c : Prop} [Decidable c] {m m' : Proc ε σ α} (hm : Around R inner m) (hm' : Around R inner m') :
    Around R inner (if c then m else m') := by
  split
  · exact hm
  · exact hm'

/-- After steps of `R`. -/
theorem after {m : Proc ε σ β} {k : β → Proc ε σ α} (hm : Walks R m) (hk : ∀ b, Around R inner (k b)) :
    Around R inner (m >>= k) := by
  intro s
  have first := hm s
  rw [run_bind]
  cases ran : run m s with
  | mk r s' =>
    rw [ran] at first
    cases r with
    | error e => exact .inl first
    | ok b =>
      rcases hk b s' with steps | ⟨s'', steps, rest⟩
      · exact .inl (first.trans steps)
      · exact .inr ⟨s'', first.trans steps, rest⟩

/-- The method in the midst, and steps of `R` after it. -/
theorem attempt {k : Except ε' γ → Proc ε σ α} (hk : ∀ r, Walks R (k r)) :
    Around R inner (Proc.attempt inner >>= k) := by
  intro s
  right
  refine ⟨s, .refl, ?_⟩
  rw [run_bind, run_attempt]
  exact hk _ _

end Around

/-! ## Outcomes

What a fallible method owes its caller: it got where it is by steps of `R`, under
`A` it leaves everything as it was where it fails, and what it returns satisfies
`P`. -/

/-- A method that moves by `R`, is all or nothing under `A` and returns what
satisfies `P`. -/
structure Yields (A : Prop) (R : τ → τ → Prop) (P : α → τ → Prop) (t : τ) (r : Except ε α) (t' : τ) :
    Prop where
  steps : Relation.ReflTransGen R t t'
  clean : A → ∀ e, r = .error e → t' = t
  value : ∀ a, r = .ok a → P a t'

/-- A method of which the value does not matter. -/
abbrev Outcome (A : Prop) (R : τ → τ → Prop) (t : τ) (r : Except ε α) (t' : τ) : Prop :=
  Yields A R (fun _ _ => True) t r t'

/-- A method that moves by `R`, does not fail under `A` and returns what satisfies
`P`. -/
structure Completes (A : Prop) (R : τ → τ → Prop) (P : α → τ → Prop) (t : τ) (r : Except ε α)
    (t' : τ) : Prop where
  steps : Relation.ReflTransGen R t t'
  total : A → ∃ a, r = .ok a
  value : ∀ a, r = .ok a → P a t'

/-- A method that does not fail under `A`. -/
abbrev Finishes (A : Prop) (R : τ → τ → Prop) (t : τ) (r : Except ε α) (t' : τ) : Prop :=
  Completes A R (fun _ _ => True) t r t'

variable {A : Prop} {R : τ → τ → Prop} {P : α → τ → Prop} {t t' t'' : τ}

namespace Yields

/-- A failure before any write. -/
theorem unchanged {e : ε} : Yields A R P t (.error e) t := ⟨.refl, fun _ _ _ => rfl, nofun⟩

theorem ok {a : α} (h : Relation.ReflTransGen R t t') (ha : P a t') :
    Yields A R P t (.ok a : Except ε α) t' :=
  ⟨h, nofun, fun _ heq => Except.ok.inj heq ▸ ha⟩

/-- A failure after writes: all or nothing only if they wrote nothing. -/
theorem late {e : ε} (h : Relation.ReflTransGen R t t') (hA : A → t' = t) :
    Yields A R P t (.error e) t' := ⟨h, fun ha _ _ => hA ha, nofun⟩

theorem mono {R' : τ → τ → Prop} {r : Except ε α} (h : Yields A R P t r t')
    (hR : ∀ a b, R a b → R' a b) : Yields A R' P t r t' :=
  ⟨Relation.ReflTransGen.mono (fun a b => hR a b) _ _ h.steps, h.clean, h.value⟩

theorem outcome {r : Except ε α} (h : Yields A R P t r t') : Outcome A R t r t' :=
  ⟨h.steps, h.clean, fun _ _ => trivial⟩

end Yields

namespace Completes

theorem ok {a : α} (h : Relation.ReflTransGen R t t') (ha : P a t') :
    Completes A R P t (.ok a : Except ε α) t' :=
  ⟨h, fun _ => ⟨a, rfl⟩, fun _ heq => Except.ok.inj heq ▸ ha⟩

/-- A failure that `A` excludes. -/
theorem excluded {e : ε} (h : Relation.ReflTransGen R t t') (hA : ¬A) :
    Completes A R P t (.error e) t' := ⟨h, fun ha => absurd ha hA, nofun⟩

theorem mono {R' : τ → τ → Prop} {r : Except ε α} (h : Completes A R P t r t')
    (hR : ∀ a b, R a b → R' a b) : Completes A R' P t r t' :=
  ⟨Relation.ReflTransGen.mono (fun a b => hR a b) _ _ h.steps, h.total, h.value⟩

theorem finishes {r : Except ε α} (h : Completes A R P t r t') : Finishes A R t r t' :=
  ⟨h.steps, h.total, fun _ _ => trivial⟩

end Completes

namespace Spec

variable {m : Proc ε σ α} {k : α → Proc ε σ β} {P' : β → τ → Prop}

theorem outcome (hm : Spec obs m t (Yields A R P t)) : Spec obs m t (Outcome A R t) :=
  hm.mono fun _ _ h => h.outcome

theorem finished {a : α} : Spec obs (Pure.pure a : Proc ε σ α) t (Finishes A R t) :=
  pure (.ok .refl trivial)

/-! Before anything is written a check may fail. -/

theorem checked {x : Except ε β} {k : β → Proc ε σ α}
    (hk : ∀ b, x = .ok b → Spec obs (k b) t (Yields A R P t)) :
    Spec obs (liftM x >>= k) t (Yields A R P t) := check hk fun _ _ => .unchanged

theorem required {x : Option β} {e : ε} {k : β → Proc ε σ α}
    (hk : ∀ b, x = some b → Spec obs (k b) t (Yields A R P t)) :
    Spec obs (orThrow x e >>= k) t (Yields A R P t) := require hk fun _ => .unchanged

theorem guarded {c : Prop} [Decidable c] {e : ε} {k : β → Proc ε σ α} {m' : Proc ε σ α}
    (hf : ¬c → Spec obs m' t (Yields A R P t)) :
    Spec obs (if c then MonadExcept.throw e >>= k else m') t (Yields A R P t) :=
  guard (fun _ => .unchanged) hf

theorem failed {e : ε} : Spec obs (MonadExcept.throw e : Proc ε σ α) t (Yields A R P t) :=
  throw .unchanged

/-- Nothing fails after the last write. -/
theorem done {a : α} (h : Relation.ReflTransGen R t t') :
    Spec obs (Pure.pure a : Proc ε σ α) t' (Outcome A R t) := pure (.ok h trivial)

/-- The last write is made and its record returned. -/
theorem yield {a : α} (h : Relation.ReflTransGen R t t') (ha : P a t') :
    Spec obs (Pure.pure a : Proc ε σ α) t' (Yields A R P t) := pure (.ok h ha)

/-- A method that reads and answers. -/
theorem answer {a : α} : Spec obs (Pure.pure a : Proc ε σ α) t (Outcome A R t) := done .refl

/-- After a method that may fail come others, which know what it returned and fail
only where nothing has been written. -/
theorem follow (hm : Spec obs m t (Yields A R P t))
    (hk : ∀ a t', Relation.ReflTransGen R t t' → P a t' → Spec obs (k a) t' (Yields A R P' t)) :
    Spec obs (m >>= k) t (Yields A R P' t) := by
  refine bind hm (fun a t' h => hk a t' h.steps (h.value a rfl)) (fun e t' h => ?_)
  exact ⟨h.steps, fun hA _ _ => h.clean hA e rfl, nofun⟩

/-- What has been written stands, and nothing more fails. -/
theorem conclude (hsteps : Relation.ReflTransGen R t t') (hm : Spec obs m t' (Completes A R P t')) :
    Spec obs m t' (Yields A R P t) := by
  refine hm.mono fun r t'' h => ⟨hsteps.trans h.steps, fun hA e he => ?_, h.value⟩
  obtain ⟨a, ha⟩ := h.total hA
  rw [ha] at he
  cases he

/-- After a method that may fail come writes that do not. -/
theorem complete (hm : Spec obs m t (Yields A R P t))
    (hk : ∀ a t', Relation.ReflTransGen R t t' → P a t' → Spec obs (k a) t' (Completes A R P' t')) :
    Spec obs (m >>= k) t (Yields A R P' t) :=
  follow hm fun a t' hsteps hP => conclude hsteps (hk a t' hsteps hP)

/-- After a method that may fail comes one that does not. -/
theorem finish (hm : Spec obs m t (Outcome A R t))
    (hk : ∀ a t', Relation.ReflTransGen R t t' → Spec obs (k a) t' (Finishes A R t')) :
    Spec obs (m >>= k) t (Outcome A R t) := complete hm fun a t' hsteps _ => hk a t' hsteps

/-- One method that does not fail after another. -/
theorem andThen (hm : Spec obs m t (Completes A R P t))
    (hk : ∀ a t', Relation.ReflTransGen R t t' → P a t' → Spec obs (k a) t' (Completes A R P' t')) :
    Spec obs (m >>= k) t (Completes A R P' t) := by
  refine bind hm (fun a t' h => ?_) (fun e t' h => ?_)
  · refine (hk a t' h.steps (h.value a rfl)).mono fun r t'' h' => ?_
    exact ⟨h.steps.trans h'.steps, h'.total, h'.value⟩
  · refine .excluded h.steps fun hA => ?_
    obtain ⟨b, hb⟩ := h.total hA
    cases hb

/-- One write before a method that does not fail. -/
theorem afterEdit (edit : R t t') (hm : Spec obs m t' (Completes A R P t')) :
    Spec obs m t' (Completes A R P t) :=
  hm.mono fun _ _ h => ⟨.head edit h.steps, h.total, h.value⟩

/-! A check that `A` guarantees does not make a method fail. -/

theorem accepted {x : Except ε β} {k : β → Proc ε σ α} (hA : A → ∃ b, x = .ok b)
    (hk : ∀ b, x = .ok b → Spec obs (k b) t (Completes A R P t)) :
    Spec obs (liftM x >>= k) t (Completes A R P t) := by
  refine check hk fun e he => .excluded .refl fun ha => ?_
  obtain ⟨b, hb⟩ := hA ha
  rw [hb] at he
  cases he

theorem provided {x : Option β} {e : ε} {k : β → Proc ε σ α} (hA : A → ∃ b, x = some b)
    (hk : ∀ b, x = some b → Spec obs (k b) t (Completes A R P t)) :
    Spec obs (orThrow x e >>= k) t (Completes A R P t) := by
  refine require hk fun hnone => .excluded .refl fun ha => ?_
  obtain ⟨b, hb⟩ := hA ha
  rw [hb] at hnone
  cases hnone

theorem allowed {c : Prop} [Decidable c] {e : ε} {k : β → Proc ε σ α} {m' : Proc ε σ α} (hA : A → ¬c)
    (hf : ¬c → Spec obs m' t (Completes A R P t)) :
    Spec obs (if c then MonadExcept.throw e >>= k else m') t (Completes A R P t) :=
  guard (fun hc => .excluded .refl fun ha => hA ha hc) hf

/-- A loop of methods that do not fail. -/
theorem forM_finishes {items : List β} {body : β → Proc ε σ PUnit}
    (hbody : ∀ b ∈ items, ∀ t', Relation.ReflTransGen R t t' → Spec obs (body b) t' (Finishes A R t')) :
    Spec obs (items.forM body) t (Finishes A R t) := by
  induction items generalizing t with
  | nil => exact finished
  | cons b rest ih =>
    refine andThen (hbody b List.mem_cons_self t .refl) fun _ t' hsteps _ => ih fun b' hb' t'' hsteps' => ?_
    exact hbody b' (List.mem_cons_of_mem _ hb') t'' (hsteps.trans hsteps')

/-- A loop that collects what methods that do not fail return. -/
theorem mapM_finishes {γ : Type} {items : List β} {body : β → Proc ε σ γ}
    (hbody : ∀ b ∈ items, ∀ t', Relation.ReflTransGen R t t' → Spec obs (body b) t' (Finishes A R t')) :
    Spec obs (items.mapM body) t (Finishes A R t) := by
  induction items generalizing t with
  | nil => exact finished
  | cons b rest ih =>
    rw [List.mapM_cons]
    refine andThen (hbody b List.mem_cons_self t .refl) fun _ t' hsteps _ => ?_
    refine andThen (ih fun b' hb' t'' hsteps' => ?_) fun _ _ _ _ => finished
    exact hbody b' (List.mem_cons_of_mem _ hb') t'' (hsteps.trans hsteps')

end Spec

/-! ## Methods that move from anywhere -/

/-- Wherever `m` starts, it gets where it ends by steps of `R`. -/
def Moves (obs : Observation σ τ) (R : τ → τ → Prop) (m : Proc ε σ α) : Prop := ∀ t, Spec obs m t (Outcome False R t)

namespace Moves

variable {m m' : Proc ε σ α} {k : β → Proc ε σ α}

/-- Behind other steps. -/
theorem behind (steps : Relation.ReflTransGen R t t') (h : Spec obs m t' (Outcome False R t')) :
    Spec obs m t' (Outcome False R t) :=
  h.mono fun _ _ h' => ⟨steps.trans h'.steps, False.elim, fun _ _ => trivial⟩

/-- Steps, and what follows them. -/
theorem follow {m : Proc ε σ β} (hm : Spec obs m t' (Outcome False R t)) (hk : ∀ b, Moves obs R (k b)) :
    Spec obs (m >>= k) t' (Outcome False R t) := by
  refine Spec.bind hm (fun b t'' h => behind h.steps (hk b t'')) fun e t'' h => ?_
  exact ⟨h.steps, False.elim, fun _ _ => trivial⟩

theorem pure (a : α) : Moves obs R (Pure.pure a : Proc ε σ α) := fun _ => Spec.answer

theorem throw (e : ε) : Moves obs R (MonadExcept.throw e : Proc ε σ α) := fun _ => Spec.failed

theorem bind {m : Proc ε σ β} (hm : Moves obs R m) (hk : ∀ b, Moves obs R (k b)) : Moves obs R (m >>= k) :=
  fun t => follow (hm t) hk

theorem ite {c : Prop} [Decidable c] (hm : c → Moves obs R m) (hm' : ¬c → Moves obs R m') :
    Moves obs R (if c then m else m') := by
  split
  · exact hm ‹_›
  · exact hm' ‹_›

/-- `if c { return Err(e) }` before the rest. -/
theorem guard {c : Prop} [Decidable c] {e : ε} (hm : ¬c → Moves obs R m) :
    Moves obs R (if c then MonadExcept.throw e >>= k else m) := fun t => Spec.guarded fun h => hm h t

theorem checked {x : Except ε β} (hk : ∀ b, x = .ok b → Moves obs R (k b)) : Moves obs R (liftM x >>= k) :=
  fun t => Spec.checked fun b h => hk b h t

theorem required {x : Option β} {e : ε} (hk : ∀ b, x = some b → Moves obs R (k b)) : Moves obs R (Proc.orThrow x e >>= k) :=
  fun t => Spec.required fun b h => hk b h t

theorem orThrow (x : Option α) (e : ε) : Moves obs R (Proc.orThrow x e : Proc ε σ α) := by
  rw [← bind_pure (Proc.orThrow x e)]
  exact .required fun b _ => .pure b

theorem forM {items : List β} {body : β → Proc ε σ PUnit} (h : ∀ b ∈ items, Moves obs R (body b)) :
    Moves obs R (items.forM body) := by
  induction items with
  | nil => exact .pure _
  | cons b rest ih => exact .bind (h b List.mem_cons_self) fun _ => ih fun b' mem => h b' (List.mem_cons_of_mem _ mem)

end Moves

/-! ## Methods that return

What holds where a method has returned; of one that fails nothing is said. -/

/-- Where the method has returned, `P` holds of its value and of the state behind it. -/
def Returns (P : α → τ → Prop) (r : Except ε α) (t : τ) : Prop := ∀ a, r = .ok a → P a t

namespace Returns

variable {m m' : Proc ε σ α} {k : β → Proc ε σ α} {P : α → τ → Prop} {P' : β → τ → Prop}

theorem pure {a : α} (h : P a t) : Spec obs (Pure.pure a : Proc ε σ α) t (Returns P) :=
  Spec.pure fun _ same => Except.ok.inj same ▸ h

theorem throw {e : ε} : Spec obs (MonadExcept.throw e : Proc ε σ α) t (Returns P) := Spec.throw fun _ => nofun

theorem bind {m : Proc ε σ β} (hm : Spec obs m t (Returns P')) (hk : ∀ b t', P' b t' → Spec obs (k b) t' (Returns P)) :
    Spec obs (m >>= k) t (Returns P) :=
  Spec.bind hm (fun b t' h => hk b t' (h b rfl)) fun _ _ _ _ => nofun

theorem checked {x : Except ε β} (hk : ∀ b, x = .ok b → Spec obs (k b) t (Returns P)) :
    Spec obs (liftM x >>= k) t (Returns P) := Spec.check hk fun _ _ _ => nofun

theorem required {x : Option β} {e : ε} (hk : ∀ b, x = some b → Spec obs (k b) t (Returns P)) :
    Spec obs (Proc.orThrow x e >>= k) t (Returns P) := Spec.require hk fun _ _ => nofun

theorem orThrow {x : Option α} {e : ε} (h : ∀ a, x = some a → P a t) :
    Spec obs (Proc.orThrow x e : Proc ε σ α) t (Returns P) := by
  rw [← bind_pure (Proc.orThrow x e)]
  exact required fun a given => pure (h a given)

/-- `if c { return Err(e) }` before the rest. -/
theorem guard {c : Prop} [Decidable c] {e : ε} (hm : ¬c → Spec obs m t (Returns P)) :
    Spec obs (if c then MonadExcept.throw e >>= k else m) t (Returns P) := Spec.guard (fun _ _ => nofun) hm

/-- A loop, by what holds with so many items to come. -/
theorem forM {items : List β} {body : β → Proc ε σ PUnit} {Inv : List β → τ → Prop} (start : Inv items t)
    (each : ∀ b rest t, Inv (b :: rest) t → Spec obs (body b) t (Returns fun _ => Inv rest)) :
    Spec obs (items.forM body) t (Returns fun _ => Inv []) := by
  induction items generalizing t with
  | nil => exact pure start
  | cons b rest ih => exact bind (each b rest t start) fun _ _ next => ih next

end Returns

end Proc
end TelemetryHub.Lib
