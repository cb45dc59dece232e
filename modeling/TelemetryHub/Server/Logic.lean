import TelemetryHub.Core.Logic
import TelemetryHub.Server.State

/-!
# Specifications of handlers

A handler is specified by what it does to a view of the state, whatever the clock
reads and whatever UUIDs are drawn.
-/

namespace TelemetryHub

open Lib ServerM

/-- A world seen through a view of its state. -/
def seenAs {τ : Type} (view : AppState → τ) : Proc.Observation ServerWorld τ where
  view w := view w.state
  rest _ := True

namespace ServerM

variable {α β τ : Type} {view : AppState → τ} {t t' : τ}

/-- Every run of `m` on a state seen as `t` ends as `Q` says. -/
abbrev Spec (view : AppState → τ) (m : ServerM α) (t : τ) (Q : Except ApiError α → τ → Prop) : Prop :=
  Proc.Spec (seenAs view) m t Q

/-- A handler that leaves the view as it is. -/
def Keeps (view : AppState → τ) (m : ServerM α) : Prop := ∀ t, Spec view m t fun _ t' => t' = t

theorem run_state_bind (k : AppState → ServerM α) (w : ServerWorld) :
    (state >>= k).run w = (k w.state).run w := rfl

theorem run_unixNowMs_bind (k : Int → ServerM α) (w : ServerWorld) :
    (unixNowMs >>= k).run w = (k (w.clock 0).timestampMillis).run { w with clock := fun n => w.clock (n + 1) } := rfl

namespace Spec

variable {Q : Except ApiError α → τ → Prop}

theorem read {k : AppState → ServerM α} (h : ∀ s, view s = t → Spec view (k s) t Q) :
    Spec view (state >>= k) t Q := by
  intro w hview hrest
  exact h w.state hview w hview hrest

theorem write {f : AppState → AppState} {k : Unit → ServerM α} (hf : ∀ s, view s = t → view (f s) = t')
    (h : Spec view (k ()) t' Q) : Spec view (update f >>= k) t Q := by
  intro w hview hrest
  exact h { w with state := f w.state } (hf w.state hview) hrest

theorem lastWrite {f : AppState → AppState} {Q : Except ApiError Unit → τ → Prop}
    (hf : ∀ s, view s = t → view (f s) = t') (h : Q (.ok ()) t') : Spec view (update f) t Q := by
  intro w hview hrest
  refine ⟨?_, hrest⟩
  show Q (.ok ()) (view (f w.state))
  rw [hf w.state hview]
  exact h

theorem now {k : Int → ServerM α} (h : ∀ tsMs, Spec view (k tsMs) t Q) :
    Spec view (unixNowMs >>= k) t Q := by
  intro w hview hrest
  exact h _ { w with clock := fun n => w.clock (n + 1) } hview hrest

theorem draw {k : String → ServerM α} (h : ∀ eventId, Spec view (k eventId) t Q) :
    Spec view (newEventId >>= k) t Q := by
  intro w hview hrest
  exact h _ { w with draws := fun n => w.draws (n + 1) } hview hrest

/-- A method of a core the handler holds. -/
theorem onCore {core : RchCore} {m : CoreM β} {k : Except RchCoreError β × RchCore → ServerM α}
    {R : Except RchCoreError β → RchCore → Prop} (hm : CoreM.Spec (fun _ => True) m core R)
    (hk : ∀ r core', R r core' → Spec view (k (r, core')) t Q) : Spec view (onCore core m >>= k) t Q := by
  intro w hview hrest
  obtain ⟨hR, -⟩ := hm ⟨core, w.clock, w.draws⟩ rfl fun _ => trivial
  exact hk _ _ hR
    { w with
      clock := (m.run ⟨core, w.clock, w.draws⟩).2.clock
      draws := (m.run ⟨core, w.clock, w.draws⟩).2.draws } hview hrest

/-- After a handler that leaves the view as it is. -/
theorem after {m : ServerM β} {k : β → ServerM α} (hm : Keeps view m) (hk : ∀ b, Spec view (k b) t Q)
    (he : ∀ e, Q (.error e) t) : Spec view (m >>= k) t Q := Proc.Spec.after hm hk he

/-- Before the handler returns: its last call decides how the view ends. -/
theorem before {m : ServerM β} {R : τ → Prop} {a : α} (hm : Spec view m t fun _ => R) :
    Spec view (m >>= fun _ => pure a) t fun _ => R :=
  Proc.Spec.bind hm (fun _ _ ht => Proc.Spec.pure ht) fun _ _ ht => ht

end Spec

namespace Keeps

theorem pure (a : α) : Keeps view (Pure.pure a : ServerM α) := Proc.Keeps.pure a

theorem throw (e : ApiError) : Keeps view (MonadExcept.throw e : ServerM α) := Proc.Keeps.throw e

theorem bind {m : ServerM β} {k : β → ServerM α} (hm : Keeps view m) (hk : ∀ b, Keeps view (k b)) :
    Keeps view (m >>= k) := Proc.Keeps.bind hm hk

theorem state : Keeps view ServerM.state := fun _ _ hview _ => ⟨hview, trivial⟩

theorem now : Keeps view unixNowMs := fun _ _ hview _ => ⟨hview, trivial⟩

theorem draw : Keeps view newEventId := fun _ _ hview _ => ⟨hview, trivial⟩

theorem update {f : AppState → AppState} (h : ∀ s, view (f s) = view s) : Keeps view (ServerM.update f) :=
  fun _ => Spec.lastWrite (fun s hs => (h s).trans hs) rfl

theorem ite {c : Prop} [Decidable c] {m m' : ServerM α} (hm : Keeps view m) (hm' : Keeps view m') :
    Keeps view (if c then m else m') := Proc.Keeps.ite hm hm'

theorem forM {items : List β} {body : β → ServerM PUnit} (h : ∀ b ∈ items, Keeps view (body b)) :
    Keeps view (items.forM body) := Proc.Keeps.forM h

theorem orThrow (x : Option α) (e : ApiError) : Keeps view (Proc.orThrow x e : ServerM α) :=
  Proc.Keeps.orThrow x e

end Keeps

/-- A handler that leaves the view as it is and does not fail. -/
def Reads (view : AppState → τ) (m : ServerM α) : Prop :=
  ∀ t, Spec view m t fun r t' => t' = t ∧ ∃ a, r = .ok a

namespace Reads

theorem pure (a : α) : Reads view (Pure.pure a : ServerM α) := fun _ => Proc.Spec.pure ⟨rfl, a, rfl⟩

theorem bind {m : ServerM β} {k : β → ServerM α} (hm : Reads view m) (hk : ∀ b, Reads view (k b)) :
    Reads view (m >>= k) := by
  intro t
  apply Proc.Spec.bind (hm t)
  · rintro b t' ⟨rfl, -⟩
    exact hk b _
  · rintro e t' ⟨-, b, hb⟩
    cases hb

theorem state : Reads view ServerM.state := fun _ _ hview _ => ⟨⟨hview, _, rfl⟩, trivial⟩

theorem now : Reads view unixNowMs := fun _ _ hview _ => ⟨⟨hview, _, rfl⟩, trivial⟩

theorem ite {c : Prop} [Decidable c] {m m' : ServerM α} (hm : Reads view m) (hm' : Reads view m') :
    Reads view (if c then m else m') := by
  split
  · exact hm
  · exact hm'

theorem filterM {items : List β} {body : β → ServerM Bool} (h : ∀ b, Reads view (body b)) :
    Reads view (items.filterM body) := by
  have haux : ∀ acc, Reads view (List.filterAuxM body items acc) := by
    induction items with
    | nil =>
      intro acc
      exact pure acc
    | cons b rest ih =>
      intro acc
      apply bind (h b)
      intro keep
      exact ih _
  apply bind (haux [])
  intro kept
  exact pure _

end Reads

/-- The view does not look at the database. -/
def BlindToStore (view : AppState → τ) : Prop := ∀ s store, view { s with sqlite := store } = view s

/-- The view does not look at the event list either. -/
def BlindToEvents (view : AppState → τ) : Prop := ∀ s events, view { s with systemEvents := events } = view s

theorem Keeps.ensureKillSwitchPersistenceUnlocked : Keeps view ensureKillSwitchPersistenceUnlocked :=
  .bind .state fun s => by
    by_cases hlocked : s.persistenceLocked = true
    · simp only [hlocked, if_true]
      exact .bind (.throw _) fun _ => .pure _
    · simp only [hlocked, Bool.false_eq_true, if_false]
      exact .pure _

theorem Keeps.withCoreStoreWrite (h : BlindToStore view) (operation : SqliteStore → SqliteStore) :
    Keeps view (withCoreStoreWrite operation) :=
  .bind .ensureKillSwitchPersistenceUnlocked fun _ => .update fun s => h s _

theorem Keeps.persistOutboundMessageRow (h : BlindToStore view) (message : OutboundMessageRecord) :
    Keeps view (persistOutboundMessageRow message) := .withCoreStoreWrite h _

theorem Keeps.recordSystemEvent (h : BlindToStore view) (h' : BlindToEvents view) (eventType message : String)
    (metadata : Value) : Keeps view (recordSystemEvent eventType message metadata) :=
  .bind .draw fun _ => .bind .now fun _ => .bind (.update fun s => h' s _) fun _ =>
    .bind (.withCoreStoreWrite h _) fun _ => .pure _

theorem messages_blindToStore : BlindToStore AppState.messages := fun _ _ => rfl

theorem messages_blindToEvents : BlindToEvents AppState.messages := fun _ _ => rfl

end ServerM
end TelemetryHub
