import TelemetryHub.Server.Logic
import TelemetryHub.Server.Worker

/-!
# One message, watched

What the worker does is told message by message. Watched are the rows of a message,
the calls made for it and what its routing rests on; what the worker does to other
messages leaves all of it alone.
-/

namespace TelemetryHub

open Lib ServerM

/-! ## What is watched -/

/-- What the routing of a message and its dispatch rest on. -/
structure Routing where
  subscribers : Dict String TopicSubscriber
  clients : Dict String RosterClient
  identityStates : Dict String IdentityStateRecord
  outboundIdentityAllowlist : Option (HSet String)
  announces : List IdentityAnnounceRecord
  dataPlane : DataPlaneSetting

/-- The part of the state a message is routed by. -/
def AppState.routing (s : AppState) : Routing where
  subscribers := s.subscribers
  clients := s.clients
  identityStates := s.identityStates
  outboundIdentityAllowlist := s.outboundIdentityAllowlist
  announces := s.loadIdentityAnnounces
  dataPlane := s.dataPlane

/-- What is watched of a message; the ids are those of all messages in the list. -/
structure Account where
  rows : List OutboundMessageRecord
  calls : List Sending
  routing : Routing
  locked : Bool
  ids : List String

/-- The account of a message. -/
def ServerWorld.account (messageId : String) (w : ServerWorld) : Account where
  rows := w.state.messages.filter (·.messageId == messageId)
  calls := w.sent.filter (·.messageId == messageId)
  routing := w.state.routing
  locked := w.state.persistenceLocked
  ids := w.state.messages.map (·.messageId)

/-- The clock reads what fits into an `i64`. -/
def ServerWorld.Timely (w : ServerWorld) : Prop := ∀ n, inI64 (w.clock n).timestampMillis = true

/-- What is known of the clock and of the answers still to come. -/
structure ServerWorld.Runs (planes : DataPlane → Prop) (w : ServerWorld) : Prop where
  timely : w.Timely
  planes : ∀ n, planes (w.answers n)

/-- The same, readings of the clock later. -/
theorem ServerWorld.Runs.later {planes : DataPlane → Prop} {w : ServerWorld} (h : w.Runs planes) (n : Nat) :
    ServerWorld.Runs planes { w with clock := fun k => w.clock (k + n) } :=
  ⟨fun k => h.timely (k + n), h.planes⟩

/-- A world seen as the account of a message, its data plane one of `planes` at every
call. -/
def watching (planes : DataPlane → Prop) (messageId : String) : Proc.Observation ServerWorld Account where
  view := ServerWorld.account messageId
  rest := ServerWorld.Runs planes

/-- A handler that leaves the account of a message as it is. -/
abbrev Leaves (planes : DataPlane → Prop) (messageId : String) {α : Type} (m : ServerM α) : Prop := Proc.Keeps (watching planes messageId) m

/-- A handler that leaves the account as it is and fails only where the database is
locked. -/
def Passes (planes : DataPlane → Prop) (messageId : String) {α : Type} (m : ServerM α) : Prop :=
  ∀ t, Proc.Spec (watching planes messageId) m t fun r t' => t' = t ∧ (t.locked = false → ∃ a, r = .ok a)

/-- A handler that reads the state and the clock and writes nothing. -/
def Looks {α : Type} (m : ServerM α) : Prop :=
  ∀ w, ∃ a n, m.run w = (.ok a, { w with clock := fun k => w.clock (k + n) })

variable {α β : Type} {planes : DataPlane → Prop} {messageId : String} {t : Account}

/-- The state, read. -/
theorem watch_read {k : AppState → ServerM α} {Q : Except ApiError α → Account → Prop}
    (h : ∀ w : ServerWorld, w.account messageId = t → Proc.Spec (watching planes messageId) (k w.state) t Q) :
    Proc.Spec (watching planes messageId) (ServerM.state >>= k) t Q := by
  intro w hview hrest
  exact h w hview w hview hrest

/-- The clock, read. -/
theorem watch_now {k : Int → ServerM α} {Q : Except ApiError α → Account → Prop}
    (h : ∀ tsMs, inI64 tsMs = true → Proc.Spec (watching planes messageId) (k tsMs) t Q) :
    Proc.Spec (watching planes messageId) (unixNowMs >>= k) t Q := by
  intro w hview hrest
  exact h _ (hrest.timely 0) { w with clock := fun n => w.clock (n + 1) } hview (hrest.later 1)

/-! ## Looking -/

namespace Looks

theorem pure (a : α) : Looks (Pure.pure a : ServerM α) := fun _ => ⟨a, 0, rfl⟩

theorem state : Looks ServerM.state := fun _ => ⟨_, 0, rfl⟩

theorem now : Looks unixNowMs := fun _ => ⟨_, 1, rfl⟩

theorem bind {m : ServerM β} {k : β → ServerM α} (hm : Looks m) (hk : ∀ b, Looks (k b)) : Looks (m >>= k) := by
  intro w
  obtain ⟨b, n, hb⟩ := hm w
  obtain ⟨a, n', ha⟩ := hk b { w with clock := fun k => w.clock (k + n) }
  refine ⟨a, n' + n, ?_⟩
  rw [Proc.run_bind, hb]
  show (k b).run _ = _
  rw [ha]
  simp only [Nat.add_assoc]

theorem ite {c : Prop} [Decidable c] {m m' : ServerM α} (hm : Looks m) (hm' : Looks m') :
    Looks (if c then m else m') := by
  split
  · exact hm
  · exact hm'

theorem filterM {items : List β} {body : β → ServerM Bool} (h : ∀ b, Looks (body b)) :
    Looks (items.filterM body) := by
  have haux : ∀ acc, Looks (List.filterAuxM body items acc) := by
    induction items with
    | nil =>
      intro acc
      exact pure acc
    | cons b rest ih =>
      intro acc
      apply bind (h b)
      intro keep
      exact ih _
  apply bind (haux [])
  intro kept
  exact pure _

/-- What looks leaves every account as it is. -/
theorem spec {m : ServerM α} (h : Looks m) (t : Account) :
    Proc.Spec (watching planes messageId) m t fun r t' =>
      t' = t ∧ ∃ a, r = .ok a ∧ ∃ w, w.account messageId = t ∧ (m.run w).1 = .ok a := by
  rintro w rfl hrest
  obtain ⟨a, n, hrun⟩ := h w
  rw [hrun]
  exact ⟨⟨rfl, a, rfl, w, rfl, by rw [hrun]⟩, hrest.later n⟩

end Looks

section Routes

variable [ServerHost]

theorem looks_broadcastOutboundClientRecords : Looks broadcastOutboundClientRecords := by
  apply Looks.bind Looks.now
  intro now
  apply Looks.bind Looks.state
  intro s
  apply Looks.filterM
  intro client
  apply Looks.ite (Looks.pure _)
  apply Looks.ite (Looks.pure _)
  apply Looks.bind Looks.state
  intro s
  apply Looks.ite (Looks.pure _)
  apply Looks.bind Looks.now
  intro nowTsMs
  apply Looks.bind Looks.state
  intro s
  exact Looks.pure _

theorem looks_outboundDestinations (message : OutboundMessageRecord) : Looks (outboundDestinations message) := by
  have hroutes : Looks (outboundRoutes message) := by
    unfold outboundRoutes
    split
    · apply Looks.bind Looks.state
      intro s
      exact Looks.pure _
    · apply Looks.bind Looks.state
      intro s
      exact Looks.pure _
    · apply Looks.bind Looks.state
      intro s
      exact Looks.pure _
    · apply Looks.bind looks_broadcastOutboundClientRecords
      intro clients
      apply Looks.bind Looks.state
      intro s
      exact Looks.pure _
  apply Looks.bind hroutes
  intro routes
  split
  · exact Looks.pure _
  · exact Looks.pure _

end Routes

/-! ## Passing -/

namespace Passes

theorem leaves {m : ServerM α} (h : Passes planes messageId m) : Leaves planes messageId m :=
  fun t => (h t).mono fun _ _ h => h.1

theorem whenever {m : ServerM α} (P : Prop) (h : Passes planes messageId m) (t : Account) :
    Proc.Spec (watching planes messageId) m t fun r t' => t' = t ∧ (t.locked = false → P → ∃ a, r = .ok a) :=
  (h t).mono fun _ _ h => ⟨h.1, fun hunlocked _ => h.2 hunlocked⟩

theorem pure (a : α) : Passes planes messageId (Pure.pure a : ServerM α) := fun _ => Proc.Spec.pure ⟨rfl, fun _ => ⟨a, rfl⟩⟩

theorem bind {m : ServerM β} {k : β → ServerM α} (hm : Passes planes messageId m) (hk : ∀ b, Passes planes messageId (k b)) :
    Passes planes messageId (m >>= k) := by
  intro t
  apply Proc.Spec.bind (hm t)
  · rintro b t' ⟨rfl, -⟩
    exact hk b _
  · rintro e t' ⟨rfl, hok⟩
    refine ⟨rfl, ?_⟩
    intro hlocked
    obtain ⟨b, hb⟩ := hok hlocked
    cases hb

theorem looks {m : ServerM α} (h : Looks m) : Passes planes messageId m := by
  intro t
  apply (h.spec t).mono
  rintro r t' ⟨rfl, a, ha, -⟩
  exact ⟨rfl, fun _ => ⟨a, ha⟩⟩

theorem ite {c : Prop} [Decidable c] {m m' : ServerM α} (hm : Passes planes messageId m) (hm' : Passes planes messageId m') :
    Passes planes messageId (if c then m else m') := by
  split
  · exact hm
  · exact hm'

theorem attempt {m : ServerM α} (h : Leaves planes messageId m) :
    Passes planes messageId (Proc.attempt m : ServerM (Except ApiError α)) := by
  intro t w hview hrest
  obtain ⟨hview', hrest'⟩ := h t w hview hrest
  exact ⟨⟨hview', fun _ => ⟨_, rfl⟩⟩, hrest'⟩

theorem draw : Passes planes messageId newEventId := by
  intro t w hview hrest
  exact ⟨⟨hview, fun _ => ⟨_, rfl⟩⟩, hrest.timely, hrest.planes⟩

theorem update {f : AppState → AppState}
    (hrows : ∀ s, (f s).messages.filter (·.messageId == messageId) = s.messages.filter (·.messageId == messageId))
    (hrouting : ∀ s, (f s).routing = s.routing) (hlocked : ∀ s, (f s).persistenceLocked = s.persistenceLocked)
    (hids : ∀ s, (f s).messages.map (·.messageId) = s.messages.map (·.messageId)) :
    Passes planes messageId (ServerM.update f) := by
  rintro t w rfl hrest
  refine ⟨⟨?_, fun _ => ⟨_, rfl⟩⟩, hrest.timely, hrest.planes⟩
  show (⟨_, _, _, _, _⟩ : Account) = ⟨_, _, _, _, _⟩
  congr 1
  · exact hrows w.state
  · exact hrouting w.state
  · exact hlocked w.state
  · exact hids w.state

theorem ensureKillSwitchPersistenceUnlocked : Passes planes messageId ensureKillSwitchPersistenceUnlocked := by
  intro t
  apply watch_read
  rintro w rfl
  by_cases hlocked : w.state.persistenceLocked = true
  · simp only [hlocked, if_true]
    exact Proc.Spec.throw ⟨rfl, fun h => absurd (hlocked.symm.trans h) (by simp)⟩
  · simp only [hlocked, Bool.false_eq_true, if_false]
    exact Proc.Spec.pure ⟨rfl, fun _ => ⟨_, rfl⟩⟩

/-- A write to the database that leaves the announces as they are. -/
theorem withCoreStoreWrite {operation : SqliteStore → SqliteStore}
    (h : ∀ store, (operation store).identityAnnounces = store.identityAnnounces) :
    Passes planes messageId (withCoreStoreWrite operation) := by
  apply bind ensureKillSwitchPersistenceUnlocked
  intro _
  apply update
  · intro s
    rfl
  · intro s
    have hannounces : (s.sqlite.map operation).map SqliteStore.loadIdentityAnnounces =
        s.sqlite.map SqliteStore.loadIdentityAnnounces := by
      cases s.sqlite with
      | none => rfl
      | some store => simp [SqliteStore.loadIdentityAnnounces, h]
    simp only [AppState.routing, AppState.loadIdentityAnnounces, hannounces]
  · intro s
    rfl
  · intro s
    rfl

theorem persistOutboundMessageRow (message : OutboundMessageRecord) :
    Passes planes messageId (persistOutboundMessageRow message) := withCoreStoreWrite fun _ => rfl

theorem recordSystemEvent (eventType message : String) (metadata : Value) :
    Passes planes messageId (recordSystemEvent eventType message metadata) := by
  have hpush : ∀ event, Passes planes messageId (ServerM.update fun s => { s with
      systemEvents := pushSystemEvent s.systemEvents event }) := by
    intro event
    apply update
    · intro s
      dsimp only
    · intro s
      simp only [AppState.routing, AppState.loadIdentityAnnounces]
    · intro s
      dsimp only
    · intro s
      dsimp only
  have hpersist : ∀ event, Passes planes messageId (persistSystemEventRow event) := by
    intro event
    apply withCoreStoreWrite
    intro store
    simp only [SqliteStore.upsertSystemEvent]
  exact bind draw fun eventId => bind (looks Looks.now) fun timestampMs => bind (hpush _) fun _ =>
    bind (hpersist _) fun _ => pure _

theorem persisted (message : Option OutboundMessageRecord) : Passes planes messageId (persisted message) := by
  cases message with
  | none => exact pure _
  | some message =>
    apply bind (persistOutboundMessageRow message)
    intro _
    exact pure _

end Passes

/-! ## Rewriting a message -/

/-- A rewrite of a message that keeps its id. -/
def KeepsId (f : OutboundMessageRecord → OutboundMessageRecord) : Prop := ∀ message, (f message).messageId = message.messageId

/-- The first message that matches is rewritten, all matches being of another id. -/
theorem passes_rewriteFirst {matching : OutboundMessageRecord → Bool}
    {f : OutboundMessageRecord → OutboundMessageRecord} (hf : KeepsId f)
    (hid : ∀ message, matching message = true → message.messageId ≠ messageId) :
    Passes planes messageId (update fun s => { s with messages := replaceFirst matching f s.messages }) := by
  apply Passes.update
  · intro s
    apply filter_replaceFirst_of_disjoint
    intro message h
    simp [hf message, hid message h]
  · intro s
    rfl
  · intro s
    rfl
  · intro s
    exact map_replaceFirst hf

/-- Another message is rewritten. -/
theorem passes_withMessage_other {other : String} (hne : other ≠ messageId)
    {f : OutboundMessageRecord → OutboundMessageRecord} (hf : KeepsId f) : Passes planes messageId (withMessage other f) := by
  apply Passes.bind (Passes.looks Looks.state)
  intro s
  apply Passes.bind
  · apply passes_rewriteFirst hf
    intro message hother
    rw [beq_iff_eq.1 hother]
    exact hne
  · intro _
    exact Passes.pure _

/-- The watched message is rewritten. -/
theorem watch_withMessage {row : OutboundMessageRecord} {calls : List Sending} {routing : Routing} {locked : Bool}
    {ids : List String} {f : OutboundMessageRecord → OutboundMessageRecord} (hf : KeepsId f) :
    Proc.Spec (watching planes messageId) (withMessage messageId f) ⟨[row], calls, routing, locked, ids⟩ fun r t' =>
      t' = ⟨[f row], calls, routing, locked, ids⟩ ∧ r = .ok (some (f row)) := by
  intro w hview hrest
  have hrows : w.state.messages.filter (·.messageId == messageId) = [row] := congrArg Account.rows hview
  have hid : (row.messageId == messageId) = true := by
    have hin : row ∈ w.state.messages.filter (·.messageId == messageId) := by simp [hrows]
    exact (List.mem_filter.1 hin).2
  have hfound : w.state.messages.find? (·.messageId == messageId) = some row := by
    rw [← List.head?_filter, hrows, List.head?_cons]
  have hwritten : (replaceFirst (·.messageId == messageId) f w.state.messages).filter (·.messageId == messageId) =
      [f row] := by
    rw [filter_replaceFirst fun message h => ⟨h, by rw [hf message]; exact h⟩, hrows, replaceFirst, if_pos hid]
  refine ⟨⟨?_, ?_⟩, hrest.timely, hrest.planes⟩
  · show (⟨_, _, _, _, _⟩ : Account) = _
    have hview' := Account.mk.injEq _ _ _ _ _ _ _ _ _ _ |>.mp hview
    obtain ⟨-, hcalls, hrouting, hlocked, hids⟩ := hview'
    congr 1
    exact (map_replaceFirst hf).trans hids
  · show Except.ok _ = _
    rw [hfound]
    rfl

end TelemetryHub
