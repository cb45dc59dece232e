import Mathlib.Data.List.Nodup
import TelemetryHub.Transport.DataPlaneDepths

/-!
# What the data plane promises its clients

The invariants hold at the end of every run, whoever comes in between. From them: what becomes
of a request that was accepted, how long a control request waits, and what the depths say.
-/

namespace TelemetryHub
namespace ZmqDataPlane

variable {s s' : ZmqDataPlane}

/-! ## Every run -/

/-- All a run keeps. -/
structure PlaneKept (s : ZmqDataPlane) : Prop where
  phase : s.PhaseKept
  lanes : s.LanesKept
  tickets : s.TicketsKept
  told : s.Told
  burst : s.BurstKept
  session : s.SessionKnown
  depths : s.DepthKept

theorem PlaneStep.sessionKnown (move : PlaneStep s s') (known : s.SessionKnown) : s'.SessionKnown := by
  cases move with
  | acts next acts => cases acts with
    | answers r recorded answered answers still => exact still known
    | _ => exact { known with }
  | _ => exact { known with }

theorem PlaneStep.kept (move : PlaneStep s s') (kept : s.PlaneKept) : s'.PlaneKept where
  phase := move.phaseKept kept.phase
  lanes := move.lanesKept kept.phase kept.lanes
  tickets := move.ticketsKept kept.tickets
  told := move.told kept.told
  burst := move.burstKept kept.phase kept.burst
  session := move.sessionKnown kept.session
  depths := move.depthKept kept.phase kept.lanes kept.depths

theorem new_kept : ({} : ZmqDataPlane).PlaneKept where
  phase := by constructor <;> simp
  lanes := by constructor <;> simp
  tickets := by constructor <;> simp [made]
  told := fun ticket => by simp [held]
  burst := by constructor <;> simp
  session := by constructor <;> simp
  depths := {
    depth := by constructor <;> simp [depthDue]
    lane_depth := fun lane => by constructor <;> simp [laneDepthDue]
    clients_counted := by simp
    queue_counted := by simp
    held_counted := by simp [held] }

theorem steps_kept (kept : s.PlaneKept) (moves : List DataPlaneMove) : (moves.foldl step s).PlaneKept := by
  induction moves generalizing s with
  | nil => exact kept
  | cons move moves ih => exact ih ((step_cases move).kept kept)

theorem run_kept (moves : List DataPlaneMove) : (run moves).PlaneKept := steps_kept new_kept moves

/-! ## A request that was accepted -/

/-- A request got one response. -/
def AnsweredOnce (s : ZmqDataPlane) (r : ActorRequest) : Prop := s.responses.count r.ticket = 1 ∧ r.ticket ∉ s.expired

/-- A request expired, and got no response. -/
def ExpiredOnce (s : ZmqDataPlane) (r : ActorRequest) : Prop := r.ticket ∈ s.expired ∧ r.ticket ∉ s.responses

/-- A request is on its way, or one thing has become of it. -/
inductive Fate (s : ZmqDataPlane) (r : ActorRequest) : Prop where
  | queued (queued : r ∈ s.queue r.lane)
  | held (held : s.held.map ActorRequest.ticket = some r.ticket)
  | answered (answered : s.AnsweredOnce r)
  | expired (expired : s.ExpiredOnce r)
  | left (left : r ∈ s.left) (down : s.shutDown = true)

theorem taken_subperm (kept : s.LanesKept) : s.taken.Subperm s.accepted := by
  have lane_sublist (lane : Lane) : (ofLane lane s.taken).Sublist (ofLane lane s.accepted) := by
    rw [kept.in_turn, List.append_assoc]
    exact List.sublist_append_left ..
  have split (rs : List ActorRequest) : (ofLane .send rs ++ ofLane .control rs).Perm rs := by
    have control : ofLane .control rs = rs.filter fun r => !decide (r.lane = .send) :=
      List.filter_congr fun r _ => by cases r.lane <;> rfl
    rw [control]
    exact List.filter_append_perm ..
  exact ((split s.taken).symm.subperm.trans ((lane_sublist .send).append (lane_sublist .control)).subperm).trans
    (split s.accepted).subperm

theorem taken_once (kept : s.PlaneKept) (ticket : Nat) : (s.taken.map ActorRequest.ticket).count ticket ≤ 1 := by
  obtain ⟨rs, perm, sublist⟩ := taken_subperm kept.lanes
  have once : (rs.map ActorRequest.ticket).Nodup :=
    ((sublist.trans (List.sublist_append_left ..)).map ActorRequest.ticket).nodup kept.tickets.once
  rw [← (perm.map ActorRequest.ticket).count_eq]
  exact List.nodup_iff_count_le_one.mp once ticket

theorem answered_at_most_once (kept : s.PlaneKept) (ticket : Nat) : s.responses.count ticket ≤ 1 := by
  have told := kept.told ticket
  have once := taken_once kept ticket
  omega

/-- A request that was taken is held, answered or expired. -/
theorem taken_fate (kept : s.PlaneKept) {r : ActorRequest} (taken : r ∈ s.taken) :
    s.held.map ActorRequest.ticket = some r.ticket ∨ s.AnsweredOnce r ∨ s.ExpiredOnce r := by
  have told := kept.told r.ticket
  have once := taken_once kept r.ticket
  have some_time : 0 < (s.taken.map ActorRequest.ticket).count r.ticket :=
    List.count_pos_iff.mpr (List.mem_map_of_mem taken)
  simp only [AnsweredOnce, ExpiredOnce, ← List.count_pos_iff]
  rcases held : s.held with _ | r'
  · simp only [held, Option.toList_none, List.map_nil, List.count_nil] at told
    right
    omega
  · by_cases same : r'.ticket = r.ticket
    · exact .inl (by simp [same])
    · simp only [held, Option.toList_some, List.map_cons, List.map_nil, List.count_singleton, beq_iff_eq, same, if_false] at told
      right
      omega

theorem accepted_fate (kept : s.PlaneKept) {r : ActorRequest} (accepted : r ∈ s.accepted) : s.Fate r := by
  have among : r ∈ ofLane r.lane s.accepted := by simpa using accepted
  rw [kept.lanes.in_turn] at among
  rcases List.mem_append.mp among with before | left
  · rcases List.mem_append.mp before with taken | queued
    · rcases taken_fate kept (List.mem_filter.mp taken).1 with held | answered | expired
      · exact .held held
      · exact .answered answered
      · exact .expired expired
    · exact .queued queued
  · have left : r ∈ s.left := (List.mem_filter.mp left).1
    exact .left left (kept.phase.left_down (List.ne_nil_of_mem left))

/-! ## The actor goes on alone -/

/-- The actor has nothing to do. -/
def Quiet (s : ZmqDataPlane) : Prop := s.phase = .stopped ∨ (∀ lane, s.queue lane = []) ∧ s.held = none

/-- How many operations the actor is from its next request, at most. -/
def toNext (s : ZmqDataPlane) : Nat :=
  match s.phase with
  | .took _ => 10
  | .depthRecorded _ => 9
  | .recorded _ => 8
  -- with a request there it takes it, else it goes around
  | .waitSend => if s.queue .send = [] then 7 else 3
  | .burstCheck => 6
  | .trySend => 5
  | .tryControl => 4
  | .lastControl | .lastSend => 3
  | .stopped => 0

/-- How many operations the actor is from having nothing to do, at most. -/
def toGo (s : ZmqDataPlane) : Nat := 10 * ((s.queue .send).length + (s.queue .control).length) + s.toNext

theorem take_toGo {lane : Lane} {r : ActorRequest} {rest : List ActorRequest} {burst : Nat} (front : s.queue lane = r :: rest)
    (near : 3 ≤ s.toNext) : (s.take lane r rest burst).toGo < s.toGo := by
  have taken : (s.take lane r rest burst).toNext = 10 := rfl
  unfold toGo
  rw [taken]
  cases lane <;> simp [take, front] <;> omega

/-- An actor that passes a lane and has something to do is one operation nearer to it. -/
theorem Passes.toNext {phase : ActorPhase} (passes : s.Passes s.phase phase) (kept : s.PhaseKept) (busy : ¬ s.Quiet) :
    ({ s with phase } : ZmqDataPlane).toNext < s.toNext := by
  have queued : s.queue .send = [] → s.queue .control ≠ [] := fun send control =>
    busy (.inr ⟨fun lane => by cases lane <;> assumption, passes.held.1⟩)
  unfold ZmqDataPlane.toNext
  generalize place : s.phase = before at passes
  cases passes with
  | noControl empty =>
    have send : s.queue .send ≠ [] := fun send => queued send empty
    simp [send]
  | timeOver empty | waitSendGone empty => simp [empty]
  | lastControlGone empty => exact absurd empty (queued (kept.last_control place).1)
  | lastSendGone empty => exact absurd (kept.last_send place).1 (queued empty)
  | _ => simp

theorem Takes.toNext {lane : Lane} {burst : Nat} (takes : s.Takes s.phase lane burst) : 3 ≤ s.toNext := by
  unfold ZmqDataPlane.toNext
  generalize s.phase = before at takes
  cases takes with
  | waitSend => dsimp only; split <;> omega
  | _ => simp

/-- The actor never stands still while it has something to do. -/
theorem ActorStep.toGo (move : ActorStep s s') (kept : s.PhaseKept) (busy : ¬ s.Quiet) : s'.toGo < s.toGo := by
  cases move with
  | rests resting =>
    refine absurd ?_ busy
    rcases resting with stopped | ⟨last, control⟩ | ⟨last, send⟩
    · exact .inl stopped
    · have send := (kept.last_control last).1
      exact .inr ⟨fun lane => by cases lane <;> assumption, by simp [held, last]⟩
    · have control := (kept.last_send last).1
      exact .inr ⟨fun lane => by cases lane <;> assumption, by simp [held, last]⟩
  | passes phase passes => exact Nat.add_lt_add_left (passes.toNext kept busy) _
  | takes lane r rest burst front takes => exact take_toGo front takes.toNext
  | countsOut r took | lanesOut r took => exact Nat.add_lt_add_left (by simp [toNext, took]) _
  | expires r recorded => exact Nat.add_lt_add_left (by simp [toNext, recorded]) _
  | answers r recorded answered answers known => cases answers <;> exact Nat.add_lt_add_left (by simp [toNext, recorded]) _

/-- An actor that has nothing to do finds nothing. -/
theorem ActorStep.quiet (move : ActorStep s s') (quiet : s.Quiet) : s'.Quiet := by
  rcases quiet with stopped | ⟨empty, unheld⟩
  · cases move with
    | rests => exact .inl stopped
    | passes phase passes => exact absurd stopped passes.running
    | takes lane r rest burst front takes => exact absurd stopped takes.running
    | countsOut r place | lanesOut r place | expires r place | answers r place => simp [stopped] at place
  · cases move with
    | rests => exact .inr ⟨empty, unheld⟩
    | passes phase passes => exact .inr ⟨empty, passes.held.2⟩
    | takes lane r rest burst front takes => simp [empty lane] at front
    | countsOut r place | lanesOut r place | expires r place | answers r place => simp [held, place] at unheld

/-- The moves of an actor no other comes in between of. -/
def alone (outcomes : List ActorOutcome) : List DataPlaneMove := outcomes.map .actor

theorem quiet_after (kept : s.PlaneKept) (outcomes : List ActorOutcome) (enough : s.Quiet ∨ s.toGo ≤ outcomes.length) :
    ((alone outcomes).foldl step s).Quiet := by
  induction outcomes generalizing s with
  | nil =>
    rcases enough with quiet | spent
    · exact quiet
    · by_contra busy
      have := (actor_step {}).toGo kept.phase busy
      simp only [List.length_nil] at spent
      omega
  | cons outcome outcomes ih =>
    have move : ActorStep s (s.step (.actor outcome)) := actor_step outcome
    refine ih ((step_cases _).kept kept) ?_
    by_cases quiet : s.Quiet
    · exact .inl (move.quiet quiet)
    · have := move.toGo kept.phase quiet
      have := enough.resolve_left quiet
      simp only [List.length_cons] at this
      exact .inr (by omega)

theorem accepted_grows (move : PlaneStep s s') : s.accepted <+: s'.accepted := by
  cases move with
  | acts next acts => cases acts with
    | answers r recorded answered answers known => cases answers <;> exact List.prefix_refl _
    | _ => exact List.prefix_refl _
  | accepts | dropsSending => exact List.prefix_append ..
  | _ => exact List.prefix_refl _

theorem accepted_later (moves : List DataPlaneMove) : s.accepted <+: (moves.foldl step s).accepted := by
  induction moves generalizing s with
  | nil => exact List.prefix_refl _
  | cons move moves ih => exact (accepted_grows (step_cases move)).trans ih

/-- A request was answered once, expired, or the actor shut down before it. -/
def Settled (s : ZmqDataPlane) (r : ActorRequest) : Prop := s.AnsweredOnce r ∨ s.ExpiredOnce r ∨ s.shutDown = true ∧ r.ticket ∉ s.responses

/-- A request that waits or was left is not one that was taken, and so got no response. -/
theorem unanswered (kept : s.PlaneKept) {r : ActorRequest} (behind : r ∈ s.queue r.lane ++ ofLane r.lane s.left) :
    r.ticket ∉ s.responses := by
  intro answered
  have told := kept.told r.ticket
  have some_time := List.count_pos_iff.mpr answered
  obtain ⟨r', taken, same⟩ := List.mem_map.mp (List.count_pos_iff.mp (show 0 < (s.taken.map ActorRequest.ticket).count r.ticket by omega))
  have once : (s.accepted.map ActorRequest.ticket).Nodup :=
    ((List.sublist_append_left s.accepted (s.clients.map Prod.fst)).map ActorRequest.ticket).nodup kept.tickets.once
  have accepted : r ∈ s.accepted := by
    have : r ∈ ofLane r.lane s.accepted := by
      rw [kept.lanes.in_turn, List.append_assoc]
      exact List.mem_append_right _ behind
    exact (List.mem_filter.mp this).1
  obtain rfl : r' = r := List.inj_on_of_nodup_map once ((taken_subperm kept.lanes).subset taken) accepted same
  have in_lane : (ofLane r'.lane s.accepted).Nodup := (List.filter_sublist ..).nodup once.of_map
  rw [kept.lanes.in_turn, List.append_assoc] at in_lane
  exact List.disjoint_of_nodup_append in_lane (List.mem_filter.mpr ⟨taken, by simp⟩) behind

/-- A request that an actor with nothing to do has not answered expired, or came behind a shutdown. -/
theorem quiet_settled (kept : s.PlaneKept) (quiet : s.Quiet) {r : ActorRequest} (accepted : r ∈ s.accepted) : s.Settled r := by
  cases accepted_fate kept accepted with
  | queued queued =>
    have down : s.shutDown = true := by
      rcases quiet with stopped | ⟨empty, -⟩
      · exact (kept.phase.stopped stopped).resolve_right fun ended => by simp [ended.1] at queued
      · simp [empty] at queued
    exact .inr (.inr ⟨down, unanswered kept (List.mem_append_left _ queued)⟩)
  | held held' =>
    rcases quiet with stopped | ⟨-, unheld⟩
    · simp [ZmqDataPlane.held, stopped] at held'
    · simp [unheld] at held'
  | answered answered => exact .inl answered
  | expired expired => exact .inr (.inl expired)
  | left left down => exact .inr (.inr ⟨down, unanswered kept (List.mem_append_right _ (List.mem_filter.mpr ⟨left, by simp⟩))⟩)

/-! ## A control request that waits -/

/-- How many requests of a lane were taken. -/
def takenOf (s : ZmqDataPlane) (lane : Lane) : Nat := (ofLane lane s.taken).length

/-- One operation while a control request waits: one is taken, or what it waited for is counted. -/
theorem waits_step (move : PlaneStep s s') (lanes : s.LanesKept) (waits : s.queue .control ≠ []) :
    s'.takenOf .control = s.takenOf .control + 1 ∨
      s'.takenOf .control = s.takenOf .control ∧ s'.waited + s.takenOf .send = s.waited + s'.takenOf .send := by
  cases move with
  | acts next acts => cases acts with
    | takes lane r rest burst front takes =>
      have own := lanes.own lane r (by simp [front])
      cases lane with
      | control => exact .inl (by simp [takenOf, ofLane, take, own])
      | send =>
        refine .inr ⟨by simp [takenOf, ofLane, take, own], ?_⟩
        simp [takenOf, ofLane, take, own, waits]
        omega
    | answers r recorded answered answers known => cases answers <;> exact .inr ⟨rfl, rfl⟩
    | _ => exact .inr ⟨rfl, rfl⟩
  | _ => exact .inr ⟨rfl, rfl⟩

/-- While a control request waits and none is taken, what is taken from the other lane is counted. -/
theorem waits_run (kept : s.PlaneKept) (moves : List DataPlaneMove)
    (waits : ∀ before, before <+: moves → (before.foldl step s).queue .control ≠ []) :
    s.takenOf .control ≤ (moves.foldl step s).takenOf .control ∧
      ((moves.foldl step s).takenOf .control = s.takenOf .control →
        (moves.foldl step s).waited + s.takenOf .send = s.waited + (moves.foldl step s).takenOf .send) := by
  induction moves generalizing s with
  | nil => simp
  | cons move moves ih =>
    have step := waits_step (step_cases move) kept.lanes (waits [] (List.nil_prefix ..))
    obtain ⟨later, counted⟩ := ih ((step_cases move).kept kept) fun before prefixed =>
      waits (move :: before) (List.prefix_cons_inj move |>.mpr prefixed)
    simp only [List.foldl_cons]
    omega

/-! ## Every run of a plane, from its start -/

/-- No request is on its way. -/
theorem none_due (idle : s.clients = []) (recorded : s.recording = false) (empty : ∀ lane, s.queue lane = []) (none_left : s.left = []) :
    s.depthDue = 0 ∧ ∀ lane, s.laneDepthDue lane = 0 := by
  unfold recording at recorded
  unfold depthDue laneDepthDue
  cases place : s.phase <;> simp [place, idle, empty, none_left] at recorded ⊢

theorem Tracks.zero {alive : Prop} {depth : Int} (tracks : Tracks alive depth 0) : depth = 0 :=
  le_antisymm tracks.le_due tracks.nonneg

/-- Whatever clients do and the session answers: a lane is served in turn and its requests are
taken once; a request has one fate, and when the actor has gone on long enough it is answered
once, expired, or behind a shutdown; a control request that waits sees at most 32 of the other
lane taken before one of its own is; the session has the identity that was registered last; and
the depths are not negative, and zero when no request is on its way. -/
theorem data_plane_serves (moves : List DataPlaneMove) :
    (∀ lane, ofLane lane (run moves).taken <+: ofLane lane (run moves).accepted) ∧
    ((run moves).accepted.map ActorRequest.ticket).Nodup ∧
    (∀ r ∈ (run moves).accepted, (run moves).Fate r ∧
      ((run moves).taken.map ActorRequest.ticket).count r.ticket ≤ 1 ∧ (run moves).responses.count r.ticket ≤ 1) ∧
    (∃ enough, ∀ outcomes : List ActorOutcome, enough ≤ outcomes.length →
      ∀ r ∈ (run moves).accepted, (run (moves ++ alone outcomes)).Settled r) ∧
    (∀ later, (∀ before, before <+: later → (run (moves ++ before)).queue .control ≠ []) →
      (run (moves ++ later)).takenOf .control = (run moves).takenOf .control →
      (run (moves ++ later)).takenOf .send ≤ (run moves).takenOf .send + 32) ∧
    (∀ session, (run moves).session = some session → session.identity = (run moves).registered.getLast?) ∧
    (0 ≤ (run moves).queueDepth ∧ ∀ lane, 0 ≤ (run moves).laneDepth lane) ∧
    ((run moves).clients = [] → (run moves).recording = false → (∀ lane, (run moves).queue lane = []) → (run moves).left = [] →
      (run moves).queueDepth = 0 ∧ ∀ lane, (run moves).laneDepth lane = 0) := by
  have kept := run_kept moves
  have run_later (later : List DataPlaneMove) : run (moves ++ later) = later.foldl step (run moves) := List.foldl_append ..
  refine ⟨fun lane => ?_, ?_, fun r accepted => ?_, ⟨(run moves).toGo, fun outcomes enough r accepted => ?_⟩, fun later waits none_taken => ?_,
    fun session current => ?_, ⟨kept.depths.depth.nonneg, fun lane => (kept.depths.lane_depth lane).nonneg⟩, ?_⟩
  · rw [kept.lanes.in_turn, List.append_assoc]
    exact List.prefix_append ..
  · exact ((List.sublist_append_left _ _).map ActorRequest.ticket).nodup kept.tickets.once
  · exact ⟨accepted_fate kept accepted, taken_once kept _, answered_at_most_once kept _⟩
  · rw [run_later]
    exact quiet_settled (steps_kept kept _) (quiet_after kept outcomes (.inr enough)) ((accepted_later _).subset accepted)
  · simp only [run_later] at waits none_taken ⊢
    have counted := (waits_run kept later waits).2 none_taken
    have bounded := (steps_kept kept later).burst.bounded
    omega
  · rw [kept.session.of_session session current, kept.session.last_registered]
  · intro idle recorded empty none_left
    obtain ⟨due, lane_due⟩ := none_due idle recorded empty none_left
    exact ⟨(due ▸ kept.depths.depth).zero, fun lane => (lane_due lane ▸ kept.depths.lane_depth lane).zero⟩

/-- A request that is taken and not counted out yet is still in the depths, with both lanes empty. -/
theorem taken_still_counted :
    ¬ ∀ moves, (run moves).clients = [] → (∀ lane, (run moves).queue lane = []) →
      (run moves).queueDepth = 0 ∧ ∀ lane, (run moves).laneDepth lane = 0 := by
  intro zero
  have counted := zero [.enqueue .single, .client 0, .client 0, .actor {}, .actor {}] rfl (fun lane => by cases lane <;> rfl)
  exact absurd counted.1 (by decide)

end ZmqDataPlane
end TelemetryHub
