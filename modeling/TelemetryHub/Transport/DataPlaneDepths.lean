import TelemetryHub.Transport.DataPlaneKept

/-!
# The depths of the data plane

The requests on their way that a depth is due, and the depth within it.
-/

namespace TelemetryHub
namespace ZmqDataPlane

variable {s s' : ZmqDataPlane}

/-- The requests on their way that the depth of the queues counts. -/
def depthDue (s : ZmqDataPlane) : Nat :=
  s.clients.countP (fun client => client.2 ≠ .depthTakenBack)
    + (s.queue .send).countP ActorRequest.counted + (s.queue .control).countP ActorRequest.counted + s.left.countP ActorRequest.counted
    + match s.phase with
      | .took r => if r.counted then 1 else 0
      | _ => 0

/-- The requests on their way that the depth of a lane counts. -/
def laneDepthDue (s : ZmqDataPlane) (lane : Lane) : Nat :=
  s.clients.countP (fun client => client.1.lane = lane ∧ client.2 ≠ .depthAdded)
    + (s.queue lane).countP ActorRequest.counted + s.left.countP (fun r => r.lane = lane ∧ r.counted)
    + match s.phase with
      | .took r | .depthRecorded r => if r.lane = lane ∧ r.counted then 1 else 0
      | _ => 0

/-- A depth is never more than what is due to it, nor below zero; while the plane is alive it is that. -/
structure Tracks (alive : Prop) (depth : Int) (due : Nat) : Prop where
  nonneg : 0 ≤ depth
  le_due : depth ≤ due
  eq_due : alive → depth = due

section tracks
variable {alive : Prop} {depth : Int} {due due' : Nat}

theorem Tracks.same (tracks : Tracks alive depth due) (same : due' = due) : Tracks alive depth due' := same ▸ tracks

theorem Tracks.ends (tracks : Tracks alive depth due) {alive' : Prop} (ends : alive' → alive) (same : due' = due) :
    Tracks alive' depth due' :=
  ⟨tracks.nonneg, same ▸ tracks.le_due, fun is_alive => same ▸ tracks.eq_due (ends is_alive)⟩

theorem Tracks.add (tracks : Tracks alive depth due) (one : due' = due + 1) : Tracks alive (depth + 1) due' := by
  obtain ⟨nonneg, le_due, eq_due⟩ := tracks
  exact ⟨by omega, by omega, fun is_alive => by have := eq_due is_alive; omega⟩

theorem Tracks.sub (tracks : Tracks alive depth due) (is_alive : alive) (one : due = due' + 1) : Tracks alive (depth - 1) due' := by
  have := tracks.eq_due is_alive
  exact ⟨by omega, by omega, fun _ => by omega⟩

/-- A request is counted out; one that was not counted may bring the depth down too far, but only behind the end. -/
theorem Tracks.out (tracks : Tracks alive depth due) (one : Nat) (at_most : one ≤ 1) (counted : alive → one = 1) (out : due = due' + one) :
    Tracks alive (max 0 (depth - 1)) due' := by
  obtain ⟨nonneg, le_due, eq_due⟩ := tracks
  exact ⟨by omega, by omega, fun is_alive => by have := eq_due is_alive; have := counted is_alive; omega⟩

end tracks

/-- The depths keep to what is due, and a plane that is alive has counted all its requests. -/
structure DepthKept (s : ZmqDataPlane) : Prop where
  depth : Tracks (s.handle = .alive) s.queueDepth s.depthDue
  lane_depth : ∀ lane, Tracks (s.handle = .alive) (s.laneDepth lane) (s.laneDepthDue lane)
  clients_counted : ∀ r ∈ s.clients.map Prod.fst, r.counted = true
  queue_counted : s.handle = .alive → ∀ lane, ∀ r ∈ s.queue lane, r.counted = true
  held_counted : s.handle = .alive → ∀ r, s.held = some r → r.counted = true

/-- The actor holds nothing that a depth is due. -/
theorem due_of_unheld (unheld : s.held = none) :
    s.depthDue = s.clients.countP (fun client => client.2 ≠ .depthTakenBack)
        + (s.queue .send).countP ActorRequest.counted + (s.queue .control).countP ActorRequest.counted
        + s.left.countP ActorRequest.counted ∧
      ∀ lane, s.laneDepthDue lane = s.clients.countP (fun client => client.1.lane = lane ∧ client.2 ≠ .depthAdded)
        + (s.queue lane).countP ActorRequest.counted + s.left.countP (fun r => r.lane = lane ∧ r.counted) := by
  unfold depthDue laneDepthDue
  cases place : s.phase <;> simp [ZmqDataPlane.held, place] at unheld ⊢

/-- The actor is elsewhere, and holds nothing before and after. -/
theorem DepthKept.of_unheld (kept : s.DepthKept) {phase : ActorPhase} (unheld : s.held = none)
    (unheld' : ({ s with phase } : ZmqDataPlane).held = none) : ({ s with phase } : ZmqDataPlane).DepthKept where
  depth := kept.depth.same (by rw [(due_of_unheld unheld).1, (due_of_unheld unheld').1])
  lane_depth := fun lane => (kept.lane_depth lane).same (by rw [(due_of_unheld unheld).2, (due_of_unheld unheld').2])
  clients_counted := kept.clients_counted
  queue_counted := kept.queue_counted
  held_counted := fun _ r held => by simp [unheld'] at held

/-- The counted requests of a lane are counted at that lane alone. -/
theorem LanesKept.countP_queue (kept : s.LanesKept) (lane lane' : Lane) :
    (s.queue lane).countP (fun r => r.lane = lane' ∧ r.counted) = if lane' = lane then (s.queue lane).countP ActorRequest.counted else 0 := by
  split
  case isTrue same => exact List.countP_congr fun r queued => by simp [kept.own lane r queued, same]
  case isFalse other => exact List.countP_eq_zero.mpr fun r queued => by simp [kept.own lane r queued, Ne.symm other]

theorem around_subset {before after : List (ActorRequest × EnqueuePhase)} {client : ActorRequest × EnqueuePhase} :
    (before ++ after).map Prod.fst ⊆ (before ++ client :: after).map Prod.fst :=
  List.map_subset _ ((List.sublist_cons_self client after).append_left before).subset

theorem ActorStep.depthKept (move : ActorStep s s') (lanes : s.LanesKept) (kept : s.DepthKept) : s'.DepthKept := by
  cases move with
  | rests => exact kept
  | passes phase passes => exact kept.of_unheld passes.held.1 passes.held.2
  | takes lane r rest burst front takes =>
    obtain ⟨due, lane_due⟩ := due_of_unheld takes.held
    have own : r.lane = lane := lanes.own lane r (by simp [front])
    exact {
      depth := kept.depth.same (by
        rw [due]
        cases lane <;> simp [depthDue, take, front, List.countP_cons] <;> omega)
      lane_depth := fun lane' => (kept.lane_depth lane').same (by
        rw [lane_due]
        by_cases same : lane' = lane
        · subst same
          simp [laneDepthDue, take, front, own, List.countP_cons]
          omega
        · simp [laneDepthDue, take, own, same, Ne.symm same])
      clients_counted := kept.clients_counted
      queue_counted := fun alive lane' r' queued => by
        by_cases same : lane' = lane
        · subst same
          exact kept.queue_counted alive lane' r' (by simp [front, (by simpa [take] using queued : r' ∈ rest)])
        · exact kept.queue_counted alive lane' r' (by simpa [take, same] using queued)
      held_counted := fun alive r' held => by
        obtain rfl : r = r' := by simpa [take, ZmqDataPlane.held] using held
        exact kept.queue_counted alive lane r (by simp [front]) }
  | countsOut r took =>
    have counted (alive : s.handle = .alive) : r.counted = true := kept.held_counted alive r (by simp [ZmqDataPlane.held, took])
    exact {
      kept with
      depth := kept.depth.out (if r.counted then 1 else 0) (by split <;> omega) (fun alive => by simp [counted alive])
        (by simp [depthDue, took])
      lane_depth := fun lane => (kept.lane_depth lane).same (by simp [laneDepthDue, took])
      held_counted := fun alive r' held => by
        obtain rfl : r = r' := by simpa [ZmqDataPlane.held] using held
        exact counted alive }
  | lanesOut r took =>
    have counted (alive : s.handle = .alive) : r.counted = true := kept.held_counted alive r (by simp [ZmqDataPlane.held, took])
    exact {
      kept with
      depth := kept.depth.same (by simp [depthDue, took])
      lane_depth := fun lane => by
        by_cases own : r.lane = lane
        · subst own
          simpa using (kept.lane_depth r.lane).out (if r.counted then 1 else 0) (by split <;> omega)
            (fun alive => by simp [counted alive]) (by simp [laneDepthDue, took])
        · simpa [Ne.symm own] using (kept.lane_depth lane).same (by simp [laneDepthDue, took, own])
      held_counted := fun alive r' held => by
        obtain rfl : r = r' := by simpa [ZmqDataPlane.held] using held
        exact counted alive }
  | expires r recorded =>
    exact {
      kept with
      depth := kept.depth.same (by simp [depthDue, recorded])
      lane_depth := fun lane => (kept.lane_depth lane).same (by simp [laneDepthDue, recorded])
      held_counted := fun _ _ held => by cases held }
  | answers r recorded answered answers known =>
    cases answers <;> exact {
      kept with
      depth := kept.depth.same (by simp [depthDue, recorded])
      lane_depth := fun lane => (kept.lane_depth lane).same (by simp [laneDepthDue, recorded])
      held_counted := fun _ _ held => by cases held }

theorem PlaneStep.depthKept (move : PlaneStep s s') (phase : s.PhaseKept) (lanes : s.LanesKept) (kept : s.DepthKept) : s'.DepthKept := by
  cases move with
  | same => exact kept
  | begins payload alive =>
    exact {
      kept with
      depth := kept.depth.add (by simp [depthDue]; omega)
      lane_depth := fun lane => (kept.lane_depth lane).same (by simp [laneDepthDue])
      clients_counted := by simpa only [List.map_append, List.forall_mem_append, List.map_cons, List.map_nil, List.forall_mem_singleton, and_true] using kept.clients_counted }
  | counts r before after client =>
    exact {
      kept with
      depth := kept.depth.same (by simp [depthDue, client])
      lane_depth := fun lane => by
        by_cases own : r.lane = lane
        · subst own
          simpa using (kept.lane_depth r.lane).add (by simp [laneDepthDue, client]; omega)
        · simpa [Ne.symm own] using (kept.lane_depth lane).same (by simp [laneDepthDue, client, own])
      clients_counted := by simpa [client] using kept.clients_counted }
  | refuses r before after client =>
    exact {
      kept with
      depth := kept.depth.same (by simp [depthDue, client])
      lane_depth := fun lane => (kept.lane_depth lane).same (by simp [laneDepthDue, client, List.countP_cons])
      clients_counted := by simpa [client] using kept.clients_counted }
  | takesBack r before after client =>
    have alive := phase.client_alive client
    exact {
      kept with
      depth := kept.depth.sub alive (by simp [depthDue, client]; omega)
      lane_depth := fun lane => (kept.lane_depth lane).same (by simp [laneDepthDue, client, List.countP_cons])
      clients_counted := by simpa [client] using kept.clients_counted }
  | returns r before after client =>
    have alive := phase.client_alive client
    exact {
      kept with
      depth := kept.depth.same (by simp [depthDue, client])
      lane_depth := fun lane => by
        by_cases own : r.lane = lane
        · subst own
          simpa using (kept.lane_depth r.lane).sub alive (by simp [laneDepthDue, client]; omega)
        · simpa [Ne.symm own] using (kept.lane_depth lane).same (by simp [laneDepthDue, client, own])
      clients_counted := fun other among => kept.clients_counted other (by rw [client]; exact around_subset among) }
  | accepts r before after client opened =>
    have counted : r.counted = true := kept.clients_counted r (by simp [client])
    exact {
      kept with
      depth := kept.depth.same (by cases own : r.lane <;> simp [depthDue, client, counted] <;> omega)
      lane_depth := fun lane => (kept.lane_depth lane).same (by
        by_cases own : r.lane = lane
        · subst own
          simp [laneDepthDue, client, counted]
          omega
        · simp [laneDepthDue, client, own, Ne.symm own])
      clients_counted := fun other among => kept.clients_counted other (by rw [client]; exact around_subset among)
      queue_counted := fun alive lane r' queued => by
        by_cases own : lane = r.lane
        · rcases (by simpa [own] using queued : r' ∈ s.queue r.lane ∨ r' = r) with before | rfl
          · exact kept.queue_counted alive _ r' before
          · exact counted
        · exact kept.queue_counted alive lane r' (by simpa [own] using queued) }
  | drops alive idle =>
    exact {
      depth := kept.depth.ends (fun _ => alive) rfl
      lane_depth := fun lane => (kept.lane_depth lane).ends (fun _ => alive) rfl
      clients_counted := kept.clients_counted
      queue_counted := nofun
      held_counted := nofun }
  | dropsSending alive idle opened r made =>
    exact {
      depth := kept.depth.ends (fun _ => alive) (by simp [depthDue, made])
      lane_depth := fun lane => (kept.lane_depth lane).ends (fun _ => alive) (by cases lane <;> simp [laneDepthDue, made])
      clients_counted := kept.clients_counted
      queue_counted := nofun
      held_counted := nofun }
  | sendSenderGoes dropped | controlSenderGoes dropped =>
    exact {
      depth := kept.depth.ends nofun rfl
      lane_depth := fun lane => (kept.lane_depth lane).ends nofun rfl
      clients_counted := kept.clients_counted
      queue_counted := nofun
      held_counted := nofun }
  | acts next acts => exact acts.depthKept lanes kept
  | closes lane stopped =>
    exact {
      depth := kept.depth.same (by cases lane <;> simp [depthDue, stopped] <;> omega)
      lane_depth := fun lane' => (kept.lane_depth lane').same (by
        have counted := lanes.countP_queue lane lane'
        by_cases same : lane' = lane
        · subst same
          rw [if_pos rfl] at counted
          simp only [laneDepthDue, stopped, Function.update_self, List.countP_append, List.countP_nil, counted]
          omega
        · rw [if_neg same] at counted
          simp only [laneDepthDue, stopped, Function.update_of_ne same, List.countP_append, counted, Nat.add_zero])
      clients_counted := kept.clients_counted
      queue_counted := fun alive lane' r queued => by
        by_cases same : lane' = lane
        · simp [same] at queued
        · exact kept.queue_counted alive lane' r (by simpa [same] using queued)
      held_counted := fun _ r held => by simp [ZmqDataPlane.held, stopped] at held }

end ZmqDataPlane
end TelemetryHub
