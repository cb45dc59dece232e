import TelemetryHub.Transport.DataPlaneRun

/-!
# What the data plane keeps

The requests of a lane stand in the order they were accepted in; each that was taken is
answered, expired or held; and the burst bounds what a control request waits for.
-/

namespace TelemetryHub
namespace ZmqDataPlane

variable {s s' : ZmqDataPlane}

/-! ## The end of a plane -/

/-- Where the plane and its actor may stand. -/
structure PhaseKept (s : ZmqDataPlane) : Prop where
  idle : s.handle ≠ .alive → s.clients = []
  down_stopped : s.shutDown = true → s.phase = .stopped
  last_control : s.phase = .lastControl → s.queue .send = [] ∧ s.connected .send = false
  last_send : s.phase = .lastSend → s.queue .control = [] ∧ s.connected .control = false
  stopped : s.phase = .stopped → s.shutDown = true ∨ (∀ lane, s.queue lane = []) ∧ s.handle = .gone
  left_down : s.left ≠ [] → s.shutDown = true
  closed : ∀ lane, s.receiver lane = false → s.phase = .stopped ∧ s.queue lane = []

theorem connected_control_false : s.connected .control = false ↔ s.handle = .gone := by
  simp [connected]

theorem update_queue {lane lane' : Lane} {rs : List ActorRequest} :
    Function.update s.queue lane rs lane' = if lane' = lane then rs else s.queue lane' :=
  Function.update_apply ..

/-- A client borrows a plane that is alive. -/
theorem PhaseKept.client_alive (kept : s.PhaseKept) {r : ActorRequest} {place : EnqueuePhase}
    {before after : List (ActorRequest × EnqueuePhase)} (client : s.clients = before ++ (r, place) :: after) :
    s.handle = .alive := by
  by_contra other
  simp [kept.idle other] at client

/-- While the plane is alive its actor waits for no lane alone, and stops after a shutdown only. -/
theorem PhaseKept.while_alive (kept : s.PhaseKept) (alive : s.handle = .alive) :
    s.phase ≠ .lastControl ∧ s.phase ≠ .lastSend ∧ (s.phase = .stopped → s.shutDown = true) := by
  refine ⟨fun last => ?_, fun last => ?_, fun stopped => ?_⟩
  · simpa [connected, alive] using (kept.last_control last).2
  · simpa [connected, alive] using (kept.last_send last).2
  · simpa [alive] using kept.stopped stopped

/-- A request put on an open lane leaves the closed ones as they are. -/
theorem PhaseKept.closed_after (kept : s.PhaseKept) {opened : Lane} {rs : List ActorRequest} (receiver : s.receiver opened = true)
    (lane : Lane) (closed : s.receiver lane = false) :
    s.phase = .stopped ∧ Function.update s.queue opened rs lane = [] := by
  have other : lane ≠ opened := fun same => by simp [same, receiver] at closed
  simpa [update_queue, other] using kept.closed lane closed

theorem Passes.running {phase phase' : ActorPhase} (passes : s.Passes phase phase') : phase ≠ .stopped := by
  cases passes <;> nofun

theorem Takes.running {phase : ActorPhase} {lane : Lane} {burst : Nat} (takes : s.Takes phase lane burst) : phase ≠ .stopped := by
  cases takes <;> nofun

/-- The actor goes on and takes nothing; where it stands at an end then is right. -/
theorem PhaseKept.of_end (kept : s.PhaseKept) (phase : ActorPhase) (running : s.phase ≠ .stopped)
    (last_control : phase = .lastControl → s.queue .send = [] ∧ s.connected .send = false)
    (last_send : phase = .lastSend → s.queue .control = [] ∧ s.connected .control = false)
    (stopped : phase = .stopped → (∀ lane, s.queue lane = []) ∧ s.handle = .gone) :
    ({ s with phase } : ZmqDataPlane).PhaseKept where
  idle := kept.idle
  down_stopped := fun down => absurd (kept.down_stopped down) running
  last_control := last_control
  last_send := last_send
  stopped := fun ended => .inr (stopped ended)
  left_down := kept.left_down
  closed := fun lane closed => absurd (kept.closed lane closed).1 running

theorem PhaseKept.passes (kept : s.PhaseKept) {phase : ActorPhase} (passes : s.Passes s.phase phase) :
    ({ s with phase } : ZmqDataPlane).PhaseKept := by
  have running := passes.running
  generalize place : s.phase = before at passes
  cases passes with
  | burstShort | noSend | noControl | timeOver => exact kept.of_end _ running nofun nofun nofun
  | trySendGone empty gone | waitSendGone empty gone => exact kept.of_end _ running (fun _ => ⟨empty, gone⟩) nofun nofun
  | controlGone empty gone => exact kept.of_end _ running nofun (fun _ => ⟨empty, gone⟩) nofun
  | lastControlGone empty gone =>
    have send_empty := (kept.last_control place).1
    exact kept.of_end _ running nofun nofun fun _ => ⟨fun lane => by cases lane <;> assumption, connected_control_false.mp gone⟩
  | lastSendGone empty gone =>
    obtain ⟨control_empty, gone⟩ := kept.last_send place
    exact kept.of_end _ running nofun nofun fun _ => ⟨fun lane => by cases lane <;> assumption, connected_control_false.mp gone⟩

theorem ActorStep.phaseKept (move : ActorStep s s') (kept : s.PhaseKept) : s'.PhaseKept := by
  cases move with
  | rests => exact kept
  | passes phase passes => exact kept.passes passes
  | takes lane r rest burst front takes =>
    have running := takes.running
    exact {
      idle := kept.idle
      down_stopped := fun down => absurd (kept.down_stopped down) running
      last_control := nofun
      last_send := nofun
      stopped := nofun
      left_down := kept.left_down
      closed := fun lane closed => absurd (kept.closed lane closed).1 running }
  | countsOut r took => exact { kept.of_end (.depthRecorded r) (by simp [took]) nofun nofun nofun with }
  | lanesOut r took => exact { kept.of_end (.recorded r) (by simp [took]) nofun nofun nofun with }
  | expires r recorded => exact { kept.of_end .burstCheck (by simp [recorded]) nofun nofun nofun with }
  | answers r recorded answered answers known =>
    have up : s.shutDown ≠ true := fun down => by simpa [recorded] using kept.down_stopped down
    cases answers with
    | goesOn session identity registered shutDown unless_down =>
      exact {
        kept.of_end .burstCheck (by simp [recorded]) nofun nofun nofun with
        down_stopped := fun down => absurd (unless_down down) up
        stopped := nofun
        left_down := fun left => absurd (kept.left_down left) up }
    | ends session identity registered =>
      exact {
        idle := kept.idle
        down_stopped := fun _ => rfl
        last_control := nofun
        last_send := nofun
        stopped := fun _ => .inl rfl
        left_down := fun _ => rfl
        closed := fun lane closed => ⟨rfl, (kept.closed lane closed).2⟩ }

theorem PlaneStep.phaseKept (move : PlaneStep s s') (kept : s.PhaseKept) : s'.PhaseKept := by
  cases move with
  | same => exact kept
  | begins payload alive => exact { kept with idle := fun other => absurd alive other }
  | counts r before after client | refuses r before after client | takesBack r before after client
  | returns r before after client =>
    exact { kept with idle := fun other => absurd (kept.client_alive client) other }
  | accepts r before after client opened =>
    have alive := kept.client_alive client
    obtain ⟨no_control, no_send, down⟩ := kept.while_alive alive
    exact {
      idle := fun other => absurd alive other
      down_stopped := kept.down_stopped
      last_control := fun last => absurd last no_control
      last_send := fun last => absurd last no_send
      stopped := fun stopped => .inl (down stopped)
      left_down := kept.left_down
      closed := kept.closed_after opened }
  | drops alive idle =>
    obtain ⟨no_control, no_send, down⟩ := kept.while_alive alive
    exact {
      kept with
      idle := fun _ => idle
      last_control := fun last => absurd last no_control
      last_send := fun last => absurd last no_send
      stopped := fun stopped => .inl (down stopped) }
  | dropsSending alive idle opened r made =>
    obtain ⟨no_control, no_send, down⟩ := kept.while_alive alive
    exact {
      idle := fun _ => idle
      down_stopped := kept.down_stopped
      last_control := fun last => absurd last no_control
      last_send := fun last => absurd last no_send
      stopped := fun stopped => .inl (down stopped)
      left_down := kept.left_down
      closed := kept.closed_after opened }
  | sendSenderGoes dropped =>
    exact {
      kept with
      idle := fun _ => kept.idle (by simp [dropped])
      last_control := fun last => ⟨(kept.last_control last).1, rfl⟩
      last_send := fun last => by simpa [connected, dropped] using (kept.last_send last).2
      stopped := fun stopped => (kept.stopped stopped).imp id fun ended => by simp [dropped] at ended }
  | controlSenderGoes dropped =>
    exact {
      kept with
      idle := fun _ => kept.idle (by simp [dropped])
      last_control := fun last => ⟨(kept.last_control last).1, rfl⟩
      last_send := fun last => ⟨(kept.last_send last).1, rfl⟩
      stopped := fun stopped => (kept.stopped stopped).imp id fun ended => ⟨ended.1, rfl⟩ }
  | acts next acts => exact acts.phaseKept kept
  | closes lane stopped =>
    exact {
      idle := kept.idle
      down_stopped := fun _ => stopped
      last_control := fun last => by simp [stopped] at last
      last_send := fun last => by simp [stopped] at last
      stopped := fun _ => (kept.stopped stopped).imp id fun ended =>
        ⟨fun lane' => by simpa [update_queue] using fun _ => ended.1 lane', ended.2⟩
      left_down := fun left => by
        cases kept.stopped stopped with
        | inl down => exact down
        | inr ended => exact kept.left_down fun none => left (by simp [none, ended.1 lane])
      closed := fun lane' closed => ⟨stopped, by
        by_cases same : lane' = lane
        · simp [same]
        · simpa [update_queue, same] using (kept.closed lane' (by simpa [Function.update_apply, same] using closed)).2⟩ }

/-! ## The lanes -/

/-- The requests of a lane. -/
abbrev ofLane (lane : Lane) (rs : List ActorRequest) : List ActorRequest := rs.filter fun r => r.lane = lane

theorem ofLane_append (lane : Lane) (rs rs' : List ActorRequest) :
    ofLane lane (rs ++ rs') = ofLane lane rs ++ ofLane lane rs' :=
  List.filter_append ..

/-- Each lane holds its own requests, those it has accepted and that were neither taken nor left. -/
structure LanesKept (s : ZmqDataPlane) : Prop where
  own : ∀ lane, ∀ r ∈ s.queue lane, r.lane = lane
  in_turn : ∀ lane, ofLane lane s.accepted = ofLane lane s.taken ++ s.queue lane ++ ofLane lane s.left
  none_left : ∀ lane, s.receiver lane = true → ofLane lane s.left = []

/-- A lane accepts a request. -/
theorem LanesKept.accept (kept : s.LanesKept) {r : ActorRequest} {accepting : Lane} (own : r.lane = accepting)
    (opened : s.receiver accepting = true) :
    ({ s with
        queue := Function.update s.queue accepting (s.queue accepting ++ [r])
        accepted := s.accepted ++ [r] } : ZmqDataPlane).LanesKept where
  own := fun lane r' queued => by
    by_cases same : lane = accepting
    · rcases (by simpa [same] using queued : r' ∈ s.queue accepting ∨ r' = r) with before | rfl
      · exact same ▸ kept.own _ r' before
      · exact own.trans same.symm
    · exact kept.own lane r' (by simpa [update_queue, same] using queued)
  in_turn := fun lane => by
    by_cases same : lane = accepting
    · subst same
      have none_left := kept.none_left _ opened
      rw [ofLane_append, kept.in_turn, none_left]
      simp [own]
    · have other : r.lane ≠ lane := fun at_lane => same (at_lane.symm.trans own)
      simp [other, same, kept.in_turn]
  none_left := kept.none_left

/-- The requests a lane holds are its own, and no other's. -/
theorem LanesKept.ofLane_queue (kept : s.LanesKept) (lane lane' : Lane) :
    ofLane lane' (s.queue lane) = if lane' = lane then s.queue lane else [] := by
  split
  case isTrue same => exact List.filter_eq_self.mpr fun r queued => by simpa [same] using kept.own lane r queued
  case isFalse other =>
    refine List.filter_eq_nil_iff.mpr fun r queued => ?_
    simpa [kept.own lane r queued] using Ne.symm other

theorem ActorStep.lanesKept (move : ActorStep s s') (kept : s.LanesKept) : s'.LanesKept := by
  cases move with
  | rests => exact kept
  | passes | countsOut | lanesOut | expires => exact { kept with }
  | takes lane r rest burst front takes =>
    have own : r.lane = lane := kept.own lane r (by simp [front])
    exact {
      own := fun lane' r' queued => by
        by_cases same : lane' = lane
        · subst same
          exact kept.own lane' r' (by simp [front, (by simpa [take] using queued : r' ∈ rest)])
        · exact kept.own lane' r' (by simpa [take, update_queue, same] using queued)
      in_turn := fun lane' => by
        by_cases same : lane' = lane
        · simp [take, same, own, front, kept.in_turn]
        · have other : r.lane ≠ lane' := fun at_lane => same (at_lane.symm.trans own)
          simp [take, other, same, kept.in_turn]
      none_left := kept.none_left }
  | answers r recorded answered answers known => cases answers <;> exact { kept with }

theorem PlaneStep.lanesKept (move : PlaneStep s s') (phase : s.PhaseKept) (kept : s.LanesKept) : s'.LanesKept := by
  cases move with
  | same => exact kept
  | begins | counts | refuses | takesBack | returns | drops | sendSenderGoes | controlSenderGoes =>
    exact { kept with }
  | accepts r before after client opened => exact { kept.accept rfl opened with }
  | dropsSending alive idle opened r made => exact { kept.accept (by subst made; rfl) opened with }
  | acts next acts => exact acts.lanesKept kept
  | closes lane stopped =>
    exact {
      own := fun lane' r queued => by
        by_cases same : lane' = lane
        · simp [same] at queued
        · exact kept.own lane' r (by simpa [same] using queued)
      in_turn := fun lane' => by
        rw [ofLane_append, kept.ofLane_queue, kept.in_turn]
        by_cases same : lane' = lane
        · subst same
          cases receiver : s.receiver lane' with
          | true => simp [kept.none_left _ receiver]
          | false => simp [(phase.closed _ receiver).2]
        · simp [same]
      none_left := fun lane' opened => by
        have other : lane' ≠ lane := fun same => by simp [same] at opened
        rw [ofLane_append, kept.ofLane_queue, if_neg other, kept.none_left lane' (by simpa [other] using opened), List.append_nil] }

/-! ## The answers -/

/-- The requests that were made and not refused so far. -/
def made (s : ZmqDataPlane) : List ActorRequest := s.accepted ++ s.clients.map Prod.fst

/-- The response channels are apart. -/
structure TicketsKept (s : ZmqDataPlane) : Prop where
  fresh : ∀ r ∈ s.made, r.ticket < s.nextTicket
  once : (s.made.map ActorRequest.ticket).Nodup

/-- A request that is made has a new ticket. -/
theorem TicketsKept.make (kept : s.TicketsKept) {r : ActorRequest} (made : r.ticket = s.nextTicket)
    (next : s'.nextTicket = s.nextTicket + 1) (perm : s'.made.Perm (r :: s.made)) : s'.TicketsKept where
  fresh := fun r' among => by
    rcases List.mem_cons.mp (perm.mem_iff.mp among) with rfl | before
    · omega
    · have := kept.fresh r' before
      omega
  once := by
    refine (perm.map ActorRequest.ticket).nodup_iff.mpr (List.nodup_cons.mpr ⟨fun among => ?_, kept.once⟩)
    obtain ⟨r', before, same⟩ := List.mem_map.mp among
    have := kept.fresh r' before
    omega

/-- No request is made. -/
theorem TicketsKept.sublist (kept : s.TicketsKept) (next : s.nextTicket ≤ s'.nextTicket) {rs : List ActorRequest}
    (perm : s'.made.Perm rs) (sublist : rs.Sublist s.made) : s'.TicketsKept where
  fresh := fun r among => (kept.fresh r (sublist.subset (perm.mem_iff.mp among))).trans_le next
  once := (perm.map ActorRequest.ticket).nodup_iff.mpr ((sublist.map ActorRequest.ticket).nodup kept.once)

theorem PlaneStep.ticketsKept (move : PlaneStep s s') (kept : s.TicketsKept) : s'.TicketsKept := by
  cases move with
  | same => exact kept
  | begins payload alive =>
    exact kept.make (r := { ticket := s.nextTicket, payload }) rfl rfl (by
      simp only [made, List.map_append, ← List.append_assoc]
      exact List.perm_append_singleton _ _)
  | counts r before after client | refuses r before after client | takesBack r before after client =>
    exact kept.sublist le_rfl (.refl _) (by simp [made, client])
  | accepts r before after client opened =>
    refine kept.sublist le_rfl ?_ (.refl s.made)
    simp only [made, client, List.map_append, List.map_cons, List.append_assoc, List.singleton_append]
    exact List.perm_middle.symm.append_left _
  | returns r before after client => exact kept.sublist le_rfl (.refl _) (by simp [made, client])
  | drops alive idle => exact kept.sublist (Nat.le_succ _) (.refl _) (.refl _)
  | dropsSending alive idle opened r sent =>
    exact kept.make (r := r) (by simp [sent]) rfl (by simp [made, idle])
  | acts next acts => cases acts with
    | answers r recorded answered answers known => cases answers <;> exact kept.sublist le_rfl (.refl _) (.refl _)
    | _ => exact kept.sublist le_rfl (.refl _) (.refl _)
  | _ => exact kept.sublist le_rfl (.refl _) (.refl _)

/-- Each request that was taken is answered, expired or held, once. -/
def Told (s : ZmqDataPlane) : Prop :=
  ∀ ticket, s.responses.count ticket + s.expired.count ticket + (s.held.toList.map ActorRequest.ticket).count ticket =
    (s.taken.map ActorRequest.ticket).count ticket

theorem Passes.held {phase : ActorPhase} (passes : s.Passes s.phase phase) :
    s.held = none ∧ ({ s with phase } : ZmqDataPlane).held = none := by
  unfold ZmqDataPlane.held
  generalize s.phase = before at passes ⊢
  cases passes <;> exact ⟨rfl, rfl⟩

theorem Takes.held {lane : Lane} {burst : Nat} (takes : s.Takes s.phase lane burst) : s.held = none := by
  unfold ZmqDataPlane.held
  generalize s.phase = phase at takes ⊢
  cases takes <;> rfl

theorem ActorStep.told (move : ActorStep s s') (told : s.Told) : s'.Told := by
  intro ticket
  have told := told ticket
  cases move with
  | passes phase passes => simpa [passes.held] using told
  | takes lane r rest burst front takes =>
    simp only [takes.held, Option.toList_none, List.map_nil, List.count_nil] at told
    simp [take, ZmqDataPlane.held]
    omega
  | countsOut r took | lanesOut r took => simpa [ZmqDataPlane.held, took] using told
  | expires r recorded =>
    simp [ZmqDataPlane.held, recorded] at told ⊢
    omega
  | answers r recorded answered answers known =>
    cases answers <;> simp [ZmqDataPlane.held, recorded] at told ⊢ <;> omega
  | rests => exact told

theorem PlaneStep.told (move : PlaneStep s s') (told : s.Told) : s'.Told := by
  cases move with
  | acts next acts => exact acts.told told
  | _ => exact told

/-! ## The burst -/

/-- While a control request waits the burst bounds what is taken from the other lane. -/
structure BurstKept (s : ZmqDataPlane) : Prop where
  within : s.waited ≤ s.sendBurst
  bounded : s.waited ≤ 32
  waiting : s.phase ≠ .stopped → 0 < s.waited → s.queue .control ≠ []
  try_send : s.phase = .trySend → s.sendBurst < 32 ∨ s.waited = 0
  wait_send : s.phase = .waitSend → s.waited = 0

/-- No control request waits, so none has waited. -/
theorem BurstKept.none_waited (kept : s.BurstKept) (running : s.phase ≠ .stopped) (empty : s.queue .control = []) : s.waited = 0 := by
  by_contra waited
  exact kept.waiting running (by omega) empty

/-- The actor is at another place, but at neither of its receives on the send lane. -/
theorem BurstKept.of_phase (kept : s.BurstKept) (running : s.phase ≠ .stopped) (waited : s'.waited = s.waited)
    (burst : s'.sendBurst = s.sendBurst) (queue : s'.queue = s.queue)
    (elsewhere : s'.phase ≠ .trySend ∧ s'.phase ≠ .waitSend) : s'.BurstKept where
  within := by simpa [waited, burst] using kept.within
  bounded := by simpa [waited] using kept.bounded
  waiting := fun _ => by simpa [waited, queue] using kept.waiting running
  try_send := fun place => absurd place elsewhere.1
  wait_send := fun place => absurd place elsewhere.2

theorem BurstKept.passes (kept : s.BurstKept) {phase : ActorPhase} (passes : s.Passes s.phase phase) :
    ({ s with phase } : ZmqDataPlane).BurstKept := by
  have running := passes.running
  generalize s.phase = before at passes
  cases passes with
  | burstShort short =>
    exact {
      kept with
      waiting := fun _ => kept.waiting running
      try_send := fun _ => short.imp id (kept.none_waited running)
      wait_send := nofun }
  | noControl empty =>
    exact { kept with waiting := fun _ => kept.waiting running, try_send := nofun, wait_send := fun _ => kept.none_waited running empty }
  | _ => exact kept.of_phase running rfl rfl rfl ⟨nofun, nofun⟩

/-- A request is taken from the send lane: it counts where a control request waits. -/
theorem BurstKept.of_take_send {r : ActorRequest} {rest : List ActorRequest} {burst : Nat}
    (counted : s.queue .control ≠ [] → s.waited + 1 ≤ burst ∧ s.waited + 1 ≤ 32) : (s.take .send r rest burst).BurstKept := by
  by_cases empty : s.queue .control = []
  · constructor <;> simp [take, empty]
  · obtain ⟨within, bounded⟩ := counted empty
    exact {
      within := by simpa [take, empty] using within
      bounded := by simpa [take, empty] using bounded
      waiting := fun _ _ => by simpa [take] using empty
      try_send := nofun
      wait_send := nofun }

theorem ActorStep.burstKept (move : ActorStep s s') (phase : s.PhaseKept) (kept : s.BurstKept) : s'.BurstKept := by
  cases move with
  | rests => exact kept
  | passes phase' passes => exact kept.passes passes
  | takes lane r rest burst front takes =>
    have running := takes.running
    generalize place : s.phase = before at takes
    cases takes with
    | burst | tryControl | lastControl => constructor <;> simp [take]
    | trySend =>
      refine .of_take_send fun _ => ?_
      have within := kept.within
      rcases kept.try_send place with short | none_waited <;> omega
    | waitSend =>
      refine .of_take_send fun _ => ?_
      have none_waited := kept.wait_send place
      omega
    | lastSend => exact .of_take_send fun waits => absurd (phase.last_send place).1 waits
  | countsOut r took | lanesOut r took => exact kept.of_phase (by simp [took]) rfl rfl rfl ⟨nofun, nofun⟩
  | expires r recorded => exact kept.of_phase (by simp [recorded]) rfl rfl rfl ⟨nofun, nofun⟩
  | answers r recorded answered answers known =>
    cases answers <;> exact kept.of_phase (by simp [recorded]) rfl rfl rfl ⟨nofun, nofun⟩

theorem PlaneStep.burstKept (move : PlaneStep s s') (phase : s.PhaseKept) (kept : s.BurstKept) : s'.BurstKept := by
  cases move with
  | same => exact kept
  | begins | counts | refuses | takesBack | returns | drops | sendSenderGoes | controlSenderGoes => exact { kept with }
  | accepts r before after client opened =>
    exact {
      kept with
      waiting := fun running waited => by
        have waits := kept.waiting running waited
        by_cases control : Lane.control = r.lane
        · simp [control]
        · simpa [update_queue, control] using waits }
  | dropsSending alive idle opened r made =>
    exact { kept with waiting := fun running waited => by simpa [update_queue] using kept.waiting running waited }
  | acts next acts => exact acts.burstKept phase kept
  | closes lane stopped =>
    exact {
      kept with
      waiting := fun running => absurd stopped running
      try_send := fun place => by simp [stopped] at place
      wait_send := fun place => by simp [stopped] at place }

end ZmqDataPlane
end TelemetryHub
