import TelemetryHub.Transport.DataPlane

/-!
# Runs of the data plane

What one move can do is told once, in `PlaneStep`. Each invariant is kept by every alternative
of it, and so holds at the end of every run.
-/

namespace TelemetryHub
namespace ZmqDataPlane

/-! ## What a move can do -/

/-- The actor goes on and takes nothing. -/
inductive Passes (s : ZmqDataPlane) : ActorPhase → ActorPhase → Prop where
  | burstShort (short : s.sendBurst < 32 ∨ s.queue .control = []) : Passes s .burstCheck .trySend
  | noSend (empty : s.queue .send = []) : Passes s .trySend .tryControl
  | noControl (empty : s.queue .control = []) : Passes s .tryControl .waitSend
  | timeOver (empty : s.queue .send = []) : Passes s .waitSend .burstCheck
  | trySendGone (empty : s.queue .send = []) (gone : s.connected .send = false) : Passes s .trySend .lastControl
  | waitSendGone (empty : s.queue .send = []) (gone : s.connected .send = false) : Passes s .waitSend .lastControl
  | controlGone (empty : s.queue .control = []) (gone : s.connected .control = false) : Passes s .tryControl .lastSend
  | lastControlGone (empty : s.queue .control = []) (gone : s.connected .control = false) : Passes s .lastControl .stopped
  | lastSendGone (empty : s.queue .send = []) (gone : s.connected .send = false) : Passes s .lastSend .stopped

/-- The actor takes a request of a lane; the burst after it. -/
inductive Takes (s : ZmqDataPlane) : ActorPhase → Lane → Nat → Prop where
  | burst : Takes s .burstCheck .control 0
  | trySend : Takes s .trySend .send (s.sendBurst + 1)
  | tryControl : Takes s .tryControl .control 0
  | waitSend : Takes s .waitSend .send (s.sendBurst + 1)
  | lastControl : Takes s .lastControl .control s.sendBurst
  | lastSend : Takes s .lastSend .send s.sendBurst

/-- The session has the service identity, and that is the last that was registered. -/
structure SessionKnown (s : ZmqDataPlane) : Prop where
  last_registered : s.serviceIdentity = s.registered.getLast?
  of_session : ∀ session, s.session = some session → session.identity = s.serviceIdentity

/-- What a response leaves of the plane: the loop is over after a shutdown alone. -/
inductive Answers (s : ZmqDataPlane) (r : ActorRequest) : ZmqDataPlane → Prop where
  | goesOn (session : Option ActorSession) (identity : Option ServiceIdentity) (registered : List ServiceIdentity) (shutDown : Bool)
      (unless_down : shutDown = true → s.shutDown = true) :
      Answers s r { s with
        responses := s.responses ++ [r.ticket], session, serviceIdentity := identity, registered, shutDown, phase := .burstCheck }
  | ends (session : Option ActorSession) (identity : Option ServiceIdentity) (registered : List ServiceIdentity) :
      Answers s r { s with
        responses := s.responses ++ [r.ticket], session, serviceIdentity := identity, registered, shutDown := true, phase := .stopped }

/-- One operation of the actor. It rests behind the loop, or on its last lane while that is empty. -/
inductive ActorStep (s : ZmqDataPlane) : ZmqDataPlane → Prop where
  | rests (resting : s.phase = .stopped ∨ s.phase = .lastControl ∧ s.queue .control = [] ∨ s.phase = .lastSend ∧ s.queue .send = []) :
      ActorStep s s
  | passes (phase : ActorPhase) (passes : Passes s s.phase phase) : ActorStep s { s with phase }
  | takes (lane : Lane) (r : ActorRequest) (rest : List ActorRequest) (sendBurst : Nat) (front : s.queue lane = r :: rest)
      (takes : Takes s s.phase lane sendBurst) : ActorStep s (s.take lane r rest sendBurst)
  | countsOut (r : ActorRequest) (took : s.phase = .took r) :
      ActorStep s { s with queueDepth := max 0 (s.queueDepth - 1), phase := .depthRecorded r }
  | lanesOut (r : ActorRequest) (took : s.phase = .depthRecorded r) :
      ActorStep s { s with
        laneDepth := Function.update s.laneDepth r.lane (max 0 (s.laneDepth r.lane - 1)), phase := .recorded r }
  | expires (r : ActorRequest) (recorded : s.phase = .recorded r) :
      ActorStep s { s with expired := s.expired ++ [r.ticket], phase := .burstCheck }
  | answers (r : ActorRequest) (recorded : s.phase = .recorded r) (answered : ZmqDataPlane) (answers : Answers s r answered)
      (known : s.SessionKnown → answered.SessionKnown) : ActorStep s answered

/-- One move, as far as it changes anything. -/
inductive PlaneStep (s : ZmqDataPlane) : ZmqDataPlane → Prop where
  | same : PlaneStep s s
  | begins (payload : ActorPayload) (alive : s.handle = .alive) :
      PlaneStep s { s with
        queueDepth := s.queueDepth + 1
        clients := s.clients ++ [({ ticket := s.nextTicket, payload }, .depthAdded)]
        nextTicket := s.nextTicket + 1 }
  | counts (r : ActorRequest) (before after : List (ActorRequest × EnqueuePhase))
      (client : s.clients = before ++ (r, .depthAdded) :: after) :
      PlaneStep s { s with
        laneDepth := Function.update s.laneDepth r.lane (s.laneDepth r.lane + 1)
        clients := before ++ (r, .laneAdded) :: after }
  | accepts (r : ActorRequest) (before after : List (ActorRequest × EnqueuePhase))
      (client : s.clients = before ++ (r, .laneAdded) :: after) (opened : s.receiver r.lane = true) :
      PlaneStep s { s with
        queue := Function.update s.queue r.lane (s.queue r.lane ++ [r])
        accepted := s.accepted ++ [r]
        clients := before ++ after }
  | refuses (r : ActorRequest) (before after : List (ActorRequest × EnqueuePhase))
      (client : s.clients = before ++ (r, .laneAdded) :: after) :
      PlaneStep s { s with clients := before ++ (r, .refused) :: after }
  | takesBack (r : ActorRequest) (before after : List (ActorRequest × EnqueuePhase))
      (client : s.clients = before ++ (r, .refused) :: after) :
      PlaneStep s { s with queueDepth := s.queueDepth - 1, clients := before ++ (r, .depthTakenBack) :: after }
  | returns (r : ActorRequest) (before after : List (ActorRequest × EnqueuePhase))
      (client : s.clients = before ++ (r, .depthTakenBack) :: after) :
      PlaneStep s { s with
        laneDepth := Function.update s.laneDepth r.lane (s.laneDepth r.lane - 1)
        clients := before ++ after }
  | drops (alive : s.handle = .alive) (idle : s.clients = []) :
      PlaneStep s { s with nextTicket := s.nextTicket + 1, handle := .dropped }
  | dropsSending (alive : s.handle = .alive) (idle : s.clients = []) (opened : s.receiver .send = true)
      (r : ActorRequest) (made : r = { ticket := s.nextTicket, payload := .shutdown, counted := false }) :
      PlaneStep s { s with
        nextTicket := s.nextTicket + 1
        handle := .dropped
        queue := Function.update s.queue .send (s.queue .send ++ [r])
        accepted := s.accepted ++ [r] }
  | sendSenderGoes (dropped : s.handle = .dropped) : PlaneStep s { s with handle := .sendSenderGone }
  | controlSenderGoes (dropped : s.handle = .sendSenderGone) : PlaneStep s { s with handle := .gone }
  | acts (next : ZmqDataPlane) (acts : ActorStep s next) : PlaneStep s next
  | closes (lane : Lane) (stopped : s.phase = .stopped) :
      PlaneStep s { s with
        queue := Function.update s.queue lane []
        receiver := Function.update s.receiver lane false
        left := s.left ++ s.queue lane }

variable {s s' : ZmqDataPlane}

/-- A list around one of its elements. -/
theorem around {α : Type} {l : List α} {index : Nat} {x : α} (found : l[index]? = some x) :
    ∃ before after, l = before ++ x :: after ∧ (∀ y, l.set index y = before ++ y :: after) ∧ l.eraseIdx index = before ++ after := by
  obtain ⟨inside, rfl⟩ := List.getElem?_eq_some_iff.mp found
  refine ⟨l.take index, l.drop (index + 1), ?_, fun y => ?_, List.eraseIdx_eq_take_drop_succ ..⟩
  · rw [← List.drop_eq_getElem_cons inside, List.take_append_drop]
  · rw [List.set_eq_take_append_cons_drop, if_pos inside]

theorem trySend_some {r : ActorRequest} (sent : s.trySend r = some s') :
    s.receiver r.lane = true ∧
      s' = { s with queue := Function.update s.queue r.lane (s.queue r.lane ++ [r]), accepted := s.accepted ++ [r] } := by
  unfold trySend at sent
  split at sent
  case isTrue room => exact ⟨(Bool.and_eq_true_iff.mp room).1, (Option.some.inj sent).symm⟩
  case isFalse => cases sent

theorem client_step (index : Nat) : PlaneStep s (s.step (.client index)) := by
  simp only [step]
  cases found : s.clients[index]? with
  | none => exact .same
  | some client =>
    obtain ⟨r, phase⟩ := client
    obtain ⟨before, after, clients, set, erase⟩ := around found
    cases phase with
    | depthAdded => simpa only [clientStep, set] using PlaneStep.counts r before after clients
    | laneAdded =>
      cases sent : s.trySend r with
      | none => simpa only [clientStep, sent, set] using PlaneStep.refuses r before after clients
      | some s' =>
        obtain ⟨opened, rfl⟩ := trySend_some sent
        simpa only [clientStep, sent, erase] using PlaneStep.accepts r before after clients opened
    | refused => simpa only [clientStep, set] using PlaneStep.takesBack r before after clients
    | depthTakenBack => simpa only [clientStep, erase] using PlaneStep.returns r before after clients

theorem drop_step : PlaneStep s (s.step .drop) := by
  simp only [step]
  cases handle : s.handle with
  | alive =>
    by_cases idle : s.clients = []
    · rw [if_pos (List.isEmpty_iff.mpr idle)]
      cases sent : trySend { s with nextTicket := s.nextTicket + 1, handle := .dropped }
          { ticket := s.nextTicket, payload := .shutdown, counted := false } with
      | none => exact .drops handle idle
      | some s' =>
        obtain ⟨opened, rfl⟩ := trySend_some sent
        exact .dropsSending handle idle opened _ rfl
    · simpa [idle] using PlaneStep.same
  | dropped => exact .sendSenderGoes handle
  | sendSenderGone => exact .controlSenderGoes handle
  | gone => exact .same

/-- A registration that is served is the last one. -/
theorem registerActorIdentity_known {registered : List ServiceIdentity} {session : ActorSession} {config : ServiceIdentity}
    {served : Bool} : (registerActorIdentity session config served).1 = true →
      (registerActorIdentity session config served).2.1.identity = some config ∧
        (registered ++ (registerActorIdentity session config served).2.2).getLast? = some config := by
  cases served <;> simp [registerActorIdentity]

/-- Opening a session keeps what is known of it. -/
theorem openActorSession_known {outcome : ActorOutcome} {session : ActorSession} {restored : List ServiceIdentity}
    (opened : s.openActorSession outcome = some (session, restored)) (known : s.SessionKnown) :
    session.identity = s.serviceIdentity ∧ s.serviceIdentity = (s.registered ++ restored).getLast? := by
  unfold openActorSession at opened
  cases current : s.session with
  | some session' =>
    obtain ⟨rfl, rfl⟩ : session' = session ∧ [] = restored := by simpa [current] using opened
    exact ⟨known.of_session _ current, by simpa using known.last_registered⟩
  | none =>
    simp only [current] at opened
    split at opened
    · cases opened
    · cases identity : s.serviceIdentity with
      | none =>
        obtain ⟨rfl, rfl⟩ : {} = session ∧ [] = restored := by simpa [identity] using opened
        exact ⟨rfl, by simpa [identity] using known.last_registered⟩
      | some config =>
        simp only [identity] at opened
        split at opened
        case isTrue served =>
          obtain ⟨rfl, rfl⟩ := Prod.mk.inj (Option.some.inj opened)
          exact (registerActorIdentity_known served).imp id Eq.symm
        case isFalse => cases opened

/-- A request that is served leaves the session with the identity it should have. -/
theorem sendActorRequest_known {session : ActorSession} (payload : ActorPayload) (served : Bool)
    {identity : Option ServiceIdentity} {registered : List ServiceIdentity}
    (of_session : session.identity = identity) (last : identity = registered.getLast?) :
    let answer := sendActorRequest session served payload
    (answer.1 = true → answer.2.1.identity = (identityAfterRequest identity payload).or identity) ∧
      (if answer.1 then (identityAfterRequest identity payload).or identity else identity) =
        (registered ++ answer.2.2).getLast? := by
  cases payload with
  | registerIdentity config => cases served <;> simp [sendActorRequest, registerActorIdentity, identityAfterRequest, last]
  | updateIdentity displayName capabilities metadata =>
    cases current : session.identity with
    | none =>
      obtain rfl : identity = none := by rw [← of_session, current]
      simpa [sendActorRequest, current] using last
    | some config =>
      obtain rfl : identity = some config := by rw [← of_session, current]
      cases served <;> simp [sendActorRequest, current, registerActorIdentity, identityAfterRequest, ← last]
  | _ => simp [sendActorRequest, identityAfterRequest, of_session, last]

theorem serve_step {r : ActorRequest} (outcome : ActorOutcome) (recorded : s.phase = .recorded r) :
    ActorStep s (s.serveRequest r outcome) := by
  unfold serveRequest
  split
  · exact .expires r recorded
  split
  · exact .answers r recorded _ (.ends ..) fun known => ⟨known.last_registered, known.of_session⟩
  split
  case h_1 => exact .answers r recorded _ (.goesOn _ _ _ _ id) fun known => ⟨known.last_registered, known.of_session⟩
  case h_2 session restored opened =>
    have served_known (known : s.SessionKnown) :=
      let ⟨of_session, last⟩ := openActorSession_known opened known
      sendActorRequest_known r.payload outcome.served of_session last
    generalize sendActorRequest session outcome.served r.payload = answer at served_known ⊢
    obtain ⟨served, session, registered⟩ := answer
    have of_session (known : s.SessionKnown) (session' : ActorSession) (kept : (if served then some session else none) = some session') :
        session'.identity =
          if served then (identityAfterRequest s.serviceIdentity r.payload).or s.serviceIdentity else s.serviceIdentity := by
      cases served with
      | true =>
        obtain rfl := Option.some.inj kept
        exact (served_known known).1 rfl
      | false => cases kept
    cases down : r.payload.isShutdown with
    | true => exact .answers r recorded _ (.ends ..) fun known => ⟨(served_known known).2, of_session known⟩
    | false => exact .answers r recorded _ (.goesOn _ _ _ false nofun) fun known => ⟨(served_known known).2, of_session known⟩

theorem actor_step (outcome : ActorOutcome) : ActorStep s (s.step (.actor outcome)) := by
  simp only [step, actorStep]
  split
  case h_1 phase =>
    split
    case isTrue long =>
      split
      case h_1 r rest front => exact .takes .control r rest 0 front (phase ▸ .burst)
      case h_2 empty => exact .passes _ (phase ▸ .burstShort (.inr empty))
    case isFalse short => exact .passes _ (phase ▸ .burstShort (.inl (by omega)))
  case h_2 phase =>
    split
    case h_1 r rest front => exact .takes .send r rest _ front (phase ▸ .trySend)
    case h_2 empty =>
      cases gone : s.connected .send with
      | true => exact .passes _ (phase ▸ .noSend empty)
      | false => exact .passes _ (phase ▸ .trySendGone empty gone)
  case h_3 phase =>
    split
    case h_1 r rest front => exact .takes .control r rest 0 front (phase ▸ .tryControl)
    case h_2 empty =>
      cases gone : s.connected .control with
      | true => exact .passes _ (phase ▸ .noControl empty)
      | false => exact .passes _ (phase ▸ .controlGone empty gone)
  case h_4 phase =>
    split
    case h_1 r rest front => exact .takes .send r rest _ front (phase ▸ .waitSend)
    case h_2 empty =>
      cases gone : s.connected .send with
      | true => exact .passes _ (phase ▸ .timeOver empty)
      | false => exact .passes _ (phase ▸ .waitSendGone empty gone)
  case h_5 phase =>
    split
    case h_1 r rest front => exact .takes .control r rest _ front (phase ▸ .lastControl)
    case h_2 empty =>
      cases gone : s.connected .control with
      | true => exact .rests (.inr (.inl ⟨phase, empty⟩))
      | false => exact .passes _ (phase ▸ .lastControlGone empty gone)
  case h_6 phase =>
    split
    case h_1 r rest front => exact .takes .send r rest _ front (phase ▸ .lastSend)
    case h_2 empty =>
      cases gone : s.connected .send with
      | true => exact .rests (.inr (.inr ⟨phase, empty⟩))
      | false => exact .passes _ (phase ▸ .lastSendGone empty gone)
  case h_7 r phase => exact .countsOut r phase
  case h_8 r phase => exact .lanesOut r phase
  case h_9 r phase => exact serve_step outcome phase
  case h_10 phase => exact .rests (.inl phase)

theorem step_cases (move : DataPlaneMove) : PlaneStep s (s.step move) := by
  cases move with
  | enqueue payload =>
    simp only [step]
    split
    case isTrue alive => exact .begins payload alive
    case isFalse => exact .same
  | client index => exact client_step index
  | drop => exact drop_step
  | actor outcome => exact .acts _ (actor_step outcome)
  | close lane =>
    simp only [step]
    split
    case h_1 stopped => exact .closes lane stopped
    case h_2 => exact .same

end ZmqDataPlane
end TelemetryHub
