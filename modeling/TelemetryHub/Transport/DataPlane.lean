import Mathlib.Data.List.Count
import Mathlib.Data.List.Induction
import Mathlib.Logic.Function.Basic
import TelemetryHub.Json

/-!
# The data plane

Clients put requests on two bounded lanes, and an actor takes them and answers. A client counts
a request before it puts it there and takes the count back where the lane is full; the actor
counts it out after it has taken it. Every operation on a channel or a counter stands alone,
and others come in between.
-/

namespace TelemetryHub

/-! ## Requests -/

/-- `RchServiceIdentityConfig`. -/
structure ServiceIdentity where
  privateKey : List UInt8
  displayName : String
  capabilities : List String
  metadata : List (String × Value)

/-- `ZmqSdkActorPayload`, as far as the actor looks at it. -/
inductive ActorPayload where
  | single
  | batch
  | status
  | registerIdentity (config : ServiceIdentity)
  | updateIdentity (displayName : String) (capabilities : List String) (metadata : List (String × Value))
  | announce
  | pollEvents
  | messageHistory
  | shutdown

/-- The two lanes. -/
inductive Lane where
  | send
  | control
deriving DecidableEq

/-- `is_send_lane`. -/
def ActorPayload.lane : ActorPayload → Lane
  | .single | .batch | .shutdown => .send
  | _ => .control

/-- `ActorPayload::Shutdown`. -/
def ActorPayload.isShutdown : ActorPayload → Bool
  | .shutdown => true
  | _ => false

/-- `ZmqSdkActorRequest`: the ticket is its response channel. Only the request a plane makes as
it is dropped is not counted. -/
structure ActorRequest where
  ticket : Nat
  payload : ActorPayload
  counted : Bool := true

def ActorRequest.lane (r : ActorRequest) : Lane := r.payload.lane

/-- How many requests a lane holds. -/
def Lane.capacity : Lane → Nat
  | .send => 20000
  | .control => 1024

/-! ## The state -/

/-- Where a `try_enqueue` stands: the depth of the queues counts it, that of the lane does too,
the lane has refused it, the depth of the queues is taken back. -/
inductive EnqueuePhase where
  | depthAdded
  | laneAdded
  | refused
  | depthTakenBack
deriving DecidableEq

/-- `ZmqSdkActorSession`, as far as identities go. -/
structure ActorSession where
  identity : Option ServiceIdentity := none

/-- Where the actor stands: in `recv_prioritized_actor_request` at its four receives and the two
after a lane is gone, in `record_dequeued`, behind it, or behind the loop. -/
inductive ActorPhase where
  | burstCheck
  | trySend
  | tryControl
  | waitSend
  | lastControl
  | lastSend
  | took (r : ActorRequest)
  | depthRecorded (r : ActorRequest)
  | recorded (r : ActorRequest)
  | stopped

/-- What is left of a `ZmqDataPlane`: it is there, its `drop` has run, then its senders go. -/
inductive PlaneHandle where
  | alive
  | dropped
  | sendSenderGone
  | gone
deriving DecidableEq

/-- The plane, its clients and its actor; and what has happened. -/
structure ZmqDataPlane where
  queue : Lane → List ActorRequest := fun _ => []
  receiver : Lane → Bool := fun _ => true
  handle : PlaneHandle := .alive
  clients : List (ActorRequest × EnqueuePhase) := []
  queueDepth : Int := 0
  laneDepth : Lane → Int := fun _ => 0
  phase : ActorPhase := .burstCheck
  sendBurst : Nat := 0
  session : Option ActorSession := none
  serviceIdentity : Option ServiceIdentity := none
  nextTicket : Nat := 0
  /-- The requests a lane has accepted, and those the actor has taken, in turn. -/
  accepted : List ActorRequest := []
  taken : List ActorRequest := []
  /-- The tickets of the responses that were sent, and of the requests that had expired. -/
  responses : List Nat := []
  expired : List Nat := []
  /-- The requests that went with a receiver. -/
  left : List ActorRequest := []
  shutDown : Bool := false
  /-- The identities that were registered or updated. -/
  registered : List ServiceIdentity := []
  /-- The requests taken from the send lane in turn while one of the control lane waits. -/
  waited : Nat := 0

namespace ZmqDataPlane

/-- The sender of a lane is there. -/
def connected (s : ZmqDataPlane) : Lane → Bool
  | .send => s.handle = .alive || s.handle = .dropped
  | .control => s.handle ≠ .gone

/-! ## The clients -/

/-- `try_send`: the lane holds the request, or refuses it. -/
def trySend (s : ZmqDataPlane) (r : ActorRequest) : Option ZmqDataPlane :=
  if s.receiver r.lane && (s.queue r.lane).length < r.lane.capacity then
    some { s with queue := Function.update s.queue r.lane (s.queue r.lane ++ [r]), accepted := s.accepted ++ [r] }
  else none

/-- The next operation of a `try_enqueue`, and where it stands then. -/
def clientStep (s : ZmqDataPlane) (r : ActorRequest) : EnqueuePhase → ZmqDataPlane × Option EnqueuePhase
  | .depthAdded => ({ s with laneDepth := Function.update s.laneDepth r.lane (s.laneDepth r.lane + 1) }, some .laneAdded)
  | .laneAdded =>
    match s.trySend r with
    | some s' => (s', none)
    | none => (s, some .refused)
  -- `rollback_enqueued`
  | .refused => ({ s with queueDepth := s.queueDepth - 1 }, some .depthTakenBack)
  | .depthTakenBack => ({ s with laneDepth := Function.update s.laneDepth r.lane (s.laneDepth r.lane - 1) }, none)

/-! ## The actor -/

/-- What the session and the clock answer. -/
structure ActorOutcome where
  expired : Bool := false
  opened : Bool := true
  restored : Bool := true
  served : Bool := true

/-- `register_zmq_actor_identity`: whether the daemon took it, the session, and what was
registered. -/
def registerActorIdentity (session : ActorSession) (config : ServiceIdentity) (served : Bool) :
    Bool × ActorSession × List ServiceIdentity :=
  if served then (true, { session with identity := some config }, [config]) else (false, session, [])

/-- `send_lxmf_zmq_actor_request`. -/
def sendActorRequest (session : ActorSession) (served : Bool) : ActorPayload → Bool × ActorSession × List ServiceIdentity
  | .registerIdentity config => registerActorIdentity session config served
  | .updateIdentity displayName capabilities metadata =>
    match session.identity with
    | none => (false, session, [])
    | some config => registerActorIdentity session { config with displayName, capabilities, metadata } served
  | .shutdown => (true, session, [])
  | _ => (served, session, [])

/-- The service identity after a request that succeeds, where it is another. -/
def identityAfterRequest (serviceIdentity : Option ServiceIdentity) : ActorPayload → Option ServiceIdentity
  | .registerIdentity config => some config
  | .updateIdentity displayName capabilities metadata =>
    serviceIdentity.map fun config => { config with displayName, capabilities, metadata }
  | _ => none

/-- `send_actor_response`. -/
def respond (s : ZmqDataPlane) (r : ActorRequest) : ZmqDataPlane := { s with responses := s.responses ++ [r.ticket] }

/-- A session with the service identity, where it can be opened and the identity restored; and
what was registered then. -/
def openActorSession (s : ZmqDataPlane) (outcome : ActorOutcome) : Option (ActorSession × List ServiceIdentity) :=
  match s.session with
  | some session => some (session, [])
  | none =>
    if !outcome.opened then none
    else
      match s.serviceIdentity with
      | none => some ({}, [])
      | some identity =>
        let (restored, session, registered) := registerActorIdentity {} identity outcome.restored
        if restored then some (session, registered) else none

/-- The body of the loop of `run_zmq_data_plane_actor` behind `record_dequeued`. -/
def serveRequest (s : ZmqDataPlane) (r : ActorRequest) (outcome : ActorOutcome) : ZmqDataPlane :=
  if outcome.expired then { s with expired := s.expired ++ [r.ticket], phase := .burstCheck }
  else if r.payload.isShutdown && s.session.isNone then { s.respond r with phase := .stopped, shutDown := true }
  else
    match s.openActorSession outcome with
    | none => { s.respond r with phase := .burstCheck }
    | some (session, restored) =>
      let (served, session, registered) := sendActorRequest session outcome.served r.payload
      let s := s.respond r
      { s with
        session := if served then some session else none
        serviceIdentity := if served then (identityAfterRequest s.serviceIdentity r.payload).or s.serviceIdentity else s.serviceIdentity
        registered := s.registered ++ restored ++ registered
        phase := if r.payload.isShutdown then .stopped else .burstCheck
        shutDown := r.payload.isShutdown }

/-- A request is taken. -/
def take (s : ZmqDataPlane) (lane : Lane) (r : ActorRequest) (rest : List ActorRequest) (sendBurst : Nat) : ZmqDataPlane :=
  { s with
    queue := Function.update s.queue lane rest
    taken := s.taken ++ [r]
    phase := .took r
    sendBurst
    waited := if lane = .send ∧ s.queue .control ≠ [] then s.waited + 1 else 0 }

/-- The next operation of the actor. -/
def actorStep (s : ZmqDataPlane) (outcome : ActorOutcome) : ZmqDataPlane :=
  match s.phase with
  | .burstCheck =>
    if 32 ≤ s.sendBurst then
      match s.queue .control with
      | r :: rest => s.take .control r rest 0
      | [] => { s with phase := .trySend }
    else { s with phase := .trySend }
  | .trySend =>
    match s.queue .send with
    | r :: rest => s.take .send r rest (s.sendBurst + 1)
    | [] => { s with phase := if s.connected .send then .tryControl else .lastControl }
  | .tryControl =>
    match s.queue .control with
    | r :: rest => s.take .control r rest 0
    | [] => { s with phase := if s.connected .control then .waitSend else .lastSend }
  | .waitSend =>
    match s.queue .send with
    | r :: rest => s.take .send r rest (s.sendBurst + 1)
    -- the five milliseconds are over, or the lane is gone
    | [] => { s with phase := if s.connected .send then .burstCheck else .lastControl }
  | .lastControl =>
    match s.queue .control with
    | r :: rest => s.take .control r rest s.sendBurst
    | [] => if s.connected .control then s else { s with phase := .stopped }
  | .lastSend =>
    match s.queue .send with
    | r :: rest => s.take .send r rest s.sendBurst
    | [] => if s.connected .send then s else { s with phase := .stopped }
  -- `record_dequeued`
  | .took r => { s with queueDepth := max 0 (s.queueDepth - 1), phase := .depthRecorded r }
  | .depthRecorded r =>
    { s with laneDepth := Function.update s.laneDepth r.lane (max 0 (s.laneDepth r.lane - 1)), phase := .recorded r }
  | .recorded r => s.serveRequest r outcome
  | .stopped => s

/-! ## Runs -/

/-- The moves of a run: a client begins or goes on, the plane is dropped bit by bit, the actor
goes on, and behind its loop a receiver goes. -/
inductive DataPlaneMove where
  | enqueue (payload : ActorPayload)
  | client (index : Nat)
  | drop
  | actor (outcome : ActorOutcome)
  | close (lane : Lane)

/-- One move; one that is not possible changes nothing. -/
def step (s : ZmqDataPlane) : DataPlaneMove → ZmqDataPlane
  | .enqueue payload =>
    if s.handle = .alive then
      { s with
        queueDepth := s.queueDepth + 1
        clients := s.clients ++ [({ ticket := s.nextTicket, payload }, .depthAdded)]
        nextTicket := s.nextTicket + 1 }
    else s
  | .client index =>
    match s.clients[index]? with
    | none => s
    | some (r, phase) =>
      let (s', phase') := s.clientStep r phase
      match phase' with
      | some phase' => { s' with clients := s.clients.set index (r, phase') }
      | none => { s' with clients := s.clients.eraseIdx index }
  | .drop =>
    match s.handle with
    -- no client borrows a plane that is dropped
    | .alive =>
      if s.clients.isEmpty then
        let s' := { s with nextTicket := s.nextTicket + 1, handle := .dropped }
        (s'.trySend { ticket := s.nextTicket, payload := .shutdown, counted := false }).getD s'
      else s
    | .dropped => { s with handle := .sendSenderGone }
    | .sendSenderGone => { s with handle := .gone }
    | .gone => s
  | .actor outcome => s.actorStep outcome
  | .close lane =>
    match s.phase with
    | .stopped =>
      { s with
        queue := Function.update s.queue lane []
        receiver := Function.update s.receiver lane false
        left := s.left ++ s.queue lane }
    | _ => s

/-- A run from a new plane. -/
def run (moves : List DataPlaneMove) : ZmqDataPlane := moves.foldl step {}

theorem run_append (moves : List DataPlaneMove) (move : DataPlaneMove) : run (moves ++ [move]) = (run moves).step move := by
  simp [run]

/-- The request the actor has taken and not done with. -/
def held (s : ZmqDataPlane) : Option ActorRequest :=
  match s.phase with
  | .took r | .depthRecorded r | .recorded r => some r
  | _ => none

/-- The actor counts a request out. -/
def recording (s : ZmqDataPlane) : Bool :=
  match s.phase with
  | .took _ | .depthRecorded _ => true
  | _ => false

end ZmqDataPlane

end TelemetryHub
