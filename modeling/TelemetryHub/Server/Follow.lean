import TelemetryHub.Server.Freshest
import TelemetryHub.Server.Recipients

/-!
# Following the telemetry

A subscription on the telemetry socket is served in three steps: the records that are in
memory are read for the snapshot, the subscribers of the topic are looked up, and the
channel is subscribed to. Calls of `record_telemetry` go on between them. What the channel
carries after that is sent as it comes, through the filter that was looked up.
-/

namespace TelemetryHub

open Lib

/-! ## The snapshot -/

section Snapshot

variable [ServerHost]

/-- `json_f64`. -/
def jsonF64 (value : Value) (key : String) : Option Float := (value.get key).bind valueAsF64

/-- `telemetry_has_location`. -/
def telemetryHasLocation (telemetry : Value) : Bool :=
  (telemetry.get "location").any fun location =>
    (jsonF64 location "latitude").isSome && (jsonF64 location "longitude").isSome

omit [ServerHost] in
/-- `telemetry_matches_subscription`. -/
def telemetryMatchesSubscription (record : TelemetryRecord) (allowedDestinations : Option (List String)) : Bool :=
  allowedDestinations.all fun destinations => destinations.contains record.peerDestination

/-- The conditions on an entry. -/
def entryMatches (since : Int) (allowedDestinations : Option (List String)) (record : TelemetryRecord) : Bool :=
  !(record.timestampS < since || !telemetryHasLocation record.telemetry) &&
    telemetryMatchesSubscription record allowedDestinations

omit [ServerHost] in
/-- The loop of `telemetry_entries_for_query`: the first record of every peer. -/
def firstOfPeers (wanted : TelemetryRecord → Bool) : HSet String → List TelemetryRecord → List TelemetryRecord
  | _, [] => []
  | seenPeers, record :: records =>
    if !wanted record then firstOfPeers wanted seenPeers records
    else if seenPeers.contains record.peerDestination then firstOfPeers wanted seenPeers records
    else record :: firstOfPeers wanted (seenPeers.insert record.peerDestination) records

omit [ServerHost] in
/-- The records, the latest first and of one time the last first. -/
def latestFirst (records : List TelemetryRecord) : List TelemetryRecord :=
  (sortBy (fun left right => (compare right.1.timestampS left.1.timestampS).then (compare right.2 left.2))
    records.zipIdx).map Prod.fst

/-- The entries of `telemetry_entries_for_query`. -/
def telemetryEntries (records : List TelemetryRecord) (since : Int) (allowedDestinations : Option (List String)) :
    List TelemetryRecord := firstOfPeers (entryMatches since allowedDestinations) ∅ (latestFirst records)

omit [ServerHost] in
/-- `topic_subscriber_destinations`; a lock that is poisoned is an error. -/
def lookUpSubscribers (s : AppState) (poisoned : Option String) (topicId : String) : Except ApiError (List String) :=
  match poisoned with
  | some error => .error (.internal error)
  | none => .ok (s.topicSubscriberDestinations topicId)

/-- `telemetry_entries_for_query`. -/
def telemetryEntriesForQuery (s : AppState) (poisoned : Option String) (since : Int) (topicId : Option String) :
    Except ApiError (List TelemetryRecord) :=
  match normalizeOptionalText topicId with
  | none => .ok (telemetryEntries s.telemetryRecords since none)
  | some topicId =>
    if s.topics.contains topicId then
      (lookUpSubscribers s poisoned topicId).map fun destinations =>
        telemetryEntries s.telemetryRecords since (some destinations)
    else .error (.notFound ("\"Topic '" ++ topicId ++ "' not found\""))

end Snapshot

/-! ## The socket -/

/-- The `data` of a `telemetry.subscribe`. -/
structure TelemetryRequest where
  since : Int
  topicId : Option String
  follow : Bool

/-- What is sent. -/
inductive TelemetryFrame where
  | snapshot (entries : List TelemetryRecord)
  | update (entry : TelemetryRecord)
  | error (code message : String)

/-- How far `handle_telemetry_socket` is with a request. -/
inductive TelemetryHandling where
  | waiting
  | queried (request : TelemetryRequest) (entries : List TelemetryRecord)
  | lookedUp (request : TelemetryRequest) (entries : List TelemetryRecord)

/-- The socket: its filter, what its receiver holds, and what has been sent. -/
structure TelemetrySocket where
  handling : TelemetryHandling := .waiting
  allowedDestinations : Option (List String) := none
  eventReceiver : Option (List TelemetryRecord) := none
  frames : List TelemetryFrame := []

/-- The frame a query that fails is answered with. -/
def queryErrorFrame : ApiError → TelemetryFrame
  | .notFound detail => .error "not_found" detail
  | .badRequest detail => .error "bad_request" detail
  | error => .error "service_unavailable" error.text

/-- The calls of `record_telemetry` and the socket. -/
structure FollowSystem where
  telemetry : TelemetrySystem
  socket : TelemetrySocket

/-- The moves of a run: a move of a call, the three steps of a request, and the handling of
an event. -/
inductive FollowMove where
  | telemetry (move : TelemetryMove)
  | query (request : TelemetryRequest) (poisoned : Option String)
  | lookUp (poisoned : Option String)
  | follow
  | receive

/-- What a move of a call broadcasts. -/
def TelemetrySystem.broadcasts (s : TelemetrySystem) : TelemetryMove → List TelemetryRecord
  | .tell index =>
    match s.threads[index]? with
    | some thread => if thread.written then [thread.record] else []
    | none => []
  | _ => []

namespace FollowSystem

/-- The steps of the socket. -/
def stepSocket [ServerHost] (state : AppState) (socket : TelemetrySocket) : FollowMove → TelemetrySocket
  | .telemetry _ => socket
  | .query request poisoned =>
    match socket.handling with
    | .waiting =>
      match telemetryEntriesForQuery state poisoned request.since request.topicId with
      | .ok entries => { socket with handling := .queried request entries }
      | .error error => { socket with frames := socket.frames ++ [queryErrorFrame error] }
    | _ => socket
  | .lookUp poisoned =>
    match socket.handling with
    | .queried request entries =>
      match normalizeOptionalText request.topicId with
      | none => { socket with handling := .lookedUp request entries, allowedDestinations := none }
      | some topicId =>
        match lookUpSubscribers state poisoned topicId with
        | .ok destinations => { socket with handling := .lookedUp request entries, allowedDestinations := some destinations }
        -- the filter is dropped, and the subscription goes on
        | .error error =>
          { socket with
            handling := .lookedUp request entries
            allowedDestinations := none
            frames := socket.frames ++ [.error "service_unavailable" error.text] }
    | _ => socket
  | .follow =>
    match socket.handling with
    | .lookedUp request entries =>
      { socket with
        handling := .waiting
        eventReceiver := if request.follow then some [] else none
        frames := socket.frames ++ [.snapshot entries] }
    | _ => socket
  | .receive =>
    match socket.handling, socket.eventReceiver with
    | .waiting, some (record :: rest) =>
      { socket with
        eventReceiver := some rest
        frames :=
          if telemetryMatchesSubscription record socket.allowedDestinations then socket.frames ++ [.update record]
          else socket.frames }
    | _, _ => socket

/-- One move. -/
def step [ServerHost] (s : FollowSystem) : FollowMove → FollowSystem
  | .telemetry move =>
    { telemetry := s.telemetry.step move
      socket := { s.socket with eventReceiver := s.socket.eventReceiver.map (· ++ s.telemetry.broadcasts move) } }
  | move => { s with socket := stepSocket s.telemetry.state s.socket move }

/-- A run. -/
def run [ServerHost] (s : FollowSystem) (moves : List FollowMove) : FollowSystem := moves.foldl step s

/-- What is broadcast in a run. -/
def told (s : TelemetrySystem) : List FollowMove → List TelemetryRecord
  | [] => []
  | .telemetry move :: moves => s.broadcasts move ++ told (s.step move) moves
  | _ :: moves => told s moves

end FollowSystem

/-! ## What is in a snapshot -/

section Entries

variable {wanted : TelemetryRecord → Bool} {records : List TelemetryRecord} {record : TelemetryRecord}

theorem firstOfPeers_sound {seenPeers : HSet String} (mem : record ∈ firstOfPeers wanted seenPeers records) :
    record ∈ records ∧ wanted record = true := by
  induction records generalizing seenPeers with
  | nil => cases mem
  | cons first records ih =>
    rw [firstOfPeers] at mem
    split at mem
    · exact ⟨List.mem_cons_of_mem first (ih mem).1, (ih mem).2⟩
    · rename_i passes
      split at mem
      · exact ⟨List.mem_cons_of_mem first (ih mem).1, (ih mem).2⟩
      · obtain rfl | rest := List.mem_cons.1 mem
        · exact ⟨List.mem_cons_self, by simpa using passes⟩
        · exact ⟨List.mem_cons_of_mem first (ih rest).1, (ih rest).2⟩

/-- A record that is wanted has an entry of its peer that stands no later. -/
theorem firstOfPeers_complete {seenPeers : HSet String}
    (sorted : records.Pairwise fun earlier later => later.timestampS ≤ earlier.timestampS) (mem : record ∈ records)
    (passes : wanted record = true) (unseen : record.peerDestination ∉ seenPeers) :
    ∃ entry ∈ firstOfPeers wanted seenPeers records, entry.peerDestination = record.peerDestination ∧
      record.timestampS ≤ entry.timestampS := by
  induction records generalizing seenPeers with
  | nil => cases mem
  | cons first records ih =>
    obtain ⟨later, sorted⟩ := List.pairwise_cons.1 sorted
    rw [firstOfPeers]
    obtain rfl | rest := List.mem_cons.1 mem
    · rw [passes, if_neg (by simp), if_neg (by rwa [HSet.contains_iff])]
      exact ⟨record, List.mem_cons_self, rfl, Int.le_refl _⟩
    · split
      · exact ih sorted rest unseen
      · split
        · exact ih sorted rest unseen
        · by_cases same : record.peerDestination = first.peerDestination
          · exact ⟨first, List.mem_cons_self, same.symm, later record rest⟩
          · have unseen' : record.peerDestination ∉ seenPeers.insert first.peerDestination := by
              rw [HSet.mem_insert]
              exact fun either => either.elim same unseen
            obtain ⟨entry, there, peer, late⟩ := ih sorted rest unseen'
            exact ⟨entry, List.mem_cons_of_mem first there, peer, late⟩

theorem latestFirst_perm : (latestFirst records).Perm records := by
  have perm := (List.perm_insertionSort (fun left right : TelemetryRecord × Nat =>
    (compare right.1.timestampS left.1.timestampS).then (compare right.2 left.2) ≠ .gt) records.zipIdx).map Prod.fst
  rw [List.zipIdx_map_fst] at perm
  exact perm

theorem before_iff {left right : TelemetryRecord × Nat} :
    (compare right.1.timestampS left.1.timestampS).then (compare right.2 left.2) ≠ .gt ↔
      right.1.timestampS < left.1.timestampS ∨ right.1.timestampS = left.1.timestampS ∧ right.2 ≤ left.2 := by
  rw [Ne, Ordering.then_eq_gt, compare_gt_iff_gt, compare_eq_iff_eq, compare_gt_iff_gt]
  omega

theorem latestFirst_sorted :
    (latestFirst records).Pairwise fun earlier later => later.timestampS ≤ earlier.timestampS := by
  have total : Std.Total fun left right : TelemetryRecord × Nat =>
      (compare right.1.timestampS left.1.timestampS).then (compare right.2 left.2) ≠ .gt := by
    constructor
    intro left right
    rw [before_iff, before_iff]
    omega
  have trans : IsTrans (TelemetryRecord × Nat) fun left right =>
      (compare right.1.timestampS left.1.timestampS).then (compare right.2 left.2) ≠ .gt := by
    constructor
    intro first middle last
    rw [before_iff, before_iff, before_iff]
    omega
  rw [latestFirst, List.pairwise_map, sortBy]
  apply (List.pairwise_insertionSort _ records.zipIdx).imp
  intro earlier later before
  rw [before_iff] at before
  omega

/-- The snapshot holds of every peer that is allowed the latest record with a location. -/
theorem telemetryEntries_spec [ServerHost] (records : List TelemetryRecord) (since : Int) (allowed : Option (List String)) :
    (∀ record ∈ records, entryMatches since allowed record = true →
      ∃ entry ∈ telemetryEntries records since allowed, entry.peerDestination = record.peerDestination ∧
        record.timestampS ≤ entry.timestampS) ∧
    ∀ entry ∈ telemetryEntries records since allowed, entry ∈ records ∧ entryMatches since allowed entry = true := by
  constructor
  · intro record mem passes
    exact firstOfPeers_complete latestFirst_sorted (latestFirst_perm.mem_iff.2 mem) passes (HSet.not_mem_empty _)
  · intro entry mem
    obtain ⟨there, passes⟩ := firstOfPeers_sound mem
    exact ⟨latestFirst_perm.mem_iff.1 there, passes⟩

end Entries

/-! ## The run of a subscription -/

namespace FollowSystem

variable [ServerHost] {s : FollowSystem} {moves more : List FollowMove} {calls : List TelemetryMove}

theorem run_append : s.run (moves ++ more) = (s.run moves).run more := List.foldl_append ..

theorem run_one (move : FollowMove) : s.run [move] = s.step move := rfl

theorem run_cons (move : FollowMove) : s.run (move :: moves) = (s.step move).run moves := rfl

omit [ServerHost] in
/-- The calls touch no topic and no subscriber. -/
theorem step_subscribers (t : TelemetrySystem) (move : TelemetryMove) :
    (t.step move).state.topics = t.state.topics ∧ (t.step move).state.subscribers = t.state.subscribers := by
  have stepped := t.stepped move
  generalize t.step move = after at stepped
  cases stepped with
  | own call own => exact ⟨rfl, rfl⟩
  | older call existing newer => exact ⟨rfl, rfl⟩
  | kept call foreign newest =>
    unfold TelemetrySystem.withRecord
    dsimp only
    exact ⟨rfl, rfl⟩
  | written index thread found unwritten unlocked => exact ⟨rfl, rfl⟩
  | failed index thread found unwritten locked => exact ⟨rfl, rfl⟩
  | told index thread found written => exact ⟨rfl, rfl⟩
  | missed index _ idle => exact ⟨rfl, rfl⟩

omit [ServerHost] in
theorem run_subscribers (t : TelemetrySystem) (calls : List TelemetryMove) :
    (t.run calls).state.topics = t.state.topics ∧ (t.run calls).state.subscribers = t.state.subscribers := by
  induction calls generalizing t with
  | nil => exact ⟨rfl, rfl⟩
  | cons move calls ih =>
    obtain ⟨topics, subscribers⟩ := ih (t.step move)
    obtain ⟨topics', subscribers'⟩ := step_subscribers t move
    exact ⟨topics.trans topics', subscribers.trans subscribers'⟩

/-- While calls go on the socket does nothing but receive. -/
theorem run_calls : s.run (calls.map .telemetry) =
    { telemetry := s.telemetry.run calls
      socket := { s.socket with
        eventReceiver := s.socket.eventReceiver.map (· ++ told s.telemetry (calls.map .telemetry)) } } := by
  induction calls generalizing s with
  | nil =>
    obtain ⟨telemetry, handling, allowed, receiver, frames⟩ := s
    cases receiver with
    | none => rfl
    | some queue =>
      have same : queue ++ told telemetry (List.map FollowMove.telemetry []) = queue := List.append_nil _
      show FollowSystem.mk telemetry ⟨handling, allowed, some queue, frames⟩ =
        ⟨telemetry, ⟨handling, allowed, some (queue ++ told telemetry (List.map FollowMove.telemetry [])), frames⟩⟩
      rw [same]
  | cons move calls ih =>
    rw [List.map_cons, run_cons, ih]
    obtain ⟨telemetry, handling, allowed, receiver, frames⟩ := s
    cases receiver with
    | none => rfl
    | some queue =>
      have same : queue ++ telemetry.broadcasts move ++ told (telemetry.step move) (calls.map .telemetry) =
          queue ++ told telemetry (.telemetry move :: calls.map .telemetry) := List.append_assoc ..
      show FollowSystem.mk ((telemetry.step move).run calls) ⟨handling, allowed,
          some (queue ++ telemetry.broadcasts move ++ told (telemetry.step move) (calls.map .telemetry)), frames⟩ =
        ⟨(telemetry.step move).run calls, ⟨handling, allowed,
          some (queue ++ told telemetry (.telemetry move :: calls.map .telemetry)), frames⟩⟩
      rw [same]

omit [ServerHost] in
/-- The first event of the queue is handled. -/
def handled (s : FollowSystem) (record : TelemetryRecord) (rest : List TelemetryRecord) : FollowSystem :=
  { s with socket := { s.socket with
      eventReceiver := some rest
      frames :=
        if telemetryMatchesSubscription record s.socket.allowedDestinations then s.socket.frames ++ [.update record]
        else s.socket.frames } }

theorem step_receive (waiting : s.socket.handling = .waiting) {record : TelemetryRecord} {rest : List TelemetryRecord}
    (receiver : s.socket.eventReceiver = some (record :: rest)) : s.step .receive = s.handled record rest := by
  obtain ⟨telemetry, handling, allowed, receiver', frames⟩ := s
  cases waiting
  cases receiver
  rfl

/-- Nothing is to be received. -/
theorem step_receive_nil (receiver : s.socket.eventReceiver = some []) : s.step .receive = s := by
  obtain ⟨telemetry, handling, allowed, receiver', frames⟩ := s
  cases receiver
  cases handling with
  | waiting => rfl
  | queried request entries => rfl
  | lookedUp request entries => rfl

/-- Once the channel is subscribed to, what it carries and the filter lets through is sent in
its order, but for what is still to be received. -/
theorem run_followed (s : FollowSystem) (late : ∀ move ∈ moves, move = .receive ∨ ∃ call, move = .telemetry call)
    (waiting : s.socket.handling = .waiting) (queue : List TelemetryRecord)
    (receiver : s.socket.eventReceiver = some queue) :
    ∃ updates rest, (s.run moves).socket.frames = s.socket.frames ++ updates.map .update ∧
      (s.run moves).socket.eventReceiver = some rest ∧
      (queue ++ told s.telemetry moves).filter (telemetryMatchesSubscription · s.socket.allowedDestinations) =
        updates ++ rest.filter (telemetryMatchesSubscription · s.socket.allowedDestinations) := by
  induction moves generalizing s queue with
  | nil => exact ⟨[], queue, (List.append_nil _).symm, receiver, congrArg _ (List.append_nil queue)⟩
  | cons move moves ih =>
    have late' : ∀ move ∈ moves, move = .receive ∨ ∃ call, move = .telemetry call :=
      fun other mem => late other (List.mem_cons_of_mem move mem)
    obtain rfl | ⟨call, rfl⟩ := late move List.mem_cons_self
    · cases queue with
      | nil =>
        rw [run_cons, step_receive_nil receiver]
        exact ih s late' waiting [] receiver
      | cons record rest =>
        rw [run_cons, step_receive waiting receiver]
        obtain ⟨updates, left, sent, receiver', all⟩ := ih (s.handled record rest) late' waiting rest rfl
        by_cases wanted : telemetryMatchesSubscription record s.socket.allowedDestinations = true
        · have frames : (s.handled record rest).socket.frames = s.socket.frames ++ [.update record] := if_pos wanted
          refine ⟨record :: updates, left, ?_, receiver', ?_⟩
          · rw [sent, frames, List.append_assoc]
            rfl
          · rw [List.cons_append, List.filter_cons, if_pos wanted, List.cons_append]
            exact congrArg _ all
        · have frames : (s.handled record rest).socket.frames = s.socket.frames := if_neg wanted
          refine ⟨updates, left, sent.trans (by rw [frames]), receiver', ?_⟩
          rw [List.cons_append, List.filter_cons, if_neg wanted]
          exact all
    · rw [run_cons]
      obtain ⟨updates, left, sent, receiver', all⟩ := ih (s.step (.telemetry call)) late' waiting
        (queue ++ s.telemetry.broadcasts call) (by rw [step, receiver]; rfl)
      refine ⟨updates, left, sent, receiver', ?_⟩
      rw [List.append_assoc] at all
      exact all

end FollowSystem

/-- The peers a request is for: the subscribers of its topic, or all. -/
def TelemetryRequest.allowed (request : TelemetryRequest) (s : AppState) : Option (List String) :=
  (normalizeOptionalText request.topicId).map s.topicSubscriberDestinations

/-- The moves of a subscription whose look-up does not fail, between them any moves of calls. -/
def subscriptionMoves (request : TelemetryRequest) (early mid : List TelemetryMove) (late : List FollowMove) :
    List FollowMove :=
  [.query request none] ++ early.map .telemetry ++ [.lookUp none] ++ mid.map .telemetry ++ [.follow] ++ late

namespace FollowSystem

variable [ServerHost]

theorem query_allowed {s : AppState} {request : TelemetryRequest}
    (known : ∀ topicId ∈ normalizeOptionalText request.topicId, s.topics.contains topicId = true) :
    telemetryEntriesForQuery s none request.since request.topicId =
      .ok (telemetryEntries s.telemetryRecords request.since (request.allowed s)) := by
  unfold telemetryEntriesForQuery TelemetryRequest.allowed
  cases topic : normalizeOptionalText request.topicId with
  | none => rfl
  | some topicId =>
    dsimp only
    rw [if_pos (known topicId topic)]
    rfl

/-- What the three steps of a subscription leave. -/
theorem run_subscription {s : FollowSystem} {request : TelemetryRequest} (early mid : List TelemetryMove)
    (late : List FollowMove) (waiting : s.socket.handling = .waiting)
    (known : ∀ topicId ∈ normalizeOptionalText request.topicId, s.telemetry.state.topics.contains topicId = true)
    (follows : request.follow = true) :
    s.run (subscriptionMoves request early mid late) =
      FollowSystem.run
        { telemetry := (s.telemetry.run early).run mid
          socket :=
            { handling := .waiting, allowedDestinations := request.allowed s.telemetry.state, eventReceiver := some []
              frames := s.socket.frames ++ [.snapshot
                (telemetryEntries s.telemetry.state.telemetryRecords request.since (request.allowed s.telemetry.state))] } }
        late := by
  obtain ⟨telemetry, handling, allowed, receiver, frames⟩ := s
  cases waiting
  have subscribers : request.allowed (telemetry.run early).state = request.allowed telemetry.state := by
    unfold TelemetryRequest.allowed
    congr 1
    funext topicId
    rw [AppState.topicSubscriberDestinations, (run_subscribers telemetry early).2, AppState.topicSubscriberDestinations]
  have queried : step ⟨telemetry, ⟨.waiting, allowed, receiver, frames⟩⟩ (.query request none) =
      ⟨telemetry, ⟨.queried request (telemetryEntries telemetry.state.telemetryRecords request.since
        (request.allowed telemetry.state)), allowed, receiver, frames⟩⟩ := by
    show FollowSystem.mk _ (stepSocket _ _ _) = _
    unfold stepSocket
    dsimp only
    rw [query_allowed known]
  have lookedUp : ∀ entries receiver', step ⟨telemetry.run early, ⟨.queried request entries, allowed, receiver', frames⟩⟩
      (.lookUp none) =
        ⟨telemetry.run early, ⟨.lookedUp request entries, request.allowed telemetry.state, receiver', frames⟩⟩ := by
    intro entries receiver'
    rw [← subscribers]
    show FollowSystem.mk _ (stepSocket _ _ _) = _
    unfold stepSocket TelemetryRequest.allowed
    dsimp only
    cases topic : normalizeOptionalText request.topicId with
    | none => rfl
    | some topicId => rfl
  let entries := telemetryEntries telemetry.state.telemetryRecords request.since (request.allowed telemetry.state)
  have first : ∃ receiver', run ⟨telemetry, ⟨.waiting, allowed, receiver, frames⟩⟩
      ([.query request none] ++ early.map .telemetry) =
        ⟨telemetry.run early, ⟨.queried request entries, allowed, receiver', frames⟩⟩ := by
    rw [run_append, run_one, queried, run_calls]
    exact ⟨_, rfl⟩
  obtain ⟨receiver', first⟩ := first
  have second : ∃ receiver'', run ⟨telemetry, ⟨.waiting, allowed, receiver, frames⟩⟩
      ([.query request none] ++ early.map .telemetry ++ [.lookUp none] ++ mid.map .telemetry) =
        ⟨(telemetry.run early).run mid, ⟨.lookedUp request entries, request.allowed telemetry.state, receiver'', frames⟩⟩ := by
    rw [run_append, run_append, first, run_one, lookedUp, run_calls]
    exact ⟨_, rfl⟩
  obtain ⟨receiver'', second⟩ := second
  unfold subscriptionMoves
  rw [run_append, run_append, second, run_one]
  show run ⟨_, stepSocket _ _ .follow⟩ late = _
  unfold stepSocket
  dsimp only
  rw [follows, if_pos rfl]

end FollowSystem

/-- A subscription among any moves of calls. Memory holds, of every peer that is named, a
record as new as any that has been told of; the snapshot holds of every peer that is allowed
the latest of those from the time asked for that have a location, and nothing else; and what
is broadcast once the channel is subscribed to is sent or still to be received, each record
once and in order, where the same test of its peer lets it through. -/
theorem subscription_served [ServerHost] (start : TelemetrySystem) (single : TelemetrySystem.SinglePeers start.state.telemetryRecords)
    (before early mid : List TelemetryMove) (late : List FollowMove)
    (received : ∀ move ∈ late, move = .receive ∨ ∃ call, move = .telemetry call) (socket : TelemetrySocket)
    (waiting : socket.handling = .waiting) (request : TelemetryRequest) (follows : request.follow = true)
    (known : ∀ topicId ∈ normalizeOptionalText request.topicId, start.state.topics.contains topicId = true) :
    let allowed := request.allowed start.state
    let records := (start.run before).state.telemetryRecords
    let final := FollowSystem.run ⟨start.run before, socket⟩ (subscriptionMoves request early mid late)
    Supersedes records (start.offered before) ∧
    ∃ entries updates queue,
      final.socket.frames = socket.frames ++ [.snapshot entries] ++ updates.map .update ∧
      final.socket.eventReceiver = some queue ∧
      (∀ record ∈ records, entryMatches request.since allowed record = true →
        ∃ entry ∈ entries, entry.peerDestination = record.peerDestination ∧ record.timestampS ≤ entry.timestampS) ∧
      (∀ entry ∈ entries, entry ∈ records ∧ entryMatches request.since allowed entry = true) ∧
      (FollowSystem.told (((start.run before).run early).run mid) late).filter (telemetryMatchesSubscription · allowed) =
        updates ++ queue.filter (telemetryMatchesSubscription · allowed) ∧
      ∀ record ∈ entries ++ updates, telemetryMatchesSubscription record allowed = true := by
  intro allowed records final
  have kept := FollowSystem.run_subscribers start before
  have same : request.allowed (start.run before).state = allowed := by
    show TelemetryRequest.allowed _ _ = TelemetryRequest.allowed _ _
    unfold TelemetryRequest.allowed
    congr 1
    funext topicId
    rw [AppState.topicSubscriberDestinations, kept.2, AppState.topicSubscriberDestinations]
  have known' : ∀ topicId ∈ normalizeOptionalText request.topicId, (start.run before).state.topics.contains topicId = true := by
    rw [kept.1]
    exact known
  have subscribed : final = _ := FollowSystem.run_subscription early mid late waiting known' follows
  rw [same] at subscribed
  obtain ⟨updates, queue, sent, receiver, all⟩ := FollowSystem.run_followed
    ⟨((start.run before).run early).run mid, ⟨.waiting, allowed, some [],
      socket.frames ++ [.snapshot (telemetryEntries records request.since allowed)]⟩⟩ received rfl [] rfl
  rw [← subscribed] at sent receiver
  obtain ⟨complete, sound⟩ := telemetryEntries_spec records request.since allowed
  refine ⟨(TelemetrySystem.ledger single before).newest, telemetryEntries records request.since allowed, updates, queue,
    sent, receiver, complete, sound, all, fun record mem => ?_⟩
  obtain entry | update := List.mem_append.1 mem
  · exact (Bool.and_eq_true_iff.1 (sound record entry).2).2
  · have passed : record ∈ updates ++ queue.filter (telemetryMatchesSubscription · allowed) := List.mem_append_left _ update
    rw [← all] at passed
    exact (List.mem_filter.1 passed).2

/-- A subscription to all telemetry. -/
def follower : TelemetryRequest := { since := 0, topicId := none, follow := true }

/-- A sample that comes and is received after the subscription. -/
def laterSample : List FollowMove :=
  [.telemetry (.keep (sampleAt 1)), .telemetry (.write 0), .telemetry (.tell 0), .receive]

theorem later_sample_served :
    let served := @FollowSystem.run ServerHost.blank ⟨{ state := {}, store := {} }, {}⟩
      (subscriptionMoves follower [] [] laterSample)
    ∃ entries updates queue : List TelemetryRecord,
      served.socket.frames = [.snapshot entries] ++ updates.map .update ∧ served.socket.eventReceiver = some queue ∧
      (FollowSystem.told { state := {}, store := {} } laterSample).filter (telemetryMatchesSubscription · none) =
        updates ++ queue.filter (telemetryMatchesSubscription · none) := by
  intro served
  have received : ∀ move ∈ laterSample, move = .receive ∨ ∃ call, move = .telemetry call := by
    intro move mem
    simp only [laterSample, List.mem_cons, List.not_mem_nil, or_false] at mem
    obtain rfl | rfl | rfl | rfl := mem
    · exact .inr ⟨_, rfl⟩
    · exact .inr ⟨_, rfl⟩
    · exact .inr ⟨_, rfl⟩
    · exact .inl rfl
  obtain ⟨-, entries, updates, queue, sent, receiver, -, -, all, -⟩ :=
    @subscription_served ServerHost.blank { state := {}, store := {} } (fun key => Nat.zero_le _) [] [] [] laterSample
      received {} rfl follower rfl (fun topicId mem => by cases mem)
  exact ⟨entries, updates, queue, sent, receiver, all⟩

/-- How many entries a snapshot has. -/
def TelemetryFrame.entryCount : TelemetryFrame → Option Nat
  | .snapshot entries => some entries.length
  | _ => none

/-- The newest sample of an allowed peer is neither in the snapshot nor sent: it has no
location. -/
theorem sample_without_location_withheld :
    let served := @FollowSystem.run ServerHost.blank ⟨{ state := {}, store := {} }, {}⟩
      ([.telemetry (.keep (sampleAt 1)), .telemetry (.write 0), .telemetry (.tell 0)] ++ subscriptionMoves follower [] [] [])
    served.telemetry.state.telemetryRecords.map TelemetryRecord.timestampS = [1] ∧ served.telemetry.threads.length = 0 ∧
    served.socket.frames.map TelemetryFrame.entryCount = [some 0] ∧
    served.socket.eventReceiver.map List.length = some 0 := by decide

end TelemetryHub
