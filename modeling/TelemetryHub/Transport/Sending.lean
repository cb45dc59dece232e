import Mathlib.Data.List.Induction
import Mathlib.Data.List.Range
import TelemetryHub.Transport.Adapter

/-!
# The outbound side of the transport

An adapter numbers the frames it sends. The number is what tells a frame from the others, for
the adapter that lists messages as their id, for the other as the correlation id and the
idempotency key. Adapters come and go, and the daemon outlives the process that has them.
-/

namespace TelemetryHub

open Lib

/-- The two adapters, as far as sending reads them. -/
inductive LxmfRsSender where
  | reticulumdRpc
  | lxmfSdk
deriving DecidableEq

/-- An adapter that sends. -/
structure SendingAdapter where
  kind : LxmfRsSender
  source : String
  nextMessageSequence : Nat

/-- `LxmfSdkSendRequest`, as far as a frame fills it. -/
structure LxmfSdkSendRequest where
  source : String
  destination : String
  payload : Value
  correlationId : Option String
  idempotencyKey : Option String

/-- What an adapter submits: the parameters of `send_message_v2`, or a request of the SDK. -/
inductive SubmittedFrame where
  | sendMessage (params : Value)
  | sdkRequest (request : LxmfSdkSendRequest)

def r3aktLxmfContent : String := "r3akt protocol envelope"

def r3aktLxmfContentType : String := "application/x-r3akt-msgpack"

def r3aktLxmfFieldContentType : String := "r3akt_content_type"

def r3aktLxmfFieldPayloadB64 : String := "r3akt_payload_b64"

/-- The id of the frame with the number. -/
def transportMessageId (sequence : Nat) : String := "r3akt-transport-" ++ toString sequence

namespace SendingAdapter

/-- `ReticulumdRpcLxmfRsAdapter::new` and `LxmfSdkLxmfRsAdapter::new`. -/
def new (kind : LxmfRsSender) (source : String) : SendingAdapter := { kind, source, nextMessageSequence := 1 }

/-- `next_message_id`, of either. -/
def nextMessageId (a : SendingAdapter) : String × SendingAdapter :=
  (transportMessageId a.nextMessageSequence, { a with nextMessageSequence := (a.nextMessageSequence + 1) % 2 ^ 64 })

/-- `send_frame`, up to the call that submits. The number is used up whatever is answered. -/
def sendFrame (base64Encode : List UInt8 → String) (a : SendingAdapter) (frame : LxmfRsFrame) :
    SubmittedFrame × SendingAdapter :=
  let payloadB64 := base64Encode frame.bytes
  let (messageId, a) := a.nextMessageId
  match a.kind with
  | .reticulumdRpc =>
    (.sendMessage (.object [
      ("id", .string messageId),
      ("source", .string a.source),
      ("destination", .string frame.destination),
      ("title", .string "R3AKT"),
      ("content", .string r3aktLxmfContent),
      ("fields", .object [
        (r3aktLxmfFieldContentType, .string r3aktLxmfContentType),
        (r3aktLxmfFieldPayloadB64, .string payloadB64)]),
      ("method", .string "direct")]), a)
  | .lxmfSdk =>
    let payload := .object [
      ("title", .string "R3AKT"),
      ("content", .string r3aktLxmfContent),
      (r3aktLxmfFieldContentType, .string r3aktLxmfContentType),
      (r3aktLxmfFieldPayloadB64, .string payloadB64)]
    (.sdkRequest {
      source := a.source
      destination := frame.destination
      payload
      correlationId := some messageId
      idempotencyKey := some messageId }, a)

end SendingAdapter

namespace SubmittedFrame

/-- What a daemon can tell the frame by: its message id, its correlation id, its idempotency key. -/
def keys : SubmittedFrame → List String
  | .sendMessage params => ((params.get "id").bind Value.asStr).toList
  | .sdkRequest request => request.correlationId.toList ++ request.idempotencyKey.toList

end SubmittedFrame

/-! ## Adapters come and go -/

/-- A frame that was sent, and which adapter sent it. -/
structure SentFrame where
  adapter : Nat
  source : String
  submitted : SubmittedFrame

/-- The adapters there ever were, how many of them are of earlier processes, and what the
daemon was sent. -/
structure TransportFleet where
  adapters : List SendingAdapter := []
  ended : Nat := 0
  sent : List SentFrame := []

/-- The moves of a run. -/
inductive FleetMove where
  | create (kind : LxmfRsSender) (source : String)
  | send (adapter : Nat) (frame : LxmfRsFrame)
  | restart

namespace TransportFleet

/-- One move; an adapter of an earlier process sends nothing. -/
def step (base64Encode : List UInt8 → String) (s : TransportFleet) : FleetMove → TransportFleet
  | .create kind source => { s with adapters := s.adapters ++ [.new kind source] }
  | .send adapter frame =>
    if adapter < s.ended then s
    else
      match s.adapters[adapter]? with
      | none => s
      | some a =>
        let (submitted, a') := a.sendFrame base64Encode frame
        { s with adapters := s.adapters.set adapter a', sent := s.sent ++ [{ adapter, source := a.source, submitted }] }
  | .restart => { s with ended := s.adapters.length }

def run (base64Encode : List UInt8 → String) (moves : List FleetMove) : TransportFleet :=
  moves.foldl (step base64Encode) {}

/-- The frames of an adapter. -/
def sentBy (s : TransportFleet) (adapter : Nat) : List SentFrame := s.sent.filter fun frame => frame.adapter == adapter

/-- The frames of a source. -/
def sentFrom (s : TransportFleet) (source : String) : List SentFrame := s.sent.filter fun frame => frame.source == source

end TransportFleet

/-- No frame has a key that a frame before it has. -/
def NeverReused (sent : List SentFrame) : Prop :=
  sent.Pairwise fun earlier later => ∀ key ∈ later.submitted.keys, key ∉ earlier.submitted.keys

/-! ## The numbers of an adapter -/

theorem transportMessageId_inj {n m : Nat} (same : transportMessageId n = transportMessageId m) : n = m := by
  have letters := congrArg String.toList same
  simp only [transportMessageId, String.toList_append, List.append_cancel_left_eq] at letters
  have number := congrArg (fun digits => Nat.ofDigitChars 10 digits 0) letters
  simpa [Nat.toString_eq_ofList_toDigits] using number

variable {base64Encode : List UInt8 → String}

/-- The only key of a frame is the id of its number. -/
theorem sendFrame_keys (a : SendingAdapter) (frame : LxmfRsFrame) :
    ∀ key, key ∈ (a.sendFrame base64Encode frame).1.keys ↔ key = transportMessageId a.nextMessageSequence := by
  intro key
  unfold SendingAdapter.sendFrame SendingAdapter.nextMessageId SubmittedFrame.keys
  cases a.kind with
  | reticulumdRpc =>
    change key ∈ [transportMessageId a.nextMessageSequence] ↔ _
    exact List.mem_singleton
  | lxmfSdk => simp

theorem sendFrame_adapter (a : SendingAdapter) (frame : LxmfRsFrame) :
    (a.sendFrame base64Encode frame).2 = { a with nextMessageSequence := (a.nextMessageSequence + 1) % 2 ^ 64 } := by
  unfold SendingAdapter.sendFrame SendingAdapter.nextMessageId
  cases a.kind <;> rfl

/-! ## The numbers of a run -/

namespace TransportFleet

/-- What holds in every state: an adapter has sent the frames of the numbers before its own,
in turn. -/
structure Numbered (s : TransportFleet) : Prop where
  next : ∀ i a, s.adapters[i]? = some a → a.nextMessageSequence = (1 + (s.sentBy i).length) % 2 ^ 64
  keys : ∀ i n frame, (s.sentBy i)[n]? = some frame →
    ∀ key, key ∈ frame.submitted.keys ↔ key = transportMessageId ((1 + n) % 2 ^ 64)
  source : ∀ frame ∈ s.sent, ∃ a, s.adapters[frame.adapter]? = some a ∧ a.source = frame.source

theorem sentBy_append (s : TransportFleet) (frame : SentFrame) (i : Nat) (adapters : List SendingAdapter) :
    sentBy { s with adapters, sent := s.sent ++ [frame] } i = s.sentBy i ++ if frame.adapter = i then [frame] else [] := by
  unfold sentBy
  rw [List.filter_append, List.filter_singleton]
  simp

variable {s : TransportFleet}

/-- An adapter that is not there yet has sent nothing. -/
theorem Numbered.sentBy_new (h : s.Numbered) : s.sentBy s.adapters.length = [] := by
  refine List.filter_eq_nil_iff.2 fun frame there => ?_
  obtain ⟨a, found, -⟩ := h.source frame there
  have inside := (List.getElem?_eq_some_iff.1 found).1
  simp only [beq_iff_eq]
  omega

theorem Numbered.create (h : s.Numbered) (kind : LxmfRsSender) (source : String) :
    Numbered { s with adapters := s.adapters ++ [.new kind source] } := by
  refine { h with next := ?_, source := ?_ }
  · intro i a found
    rw [List.getElem?_append] at found
    split at found
    · exact h.next i a found
    · next past =>
      have last : i = s.adapters.length := by
        have inside := (List.getElem?_eq_some_iff.1 found).1
        simp only [List.length_singleton] at inside
        omega
      subst last
      simp only [Nat.sub_self, List.getElem?_cons_zero, Option.some.injEq] at found
      subst found
      change 1 = (1 + (s.sentBy s.adapters.length).length) % 2 ^ 64
      rw [h.sentBy_new]
      rfl
  · intro frame there
    obtain ⟨a, found, same⟩ := h.source frame there
    exact ⟨a, List.getElem?_append_left (List.getElem?_eq_some_iff.1 found).1 ▸ found, same⟩

theorem Numbered.send (h : s.Numbered) {adapter : Nat} {a : SendingAdapter} (found : s.adapters[adapter]? = some a)
    (frame : LxmfRsFrame) : Numbered { s with
      adapters := s.adapters.set adapter (a.sendFrame base64Encode frame).2
      sent := s.sent ++ [{ adapter, source := a.source, submitted := (a.sendFrame base64Encode frame).1 }] } := by
  have inside := (List.getElem?_eq_some_iff.1 found).1
  have number := h.next adapter a found
  constructor
  · intro i b there
    rw [sentBy_append, List.length_append]
    by_cases same : adapter = i
    · subst same
      rw [List.getElem?_set_self inside, Option.some.injEq] at there
      rw [← there, sendFrame_adapter]
      simp only [↓reduceIte, List.length_singleton]
      omega
    · rw [List.getElem?_set_ne same] at there
      simpa [same] using h.next i b there
  · intro i n sent there
    rw [sentBy_append, List.getElem?_append] at there
    split at there
    · exact h.keys i n sent there
    · next past =>
      split at there
      · next same =>
        change adapter = i at same
        subst same
        obtain ⟨short, rfl⟩ := List.getElem?_eq_some_iff.1 there
        have last : n = (s.sentBy adapter).length := by
          simp only [List.length_singleton] at short
          omega
        subst last
        simp only [Nat.sub_self, List.getElem_cons_zero]
        rw [← number]
        exact sendFrame_keys a frame
      · cases there
  · simp only [List.mem_append, List.mem_singleton]
    rintro sent (there | rfl)
    · obtain ⟨b, stood, same⟩ := h.source sent there
      by_cases own : adapter = sent.adapter
      · rw [← own] at stood ⊢
        refine ⟨_, List.getElem?_set_self inside, ?_⟩
        rw [sendFrame_adapter, ← same, Option.some.inj (stood.symm.trans found)]
      · exact ⟨b, (List.getElem?_set_ne own).trans stood, same⟩
    · refine ⟨_, List.getElem?_set_self inside, ?_⟩
      rw [sendFrame_adapter]

theorem Numbered.step (h : s.Numbered) (move : FleetMove) : (s.step base64Encode move).Numbered := by
  cases move with
  | create kind source => exact h.create kind source
  | send adapter frame =>
    by_cases ended : adapter < s.ended
    · simp only [TransportFleet.step, ended, ↓reduceIte]
      exact h
    · cases found : s.adapters[adapter]? with
      | none =>
        simp only [TransportFleet.step, ended, found, ↓reduceIte]
        exact h
      | some a =>
        simp only [TransportFleet.step, ended, found, ↓reduceIte]
        exact h.send found frame
  | restart => exact { h with }

theorem numbered_run (moves : List FleetMove) : (run base64Encode moves).Numbered := by
  induction moves using List.reverseRecOn with
  | nil => exact ⟨nofun, nofun, nofun⟩
  | append_singleton moves last ih =>
    unfold run at ih ⊢
    rw [List.foldl_append]
    exact ih.step last

/-! ## Keys that are used again -/

/-- The frames of one adapter are fewer than its numbers. -/
theorem Numbered.neverReused_sentBy (h : s.Numbered) {i : Nat} (few : (s.sentBy i).length < 2 ^ 64) :
    NeverReused (s.sentBy i) := by
  rw [NeverReused, List.pairwise_iff_getElem]
  intro n m short long before key again there
  have earlier := (h.keys i n _ (List.getElem?_eq_getElem short) key).1 there
  have later := (h.keys i m _ (List.getElem?_eq_getElem long) key).1 again
  have same := transportMessageId_inj (earlier.symm.trans later)
  omega

/-- An adapter that has sent a frame has sent the frame of the first number. -/
theorem Numbered.first (h : s.Numbered) {frame : SentFrame} (there : frame ∈ s.sent) :
    ∃ first ∈ s.sent, first.adapter = frame.adapter ∧ first.source = frame.source ∧
      transportMessageId 1 ∈ first.submitted.keys := by
  have own : frame ∈ s.sentBy frame.adapter := List.mem_filter.2 ⟨there, beq_self_eq_true _⟩
  obtain ⟨first, rest, split⟩ := List.exists_cons_of_ne_nil (List.ne_nil_of_mem own)
  have member : first ∈ s.sentBy frame.adapter := split ▸ List.mem_cons_self
  obtain ⟨sent, same⟩ := List.mem_filter.1 member
  have adapter := beq_iff_eq.1 same
  obtain ⟨a, found, source⟩ := h.source frame there
  obtain ⟨b, found', source'⟩ := h.source first sent
  rw [adapter, found] at found'
  have one := (h.keys frame.adapter 0 first (by rw [split]; rfl) (transportMessageId 1)).2 rfl
  exact ⟨first, sent, adapter, by rw [← source, ← source', Option.some.inj found'], one⟩

/-- The frames of a source are told apart exactly when one adapter has sent them all. -/
theorem never_reused_iff (base64Encode : List UInt8 → String) (moves : List FleetMove) (source : String)
    (few : ((run base64Encode moves).sentFrom source).length < 2 ^ 64) :
    NeverReused ((run base64Encode moves).sentFrom source) ↔
      ∀ first ∈ (run base64Encode moves).sentFrom source, ∀ second ∈ (run base64Encode moves).sentFrom source,
        first.adapter = second.adapter := by
  have h : (run base64Encode moves).Numbered := numbered_run moves
  generalize run base64Encode moves = s at h few ⊢
  have ofSource : ∀ frame, frame ∈ s.sentFrom source ↔ frame ∈ s.sent ∧ frame.source = source := fun frame => by
    rw [sentFrom, List.mem_filter, beq_iff_eq]
  constructor
  · intro apart first there second there'
    by_contra other
    obtain ⟨sent, own⟩ := (ofSource first).1 there
    obtain ⟨sent', own'⟩ := (ofSource second).1 there'
    obtain ⟨one, stood, adapter, same, key⟩ := h.first sent
    obtain ⟨one', stood', adapter', same', key'⟩ := h.first sent'
    have distinct : one ≠ one' := by
      rintro rfl
      exact other (adapter.symm.trans adapter')
    have symmetric : Std.Symm fun earlier later : SentFrame =>
        ∀ key ∈ later.submitted.keys, key ∉ earlier.submitted.keys :=
      ⟨fun earlier later apart key inside inside' => apart key inside' inside⟩
    exact apart.forall ((ofSource one).2 ⟨stood, same.trans own⟩) ((ofSource one').2 ⟨stood', same'.trans own'⟩)
      distinct _ key' key
  · intro single
    cases empty : s.sentFrom source with
    | nil => exact List.Pairwise.nil
    | cons first rest =>
      have there : first ∈ s.sentFrom source := empty ▸ List.mem_cons_self
      obtain ⟨sent, own⟩ := (ofSource first).1 there
      have all : s.sentFrom source = s.sentBy first.adapter := by
        refine List.filter_congr fun frame inside => ?_
        rw [Bool.eq_iff_iff, beq_iff_eq, beq_iff_eq]
        constructor
        · intro same
          exact single frame ((ofSource frame).2 ⟨inside, same⟩) first there
        · intro same
          obtain ⟨a, found, source'⟩ := h.source frame inside
          obtain ⟨b, found', source''⟩ := h.source first sent
          rw [same, found'] at found
          rw [← source', ← Option.some.inj found, source'', own]
      rw [← empty, all]
      exact h.neverReused_sentBy (all ▸ few)

/-- A frame of four bytes. -/
def sampleFrame : LxmfRsFrame := { destination := "target-destination", bytes := [1, 2, 3, 4] }

theorem sample_never_reused :
    NeverReused ((run (fun _ => "AQIDBA==")
      [.create .lxmfSdk "source-destination", .send 0 sampleFrame, .send 0 sampleFrame]).sentFrom "source-destination") := by
  rw [never_reused_iff _ _ _ (by decide +kernel)]
  have one : ∀ frame ∈ (run (fun _ => "AQIDBA==")
      [.create .lxmfSdk "source-destination", .send 0 sampleFrame, .send 0 sampleFrame]).sentFrom "source-destination",
      frame.adapter = 0 := by
    decide +kernel
  intro first there second there'
  rw [one first there, one second there']

/-- After a restart the first frame has the keys the first frame had; so have the first frames
of two adapters of one process. -/
theorem restart_reuses :
    ¬NeverReused ((run (fun _ => "AQIDBA==") [.create .lxmfSdk "source-destination", .send 0 sampleFrame, .restart,
      .create .lxmfSdk "source-destination", .send 1 sampleFrame]).sentFrom "source-destination") ∧
    ¬NeverReused ((run (fun _ => "AQIDBA==") [.create .reticulumdRpc "source-destination",
      .create .lxmfSdk "source-destination", .send 0 sampleFrame, .send 1 sampleFrame]).sentFrom "source-destination") := by
  unfold NeverReused
  constructor <;> decide +kernel

end TransportFleet

end TelemetryHub
