import TelemetryHub.Transport.TelemetryScan

/-!
# What a payload can ask for

The header of an array or a map says how many elements to make room for before one is
read, and each header in another is one call more on the stack. Both are the peer's to
choose. What bounds them is the length of the payload: the depth always, the room where
the payload is what it says it is.
-/

namespace TelemetryHub

open Lib MessagePack

variable {bytes : List UInt8} {root depth offset behind first len : Nat}

/-! ## Calls in calls -/

/-- A call at `offset` is so many calls deep in the one at `root`. -/
inductive Nested (calls : Nat → Nat → Prop) (root : Nat) : Nat → Nat → Prop
  | root : Nested calls root 0 root
  | call (depth offset behind : Nat) (caller : Nested calls root depth offset) (called : calls offset behind) :
    Nested calls root (depth + 1) behind

/-- Where each call is made behind a byte its caller has read, the bytes bound the depth. -/
theorem Nested.within {calls : Nat → Nat → Prop} {bound : Nat} (h : Nested calls root depth offset)
    (later : ∀ offset behind, calls offset behind → offset < behind ∧ offset < bound) :
    root + depth ≤ offset ∧ depth ≤ bound - root := by
  induction h with
  | root => omega
  | call depth offset behind _ called ih =>
    have after := later offset behind called
    omega

/-- What holds of a call and is passed on to the calls it makes holds of all. -/
theorem Nested.holds {calls : Nat → Nat → Prop} {P : Nat → Prop} (h : Nested calls root depth offset) (base : P root)
    (passed : ∀ offset behind, P offset → calls offset behind → P behind) : P offset := by
  induction h with
  | root => exact base
  | call depth offset behind _ called ih => exact passed offset behind ih called

/-! ## Room for elements -/

/-- `Vec::with_capacity(len)` in `parse_lxmf_msgpack_array` or `parse_lxmf_msgpack_map`, called
from `parse_lxmf_msgpack_value` at `offset`; `first` is the offset behind the header. -/
inductive Reserves (bytes : List UInt8) (offset first len : Nat) : Prop
  | array (arm : msgpackArm bytes offset = .ok (.array first len))
  | map (arm : msgpackArm bytes offset = .ok (.map first len))

/-- A header counts in four bytes at the most. -/
theorem countable {header : List UInt8} (h : ArrayHeader len header ∨ MapHeader len header) : len < 2 ^ 32 := by
  have long : ∀ (marker : UInt8) (field : List UInt8) values, (marker, field.length, values) ∈ sequenceWidths →
      beNat field < 2 ^ 32 := by
    intro marker field values known
    have bound : ∀ entry ∈ sequenceWidths, 256 ^ entry.2.1 ≤ 2 ^ 32 := by decide
    exact Nat.lt_of_lt_of_le (beNat_lt field) (bound _ known)
  obtain array | map := h
  · cases array with
    | short marker low high => omega
    | long marker field known => exact long marker field 1 known
  · cases map with
    | short marker low high => omega
    | long marker field known => exact long marker field 2 known

theorem Reserves.lt (short : bytes.length < 2 ^ 63) (h : Reserves bytes offset first len) : len < 2 ^ 32 := by
  have found := msgpackArm_found short offset
  cases h with
  | array arm =>
    rw [arm] at found
    cases found with
    | array _ _ _ _ headed => exact countable (.inl headed)
  | map arm =>
    rw [arm] at found
    cases found with
    | map _ _ _ _ headed => exact countable (.inr headed)

section Loops

variable {parseValue : Nat → Except Halt (LxmfMsgpackValue × Nat)}

/-- A loop that ends has read all that it came to. -/
theorem items_parsed {count start : Nat} (loop : LoopCalls (valueEnd parseValue) count start behind)
    {result : List LxmfMsgpackValue × Nat} (run : lxmfMsgpackItems parseValue count start = .ok result) :
    ∃ parsed, parseValue behind = .ok parsed := by
  induction loop generalizing result with
  | first count start =>
    obtain ⟨parsed, here, -⟩ := bind_eq_ok.1 run
    exact ⟨parsed, here⟩
  | next count start middle offset passed _ ih =>
    obtain ⟨parsed, here, run⟩ := bind_eq_ok.1 run
    obtain ⟨rest, others, -⟩ := bind_eq_ok.1 run
    rw [valueEnd, here] at passed
    obtain rfl := Except.ok.inj passed
    exact ih others

theorem entries_parsed : ∀ count start, LoopCalls (valueEnd parseValue) (2 * count) start behind →
    ∀ result, lxmfMsgpackEntries parseValue count start = .ok result → ∃ parsed, parseValue behind = .ok parsed := by
  intro count
  induction count with
  | zero => exact fun _ => nofun
  | succ count ih =>
    intro start loop result run
    obtain ⟨key, here, run⟩ := bind_eq_ok.1 run
    obtain ⟨value, there, run⟩ := bind_eq_ok.1 run
    obtain ⟨rest, others, -⟩ := bind_eq_ok.1 run
    cases loop with
    | first => exact ⟨key, here⟩
    | next _ _ middle _ passed loop =>
      rw [valueEnd, here] at passed
      obtain rfl := Except.ok.inj passed
      cases loop with
      | first => exact ⟨value, there⟩
      | next _ _ middle _ passed loop =>
        rw [valueEnd, there] at passed
        obtain rfl := Except.ok.inj passed
        exact ih _ loop _ others

end Loops

theorem array_parsed (short : bytes.length < 2 ^ 63) (arm : msgpackArm bytes offset = .ok (.array first len))
    {result : LxmfMsgpackValue × Nat} (run : parseLxmfMsgpackValue bytes offset = .ok result) :
    ∃ items, lxmfMsgpackItems (parseLxmfMsgpackValue bytes) len first = .ok items := by
  rw [parseLxmfMsgpackValue_eq short, parseLxmfMsgpackValueOver, arm] at run
  change parseLxmfMsgpackArray (parseLxmfMsgpackValue bytes) first len = .ok result at run
  obtain ⟨items, loop, -⟩ := bind_eq_ok.1 run
  exact ⟨items, loop⟩

theorem map_parsed (short : bytes.length < 2 ^ 63) (arm : msgpackArm bytes offset = .ok (.map first len))
    {result : LxmfMsgpackValue × Nat} (run : parseLxmfMsgpackValue bytes offset = .ok result) :
    ∃ entries, lxmfMsgpackEntries (parseLxmfMsgpackValue bytes) len first = .ok entries := by
  rw [parseLxmfMsgpackValue_eq short, parseLxmfMsgpackValueOver, arm] at run
  change parseLxmfMsgpackMap (parseLxmfMsgpackValue bytes) first len = .ok result at run
  obtain ⟨entries, loop, -⟩ := bind_eq_ok.1 run
  exact ⟨entries, loop⟩

/-- In a parse that succeeds the calls succeed. -/
theorem ValueCalls.parsed (short : bytes.length < 2 ^ 63) (h : ValueCalls (parseLxmfMsgpackValue bytes) bytes offset behind)
    (run : ∃ result, parseLxmfMsgpackValue bytes offset = .ok result) : ∃ result, parseLxmfMsgpackValue bytes behind = .ok result := by
  obtain ⟨result, run⟩ := run
  cases h with
  | array first len arm loop =>
    obtain ⟨items, whole⟩ := array_parsed short arm run
    exact items_parsed loop whole
  | map first len arm loop =>
    obtain ⟨entries, whole⟩ := map_parsed short arm run
    exact entries_parsed len first loop entries whole

/-- In a parse that succeeds each element has a byte. -/
theorem Reserves.le (short : bytes.length < 2 ^ 63) (h : Reserves bytes offset first len)
    (run : ∃ result, parseLxmfMsgpackValue bytes offset = .ok result) : len ≤ bytes.length - first := by
  have found := msgpackArm_found short offset
  obtain ⟨result, run⟩ := run
  cases h with
  | array arm =>
    obtain ⟨items, whole⟩ := array_parsed short arm run
    rw [arm] at found
    cases found with
    | array _ _ _ inside =>
      have read := items_read (parse_read short) len first inside
      rw [whole] at read
      cases read with
      | found _ stop later inside' => omega
  | map arm =>
    obtain ⟨entries, whole⟩ := map_parsed short arm run
    rw [arm] at found
    cases found with
    | map _ _ _ inside =>
      have read := entries_read (parse_read short) len first inside
      rw [whole] at read
      cases read with
      | found _ stop later inside' => omega

/-! ## The scan of announces -/

/-- The call of `msgpack_sequence_end` in `msgpack_item_end`: its offset and its count. -/
def sequenceCall (bytes : List UInt8) (offset : Nat) : Except Halt (Nat × Nat) := do
  let byte ← byteAt bytes offset
  let marker := byte.toNat
  if 0x90 ≤ marker ∧ marker ≤ 0x9f then return (← usizeAdd offset 1, (byte &&& 0x0f).toNat)
  else if marker = 0xdc then
    let count ← readBe 2 bytes (← usizeAdd offset 1)
    return (← usizeAdd offset 3, count)
  else if marker = 0xdd then
    let count ← readBe 4 bytes (← usizeAdd offset 1)
    return (← usizeAdd offset 5, count)
  else if 0x80 ≤ marker ∧ marker ≤ 0x8f then
    let count ← usizeMul (byte &&& 0x0f).toNat 2
    return (← usizeAdd offset 1, count)
  else if marker = 0xde then
    let count ← usizeMul (← readBe 2 bytes (← usizeAdd offset 1)) 2
    return (← usizeAdd offset 3, count)
  else if marker = 0xdf then
    let count ← usizeMul (← readBe 4 bytes (← usizeAdd offset 1)) 2
    return (← usizeAdd offset 5, count)
  else throw .none

/-- In `msgpack_item_end` at `offset`, the loop of `msgpack_sequence_end` calls the function
again at `behind`. -/
def ItemCalls (itemEnd : Nat → Except Halt Nat) (bytes : List UInt8) (offset behind : Nat) : Prop :=
  ∃ first count, sequenceCall bytes offset = .ok (first, count) ∧ LoopCalls itemEnd count first behind

theorem sequenceEnd_calls {itemEnd itemEnd' : Nat → Except Halt Nat} : ∀ count start,
    (∀ behind, LoopCalls itemEnd count start behind → itemEnd behind = itemEnd' behind) →
    msgpackSequenceEnd itemEnd count start = msgpackSequenceEnd itemEnd' count start := by
  intro count
  induction count with
  | zero => exact fun _ _ => rfl
  | succ count ih =>
    intro start same
    have here := same start (.first count start)
    simp only [msgpackSequenceEnd, ← here]
    cases passed : itemEnd start with
    | error => rfl
    | ok middle => exact ih middle fun behind loop => same behind (.next count start middle behind passed loop)

/-- The calls are all that the scan depends on. -/
theorem itemEndOver_calls (short : bytes.length < 2 ^ 63) {itemEnd itemEnd' : Nat → Except Halt Nat} (offset : Nat)
    (same : ∀ behind, ItemCalls itemEnd bytes offset behind → itemEnd behind = itemEnd' behind) :
    msgpackItemEndOver bytes itemEnd offset = msgpackItemEndOver bytes itemEnd' offset := by
  have sequences : ∀ first count, sequenceCall bytes offset = .ok (first, count) →
      msgpackSequenceEnd itemEnd count first = msgpackSequenceEnd itemEnd' count first := by
    intro first count call
    exact sequenceEnd_calls count first fun behind loop => same behind ⟨first, count, call, loop⟩
  unfold msgpackItemEndOver
  obtain absent | ⟨byte, found⟩ := byteAt_cases bytes offset
  · rw [absent]
    rfl
  have here := offset_lt (byteAt_ok.1 found)
  unfold sequenceCall at sequences
  simp only [found, usizeAdd_ok (show offset + 1 < 2 ^ 64 by omega), usizeAdd_ok (show offset + 3 < 2 ^ 64 by omega),
    usizeAdd_ok (show offset + 5 < 2 ^ 64 by omega), bind, Except.bind, pure, Except.pure] at sequences ⊢
  -- The arms in front of those of the arrays and the maps call nothing.
  iterate 9 refine ite_congr rfl (fun _ => rfl) fun _ => ?_
  refine ite_congr rfl (fun array => sequences _ _ (if_pos array)) fun noArray => ?_
  refine ite_congr rfl (fun array16 => ?_) fun noArray16 => ?_
  · cases read : readBe 2 bytes (offset + 1) with
    | error => rfl
    | ok count => exact sequences _ _ (by simp only [if_neg noArray, if_pos array16, read])
  refine ite_congr rfl (fun array32 => ?_) fun noArray32 => ?_
  · cases read : readBe 4 bytes (offset + 1) with
    | error => rfl
    | ok count => exact sequences _ _ (by simp only [if_neg noArray, if_neg noArray16, if_pos array32, read])
  refine ite_congr rfl (fun map => ?_) fun noMap => ?_
  · cases twice : usizeMul (byte &&& 0x0f).toNat 2 with
    | error => rfl
    | ok count => exact sequences _ _ (by simp only [if_neg noArray, if_neg noArray16, if_neg noArray32, if_pos map, twice])
  refine ite_congr rfl (fun map16 => ?_) fun noMap16 => ?_
  · cases read : readBe 2 bytes (offset + 1) with
    | error => rfl
    | ok len =>
      cases twice : usizeMul len 2 with
      | error => simp only [twice]
      | ok count =>
        simp only [twice]
        exact sequences _ _ (by simp only [if_neg noArray, if_neg noArray16, if_neg noArray32, if_neg noMap, if_pos map16, read, twice])
  refine ite_congr rfl (fun map32 => ?_) fun _ => rfl
  cases read : readBe 4 bytes (offset + 1) with
  | error => rfl
  | ok len =>
    cases twice : usizeMul len 2 with
    | error => simp only [twice]
    | ok count =>
      simp only [twice]
      exact sequences _ _ (by
        simp only [if_neg noArray, if_neg noArray16, if_neg noArray32, if_neg noMap, if_neg noMap16, if_pos map32, read, twice])

theorem usizeAdd_eq_ok {a b sum : Nat} (h : usizeAdd a b = .ok sum) : sum = a + b := by
  unfold usizeAdd at h
  split at h
  · exact (Except.ok.inj h).symm
  · cases h

theorem sequenceCall_later {count : Nat} (call : sequenceCall bytes offset = .ok (first, count)) :
    offset < bytes.length ∧ offset < first := by
  obtain ⟨byte, found, call⟩ := bind_eq_ok.1 call
  have here := offset_lt (byteAt_ok.1 found)
  have sum : ∀ {count' width : Nat}, 0 < width → ((do return (← usizeAdd offset width, count')) : Except Halt (Nat × Nat)) =
      .ok (first, count) → offset < first := by
    intro count' width positive run
    obtain ⟨first', added, run⟩ := bind_eq_ok.1 run
    obtain ⟨rfl, -⟩ := Prod.mk.inj (Except.ok.inj run)
    have exactly := usizeAdd_eq_ok added
    omega
  refine ⟨here, ?_⟩
  dsimp only at call
  split at call
  · exact sum (by omega) call
  split at call
  · obtain ⟨field, -, call⟩ := bind_eq_ok.1 call
    obtain ⟨len, -, call⟩ := bind_eq_ok.1 call
    exact sum (by omega) call
  split at call
  · obtain ⟨field, -, call⟩ := bind_eq_ok.1 call
    obtain ⟨len, -, call⟩ := bind_eq_ok.1 call
    exact sum (by omega) call
  split at call
  · obtain ⟨len, -, call⟩ := bind_eq_ok.1 call
    exact sum (by omega) call
  split at call
  · obtain ⟨field, -, call⟩ := bind_eq_ok.1 call
    obtain ⟨len, -, call⟩ := bind_eq_ok.1 call
    obtain ⟨len', -, call⟩ := bind_eq_ok.1 call
    exact sum (by omega) call
  split at call
  · obtain ⟨field, -, call⟩ := bind_eq_ok.1 call
    obtain ⟨len, -, call⟩ := bind_eq_ok.1 call
    obtain ⟨len', -, call⟩ := bind_eq_ok.1 call
    exact sum (by omega) call
  · cases call

theorem ItemCalls.later (short : bytes.length < 2 ^ 63) (h : ItemCalls (msgpackItemEnd bytes) bytes offset behind) :
    offset < behind ∧ offset < bytes.length := by
  obtain ⟨first, count, call, loop⟩ := h
  have header := sequenceCall_later call
  have after := loop.later fun start stop passed => itemEnd_later short passed
  omega

/-! ## What bounds the peer -/

end TelemetryHub
