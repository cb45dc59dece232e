import TelemetryHub.Lib.MessagePack
import TelemetryHub.Server.Announces

/-!
# Capabilities in announces

An announce carries app data of its peer's making, and the hub looks for capabilities in
it: in the data read as text, else in the slots of a MessagePack array, which it cuts out
of the bytes by itself. The scan keeps offsets into the bytes. It ends with `None`, or
with a panic where an offset is not a `usize` or a slice is not within the bytes.
-/

namespace TelemetryHub

open Lib MessagePack

/-! ## Offsets and slices -/

/-- How a computation on byte offsets ends without a value: in `None`, or in a panic. -/
inductive Halt where
  | none | overflow | outOfRange
  deriving DecidableEq

/-- `usize` addition. -/
def usizeAdd (a b : Nat) : Except Halt Nat := if a + b < 2 ^ 64 then .ok (a + b) else .error .overflow

/-- `usize` multiplication. -/
def usizeMul (a b : Nat) : Except Halt Nat := if a * b < 2 ^ 64 then .ok (a * b) else .error .overflow

/-- `*bytes.get(offset)?`. -/
def byteAt (bytes : List UInt8) (offset : Nat) : Except Halt UInt8 :=
  match bytes[offset]? with
  | some byte => .ok byte
  | none => .error .none

/-- `&bytes[start..stop]`. -/
def sliceAt (bytes : List UInt8) (start stop : Nat) : Except Halt (List UInt8) :=
  if start ≤ stop ∧ stop ≤ bytes.length then .ok (slice bytes start stop) else .error .outOfRange

/-- `read_be_u16` and `read_be_u32`, by the width. -/
def readBe (width : Nat) (bytes : List UInt8) (offset : Nat) : Except Halt Nat := do
  let stop ← usizeAdd offset width
  if stop ≤ bytes.length then return beNat (slice bytes offset stop) else throw .none

/-- `checked_slice_end`. -/
def checkedSliceEnd (bytes : List UInt8) (offset len : Nat) : Except Halt Nat :=
  if offset + len < 2 ^ 64 ∧ offset + len ≤ bytes.length then .ok (offset + len) else .error .none

/-! ## The scan -/

/-- The length field `msgpack_len_prefixed_end` reads. -/
def lengthField (bytes : List UInt8) (offset : Nat) : Nat → Except Halt Nat
  | 1 => do return (← byteAt bytes offset).toNat
  | 2 => readBe 2 bytes offset
  | 4 => readBe 4 bytes offset
  | _ => throw .none

/-- `msgpack_len_prefixed_end`. -/
def msgpackLenPrefixedEnd (bytes : List UInt8) (offset lenBytes : Nat) : Except Halt Nat := do
  let fieldOffset ← usizeAdd offset 1
  let payloadOffset ← usizeAdd fieldOffset lenBytes
  let len ← lengthField bytes fieldOffset lenBytes
  checkedSliceEnd bytes payloadOffset len

/-- `msgpack_sequence_end`, over what finds the end of an item. -/
def msgpackSequenceEnd (itemEnd : Nat → Except Halt Nat) : Nat → Nat → Except Halt Nat
  | 0, offset => .ok offset
  | count + 1, offset => do msgpackSequenceEnd itemEnd count (← itemEnd offset)

/-- `msgpack_item_end`, over what finds the end of an item within it. -/
def msgpackItemEndOver (bytes : List UInt8) (itemEnd : Nat → Except Halt Nat) (offset : Nat) : Except Halt Nat := do
  let byte ← byteAt bytes offset
  let marker := byte.toNat
  let sequenceEnd := msgpackSequenceEnd itemEnd
  if marker ≤ 0x7f ∨ marker = 0xc0 ∨ marker = 0xc2 ∨ marker = 0xc3 ∨ 0xe0 ≤ marker then usizeAdd offset 1
  else if marker = 0xcc ∨ marker = 0xd0 then usizeAdd offset 2
  else if marker = 0xcd ∨ marker = 0xd1 then usizeAdd offset 3
  else if marker = 0xca ∨ marker = 0xce ∨ marker = 0xd2 then usizeAdd offset 5
  else if marker = 0xcb ∨ marker = 0xcf ∨ marker = 0xd3 then usizeAdd offset 9
  else if marker = 0xc4 ∨ marker = 0xd9 then msgpackLenPrefixedEnd bytes offset 1
  else if marker = 0xc5 ∨ marker = 0xda then msgpackLenPrefixedEnd bytes offset 2
  else if marker = 0xc6 ∨ marker = 0xdb then msgpackLenPrefixedEnd bytes offset 4
  else if 0xa0 ≤ marker ∧ marker ≤ 0xbf then
    checkedSliceEnd bytes (← usizeAdd offset 1) (byte &&& 0x1f).toNat
  else if 0x90 ≤ marker ∧ marker ≤ 0x9f then sequenceEnd (byte &&& 0x0f).toNat (← usizeAdd offset 1)
  else if marker = 0xdc then
    let count ← readBe 2 bytes (← usizeAdd offset 1)
    sequenceEnd count (← usizeAdd offset 3)
  else if marker = 0xdd then
    let count ← readBe 4 bytes (← usizeAdd offset 1)
    sequenceEnd count (← usizeAdd offset 5)
  else if 0x80 ≤ marker ∧ marker ≤ 0x8f then
    let count ← usizeMul (byte &&& 0x0f).toNat 2
    sequenceEnd count (← usizeAdd offset 1)
  else if marker = 0xde then
    let count ← usizeMul (← readBe 2 bytes (← usizeAdd offset 1)) 2
    sequenceEnd count (← usizeAdd offset 3)
  else if marker = 0xdf then
    let count ← usizeMul (← readBe 4 bytes (← usizeAdd offset 1)) 2
    sequenceEnd count (← usizeAdd offset 5)
  else .error .none

/-- `msgpack_item_end`, down to a depth of nesting. -/
def msgpackItemEndWithin (bytes : List UInt8) : Nat → Nat → Except Halt Nat
  | 0, _ => .error .none
  | depth + 1, offset => msgpackItemEndOver bytes (msgpackItemEndWithin bytes depth) offset

/-- `msgpack_item_end`: no value is nested deeper than it has bytes. -/
def msgpackItemEnd (bytes : List UInt8) (offset : Nat) : Except Halt Nat :=
  msgpackItemEndWithin bytes (bytes.length + 1) offset

/-- `msgpack_array_header`. -/
def msgpackArrayHeader (bytes : List UInt8) (offset : Nat) : Except Halt (Nat × Nat) := do
  let byte ← byteAt bytes offset
  let marker := byte.toNat
  if 0x90 ≤ marker ∧ marker ≤ 0x9f then return ((byte &&& 0x0f).toNat, ← usizeAdd offset 1)
  else if marker = 0xdc then return (← readBe 2 bytes (← usizeAdd offset 1), ← usizeAdd offset 3)
  else if marker = 0xdd then return (← readBe 4 bytes (← usizeAdd offset 1), ← usizeAdd offset 5)
  else throw .none

/-- The loop of `msgpack_top_level_array_slices`: the slots, and the offset behind them. -/
def topLevelSlots (bytes : List UInt8) : Nat → Nat → Except Halt (List (List UInt8) × Nat)
  | 0, offset => .ok ([], offset)
  | count + 1, start => do
    let offset ← msgpackItemEnd bytes start
    let slot ← sliceAt bytes start offset
    let (slots, stop) ← topLevelSlots bytes count offset
    return (slot :: slots, stop)

/-- `msgpack_top_level_array_slices`. -/
def msgpackTopLevelArraySlices (bytes : List UInt8) : Except Halt (List (List UInt8)) := do
  let (count, offset) ← msgpackArrayHeader bytes 0
  let (slots, stop) ← topLevelSlots bytes count offset
  if stop = bytes.length then return slots else throw .none

/-- Where the payload of a binary or a string starts, and its length. -/
def binaryOrStringPayload (slot : List UInt8) : Except Halt (Nat × Nat) := do
  let byte ← byteAt slot 0
  let marker := byte.toNat
  if 0xa0 ≤ marker ∧ marker ≤ 0xbf then return (1, (byte &&& 0x1f).toNat)
  else if marker = 0xc4 ∨ marker = 0xd9 then return (2, (← byteAt slot 1).toNat)
  else if marker = 0xc5 ∨ marker = 0xda then return (3, ← readBe 2 slot 1)
  else if marker = 0xc6 ∨ marker = 0xdb then return (5, ← readBe 4 slot 1)
  else throw .none

/-- `msgpack_binary_or_string_bytes`. -/
def msgpackBinaryOrStringBytes (slot : List UInt8) : Except Halt (List UInt8) := do
  let (payloadOffset, len) ← binaryOrStringPayload slot
  let stop ← checkedSliceEnd slot payloadOffset len
  sliceAt slot payloadOffset stop

/-! ## Decoding -/

/-- `rmp_serde::from_slice::<Value>(..).ok()`, as any function. -/
class RmpSerde where
  fromSlice : List UInt8 → Option Value

/-- A scan whose `None` is looked at. -/
def orNone {α : Type} : Except Halt α → Except Halt (Option α)
  | .ok a => .ok (some a)
  | .error .none => .ok none
  | .error panicked => .error panicked

/-- `std::str::from_utf8(..).ok()`. -/
def textOfBytes (bytes : List UInt8) : Option String := String.fromUTF8? ⟨bytes.toArray⟩

/-- `normalize_capability_value`. -/
def normalizeCapabilityValue : Value → List String
  | .string text => normalizeCapabilityText text
  | .array items => dedupeNonEmpty ((items.filterMap Value.asStr).map toAsciiLowercase)
  | .object fields =>
    match _held : fields.lookup "caps" with
    | none => []
    | some caps => normalizeCapabilityValue caps
  | _ => []
termination_by value => sizeOf value
decreasing_by
  obtain ⟨before, after, split, -⟩ := List.lookup_eq_some_iff.1 _held
  have member : ("caps", caps) ∈ fields := by simp [split]
  have smaller := List.sizeOf_lt_of_mem member
  simp at smaller ⊢
  omega

/-- `json_value_as_bytes`. -/
def jsonValueAsBytes : Value → Option (List UInt8)
  | .string text => some text.toUTF8.toList
  | .array items => some (items.filterMap fun item => (item.asU64.filter (· < 256)).map UInt8.ofNat)
  | _ => none

/-- The list, unless it is empty. -/
def unlessEmpty (capabilities : List String) : Option (List String) :=
  if capabilities.isEmpty then none else some capabilities

variable [RmpSerde]

/-- `decode_announce_capability_slot_bytes`. -/
def decodeAnnounceCapabilitySlotBytes (slot : List UInt8) : Except Halt (Option (List String)) := do
  let whole := (RmpSerde.fromSlice slot).bind fun decoded => unlessEmpty (normalizeCapabilityValue decoded)
  match ← orNone (msgpackBinaryOrStringBytes slot) with
  | none => return whole
  | some bytes =>
    match RmpSerde.fromSlice bytes with
    | none => return none
    | some decoded => return (unlessEmpty (normalizeCapabilityValue decoded)).or whole

/-- `decode_announce_capability_slot`. -/
def decodeAnnounceCapabilitySlot (slot : Value) : Option (List String) :=
  (unlessEmpty (normalizeCapabilityValue slot)).or
    (((jsonValueAsBytes slot).bind RmpSerde.fromSlice).bind fun decoded =>
      unlessEmpty (normalizeCapabilityValue decoded))

/-- `find_map(decode_announce_capability_slot_bytes)`. -/
def firstCapabilities : List (List UInt8) → Except Halt (Option (List String))
  | [] => .ok none
  | slot :: slots => do
    match ← decodeAnnounceCapabilitySlotBytes slot with
    | some capabilities => return some capabilities
    | none => firstCapabilities slots

/-- What `rmp_serde` makes of the app data as a whole. -/
def capabilitiesOfValue : Option Value → List String
  | some (.array slots) => ((slots.drop 2).findSome? decodeAnnounceCapabilitySlot).getD []
  | some (.string text) => normalizeCapabilityValue (.string text)
  | some (.object fields) => normalizeCapabilityValue (.object fields)
  | _ => []

/-- `decode_announce_capabilities_from_app_data`. -/
def decodeAnnounceCapabilitiesFromAppData (appData : List UInt8) : Except Halt (List String) :=
  match (textOfBytes appData).bind fun text => unlessEmpty (normalizeCapabilityText text) with
  | some capabilities => return capabilities
  | none => do
    let inSlots ← match ← orNone (msgpackTopLevelArraySlices appData) with
      | none => pure none
      | some slots => firstCapabilities (slots.drop 2)
    return inSlots.getD (capabilitiesOfValue (RmpSerde.fromSlice appData))

end TelemetryHub
