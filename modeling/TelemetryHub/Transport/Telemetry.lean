import TelemetryHub.Server.Capabilities

/-!
# Telemetry in MessagePack

A peer's telemetry is one MessagePack value. The transport reads it by itself, down the
bytes, and turns it into JSON. Each element of an array or a map is read by the function
that reads the whole.
-/

namespace TelemetryHub

open Lib MessagePack

/-- `LxmfMsgpackValue`. -/
inductive LxmfMsgpackValue where
  | nil
  | bool (b : Bool)
  | i64 (n : Int64)
  | u64 (n : UInt64)
  | f64 (x : Float)
  | string (s : String)
  | bytes (bytes : List UInt8)
  | array (items : List LxmfMsgpackValue)
  | map (items : List (LxmfMsgpackValue × LxmfMsgpackValue))

/-! ## The arms of the match -/

/-- What an arm of `parse_lxmf_msgpack_value` ends in: a value and the offset behind it, or
a call with an offset and a number of elements or entries. -/
inductive MsgpackArm where
  | value (value : LxmfMsgpackValue) (stop : Nat)
  | array (offset len : Nat)
  | map (offset len : Nat)

/-- `*bytes.get(offset)?`, `read_be_u16_at`, `read_be_u32_at` or `read_be_u64_at`. -/
def readBeAt (width : Nat) (bytes : List UInt8) (offset : Nat) : Except Halt Nat :=
  if width = 1 then do return (← byteAt bytes offset).toNat else readBe width bytes offset

/-- The integers as they are read, from the number their bytes make. -/
def u64Of (n : Nat) : LxmfMsgpackValue := .u64 (UInt64.ofNat n)

/-- `i64::from(i8::from_be_bytes(..))` and its like, by the width. -/
def i64Of (width n : Nat) : LxmfMsgpackValue := .i64 (Int64.ofInt (Int.bmod n (256 ^ width)))

/-- `f64::from(f32::from_bits(..))`. -/
def f32Of (n : Nat) : LxmfMsgpackValue := .f64 (Float32.ofBits (UInt32.ofNat n)).toFloat

/-- `f64::from_bits`. -/
def f64Of (n : Nat) : LxmfMsgpackValue := .f64 (Float.ofBits (UInt64.ofNat n))

/-- `parse_lxmf_msgpack_bytes`. -/
def parseLxmfMsgpackBytes (bytes : List UInt8) (offset len : Nat) : Except Halt MsgpackArm := do
  let stop ← checkedSliceEnd bytes offset len
  return .value (.bytes (slice bytes offset stop)) stop

/-- `parse_lxmf_msgpack_string`. -/
def parseLxmfMsgpackString (bytes : List UInt8) (offset len : Nat) : Except Halt MsgpackArm := do
  let stop ← checkedSliceEnd bytes offset len
  match textOfBytes (slice bytes offset stop) with
  | some text => return .value (.string text) stop
  | none => throw .none

section Arms

variable (bytes : List UInt8) (next : Nat)

/-- A number of a width. -/
def numberArm (width : Nat) (build : Nat → LxmfMsgpackValue) : Except Halt MsgpackArm := do
  let n ← readBeAt width bytes next
  return .value (build n) (← usizeAdd next width)

/-- A length field and the payload behind it. -/
def prefixedArm (width : Nat) (parse : List UInt8 → Nat → Nat → Except Halt MsgpackArm) : Except Halt MsgpackArm := do
  let len ← readBeAt width bytes next
  parse bytes (← usizeAdd next width) len

/-- A length field and the elements behind it. -/
def sequenceArm (width : Nat) (call : Nat → Nat → MsgpackArm) : Except Halt MsgpackArm := do
  let first ← usizeAdd next width
  return call first (← readBeAt width bytes next)

/-- The match of `parse_lxmf_msgpack_value` on the marker. -/
def markerArm (byte : UInt8) : Except Halt MsgpackArm :=
  let marker := byte.toNat
  if marker ≤ 0x7f then .ok (.value (u64Of marker) next)
  else if marker ≤ 0x8f then .ok (.map next (byte &&& 0x0f).toNat)
  else if marker ≤ 0x9f then .ok (.array next (byte &&& 0x0f).toNat)
  else if marker ≤ 0xbf then parseLxmfMsgpackString bytes next (byte &&& 0x1f).toNat
  else if marker = 0xc0 then .ok (.value .nil next)
  else if marker = 0xc2 then .ok (.value (.bool false) next)
  else if marker = 0xc3 then .ok (.value (.bool true) next)
  else if marker = 0xc4 then prefixedArm bytes next 1 parseLxmfMsgpackBytes
  else if marker = 0xc5 then prefixedArm bytes next 2 parseLxmfMsgpackBytes
  else if marker = 0xc6 then prefixedArm bytes next 4 parseLxmfMsgpackBytes
  else if marker = 0xca then numberArm bytes next 4 f32Of
  else if marker = 0xcb then numberArm bytes next 8 f64Of
  else if marker = 0xcc then numberArm bytes next 1 u64Of
  else if marker = 0xcd then numberArm bytes next 2 u64Of
  else if marker = 0xce then numberArm bytes next 4 u64Of
  else if marker = 0xcf then numberArm bytes next 8 u64Of
  else if marker = 0xd0 then numberArm bytes next 1 (i64Of 1)
  else if marker = 0xd1 then numberArm bytes next 2 (i64Of 2)
  else if marker = 0xd2 then numberArm bytes next 4 (i64Of 4)
  else if marker = 0xd3 then numberArm bytes next 8 (i64Of 8)
  else if marker = 0xd9 then prefixedArm bytes next 1 parseLxmfMsgpackString
  else if marker = 0xda then prefixedArm bytes next 2 parseLxmfMsgpackString
  else if marker = 0xdb then prefixedArm bytes next 4 parseLxmfMsgpackString
  else if marker = 0xdc then sequenceArm bytes next 2 .array
  else if marker = 0xdd then sequenceArm bytes next 4 .array
  else if marker = 0xde then sequenceArm bytes next 2 .map
  else if marker = 0xdf then sequenceArm bytes next 4 .map
  else if 0xe0 ≤ marker then .ok (.value (i64Of 1 marker) next)
  else .error .none

end Arms

/-- `parse_lxmf_msgpack_value` up to its call for an array or a map. -/
def msgpackArm (bytes : List UInt8) (offset : Nat) : Except Halt MsgpackArm := do
  let marker ← byteAt bytes offset
  let next ← usizeAdd offset 1
  markerArm bytes next marker

/-! ## The recursion -/

section Recursion

variable (parseValue : Nat → Except Halt (LxmfMsgpackValue × Nat))

/-- The loop of `parse_lxmf_msgpack_array`. -/
def lxmfMsgpackItems : Nat → Nat → Except Halt (List LxmfMsgpackValue × Nat)
  | 0, offset => .ok ([], offset)
  | count + 1, offset => do
    let (value, next) ← parseValue offset
    let (items, stop) ← lxmfMsgpackItems count next
    return (value :: items, stop)

/-- `parse_lxmf_msgpack_array`. -/
def parseLxmfMsgpackArray (offset len : Nat) : Except Halt (LxmfMsgpackValue × Nat) := do
  let (items, stop) ← lxmfMsgpackItems parseValue len offset
  return (.array items, stop)

/-- The loop of `parse_lxmf_msgpack_map`. -/
def lxmfMsgpackEntries : Nat → Nat → Except Halt (List (LxmfMsgpackValue × LxmfMsgpackValue) × Nat)
  | 0, offset => .ok ([], offset)
  | count + 1, offset => do
    let (key, next) ← parseValue offset
    let (value, next) ← parseValue next
    let (items, stop) ← lxmfMsgpackEntries count next
    return ((key, value) :: items, stop)

/-- `parse_lxmf_msgpack_map`. -/
def parseLxmfMsgpackMap (offset len : Nat) : Except Halt (LxmfMsgpackValue × Nat) := do
  let (items, stop) ← lxmfMsgpackEntries parseValue len offset
  return (.map items, stop)

/-- `parse_lxmf_msgpack_value`, over what reads the values within it. -/
def parseLxmfMsgpackValueOver (bytes : List UInt8) (offset : Nat) : Except Halt (LxmfMsgpackValue × Nat) := do
  match ← msgpackArm bytes offset with
  | .value value stop => return (value, stop)
  | .array first len => parseLxmfMsgpackArray parseValue first len
  | .map first len => parseLxmfMsgpackMap parseValue first len

end Recursion

/-- `parse_lxmf_msgpack_value`, down to a depth of nesting. -/
def parseLxmfMsgpackValueWithin (bytes : List UInt8) : Nat → Nat → Except Halt (LxmfMsgpackValue × Nat)
  | 0, _ => .error .none
  | depth + 1, offset => parseLxmfMsgpackValueOver (parseLxmfMsgpackValueWithin bytes depth) bytes offset

/-- `parse_lxmf_msgpack_value`: no value is nested deeper than it has bytes. -/
def parseLxmfMsgpackValue (bytes : List UInt8) (offset : Nat) : Except Halt (LxmfMsgpackValue × Nat) :=
  parseLxmfMsgpackValueWithin bytes (bytes.length + 1) offset

/-! ## JSON -/

/-- `lxmf_msgpack_key_to_string`. -/
def lxmfMsgpackKeyToString : LxmfMsgpackValue → Option String
  | .i64 n => some (toString n.toInt)
  | .u64 n => some (toString n.toNat)
  | .string s => some s
  | _ => none

/-- `JsonValue::Object` of what an iterator yields: a later entry takes the place of an
earlier one. -/
def collectObject (fields : List (String × Value)) : Value :=
  fields.foldl (fun object field => object.insert field.1 field.2) (.object [])

mutual

/-- `lxmf_msgpack_value_to_json`. -/
def lxmfMsgpackValueToJson : LxmfMsgpackValue → Value
  | .nil => .null
  | .bool b => .bool b
  | .i64 n => .number (.int n.toInt)
  | .u64 n => .number (.int n.toNat)
  | .f64 x => if x.isFinite then .number (.float x) else .null
  | .string s => .string s
  | .bytes bytes => .array (bytes.map fun byte => .number (.int byte.toNat))
  | .array items => .array (lxmfMsgpackItemsToJson items)
  | .map items => collectObject (lxmfMsgpackEntriesToJson items)

def lxmfMsgpackItemsToJson : List LxmfMsgpackValue → List Value
  | [] => []
  | value :: items => lxmfMsgpackValueToJson value :: lxmfMsgpackItemsToJson items

/-- The entries whose key is a text or an integer. -/
def lxmfMsgpackEntriesToJson : List (LxmfMsgpackValue × LxmfMsgpackValue) → List (String × Value)
  | [] => []
  | (key, value) :: items =>
    match lxmfMsgpackKeyToString key with
    | some key => (key, lxmfMsgpackValueToJson value) :: lxmfMsgpackEntriesToJson items
    | none => lxmfMsgpackEntriesToJson items

end

/-- `parse_lxmf_msgpack_json`. -/
def parseLxmfMsgpackJson (bytes : List UInt8) : Except Halt Value := do
  let (value, offset) ← parseLxmfMsgpackValue bytes 0
  if offset = bytes.length then return lxmfMsgpackValueToJson value else throw .none

/-! ## What is read -/

mutual

/-- The value of the format that is read. -/
def LxmfMsgpackValue.data : LxmfMsgpackValue → Data
  | .nil => .nil
  | .bool b => .bool b
  | .i64 n => .int n.toInt
  | .u64 n => .int n.toNat
  | .f64 x => .float x
  | .string s => .str s
  | .bytes payload => .bin payload
  | .array items => .array (LxmfMsgpackValue.dataAll items)
  | .map items => .map (LxmfMsgpackValue.dataEntries items)

def LxmfMsgpackValue.dataAll : List LxmfMsgpackValue → List Data
  | [] => []
  | value :: items => value.data :: LxmfMsgpackValue.dataAll items

def LxmfMsgpackValue.dataEntries : List (LxmfMsgpackValue × LxmfMsgpackValue) → List (Data × Data)
  | [] => []
  | (key, value) :: items => (key.data, value.data) :: LxmfMsgpackValue.dataEntries items

end

end TelemetryHub
