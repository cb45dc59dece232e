import Mathlib.Data.List.Nodup

/-!
# The wire format of protocol buffers

A message is a sequence of fields, each a key and a value behind it. The key has the number
of the field and the wire type of the value; the value is a number of its own length, eight
bytes, or bytes behind their length.
-/

namespace TelemetryHub.Lib.Protobuf

/-! ## Numbers -/

/-- A number, seven bits a byte, the low ones first; every byte but the last has the high bit. -/
def varint (n : Nat) : List UInt8 :=
  if n < 128 then [UInt8.ofNat n] else UInt8.ofNat (n % 128 + 128) :: varint (n / 128)

/-- Read a number, and what is left behind it. -/
def readVarint : List UInt8 → Option (Nat × List UInt8)
  | [] => none
  | byte :: rest =>
    if byte.toNat < 128 then some (byte.toNat, rest)
    else (readVarint rest).map fun (high, rest) => (byte.toNat - 128 + 128 * high, rest)

theorem toNat_ofNat {n : Nat} (small : n < 256) : (UInt8.ofNat n).toNat = n := by
  rw [UInt8.toNat_ofNat']
  omega

@[simp] theorem readVarint_varint (n : Nat) (rest : List UInt8) : readVarint (varint n ++ rest) = some (n, rest) := by
  induction n using Nat.strongRecOn with
  | ind n ih =>
    unfold varint
    by_cases small : n < 128
    · rw [if_pos small, List.singleton_append, readVarint, toNat_ofNat (by omega), if_pos small]
    · rw [if_neg small, List.cons_append, readVarint, toNat_ofNat (by omega), if_neg (by omega), ih (n / 128) (by omega)]
      have number : n % 128 + 128 - 128 + 128 * (n / 128) = n := by omega
      rw [Option.map_some]
      dsimp only
      rw [number]

theorem varint_ne_nil (n : Nat) : varint n ≠ [] := by
  unfold varint
  split <;> exact List.cons_ne_nil _ _

theorem length_varint_pos (n : Nat) : 0 < (varint n).length := List.length_pos_iff.2 (varint_ne_nil n)

/-! ## Fields -/

/-- A value on the wire. -/
inductive WireValue where
  | varint (n : Nat)
  | fixed64 (bytes : List UInt8) (eight : bytes.length = 8)
  | bytes (payload : List UInt8)
  deriving DecidableEq

/-- The key of a field and its value. -/
def encodeField : Nat × WireValue → List UInt8
  | (tag, .varint n) => Protobuf.varint (tag * 8) ++ Protobuf.varint n
  | (tag, .fixed64 bytes _) => Protobuf.varint (tag * 8 + 1) ++ bytes
  | (tag, .bytes payload) => Protobuf.varint (tag * 8 + 2) ++ (Protobuf.varint payload.length ++ payload)

/-- The fields of a message, one behind the other. -/
def encodeFields (fields : List (Nat × WireValue)) : List UInt8 := fields.flatMap encodeField

/-- Read a value of a wire type, and what is left behind it. -/
def readValue (wireType : Nat) (bytes : List UInt8) : Option (WireValue × List UInt8) :=
  match wireType with
  | 0 => (readVarint bytes).map fun (n, rest) => (.varint n, rest)
  | 1 => if eight : (bytes.take 8).length = 8 then some (.fixed64 (bytes.take 8) eight, bytes.drop 8) else none
  | 2 => (readVarint bytes).bind fun (length, rest) =>
    if length ≤ rest.length then some (.bytes (rest.take length), rest.drop length) else none
  | _ => none

/-- Read a field, and what is left behind it. -/
def readField (bytes : List UInt8) : Option ((Nat × WireValue) × List UInt8) :=
  (readVarint bytes).bind fun (key, rest) =>
    (readValue (key % 8) rest).map fun (value, rest) => ((key / 8, value), rest)

theorem readField_encodeField (field : Nat × WireValue) (rest : List UInt8) :
    readField (encodeField field ++ rest) = some (field, rest) := by
  obtain ⟨tag, value⟩ := field
  cases value with
  | varint n =>
    have wire : tag * 8 % 8 = 0 := by omega
    have number : tag * 8 / 8 = tag := by omega
    simp [readField, encodeField, readValue, wire, number]
  | fixed64 bytes eight =>
    have wire : (tag * 8 + 1) % 8 = 1 := by omega
    have number : (tag * 8 + 1) / 8 = tag := by omega
    have front : (bytes ++ rest).take 8 = bytes := by rw [← eight, List.take_left]
    have behind : (bytes ++ rest).drop 8 = rest := by rw [← eight, List.drop_left]
    simp [readField, encodeField, readValue, wire, number, front, behind, eight]
  | bytes payload =>
    have wire : (tag * 8 + 2) % 8 = 2 := by omega
    have number : (tag * 8 + 2) / 8 = tag := by omega
    simp [readField, encodeField, readValue, wire, number]

theorem encodeField_ne_nil (field : Nat × WireValue) : encodeField field ≠ [] := by
  obtain ⟨tag, value⟩ := field
  cases value <;> simp [encodeField, varint_ne_nil]

/-- Read fields until nothing is left, so many at most. -/
def readFieldsUpTo : Nat → List UInt8 → Option (List (Nat × WireValue))
  | _, [] => some []
  | 0, _ :: _ => none
  | count + 1, byte :: bytes =>
    (readField (byte :: bytes)).bind fun (field, rest) => (readFieldsUpTo count rest).map (field :: ·)

/-- Read the fields of a message. -/
def readFields (bytes : List UInt8) : Option (List (Nat × WireValue)) := readFieldsUpTo bytes.length bytes

theorem readFieldsUpTo_encodeFields {count : Nat} (fields : List (Nat × WireValue)) (enough : fields.length ≤ count) :
    readFieldsUpTo count (encodeFields fields) = some fields := by
  induction fields generalizing count with
  | nil => cases count <;> rfl
  | cons field fields ih =>
    have bytes : encodeFields (field :: fields) = encodeField field ++ encodeFields fields := rfl
    cases count with
    | zero => cases enough
    | succ count =>
      have later := ih (Nat.le_of_succ_le_succ enough)
      obtain ⟨byte, others, split⟩ := List.exists_cons_of_ne_nil (encodeField_ne_nil field)
      rw [bytes, split, List.cons_append, readFieldsUpTo, ← List.cons_append, ← split, readField_encodeField,
        Option.bind_some]
      dsimp only
      rw [later]
      rfl

theorem length_le_encodeFields (fields : List (Nat × WireValue)) : fields.length ≤ (encodeFields fields).length := by
  induction fields with
  | nil => exact Nat.zero_le _
  | cons field fields ih =>
    have bytes : encodeFields (field :: fields) = encodeField field ++ encodeFields fields := rfl
    have some' := List.length_pos_iff.2 (encodeField_ne_nil field)
    rw [bytes, List.length_append, List.length_cons]
    omega

/-- The fields of a message are read back. -/
@[simp] theorem readFields_encodeFields (fields : List (Nat × WireValue)) :
    readFields (encodeFields fields) = some fields :=
  readFieldsUpTo_encodeFields fields (length_le_encodeFields fields)

/-! ## Optional fields -/

/-- The fields that are there. -/
def present (entries : List (Nat × Option WireValue)) : List (Nat × WireValue) :=
  entries.filterMap fun entry => entry.2.map fun value => (entry.1, value)

/-- The field of a tag; of several the last. -/
def lastOf (tag : Nat) (fields : List (Nat × WireValue)) : Option WireValue :=
  (fields.filter fun field => field.1 == tag).getLast?.map Prod.snd

theorem present_filter_absent {entries : List (Nat × Option WireValue)} {tag : Nat}
    (absent : tag ∉ entries.map Prod.fst) : (present entries).filter (fun field => field.1 == tag) = [] := by
  rw [List.filter_eq_nil_iff]
  intro field mem same
  obtain ⟨entry, there, made⟩ := List.mem_filterMap.1 mem
  obtain ⟨value, -, rfl⟩ := Option.map_eq_some_iff.1 made
  rw [← beq_iff_eq.1 same] at absent
  exact absent (List.mem_map_of_mem there)

/-- Where every tag stands once, the field of a tag is what was put there. -/
theorem lastOf_present {entries : List (Nat × Option WireValue)} (nodup : (entries.map Prod.fst).Nodup) {tag : Nat}
    {value : Option WireValue} (mem : (tag, value) ∈ entries) : lastOf tag (present entries) = value := by
  unfold lastOf
  induction entries with
  | nil => cases mem
  | cons entry entries ih =>
    rw [List.map_cons, List.nodup_cons] at nodup
    have split : present (entry :: entries) = (entry.2.map fun value => (entry.1, value)).toList ++ present entries := by
      rw [present, List.filterMap_cons]
      cases entry.2 <;> rfl
    rw [split, List.filter_append]
    obtain rfl | later := List.mem_cons.1 mem
    · rw [present_filter_absent nodup.1]
      cases value <;> simp
    · have other : entry.1 ≠ tag := by
        rintro rfl
        exact nodup.1 (List.mem_map.2 ⟨_, later, rfl⟩)
      have none' : (entry.2.map fun value => (entry.1, value)).toList.filter (fun field => field.1 == tag) = [] := by
        cases entry.2 <;> simp [other]
      rw [none', List.nil_append]
      exact ih nodup.2 later

end TelemetryHub.Lib.Protobuf
