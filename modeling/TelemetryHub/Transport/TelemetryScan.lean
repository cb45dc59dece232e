import TelemetryHub.Server.Scan
import TelemetryHub.Transport.Telemetry

/-!
# What the telemetry parser reads

The parser reads a value at an offset exactly where its encoding stands there, in any of
its forms. The scan of announces ends where the parser does.
-/

namespace TelemetryHub

open Lib MessagePack

variable {bytes : List UInt8} {offset next start width len : Nat} {byte : UInt8}

/-! ## Numbers and texts -/

theorem readBeAt_cases (bytes : List UInt8) (offset width : Nat) (fits : offset + width < 2 ^ 64) :
    readBeAt width bytes offset = .error .none ∨
      offset + width ≤ bytes.length ∧ readBeAt width bytes offset = .ok (beNat (slice bytes offset (offset + width))) := by
  unfold readBeAt
  split
  · next one =>
    subst one
    exact lengthField_cases bytes offset 1 (.inl rfl) fits
  · exact readBe_cases bytes offset width fits

theorem readBe_stands {field : List UInt8} (stands : Stands bytes next field) (short : bytes.length < 2 ^ 63) :
    readBe field.length bytes next = .ok (beNat field) := by
  have inside := stands.inside
  rw [readBe, usizeAdd_ok (by omega)]
  simp [bind, Except.bind, inside, stands.slice_eq, pure, Except.pure]

/-- A field is read where it stands. -/
theorem readBeAt_stands {field : List UInt8} (stands : Stands bytes next field) (short : bytes.length < 2 ^ 63) :
    readBeAt field.length bytes next = .ok (beNat field) := by
  unfold readBeAt
  split
  · next one =>
    obtain ⟨byte, rfl⟩ := List.length_eq_one_iff.1 one
    rw [byteAt_ok.2 stands.marker]
    simp [bind, Except.bind, pure, Except.pure, beNat]
  · exact readBe_stands stands short

theorem pow_width_le (narrow : width ≤ 8) : 256 ^ width ≤ 2 ^ 64 :=
  calc 256 ^ width ≤ 256 ^ 8 := Nat.pow_le_pow_right (by omega) narrow
    _ = 2 ^ 64 := by decide

theorem beNat_lt_of_length {field : List UInt8} (narrow : field.length ≤ 8) : beNat field < 2 ^ 64 :=
  Nat.lt_of_lt_of_le (beNat_lt field) (pow_width_le narrow)

theorem data_u64Of {n : Nat} (small : n < 2 ^ 64) : (u64Of n).data = .int n := by
  simp only [u64Of, LxmfMsgpackValue.data, UInt64.toNat_ofNat']
  rw [Nat.mod_eq_of_lt small]

theorem data_i64Of {n : Nat} (positive : 0 < width) (narrow : width ≤ 8) :
    (i64Of width n).data = .int (Int.bmod n (256 ^ width)) := by
  have fits := pow_width_le narrow
  have even : 256 ^ width = 2 * (128 * 256 ^ (width - 1)) := by
    obtain ⟨less, rfl⟩ := Nat.exists_eq_succ_of_ne_zero (Nat.ne_of_gt positive)
    rw [Nat.succ_sub_one, Nat.pow_succ]
    omega
  have some_ : 0 < 256 ^ width := Nat.pow_pos (by omega)
  simp only [i64Of, LxmfMsgpackValue.data, Int64.toInt_ofInt]
  congr 1
  generalize 256 ^ width = modulus at *
  have low := @Int.le_bmod n modulus (by omega)
  have high := @Int.bmod_lt n modulus (by omega)
  apply Int.bmod_eq_of_le <;> simp only [Int64.size] <;> omega

/-- `from_utf8` gives the text whose bytes these are. -/
theorem textOfBytes_eq_some {payload : List UInt8} {text : String} : textOfBytes payload = some text ↔ payload = utf8 text := by
  unfold textOfBytes utf8 String.fromUTF8?
  constructor
  · intro read
    split at read
    · obtain rfl := Option.some.inj read
      simp [String.fromUTF8]
    · cases read
  · rintro rfl
    have same : (⟨text.toUTF8.data.toList.toArray⟩ : ByteArray) = text.toByteArray := by simp
    rw [same, dif_pos text.isValidUTF8]
    rfl

/-! ## One arm of the match each -/

/-- An arm ended without a panic: in `None`, at the end of a scalar, or in a call behind the
header of an array or a map. -/
inductive ArmFound (bytes : List UInt8) (offset : Nat) : Except Halt MsgpackArm → Prop
  | none : ArmFound bytes offset (.error .none)
  | value (value : LxmfMsgpackValue) (stop : Nat) (later : offset < stop) (inside : stop ≤ bytes.length)
    (whole : Scalar (slice bytes offset stop) value.data) : ArmFound bytes offset (.ok (.value value stop))
  | array (first len : Nat) (later : offset < first) (inside : first ≤ bytes.length)
    (headed : ArrayHeader len (slice bytes offset first)) : ArmFound bytes offset (.ok (.array first len))
  | map (first len : Nat) (later : offset < first) (inside : first ≤ bytes.length)
    (headed : MapHeader len (slice bytes offset first)) : ArmFound bytes offset (.ok (.map first len))

theorem ArmFound.ite {c : Prop} [Decidable c] {first second : Except Halt MsgpackArm} (h : c → ArmFound bytes offset first)
    (h' : ¬c → ArmFound bytes offset second) : ArmFound bytes offset (if c then first else second) := by
  split
  · next holds => exact h holds
  · next fails => exact h' fails

/-- What reads a payload of a length returns it, or nothing. -/
def ReadsPayload (parse : List UInt8 → Nat → Nat → Except Halt MsgpackArm) (scalar : List UInt8 → Data → Prop) : Prop :=
  ∀ bytes start len, parse bytes start len = .error .none ∨ start + len ≤ bytes.length ∧
    ∃ value, parse bytes start len = .ok (.value value (start + len)) ∧ scalar (slice bytes start (start + len)) value.data

theorem checkedSliceEnd_cases (bytes : List UInt8) (start len : Nat) : checkedSliceEnd bytes start len = .error .none ∨
    start + len ≤ bytes.length ∧ checkedSliceEnd bytes start len = .ok (start + len) := by
  unfold checkedSliceEnd
  split
  · next within => exact .inr ⟨within.2, rfl⟩
  · exact .inl rfl

theorem parseBytes_reads : ReadsPayload parseLxmfMsgpackBytes fun payload x => x = .bin payload := by
  intro bytes start len
  unfold parseLxmfMsgpackBytes
  obtain absent | ⟨inside, found⟩ := checkedSliceEnd_cases bytes start len
  · exact .inl (by rw [absent]; rfl)
  · exact .inr ⟨inside, _, by rw [found]; rfl, by simp [LxmfMsgpackValue.data]⟩

theorem parseString_reads : ReadsPayload parseLxmfMsgpackString fun payload x => ∃ text, payload = utf8 text ∧ x = .str text := by
  intro bytes start len
  unfold parseLxmfMsgpackString
  obtain absent | ⟨inside, found⟩ := checkedSliceEnd_cases bytes start len
  · exact .inl (by rw [absent]; rfl)
  · rw [found]
    simp only [bind, Except.bind]
    cases read : textOfBytes (slice bytes start (start + len)) with
    | none => exact .inl rfl
    | some text => exact .inr ⟨inside, _, rfl, text, textOfBytes_eq_some.1 read, by simp [LxmfMsgpackValue.data]⟩

section Found

variable (read : bytes[offset]? = some byte) (short : bytes.length < 2 ^ 63)

include read

theorem single_found {value : LxmfMsgpackValue} (scalar : Scalar [byte] value.data) :
    ArmFound bytes offset (.ok (.value value (offset + 1))) := by
  have inside := offset_lt read
  refine .value value (offset + 1) (by omega) (by omega) ?_
  rw [slice_cons read (by omega), slice_self]
  exact scalar

include short

theorem number_found (width : Nat) (build : Nat → LxmfMsgpackValue) (narrow : width ≤ 8)
    (scalar : ∀ field : List UInt8, field.length = width → Scalar (byte :: field) (build (beNat field)).data) :
    ArmFound bytes offset (numberArm bytes (offset + 1) width build) := by
  have here := offset_lt read
  unfold numberArm
  obtain absent | ⟨inside, found⟩ := readBeAt_cases bytes (offset + 1) width (by omega)
  · rw [absent]
    exact .none
  · rw [found, usizeAdd_ok (by omega)]
    apply ArmFound.value _ _ (by omega) inside
    rw [slice_cons read (by omega)]
    apply scalar
    rw [length_slice inside]
    omega

omit read short in
theorem payload_found {parse : List UInt8 → Nat → Nat → Except Halt MsgpackArm} {scalar : List UInt8 → Data → Prop}
    (reads : ReadsPayload parse scalar) (start len : Nat) (later : offset < start)
    (whole : ∀ payload x, payload.length = len → scalar payload x → Scalar (slice bytes offset start ++ payload) x) :
    ArmFound bytes offset (parse bytes start len) := by
  obtain absent | ⟨inside, value, found, held⟩ := reads bytes start len
  · rw [absent]
    exact .none
  · rw [found]
    apply ArmFound.value _ _ (by omega) inside
    rw [← slice_append (by omega : offset ≤ start) (by omega : start ≤ start + len)]
    apply whole _ _ _ held
    rw [length_slice inside]
    omega

theorem prefixed_found {parse : List UInt8 → Nat → Nat → Except Halt MsgpackArm} {scalar : List UInt8 → Data → Prop}
    (reads : ReadsPayload parse scalar) (width : Nat) (narrow : width ≤ 4)
    (whole : ∀ field payload x, field.length = width → payload.length = beNat field → scalar payload x →
      Scalar (byte :: (field ++ payload)) x) : ArmFound bytes offset (prefixedArm bytes (offset + 1) width parse) := by
  have here := offset_lt read
  unfold prefixedArm
  obtain absent | ⟨inside, found⟩ := readBeAt_cases bytes (offset + 1) width (by omega)
  · rw [absent]
    exact .none
  · rw [found, usizeAdd_ok (by omega)]
    apply payload_found reads _ _ (by omega)
    intro payload x sized held
    rw [slice_cons read (by omega)]
    apply whole _ _ _ _ sized held
    rw [length_slice inside]
    omega

theorem sequence_found (width : Nat) (call : Nat → Nat → MsgpackArm) (narrow : width ≤ 4)
    (found : ∀ first, offset < first → first ≤ bytes.length → ∀ field : List UInt8, field.length = width →
      slice bytes offset first = byte :: field → ArmFound bytes offset (.ok (call first (beNat field)))) :
    ArmFound bytes offset (sequenceArm bytes (offset + 1) width call) := by
  have here := offset_lt read
  unfold sequenceArm
  rw [usizeAdd_ok (by omega)]
  obtain absent | ⟨inside, field⟩ := readBeAt_cases bytes (offset + 1) width (by omega)
  · simp only [bind, Except.bind, absent]
    exact .none
  · simp only [bind, Except.bind, field]
    apply found _ (by omega) inside
    · rw [length_slice inside]
      omega
    · exact slice_cons read (by omega)

/-- Whatever the marker, its arm ends without a panic. -/
theorem markerArm_found : ArmFound bytes offset (markerArm bytes (offset + 1) byte) := by
  have here := offset_lt read
  have small := byte.toNat_lt
  have is : ∀ other : UInt8, byte.toNat = other.toNat → byte = other := fun _ same => UInt8.toNat_inj.1 same
  have head : slice bytes offset (offset + 1) = [byte] := by
    rw [slice_cons read (by omega), slice_self]
  have uint : ∀ width ≤ 8, (byte, width) ∈ uintWidths → ArmFound bytes offset (numberArm bytes (offset + 1) width u64Of) := by
    intro width narrow known
    apply number_found read short width u64Of narrow
    rintro field rfl
    rw [data_u64Of (beNat_lt_of_length narrow)]
    exact Scalar.uint byte field known
  have int : ∀ width, 0 < width → width ≤ 8 → (byte, width) ∈ intWidths →
      ArmFound bytes offset (numberArm bytes (offset + 1) width (i64Of width)) := by
    intro width positive narrow known
    apply number_found read short width (i64Of width) narrow
    rintro field rfl
    rw [data_i64Of positive narrow]
    exact Scalar.int byte field known
  have bin : ∀ width ≤ 4, (byte, width) ∈ binWidths →
      ArmFound bytes offset (prefixedArm bytes (offset + 1) width parseLxmfMsgpackBytes) := by
    intro width narrow known
    apply prefixed_found read short parseBytes_reads width narrow
    rintro field payload x rfl sized rfl
    exact Scalar.bin byte field payload known sized
  have str : ∀ width ≤ 4, (byte, width) ∈ strWidths →
      ArmFound bytes offset (prefixedArm bytes (offset + 1) width parseLxmfMsgpackString) := by
    intro width narrow known
    apply prefixed_found read short parseString_reads width narrow
    rintro field payload x rfl sized ⟨text, rfl, rfl⟩
    exact Scalar.str byte field text known sized
  have array : ∀ width ≤ 4, (byte, width, 1) ∈ sequenceWidths →
      ArmFound bytes offset (sequenceArm bytes (offset + 1) width .array) := by
    intro width narrow known
    apply sequence_found read short width .array narrow
    rintro first later inside field rfl whole
    exact .array first _ later inside (whole ▸ ArrayHeader.long byte field known)
  have map : ∀ width ≤ 4, (byte, width, 2) ∈ sequenceWidths →
      ArmFound bytes offset (sequenceArm bytes (offset + 1) width .map) := by
    intro width narrow known
    apply sequence_found read short width .map narrow
    rintro first later inside field rfl whole
    exact .map first _ later inside (whole ▸ MapHeader.long byte field known)
  unfold markerArm
  apply ArmFound.ite
  · intro low
    apply single_found read
    rw [data_u64Of (by omega)]
    exact Scalar.fixint byte (by omega)
  intro _
  apply ArmFound.ite
  · intro _
    rw [low_nibble]
    refine .map _ _ (by omega) (by omega) ?_
    rw [head, show byte.toNat % 16 = byte.toNat - 0x80 by omega]
    exact MapHeader.short byte (by omega) (by omega)
  intro _
  apply ArmFound.ite
  · intro _
    rw [low_nibble]
    refine .array _ _ (by omega) (by omega) ?_
    rw [head, show byte.toNat % 16 = byte.toNat - 0x90 by omega]
    exact ArrayHeader.short byte (by omega) (by omega)
  intro _
  apply ArmFound.ite
  · intro _
    rw [low_five]
    apply payload_found parseString_reads _ _ (by omega)
    rintro payload x sized ⟨text, rfl, rfl⟩
    rw [head]
    exact Scalar.fixstr byte text (by omega) (by omega) (by omega)
  intro _
  apply ArmFound.ite fun same => single_found read (by rw [is 0xc0 same]; exact Scalar.nil)
  intro _
  apply ArmFound.ite fun same => single_found read (by rw [is 0xc2 same]; exact Scalar.false)
  intro _
  apply ArmFound.ite fun same => single_found read (by rw [is 0xc3 same]; exact Scalar.true)
  intro _
  apply ArmFound.ite fun same => bin 1 (by omega) (by rw [is 0xc4 same]; decide)
  intro _
  apply ArmFound.ite fun same => bin 2 (by omega) (by rw [is 0xc5 same]; decide)
  intro _
  apply ArmFound.ite fun same => bin 4 (by omega) (by rw [is 0xc6 same]; decide)
  intro _
  apply ArmFound.ite fun same => number_found read short 4 f32Of (by omega) fun field sized => is 0xca same ▸ Scalar.float32 field sized
  intro _
  apply ArmFound.ite fun same => number_found read short 8 f64Of (by omega) fun field sized => is 0xcb same ▸ Scalar.float64 field sized
  intro _
  apply ArmFound.ite fun same => uint 1 (by omega) (by rw [is 0xcc same]; decide)
  intro _
  apply ArmFound.ite fun same => uint 2 (by omega) (by rw [is 0xcd same]; decide)
  intro _
  apply ArmFound.ite fun same => uint 4 (by omega) (by rw [is 0xce same]; decide)
  intro _
  apply ArmFound.ite fun same => uint 8 (by omega) (by rw [is 0xcf same]; decide)
  intro _
  apply ArmFound.ite fun same => int 1 (by omega) (by omega) (by rw [is 0xd0 same]; decide)
  intro _
  apply ArmFound.ite fun same => int 2 (by omega) (by omega) (by rw [is 0xd1 same]; decide)
  intro _
  apply ArmFound.ite fun same => int 4 (by omega) (by omega) (by rw [is 0xd2 same]; decide)
  intro _
  apply ArmFound.ite fun same => int 8 (by omega) (by omega) (by rw [is 0xd3 same]; decide)
  intro _
  apply ArmFound.ite fun same => str 1 (by omega) (by rw [is 0xd9 same]; decide)
  intro _
  apply ArmFound.ite fun same => str 2 (by omega) (by rw [is 0xda same]; decide)
  intro _
  apply ArmFound.ite fun same => str 4 (by omega) (by rw [is 0xdb same]; decide)
  intro _
  apply ArmFound.ite fun same => array 2 (by omega) (by rw [is 0xdc same]; decide)
  intro _
  apply ArmFound.ite fun same => array 4 (by omega) (by rw [is 0xdd same]; decide)
  intro _
  apply ArmFound.ite fun same => map 2 (by omega) (by rw [is 0xde same]; decide)
  intro _
  apply ArmFound.ite fun same => map 4 (by omega) (by rw [is 0xdf same]; decide)
  intro _
  apply ArmFound.ite
  · intro large
    apply single_found read
    rw [data_i64Of (by omega) (by omega)]
    have held := Scalar.negative byte large
    simpa [signed, beNat] using held
  · exact fun _ => .none

end Found

theorem msgpackArm_eq (read : bytes[offset]? = some byte) (short : bytes.length < 2 ^ 63) :
    msgpackArm bytes offset = markerArm bytes (offset + 1) byte := by
  have here := offset_lt read
  unfold msgpackArm
  rw [byteAt_ok.2 read, usizeAdd_ok (by omega)]
  rfl

theorem msgpackArm_found (short : bytes.length < 2 ^ 63) (offset : Nat) : ArmFound bytes offset (msgpackArm bytes offset) := by
  obtain absent | ⟨byte, found⟩ := byteAt_cases bytes offset
  · unfold msgpackArm
    rw [absent]
    exact .none
  · have read := byteAt_ok.1 found
    rw [msgpackArm_eq read short]
    exact markerArm_found read short

/-! ## Every form is read -/

/-- A table of markers tells the arm, and the width of its field. -/
theorem markerArm_uint (known : (byte, width) ∈ uintWidths) :
    markerArm bytes next byte = numberArm bytes next width u64Of ∧ width ≤ 8 := by
  simp only [uintWidths, List.mem_cons, Prod.mk.injEq, List.not_mem_nil, or_false] at known
  obtain ⟨rfl, rfl⟩ | ⟨rfl, rfl⟩ | ⟨rfl, rfl⟩ | ⟨rfl, rfl⟩ := known
  all_goals exact ⟨rfl, by omega⟩

theorem markerArm_int (known : (byte, width) ∈ intWidths) :
    markerArm bytes next byte = numberArm bytes next width (i64Of width) ∧ 0 < width ∧ width ≤ 8 := by
  simp only [intWidths, List.mem_cons, Prod.mk.injEq, List.not_mem_nil, or_false] at known
  obtain ⟨rfl, rfl⟩ | ⟨rfl, rfl⟩ | ⟨rfl, rfl⟩ | ⟨rfl, rfl⟩ := known
  all_goals exact ⟨rfl, by omega, by omega⟩

theorem markerArm_bin (known : (byte, width) ∈ binWidths) :
    markerArm bytes next byte = prefixedArm bytes next width parseLxmfMsgpackBytes := by
  simp only [binWidths, List.mem_cons, Prod.mk.injEq, List.not_mem_nil, or_false] at known
  obtain ⟨rfl, rfl⟩ | ⟨rfl, rfl⟩ | ⟨rfl, rfl⟩ := known
  all_goals rfl

theorem markerArm_str (known : (byte, width) ∈ strWidths) :
    markerArm bytes next byte = prefixedArm bytes next width parseLxmfMsgpackString := by
  simp only [strWidths, List.mem_cons, Prod.mk.injEq, List.not_mem_nil, or_false] at known
  obtain ⟨rfl, rfl⟩ | ⟨rfl, rfl⟩ | ⟨rfl, rfl⟩ := known
  all_goals rfl

theorem markerArm_array (known : (byte, width, 1) ∈ sequenceWidths) :
    markerArm bytes next byte = sequenceArm bytes next width .array := by
  simp [sequenceWidths] at known
  obtain ⟨rfl, rfl⟩ | ⟨rfl, rfl⟩ := known
  all_goals rfl

theorem markerArm_map (known : (byte, width, 2) ∈ sequenceWidths) :
    markerArm bytes next byte = sequenceArm bytes next width .map := by
  simp [sequenceWidths] at known
  obtain ⟨rfl, rfl⟩ | ⟨rfl, rfl⟩ := known
  all_goals rfl

section Stands

variable {field payload header : List UInt8} {x : Data} {count : Nat} (short : bytes.length < 2 ^ 63)

include short

theorem numberArm_stands (stands : Stands bytes next field) (build : Nat → LxmfMsgpackValue) :
    numberArm bytes next field.length build = .ok (.value (build (beNat field)) (next + field.length)) := by
  have inside := stands.inside
  unfold numberArm
  rw [readBeAt_stands stands short, usizeAdd_ok (by omega)]
  rfl

theorem prefixedArm_stands (stands : Stands bytes next field)
    (parse : List UInt8 → Nat → Nat → Except Halt MsgpackArm) :
    prefixedArm bytes next field.length parse = parse bytes (next + field.length) (beNat field) := by
  have inside := stands.inside
  unfold prefixedArm
  rw [readBeAt_stands stands short, usizeAdd_ok (by omega)]
  rfl

theorem sequenceArm_stands (stands : Stands bytes next field) (call : Nat → Nat → MsgpackArm) :
    sequenceArm bytes next field.length call = .ok (call (next + field.length) (beNat field)) := by
  have inside := stands.inside
  unfold sequenceArm
  rw [readBeAt_stands stands short, usizeAdd_ok (by omega)]
  rfl

theorem checkedSliceEnd_stands (stands : Stands bytes start payload) :
    checkedSliceEnd bytes start payload.length = .ok (start + payload.length) := by
  have inside := stands.inside
  exact if_pos ⟨by omega, inside⟩

theorem parseBytes_stands (stands : Stands bytes start payload) : parseLxmfMsgpackBytes bytes start payload.length =
    .ok (.value (.bytes payload) (start + payload.length)) := by
  unfold parseLxmfMsgpackBytes
  rw [checkedSliceEnd_stands short stands]
  simp [bind, Except.bind, pure, Except.pure, stands.slice_eq]

theorem parseString_stands {text : String} (stands : Stands bytes start (utf8 text)) :
    parseLxmfMsgpackString bytes start (utf8 text).length = .ok (.value (.string text) (start + (utf8 text).length)) := by
  unfold parseLxmfMsgpackString
  rw [checkedSliceEnd_stands short stands]
  simp only [bind, Except.bind, stands.slice_eq]
  rw [textOfBytes_eq_some.2 rfl]
  rfl

/-- A number that stands behind its marker is read. -/
theorem number_arm {build : Nat → LxmfMsgpackValue} (stands : Stands bytes offset (byte :: field))
    (arm : markerArm bytes (offset + 1) byte = numberArm bytes (offset + 1) field.length build) :
    msgpackArm bytes offset = .ok (.value (build (beNat field)) (offset + (byte :: field).length)) := by
  rw [msgpackArm_eq stands.marker short, arm, numberArm_stands short stands.behind, List.length_cons, Nat.add_assoc,
    Nat.add_comm 1]

/-- A payload that stands behind its length field is read as a payload. -/
theorem prefixed_arm {parse : List UInt8 → Nat → Nat → Except Halt MsgpackArm} {value : LxmfMsgpackValue}
    (stands : Stands bytes offset (byte :: (field ++ payload))) (sized : payload.length = beNat field)
    (arm : markerArm bytes (offset + 1) byte = prefixedArm bytes (offset + 1) field.length parse)
    (parses : ∀ start, Stands bytes start payload → parse bytes start payload.length = .ok (.value value (start + payload.length))) :
    msgpackArm bytes offset = .ok (.value value (offset + (byte :: (field ++ payload)).length)) := by
  have behind := stands.behind
  rw [msgpackArm_eq stands.marker short, arm, prefixedArm_stands short behind.front, ← sized, parses _ behind.back,
    List.length_cons, List.length_append]
  congr 2
  omega

/-- A scalar that stands at an offset is read there. -/
theorem scalar_arm (h : Scalar payload x) (stands : Stands bytes offset payload) :
    ∃ value, msgpackArm bytes offset = .ok (.value value (offset + payload.length)) ∧ value.data = x := by
  cases h with
  | fixint marker small =>
    refine ⟨u64Of marker.toNat, ?_, data_u64Of (by omega)⟩
    rw [msgpackArm_eq stands.marker short]
    exact if_pos (by omega)
  | negative marker large =>
    refine ⟨i64Of 1 marker.toNat, ?_, ?_⟩
    · rw [msgpackArm_eq stands.marker short]
      unfold markerArm
      simp (disch := omega) only [if_neg, if_pos]
      rfl
    · rw [data_i64Of (by omega) (by omega)]
      simp [signed, beNat]
  | nil => exact ⟨_, msgpackArm_eq stands.marker short, by simp [LxmfMsgpackValue.data]⟩
  | false => exact ⟨_, msgpackArm_eq stands.marker short, by simp [LxmfMsgpackValue.data]⟩
  | true => exact ⟨_, msgpackArm_eq stands.marker short, by simp [LxmfMsgpackValue.data]⟩
  | uint marker field known =>
    obtain ⟨arm, narrow⟩ := markerArm_uint known
    exact ⟨_, number_arm short stands arm, data_u64Of (beNat_lt_of_length narrow)⟩
  | int marker field known =>
    obtain ⟨arm, positive, narrow⟩ := markerArm_int known
    exact ⟨_, number_arm short stands arm, data_i64Of positive narrow⟩
  | float32 field four =>
    refine ⟨f32Of (beNat field), number_arm short stands ?_, by simp [f32Of, LxmfMsgpackValue.data]⟩
    rw [four]
    rfl
  | float64 field eight =>
    refine ⟨f64Of (beNat field), number_arm short stands ?_, by simp [f64Of, LxmfMsgpackValue.data]⟩
    rw [eight]
    rfl
  | bin marker field payload known sized =>
    have parsed := prefixed_arm short stands sized (markerArm_bin known) fun start => parseBytes_stands short
    exact ⟨.bytes payload, parsed, by simp [LxmfMsgpackValue.data]⟩
  | fixstr marker text low high sized =>
    have parsed := parseString_stands short stands.behind
    refine ⟨.string text, ?_, by simp [LxmfMsgpackValue.data]⟩
    rw [msgpackArm_eq stands.marker short]
    unfold markerArm
    simp (disch := omega) only [if_neg, if_pos]
    rw [low_five, show marker.toNat % 32 = (utf8 text).length by omega, parsed, List.length_cons, Nat.add_assoc, Nat.add_comm 1]
  | str marker field text known sized =>
    have parsed := prefixed_arm short stands sized (markerArm_str known) fun start => parseString_stands short
    exact ⟨.string text, parsed, by simp [LxmfMsgpackValue.data]⟩

/-- The header of an array that stands at an offset is read there. -/
theorem arrayHeader_arm (h : ArrayHeader count header) (stands : Stands bytes offset header) :
    msgpackArm bytes offset = .ok (.array (offset + header.length) count) := by
  rw [← List.append_nil header] at stands
  cases h with
  | short marker low high =>
    rw [msgpackArm_eq stands.marker short]
    unfold markerArm
    simp (disch := omega) only [if_neg, if_pos]
    rw [low_nibble, show marker.toNat % 16 = marker.toNat - 0x90 by omega]
    rfl
  | long marker field known =>
    rw [msgpackArm_eq stands.marker short, markerArm_array known, sequenceArm_stands short stands.behind.front, List.length_cons,
      Nat.add_assoc, Nat.add_comm 1]

theorem mapHeader_arm (h : MapHeader count header) (stands : Stands bytes offset header) :
    msgpackArm bytes offset = .ok (.map (offset + header.length) count) := by
  rw [← List.append_nil header] at stands
  cases h with
  | short marker low high =>
    rw [msgpackArm_eq stands.marker short]
    unfold markerArm
    simp (disch := omega) only [if_neg, if_pos]
    rw [low_nibble, show marker.toNat % 16 = marker.toNat - 0x80 by omega]
    rfl
  | long marker field known =>
    rw [msgpackArm_eq stands.marker short, markerArm_map known, sequenceArm_stands short stands.behind.front, List.length_cons,
      Nat.add_assoc, Nat.add_comm 1]

end Stands

/-! ## The parser as a whole -/

/-- Reading from `start` ended without a panic: in `None`, or with what the bytes it passed,
so many at the least, stand for. -/
inductive ReadFrom {α : Type} (bytes : List UInt8) (start least : Nat) (whole : List UInt8 → α → Prop) :
    Except Halt (α × Nat) → Prop
  | none : ReadFrom bytes start least whole (.error .none)
  | found (a : α) (stop : Nat) (later : start + least ≤ stop) (inside : stop ≤ bytes.length)
    (held : whole (slice bytes start stop) a) : ReadFrom bytes start least whole (.ok (a, stop))

theorem ReadFrom.bind {α β : Type} {start' least least' : Nat} {first : List UInt8 → α → Prop} {whole : List UInt8 → β → Prop}
    {result : Except Halt (α × Nat)} {rest : α × Nat → Except Halt (β × Nat)} (h : ReadFrom bytes start least first result)
    (hrest : ∀ a middle, start + least ≤ middle → middle ≤ bytes.length → first (slice bytes start middle) a →
      ReadFrom bytes start' least' whole (rest (a, middle))) : ReadFrom bytes start' least' whole (result >>= rest) := by
  cases h with
  | none => exact .none
  | found a middle later inside held => exact hrest a middle later inside held

/-- The value of an encoding. -/
def CodesValue (encoding : List UInt8) (value : LxmfMsgpackValue) : Prop := Codes encoding value.data

section Reads

variable {parseValue : Nat → Except Halt (LxmfMsgpackValue × Nat)}
  (parses : ∀ offset, ReadFrom bytes offset 1 CodesValue (parseValue offset))

include parses

theorem items_read : ∀ count start, start ≤ bytes.length →
    ReadFrom bytes start count (fun body items => items.length = count ∧ CodesAll body (LxmfMsgpackValue.dataAll items))
      (lxmfMsgpackItems parseValue count start) := by
  intro count
  induction count with
  | zero =>
    intro start within
    refine .found [] start (by omega) within ⟨rfl, ?_⟩
    rw [slice_self, LxmfMsgpackValue.dataAll]
    exact CodesAll.done
  | succ count ih =>
    intro start within
    apply (parses start).bind
    intro value middle later inside first
    apply (ih middle inside).bind
    intro items stop later' inside' others
    refine .found (value :: items) stop (by omega) inside' ⟨by simp [others.1], ?_⟩
    have front : start ≤ middle := by omega
    have back : middle ≤ stop := by omega
    rw [LxmfMsgpackValue.dataAll, ← slice_append front back]
    exact CodesAll.next _ _ _ _ first others.2

theorem entries_read : ∀ count start, start ≤ bytes.length →
    ReadFrom bytes start (2 * count)
      (fun body items => items.length = count ∧ CodesAll body (Data.flat (LxmfMsgpackValue.dataEntries items)))
      (lxmfMsgpackEntries parseValue count start) := by
  intro count
  induction count with
  | zero =>
    intro start within
    refine .found [] start (by omega) within ⟨rfl, ?_⟩
    rw [slice_self, LxmfMsgpackValue.dataEntries]
    exact CodesAll.done
  | succ count ih =>
    intro start within
    apply (parses start).bind
    intro key middle later inside first
    apply (parses middle).bind
    intro value middle' later' inside' second
    apply (ih middle' inside').bind
    intro items stop later'' inside'' others
    refine .found ((key, value) :: items) stop (by omega) inside'' ⟨by simp [others.1], ?_⟩
    have front : start ≤ middle := by omega
    have back : middle ≤ stop := by omega
    have back' : middle' ≤ stop := by omega
    rw [LxmfMsgpackValue.dataEntries, ← slice_append front back, ← slice_append (by omega : middle ≤ middle') back']
    exact CodesAll.next _ _ _ _ first (CodesAll.next _ _ _ _ second others.2)

end Reads

theorem length_dataAll (items : List LxmfMsgpackValue) : (LxmfMsgpackValue.dataAll items).length = items.length := by
  induction items with
  | nil => rfl
  | cons value items ih => simp [LxmfMsgpackValue.dataAll, ih]

theorem length_dataEntries (items : List (LxmfMsgpackValue × LxmfMsgpackValue)) :
    (LxmfMsgpackValue.dataEntries items).length = items.length := by
  induction items with
  | nil => rfl
  | cons entry items ih => simp [LxmfMsgpackValue.dataEntries, ih]

/-- Whatever the bytes, the parser ends without a panic, and what it read is an encoding of
what it returns. -/
theorem parseWithin_read (short : bytes.length < 2 ^ 63) : ∀ depth offset,
    ReadFrom bytes offset 1 CodesValue (parseLxmfMsgpackValueWithin bytes depth offset) := by
  intro depth
  induction depth with
  | zero => exact fun _ => .none
  | succ depth ih =>
    intro offset
    rw [parseLxmfMsgpackValueWithin, parseLxmfMsgpackValueOver]
    have found := msgpackArm_found short offset
    revert found
    generalize msgpackArm bytes offset = arm
    intro found
    cases found with
    | none => exact .none
    | value value stop later inside whole => exact .found value stop later inside (Codes.scalar _ _ whole)
    | array first len later inside headed =>
      apply (items_read ih len first inside).bind
      rintro items stop later' inside' ⟨rfl, elements⟩
      refine .found (LxmfMsgpackValue.array items) stop (by omega) inside' ?_
      have front : offset ≤ first := by omega
      have back : first ≤ stop := by omega
      rw [CodesValue, LxmfMsgpackValue.data, ← slice_append front back]
      exact Codes.array _ _ _ (by rw [length_dataAll]; exact headed) elements
    | map first len later inside headed =>
      apply (entries_read ih len first inside).bind
      rintro items stop later' inside' ⟨rfl, elements⟩
      refine .found (LxmfMsgpackValue.map items) stop (by omega) inside' ?_
      have front : offset ≤ first := by omega
      have back : first ≤ stop := by omega
      rw [CodesValue, LxmfMsgpackValue.data, ← slice_append front back]
      exact Codes.map _ _ _ (by rw [length_dataEntries]; exact headed) elements

theorem parse_read (short : bytes.length < 2 ^ 63) (offset : Nat) :
    ReadFrom bytes offset 1 CodesValue (parseLxmfMsgpackValue bytes offset) := parseWithin_read short (bytes.length + 1) offset

/-- The values are read from `start` on, one behind the other, up to `stop`. -/
def ParsesAll (parseValue : Nat → Except Halt (LxmfMsgpackValue × Nat)) (start : Nat) : List Data → Nat → Prop
  | [], stop => stop = start
  | x :: values, stop =>
    ∃ value middle, parseValue start = .ok (value, middle) ∧ value.data = x ∧ ParsesAll parseValue middle values stop

section Loops

variable {parseValue : Nat → Except Halt (LxmfMsgpackValue × Nat)}

theorem ParsesAll.items {values : List Data} {stop : Nat} (h : ParsesAll parseValue start values stop) :
    ∃ items, lxmfMsgpackItems parseValue values.length start = .ok (items, stop) ∧ LxmfMsgpackValue.dataAll items = values := by
  induction values generalizing start with
  | nil =>
    obtain rfl := h
    exact ⟨[], rfl, rfl⟩
  | cons x values ih =>
    obtain ⟨value, middle, parsed, rfl, rest⟩ := h
    obtain ⟨items, loop, rfl⟩ := ih rest
    refine ⟨value :: items, ?_, by rw [LxmfMsgpackValue.dataAll]⟩
    simp [lxmfMsgpackItems, parsed, loop, bind, Except.bind, pure, Except.pure]

theorem ParsesAll.entries {entries : List (Data × Data)} {stop : Nat} (h : ParsesAll parseValue start (Data.flat entries) stop) :
    ∃ items, lxmfMsgpackEntries parseValue entries.length start = .ok (items, stop) ∧
      LxmfMsgpackValue.dataEntries items = entries := by
  induction entries generalizing start with
  | nil =>
    obtain rfl := h
    exact ⟨[], rfl, rfl⟩
  | cons entry entries ih =>
    obtain ⟨key, middle, parsed, keyed, value, middle', parsed', valued, rest⟩ := h
    obtain ⟨items, loop, rfl⟩ := ih rest
    refine ⟨(key, value) :: items, ?_, by rw [LxmfMsgpackValue.dataEntries, keyed, valued]⟩
    simp [lxmfMsgpackEntries, parsed, parsed', loop, bind, Except.bind, pure, Except.pure]

end Loops

mutual

/-- An encoding that stands at an offset is read there. -/
theorem codes_parsed (short : bytes.length < 2 ^ 63) {encoding : List UInt8} {x : Data} (h : Codes encoding x)
    (depth offset : Nat) (deep : encoding.length ≤ depth) (stands : Stands bytes offset encoding) :
    ∃ value, parseLxmfMsgpackValueWithin bytes depth offset = .ok (value, offset + encoding.length) ∧ value.data = x := by
  obtain ⟨depth, rfl⟩ := Nat.exists_eq_succ_of_ne_zero (by have := h.nonempty; omega : depth ≠ 0)
  rw [parseLxmfMsgpackValueWithin, parseLxmfMsgpackValueOver]
  match h with
  | .scalar _ _ scalar =>
    obtain ⟨value, arm, held⟩ := scalar_arm short scalar stands
    exact ⟨value, by rw [arm]; rfl, held⟩
  | .array header body items headed elements =>
    have some_ := headed.nonempty
    rw [List.length_append] at deep
    have behind := codesAll_parsed short elements depth _ (by omega) stands.back
    obtain ⟨read, loop, rfl⟩ := behind.items
    refine ⟨.array read, ?_, by rw [LxmfMsgpackValue.data]⟩
    rw [arrayHeader_arm short headed stands.front]
    simp only [bind, Except.bind, parseLxmfMsgpackArray, loop, List.length_append, Nat.add_assoc, pure, Except.pure]
  | .map header body entries headed elements =>
    have some_ := headed.nonempty
    rw [List.length_append] at deep
    have behind := codesAll_parsed short elements depth _ (by omega) stands.back
    obtain ⟨read, loop, rfl⟩ := behind.entries
    refine ⟨.map read, ?_, by rw [LxmfMsgpackValue.data]⟩
    rw [mapHeader_arm short headed stands.front]
    simp only [bind, Except.bind, parseLxmfMsgpackMap, loop, List.length_append, Nat.add_assoc, pure, Except.pure]

theorem codesAll_parsed (short : bytes.length < 2 ^ 63) {body : List UInt8} {values : List Data} (h : CodesAll body values)
    (depth start : Nat) (deep : body.length ≤ depth) (stands : Stands bytes start body) :
    ParsesAll (parseLxmfMsgpackValueWithin bytes depth) start values (start + body.length) := by
  match h with
  | .done => rfl
  | .next item rest value values first others =>
    rw [List.length_append] at deep
    obtain ⟨read, parsed, held⟩ := codes_parsed short first depth start (by omega) stands.front
    have behind := codesAll_parsed short others depth _ (by omega) stands.back
    rw [List.length_append, ← Nat.add_assoc]
    exact ⟨read, _, parsed, held, behind⟩

end

/-! ## The scan of announces -/

section Ended

variable {field payload header : List UInt8} {x : Data} {count : Nat} {itemEnd : Nat → Except Halt Nat}
  (short : bytes.length < 2 ^ 63)

include short

theorem lenPrefixedEnd_stands (stands : Stands bytes offset (byte :: (field ++ payload)))
    (known : field.length = 1 ∨ field.length = 2 ∨ field.length = 4) (sized : payload.length = beNat field) :
    msgpackLenPrefixedEnd bytes offset field.length = .ok (offset + (byte :: (field ++ payload)).length) := by
  have behind := stands.behind
  have inside := stands.inside
  simp only [List.length_cons, List.length_append] at inside
  have read : lengthField bytes (offset + 1) field.length = .ok (beNat field) := by
    obtain one | two | four := known
    · obtain ⟨byte, rfl⟩ := List.length_eq_one_iff.1 one
      simp [lengthField, byteAt_ok.2 behind.front.marker, bind, Except.bind, pure, Except.pure, beNat]
    · rw [← readBe_stands behind.front short, two]
      rfl
    · rw [← readBe_stands behind.front short, four]
      rfl
  unfold msgpackLenPrefixedEnd
  rw [usizeAdd_ok (by omega)]
  simp only [bind, Except.bind]
  rw [usizeAdd_ok (by omega)]
  simp only [read, ← sized]
  rw [checkedSliceEnd_stands short behind.back]
  simp only [List.length_cons, List.length_append]
  congr 1
  omega

/-- The scan passes a scalar. -/
theorem scalar_end (h : Scalar payload x) (stands : Stands bytes offset payload) :
    msgpackItemEndOver bytes itemEnd offset = .ok (offset + payload.length) := by
  have inside := stands.inside
  have number : ∀ {marker : UInt8} {field : List UInt8}, payload = marker :: field → (marker, field.length) ∈ numberWidths →
      msgpackItemEndOver bytes itemEnd offset = .ok (offset + payload.length) := by
    rintro marker field rfl known
    rw [itemEndOver_number stands.marker short known, List.length_cons, Nat.add_assoc, Nat.add_comm 1]
  cases h with
  | fixint marker small =>
    unfold msgpackItemEndOver
    rw [byteAt_ok.2 stands.marker]
    simp (disch := omega) only [bind, Except.bind, if_pos]
    exact usizeAdd_ok (by simp only [List.length_cons] at inside; omega)
  | negative marker large =>
    unfold msgpackItemEndOver
    rw [byteAt_ok.2 stands.marker]
    simp (disch := omega) only [bind, Except.bind, if_pos]
    exact usizeAdd_ok (by simp only [List.length_cons] at inside; omega)
  | nil | false | true =>
    unfold msgpackItemEndOver
    rw [byteAt_ok.2 stands.marker]
    exact usizeAdd_ok (by simp only [List.length_cons] at inside; omega)
  | uint marker field known =>
    have also : ∀ entry ∈ uintWidths, entry ∈ numberWidths := by decide
    exact number rfl (also _ known)
  | int marker field known =>
    have also : ∀ entry ∈ intWidths, entry ∈ numberWidths := by decide
    exact number rfl (also _ known)
  | float32 field four => exact number rfl (by rw [four]; decide)
  | float64 field eight => exact number rfl (by rw [eight]; decide)
  | bin marker field payload known sized =>
    unfold msgpackItemEndOver
    rw [byteAt_ok.2 stands.marker]
    simp only [binWidths, List.mem_cons, Prod.mk.injEq, List.not_mem_nil, or_false] at known
    obtain ⟨rfl, width⟩ | ⟨rfl, width⟩ | ⟨rfl, width⟩ := known
    all_goals rw [← lenPrefixedEnd_stands short stands (by omega) sized, width]; rfl
  | fixstr marker text low high sized =>
    unfold msgpackItemEndOver
    rw [byteAt_ok.2 stands.marker]
    simp (disch := omega) only [bind, Except.bind, if_pos, if_neg]
    simp only [List.length_cons] at inside
    rw [usizeAdd_ok (by omega), low_five, show marker.toNat % 32 = (utf8 text).length by omega]
    simp only [checkedSliceEnd_stands short stands.behind, List.length_cons, Nat.add_assoc, Nat.add_comm 1]
  | str marker field text known sized =>
    unfold msgpackItemEndOver
    rw [byteAt_ok.2 stands.marker]
    simp only [strWidths, List.mem_cons, Prod.mk.injEq, List.not_mem_nil, or_false] at known
    obtain ⟨rfl, width⟩ | ⟨rfl, width⟩ | ⟨rfl, width⟩ := known
    all_goals rw [← lenPrefixedEnd_stands short stands (by omega) sized, width]; rfl

/-- Behind a header with a length field the scan goes on to the elements. -/
theorem longHeader_end (itemEnd : Nat → Except Halt Nat) (scaled : Nat → Except Halt Nat) (values : Nat)
    (stands : Stands bytes offset (byte :: field)) (hscaled : scaled (beNat field) = .ok (beNat field * values)) :
    (do
      let count ← scaled (← readBe field.length bytes (← usizeAdd offset 1))
      msgpackSequenceEnd itemEnd count (← usizeAdd offset (1 + field.length))) =
      msgpackSequenceEnd itemEnd (beNat field * values) (offset + (byte :: field).length) := by
  have inside := stands.inside
  rw [List.length_cons] at inside
  rw [usizeAdd_ok (by omega)]
  simp only [bind, Except.bind, readBe_stands stands.behind short, hscaled]
  rw [usizeAdd_ok (by omega), List.length_cons, Nat.add_comm 1]

/-- At the header of an array the scan goes on to its elements. -/
theorem arrayHeader_end (h : ArrayHeader count header) (stands : Stands bytes offset header) :
    msgpackItemEndOver bytes itemEnd offset = msgpackSequenceEnd itemEnd count (offset + header.length) := by
  have inside := stands.inside
  unfold msgpackItemEndOver
  cases h with
  | short marker low high =>
    rw [byteAt_ok.2 stands.marker]
    simp (disch := omega) only [bind, Except.bind, if_pos, if_neg]
    simp only [List.length_cons] at inside
    rw [usizeAdd_ok (by omega), low_nibble, show marker.toNat % 16 = marker.toNat - 0x90 by omega]
    rfl
  | long marker field known =>
    have same := longHeader_end short itemEnd .ok 1 stands (by rw [Nat.mul_one])
    rw [byteAt_ok.2 stands.marker, ← Nat.mul_one (beNat field), ← same]
    simp [sequenceWidths] at known
    obtain ⟨rfl, width⟩ | ⟨rfl, width⟩ := known
    all_goals rw [width]; rfl

theorem mapHeader_end (h : MapHeader count header) (stands : Stands bytes offset header) :
    msgpackItemEndOver bytes itemEnd offset = msgpackSequenceEnd itemEnd (count * 2) (offset + header.length) := by
  have inside := stands.inside
  unfold msgpackItemEndOver
  cases h with
  | short marker low high =>
    rw [byteAt_ok.2 stands.marker]
    simp (disch := omega) only [bind, Except.bind, if_pos, if_neg]
    simp only [List.length_cons] at inside
    rw [low_nibble, usizeMul_ok (by omega), usizeAdd_ok (by omega), show marker.toNat % 16 = marker.toNat - 0x80 by omega]
    rfl
  | long marker field known =>
    have small := beNat_lt field
    simp [sequenceWidths] at known
    have same := longHeader_end short itemEnd (fun count => usizeMul count 2) 2 stands
      (usizeMul_ok (by obtain ⟨-, width⟩ | ⟨-, width⟩ := known <;> rw [width] at small <;> omega))
    rw [byteAt_ok.2 stands.marker, ← same]
    obtain ⟨rfl, width⟩ | ⟨rfl, width⟩ := known
    all_goals rw [width]; rfl

end Ended

mutual

/-- The scan passes an encoding that stands at an offset. -/
theorem codes_ended (short : bytes.length < 2 ^ 63) {encoding : List UInt8} {x : Data} (h : Codes encoding x)
    (depth offset : Nat) (deep : encoding.length ≤ depth) (stands : Stands bytes offset encoding) :
    msgpackItemEndWithin bytes depth offset = .ok (offset + encoding.length) := by
  obtain ⟨depth, rfl⟩ := Nat.exists_eq_succ_of_ne_zero (by have := h.nonempty; omega : depth ≠ 0)
  rw [msgpackItemEndWithin]
  match h with
  | .scalar _ _ scalar => exact scalar_end short scalar stands
  | .array header body items headed elements =>
    have some_ := headed.nonempty
    rw [List.length_append] at deep ⊢
    rw [arrayHeader_end short headed stands.front, codesAll_ended short elements depth _ (by omega) stands.back, Nat.add_assoc]
  | .map header body entries headed elements =>
    have some_ := headed.nonempty
    have twice : (Data.flat entries).length = entries.length * 2 := by simp [Data.flat]
    rw [List.length_append] at deep ⊢
    rw [mapHeader_end short headed stands.front, ← twice, codesAll_ended short elements depth _ (by omega) stands.back,
      Nat.add_assoc]

theorem codesAll_ended (short : bytes.length < 2 ^ 63) {body : List UInt8} {values : List Data} (h : CodesAll body values)
    (depth start : Nat) (deep : body.length ≤ depth) (stands : Stands bytes start body) :
    msgpackSequenceEnd (msgpackItemEndWithin bytes depth) values.length start = .ok (start + body.length) := by
  match h with
  | .done => rfl
  | .next item rest value values first others =>
    rw [List.length_append] at deep
    rw [List.length_cons, msgpackSequenceEnd, codes_ended short first depth start (by omega) stands.front, List.length_append,
      ← Nat.add_assoc]
    exact codesAll_ended short others depth _ (by omega) stands.back

end

/-! ## The depth of nesting -/

/-- A loop over `count` elements, which `step` passes one by one, comes to one at `offset`. -/
inductive LoopCalls (step : Nat → Except Halt Nat) : Nat → Nat → Nat → Prop
  | first (count start : Nat) : LoopCalls step (count + 1) start start
  | next (count start middle offset : Nat) (passed : step start = .ok middle) (others : LoopCalls step count middle offset) :
    LoopCalls step (count + 1) start offset

/-- The end of what a parser reads. -/
def valueEnd (parseValue : Nat → Except Halt (LxmfMsgpackValue × Nat)) (offset : Nat) : Except Halt Nat :=
  (parseValue offset).map Prod.snd

/-- In `parse_lxmf_msgpack_value` at `offset`, the loop of an array or a map calls the
function again at `behind`. -/
inductive ValueCalls (parseValue : Nat → Except Halt (LxmfMsgpackValue × Nat)) (bytes : List UInt8) (offset behind : Nat) : Prop
  | array (first len : Nat) (arm : msgpackArm bytes offset = .ok (.array first len))
    (loop : LoopCalls (valueEnd parseValue) len first behind)
  | map (first len : Nat) (arm : msgpackArm bytes offset = .ok (.map first len))
    (loop : LoopCalls (valueEnd parseValue) (2 * len) first behind)

section Calls

variable {parseValue parseValue' : Nat → Except Halt (LxmfMsgpackValue × Nat)}

theorem LoopCalls.later {step : Nat → Except Halt Nat} (steps : ∀ start stop, step start = .ok stop → start < stop)
    (h : LoopCalls step len start offset) : start ≤ offset := by
  induction h with
  | first => exact Nat.le_refl _
  | next count start middle offset passed _ ih => exact Nat.le_trans (Nat.le_of_lt (steps start middle passed)) ih

theorem valueEnd_later (parses : ∀ offset, ReadFrom bytes offset 1 CodesValue (parseValue offset)) (start stop : Nat)
    (passed : valueEnd parseValue start = .ok stop) : start < stop ∧ stop ≤ bytes.length := by
  have read := parses start
  unfold valueEnd at passed
  cases found : parseValue start with
  | error => simp [found, Except.map] at passed
  | ok result =>
    rw [found] at read passed
    obtain rfl := Except.ok.inj passed
    cases read with
    | found value stop later inside => exact ⟨by omega, inside⟩

theorem ValueCalls.later (short : bytes.length < 2 ^ 63) {behind : Nat}
    (parses : ∀ offset, ReadFrom bytes offset 1 CodesValue (parseValue offset)) (h : ValueCalls parseValue bytes offset behind) :
    offset < behind ∧ offset < bytes.length := by
  have found := msgpackArm_found short offset
  have steps : ∀ start stop, valueEnd parseValue start = .ok stop → start < stop :=
    fun start stop passed => (valueEnd_later parses start stop passed).1
  cases h with
  | array first len arm loop =>
    rw [arm] at found
    have after := loop.later steps
    cases found with
    | array _ _ later inside => omega
  | map first len arm loop =>
    rw [arm] at found
    have after := loop.later steps
    cases found with
    | map _ _ later inside => omega

theorem items_congr : ∀ count start, (∀ behind, LoopCalls (valueEnd parseValue) count start behind → parseValue behind = parseValue' behind) →
    lxmfMsgpackItems parseValue count start = lxmfMsgpackItems parseValue' count start := by
  intro count
  induction count with
  | zero => exact fun _ _ => rfl
  | succ count ih =>
    intro start same
    have here := same start (.first count start)
    simp only [lxmfMsgpackItems, ← here]
    cases found : parseValue start with
    | error => rfl
    | ok result =>
      have passed : valueEnd parseValue start = .ok result.2 := by simp [valueEnd, found, Except.map]
      simp only [bind, Except.bind, ih result.2 fun behind loop => same behind (.next count start result.2 behind passed loop)]

theorem entries_congr : ∀ count start,
    (∀ behind, LoopCalls (valueEnd parseValue) (2 * count) start behind → parseValue behind = parseValue' behind) →
    lxmfMsgpackEntries parseValue count start = lxmfMsgpackEntries parseValue' count start := by
  intro count
  induction count with
  | zero => exact fun _ _ => rfl
  | succ count ih =>
    intro start same
    have here := same start (.first _ start)
    simp only [lxmfMsgpackEntries, ← here]
    cases found : parseValue start with
    | error => rfl
    | ok key =>
      have passed : valueEnd parseValue start = .ok key.2 := by simp [valueEnd, found, Except.map]
      have there := same key.2 (.next _ start key.2 _ passed (.first _ key.2))
      simp only [bind, Except.bind, ← there]
      cases found' : parseValue key.2 with
      | error => rfl
      | ok value =>
        have passed' : valueEnd parseValue key.2 = .ok value.2 := by simp [valueEnd, found', Except.map]
        simp only [ih value.2 fun behind loop =>
          same behind (.next _ start key.2 behind passed (.next _ key.2 value.2 behind passed' loop))]

/-- The calls are all that the parser depends on. -/
theorem parseOver_congr (offset : Nat)
    (same : ∀ behind, ValueCalls parseValue bytes offset behind → parseValue behind = parseValue' behind) :
    parseLxmfMsgpackValueOver parseValue bytes offset = parseLxmfMsgpackValueOver parseValue' bytes offset := by
  unfold parseLxmfMsgpackValueOver
  cases arm : msgpackArm bytes offset with
  | error => rfl
  | ok arm' =>
    cases arm' with
    | value => rfl
    | array first len =>
      simp only [bind, Except.bind, parseLxmfMsgpackArray,
        items_congr len first fun behind loop => same behind (.array first len arm loop)]
    | map first len =>
      simp only [bind, Except.bind, parseLxmfMsgpackMap,
        entries_congr len first fun behind loop => same behind (.map first len arm loop)]

end Calls

/-- A depth no offset leaves bytes for makes no difference. -/
theorem parseWithin_deeper (short : bytes.length < 2 ^ 63) : ∀ depth offset, bytes.length < offset + depth →
    parseLxmfMsgpackValueWithin bytes depth offset = parseLxmfMsgpackValueWithin bytes (depth + 1) offset := by
  intro depth
  induction depth with
  | zero =>
    intro offset outside
    have absent : bytes[offset]? = none := List.getElem?_eq_none (by omega)
    simp [parseLxmfMsgpackValueWithin, parseLxmfMsgpackValueOver, msgpackArm, byteAt, absent, bind, Except.bind]
  | succ depth ih =>
    intro offset deep
    apply parseOver_congr
    intro behind called
    have later := called.later short (parseWithin_read short depth)
    exact ih behind (by omega)

/-- The recursion of `parse_lxmf_msgpack_value`. -/
theorem parseLxmfMsgpackValue_eq (short : bytes.length < 2 ^ 63) (offset : Nat) :
    parseLxmfMsgpackValue bytes offset = parseLxmfMsgpackValueOver (parseLxmfMsgpackValue bytes) bytes offset := by
  apply parseOver_congr
  intro behind called
  have later := called.later short (parseWithin_read short bytes.length)
  exact parseWithin_deeper short bytes.length behind (by omega)

/-! ## The parser is exact -/

/-- What is asked of the parser on the bytes: it reads the encodings and nothing else, with
their values, it does not panic, and the scan of announces ends where it does. -/
structure ReadsExactly (bytes : List UInt8) : Prop where
  value : ∀ offset stop x, (∃ value, parseLxmfMsgpackValue bytes offset = .ok (value, stop) ∧ value.data = x) ↔
    offset ≤ stop ∧ stop ≤ bytes.length ∧ Codes (slice bytes offset stop) x
  calm : ∀ offset, Calm (parseLxmfMsgpackValue bytes offset)
  json : (∃ json, parseLxmfMsgpackJson bytes = .ok json) ↔ ∃ x, Codes bytes x
  jsonCalm : Calm (parseLxmfMsgpackJson bytes)
  scanned : ∀ offset value stop, parseLxmfMsgpackValue bytes offset = .ok (value, stop) →
    msgpackItemEnd bytes offset = .ok stop

/-- What is read is read, and only that. -/
theorem parse_eq_ok_iff (short : bytes.length < 2 ^ 63) {stop : Nat} {x : Data} :
    (∃ value, parseLxmfMsgpackValue bytes offset = .ok (value, stop) ∧ value.data = x) ↔
      offset ≤ stop ∧ stop ≤ bytes.length ∧ Codes (slice bytes offset stop) x := by
  constructor
  · rintro ⟨value, parsed, rfl⟩
    have read := parse_read short offset
    rw [parsed] at read
    cases read with
    | found value stop later inside held => exact ⟨by omega, inside, held⟩
  · rintro ⟨ordered, inside, coded⟩
    have width : (slice bytes offset stop).length = stop - offset := length_slice inside
    obtain ⟨value, parsed, held⟩ := codes_parsed short coded (bytes.length + 1) offset (by omega) (stands_slice ordered inside)
    refine ⟨value, ?_, held⟩
    rw [parseLxmfMsgpackValue, parsed, width, Nat.add_sub_cancel' ordered]

theorem parse_calm (short : bytes.length < 2 ^ 63) (offset : Nat) : Calm (parseLxmfMsgpackValue bytes offset) := by
  have read := parse_read short offset
  revert read
  generalize parseLxmfMsgpackValue bytes offset = result
  intro read
  cases read with
  | none => exact Calm.none
  | found => exact Calm.ok _

theorem parseJson_iff (short : bytes.length < 2 ^ 63) :
    (∃ json, parseLxmfMsgpackJson bytes = .ok json) ↔ ∃ x, Codes bytes x := by
  have whole : slice bytes 0 bytes.length = bytes := by rw [slice_length, List.drop_zero]
  constructor
  · rintro ⟨json, run⟩
    obtain ⟨⟨value, stop⟩, parsed, run⟩ := bind_eq_ok.1 run
    dsimp only at run
    split at run
    · next all =>
      obtain ⟨-, -, coded⟩ := (parse_eq_ok_iff short).1 ⟨value, parsed, rfl⟩
      rw [all, whole] at coded
      exact ⟨_, coded⟩
    · cases run
  · rintro ⟨x, coded⟩
    obtain ⟨value, parsed, -⟩ := (parse_eq_ok_iff short).2 ⟨Nat.zero_le _, Nat.le_refl _, whole.symm ▸ coded⟩
    refine ⟨lxmfMsgpackValueToJson value, ?_⟩
    simp [parseLxmfMsgpackJson, parsed, bind, Except.bind, pure, Except.pure]

theorem parseJson_calm (short : bytes.length < 2 ^ 63) : Calm (parseLxmfMsgpackJson bytes) := by
  apply (parse_calm short 0).bind
  intro read _
  exact Calm.ite (Calm.ok _) Calm.none

/-- Where the parser ends, the scan of announces does. -/
theorem parse_scanned (short : bytes.length < 2 ^ 63) {value : LxmfMsgpackValue} {stop : Nat}
    (parsed : parseLxmfMsgpackValue bytes offset = .ok (value, stop)) : msgpackItemEnd bytes offset = .ok stop := by
  obtain ⟨ordered, inside, coded⟩ := (parse_eq_ok_iff short).1 ⟨value, parsed, rfl⟩
  have width : (slice bytes offset stop).length = stop - offset := length_slice inside
  rw [msgpackItemEnd, codes_ended short coded (bytes.length + 1) offset (by omega) (stands_slice ordered inside), width,
    Nat.add_sub_cancel' ordered]

/-- The transport's parser of MessagePack is exact on every byte string. -/
theorem telemetry_parser_exact (input : ByteSlice) : ReadsExactly input.bytes where
  value _ _ _ := parse_eq_ok_iff input.addressable
  calm := parse_calm input.addressable
  json := parseJson_iff input.addressable
  jsonCalm := parseJson_calm input.addressable
  scanned _ _ _ := parse_scanned input.addressable

end TelemetryHub
