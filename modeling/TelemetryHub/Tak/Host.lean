import TelemetryHub.Tak.Connector

/-!
# A host of whole numbers

The messages on the wire, and a host whose floats are whole numbers: its XML is read by the
reader of documents, its times by the one of instants.
-/

namespace TelemetryHub

open Lib

namespace TakWire

open Protobuf (WireValue present lastOf encodeFields readFields)

/-! ## Values of fields -/

/-- Eight bytes, the low one first. -/
def eightBytes (n : Nat) : List UInt8 := (List.range 8).map fun i => UInt8.ofNat (n / 256 ^ i % 256)

/-- The number in bytes, the low one first. -/
def numberOf : List UInt8 → Nat
  | [] => 0
  | byte :: bytes => byte.toNat + 256 * numberOf bytes

theorem numberOf_eightBytes {n : Nat} (fits : n < 2 ^ 64) : numberOf (eightBytes n) = n := by
  have byte : ∀ i, (UInt8.ofNat (n / 256 ^ i % 256)).toNat = n / 256 ^ i % 256 :=
    fun i => Protobuf.toNat_ofNat (Nat.mod_lt _ (by decide))
  have range : List.range 8 = [0, 1, 2, 3, 4, 5, 6, 7] := rfl
  rw [eightBytes, range]
  simp only [List.map_cons, List.map_nil, numberOf, byte]
  omega

/-- The whole numbers whose bytes are written. -/
def Fits (x : Int) : Prop := -2 ^ 63 ≤ x ∧ x < 2 ^ 63

instance (x : Int) : Decidable (Fits x) := inferInstanceAs (Decidable (_ ∧ _))

/-- A field with a text; an empty one is left out. -/
def stringField (text : String) : Option WireValue :=
  if text = "" then none else some (.bytes text.toUTF8.data.toList)

/-- A field with a number; zero is left out. -/
def numberField (n : Nat) : Option WireValue := if n = 0 then none else some (.varint n)

/-- A field with a whole number in eight bytes; zero is left out. -/
def wholeField (x : Int) : Option WireValue :=
  if x = 0 then none else some (.fixed64 (eightBytes (x % 2 ^ 64).toNat) rfl)

/-- The text of a field. -/
def readString : Option WireValue → Option String
  | none => some ""
  | some (.bytes payload) => String.fromUTF8? ⟨⟨payload⟩⟩
  | some _ => none

/-- The number of a field. -/
def readNumber : Option WireValue → Option Nat
  | none => some 0
  | some (.varint n) => some n
  | some _ => none

/-- The whole number of a field. -/
def readWhole : Option WireValue → Option Int
  | none => some 0
  | some (.fixed64 bytes _) =>
    some (if numberOf bytes < 2 ^ 63 then numberOf bytes else (numberOf bytes : Int) - 2 ^ 64)
  | some _ => none

@[simp] theorem readString_stringField (text : String) : readString (stringField text) = some text := by
  unfold stringField
  by_cases empty : text = ""
  · rw [if_pos empty, empty]
    rfl
  · rw [if_neg empty]
    exact (dif_pos text.isValidUTF8).trans rfl

@[simp] theorem readNumber_numberField (n : Nat) : readNumber (numberField n) = some n := by
  unfold numberField
  by_cases zero : n = 0
  · rw [if_pos zero, zero]
    rfl
  · rw [if_neg zero]
    rfl

theorem readWhole_wholeField {x : Int} (fits : Fits x) : readWhole (wholeField x) = some x := by
  unfold wholeField
  unfold Fits at fits
  by_cases zero : x = 0
  · rw [if_pos zero, zero]
    rfl
  · have bytes := numberOf_eightBytes (n := (x % 2 ^ 64).toNat) (by omega)
    rw [if_neg zero]
    show some (if numberOf _ < 2 ^ 63 then (numberOf _ : Int) else _) = _
    rw [bytes]
    congr 1
    split <;> omega

/-! ## Messages -/

/-- The fields of a detail. -/
def detailFields (detail : TakProtoDetail) : List (Nat × Option WireValue) := [(1, stringField detail.xmlDetail)]

/-- The fields of an event. -/
def eventFields (cot : TakProtoCotEvent Int) : List (Nat × Option WireValue) :=
  [(1, stringField cot.type), (2, stringField cot.access), (3, stringField cot.qos), (4, stringField cot.opex),
    (5, stringField cot.uid), (6, numberField cot.sendTime), (7, numberField cot.startTime), (8, numberField cot.staleTime),
    (9, stringField cot.how), (10, wholeField cot.lat), (11, wholeField cot.lon), (12, wholeField cot.hae),
    (13, wholeField cot.ce), (14, wholeField cot.le),
    (15, cot.detail.map fun detail => .bytes (encodeFields (present (detailFields detail))))]

/-- The fields of a message. -/
def messageFields (message : TakProtoMessage Int) : List (Nat × Option WireValue) :=
  [(2, message.cotEvent.map fun cot => .bytes (encodeFields (present (eventFields cot))))]

/-- `encode`. -/
def encode (message : TakProtoMessage Int) : List UInt8 := encodeFields (present (messageFields message))

/-- A message within a message. -/
def readMessage {α : Type} (read : List UInt8 → Option α) : Option WireValue → Option (Option α)
  | none => some none
  | some (.bytes payload) => (read payload).map some
  | some _ => none

/-- Read a detail. -/
def readDetail (bytes : List UInt8) : Option TakProtoDetail := do
  let fields ← readFields bytes
  let xmlDetail ← readString (lastOf 1 fields)
  return { xmlDetail }

/-- Read an event. -/
def readEvent (bytes : List UInt8) : Option (TakProtoCotEvent Int) := do
  let fields ← readFields bytes
  let type ← readString (lastOf 1 fields)
  let access ← readString (lastOf 2 fields)
  let qos ← readString (lastOf 3 fields)
  let opex ← readString (lastOf 4 fields)
  let uid ← readString (lastOf 5 fields)
  let sendTime ← readNumber (lastOf 6 fields)
  let startTime ← readNumber (lastOf 7 fields)
  let staleTime ← readNumber (lastOf 8 fields)
  let how ← readString (lastOf 9 fields)
  let lat ← readWhole (lastOf 10 fields)
  let lon ← readWhole (lastOf 11 fields)
  let hae ← readWhole (lastOf 12 fields)
  let ce ← readWhole (lastOf 13 fields)
  let le ← readWhole (lastOf 14 fields)
  let detail ← readMessage readDetail (lastOf 15 fields)
  return { type, access, qos, opex, uid, sendTime, startTime, staleTime, how, lat, lon, hae, ce, le, detail }

/-- `decode`. -/
def decode (bytes : List UInt8) : Option (TakProtoMessage Int) := do
  let fields ← readFields bytes
  let cotEvent ← readMessage readEvent (lastOf 2 fields)
  return { cotEvent }

theorem readDetail_encode (detail : TakProtoDetail) : readDetail (encodeFields (present (detailFields detail))) = some detail := by
  have text : lastOf 1 (present (detailFields detail)) = stringField detail.xmlDetail :=
    Protobuf.lastOf_present (by simp [detailFields]) (by simp [detailFields])
  simp only [readDetail, Protobuf.readFields_encodeFields, bind, Option.bind_some, text, readString_stringField]
  rfl

theorem readMessage_map {α : Type} {read : List UInt8 → Option α} {write : α → List UInt8} (value : Option α)
    (readWrite : ∀ inner ∈ value, read (write inner) = some inner) :
    readMessage read (value.map fun inner => .bytes (write inner)) = some value := by
  cases value with
  | none => rfl
  | some inner => rw [Option.map_some, readMessage, readWrite inner rfl, Option.map_some]

theorem readEvent_encode {cot : TakProtoCotEvent Int}
    (fits : Fits cot.lat ∧ Fits cot.lon ∧ Fits cot.hae ∧ Fits cot.ce ∧ Fits cot.le) :
    readEvent (encodeFields (present (eventFields cot))) = some cot := by
  have field : ∀ tag value, (tag, value) ∈ eventFields cot → lastOf tag (present (eventFields cot)) = value := by
    have nodup : ((eventFields cot).map Prod.fst).Nodup := by
      show [1, 2, 3, 4, 5, 6, 7, 8, 9, 10, 11, 12, 13, 14, 15].Nodup
      decide
    exact fun tag value mem => Protobuf.lastOf_present nodup mem
  have detail := readMessage_map cot.detail fun inner _ => readDetail_encode inner
  obtain ⟨lat, lon, hae, ce, le⟩ := fits
  unfold readEvent
  rw [Protobuf.readFields_encodeFields, Option.bind_eq_bind, Option.bind_some]
  rw [field 1 (stringField cot.type) (by simp [eventFields]), field 2 (stringField cot.access) (by simp [eventFields]),
    field 3 (stringField cot.qos) (by simp [eventFields]), field 4 (stringField cot.opex) (by simp [eventFields]),
    field 5 (stringField cot.uid) (by simp [eventFields]), field 6 (numberField cot.sendTime) (by simp [eventFields]),
    field 7 (numberField cot.startTime) (by simp [eventFields]), field 8 (numberField cot.staleTime) (by simp [eventFields]),
    field 9 (stringField cot.how) (by simp [eventFields]), field 10 (wholeField cot.lat) (by simp [eventFields]),
    field 11 (wholeField cot.lon) (by simp [eventFields]), field 12 (wholeField cot.hae) (by simp [eventFields]),
    field 13 (wholeField cot.ce) (by simp [eventFields]), field 14 (wholeField cot.le) (by simp [eventFields]),
    field 15 (cot.detail.map fun inner => .bytes (encodeFields (present (detailFields inner)))) (by simp [eventFields]), detail]
  simp only [readString_stringField, readNumber_numberField, readWhole_wholeField lat, readWhole_wholeField lon,
    readWhole_wholeField hae, readWhole_wholeField ce, readWhole_wholeField le]
  rfl

/-- A message is read back. -/
theorem decode_encode {cot : TakProtoCotEvent Int}
    (fits : Fits cot.lat ∧ Fits cot.lon ∧ Fits cot.hae ∧ Fits cot.ce ∧ Fits cot.le) :
    decode (encode { cotEvent := some cot }) = some { cotEvent := some cot } := by
  have field : lastOf 2 (present (messageFields { cotEvent := some cot })) =
      (some cot).map fun cot => .bytes (encodeFields (present (eventFields cot))) :=
    Protobuf.lastOf_present (by simp [messageFields]) (by simp [messageFields])
  have event := readMessage_map (some cot) fun inner same => readEvent_encode (Option.some.inj same ▸ fits)
  unfold decode encode
  rw [Protobuf.readFields_encodeFields]
  simp only [bind, Option.bind_some, field, event]
  rfl

end TakWire

/-! ## Whole numbers as floats -/

namespace WholeFloat

/-- A whole number with one digit behind the point. -/
def display (x : Int) : String :=
  String.ofList ((if x < 0 then ['-'] else []) ++ (Calendar.padded 1 x.natAbs ++ ['.', '0']))

/-- Read digits with nothing but a zero behind the point. -/
def parseDigits (text : List Char) : Option Nat :=
  let digits := text.takeWhile Char.isDigit
  if !digits.isEmpty && (text.drop digits.length == ['.', '0'] || (text.drop digits.length).isEmpty) then
    some (Nat.ofDigitChars 10 digits 0)
  else none

/-- Read a whole number. -/
def parse (text : String) : Option Int :=
  match text.toList with
  | '-' :: text => (parseDigits text).map fun n : Nat => -(n : Int)
  | text => (parseDigits text).map fun n : Nat => (n : Int)

theorem parseDigits_padded (n : Nat) : parseDigits (Calendar.padded 1 n ++ ['.', '0']) = some n := by
  have within : (Calendar.padded 1 n ++ ['.', '0']).takeWhile Char.isDigit = Calendar.padded 1 n :=
    Xml.takeWhile_until Calendar.padded_digits rfl
  have content : (Calendar.padded 1 n).isEmpty = false := by
    rw [List.isEmpty_eq_false_iff]
    exact fun empty => absurd (List.append_eq_nil_iff.1 empty).2 Nat.toDigits_ne_nil
  rw [parseDigits, within, List.drop_left, content, Calendar.ofDigitChars_padded]
  rfl

theorem parse_display (x : Int) : parse (display x) = some x := by
  unfold parse display
  rw [String.toList_ofList]
  by_cases negative : x < 0
  · rw [if_pos negative]
    show (parseDigits (Calendar.padded 1 x.natAbs ++ ['.', '0'])).map _ = _
    rw [parseDigits_padded, Option.map_some]
    congr 1
    omega
  · rw [if_neg negative, List.nil_append]
    have plain : ∀ rest, Calendar.padded 1 x.natAbs ++ ['.', '0'] ≠ '-' :: rest := by
      intro rest same
      cases digits : Calendar.padded 1 x.natAbs with
      | nil => exact absurd (List.append_eq_nil_iff.1 digits).2 Nat.toDigits_ne_nil
      | cons digit others =>
        rw [digits] at same
        have isDigit := Calendar.padded_digits digit (digits ▸ List.mem_cons_self)
        rw [(List.cons.inj same).1] at isDigit
        revert isDigit
        decide
    split
    · exact absurd ‹_› (plain _)
    · rw [parseDigits_padded, Option.map_some]
      congr 1
      omega

theorem display_chars (x : Int) : ∀ c ∈ (display x).toList, Xml.nameChar c = true := by
  have digits : ∀ c ∈ Calendar.padded 1 x.natAbs, Xml.nameChar c = true := by
    intro c mem
    simp [Xml.nameChar, Char.isAlphanum, Calendar.padded_digits c mem]
  have behind : ∀ c ∈ ['.', '0'], Xml.nameChar c = true := List.all_eq_true.1 (by decide)
  rw [display, String.toList_ofList, List.forall_mem_append, List.forall_mem_append]
  refine ⟨?_, digits, behind⟩
  split
  · exact List.all_eq_true.1 (by decide)
  · exact nofun

end WholeFloat

/-- The host of whole numbers. -/
instance wholeHost : TakHost Int where
  finite x := decide (TakWire.Fits x)
  same x y := x = y
  same_self _ := rfl
  whole _ := true
  displayTenths := WholeFloat.display
  display := WholeFloat.display
  parseFloat := WholeFloat.parse
  parse_displayTenths _ _ := WholeFloat.parse_display _
  parse_display _ := WholeFloat.parse_display _
  displayTenths_chars := WholeFloat.display_chars
  display_chars := WholeFloat.display_chars
  zero := 0
  zero_finite := by decide
  parse_zero := by decide
  unknown := 9999999
  unknown_finite := by decide
  parse_unknown := by decide
  staleDelta x := 2 * max x 1
  fromSecs x := if x < 0 then none else some (x.toNat * 1000000000)
  xmlEvents := Xml.scan
  xmlEvents_reads := Xml.scan_reads
  parseFromRfc3339 := Calendar.parseUtcMillis
  parseFromRfc3339_text := Calendar.parseUtcMillis_text
  encode := TakWire.encode
  decode := TakWire.decode
  decode_encode cot _ finite := by
    simp only [decide_eq_true_eq] at finite
    exact ⟨cot.lat, cot.lon, cot.hae, cot.ce, cot.le, TakWire.decode_encode finite, rfl, rfl, rfl, rfl, rfl⟩

end TelemetryHub
