import Mathlib.Algebra.Group.Nat.Defs
import Mathlib.Data.List.Basic

/-!
# MessagePack

The encodings of the format: which byte strings are one complete value. A value starts
with a marker byte. Behind it stand a payload of a width the marker gives, or a length
field and as many bytes, or the elements of an array or a map, a map of `n` entries as
`2 * n` values.
-/

namespace TelemetryHub.Lib.MessagePack

/-- The number a length field holds, the high byte first. -/
def beNat (field : List UInt8) : Nat := field.foldl (fun acc byte => acc * 256 + byte.toNat) 0

/-- The markers of the integers and floats of a fixed width, and the width. -/
def numberWidths : List (UInt8 × Nat) :=
  [(0xcc, 1), (0xcd, 2), (0xce, 4), (0xcf, 8), (0xd0, 1), (0xd1, 2), (0xd2, 4), (0xd3, 8), (0xca, 4), (0xcb, 8)]

/-- The markers of binaries and strings, and the width of the length field. -/
def bytesWidths : List (UInt8 × Nat) := [(0xc4, 1), (0xc5, 2), (0xc6, 4), (0xd9, 1), (0xda, 2), (0xdb, 4)]

/-- The markers of extensions of a fixed width, and the width. -/
def fixextWidths : List (UInt8 × Nat) := [(0xd4, 1), (0xd5, 2), (0xd6, 4), (0xd7, 8), (0xd8, 16)]

/-- The markers of extensions, and the width of the length field. -/
def extWidths : List (UInt8 × Nat) := [(0xc7, 1), (0xc8, 2), (0xc9, 4)]

/-- The markers of arrays and maps with a length field: its width, and the values an entry
counts for. -/
def sequenceWidths : List (UInt8 × Nat × Nat) := [(0xdc, 2, 1), (0xdd, 4, 1), (0xde, 2, 2), (0xdf, 4, 2)]

mutual

/-- The bytes are one complete value. -/
inductive Item : List UInt8 → Prop
  | fixint (marker : UInt8) (small : marker.toNat < 0x80) : Item [marker]
  | negative (marker : UInt8) (large : 0xe0 ≤ marker.toNat) : Item [marker]
  | nil : Item [0xc0]
  | false : Item [0xc2]
  | true : Item [0xc3]
  | number (marker : UInt8) (payload : List UInt8) (known : (marker, payload.length) ∈ numberWidths) :
    Item (marker :: payload)
  | fixstr (marker : UInt8) (payload : List UInt8) (low : 0xa0 ≤ marker.toNat) (high : marker.toNat < 0xc0)
    (sized : payload.length = marker.toNat - 0xa0) : Item (marker :: payload)
  | bytes (marker : UInt8) (field payload : List UInt8) (known : (marker, field.length) ∈ bytesWidths)
    (sized : payload.length = beNat field) : Item (marker :: (field ++ payload))
  | fixext (marker kind : UInt8) (payload : List UInt8) (known : (marker, payload.length) ∈ fixextWidths) :
    Item (marker :: kind :: payload)
  | ext (marker kind : UInt8) (field payload : List UInt8) (known : (marker, field.length) ∈ extWidths)
    (sized : payload.length = beNat field) : Item (marker :: (field ++ kind :: payload))
  | fixarray (marker : UInt8) (body : List UInt8) (low : 0x90 ≤ marker.toNat) (high : marker.toNat < 0xa0)
    (elements : Items (marker.toNat - 0x90) body) : Item (marker :: body)
  | fixmap (marker : UInt8) (body : List UInt8) (low : 0x80 ≤ marker.toNat) (high : marker.toNat < 0x90)
    (elements : Items ((marker.toNat - 0x80) * 2) body) : Item (marker :: body)
  | sequence (marker : UInt8) (field body : List UInt8) (values : Nat)
    (known : (marker, field.length, values) ∈ sequenceWidths) (elements : Items (beNat field * values) body) :
    Item (marker :: (field ++ body))

/-- The bytes are so many complete values, one behind the other. -/
inductive Items : Nat → List UInt8 → Prop
  | done : Items 0 []
  | next (count : Nat) (item rest : List UInt8) (first : Item item) (others : Items count rest) :
    Items (count + 1) (item ++ rest)

end

theorem Item.ne_nil {bytes : List UInt8} (h : Item bytes) : bytes ≠ [] := by
  cases h with
  | _ => exact List.cons_ne_nil _ _

/-- The header of an array of so many elements. -/
inductive ArrayHeader : Nat → List UInt8 → Prop
  | short (marker : UInt8) (low : 0x90 ≤ marker.toNat) (high : marker.toNat < 0xa0) :
    ArrayHeader (marker.toNat - 0x90) [marker]
  | long (marker : UInt8) (field : List UInt8) (known : (marker, field.length, 1) ∈ sequenceWidths) :
    ArrayHeader (beNat field) (marker :: field)

/-- The header of a map of so many entries. -/
inductive MapHeader : Nat → List UInt8 → Prop
  | short (marker : UInt8) (low : 0x80 ≤ marker.toNat) (high : marker.toNat < 0x90) :
    MapHeader (marker.toNat - 0x80) [marker]
  | long (marker : UInt8) (field : List UInt8) (known : (marker, field.length, 2) ∈ sequenceWidths) :
    MapHeader (beNat field) (marker :: field)

/-! ## What the bytes stand for -/

/-- A value of the format, extensions apart. -/
inductive Data where
  | nil
  | bool (b : Bool)
  | int (n : Int)
  | float (x : Float)
  | bin (payload : List UInt8)
  | str (text : String)
  | array (items : List Data)
  | map (entries : List (Data × Data))

/-- The number a field holds in two's complement. -/
def signed (field : List UInt8) : Int := Int.bmod (beNat field) (256 ^ field.length)

/-- The bytes of a text. -/
def utf8 (text : String) : List UInt8 := text.toUTF8.data.toList

/-- The markers of the unsigned integers of a fixed width, and the width. -/
def uintWidths : List (UInt8 × Nat) := [(0xcc, 1), (0xcd, 2), (0xce, 4), (0xcf, 8)]

/-- The markers of the signed integers of a fixed width, and the width. -/
def intWidths : List (UInt8 × Nat) := [(0xd0, 1), (0xd1, 2), (0xd2, 4), (0xd3, 8)]

/-- The markers of binaries, and the width of the length field. -/
def binWidths : List (UInt8 × Nat) := [(0xc4, 1), (0xc5, 2), (0xc6, 4)]

/-- The markers of strings, and the width of the length field. -/
def strWidths : List (UInt8 × Nat) := [(0xd9, 1), (0xda, 2), (0xdb, 4)]

/-- The bytes are one complete value that has no elements. -/
inductive Scalar : List UInt8 → Data → Prop
  | fixint (marker : UInt8) (small : marker.toNat < 0x80) : Scalar [marker] (.int marker.toNat)
  | negative (marker : UInt8) (large : 0xe0 ≤ marker.toNat) : Scalar [marker] (.int (signed [marker]))
  | nil : Scalar [0xc0] .nil
  | false : Scalar [0xc2] (.bool false)
  | true : Scalar [0xc3] (.bool true)
  | uint (marker : UInt8) (field : List UInt8) (known : (marker, field.length) ∈ uintWidths) :
    Scalar (marker :: field) (.int (beNat field))
  | int (marker : UInt8) (field : List UInt8) (known : (marker, field.length) ∈ intWidths) :
    Scalar (marker :: field) (.int (signed field))
  | float32 (field : List UInt8) (four : field.length = 4) :
    Scalar (0xca :: field) (.float (Float32.ofBits (UInt32.ofNat (beNat field))).toFloat)
  | float64 (field : List UInt8) (eight : field.length = 8) :
    Scalar (0xcb :: field) (.float (Float.ofBits (UInt64.ofNat (beNat field))))
  | bin (marker : UInt8) (field payload : List UInt8) (known : (marker, field.length) ∈ binWidths)
    (sized : payload.length = beNat field) : Scalar (marker :: (field ++ payload)) (.bin payload)
  | fixstr (marker : UInt8) (text : String) (low : 0xa0 ≤ marker.toNat) (high : marker.toNat < 0xc0)
    (sized : (utf8 text).length = marker.toNat - 0xa0) : Scalar (marker :: utf8 text) (.str text)
  | str (marker : UInt8) (field : List UInt8) (text : String) (known : (marker, field.length) ∈ strWidths)
    (sized : (utf8 text).length = beNat field) : Scalar (marker :: (field ++ utf8 text)) (.str text)

/-- Keys and values, in turn. -/
def Data.flat (entries : List (Data × Data)) : List Data := entries.flatMap fun entry => [entry.1, entry.2]

mutual

/-- The bytes are one complete encoding of the value. -/
inductive Codes : List UInt8 → Data → Prop
  | scalar (bytes : List UInt8) (value : Data) (h : Scalar bytes value) : Codes bytes value
  | array (header body : List UInt8) (items : List Data) (headed : ArrayHeader items.length header)
    (elements : CodesAll body items) : Codes (header ++ body) (.array items)
  | map (header body : List UInt8) (entries : List (Data × Data)) (headed : MapHeader entries.length header)
    (elements : CodesAll body (Data.flat entries)) : Codes (header ++ body) (.map entries)

/-- The bytes are encodings of the values, one behind the other. -/
inductive CodesAll : List UInt8 → List Data → Prop
  | done : CodesAll [] []
  | next (item rest : List UInt8) (value : Data) (values : List Data) (first : Codes item value)
    (others : CodesAll rest values) : CodesAll (item ++ rest) (value :: values)

end

theorem ArrayHeader.nonempty {count : Nat} {header : List UInt8} (h : ArrayHeader count header) : 0 < header.length := by
  cases h with
  | _ => exact Nat.succ_pos _

theorem MapHeader.nonempty {count : Nat} {header : List UInt8} (h : MapHeader count header) : 0 < header.length := by
  cases h with
  | _ => exact Nat.succ_pos _

theorem Scalar.nonempty {bytes : List UInt8} {value : Data} (h : Scalar bytes value) : 0 < bytes.length := by
  cases h with
  | _ => exact Nat.succ_pos _

theorem Codes.nonempty {bytes : List UInt8} {value : Data} (h : Codes bytes value) : 0 < bytes.length := by
  cases h with
  | scalar _ _ scalar => exact scalar.nonempty
  | array _ _ _ headed =>
    have some_ := headed.nonempty
    rw [List.length_append]
    omega
  | map _ _ _ headed =>
    have some_ := headed.nonempty
    rw [List.length_append]
    omega

/-! ## Slices -/

/-- `bytes[start..stop]`. -/
def slice (bytes : List UInt8) (start stop : Nat) : List UInt8 := (bytes.drop start).take (stop - start)

variable {bytes : List UInt8} {start middle stop : Nat}

theorem slice_self (bytes : List UInt8) (start : Nat) : slice bytes start start = [] := by
  simp [slice]

theorem length_slice (inside : stop ≤ bytes.length) : (slice bytes start stop).length = stop - start := by
  simp only [slice, List.length_take, List.length_drop]
  omega

/-- Two slices that meet. -/
theorem slice_append (first : start ≤ middle) (second : middle ≤ stop) :
    slice bytes start middle ++ slice bytes middle stop = slice bytes start stop := by
  have behind : bytes.drop middle = (bytes.drop start).drop (middle - start) := by
    rw [List.drop_drop]
    congr 1
    omega
  have total : stop - start = (middle - start) + (stop - middle) := by omega
  unfold slice
  rw [behind, total, List.take_add]

theorem slice_cons {byte : UInt8} (read : bytes[start]? = some byte) (later : start < stop) :
    slice bytes start stop = byte :: slice bytes (start + 1) stop := by
  obtain ⟨inside, rfl⟩ := List.getElem?_eq_some_iff.1 read
  have width : stop - start = (stop - (start + 1)) + 1 := by omega
  unfold slice
  rw [List.drop_eq_getElem_cons inside, width, List.take_succ_cons]

/-- A slice up to the end. -/
theorem slice_length (bytes : List UInt8) (start : Nat) : slice bytes start bytes.length = bytes.drop start := by
  unfold slice
  rw [← List.length_drop, List.take_length]

/-- The bytes have this part from `start` on. -/
def Stands (bytes : List UInt8) (start : Nat) (part : List UInt8) : Prop :=
  ∃ before after, before.length = start ∧ bytes = before ++ (part ++ after)

theorem stands_slice (ordered : start ≤ stop) (inside : stop ≤ bytes.length) : Stands bytes start (slice bytes start stop) := by
  refine ⟨bytes.take start, bytes.drop stop, by simp; omega, ?_⟩
  have behind : bytes.drop stop = (bytes.drop start).drop (stop - start) := by
    rw [List.drop_drop]
    congr 1
    omega
  rw [slice, behind, List.take_append_drop, List.take_append_drop]

namespace Stands

variable {part first rest : List UInt8}

theorem inside (h : Stands bytes start part) : start + part.length ≤ bytes.length := by
  obtain ⟨before, after, rfl, rfl⟩ := h
  simp

theorem slice_eq (h : Stands bytes start part) : slice bytes start (start + part.length) = part := by
  obtain ⟨before, after, rfl, rfl⟩ := h
  simp [slice]

theorem front (h : Stands bytes start (first ++ rest)) : Stands bytes start first := by
  obtain ⟨before, after, placed, rfl⟩ := h
  exact ⟨before, rest ++ after, placed, by simp⟩

theorem back (h : Stands bytes start (first ++ rest)) : Stands bytes (start + first.length) rest := by
  obtain ⟨before, after, placed, rfl⟩ := h
  exact ⟨before ++ first, after, by simp [placed], by simp⟩

theorem marker {byte : UInt8} (h : Stands bytes start (byte :: part)) : bytes[start]? = some byte := by
  obtain ⟨before, after, rfl, rfl⟩ := h
  simp

theorem behind {byte : UInt8} (h : Stands bytes start (byte :: part)) : Stands bytes (start + 1) part :=
  @back _ _ [byte] _ h

end Stands

end TelemetryHub.Lib.MessagePack
