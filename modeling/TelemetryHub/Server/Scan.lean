import TelemetryHub.Server.Capabilities

/-!
# What the scan finds

An offset the scan comes to is within the bytes, or a number of a fixed width cut short
by the end of the bytes has carried it past them: the scan adds the width of a number
and does not look where that leads. Within the bytes what it has passed is complete.
-/

namespace TelemetryHub

open Lib MessagePack

/-- The bytes of a slice: no more than `isize::MAX`. -/
structure ByteSlice where
  bytes : List UInt8
  addressable : bytes.length < 2 ^ 63

/-- No byte that reads as the marker of a number stands so near the end that the number
would run past it. -/
def NothingCut (bytes : List UInt8) : Prop :=
  ∀ offset marker width, bytes[offset]? = some marker → (marker, width) ∈ numberWidths →
    offset + 1 + width ≤ bytes.length

/-- A scan from `start` ended without a panic: in `None`, or at an offset behind bytes that
are `complete`, unless they are cut. -/
inductive Ends (bytes : List UInt8) (start : Nat) (complete : List UInt8 → Prop) : Except Halt Nat → Prop
  | none : Ends bytes start complete (.error .none)
  | stop (stop : Nat) (later : start ≤ stop) (near : stop ≤ bytes.length + 8)
    (whole : stop ≤ bytes.length → complete (slice bytes start stop))
    (inside : NothingCut bytes → stop ≤ bytes.length) : Ends bytes start complete (.ok stop)

variable {bytes : List UInt8} {offset start width count : Nat} {marker : UInt8}

theorem usizeAdd_ok {a b : Nat} (fits : a + b < 2 ^ 64) : usizeAdd a b = .ok (a + b) := if_pos fits

theorem usizeMul_ok {a b : Nat} (fits : a * b < 2 ^ 64) : usizeMul a b = .ok (a * b) := if_pos fits

theorem byteAt_ok {byte : UInt8} : byteAt bytes offset = .ok byte ↔ bytes[offset]? = some byte := by
  unfold byteAt
  split
  · next read => simp [read]
  · next none => simp [none]

theorem byteAt_cases (bytes : List UInt8) (offset : Nat) :
    byteAt bytes offset = .error .none ∨ ∃ byte, byteAt bytes offset = .ok byte := by
  unfold byteAt
  split
  · exact .inr ⟨_, rfl⟩
  · exact .inl rfl

/-- What is read behind a marker is the length field there. -/
theorem readBe_cases (bytes : List UInt8) (offset width : Nat) (fits : offset + width < 2 ^ 64) :
    readBe width bytes offset = .error .none ∨
      offset + width ≤ bytes.length ∧ readBe width bytes offset = .ok (beNat (slice bytes offset (offset + width))) := by
  unfold readBe
  rw [usizeAdd_ok fits]
  by_cases inside : offset + width ≤ bytes.length
  · exact .inr ⟨inside, if_pos inside⟩
  · exact .inl (if_neg inside)

/-- The length field is read as a whole, or there is none. -/
theorem lengthField_cases (bytes : List UInt8) (offset width : Nat) (widths : width = 1 ∨ width = 2 ∨ width = 4) (fits : offset + width < 2 ^ 64) :
    lengthField bytes offset width = .error .none ∨ offset + width ≤ bytes.length ∧
      lengthField bytes offset width = .ok (beNat (slice bytes offset (offset + width))) := by
  obtain rfl | rfl | rfl := widths
  · cases read : bytes[offset]? with
    | none =>
      left
      simp [lengthField, byteAt, read, bind, Except.bind]
    | some byte =>
      right
      have inside := (List.getElem?_eq_some_iff.1 read).1
      refine ⟨by omega, ?_⟩
      rw [slice_cons read (by omega), slice_self]
      simp [lengthField, byteAt, read, beNat, bind, Except.bind, pure, Except.pure]
  · exact readBe_cases bytes offset _ fits
  · exact readBe_cases bytes offset _ fits

theorem beNat_lt (field : List UInt8) : beNat field < 256 ^ field.length := by
  have grow : ∀ (field : List UInt8) (acc bound : Nat), acc < bound →
      field.foldl (fun acc byte => acc * 256 + byte.toNat) acc < bound * 256 ^ field.length := by
    intro field
    induction field with
    | nil =>
      intro acc bound small
      simpa using small
    | cons byte field ih =>
      intro acc bound small
      have byteSmall := byte.toNat_lt
      have next := ih (acc * 256 + byte.toNat) (bound * 256) (by omega)
      rw [List.length_cons, Nat.pow_succ, Nat.mul_comm (256 ^ field.length), ← Nat.mul_assoc]
      exact next
  rw [← Nat.one_mul (256 ^ field.length)]
  exact grow field 0 1 (by omega)

/-- A scan behind a head that makes a whole of what it finds. -/
theorem Ends.extend {complete complete' : List UInt8 → Prop} {result : Except Halt Nat} (h : Ends bytes start complete result)
    (before : offset ≤ start) (whole : ∀ rest, complete rest → complete' (slice bytes offset start ++ rest)) :
    Ends bytes offset complete' result := by
  cases h with
  | none => exact .none
  | stop stop later near complete inside =>
    refine .stop stop (by omega) near ?_ inside
    intro within
    rw [← slice_append before later]
    exact whole _ (complete within)

theorem Ends.ite {complete : List UInt8 → Prop} {c : Prop} [Decidable c] {first second : Except Halt Nat}
    (h : c → Ends bytes start complete first) (h' : ¬c → Ends bytes start complete second) :
    Ends bytes start complete (if c then first else second) := by
  split
  · next holds => exact h holds
  · next fails => exact h' fails

/-- Two scans, one behind the other. -/
theorem Ends.andThen {first second both : List UInt8 → Prop} {result : Except Halt Nat} {next : Nat → Except Halt Nat}
    (h : Ends bytes start first result)
    (hnext : ∀ middle, middle ≤ bytes.length + 8 → (NothingCut bytes → middle ≤ bytes.length) →
      Ends bytes middle second (next middle))
    (joined : ∀ a b, first a → second b → both (a ++ b)) : Ends bytes start both (result >>= next) := by
  cases h with
  | none => exact .none
  | stop middle later near whole inside =>
    show Ends bytes start both (next middle)
    have behind := hnext middle near inside
    revert behind
    generalize next middle = result
    intro behind
    cases behind with
    | none => exact .none
    | stop stop later' near' whole' inside' =>
      refine .stop stop (by omega) near' ?_ inside'
      intro within
      rw [← slice_append later later']
      exact joined _ _ (whole (by omega)) (whole' within)

/-! ## One arm of the scan each -/

section Arms

variable (read : bytes[offset]? = some marker) (short : bytes.length < 2 ^ 63)

include read

theorem offset_lt : offset < bytes.length := (List.getElem?_eq_some_iff.1 read).1

include short

theorem single_ends (item : Item [marker]) : Ends bytes offset Item (usizeAdd offset 1) := by
  have inside := offset_lt read
  rw [usizeAdd_ok (by omega)]
  refine .stop (offset + 1) (by omega) (by omega) ?_ fun _ => by omega
  intro _
  rw [slice_cons read (by omega), slice_self]
  exact item

theorem number_ends (width : Nat) (known : (marker, width) ∈ numberWidths) : Ends bytes offset Item (usizeAdd offset (width + 1)) := by
  have inside := offset_lt read
  have narrow : width ≤ 8 := by
    have bound : ∀ entry ∈ numberWidths, entry.2 ≤ 8 := by decide
    exact bound _ known
  rw [usizeAdd_ok (by omega)]
  refine .stop (offset + (width + 1)) (by omega) (by omega) ?_ ?_
  · intro within
    rw [slice_cons read (by omega)]
    apply Item.number
    rw [length_slice within, show offset + (width + 1) - (offset + 1) = width by omega]
    exact known
  · intro whole
    have fits := whole offset marker width read known
    omega

omit read short in
/-- A payload of a known length. -/
theorem checkedSliceEnd_ends (start len : Nat) :
    Ends bytes start (fun payload => payload.length = len) (checkedSliceEnd bytes start len) := by
  unfold checkedSliceEnd
  split
  · next within =>
    refine .stop (start + len) (by omega) (by omega) ?_ fun _ => within.2
    intro _
    rw [length_slice within.2]
    omega
  · exact .none

theorem lenPrefixed_ends (width : Nat) (known : (marker, width) ∈ bytesWidths) :
    Ends bytes offset Item (msgpackLenPrefixedEnd bytes offset width) := by
  have inside := offset_lt read
  have widths : width = 1 ∨ width = 2 ∨ width = 4 := by
    have bound : ∀ entry ∈ bytesWidths, entry.2 = 1 ∨ entry.2 = 2 ∨ entry.2 = 4 := by decide
    exact bound _ known
  unfold msgpackLenPrefixedEnd
  rw [usizeAdd_ok (by omega)]
  show Ends bytes offset Item (usizeAdd (offset + 1) width >>= _)
  rw [usizeAdd_ok (by omega)]
  show Ends bytes offset Item (lengthField bytes (offset + 1) width >>= _)
  obtain absent | ⟨within, found⟩ := lengthField_cases bytes (offset + 1) width widths (by omega)
  · rw [absent]
    exact .none
  · rw [found]
    apply (checkedSliceEnd_ends (offset + 1 + width) _).extend (by omega)
    intro payload sized
    rw [slice_cons read (by omega)]
    apply Item.bytes
    · rw [length_slice within, show offset + 1 + width - (offset + 1) = width by omega]
      exact known
    · exact sized

end Arms

/-! ## The scan as a whole -/

/-- The values of a sequence, where the scan of one is right at every offset. -/
theorem sequenceEnd_ends {itemEnd : Nat → Except Halt Nat} (items : ∀ offset, Ends bytes offset Item (itemEnd offset)) :
    ∀ count start, start ≤ bytes.length + 8 → (NothingCut bytes → start ≤ bytes.length) →
      Ends bytes start (Items count) (msgpackSequenceEnd itemEnd count start) := by
  intro count
  induction count with
  | zero =>
    intro start near inside
    refine .stop start (by omega) near ?_ inside
    intro _
    rw [slice_self]
    exact Items.done
  | succ count ih =>
    intro start near inside
    exact (items start).andThen ih fun a b first others => Items.next count a b first others

theorem low_nibble (byte : UInt8) : (byte &&& 0x0f).toNat = byte.toNat % 16 := by
  rw [UInt8.toNat_and]
  exact Nat.and_two_pow_sub_one_eq_mod byte.toNat 4

theorem low_five (byte : UInt8) : (byte &&& 0x1f).toNat = byte.toNat % 32 := by
  rw [UInt8.toNat_and]
  exact Nat.and_two_pow_sub_one_eq_mod byte.toNat 5

/-- An array or a map with a length field. -/
theorem sequence_ends (read : bytes[offset]? = some marker) (short : bytes.length < 2 ^ 63) (width values : Nat)
    (scaled : Nat → Except Halt Nat) (known : (marker, width, values) ∈ sequenceWidths) {itemEnd : Nat → Except Halt Nat}
    (items : ∀ offset, Ends bytes offset Item (itemEnd offset))
    (hscaled : ∀ count < 2 ^ 32, scaled count = .ok (count * values)) :
    Ends bytes offset Item (do
      let count ← scaled (← readBe width bytes (← usizeAdd offset 1))
      msgpackSequenceEnd itemEnd count (← usizeAdd offset (1 + width))) := by
  have inside := offset_lt read
  have narrow : width ≤ 4 := by
    have bound : ∀ entry ∈ sequenceWidths, entry.2.1 ≤ 4 := by decide
    exact bound _ known
  rw [usizeAdd_ok (by omega)]
  show Ends bytes offset Item (readBe width bytes (offset + 1) >>= _)
  obtain absent | ⟨within, found⟩ := readBe_cases bytes (offset + 1) width (by omega)
  · rw [absent]
    exact .none
  · have field : (slice bytes (offset + 1) (offset + 1 + width)).length = width := by
      rw [length_slice within]
      omega
    have countable : beNat (slice bytes (offset + 1) (offset + 1 + width)) < 2 ^ 32 := by
      have bound := beNat_lt (slice bytes (offset + 1) (offset + 1 + width))
      rw [field] at bound
      calc _ < 256 ^ width := bound
        _ ≤ 256 ^ 4 := Nat.pow_le_pow_right (by omega) narrow
        _ = 2 ^ 32 := by decide
    rw [found]
    show Ends bytes offset Item (scaled _ >>= _)
    rw [hscaled _ countable, usizeAdd_ok (by omega), ← Nat.add_assoc]
    apply (sequenceEnd_ends items _ (offset + 1 + width) (by omega) fun _ => within).extend (by omega)
    intro body elements
    rw [slice_cons read (by omega)]
    apply Item.sequence marker _ _ values
    · rw [field]
      exact known
    · exact elements

/-- The scan of an item ends without a panic where that of the items within it does. -/
theorem itemEndOver_ends (short : bytes.length < 2 ^ 63) {itemEnd : Nat → Except Halt Nat}
    (items : ∀ offset, Ends bytes offset Item (itemEnd offset)) (offset : Nat) :
    Ends bytes offset Item (msgpackItemEndOver bytes itemEnd offset) := by
  unfold msgpackItemEndOver
  obtain absent | ⟨marker, found⟩ := byteAt_cases bytes offset
  · rw [absent]
    exact .none
  · have read := byteAt_ok.1 found
    have inside := offset_lt read
    have byteSmall := marker.toNat_lt
    rw [found]
    have is : ∀ other : UInt8, marker.toNat = other.toNat → marker = other := fun _ same => UInt8.toNat_inj.1 same
    apply Ends.ite
    · intro single
      apply single_ends read short
      obtain small | same | same | same | large := single
      · exact Item.fixint marker (by omega)
      · rw [is 0xc0 same]
        exact Item.nil
      · rw [is 0xc2 same]
        exact Item.false
      · rw [is 0xc3 same]
        exact Item.true
      · exact Item.negative marker large
    intro _
    apply Ends.ite
    · intro same
      apply number_ends read short 1
      obtain same | same := same
      · rw [is 0xcc same]
        decide
      · rw [is 0xd0 same]
        decide
    intro _
    apply Ends.ite
    · intro same
      apply number_ends read short 2
      obtain same | same := same
      · rw [is 0xcd same]
        decide
      · rw [is 0xd1 same]
        decide
    intro _
    apply Ends.ite
    · intro same
      apply number_ends read short 4
      obtain same | same | same := same
      · rw [is 0xca same]
        decide
      · rw [is 0xce same]
        decide
      · rw [is 0xd2 same]
        decide
    intro _
    apply Ends.ite
    · intro same
      apply number_ends read short 8
      obtain same | same | same := same
      · rw [is 0xcb same]
        decide
      · rw [is 0xcf same]
        decide
      · rw [is 0xd3 same]
        decide
    intro _
    apply Ends.ite
    · intro same
      apply lenPrefixed_ends read short 1
      obtain same | same := same
      · rw [is 0xc4 same]
        decide
      · rw [is 0xd9 same]
        decide
    intro _
    apply Ends.ite
    · intro same
      apply lenPrefixed_ends read short 2
      obtain same | same := same
      · rw [is 0xc5 same]
        decide
      · rw [is 0xda same]
        decide
    intro _
    apply Ends.ite
    · intro same
      apply lenPrefixed_ends read short 4
      obtain same | same := same
      · rw [is 0xc6 same]
        decide
      · rw [is 0xdb same]
        decide
    intro _
    apply Ends.ite
    · rintro ⟨low, high⟩
      rw [usizeAdd_ok (by omega)]
      apply (checkedSliceEnd_ends (offset + 1) _).extend (by omega)
      intro payload sized
      rw [slice_cons read (by omega), slice_self]
      apply Item.fixstr marker payload low (by omega)
      rw [sized, low_five]
      omega
    intro _
    apply Ends.ite
    · rintro ⟨low, high⟩
      rw [usizeAdd_ok (by omega), low_nibble]
      apply (sequenceEnd_ends items _ (offset + 1) (by omega) fun _ => by omega).extend (by omega)
      intro body elements
      rw [slice_cons read (by omega), slice_self]
      apply Item.fixarray marker body low (by omega)
      rw [show marker.toNat - 0x90 = marker.toNat % 16 by omega]
      exact elements
    intro _
    apply Ends.ite
    · intro same
      exact sequence_ends read short 2 1 .ok
        (by rw [is 0xdc same]; decide) items fun count _ => by rw [Nat.mul_one]
    intro _
    apply Ends.ite
    · intro same
      exact sequence_ends read short 4 1 .ok
        (by rw [is 0xdd same]; decide) items fun count _ => by rw [Nat.mul_one]
    intro _
    apply Ends.ite
    · rintro ⟨low, high⟩
      rw [low_nibble, usizeMul_ok (by omega), usizeAdd_ok (by omega)]
      apply (sequenceEnd_ends items _ (offset + 1) (by omega) fun _ => by omega).extend (by omega)
      intro body elements
      rw [slice_cons read (by omega), slice_self]
      apply Item.fixmap marker body low (by omega)
      rw [show marker.toNat - 0x80 = marker.toNat % 16 by omega]
      exact elements
    intro _
    apply Ends.ite
    · intro same
      exact sequence_ends read short 2 2 (fun count => usizeMul count 2)
        (by rw [is 0xde same]; decide) items fun count small => usizeMul_ok (by omega)
    intro _
    apply Ends.ite
    · intro same
      exact sequence_ends read short 4 2 (fun count => usizeMul count 2)
        (by rw [is 0xdf same]; decide) items fun count small => usizeMul_ok (by omega)
    intro _
    exact .none

/-- Whatever the bytes, the scan of an item ends without a panic. -/
theorem itemEndWithin_ends (short : bytes.length < 2 ^ 63) :
    ∀ depth offset, Ends bytes offset Item (msgpackItemEndWithin bytes depth offset) := by
  intro depth
  induction depth with
  | zero => exact fun _ => .none
  | succ depth ih => exact itemEndOver_ends short ih

/-! ## The depth of nesting -/

theorem sequenceEnd_congr {itemEnd itemEnd' : Nat → Except Halt Nat}
    (items : ∀ offset, Ends bytes offset Item (itemEnd offset)) :
    ∀ count start, (∀ offset, start ≤ offset → itemEnd offset = itemEnd' offset) →
      msgpackSequenceEnd itemEnd count start = msgpackSequenceEnd itemEnd' count start := by
  intro count
  induction count with
  | zero => exact fun _ _ => rfl
  | succ count ih =>
    intro start same
    show (itemEnd start >>= msgpackSequenceEnd itemEnd count) = (itemEnd' start >>= msgpackSequenceEnd itemEnd' count)
    rw [← same start (Nat.le_refl start)]
    cases found : itemEnd start with
    | error => rfl
    | ok stop =>
      have ends := items start
      rw [found] at ends
      cases ends with
      | stop stop later =>
        exact ih stop fun offset behind => same offset (by omega)

/-- Only what is found behind the marker matters. -/
theorem itemEndOver_congr (short : bytes.length < 2 ^ 63) {itemEnd itemEnd' : Nat → Except Halt Nat}
    (items : ∀ offset, Ends bytes offset Item (itemEnd offset)) (offset : Nat)
    (same : ∀ behind, offset < behind → itemEnd behind = itemEnd' behind) :
    msgpackItemEndOver bytes itemEnd offset = msgpackItemEndOver bytes itemEnd' offset := by
  have sequences : ∀ count width, msgpackSequenceEnd itemEnd count (offset + (width + 1)) =
      msgpackSequenceEnd itemEnd' count (offset + (width + 1)) := by
    intro count width
    exact sequenceEnd_congr items count _ fun behind later => same behind (by omega)
  unfold msgpackItemEndOver
  obtain absent | ⟨marker, found⟩ := byteAt_cases bytes offset
  · rw [absent]
    rfl
  · have inside := offset_lt (byteAt_ok.1 found)
    rw [usizeAdd_ok (a := offset) (b := 1) (by omega), usizeAdd_ok (a := offset) (b := 3) (by omega),
      usizeAdd_ok (a := offset) (b := 5) (by omega)]
    simp only [bind, Except.bind, sequences]

/-- A depth no offset leaves bytes for makes no difference. -/
theorem itemEndWithin_deeper (short : bytes.length < 2 ^ 63) :
    ∀ depth offset, bytes.length < offset + depth →
      msgpackItemEndWithin bytes depth offset = msgpackItemEndWithin bytes (depth + 1) offset := by
  intro depth
  induction depth with
  | zero =>
    intro offset outside
    have absent : bytes[offset]? = none := List.getElem?_eq_none (by omega)
    show _ = msgpackItemEndOver bytes (msgpackItemEndWithin bytes 0) offset
    unfold msgpackItemEndOver byteAt
    rw [absent]
    rfl
  | succ depth ih =>
    intro offset deep
    exact itemEndOver_congr short (itemEndWithin_ends short depth) offset fun behind later => ih behind (by omega)

/-- The recursion of `msgpack_item_end`. -/
theorem msgpackItemEnd_eq (short : bytes.length < 2 ^ 63) (offset : Nat) :
    msgpackItemEnd bytes offset = msgpackItemEndOver bytes (msgpackItemEnd bytes) offset :=
  itemEndOver_congr short (itemEndWithin_ends short bytes.length) offset fun behind later =>
    itemEndWithin_deeper short bytes.length behind (by omega)

/-! ## Items and slots -/

/-- An item found has a marker, and its end is behind it. -/
theorem itemEnd_later (short : bytes.length < 2 ^ 63) {stop : Nat} (found : msgpackItemEnd bytes offset = .ok stop) :
    offset < stop := by
  have inside : offset < bytes.length := by
    obtain absent | ⟨marker, read⟩ := byteAt_cases bytes offset
    · have none : msgpackItemEndOver bytes (msgpackItemEndWithin bytes bytes.length) offset = .error .none := by
        unfold msgpackItemEndOver
        rw [absent]
        rfl
      exact absurd (found.symm.trans none) (by simp)
    · exact offset_lt (byteAt_ok.1 read)
  have ends := itemEndWithin_ends short (bytes.length + 1) offset
  rw [show msgpackItemEndWithin bytes (bytes.length + 1) offset = .ok stop from found] at ends
  cases ends with
  | stop stop later near whole =>
    obtain before | within : bytes.length < stop ∨ stop ≤ bytes.length := by omega
    · omega
    · have nonempty := (whole within).ne_nil
      rcases Nat.eq_or_lt_of_le later with rfl | later
      · exact absurd (slice_self bytes offset) nonempty
      · exact later

theorem itemEnd_found (short : bytes.length < 2 ^ 63) {stop : Nat} (found : msgpackItemEnd bytes offset = .ok stop) :
    (stop ≤ bytes.length → Item (slice bytes offset stop)) ∧ (NothingCut bytes → stop ≤ bytes.length) := by
  have ends := itemEndWithin_ends short (bytes.length + 1) offset
  rw [show msgpackItemEndWithin bytes (bytes.length + 1) offset = .ok stop from found] at ends
  cases ends with
  | stop stop later near whole inside => exact ⟨whole, inside⟩

/-- Behind the marker of a number the scan adds the width. -/
theorem itemEndOver_number (read : bytes[offset]? = some marker) (short : bytes.length < 2 ^ 63)
    (known : (marker, width) ∈ numberWidths) (itemEnd : Nat → Except Halt Nat) :
    msgpackItemEndOver bytes itemEnd offset = .ok (offset + 1 + width) := by
  have inside := offset_lt read
  unfold msgpackItemEndOver
  rw [byteAt_ok.2 read]
  simp only [numberWidths, List.mem_cons, Prod.mk.injEq, List.not_mem_nil, or_false] at known
  obtain ⟨rfl, rfl⟩ | ⟨rfl, rfl⟩ | ⟨rfl, rfl⟩ | ⟨rfl, rfl⟩ | ⟨rfl, rfl⟩ | ⟨rfl, rfl⟩ | ⟨rfl, rfl⟩ | ⟨rfl, rfl⟩ |
    ⟨rfl, rfl⟩ | ⟨rfl, rfl⟩ := known
  all_goals exact usizeAdd_ok (by omega)

theorem itemEnd_number (read : bytes[offset]? = some marker) (short : bytes.length < 2 ^ 63)
    (known : (marker, width) ∈ numberWidths) : msgpackItemEnd bytes offset = .ok (offset + 1 + width) :=
  itemEndOver_number read short known _

/-- The slots of the loop lie one behind the other. -/
theorem topLevelSlots_found (short : bytes.length < 2 ^ 63) :
    ∀ count start, start ≤ bytes.length → ∀ slots stop, topLevelSlots bytes count start = .ok (slots, stop) →
      start ≤ stop ∧ stop ≤ bytes.length ∧ slots.length = count ∧ slots.flatten = slice bytes start stop ∧
        ∀ slot ∈ slots, Item slot := by
  intro count
  induction count with
  | zero =>
    rintro start within slots stop ⟨⟩
    exact ⟨Nat.le_refl start, within, rfl, (slice_self bytes start).symm, nofun⟩
  | succ count ih =>
    intro start within slots stop run
    obtain ⟨middle, found, run⟩ := bind_eq_ok.1 run
    obtain ⟨slot, cut, run⟩ := bind_eq_ok.1 run
    obtain ⟨⟨rest, stop'⟩, others, run⟩ := bind_eq_ok.1 run
    obtain ⟨rfl, rfl⟩ := Prod.mk.inj (Except.ok.inj run)
    unfold sliceAt at cut
    split at cut
    · next inside =>
      obtain rfl := Except.ok.inj cut
      obtain ⟨later, near, counted, flat, items⟩ := ih middle inside.2 rest stop' others
      refine ⟨by omega, near, by rw [List.length_cons, counted], ?_, ?_⟩
      · rw [List.flatten_cons, flat, slice_append inside.1 later]
      · exact List.forall_mem_cons.2 ⟨(itemEnd_found short found).1 inside.2, items⟩
    · cases cut

/-- The header, where there is a length field of the width. -/
theorem longHeader_found {byte : UInt8} (read : bytes[0]? = some byte) (width : Nat) (known : (byte, width, 1) ∈ sequenceWidths)
    {offset' : Nat} (run : (do return (← readBe width bytes (← usizeAdd 0 1), ← usizeAdd 0 (1 + width)) :
      Except Halt (Nat × Nat)) = .ok (count, offset')) :
    ArrayHeader count (slice bytes 0 offset') ∧ offset' ≤ bytes.length := by
  have narrow : width ≤ 4 := by
    have bound : ∀ entry ∈ sequenceWidths, entry.2.1 ≤ 4 := by decide
    exact bound _ known
  have field : usizeAdd 0 1 = .ok 1 := rfl
  have behind : usizeAdd 0 (1 + width) = .ok (1 + width) := by
    rw [usizeAdd_ok (by omega), Nat.zero_add]
  rw [field, behind] at run
  change (readBe width bytes 1 >>= _) = _ at run
  obtain absent | ⟨within, found⟩ := readBe_cases bytes 1 width (by omega)
  · rw [absent] at run
    cases run
  · rw [found] at run
    obtain ⟨rfl, rfl⟩ := Prod.mk.inj (Except.ok.inj run)
    refine ⟨?_, within⟩
    rw [slice_cons read (by omega), Nat.zero_add]
    apply ArrayHeader.long
    rw [length_slice within, Nat.add_sub_cancel_left]
    exact known

theorem arrayHeader_found {offset' : Nat} (run : msgpackArrayHeader bytes 0 = .ok (count, offset')) :
    ArrayHeader count (slice bytes 0 offset') ∧ offset' ≤ bytes.length := by
  obtain ⟨byte, found, run⟩ := bind_eq_ok.1 run
  have read := byteAt_ok.1 found
  have inside := offset_lt read
  have is : ∀ other : UInt8, byte.toNat = other.toNat → byte = other := fun _ same => UInt8.toNat_inj.1 same
  dsimp only at run
  split at run
  · next short =>
    rw [usizeAdd_ok (by omega), low_nibble] at run
    obtain ⟨rfl, rfl⟩ := Prod.mk.inj (Except.ok.inj run)
    refine ⟨?_, by omega⟩
    rw [slice_cons read (by omega), slice_self, show byte.toNat % 16 = byte.toNat - 0x90 by omega]
    exact ArrayHeader.short byte short.1 (by omega)
  split at run
  · next same => exact longHeader_found read 2 (by rw [is 0xdc same]; decide) run
  split at run
  · next same => exact longHeader_found read 4 (by rw [is 0xdd same]; decide) run
  · cases run

/-- The slices of a top-level array are the encodings of its elements, and all of the input
behind its header. -/
theorem topLevelSlices_found (short : bytes.length < 2 ^ 63) {slots : List (List UInt8)}
    (run : msgpackTopLevelArraySlices bytes = .ok slots) :
    ∃ header, ArrayHeader slots.length header ∧ bytes = header ++ slots.flatten ∧ ∀ slot ∈ slots, Item slot := by
  obtain ⟨⟨count, offset⟩, headed, run⟩ := bind_eq_ok.1 run
  obtain ⟨⟨found, stop⟩, loop, run⟩ := bind_eq_ok.1 run
  obtain ⟨header, within⟩ := arrayHeader_found headed
  dsimp only at run
  split at run
  · next all =>
    obtain rfl := Except.ok.inj run
    obtain ⟨later, near, counted, flat, items⟩ := topLevelSlots_found short count offset within _ _ loop
    refine ⟨slice bytes 0 offset, by rw [counted]; exact header, ?_, items⟩
    rw [flat, slice_append (Nat.zero_le offset) later, all, slice_length, List.drop_zero]
  · cases run

/-! ## Without a panic -/

/-- The result is a value or `None`. -/
def Calm {α : Type} (result : Except Halt α) : Prop := ∀ halt, result = .error halt → halt = .none

theorem Calm.ok {α : Type} (a : α) : Calm (.ok a : Except Halt α) := nofun

theorem Calm.none {α : Type} : Calm (.error .none : Except Halt α) := by
  rintro halt ⟨⟩
  rfl

theorem Calm.bind {α β : Type} {result : Except Halt α} {next : α → Except Halt β} (h : Calm result)
    (hnext : ∀ a, result = .ok a → Calm (next a)) : Calm (result >>= next) := by
  cases result with
  | error halt =>
    rintro halt' ⟨⟩
    exact h _ rfl
  | ok a => exact hnext a rfl

theorem Calm.orNone {α : Type} {result : Except Halt α} (h : Calm result) : ∃ found, orNone result = .ok found := by
  cases result with
  | error halt =>
    obtain rfl := h halt rfl
    exact ⟨_, rfl⟩
  | ok a => exact ⟨_, rfl⟩

theorem Ends.calm {complete : List UInt8 → Prop} {result : Except Halt Nat} (h : Ends bytes start complete result) :
    Calm result := by
  cases h with
  | none => exact Calm.none
  | stop => exact Calm.ok _

theorem Calm.ite {α : Type} {c : Prop} [Decidable c] {first second : Except Halt α} (h : Calm first) (h' : Calm second) :
    Calm (if c then first else second) := by
  split
  · exact h
  · exact h'

theorem calm_byteAt (bytes : List UInt8) (offset : Nat) : Calm (byteAt bytes offset) := by
  obtain absent | ⟨byte, found⟩ := byteAt_cases bytes offset
  · rw [absent]
    exact Calm.none
  · rw [found]
    exact Calm.ok byte

theorem calm_usizeAdd {a b : Nat} (fits : a + b < 2 ^ 64) : Calm (usizeAdd a b) := by
  rw [usizeAdd_ok fits]
  exact Calm.ok _

theorem calm_readBe (fits : offset + width < 2 ^ 64) : Calm (readBe width bytes offset) := by
  obtain absent | ⟨-, found⟩ := readBe_cases bytes offset width fits
  · rw [absent]
    exact Calm.none
  · rw [found]
    exact Calm.ok _

theorem calm_arrayHeader (bytes : List UInt8) : Calm (msgpackArrayHeader bytes 0) := by
  have long : ∀ width, width ≤ 4 → Calm (do return (← readBe width bytes (← usizeAdd 0 1), ← usizeAdd 0 (1 + width)) :
      Except Halt (Nat × Nat)) := by
    intro width narrow
    apply Calm.bind (calm_usizeAdd (by omega))
    rintro _ ⟨⟩
    apply Calm.bind (calm_readBe (by omega))
    intro count _
    exact Calm.bind (calm_usizeAdd (by omega)) fun _ _ => Calm.ok _
  apply Calm.bind (calm_byteAt bytes 0)
  intro byte _
  apply Calm.ite
  · rw [usizeAdd_ok (by omega)]
    exact Calm.ok _
  apply Calm.ite (long 2 (by omega))
  exact Calm.ite (long 4 (by omega)) Calm.none

theorem calm_topLevelSlots (short : bytes.length < 2 ^ 63) (whole : NothingCut bytes) :
    ∀ count start, Calm (topLevelSlots bytes count start) := by
  intro count
  induction count with
  | zero => exact fun _ => Calm.ok _
  | succ count ih =>
    intro start
    apply Calm.bind (itemEndWithin_ends short (bytes.length + 1) start).calm
    intro middle found
    have later := itemEnd_later short found
    have within := (itemEnd_found short found).2 whole
    apply Calm.bind
    · rw [sliceAt, if_pos ⟨by omega, within⟩]
      exact Calm.ok _
    · intro slot _
      exact Calm.bind (ih middle) fun rest _ => Calm.ok _

theorem calm_topLevelArraySlices (short : bytes.length < 2 ^ 63) (whole : NothingCut bytes) :
    Calm (msgpackTopLevelArraySlices bytes) := by
  apply Calm.bind (calm_arrayHeader bytes)
  intro header _
  apply Calm.bind (calm_topLevelSlots short whole _ _)
  intro slots _
  exact Calm.ite (Calm.ok _) Calm.none

theorem calm_binaryOrStringPayload (slot : List UInt8) : Calm (binaryOrStringPayload slot) := by
  apply Calm.bind (calm_byteAt slot 0)
  intro byte _
  apply Calm.ite (Calm.ok _)
  apply Calm.ite (Calm.bind (calm_byteAt slot 1) fun _ _ => Calm.ok _)
  apply Calm.ite (Calm.bind (calm_readBe (by omega)) fun _ _ => Calm.ok _)
  exact Calm.ite (Calm.bind (calm_readBe (by omega)) fun _ _ => Calm.ok _) Calm.none

theorem calm_binaryOrStringBytes (slot : List UInt8) : Calm (msgpackBinaryOrStringBytes slot) := by
  apply Calm.bind (calm_binaryOrStringPayload slot)
  rintro ⟨payloadOffset, len⟩ _
  apply Calm.bind (checkedSliceEnd_ends _ _).calm
  intro stop found
  unfold checkedSliceEnd at found
  split at found
  · next inside =>
    obtain rfl := Except.ok.inj found
    rw [sliceAt, if_pos ⟨Nat.le_add_right _ _, inside.2⟩]
    exact Calm.ok _
  · cases found

section Decoding

variable [RmpSerde]

theorem decodeSlotBytes_returns (slot : List UInt8) : ∃ found, decodeAnnounceCapabilitySlotBytes slot = .ok found := by
  obtain ⟨found, run⟩ := (calm_binaryOrStringBytes slot).orNone
  unfold decodeAnnounceCapabilitySlotBytes
  rw [run]
  cases found with
  | none => exact ⟨_, rfl⟩
  | some bytes =>
    dsimp only [bind, Except.bind]
    cases RmpSerde.fromSlice bytes with
    | none => exact ⟨_, rfl⟩
    | some decoded => exact ⟨_, rfl⟩

theorem firstCapabilities_returns (slots : List (List UInt8)) : ∃ found, firstCapabilities slots = .ok found := by
  induction slots with
  | nil => exact ⟨_, rfl⟩
  | cons slot slots ih =>
    obtain ⟨found, run⟩ := decodeSlotBytes_returns slot
    unfold firstCapabilities
    rw [run]
    cases found with
    | none => exact ih
    | some capabilities => exact ⟨_, rfl⟩

/-- Decoding returns where the slots are found or not found without a panic. -/
theorem decode_returns {appData : List UInt8} (slots : Calm (msgpackTopLevelArraySlices appData)) :
    ∃ capabilities, decodeAnnounceCapabilitiesFromAppData appData = .ok capabilities := by
  obtain ⟨found, run⟩ := slots.orNone
  unfold decodeAnnounceCapabilitiesFromAppData
  split
  · exact ⟨_, rfl⟩
  · rw [run]
    cases found with
    | none => exact ⟨_, rfl⟩
    | some slots =>
      obtain ⟨found, first⟩ := firstCapabilities_returns (slots.drop 2)
      change ∃ capabilities, (firstCapabilities (slots.drop 2) >>= _) = _
      rw [first]
      exact ⟨_, rfl⟩

/-- What is asked of the decoder on the bytes: it returns, and its scan finds complete
values and nothing else. -/
structure ScanSound (bytes : List UInt8) : Prop where
  returns : ∃ capabilities, decodeAnnounceCapabilitiesFromAppData bytes = .ok capabilities
  item : ∀ offset stop, msgpackItemEnd bytes offset = .ok stop →
    offset < stop ∧ stop ≤ bytes.length ∧ Item (slice bytes offset stop)
  slots : ∀ slots, msgpackTopLevelArraySlices bytes = .ok slots →
    ∃ header, ArrayHeader slots.length header ∧ bytes = header ++ slots.flatten ∧ ∀ slot ∈ slots, Item slot

/-- The decoder does what is asked of it exactly on the bytes in which no number of a fixed
width is cut short by the end. -/
theorem scan_sound_iff (appData : ByteSlice) : ScanSound appData.bytes ↔ NothingCut appData.bytes := by
  have short := appData.addressable
  constructor
  · intro sound offset marker width read known
    exact (sound.item offset _ (itemEnd_number read short known)).2.1
  · intro whole
    refine ⟨decode_returns (calm_topLevelArraySlices short whole), ?_, fun slots => topLevelSlices_found short⟩
    intro offset stop found
    obtain ⟨complete, inside⟩ := itemEnd_found short found
    exact ⟨itemEnd_later short found, inside whole, complete (inside whole)⟩

end Decoding

/-- A decoder that reads nothing. -/
@[reducible] def RmpSerde.blank : RmpSerde := ⟨fun _ => none⟩

/-- An array of one 16-bit number that the input does not hold: the slice of the slot
panics. -/
theorem cut_number_panics :
    letI := RmpSerde.blank
    decodeAnnounceCapabilitiesFromAppData [0x91, 0xcd] = .error .outOfRange ∧
      msgpackItemEnd [0x91, 0xcd] 1 = .ok 4 ∧ ¬ScanSound [0x91, 0xcd] := by
  let := RmpSerde.blank
  have panics : decodeAnnounceCapabilitiesFromAppData [0x91, 0xcd] = .error .outOfRange := by decide +kernel
  refine ⟨panics, by decide +kernel, ?_⟩
  intro sound
  obtain ⟨capabilities, returned⟩ := sound.returns
  rw [panics] at returned
  cases returned

end TelemetryHub
