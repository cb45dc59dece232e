import TelemetryHub.Lib.MessagePack
import TelemetryHub.Text

/-!
# Frames and responses

A frame is a message behind its length, and a response of the peer is a head of lines, a
blank line and a body as long as the head says. Lengths come from the peer; where they are
added to an offset the sum may leave `usize`, and a range may leave its slice.
-/

namespace TelemetryHub.Bridge

open Lib

/-! ## Slices -/

/-- `&[u8]`: no slice is longer than `isize::MAX`. -/
structure Slice where
  bytes : List UInt8
  fits : bytes.length < 2 ^ 63

/-- How a function on slices fails: with an `io::Error`, or by a panic. -/
inductive FrameFailure where
  | unexpectedEof (text : String)
  | invalidData (text : String)
  /-- `InvalidData` around a `Utf8Error`. -/
  | invalidUtf8
  | overflow
  | outOfRange
  deriving DecidableEq

/-- A value or an error, and no panic. -/
def NoPanic {α : Type} (r : Except FrameFailure α) : Prop := r ≠ .error .overflow ∧ r ≠ .error .outOfRange

/-- `a + b` of `usize`, with the overflow checks of a debug build or without. -/
def usizeAdd (checks : Bool) (a b : Nat) : Except FrameFailure Nat :=
  if a + b < 2 ^ 64 then .ok (a + b) else if checks then .error .overflow else .ok ((a + b) % 2 ^ 64)

/-- `bytes[start..stop]`. -/
def sliceRange (bytes : List UInt8) (start stop : Nat) : Except FrameFailure (List UInt8) :=
  if start ≤ stop ∧ stop ≤ bytes.length then .ok ((bytes.take stop).drop start) else .error .outOfRange

theorem usizeAdd_ok (checks : Bool) {a b : Nat} (fits : a + b < 2 ^ 64) : usizeAdd checks a b = .ok (a + b) := if_pos fits

theorem sliceRange_ok {bytes : List UInt8} {start stop : Nat} (order : start ≤ stop) (within : stop ≤ bytes.length) :
    sliceRange bytes start stop = .ok ((bytes.take stop).drop start) := if_pos ⟨order, within⟩

/-! ## Frames -/

/-- `rmp_serde` at the type of a message. -/
class FrameCodec (T : Type) where
  /-- `serialize`, or the text of its error. -/
  serialize : T → Except String (List UInt8)
  /-- `rmp_serde::from_slice`. -/
  fromSlice : List UInt8 → Except String T
  fromSlice_serialize : ∀ {message payload}, serialize message = .ok payload → fromSlice payload = .ok message

/-- `u32::to_be_bytes`. -/
def beBytes (n : Nat) : List UInt8 :=
  [UInt8.ofNat (n / 16777216 % 256), UInt8.ofNat (n / 65536 % 256), UInt8.ofNat (n / 256 % 256), UInt8.ofNat (n % 256)]

section

variable {T : Type} [FrameCodec T]

/-- `encode_frame`. -/
def encodeFrame (message : T) : Except FrameFailure Slice :=
  match FrameCodec.serialize message with
  | .error text => .error (.invalidData text)
  | .ok payload =>
    if fits : payload.length < 2 ^ 32 then
      .ok { bytes := beBytes payload.length ++ payload, fits := by simp only [beBytes, List.length_append, List.length_cons, List.length_nil]; omega }
    else .error (.invalidData "frame too large")

/-- `decode_frame`. -/
def decodeFrame (checks : Bool) (frame : Slice) : Except FrameFailure T := do
  if frame.bytes.length < 4 then throw (.unexpectedEof "missing frame header")
  let header ← sliceRange frame.bytes 0 4
  let len := MessagePack.beNat header
  let stop ← usizeAdd checks 4 len
  if frame.bytes.length < stop then throw (.unexpectedEof "incomplete frame")
  let payload ← sliceRange frame.bytes 4 stop
  match FrameCodec.fromSlice payload with
  | .ok message => return message
  | .error text => throw (.invalidData text)

/-! ## What a frame holds -/

theorem foldl_beNat_lt (field : List UInt8) (acc : Nat) :
    field.foldl (fun acc byte => acc * 256 + byte.toNat) acc < (acc + 1) * 256 ^ field.length := by
  induction field generalizing acc with
  | nil => simp only [List.foldl_nil, List.length_nil, Nat.pow_zero]; omega
  | cons byte field ih =>
    have small : byte.toNat < 256 := byte.toNat_lt
    have step : (acc * 256 + byte.toNat + 1) * 256 ^ field.length ≤ (acc + 1) * 256 * 256 ^ field.length :=
      Nat.mul_le_mul_right _ (by omega)
    have shape : (acc + 1) * 256 ^ (byte :: field).length = (acc + 1) * 256 * 256 ^ field.length := by
      rw [List.length_cons, Nat.pow_succ', Nat.mul_assoc]
    rw [List.foldl_cons, shape]
    exact Nat.lt_of_lt_of_le (ih _) step

theorem beNat_lt (field : List UInt8) : MessagePack.beNat field < 256 ^ field.length := by
  have lt := foldl_beNat_lt field 0
  rwa [Nat.zero_add, Nat.one_mul] at lt

theorem beNat_beBytes {n : Nat} (fits : n < 2 ^ 32) : MessagePack.beNat (beBytes n) = n := by
  simp only [MessagePack.beNat, beBytes, List.foldl_cons, List.foldl_nil, UInt8.toNat_ofNat']
  omega

/-- The length in the header of a frame is a `u32`, so its end is in `usize`. -/
theorem decodeFrame_eq (checks : Bool) {frame : Slice} (long : 4 ≤ frame.bytes.length) :
    decodeFrame (T := T) checks frame =
      let len := MessagePack.beNat (frame.bytes.take 4)
      if frame.bytes.length < 4 + len then .error (.unexpectedEof "incomplete frame")
      else match FrameCodec.fromSlice ((frame.bytes.drop 4).take len) with
        | .ok message => .ok message
        | .error text => .error (.invalidData text) := by
  have header : sliceRange frame.bytes 0 4 = .ok (frame.bytes.take 4) := sliceRange_ok (Nat.zero_le 4) long
  have small := beNat_lt (frame.bytes.take 4)
  rw [List.length_take, Nat.min_eq_left long] at small
  have stop : usizeAdd checks 4 (MessagePack.beNat (frame.bytes.take 4)) =
      .ok (4 + MessagePack.beNat (frame.bytes.take 4)) := usizeAdd_ok checks (by omega)
  simp only [decodeFrame, if_neg (Nat.not_lt.2 long), header, stop, bind, Except.bind, pure, Except.pure, throw,
    throwThe, MonadExceptOf.throw]
  by_cases short : frame.bytes.length < 4 + MessagePack.beNat (frame.bytes.take 4)
  · rw [if_pos short, if_pos short]
  · rw [if_neg short, if_neg short, sliceRange_ok (Nat.le_add_right 4 _) (Nat.not_lt.1 short),
      List.drop_take, Nat.add_sub_cancel_left]

theorem decodeFrame_noPanic (checks : Bool) (frame : Slice) : NoPanic (decodeFrame (T := T) checks frame) := by
  by_cases long : 4 ≤ frame.bytes.length
  · rw [decodeFrame_eq checks long]
    dsimp only
    split
    · exact ⟨nofun, nofun⟩
    · split
      · exact ⟨nofun, nofun⟩
      · exact ⟨nofun, nofun⟩
  · rw [decodeFrame, if_pos (Nat.not_le.1 long)]
    exact ⟨nofun, nofun⟩

/-- A message within the limit is framed, and read back from its frame. -/
theorem decodeFrame_encodeFrame (checks : Bool) {message : T} {payload : List UInt8}
    (written : FrameCodec.serialize message = .ok payload) (fits : payload.length < 2 ^ 32) :
    ∃ frame, encodeFrame message = .ok frame ∧ frame.bytes = beBytes payload.length ++ payload ∧
      decodeFrame checks frame = .ok message := by
  have length : (beBytes payload.length).length = 4 := rfl
  refine ⟨_, by rw [encodeFrame, written]; exact dif_pos fits, rfl, ?_⟩
  rw [decodeFrame_eq checks (by rw [List.length_append, length]; omega)]
  dsimp only
  rw [List.take_left' length, List.drop_left' length, beNat_beBytes fits, List.length_append, length,
    if_neg (Nat.lt_irrefl _), List.take_length, FrameCodec.fromSlice_serialize written]

end

/-! ## Responses -/

/-- Where a run of bytes first stands: `windows(n).position(..)`. -/
def findWindow (window : List UInt8) : List UInt8 → Option Nat
  | [] => none
  | byte :: rest => if window.isPrefixOf (byte :: rest) then some 0 else (findWindow window rest).map (· + 1)

/-- `"\r\n\r\n"`. -/
def blankLine : List UInt8 := [13, 10, 13, 10]

/-- `std::str::from_utf8`. -/
def fromUtf8 (bytes : List UInt8) : Option (List Char) := (String.fromUTF8? ⟨⟨bytes⟩⟩).map String.toList

/-- A line without the carriage return at its end. -/
def stripCarriage (line : List Char) : List Char := if line.getLast? = some '\r' then line.dropLast else line

/-- `str::lines`, on the characters. -/
def lineChars (text : List Char) : List (List Char) :=
  let parts := splitChars '\n' text
  let last := parts.getLast?.getD []
  parts.dropLast.map stripCarriage ++ (if last.isEmpty then [] else [last])

/-- `line.split_once(':')`. -/
def splitOnce (line : List Char) : Option (List Char × List Char) :=
  match line.dropWhile (· != ':') with
  | [] => none
  | _ :: value => some (line.takeWhile (· != ':'), value)

/-- `str::parse::<usize>`. -/
def parseUsize (text : List Char) : Option Nat :=
  let digits := match text with
    | '+' :: digits => digits
    | digits => digits
  (digitsValue digits).filter fun n => n < 2 ^ 64

/-- The length that a line of the head says. -/
def lineContentLength (line : List Char) : Option Nat :=
  (splitOnce line).bind fun (name, value) =>
    if eqIgnoreAsciiCase (String.ofList name) "content-length" then parseUsize (trimChars value) else none

/-- The first length that the head says. -/
def contentLength (head : List Char) : Option Nat := (lineChars head).findSome? lineContentLength

/-- `parse_http_response_body`. -/
def parseHttpResponseBody (checks : Bool) (response : Slice) : Except FrameFailure (List UInt8) := do
  match findWindow blankLine response.bytes with
  | none => throw (.invalidData "missing headers")
  | some headerEnd =>
    let headers ← sliceRange response.bytes 0 headerEnd
    let bodyStart ← usizeAdd checks headerEnd 4
    match fromUtf8 headers with
    | none => throw .invalidUtf8
    | some head =>
      match contentLength head with
      | none => throw (.invalidData "missing content length")
      | some length =>
        let stop ← usizeAdd checks bodyStart length
        if response.bytes.length < stop then throw (.unexpectedEof "response body incomplete")
        let stop ← usizeAdd checks bodyStart length
        sliceRange response.bytes bodyStart stop

/-! ## When the length fits -/

/-- The first length the head says, added to the offset of the body, is a `usize`. -/
def ContentFits (response : Slice) : Prop :=
  ∀ headerEnd head length, findWindow blankLine response.bytes = some headerEnd →
    fromUtf8 (response.bytes.take headerEnd) = some head → contentLength head = some length →
    headerEnd + 4 + length < 2 ^ 64

theorem findWindow_le {window bytes : List UInt8} {at_ : Nat} (found : findWindow window bytes = some at_) :
    at_ + window.length ≤ bytes.length := by
  induction bytes generalizing at_ with
  | nil => exact absurd found nofun
  | cons byte rest ih =>
    rw [findWindow] at found
    split at found
    · rename_i here
      obtain rfl := Option.some.inj found
      rw [Nat.zero_add]
      exact (List.isPrefixOf_iff_prefix.1 here).length_le
    · obtain ⟨index, later, rfl⟩ := Option.map_eq_some_iff.1 found
      have within := ih later
      rw [List.length_cons]
      omega

section

variable {response : Slice} {headerEnd : Nat} {head : List Char} {length : Nat}

/-- The offset of the body is in the slice; the end of the body is where the two builds part. -/
theorem parseHttpResponseBody_eq (checks : Bool) (found : findWindow blankLine response.bytes = some headerEnd)
    (text : fromUtf8 (response.bytes.take headerEnd) = some head) (given : contentLength head = some length) :
    parseHttpResponseBody checks response =
      (do
        let stop ← usizeAdd checks (headerEnd + 4) length
        if response.bytes.length < stop then throw (.unexpectedEof "response body incomplete")
        sliceRange response.bytes (headerEnd + 4) stop) := by
  have within : headerEnd + 4 ≤ response.bytes.length := findWindow_le found
  have fits := response.fits
  have headers : sliceRange response.bytes 0 headerEnd = .ok (response.bytes.take headerEnd) :=
    sliceRange_ok (Nat.zero_le _) (by omega)
  have bodyStart : usizeAdd checks headerEnd 4 = .ok (headerEnd + 4) := usizeAdd_ok checks (by omega)
  simp only [parseHttpResponseBody, found, headers, bodyStart, text, given, bind, Except.bind]
  cases usizeAdd checks (headerEnd + 4) length <;> rfl

theorem parseHttpResponseBody_fits (checks : Bool) (found : findWindow blankLine response.bytes = some headerEnd)
    (text : fromUtf8 (response.bytes.take headerEnd) = some head) (given : contentLength head = some length)
    (fits : headerEnd + 4 + length < 2 ^ 64) :
    parseHttpResponseBody checks response =
      if response.bytes.length < headerEnd + 4 + length then .error (.unexpectedEof "response body incomplete")
      else .ok ((response.bytes.drop (headerEnd + 4)).take length) := by
  rw [parseHttpResponseBody_eq checks found text given, usizeAdd_ok checks fits]
  by_cases short : response.bytes.length < headerEnd + 4 + length
  · rw [if_pos short]
    exact if_pos short
  · rw [if_neg short]
    refine (if_neg short).trans ?_
    rw [sliceRange_ok (Nat.le_add_right _ _) (Nat.not_lt.1 short), List.drop_take, Nat.add_sub_cancel_left]

/-- Past `usize` the sum panics, or wraps below the offset of the body, and the slice panics. -/
theorem parseHttpResponseBody_panics (checks : Bool) (found : findWindow blankLine response.bytes = some headerEnd)
    (text : fromUtf8 (response.bytes.take headerEnd) = some head) (given : contentLength head = some length)
    (small : length < 2 ^ 64) (beyond : 2 ^ 64 ≤ headerEnd + 4 + length) :
    ¬NoPanic (parseHttpResponseBody checks response) := by
  have within : headerEnd + 4 ≤ response.bytes.length := findWindow_le found
  have fits := response.fits
  rw [parseHttpResponseBody_eq checks found text given, usizeAdd, if_neg (Nat.not_lt.2 beyond)]
  cases checks with
  | true => exact fun none => none.1 rfl
  | false =>
    have wrapped : (headerEnd + 4 + length) % 2 ^ 64 < headerEnd + 4 := by omega
    have room : ¬response.bytes.length < (headerEnd + 4 + length) % 2 ^ 64 := by omega
    have reversed : sliceRange response.bytes (headerEnd + 4) ((headerEnd + 4 + length) % 2 ^ 64) = .error .outOfRange :=
      if_neg fun range => Nat.not_le.2 wrapped range.1
    refine fun none => none.2 ?_
    refine Eq.trans (if_neg room) ?_
    exact reversed

end

theorem contentLength_lt {head : List Char} {length : Nat} (given : contentLength head = some length) : length < 2 ^ 64 := by
  obtain ⟨line, -, found⟩ := List.exists_of_findSome?_eq_some given
  obtain ⟨⟨name, value⟩, -, found⟩ := Option.bind_eq_some_iff.1 found
  dsimp only at found
  split at found
  · obtain ⟨-, small⟩ := Option.filter_eq_some_iff.1 found
    exact of_decide_eq_true small
  · exact absurd found nofun

theorem parseHttpResponseBody_noPanic (checks : Bool) (response : Slice) :
    NoPanic (parseHttpResponseBody checks response) ↔ ContentFits response := by
  constructor
  · intro none headerEnd head length found text given
    by_contra beyond
    exact parseHttpResponseBody_panics checks found text given (contentLength_lt given) (Nat.not_lt.1 beyond) none
  · intro fits
    cases found : findWindow blankLine response.bytes with
    | none =>
      rw [parseHttpResponseBody, found]
      exact ⟨nofun, nofun⟩
    | some headerEnd =>
      have within : headerEnd + 4 ≤ response.bytes.length := findWindow_le found
      have whole := response.fits
      have headers : sliceRange response.bytes 0 headerEnd = .ok (response.bytes.take headerEnd) :=
        sliceRange_ok (Nat.zero_le _) (by omega)
      have bodyStart : usizeAdd checks headerEnd 4 = .ok (headerEnd + 4) := usizeAdd_ok checks (by omega)
      cases text : fromUtf8 (response.bytes.take headerEnd) with
      | none =>
        simp only [parseHttpResponseBody, found, headers, bodyStart, text, bind, Except.bind]
        exact ⟨nofun, nofun⟩
      | some head =>
        cases given : contentLength head with
        | none =>
          simp only [parseHttpResponseBody, found, headers, bodyStart, text, given, bind, Except.bind]
          exact ⟨nofun, nofun⟩
        | some length =>
          rw [parseHttpResponseBody_fits checks found text given (fits headerEnd head length found text given)]
          split
          · exact ⟨nofun, nofun⟩
          · exact ⟨nofun, nofun⟩

end TelemetryHub.Bridge
