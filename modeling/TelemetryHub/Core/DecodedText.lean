import TelemetryHub.Lib.Utf8

/-!
# Text of a file, without what is not text

The hub reads an imported file as UTF-8 and leaves out what is not. It asks the strict decoder
again and again, keeps what was valid and steps past what was not; where the end of the file
cuts a sequence short the decoder gives no length, and the hub steps past one byte.
-/

namespace TelemetryHub

open Lib

/-- `str::Utf8Error`. -/
structure Utf8Error where
  validUpTo : Nat
  errorLen : Option Nat
deriving DecidableEq

/-- The decoder goes over the sequences and stops at the first that is not a character. -/
def validateUtf8 : List Utf8.Segment → Nat → Except Utf8Error Unit
  | [], _ => .ok ()
  | .char c :: rest, index => validateUtf8 rest (index + c.utf8Size)
  | .invalid _ more :: _, index => .error { validUpTo := index, errorLen := some (more.length + 1) }
  | .truncated .. :: _, index => .error { validUpTo := index, errorLen := none }

/-- `std::str::from_utf8`. -/
def fromUtf8 (bytes : List UInt8) : Except Utf8Error String := do
  validateUtf8 (Utf8.segments bytes) 0
  return String.ofList (Utf8.characters (Utf8.segments bytes))

/-- `String::from_utf8_lossy`. -/
def fromUtf8Lossy (bytes : List UInt8) : String :=
  String.ofList ((Utf8.segments bytes).map fun segment => segment.char?.getD (Char.ofNat 0xFFFD))

/-- The loop of `decode_utf8_ignoring_errors`, so many times. -/
def decodeRemaining : Nat → List UInt8 → String → Option String
  | 0, _, _ => none
  | fuel + 1, remaining, decoded =>
    if remaining = [] then some decoded
    else match fromUtf8 remaining with
      | .ok valid => some (decoded ++ valid)
      | .error error =>
        let decoded := if error.validUpTo > 0 then decoded ++ fromUtf8Lossy (remaining.take error.validUpTo) else decoded
        let skip := error.errorLen.getD 1
        decodeRemaining fuel (remaining.drop (min (error.validUpTo + skip) remaining.length)) decoded

def decodeUtf8IgnoringErrors (bytes : List UInt8) : Option String := decodeRemaining (bytes.length + 1) bytes ""

/-! ## The strict decoder -/

theorem validateUtf8_chars (cs : List Char) (segs : List Utf8.Segment) (index : Nat) :
    validateUtf8 (cs.map Utf8.Segment.char ++ segs) index = validateUtf8 segs (index + (Utf8.encode cs).length) := by
  induction cs generalizing index with
  | nil => rfl
  | cons c cs ih =>
    rw [List.map_cons, List.cons_append, validateUtf8, ih, Utf8.encode_cons, List.length_append, String.length_utf8EncodeChar,
      Nat.add_assoc]

/-- Sequences are characters throughout, or up to the first that is none. -/
theorem segments_begin (segs : List Utf8.Segment) :
    ∃ (cs : List Char) (rest : List Utf8.Segment), segs = cs.map Utf8.Segment.char ++ rest ∧
      ∀ segment ∈ rest.head?, segment.char? = none := by
  induction segs with
  | nil => exact ⟨[], [], rfl, by simp⟩
  | cons segment segs ih =>
    cases segment with
    | char c =>
      obtain ⟨cs, rest, rfl, stops⟩ := ih
      exact ⟨c :: cs, rest, rfl, stops⟩
    | invalid first more => exact ⟨[], _, rfl, by simp [Utf8.Segment.char?]⟩
    | truncated first more => exact ⟨[], _, rfl, by simp [Utf8.Segment.char?]⟩

/-- What the strict decoder answers, and where it stops. -/
inductive Decoded (bytes : List UInt8) : Except Utf8Error String → Prop
  | valid (cs : List Char) (whole : bytes = Utf8.encode cs) : Decoded bytes (.ok (String.ofList cs))
  | invalid (cs : List Char) (first : UInt8) (more rest : List UInt8) (same : bytes = Utf8.encode cs ++ first :: more ++ rest)
      (cut : Utf8.segments bytes = cs.map Utf8.Segment.char ++ .invalid first more :: Utf8.segments rest) :
      Decoded bytes (.error { validUpTo := (Utf8.encode cs).length, errorLen := some (more.length + 1) })
  | truncated (cs : List Char) (first : UInt8) (more : List UInt8) (same : bytes = Utf8.encode cs ++ first :: more)
      (cut : Utf8.segments bytes = cs.map Utf8.Segment.char ++ [.truncated first more])
      (continuations : ∀ x ∈ more, 0x80 ≤ x.toNat ∧ x.toNat ≤ 0xBF) :
      Decoded bytes (.error { validUpTo := (Utf8.encode cs).length, errorLen := none })

theorem fromUtf8_decoded (bytes : List UInt8) : Decoded bytes (fromUtf8 bytes) := by
  obtain ⟨cs, segs, cut, stops⟩ := segments_begin (Utf8.segments bytes)
  obtain ⟨rest, same, after⟩ := Utf8.segments_split cut
  rw [Utf8.joined_chars] at same
  have answer : fromUtf8 bytes = do
      validateUtf8 segs (Utf8.encode cs).length
      return String.ofList (Utf8.characters (Utf8.segments bytes)) := by
    rw [fromUtf8, cut, validateUtf8_chars, Nat.zero_add]
  rcases segs with _ | ⟨segment, later⟩
  · obtain rfl : rest = [] := by rw [← Utf8.joined_segments rest, after, Utf8.joined_nil]
    rw [answer, cut, List.append_nil, Utf8.characters_chars]
    exact .valid cs (by rw [same, List.append_nil])
  · cases segment with
    | char c => simp [Utf8.Segment.char?] at stops
    | invalid first more =>
      rw [answer, validateUtf8]
      rw [List.append_cons] at cut
      obtain ⟨rest, same, rfl⟩ := Utf8.segments_split cut
      exact .invalid cs first more rest (by simpa [Utf8.joined_append, Utf8.joined_chars, Utf8.Segment.bytes] using same) (by simpa using cut)
    | truncated first more =>
      rw [answer, validateUtf8]
      obtain ⟨rfl, rfl, continuations⟩ := Utf8.segments_truncated after
      exact .truncated cs first more same cut continuations

theorem segments_encoded (cs : List Char) : Utf8.segments (Utf8.encode cs) = cs.map Utf8.Segment.char := by
  simpa using Utf8.segments_encode cs []

/-- Bytes are valid exactly when they are the encoding of a text, which is then decoded. -/
theorem fromUtf8_ok {bytes : List UInt8} {text : String} : fromUtf8 bytes = .ok text ↔ bytes = Utf8.encode text.toList := by
  constructor
  · intro answer
    have decoded := fromUtf8_decoded bytes
    rw [answer] at decoded
    cases decoded with
    | valid cs whole => rw [whole, String.toList_ofList]
  · rintro rfl
    have valid : validateUtf8 (text.toList.map Utf8.Segment.char) 0 = .ok () := by
      simpa [validateUtf8] using validateUtf8_chars text.toList [] 0
    rw [fromUtf8, segments_encoded, valid, Utf8.characters_chars, String.ofList_toList]
    rfl

theorem encode_length_le {cs text : List Char} {stop : Utf8.Segment} {later rest : List Utf8.Segment} (stops : stop.char? = none)
    (same : cs.map Utf8.Segment.char ++ stop :: later = text.map Utf8.Segment.char ++ rest) :
    (Utf8.encode text).length ≤ (Utf8.encode cs).length := by
  induction text generalizing cs with
  | nil => simp [Utf8.encode]
  | cons c text ih =>
    rcases cs with _ | ⟨d, cs⟩
    · obtain ⟨rfl, _⟩ := List.cons.inj same
      cases stops
    · obtain ⟨first, others⟩ := List.cons.inj same
      obtain rfl := Utf8.Segment.char.inj first
      have := ih others
      simp only [Utf8.encode_cons, List.length_append]
      omega

/-- The decoder stops at the greatest index that has only valid bytes before it. -/
theorem validUpTo_greatest {bytes : List UInt8} {error : Utf8Error} (stopped : fromUtf8 bytes = .error error) :
    (∃ text, fromUtf8 (bytes.take error.validUpTo) = .ok text) ∧
      ∀ n text, n ≤ bytes.length → fromUtf8 (bytes.take n) = .ok text → n ≤ error.validUpTo := by
  obtain ⟨cs, rest, stop, later, same, index, cut, stops⟩ : ∃ (cs : List Char) (rest : List UInt8) (stop : Utf8.Segment)
      (later : List Utf8.Segment), bytes = Utf8.encode cs ++ rest ∧ error.validUpTo = (Utf8.encode cs).length ∧
        Utf8.segments bytes = cs.map Utf8.Segment.char ++ stop :: later ∧ stop.char? = none := by
    have answer := fromUtf8_decoded bytes
    rw [stopped] at answer
    cases answer with
    | invalid cs first more rest same cut => exact ⟨cs, _, _, _, by simpa using same, rfl, cut, rfl⟩
    | truncated cs first more same cut => exact ⟨cs, _, _, _, same, rfl, cut, rfl⟩
  constructor
  · refine ⟨String.ofList cs, fromUtf8_ok.mpr ?_⟩
    rw [index, same, List.take_left, String.toList_ofList]
  · intro n text within valid
    have front := fromUtf8_ok.mp valid
    have parted := Utf8.segments_encode text.toList (bytes.drop n)
    rw [← front, List.take_append_drop, cut] at parted
    have bound := encode_length_le stops parted
    rw [← front, List.length_take, Nat.min_eq_left within] at bound
    rwa [index]

theorem fromUtf8Lossy_encode (cs : List Char) : fromUtf8Lossy (Utf8.encode cs) = String.ofList cs := by
  rw [fromUtf8Lossy, segments_encoded, List.map_map]
  simp [Function.comp_def, Utf8.Segment.char?]

/-! ## The loop -/

/-- The text of the characters left in some bytes. -/
def validText (bytes : List UInt8) : String := String.ofList (Utf8.characters (Utf8.segments bytes))

theorem validText_of_cut {bytes rest : List UInt8} {cs : List Char} {segs : List Utf8.Segment}
    (cut : Utf8.segments bytes = cs.map Utf8.Segment.char ++ segs)
    (left : Utf8.characters segs = Utf8.characters (Utf8.segments rest)) : validText bytes = String.ofList cs ++ validText rest := by
  rw [validText, cut, Utf8.characters_append, Utf8.characters_chars, left, String.ofList_append, validText]

/-- What was valid before the decoder stopped is kept. -/
theorem valid_kept (cs : List Char) (rest : List UInt8) (decoded : String) :
    (if (Utf8.encode cs).length > 0 then decoded ++ fromUtf8Lossy ((Utf8.encode cs ++ rest).take (Utf8.encode cs).length)
      else decoded) = decoded ++ String.ofList cs := by
  rw [List.take_left, fromUtf8Lossy_encode]
  rcases cs with _ | ⟨c, cs⟩
  · simp [Utf8.encode]
  · rw [if_pos]
    simp only [Utf8.encode_cons, List.length_append, String.length_utf8EncodeChar]
    have := c.utf8Size_pos
    omega

theorem decodeRemaining_enough {fuel : Nat} {remaining : List UInt8} (decoded : String) (enough : remaining.length < fuel) :
    decodeRemaining fuel remaining decoded = some (decoded ++ validText remaining) := by
  induction fuel generalizing remaining decoded with
  | zero => omega
  | succ fuel ih =>
    by_cases none : remaining = []
    · rw [decodeRemaining, if_pos none, none]
      simp [validText, Utf8.characters]
    · rw [decodeRemaining, if_neg none]
      have answer := fromUtf8_decoded remaining
      generalize fromUtf8 remaining = result at answer ⊢
      cases answer with
      | valid cs whole =>
        rw [validText, whole, segments_encoded, Utf8.characters_chars]
      | invalid cs first more rest same cut =>
        -- the decoder gives the length, and what follows is cut up as before
        have shorter : rest.length < fuel := by
          simp only [same, List.length_append, List.length_cons] at enough
          omega
        have kept := valid_kept cs (first :: more ++ rest) decoded
        rw [← List.append_assoc, ← same] at kept
        have passed : remaining.drop (min ((Utf8.encode cs).length + (more.length + 1)) remaining.length) = rest := by
          rw [same, Nat.min_eq_left (by simp)]
          exact List.drop_left' (by simp)
        simp only [Option.getD_some, kept, passed]
        rw [ih _ shorter, validText_of_cut cut rfl, String.append_assoc]
      | truncated cs first more same cut continuations =>
        -- one byte is passed, and what is left of the sequence holds no character
        have shorter : more.length < fuel := by
          simp only [same, List.length_append, List.length_cons] at enough
          omega
        have kept := valid_kept cs (first :: more) decoded
        rw [← same] at kept
        have passed : remaining.drop (min ((Utf8.encode cs).length + 1) remaining.length) = more := by
          rw [same, Nat.min_eq_left (by simp), List.append_cons]
          exact List.drop_left' (by simp)
        have nothing : Utf8.characters [.truncated first more] = Utf8.characters (Utf8.segments more) :=
          (Utf8.characters_continuations continuations).symm
        simp only [Option.getD_none, kept, passed]
        rw [ih _ shorter, validText_of_cut cut nothing, String.append_assoc]

theorem decodeUtf8IgnoringErrors_eq (bytes : List UInt8) : decodeUtf8IgnoringErrors bytes = some (validText bytes) := by
  rw [decodeUtf8IgnoringErrors, decodeRemaining_enough "" (by omega), String.empty_append]

/-! ## What the hub reads -/

/-- The bytes can be parted where a sequence ends. -/
def SequenceBoundary (front back : List UInt8) : Prop :=
  ∃ segs later, Utf8.segments (front ++ back) = segs ++ later ∧ Utf8.joined segs = front

theorem validText_append {front back : List UInt8} (boundary : SequenceBoundary front back) :
    validText (front ++ back) = validText front ++ validText back := by
  obtain ⟨segs, later, cut, rfl⟩ := boundary
  obtain ⟨rest, same, rfl⟩ := Utf8.segments_split cut
  obtain rfl := List.append_cancel_left same
  rw [validText, cut, Utf8.characters_append, ← Utf8.characters_front cut, String.ofList_append, validText, validText]

/-- **What is read of a file.** The loop ends on all bytes, and leaves the bytes of the sequences
that are characters, without the others; a valid text is read as it is; and where a sequence ends
the bytes may be parted. -/
theorem decodeUtf8IgnoringErrors_exact (bytes : List UInt8) :
    (∃ text, decodeUtf8IgnoringErrors bytes = some text ∧ Utf8.joined (Utf8.segments bytes) = bytes ∧
      Utf8.encode text.toList = Utf8.joined ((Utf8.segments bytes).filter fun segment => segment.char?.isSome)) ∧
    (∀ text : String, fromUtf8 bytes = .ok text → decodeUtf8IgnoringErrors bytes = some text) ∧
    (∀ text : String, bytes = Utf8.encode text.toList → decodeUtf8IgnoringErrors bytes = some text) ∧
    (∀ front back, bytes = front ++ back → SequenceBoundary front back →
      ∃ first second, decodeUtf8IgnoringErrors front = some first ∧ decodeUtf8IgnoringErrors back = some second ∧
        decodeUtf8IgnoringErrors bytes = some (first ++ second)) := by
  have read_valid (text : String) (valid : fromUtf8 bytes = .ok text) : decodeUtf8IgnoringErrors bytes = some text := by
    rw [decodeUtf8IgnoringErrors_eq, validText, fromUtf8_ok.mp valid, segments_encoded, Utf8.characters_chars, String.ofList_toList]
  refine ⟨?_, read_valid, ?_, ?_⟩
  · refine ⟨validText bytes, decodeUtf8IgnoringErrors_eq bytes, Utf8.joined_segments bytes, ?_⟩
    rw [validText, String.toList_ofList, Utf8.encode_characters]
  · intro text encoded
    exact read_valid text (fromUtf8_ok.mpr encoded)
  · rintro front back rfl boundary
    refine ⟨validText front, validText back, decodeUtf8IgnoringErrors_eq front, decodeUtf8IgnoringErrors_eq back, ?_⟩
    rw [decodeUtf8IgnoringErrors_eq, validText_append boundary]

/-- A cut-short sequence between two characters: the bytes may be parted behind it. -/
theorem decodeUtf8IgnoringErrors_exact_sample :
    ∃ first second, decodeUtf8IgnoringErrors [0xC3, 0xA9, 0xE2, 0x82] = some first ∧
      decodeUtf8IgnoringErrors [0x41] = some second ∧
      decodeUtf8IgnoringErrors [0xC3, 0xA9, 0xE2, 0x82, 0x41] = some (first ++ second) :=
  (decodeUtf8IgnoringErrors_exact [0xC3, 0xA9, 0xE2, 0x82, 0x41]).2.2.2 _ _ rfl
    ⟨[.char (Char.ofNat 0xE9), .invalid 0xE2 [0x82]], [.char 'A'], by decide, by decide⟩

end TelemetryHub
