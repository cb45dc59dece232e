import Mathlib.Data.List.TakeWhile
import TelemetryHub.Bridge.Framing

/-!
# Well-formed responses

What a peer that follows the protocol sends: lines without line ends in them, the length
of the body on a line of its own, a blank line, the body.
-/

namespace TelemetryHub.Bridge

/-- The bytes of a text. -/
def utf8Bytes (text : List Char) : List UInt8 := text.flatMap String.utf8EncodeChar

/-- The lines of a head, a line end between them. -/
def joinLines : List (List Char) → List Char
  | [] => []
  | [line] => line
  | line :: next :: rest => line ++ '\r' :: '\n' :: joinLines (next :: rest)

/-- The line is a field of the name. -/
def NamesLength (line : List Char) : Prop :=
  ∃ name value, line = name ++ ':' :: value ∧ ':' ∉ name ∧
    eqIgnoreAsciiCase (String.ofList name) "content-length" = true

/-- The line is the field, and its value is the length, in digits between blanks. -/
def SaysLength (line : List Char) (length : Nat) : Prop :=
  ∃ name before digits after, line = name ++ ':' :: (before ++ digits ++ after) ∧ ':' ∉ name ∧
    eqIgnoreAsciiCase (String.ofList name) "content-length" = true ∧
    (∀ c ∈ before ++ after, c = ' ' ∨ c = '\t') ∧ digitsValue digits = some length

/-- A response as its sender writes it. -/
structure HttpResponse where
  lines : List (List Char)
  length : Nat
  body : List UInt8
  plain : ∀ line ∈ lines, line ≠ [] ∧ '\r' ∉ line ∧ '\n' ∉ line
  announced : ∃ line ∈ lines, SaysLength line length
  agreed : ∀ line ∈ lines, NamesLength line → SaysLength line length
  whole : length ≤ body.length

/-- What is on the wire. -/
def HttpResponse.bytes (response : HttpResponse) : List UInt8 :=
  utf8Bytes (joinLines response.lines) ++ (blankLine ++ response.body)

/-! ## The bytes of the head -/

theorem fromUtf8_utf8Bytes (text : List Char) : fromUtf8 (utf8Bytes text) = some text := by
  have bytes : (⟨⟨utf8Bytes text⟩⟩ : ByteArray) = (String.ofList text).toByteArray := by
    apply ByteArray.ext
    rw [String.toByteArray_ofList, List.utf8Encode, List.data_toByteArray]
    rfl
  have valid : ByteArray.IsValidUTF8 ⟨⟨utf8Bytes text⟩⟩ := by
    rw [bytes]
    exact (String.ofList text).isValidUTF8
  have same : String.fromUTF8 ⟨⟨utf8Bytes text⟩⟩ valid = String.ofList text := by
    rw [← String.toByteArray_inj]
    exact bytes
  rw [fromUtf8, String.fromUTF8?, dif_pos valid, same, Option.map_some, String.toList_ofList]

/-- A character above ASCII is written in bytes above ASCII. -/
theorem byte_eq_of_mem_utf8EncodeChar {c : Char} {byte : UInt8} (low : byte.toNat < 128)
    (mem : byte ∈ String.utf8EncodeChar c) : c.val.toNat = byte.toNat := by
  have high : ∀ k m : Nat, 128 ≤ m → m + k < 257 → ∀ v, byte = UInt8.ofNat (v % k + m) → 0 < k → False := by
    intro k m lower upper v same positive
    have small := Nat.mod_lt v positive
    rw [same, UInt8.toNat_ofNat', Nat.mod_eq_of_lt (by omega)] at low
    omega
  rw [String.utf8EncodeChar] at mem
  split at mem
  · rename_i small
    rw [List.mem_singleton.1 mem, UInt8.toNat_ofNat', Nat.mod_eq_of_lt (by omega)]
  · exfalso
    split at mem
    · simp only [List.mem_cons, List.not_mem_nil, or_false] at mem
      rcases mem with same | same
      · exact high _ _ (by omega) (by omega) _ same (by omega)
      · exact high _ _ (by omega) (by omega) _ same (by omega)
    · split at mem
      · simp only [List.mem_cons, List.not_mem_nil, or_false] at mem
        rcases mem with same | same | same
        · exact high _ _ (by omega) (by omega) _ same (by omega)
        · exact high _ _ (by omega) (by omega) _ same (by omega)
        · exact high _ _ (by omega) (by omega) _ same (by omega)
      · simp only [List.mem_cons, List.not_mem_nil, or_false] at mem
        rcases mem with same | same | same | same
        · exact high _ _ (by omega) (by omega) _ same (by omega)
        · exact high _ _ (by omega) (by omega) _ same (by omega)
        · exact high _ _ (by omega) (by omega) _ same (by omega)
        · exact high _ _ (by omega) (by omega) _ same (by omega)

theorem carriage_notMem_utf8Bytes {text : List Char} (none : '\r' ∉ text) : 13 ∉ utf8Bytes text := by
  intro mem
  obtain ⟨c, has, byte⟩ := List.mem_flatMap.1 mem
  have same : c.val.toNat = 13 := byte_eq_of_mem_utf8EncodeChar (by decide) byte
  have isCarriage : c = '\r' := Char.ext (UInt32.toNat_inj.1 same)
  exact none (isCarriage ▸ has)

theorem utf8Bytes_append (front back : List Char) : utf8Bytes (front ++ back) = utf8Bytes front ++ utf8Bytes back :=
  List.flatMap_append

/-- A line's first byte is not a carriage return. -/
theorem utf8Bytes_line {line : List Char} (some_ : line ≠ []) (none : '\r' ∉ line) :
    ∃ byte rest, utf8Bytes line = byte :: rest ∧ byte ≠ 13 := by
  cases bytes : utf8Bytes line with
  | nil =>
    obtain ⟨c, cs, rfl⟩ := List.exists_cons_of_ne_nil some_
    have length : (String.utf8EncodeChar c).length = 0 := by
      rw [utf8Bytes, List.flatMap_cons] at bytes
      rw [(List.append_eq_nil_iff.1 bytes).1, List.length_nil]
    rw [String.length_utf8EncodeChar] at length
    have := c.utf8Size_pos
    omega
  | cons byte rest =>
    refine ⟨byte, rest, rfl, ?_⟩
    rintro rfl
    exact carriage_notMem_utf8Bytes none (by rw [bytes]; exact List.mem_cons_self)

/-! ## The blank line -/

theorem findWindow_skip {front : List UInt8} (none : 13 ∉ front) (bytes : List UInt8) :
    findWindow blankLine (front ++ bytes) = (findWindow blankLine bytes).map (front.length + ·) := by
  induction front with
  | nil =>
    cases found : findWindow blankLine bytes with
    | none => rw [List.nil_append, found, Option.map_none]
    | some index => rw [List.nil_append, found, Option.map_some, List.length_nil, Nat.zero_add]
  | cons byte front ih =>
    have other : ¬(13 : UInt8) = byte := fun same => none (by rw [same]; exact List.mem_cons_self)
    have later : blankLine.isPrefixOf (byte :: (front ++ bytes)) = false := by
      rw [blankLine, List.isPrefixOf_cons_cons, beq_false_of_ne other, Bool.false_and]
    rw [List.cons_append, findWindow, later, if_neg Bool.false_ne_true, ih fun mem => none (List.mem_cons_of_mem _ mem),
      Option.map_map]
    congr 1
    funext index
    simp only [Function.comp_apply, List.length_cons]
    omega

theorem findWindow_blankLine (body : List UInt8) : findWindow blankLine (blankLine ++ body) = some 0 := rfl

/-- Between two lines there is no blank line. -/
theorem findWindow_lineEnd {byte : UInt8} (other : byte ≠ 13) (rest : List UInt8) :
    findWindow blankLine (13 :: 10 :: byte :: rest) = (findWindow blankLine (byte :: rest)).map (2 + ·) := by
  have first : blankLine.isPrefixOf (13 :: 10 :: byte :: rest) = false := by
    rw [blankLine, List.isPrefixOf_cons_cons, List.isPrefixOf_cons_cons, List.isPrefixOf_cons_cons, beq_false_of_ne other.symm]
    rfl
  have second : blankLine.isPrefixOf (10 :: byte :: rest) = false := rfl
  rw [findWindow, first, if_neg Bool.false_ne_true, findWindow, second, if_neg Bool.false_ne_true, Option.map_map]
  congr 1
  funext index
  simp only [Function.comp_apply]
  omega

/-- The first blank line of a response is the one behind its head. -/
theorem findWindow_joinLines {lines : List (List Char)} (plain : ∀ line ∈ lines, line ≠ [] ∧ '\r' ∉ line ∧ '\n' ∉ line)
    (body : List UInt8) :
    findWindow blankLine (utf8Bytes (joinLines lines) ++ (blankLine ++ body)) = some (utf8Bytes (joinLines lines)).length := by
  induction lines with
  | nil => exact findWindow_blankLine body
  | cons line lines ih =>
    have own := plain line List.mem_cons_self
    have skip := carriage_notMem_utf8Bytes own.2.1
    cases lines with
    | nil => rw [joinLines, findWindow_skip skip, findWindow_blankLine, Option.map_some, Nat.add_zero]
    | cons next rest =>
      have later := plain next (List.mem_cons_of_mem _ List.mem_cons_self)
      obtain ⟨byte, tail, opens, other⟩ := utf8Bytes_line later.1 later.2.1
      have opens' : ∃ tail', utf8Bytes (joinLines (next :: rest)) = byte :: tail' := by
        cases rest with
        | nil => exact ⟨tail, opens⟩
        | cons after rest => exact ⟨_, by rw [joinLines, utf8Bytes_append, opens, List.cons_append]⟩
      obtain ⟨tail', opens'⟩ := opens'
      have shape : utf8Bytes (joinLines (line :: next :: rest)) =
          utf8Bytes line ++ 13 :: 10 :: utf8Bytes (joinLines (next :: rest)) := by
        rw [joinLines, utf8Bytes_append]
        rfl
      have found := ih fun line mem => plain line (List.mem_cons_of_mem _ mem)
      rw [opens', List.cons_append] at found
      rw [shape, List.append_assoc, findWindow_skip skip, opens', List.cons_append, List.cons_append, List.cons_append,
        findWindow_lineEnd other, found, Option.map_some, Option.map_some, List.length_append]
      simp only [List.length_cons]
      congr 1
      omega

/-! ## The lines of the head -/

theorem stripCarriage_line (line : List Char) : stripCarriage (line ++ ['\r']) = line := by
  rw [stripCarriage, List.getLast?_concat, if_pos rfl, List.dropLast_concat]

/-- The parts between the line feeds: all lines but the last still have their carriage return. -/
theorem splitChars_joinLines {line : List Char} {lines : List (List Char)}
    (plain : ∀ part ∈ line :: lines, '\n' ∉ part) :
    ∃ front last, splitChars '\n' (joinLines (line :: lines)) = front ++ [last] ∧
      front.map stripCarriage ++ [last] = line :: lines := by
  induction lines generalizing line with
  | nil => exact ⟨[], line, splitChars_whole (plain line List.mem_cons_self), rfl⟩
  | cons next rest ih =>
    obtain ⟨front, last, split, same⟩ := ih fun part mem => plain part (List.mem_cons_of_mem _ mem)
    have own : '\n' ∉ line ++ ['\r'] := by
      intro mem
      rcases List.mem_append.1 mem with mem | mem
      · exact plain line List.mem_cons_self mem
      · exact absurd (List.mem_singleton.1 mem) (by decide)
    refine ⟨(line ++ ['\r']) :: front, last, ?_, ?_⟩
    · have shape : joinLines (line :: next :: rest) = (line ++ ['\r']) ++ '\n' :: joinLines (next :: rest) := by
        rw [joinLines, List.append_assoc]
        rfl
      rw [shape, splitChars_sep own, split, List.cons_append]
    · rw [List.map_cons, stripCarriage_line, List.cons_append, same]

theorem lineChars_joinLines {lines : List (List Char)} (some_ : lines ≠ [])
    (plain : ∀ line ∈ lines, line ≠ [] ∧ '\r' ∉ line ∧ '\n' ∉ line) : lineChars (joinLines lines) = lines := by
  obtain ⟨line, rest, rfl⟩ := List.exists_cons_of_ne_nil some_
  obtain ⟨front, last, split, same⟩ := splitChars_joinLines fun part mem => (plain part mem).2.2
  have mem : last ∈ line :: rest := by rw [← same]; exact List.mem_append_right _ List.mem_cons_self
  have written : last.isEmpty = false := by
    rw [List.isEmpty_eq_false_iff]
    exact (plain last mem).1
  rw [lineChars, split, List.getLast?_concat, List.dropLast_concat, Option.getD_some, written,
    if_neg Bool.false_ne_true, same]

/-! ## The length -/

theorem splitOnce_field {name value : List Char} (plain : ':' ∉ name) :
    splitOnce (name ++ ':' :: value) = some (name, value) := by
  have other : ∀ c ∈ name, (c != ':') = true := fun c mem => bne_iff_ne.2 fun same => plain (same ▸ mem)
  rw [splitOnce, List.dropWhile_append_of_pos other, List.takeWhile_append_of_pos other, List.dropWhile_cons_of_neg (by decide),
    List.takeWhile_cons_of_neg (by decide), List.append_nil]

theorem of_splitOnce {line name value : List Char} (split : splitOnce line = some (name, value)) :
    line = name ++ ':' :: value ∧ ':' ∉ name := by
  have whole := List.takeWhile_append_dropWhile (p := (· != ':')) (l := line)
  rw [splitOnce] at split
  split at split
  · exact absurd split nofun
  · rename_i c rest drop
    obtain ⟨rfl, rfl⟩ := Prod.mk.inj (Option.some.inj split)
    have colon : c = ':' := by
      have stops := List.head_dropWhile_not (fun x : Char => x != ':') (l := line) (by rw [drop]; exact List.cons_ne_nil _ _)
      simp only [drop, List.head_cons] at stops
      exact bne_eq_false_iff_eq.1 stops
    subst colon
    rw [drop] at whole
    refine ⟨whole.symm, fun mem => ?_⟩
    exact absurd (List.mem_takeWhile_imp mem) (by decide)

/-- One more digit, behind those read. -/
def digitStep (acc : Option Nat) (c : Char) : Option Nat :=
  acc.bind fun n => if c.isDigit then some (n * 10 + (c.toNat - 48)) else none

theorem digitStep_none (digits : List Char) : digits.foldl digitStep none = none := by
  induction digits with
  | nil => rfl
  | cons c digits ih => exact ih

theorem digitStep_digits {digits : List Char} {acc n : Nat} (value : digits.foldl digitStep (some acc) = some n) :
    ∀ c ∈ digits, c.isDigit = true := by
  induction digits generalizing acc with
  | nil => exact fun c mem => absurd mem List.not_mem_nil
  | cons c digits ih =>
    rw [List.foldl_cons, digitStep, Option.bind_some] at value
    by_cases digit : c.isDigit = true
    · rw [if_pos digit] at value
      intro d mem
      rcases List.mem_cons.1 mem with rfl | mem
      · exact digit
      · exact ih value d mem
    · rw [if_neg digit, digitStep_none] at value
      exact absurd value nofun

theorem digitsValue_digits {digits : List Char} {n : Nat} (value : digitsValue digits = some n) :
    digits ≠ [] ∧ ∀ c ∈ digits, c.isDigit = true := by
  cases digits with
  | nil => exact absurd value nofun
  | cons c digits => exact ⟨List.cons_ne_nil _ _, digitStep_digits value⟩

/-- The digits are what is left of a value between blanks. -/
theorem trimChars_digits {before digits after : List Char} (blank : ∀ c ∈ before ++ after, c = ' ' ∨ c = '\t')
    (some_ : digits ≠ []) (all : ∀ c ∈ digits, c.isDigit = true) : trimChars (before ++ digits ++ after) = digits := by
  have white : ∀ c ∈ before ++ after, isWhitespace c = true := by
    intro c mem
    rcases blank c mem with rfl | rfl
    · rfl
    · rfl
  have front : ∀ c ∈ before, isWhitespace c = true := fun c mem => white c (List.mem_append_left _ mem)
  have back : ∀ c ∈ after.reverse, isWhitespace c = true :=
    fun c mem => white c (List.mem_append_right _ (List.mem_reverse.1 mem))
  obtain ⟨c, rest, opens⟩ := List.exists_cons_of_ne_nil some_
  obtain ⟨d, init, closes⟩ := List.exists_cons_of_ne_nil (mt List.reverse_eq_nil_iff.1 some_)
  have first : ¬isWhitespace c = true := by
    rw [isWhitespace_digit (all c (by rw [opens]; exact List.mem_cons_self))]
    exact Bool.false_ne_true
  have last : ¬isWhitespace d = true := by
    rw [isWhitespace_digit (all d (List.mem_reverse.1 (by rw [closes]; exact List.mem_cons_self)))]
    exact Bool.false_ne_true
  have left : (before ++ digits ++ after).dropWhile isWhitespace = digits ++ after := by
    rw [List.append_assoc, List.dropWhile_append_of_pos front, opens, List.cons_append, List.dropWhile_cons_of_neg first]
  rw [trimChars, left, List.reverse_append, List.dropWhile_append_of_pos back, closes, List.dropWhile_cons_of_neg last,
    ← closes, List.reverse_reverse]

/-- A number in digits alone is read. -/
theorem parseUsize_digits {digits : List Char} {n : Nat} (value : digitsValue digits = some n) (small : n < 2 ^ 64) :
    parseUsize digits = some n := by
  have unsigned : ∀ rest, digits ≠ '+' :: rest := by
    rintro rest rfl
    exact absurd ((digitsValue_digits value).2 '+' List.mem_cons_self) (by decide)
  rw [parseUsize, value, Option.filter_some, if_pos (decide_eq_true small)]
  exact unsigned

theorem lineContentLength_announced {line : List Char} {length : Nat} (announced : SaysLength line length)
    (small : length < 2 ^ 64) : lineContentLength line = some length := by
  obtain ⟨name, before, digits, after, rfl, plain, same, blank, value⟩ := announced
  obtain ⟨some_, all⟩ := digitsValue_digits value
  rw [lineContentLength, splitOnce_field plain, Option.bind_some]
  dsimp only
  rw [if_pos same, trimChars_digits blank some_ all, parseUsize_digits value small]

theorem namesLength_of_lineContentLength {line : List Char} {length : Nat} (read : lineContentLength line = some length) :
    NamesLength line := by
  obtain ⟨⟨name, value⟩, split, read⟩ := Option.bind_eq_some_iff.1 read
  dsimp only at read
  split at read
  · rename_i same
    obtain ⟨shape, plain⟩ := of_splitOnce split
    exact ⟨name, value, shape, plain, same⟩
  · exact absurd read nofun

theorem contentLength_joinLines (response : HttpResponse) (small : response.length < 2 ^ 64) :
    contentLength (joinLines response.lines) = some response.length := by
  obtain ⟨line, mem, announced⟩ := response.announced
  rw [contentLength, lineChars_joinLines (List.ne_nil_of_mem mem) response.plain]
  cases found : response.lines.findSome? lineContentLength with
  | none =>
    have unread := List.findSome?_eq_none_iff.1 found line mem
    rw [lineContentLength_announced announced small] at unread
    exact absurd unread nofun
  | some length =>
    obtain ⟨other, mem, read⟩ := List.exists_of_findSome?_eq_some found
    have agreed := response.agreed other mem (namesLength_of_lineContentLength read)
    rw [← read, lineContentLength_announced agreed small]

/-! ## The body -/

/-- A well-formed response yields the bytes behind its blank line, as many as it says. -/
theorem parseHttpResponseBody_wellFormed (checks : Bool) {response : Slice} {sent : HttpResponse}
    (arrived : response.bytes = sent.bytes) :
    parseHttpResponseBody checks response = .ok (sent.body.take sent.length) := by
  have fits := response.fits
  have whole := sent.whole
  have size : response.bytes.length = (utf8Bytes (joinLines sent.lines)).length + (4 + sent.body.length) := by
    rw [arrived, HttpResponse.bytes, List.length_append, List.length_append]
    rfl
  have found : findWindow blankLine response.bytes = some (utf8Bytes (joinLines sent.lines)).length := by
    rw [arrived, HttpResponse.bytes, findWindow_joinLines sent.plain]
  have text : fromUtf8 (response.bytes.take (utf8Bytes (joinLines sent.lines)).length) = some (joinLines sent.lines) := by
    rw [arrived, HttpResponse.bytes, List.take_left, fromUtf8_utf8Bytes]
  have body : response.bytes.drop ((utf8Bytes (joinLines sent.lines)).length + 4) = sent.body := by
    rw [arrived, HttpResponse.bytes, ← List.drop_drop, List.drop_left]
    rfl
  rw [parseHttpResponseBody_fits checks found text (contentLength_joinLines sent (by omega)) (by omega), body,
    if_neg (by omega)]

/-- What a well-formed response announces is a `usize`. -/
theorem contentFits_wellFormed {response : Slice} (sent : HttpResponse) (arrived : response.bytes = sent.bytes) :
    ContentFits response := by
  rw [← parseHttpResponseBody_noPanic false, parseHttpResponseBody_wellFormed false arrived]
  exact ⟨nofun, nofun⟩

/-- The bytes are read without a panic, and a well-formed response yields its body. -/
def ReadExactly (checks : Bool) (response : Slice) : Prop :=
  NoPanic (parseHttpResponseBody checks response) ∧
    ∀ sent : HttpResponse, response.bytes = sent.bytes →
      parseHttpResponseBody checks response = .ok (sent.body.take sent.length)

/-- Frames are exact and safe on every byte string; responses are as long as the announced
length, added to the offset of the body, is a `usize`. -/
theorem framing_exact (T : Type) [FrameCodec T] (checks : Bool) :
    (∀ (message : T) payload, FrameCodec.serialize message = .ok payload → payload.length < 2 ^ 32 →
      ∃ frame, encodeFrame message = .ok frame ∧ decodeFrame checks frame = .ok message) ∧
    (∀ frame, NoPanic (decodeFrame (T := T) checks frame)) ∧
    ∀ response, ReadExactly checks response ↔ ContentFits response := by
  refine ⟨?_, decodeFrame_noPanic checks, fun response => ⟨?_, ?_⟩⟩
  · intro message payload written fits
    obtain ⟨frame, encoded, -, decoded⟩ := decodeFrame_encodeFrame checks written fits
    exact ⟨frame, encoded, decoded⟩
  · exact fun exact_ => (parseHttpResponseBody_noPanic checks response).1 exact_.1
  · exact fun fits => ⟨(parseHttpResponseBody_noPanic checks response).2 fits,
      fun sent arrived => parseHttpResponseBody_wellFormed checks arrived⟩

/-- `bool`, as the format writes it. -/
instance : FrameCodec Bool where
  serialize message := .ok [if message then 0xc3 else 0xc2]
  fromSlice
    | 0xc3 :: _ => .ok true
    | 0xc2 :: _ => .ok false
    | _ => .error "invalid type"
  fromSlice_serialize := by
    rintro message payload written
    obtain rfl := Except.ok.inj written
    cases message <;> rfl

theorem saysLength_one : SaysLength "Content-Length: 1".toList 1 :=
  ⟨"Content-Length".toList, [' '], ['1'], [], rfl, by decide, by decide, by simp, by decide⟩

/-- A response with one byte in its body. -/
def sampleResponse : HttpResponse where
  lines := ["HTTP/1.1 200 OK".toList, "Content-Length: 1".toList]
  length := 1
  body := [0xc3]
  plain := by decide
  announced := ⟨_, List.mem_cons_of_mem _ List.mem_cons_self, saysLength_one⟩
  agreed := by
    intro line mem names
    rcases List.mem_cons.1 mem with rfl | mem
    · obtain ⟨name, value, shape, -⟩ := names
      have colon : ':' ∈ "HTTP/1.1 200 OK".toList := by
        rw [shape]
        exact List.mem_append_right _ List.mem_cons_self
      exact absurd colon (by decide)
    · rw [List.mem_singleton.1 mem]
      exact saysLength_one
  whole := by decide

/-- What arrives of the sample. -/
def sampleSlice : Slice where
  bytes := sampleResponse.bytes
  fits := by decide

/-- A frame of one byte is exact, and the sample yields its body. -/
theorem framing_exact_sample :
    (∃ frame, encodeFrame true = .ok frame ∧ decodeFrame false frame = .ok true) ∧
      parseHttpResponseBody false sampleSlice = .ok [0xc3] := by
  obtain ⟨frames, -, responses⟩ := framing_exact Bool false
  have fits : ContentFits sampleSlice := contentFits_wellFormed sampleResponse rfl
  exact ⟨frames true [0xc3] rfl (by decide), ((responses sampleSlice).2 fits).2 sampleResponse rfl⟩

/-- The head of a response that announces `usize::MAX` bytes. -/
def hugeLines : List (List Char) := ["HTTP/1.1 200 OK".toList, "Content-Length: 18446744073709551615".toList]

/-- That head, and no body. -/
def hugeResponse : Slice where
  bytes := utf8Bytes (joinLines hugeLines) ++ (blankLine ++ [])
  fits := by decide

/-- With overflow checks the sum panics, without them the slice does. -/
theorem hugeResponse_panics :
    ¬NoPanic (parseHttpResponseBody true hugeResponse) ∧ ¬NoPanic (parseHttpResponseBody false hugeResponse) := by
  have found : findWindow blankLine hugeResponse.bytes = some (utf8Bytes (joinLines hugeLines)).length :=
    findWindow_joinLines (by decide) []
  have text : fromUtf8 (hugeResponse.bytes.take (utf8Bytes (joinLines hugeLines)).length) = some (joinLines hugeLines) := by
    rw [hugeResponse, List.take_left, fromUtf8_utf8Bytes]
  have announced : contentLength (joinLines hugeLines) = some 18446744073709551615 := by
    rw [contentLength, lineChars_joinLines (by decide) (by decide)]
    decide
  exact ⟨parseHttpResponseBody_panics true found text announced (by decide) (by omega),
    parseHttpResponseBody_panics false found text announced (by decide) (by omega)⟩

end TelemetryHub.Bridge
