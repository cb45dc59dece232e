import Mathlib.Data.List.Basic

/-!
# UTF-8, sequence by sequence

How a strict decoder cuts any bytes up: into the encodings of characters and, between them,
sequences that are not one. Such a sequence is its first byte and the bytes after it that could
still have led to a character; an unexpected byte ends it, or the end of the input.
-/

namespace TelemetryHub.Lib.Utf8

/-- The bytes of a text. -/
def encode (cs : List Char) : List UInt8 := cs.flatMap String.utf8EncodeChar

/-- What a first byte announces: how many bytes follow it, and where the first of them may lie. -/
structure Lead where
  more : Nat
  low : Nat
  high : Nat

def lead (b : UInt8) : Option Lead :=
  let n := b.toNat
  if n < 0x80 then some ⟨0, 0x80, 0xBF⟩
  else if n < 0xC2 then none
  else if n < 0xE0 then some ⟨1, 0x80, 0xBF⟩
  else if n = 0xE0 then some ⟨2, 0xA0, 0xBF⟩
  else if n = 0xED then some ⟨2, 0x80, 0x9F⟩
  else if n < 0xF0 then some ⟨2, 0x80, 0xBF⟩
  else if n = 0xF0 then some ⟨3, 0x90, 0xBF⟩
  else if n < 0xF4 then some ⟨3, 0x80, 0xBF⟩
  else if n = 0xF4 then some ⟨3, 0x80, 0x8F⟩
  else none

/-- As many of the bytes announced as are there: the first lies in the range, the others are
continuation bytes. -/
def tails : Nat → Nat → Nat → List UInt8 → List UInt8
  | 0, _, _, _ => []
  | _ + 1, _, _, [] => []
  | more + 1, low, high, b :: rest =>
    if low ≤ b.toNat ∧ b.toNat ≤ high then b :: tails more 0x80 0xBF rest else []

/-- The scalar value of a whole sequence. -/
def scalar (b : UInt8) : List UInt8 → Nat
  | [] => b.toNat
  | [x] => b.toNat % 0x20 * 64 + x.toNat % 64
  | [x, y] => b.toNat % 0x10 * 4096 + x.toNat % 64 * 64 + y.toNat % 64
  | x :: y :: z :: _ => b.toNat % 8 * 262144 + x.toNat % 64 * 4096 + y.toNat % 64 * 64 + z.toNat % 64

inductive Segment
  | char (c : Char)
  | invalid (first : UInt8) (more : List UInt8)
  | truncated (first : UInt8) (more : List UInt8)
deriving DecidableEq

namespace Segment

def bytes : Segment → List UInt8
  | .char c => String.utf8EncodeChar c
  | .invalid first more | .truncated first more => first :: more

def char? : Segment → Option Char
  | .char c => some c
  | _ => none

end Segment

/-- The sequence that starts with `b`. -/
def next (b : UInt8) (rest : List UInt8) : Segment :=
  match lead b with
  | none => .invalid b []
  | some l =>
    let more := tails l.more l.low l.high rest
    if more.length = l.more then .char (Char.ofNat (scalar b more))
    else if more.length = rest.length then .truncated b more
    else .invalid b more

def segmentsWith : Nat → List UInt8 → List Segment
  | 0, _ => []
  | _ + 1, [] => []
  | fuel + 1, b :: rest =>
    next b rest :: segmentsWith fuel (rest.drop ((next b rest).bytes.length - 1))

/-- The bytes, cut up. -/
def segments (bytes : List UInt8) : List Segment := segmentsWith bytes.length bytes

/-- The characters left when every sequence that is not one is removed. -/
def characters (segs : List Segment) : List Char := segs.filterMap Segment.char?

/-- The bytes of some sequences, one after another. -/
def joined (segs : List Segment) : List UInt8 := segs.flatMap Segment.bytes

@[simp] theorem joined_nil : joined [] = [] := rfl

@[simp] theorem joined_cons (segment : Segment) (segs : List Segment) : joined (segment :: segs) = segment.bytes ++ joined segs := rfl

theorem joined_append (front back : List Segment) : joined (front ++ back) = joined front ++ joined back := List.flatMap_append

@[simp] theorem encode_cons (c : Char) (cs : List Char) : encode (c :: cs) = String.utf8EncodeChar c ++ encode cs := rfl

theorem characters_cons (segment : Segment) (segs : List Segment) :
    characters (segment :: segs) = segment.char?.toList ++ characters segs := by
  cases same : segment.char? <;> simp [characters, same]

theorem characters_append (front back : List Segment) : characters (front ++ back) = characters front ++ characters back :=
  List.filterMap_append

/-! ## The bytes after the first -/

/-- The first in a range, the others continuation bytes. -/
def Ranged : Nat → Nat → List UInt8 → Prop
  | _, _, [] => True
  | low, high, b :: rest => low ≤ b.toNat ∧ b.toNat ≤ high ∧ Ranged 0x80 0xBF rest

section

variable {more low high : Nat} {bytes : List UInt8}

theorem tails_front : tails more low high bytes <+: bytes := by
  fun_induction tails more low high bytes with
  | case1 => exact List.nil_prefix
  | case2 => exact List.nil_prefix
  | case3 more low high b rest within ih => exact List.cons_prefix_cons.mpr ⟨rfl, ih⟩
  | case4 => exact List.nil_prefix

theorem tails_length : (tails more low high bytes).length ≤ more := by
  fun_induction tails more low high bytes with
  | case3 more low high b rest within ih => simpa using ih
  | _ => simp

theorem tails_ranged : Ranged low high (tails more low high bytes) := by
  fun_induction tails more low high bytes with
  | case3 more low high b rest within ih => exact ⟨within.1, within.2, ih⟩
  | _ => trivial

/-- Bytes in range are all taken. -/
theorem tails_of_ranged {taken rest : List UInt8} (ranged : Ranged low high taken) :
    tails taken.length low high (taken ++ rest) = taken := by
  induction taken generalizing low high with
  | nil => rfl
  | cons b taken ih =>
    obtain ⟨least, most, ranged⟩ := ranged
    simp only [List.length_cons, List.cons_append, tails, least, most, and_self, if_true, ih ranged]

/-- What is taken does not hang on what follows it. -/
theorem tails_append {rest : List UInt8} {taken : List UInt8} (same : tails more low high (taken ++ bytes ++ rest) = taken) :
    tails more low high (taken ++ bytes) = taken := by
  induction taken generalizing more low high with
  | nil =>
    rcases more with _ | more
    · rfl
    · rcases bytes with _ | ⟨b, bytes⟩
      · rfl
      · simp only [List.nil_append, List.cons_append, tails] at same ⊢
        split at same
        · cases same
        · rename_i out
          rw [if_neg out]
  | cons b taken ih =>
    rcases more with _ | more
    · cases same
    · simp only [List.cons_append, tails] at same ⊢
      split at same
      · rename_i within
        rw [if_pos within, ih (List.cons.inj same).2]
      · cases same

end

/-! ## Characters and their bytes -/

theorem utf8EncodeChar_ofNat {n : Nat} (valid : n.isValidChar) :
    String.utf8EncodeChar (Char.ofNat n) =
      if n ≤ 0x7F then [UInt8.ofNat n]
      else if n ≤ 0x7FF then [UInt8.ofNat (n / 64 % 0x20 + 0xC0), UInt8.ofNat (n % 0x40 + 0x80)]
      else if n ≤ 0xFFFF then
        [UInt8.ofNat (n / 4096 % 0x10 + 0xE0), UInt8.ofNat (n / 64 % 0x40 + 0x80), UInt8.ofNat (n % 0x40 + 0x80)]
      else
        [UInt8.ofNat (n / 262144 % 0x08 + 0xF0), UInt8.ofNat (n / 4096 % 0x40 + 0x80), UInt8.ofNat (n / 64 % 0x40 + 0x80),
          UInt8.ofNat (n % 0x40 + 0x80)] := by
  have same : (Char.ofNat n).val.toNat = n := by
    rw [Char.ofNat, dif_pos valid]
    rfl
  simp only [String.utf8EncodeChar, same]

section

variable {b x y z : UInt8}

theorem encode_one (first : b.toNat < 0x80) : String.utf8EncodeChar (Char.ofNat b.toNat) = [b] := by
  rw [utf8EncodeChar_ofNat (by simp only [Nat.isValidChar]; omega), if_pos (by omega)]
  simp

theorem encode_two (first : 0xC2 ≤ b.toNat ∧ b.toNat < 0xE0) (second : 0x80 ≤ x.toNat ∧ x.toNat ≤ 0xBF) :
    String.utf8EncodeChar (Char.ofNat (b.toNat % 0x20 * 64 + x.toNat % 64)) = [b, x] := by
  rw [utf8EncodeChar_ofNat (by simp only [Nat.isValidChar]; omega), if_neg (by omega), if_pos (by omega)]
  simp only [List.cons.injEq, and_true, ← UInt8.toNat_inj, UInt8.toNat_ofNat']
  omega

theorem encode_three (first : 0xE0 ≤ b.toNat ∧ b.toNat < 0xF0) (second : 0x80 ≤ x.toNat ∧ x.toNat ≤ 0xBF)
    (third : 0x80 ≤ y.toNat ∧ y.toNat ≤ 0xBF) (long : b.toNat = 0xE0 → 0xA0 ≤ x.toNat)
    (unpaired : b.toNat = 0xED → x.toNat ≤ 0x9F) :
    String.utf8EncodeChar (Char.ofNat (b.toNat % 0x10 * 4096 + x.toNat % 64 * 64 + y.toNat % 64)) = [b, x, y] := by
  rw [utf8EncodeChar_ofNat (by simp only [Nat.isValidChar]; omega), if_neg (by omega), if_neg (by omega), if_pos (by omega)]
  simp only [List.cons.injEq, and_true, ← UInt8.toNat_inj, UInt8.toNat_ofNat']
  omega

theorem encode_four (first : 0xF0 ≤ b.toNat ∧ b.toNat ≤ 0xF4) (second : 0x80 ≤ x.toNat ∧ x.toNat ≤ 0xBF)
    (third : 0x80 ≤ y.toNat ∧ y.toNat ≤ 0xBF) (fourth : 0x80 ≤ z.toNat ∧ z.toNat ≤ 0xBF)
    (long : b.toNat = 0xF0 → 0x90 ≤ x.toNat) (known : b.toNat = 0xF4 → x.toNat ≤ 0x8F) :
    String.utf8EncodeChar (Char.ofNat (b.toNat % 8 * 262144 + x.toNat % 64 * 4096 + y.toNat % 64 * 64 + z.toNat % 64)) =
      [b, x, y, z] := by
  rw [utf8EncodeChar_ofNat (by simp only [Nat.isValidChar]; omega), if_neg (by omega), if_neg (by omega), if_neg (by omega)]
  simp only [List.cons.injEq, and_true, ← UInt8.toNat_inj, UInt8.toNat_ofNat']
  omega

end

/-- What a first byte announces, by how many bytes follow. -/
theorem lead_cases {b : UInt8} {l : Lead} (leads : lead b = some l) :
    (l.more = 0 ∧ b.toNat < 0x80) ∨
    (l.more = 1 ∧ l.low = 0x80 ∧ l.high = 0xBF ∧ 0xC2 ≤ b.toNat ∧ b.toNat < 0xE0) ∨
    (l.more = 2 ∧ 0x80 ≤ l.low ∧ l.high ≤ 0xBF ∧ 0xE0 ≤ b.toNat ∧ b.toNat < 0xF0 ∧
      (b.toNat = 0xE0 → l.low = 0xA0) ∧ (b.toNat = 0xED → l.high = 0x9F)) ∨
    (l.more = 3 ∧ 0x80 ≤ l.low ∧ l.high ≤ 0xBF ∧ 0xF0 ≤ b.toNat ∧ b.toNat ≤ 0xF4 ∧
      (b.toNat = 0xF0 → l.low = 0x90) ∧ (b.toNat = 0xF4 → l.high = 0x8F)) := by
  simp only [lead] at leads
  split_ifs at leads <;> cases leads <;> simp <;> omega

theorem lead_range {b : UInt8} {l : Lead} (leads : lead b = some l) (some_more : l.more ≠ 0) : 0x80 ≤ l.low ∧ l.high ≤ 0xBF := by
  rcases lead_cases leads with h | h | h | h <;> omega

/-- A whole sequence is the encoding of its character. -/
theorem encode_scalar {b : UInt8} {l : Lead} {more : List UInt8} (leads : lead b = some l) (ranged : Ranged l.low l.high more)
    (whole : more.length = l.more) : String.utf8EncodeChar (Char.ofNat (scalar b more)) = b :: more := by
  rcases lead_cases leads with ⟨announced, first⟩ | ⟨announced, low, high, first⟩ | ⟨announced, low, high, least, most, long, top⟩ |
    ⟨announced, low, high, least, most, long, top⟩
  · obtain rfl : more = [] := List.length_eq_zero_iff.mp (by omega)
    exact encode_one first
  · obtain ⟨x, rfl⟩ := List.length_eq_one_iff.mp (whole.trans announced)
    simp only [Ranged] at ranged
    exact encode_two first (by omega)
  · obtain ⟨x, y, rfl⟩ := List.length_eq_two.mp (whole.trans announced)
    simp only [Ranged] at ranged
    exact encode_three ⟨least, most⟩ (by omega) (by omega) (by omega) (by omega)
  · obtain ⟨x, y, z, rfl⟩ := List.length_eq_three.mp (whole.trans announced)
    simp only [Ranged] at ranged
    exact encode_four ⟨least, most⟩ (by omega) (by omega) (by omega) (by omega) (by omega)

section

variable {b x : UInt8}

theorem lead_one (first : b.toNat < 0x80) : lead b = some ⟨0, 0x80, 0xBF⟩ := by
  simp only [lead]
  rw [if_pos first]

theorem lead_two (first : 0xC2 ≤ b.toNat ∧ b.toNat < 0xE0) : lead b = some ⟨1, 0x80, 0xBF⟩ := by
  simp only [lead]
  rw [if_neg (by omega), if_neg (by omega), if_pos (by omega)]

theorem lead_three (first : 0xE0 ≤ b.toNat ∧ b.toNat < 0xF0) (second : 0x80 ≤ x.toNat ∧ x.toNat ≤ 0xBF)
    (long : b.toNat = 0xE0 → 0xA0 ≤ x.toNat) (unpaired : b.toNat = 0xED → x.toNat ≤ 0x9F) :
    ∃ l, lead b = some l ∧ l.more = 2 ∧ l.low ≤ x.toNat ∧ x.toNat ≤ l.high := by
  simp only [lead]
  rw [if_neg (by omega), if_neg (by omega), if_neg (by omega)]
  by_cases lowest : b.toNat = 0xE0
  · rw [if_pos lowest]
    exact ⟨_, rfl, rfl, long lowest, second.2⟩
  · rw [if_neg lowest]
    by_cases surrogate : b.toNat = 0xED
    · rw [if_pos surrogate]
      exact ⟨_, rfl, rfl, second.1, unpaired surrogate⟩
    · rw [if_neg surrogate, if_pos (by omega)]
      exact ⟨_, rfl, rfl, second⟩

theorem lead_four (first : 0xF0 ≤ b.toNat ∧ b.toNat ≤ 0xF4) (second : 0x80 ≤ x.toNat ∧ x.toNat ≤ 0xBF)
    (long : b.toNat = 0xF0 → 0x90 ≤ x.toNat) (known : b.toNat = 0xF4 → x.toNat ≤ 0x8F) :
    ∃ l, lead b = some l ∧ l.more = 3 ∧ l.low ≤ x.toNat ∧ x.toNat ≤ l.high := by
  simp only [lead]
  rw [if_neg (by omega), if_neg (by omega), if_neg (by omega), if_neg (by omega), if_neg (by omega), if_neg (by omega)]
  by_cases lowest : b.toNat = 0xF0
  · rw [if_pos lowest]
    exact ⟨_, rfl, rfl, long lowest, second.2⟩
  · rw [if_neg lowest]
    by_cases highest : b.toNat = 0xF4
    · rw [if_neg (by omega), if_pos highest]
      exact ⟨_, rfl, rfl, second.1, known highest⟩
    · rw [if_pos (by omega)]
      exact ⟨_, rfl, rfl, second⟩

end

/-- The encoding of a character begins with a byte that announces the others. -/
theorem encoded (c : Char) : ∃ b l more, String.utf8EncodeChar c = b :: more ∧ lead b = some l ∧ Ranged l.low l.high more ∧
    more.length = l.more := by
  have valid : c.val.toNat.isValidChar := c.valid
  simp only [Nat.isValidChar] at valid
  simp only [String.utf8EncodeChar]
  split_ifs with one two three
  · exact ⟨_, _, [], rfl, lead_one (by simp only [UInt8.toNat_ofNat']; omega), trivial, rfl⟩
  · refine ⟨_, _, [_], rfl, lead_two (by simp only [UInt8.toNat_ofNat']; omega), ?_, rfl⟩
    simp only [Ranged, UInt8.toNat_ofNat', and_true]
    omega
  · obtain ⟨l, leads, announced, within⟩ := lead_three (b := UInt8.ofNat (c.val.toNat / 4096 % 0x10 + 0xE0))
      (x := UInt8.ofNat (c.val.toNat / 64 % 0x40 + 0x80)) (by simp only [UInt8.toNat_ofNat']; omega)
      (by simp only [UInt8.toNat_ofNat']; omega) (by simp only [UInt8.toNat_ofNat']; omega)
      (by simp only [UInt8.toNat_ofNat']; omega)
    refine ⟨_, l, [_, _], rfl, leads, ⟨within.1, within.2, ?_⟩, announced.symm⟩
    simp only [Ranged, UInt8.toNat_ofNat', and_true]
    omega
  · obtain ⟨l, leads, announced, within⟩ := lead_four (b := UInt8.ofNat (c.val.toNat / 262144 % 0x08 + 0xF0))
      (x := UInt8.ofNat (c.val.toNat / 4096 % 0x40 + 0x80)) (by simp only [UInt8.toNat_ofNat']; omega)
      (by simp only [UInt8.toNat_ofNat']; omega) (by simp only [UInt8.toNat_ofNat']; omega)
      (by simp only [UInt8.toNat_ofNat']; omega)
    refine ⟨_, l, [_, _, _], rfl, leads, ⟨within.1, within.2, ?_⟩, announced.symm⟩
    simp only [Ranged, UInt8.toNat_ofNat', and_true]
    omega

theorem utf8EncodeChar_inj {c d : Char} (same : String.utf8EncodeChar c = String.utf8EncodeChar d) : c = d := by
  have texts : String.ofList [c] = String.ofList [d] := by
    rw [← String.toByteArray_inj, String.toByteArray_ofList, String.toByteArray_ofList]
    simp [List.utf8Encode, same]
  simpa using congrArg String.toList texts

/-! ## One sequence -/

section

variable {b : UInt8} {rest : List UInt8} {l : Lead}

theorem next_of_none (unled : lead b = none) : next b rest = .invalid b [] := by simp [next, unled]

theorem next_char (leads : lead b = some l) (whole : (tails l.more l.low l.high rest).length = l.more) :
    next b rest = .char (Char.ofNat (scalar b (tails l.more l.low l.high rest))) := by simp [next, leads, whole]

theorem next_truncated (leads : lead b = some l) (part : (tails l.more l.low l.high rest).length ≠ l.more)
    (ended : (tails l.more l.low l.high rest).length = rest.length) :
    next b rest = .truncated b (tails l.more l.low l.high rest) := by
  simp only [next, leads]
  rw [if_neg part, if_pos ended]

theorem next_invalid (leads : lead b = some l) (part : (tails l.more l.low l.high rest).length ≠ l.more)
    (goes_on : (tails l.more l.low l.high rest).length ≠ rest.length) :
    next b rest = .invalid b (tails l.more l.low l.high rest) := by
  simp only [next, leads]
  rw [if_neg part, if_neg goes_on]

theorem bytes_next_of_some (leads : lead b = some l) : (next b rest).bytes = b :: tails l.more l.low l.high rest := by
  by_cases whole : (tails l.more l.low l.high rest).length = l.more
  · rw [next_char leads whole]
    exact encode_scalar leads tails_ranged whole
  · by_cases ended : (tails l.more l.low l.high rest).length = rest.length
    · rw [next_truncated leads whole ended, Segment.bytes]
    · rw [next_invalid leads whole ended, Segment.bytes]

/-- A sequence is the first of the bytes it was cut from. -/
theorem next_front (b : UInt8) (rest : List UInt8) : ∃ more, (next b rest).bytes = b :: more ∧ more <+: rest := by
  cases leads : lead b with
  | none => exact ⟨[], by rw [next_of_none leads, Segment.bytes], List.nil_prefix⟩
  | some l => exact ⟨_, bytes_next_of_some leads, tails_front⟩

/-- The encoding of a character is cut off as that character. -/
theorem next_encoded (c : Char) : ∃ b more, String.utf8EncodeChar c = b :: more ∧ ∀ rest, next b (more ++ rest) = .char c := by
  obtain ⟨b, l, more, bytes, leads, ranged, whole⟩ := encoded c
  refine ⟨b, more, bytes, ?_⟩
  intro rest
  have taken : tails l.more l.low l.high (more ++ rest) = more := whole ▸ tails_of_ranged ranged
  rw [next_char leads (by rw [taken, whole]), taken]
  exact congrArg Segment.char (utf8EncodeChar_inj ((encode_scalar leads ranged whole).trans bytes.symm))

end

/-! ## Cutting up -/

theorem segmentsWith_enough {fuel fuel' : Nat} {bytes : List UInt8} (enough : bytes.length ≤ fuel) (enough' : bytes.length ≤ fuel') :
    segmentsWith fuel bytes = segmentsWith fuel' bytes := by
  induction fuel generalizing fuel' bytes with
  | zero =>
    obtain rfl : bytes = [] := List.length_eq_zero_iff.mp (by omega)
    cases fuel' <;> rfl
  | succ fuel ih =>
    rcases bytes with _ | ⟨b, rest⟩
    · cases fuel' <;> rfl
    · rcases fuel' with _ | fuel'
      · simp at enough'
      · simp only [List.length_cons] at enough enough'
        have shorter := List.length_drop (i := (next b rest).bytes.length - 1) (l := rest)
        simp only [segmentsWith]
        rw [ih (by omega) (by omega : _ ≤ fuel')]

@[simp] theorem segments_nil : segments [] = [] := rfl

/-- The first sequence is cut off, and then the rest. -/
theorem segments_cons {b : UInt8} {more rest : List UInt8} (first : (next b (more ++ rest)).bytes = b :: more) :
    segments (b :: (more ++ rest)) = next b (more ++ rest) :: segments rest := by
  simp only [segments, List.length_cons, segmentsWith, first, Nat.add_sub_cancel, List.drop_left]
  rw [segmentsWith_enough (by simp) (Nat.le_refl rest.length)]

/-- Bytes are nothing, or a first sequence and the rest. -/
theorem segments_cases (bytes : List UInt8) :
    bytes = [] ∨ ∃ b more rest, bytes = b :: (more ++ rest) ∧ (next b (more ++ rest)).bytes = b :: more ∧
      segments bytes = next b (more ++ rest) :: segments rest := by
  rcases bytes with _ | ⟨b, rest⟩
  · exact .inl rfl
  · obtain ⟨more, first, rest, rfl⟩ := next_front b rest
    exact .inr ⟨b, more, rest, rfl, first, segments_cons first⟩

@[elab_as_elim]
theorem segments_induction {P : List UInt8 → Prop} (nil : P [])
    (cons : ∀ b more rest, (next b (more ++ rest)).bytes = b :: more →
      segments (b :: (more ++ rest)) = next b (more ++ rest) :: segments rest → P rest → P (b :: (more ++ rest)))
    (bytes : List UInt8) : P bytes := by
  induction size : bytes.length using Nat.strongRecOn generalizing bytes with
  | ind n ih =>
    rcases segments_cases bytes with rfl | ⟨b, more, rest, rfl, first, cut⟩
    · exact nil
    · apply cons b more rest first cut
      apply ih rest.length _ rest rfl
      simp only [List.length_cons, List.length_append] at size
      omega

/-- No byte is lost. -/
theorem joined_segments (bytes : List UInt8) : joined (segments bytes) = bytes := by
  induction bytes using segments_induction with
  | nil => rfl
  | cons b more rest first cut ih =>
    rw [cut, joined_cons, first, ih, List.cons_append]

/-- Between two sequences the bytes may be parted, and what follows is cut up as before. -/
theorem segments_split {bytes : List UInt8} {front back : List Segment} (cut : segments bytes = front ++ back) :
    ∃ rest, bytes = joined front ++ rest ∧ segments rest = back := by
  induction front generalizing bytes with
  | nil => exact ⟨bytes, rfl, cut⟩
  | cons segment front ih =>
    rcases segments_cases bytes with rfl | ⟨b, more, rest, rfl, first, found⟩
    · cases cut
    · rw [found] at cut
      obtain ⟨rfl, later⟩ := List.cons.inj cut
      obtain ⟨rest, rfl, same⟩ := ih later
      exact ⟨rest, by simp [first], same⟩

theorem segments_encode (cs : List Char) (rest : List UInt8) :
    segments (encode cs ++ rest) = cs.map Segment.char ++ segments rest := by
  induction cs with
  | nil => rfl
  | cons c cs ih =>
    obtain ⟨b, more, bytes, first⟩ := next_encoded c
    have here := first (encode cs ++ rest)
    rw [encode_cons, bytes, List.cons_append, List.cons_append, List.append_assoc,
      segments_cons (by rw [here, Segment.bytes, bytes]), here, ih, List.map_cons, List.cons_append]

@[simp] theorem characters_chars (cs : List Char) : characters (cs.map Segment.char) = cs := by
  rw [characters, List.filterMap_map]
  simp [Function.comp_def, Segment.char?]

theorem joined_chars (cs : List Char) : joined (cs.map Segment.char) = encode cs := by
  rw [joined, encode, List.flatMap_map]
  rfl

theorem encode_characters (segs : List Segment) : encode (characters segs) = joined (segs.filter fun segment => segment.char?.isSome) := by
  induction segs with
  | nil => rfl
  | cons segment segs ih =>
    cases segment with
    | char c => simpa [characters_cons, Segment.char?, Segment.bytes] using ih
    | invalid first more => simpa [characters_cons, Segment.char?] using ih
    | truncated first more => simpa [characters_cons, Segment.char?] using ih

/-! ## Where the input ends -/

theorem Ranged.continuations {low high : Nat} {more : List UInt8} (ranged : Ranged low high more) (least : 0x80 ≤ low)
    (most : high ≤ 0xBF) : ∀ x ∈ more, 0x80 ≤ x.toNat ∧ x.toNat ≤ 0xBF := by
  induction more generalizing low high with
  | nil => simp
  | cons b more ih =>
    obtain ⟨above, below, ranged⟩ := ranged
    simp only [List.mem_cons, forall_eq_or_imp]
    exact ⟨by omega, ih ranged (Nat.le_refl _) (Nat.le_refl _)⟩

/-- A sequence the end of the input cuts short is the last, and goes on with continuation bytes. -/
theorem next_eq_truncated {b b' : UInt8} {rest more : List UInt8} (short : next b rest = .truncated b' more) :
    rest = more ∧ ∀ x ∈ more, 0x80 ≤ x.toNat ∧ x.toNat ≤ 0xBF := by
  cases leads : lead b with
  | none => simp [next_of_none leads] at short
  | some l =>
    by_cases whole : (tails l.more l.low l.high rest).length = l.more
    · simp [next_char leads whole] at short
    · by_cases ended : (tails l.more l.low l.high rest).length = rest.length
      · rw [next_truncated leads whole ended] at short
        obtain ⟨rfl, rfl⟩ := Segment.truncated.inj short
        have some_more : l.more ≠ 0 := fun none => whole (by simp [none, tails])
        obtain ⟨least, most⟩ := lead_range leads some_more
        exact ⟨(tails_front.eq_of_length ended).symm, tails_ranged.continuations least most⟩
      · simp [next_invalid leads whole ended] at short

/-- A sequence cut short ends the bytes. -/
theorem segments_truncated {bytes more : List UInt8} {first : UInt8} {later : List Segment}
    (cut : segments bytes = .truncated first more :: later) :
    bytes = first :: more ∧ later = [] ∧ ∀ x ∈ more, 0x80 ≤ x.toNat ∧ x.toNat ≤ 0xBF := by
  rcases segments_cases bytes with rfl | ⟨b, more', rest, rfl, bytes_first, found⟩
  · cases cut
  · rw [found] at cut
    obtain ⟨short, rfl⟩ := List.cons.inj cut
    obtain ⟨all, continuations⟩ := next_eq_truncated short
    rw [short] at bytes_first
    obtain ⟨rfl, rfl⟩ := List.cons.inj bytes_first
    obtain rfl : rest = [] := by simpa using all
    exact ⟨by rw [List.append_nil], rfl, continuations⟩

/-- Continuation bytes alone hold no character. -/
theorem characters_continuations {bytes : List UInt8} (all : ∀ x ∈ bytes, 0x80 ≤ x.toNat ∧ x.toNat ≤ 0xBF) :
    characters (segments bytes) = [] := by
  induction bytes with
  | nil => rfl
  | cons b rest ih =>
    have here := all b List.mem_cons_self
    have unled : lead b = none := by
      simp only [lead]
      rw [if_neg (by omega), if_pos (by omega)]
    have first : next b ([] ++ rest) = .invalid b [] := next_of_none unled
    have cut : segments (b :: ([] ++ rest)) = next b ([] ++ rest) :: segments rest := segments_cons (by rw [first, Segment.bytes])
    rw [List.nil_append] at cut first
    rw [cut, first]
    exact ih fun x member => all x (List.mem_cons_of_mem b member)

/-- The sequence at the front is the same, or as little a character, when the input ends earlier
but not within it. -/
theorem next_append {b : UInt8} {more front back : List UInt8} (first : (next b (more ++ front ++ back)).bytes = b :: more) :
    (next b (more ++ front)).bytes = b :: more ∧ (next b (more ++ front)).char? = (next b (more ++ front ++ back)).char? := by
  cases leads : lead b with
  | none =>
    rw [next_of_none leads] at first ⊢
    exact ⟨first, by rw [next_of_none leads]⟩
  | some l =>
    have taken : tails l.more l.low l.high (more ++ front ++ back) = more := by
      rw [bytes_next_of_some leads] at first
      exact (List.cons.inj first).2
    have taken' := tails_append taken
    refine ⟨by rw [bytes_next_of_some leads, taken'], ?_⟩
    by_cases whole : more.length = l.more
    · rw [next_char leads (by rw [taken', whole]), next_char leads (by rw [taken, whole]), taken, taken']
    · have none_here (rest : List UInt8) (taken : tails l.more l.low l.high rest = more) : (next b rest).char? = none := by
        by_cases ended : more.length = rest.length
        · rw [next_truncated leads (by rwa [taken]) (by rwa [taken]), Segment.char?]
          simp
        · rw [next_invalid leads (by rwa [taken]) (by rwa [taken]), Segment.char?]
          simp
      rw [none_here _ taken', none_here _ taken]

/-- The characters before the end of a sequence do not hang on what comes after. -/
theorem characters_front {segs : List Segment} {back : List UInt8}
    (cut : segments (joined segs ++ back) = segs ++ segments back) : characters (segments (joined segs)) = characters segs := by
  induction segs with
  | nil => rfl
  | cons segment segs ih =>
    rcases segments_cases (joined (segment :: segs) ++ back) with none | ⟨b, more, rest, same, first, found⟩
    · rw [none] at cut
      cases cut
    · rw [found] at cut
      obtain ⟨rfl, later⟩ := List.cons.inj cut
      rw [joined_cons, first, List.cons_append, List.cons_append, List.append_assoc] at same
      obtain rfl := List.append_cancel_left (List.cons.inj same).2
      rw [← List.append_assoc] at first
      obtain ⟨first', like⟩ := next_append first
      rw [joined_cons, ← List.append_assoc, first, List.cons_append, segments_cons first', characters_cons, characters_cons,
        like, ih later]

end TelemetryHub.Lib.Utf8
