import Mathlib.Algebra.Group.Int.Defs
import Mathlib.Data.String.Basic
import Mathlib.Data.List.Basic

/-!
# Text

The operations of Rust's `str` the hub uses, over Lean strings (both are
sequences of Unicode scalar values), and `Uuid::parse_str`.
-/

namespace TelemetryHub

/-- `char::is_whitespace`: the Unicode White_Space property. -/
def isWhitespace (c : Char) : Bool :=
  let n := c.toNat
  (9 ≤ n && n ≤ 13) || n == 32 || n == 0x85 || n == 0xA0 || n == 0x1680 ||
    (0x2000 ≤ n && n ≤ 0x200A) || n == 0x2028 || n == 0x2029 || n == 0x202F || n == 0x205F ||
    n == 0x3000

theorem isWhitespace_digit {c : Char} (digit : c.isDigit = true) : isWhitespace c = false := by
  have range : 48 ≤ c.toNat ∧ c.toNat ≤ 57 := by
    simp only [Char.isDigit, Bool.and_eq_true, decide_eq_true_eq, ge_iff_le, UInt32.le_iff_toNat_le] at digit
    exact digit
  simp only [isWhitespace, Bool.or_eq_false_iff, Bool.and_eq_false_iff, decide_eq_false_iff_not, beq_eq_false_iff_ne]
  omega

/-- `str::trim` on the characters. -/
def trimChars (cs : List Char) : List Char :=
  ((cs.dropWhile isWhitespace).reverse.dropWhile isWhitespace).reverse

/-- `str::trim`. -/
def trim (s : String) : String := String.ofList (trimChars s.toList)

/-- `char::to_ascii_lowercase`. -/
def asciiLower (c : Char) : Char :=
  if 'A' ≤ c ∧ c ≤ 'Z' then Char.ofNat (c.toNat + 32) else c

/-- `char::to_ascii_uppercase`. -/
def asciiUpper (c : Char) : Char :=
  if 'a' ≤ c ∧ c ≤ 'z' then Char.ofNat (c.toNat - 32) else c

/-- `str::to_ascii_lowercase`. -/
def toAsciiLowercase (s : String) : String := String.ofList (s.toList.map asciiLower)

/-- `str::to_ascii_uppercase`. -/
def toAsciiUppercase (s : String) : String := String.ofList (s.toList.map asciiUpper)

/-- `str::eq_ignore_ascii_case`. -/
def eqIgnoreAsciiCase (s t : String) : Bool := toAsciiLowercase s == toAsciiLowercase t

/-- `char::to_lowercase`, as far as its result holds an ASCII character: besides
the ASCII capitals these are the Kelvin sign and the dotted capital I. Every
other character is mapped to itself; its lowercase form has no ASCII character
in it either, and the one caller keeps only ASCII. -/
def charToLowercase (c : Char) : List Char :=
  if c.toNat == 0x212A then ['k']
  else if c.toNat == 0x130 then ['i', Char.ofNat 0x307]
  else [asciiLower c]

/-- `str::to_lowercase`, under the proviso of `charToLowercase`. -/
def toLowercase (s : String) : String := String.ofList (s.toList.flatMap charToLowercase)

/-- `str::split` on one character. -/
def splitChars (sep : Char) : List Char → List (List Char)
  | [] => [[]]
  | c :: cs =>
    if c = sep then [] :: splitChars sep cs
    else match splitChars sep cs with
      | [] => [[c]]
      | part :: parts => (c :: part) :: parts

theorem splitChars_ne_nil (sep : Char) (cs : List Char) : splitChars sep cs ≠ [] := by
  cases cs with
  | nil => exact List.cons_ne_nil _ _
  | cons c cs =>
    rw [splitChars]
    split
    · exact List.cons_ne_nil _ _
    · split
      · exact List.cons_ne_nil _ _
      · exact List.cons_ne_nil _ _

theorem splitChars_append {sep : Char} {front : List Char} (none : sep ∉ front) (cs : List Char) :
    splitChars sep (front ++ cs) =
      match splitChars sep cs with
      | [] => [front]
      | part :: parts => (front ++ part) :: parts := by
  induction front with
  | nil =>
    cases split : splitChars sep cs with
    | nil => exact absurd split (splitChars_ne_nil sep cs)
    | cons part parts => exact split
  | cons c front ih =>
    have other : c ≠ sep := fun same => none (by rw [same]; exact List.mem_cons_self)
    rw [List.cons_append, splitChars, if_neg other, ih fun mem => none (List.mem_cons_of_mem _ mem)]
    cases splitChars sep cs with
    | nil => rfl
    | cons part parts => rfl

theorem splitChars_whole {sep : Char} {cs : List Char} (none : sep ∉ cs) : splitChars sep cs = [cs] := by
  have split := splitChars_append none []
  rw [List.append_nil] at split
  rw [split, splitChars]
  exact congrArg (· :: []) (List.append_nil cs)

theorem splitChars_sep {sep : Char} {front : List Char} (none : sep ∉ front) (cs : List Char) :
    splitChars sep (front ++ sep :: cs) = front :: splitChars sep cs := by
  rw [splitChars_append none, splitChars, if_pos rfl]
  exact congrArg (· :: splitChars sep cs) (List.append_nil front)

/-- `str::split(sep)`. -/
def splitOnChar (sep : Char) (s : String) : List String :=
  (splitChars sep s.toList).map String.ofList

/-- `[..].join(sep)`. -/
def joinWith (sep : String) : List String → String
  | [] => ""
  | [s] => s
  | s :: rest => s ++ sep ++ joinWith sep rest

/-- `str::starts_with`. -/
def startsWith (s pre : String) : Bool := pre.toList.isPrefixOf s.toList

theorem startsWith_ofList (s pre : List Char) :
    startsWith (String.ofList s) (String.ofList pre) = pre.isPrefixOf s := by
  rw [startsWith, String.toList_ofList, String.toList_ofList]

/-- `i64` arithmetic in a release build: two's complement. -/
def i64 (x : Int) : Int := Int.bmod x (2 ^ 64)

/-- The range of `i64`. -/
def inI64 (x : Int) : Bool := -(2 ^ 63) ≤ x && x < 2 ^ 63

/-- The value of a run of decimal digits. -/
def digitsValue : List Char → Option Nat
  | [] => none
  | cs => cs.foldl (fun acc c => acc.bind fun n =>
      if c.isDigit then some (n * 10 + (c.toNat - 48)) else none) (some 0)

/-- `str::parse::<i64>`. -/
def parseI64 (s : String) : Option Int :=
  let value : Option Int :=
    match s.toList with
    | '-' :: ds => (digitsValue ds).map fun n => -(n : Int)
    | '+' :: ds => (digitsValue ds).map fun n => (n : Int)
    | ds => (digitsValue ds).map fun n => (n : Int)
  value.filter inI64

/-- A lowercase hexadecimal digit. -/
def isLowerHex (c : Char) : Bool := ('0' ≤ c && c ≤ '9') || ('a' ≤ c && c ≤ 'f')

/-- `u8::is_ascii_hexdigit`. -/
def isAsciiHexdigit (c : Char) : Bool := isLowerHex c || ('A' ≤ c && c ≤ 'F')

/-- Where the letters and the digits are. -/
theorem isAlphanum_iff {c : Char} : c.isAlphanum = true ↔
    (65 ≤ c.toNat ∧ c.toNat ≤ 90 ∨ 97 ≤ c.toNat ∧ c.toNat ≤ 122) ∨ 48 ≤ c.toNat ∧ c.toNat ≤ 57 := by
  change ((decide (65 ≤ c.val ∧ c.val ≤ 90) || (decide (97 ≤ c.val) && decide (c.val ≤ 122))) ||
    (decide (48 ≤ c.val) && decide (c.val ≤ 57))) = true ↔ _
  simp only [Bool.or_eq_true, Bool.and_eq_true, decide_eq_true_eq]
  rfl

/-- A UUID, by its 32 digits. -/
structure Uuid where
  digits : List Char
  length_eq : digits.length = 32
  hex : ∀ c ∈ digits, isLowerHex c
  deriving DecidableEq

/-- `Uuid::simple().to_string()`. -/
def Uuid.simple (u : Uuid) : String := String.ofList u.digits

/-- The hexadecimal digit of a number below sixteen. -/
def hexDigit (n : Fin 16) : Char :=
  if n.val < 10 then Char.ofNat (48 + n.val) else Char.ofNat (87 + n.val)

theorem hexDigit_isLowerHex (n : Fin 16) : isLowerHex (hexDigit n) = true := by
  revert n
  decide

/-- The UUID whose value is `n`. -/
def Uuid.ofNat (n : Nat) : Uuid where
  digits := (List.range 32).map fun i => hexDigit (Fin.ofNat 16 (n / 16 ^ (31 - i)))
  length_eq := by rw [List.length_map, List.length_range]
  hex c hc := by
    obtain ⟨i, -, rfl⟩ := List.mem_map.1 hc
    exact hexDigit_isLowerHex _

/-- Decided character by character of the list, and not for every character there is. -/
instance decidableAllMem (cs : List Char) (p : Char → Bool) : Decidable (∀ c ∈ cs, p c) := List.decidableBAll _ cs

/-- Read 32 hexadecimal digits of either case. -/
def Uuid.ofDigits (cs : List Char) : Option Uuid :=
  let ds := cs.map asciiLower
  if h : ds.length = 32 ∧ ∀ c ∈ ds, isLowerHex c then some ⟨ds, h.1, h.2⟩ else none

/-- The hyphenated form: groups of 8, 4, 4, 4 and 12 digits. -/
def Uuid.ofHyphenated (cs : List Char) : Option Uuid :=
  if cs.length = 36 ∧ cs[8]? = some '-' ∧ cs[13]? = some '-' ∧ cs[18]? = some '-' ∧ cs[23]? = some '-' then
    Uuid.ofDigits (cs.take 8 ++ (cs.drop 9).take 4 ++ (cs.drop 14).take 4 ++ (cs.drop 19).take 4 ++
      cs.drop 24)
  else none

/-- `Uuid::parse_str`: the simple, hyphenated, braced and URN forms. -/
def Uuid.parseStr (s : String) : Option Uuid :=
  let cs := s.toList
  if cs.length = 32 then Uuid.ofDigits cs
  else if cs.length = 36 then Uuid.ofHyphenated cs
  else if cs.length = 38 ∧ cs.head? = some '{' ∧ cs.getLast? = some '}' then
    Uuid.ofHyphenated (cs.tail.dropLast)
  else if cs.length = 45 ∧ cs.take 9 = "urn:uuid:".toList then Uuid.ofHyphenated (cs.drop 9)
  else none

/-- `none_if_empty`. -/
def noneIfEmpty (value : String) : Option String :=
  if (trim value).isEmpty then none else some value

end TelemetryHub
