import Mathlib.Data.List.TakeWhile

/-!
# Base64

The standard alphabet with padding: three bytes are four characters, what is left over at the
end is padded to four. Reading takes the canonical texts only.
-/

namespace TelemetryHub.Lib.Base64

/-- The alphabet. -/
def alphabet : List Char := "ABCDEFGHIJKLMNOPQRSTUVWXYZabcdefghijklmnopqrstuvwxyz0123456789+/".toList

/-- The character of six bits. -/
def sextetChar (n : Nat) : Char := alphabet.getD (n % 64) 'A'

/-- The six bits of a character. -/
def sextet (c : Char) : Option Nat :=
  let index := alphabet.idxOf c
  if index < 64 then some index else none

/-- The bytes as text. -/
def encode : List UInt8 → List Char
  | [] => []
  | [a] => [sextetChar (a.toNat / 4), sextetChar (a.toNat * 16), '=', '=']
  | [a, b] => [sextetChar (a.toNat / 4), sextetChar (a.toNat * 16 + b.toNat / 16), sextetChar (b.toNat * 4), '=']
  | a :: b :: c :: rest =>
    sextetChar (a.toNat / 4) :: sextetChar (a.toNat * 16 + b.toNat / 16) ::
      sextetChar (b.toNat * 4 + c.toNat / 64) :: sextetChar c.toNat :: encode rest

/-- Read a text. -/
def decode : List Char → Option (List UInt8)
  | [] => some []
  | c₀ :: c₁ :: c₂ :: c₃ :: rest =>
    if c₃ = '=' then
      if rest ≠ [] then none
      else if c₂ = '=' then do
        let n₀ ← sextet c₀
        let n₁ ← sextet c₁
        if n₁ % 16 = 0 then some [UInt8.ofNat (n₀ * 4 + n₁ / 16)] else none
      else do
        let n₀ ← sextet c₀
        let n₁ ← sextet c₁
        let n₂ ← sextet c₂
        if n₂ % 4 = 0 then some [UInt8.ofNat (n₀ * 4 + n₁ / 16), UInt8.ofNat (n₁ % 16 * 16 + n₂ / 4)] else none
    else do
      let n₀ ← sextet c₀
      let n₁ ← sextet c₁
      let n₂ ← sextet c₂
      let n₃ ← sextet c₃
      let bytes ← decode rest
      some (UInt8.ofNat (n₀ * 4 + n₁ / 16) :: UInt8.ofNat (n₁ % 16 * 16 + n₂ / 4) :: UInt8.ofNat (n₂ % 4 * 64 + n₃) :: bytes)
  | _ => none

/-! ## Characters -/

theorem sextetChar_cases (n : Nat) : sextetChar n ∈ alphabet ∧ sextetChar n ≠ '=' ∧ sextet (sextetChar n) = some (n % 64) := by
  have all : ∀ m < 64, alphabet.getD m 'A' ∈ alphabet ∧ alphabet.getD m 'A' ≠ '=' ∧
      sextet (alphabet.getD m 'A') = some m := by
    decide +kernel
  exact all (n % 64) (Nat.mod_lt n (by decide))

@[simp] theorem sextet_sextetChar (n : Nat) : sextet (sextetChar n) = some (n % 64) := (sextetChar_cases n).2.2

theorem sextetChar_ne_pad (n : Nat) : sextetChar n ≠ '=' := (sextetChar_cases n).2.1

/-- A text is of the alphabet and padding. -/
theorem mem_encode {c : Char} {bytes : List UInt8} (inside : c ∈ encode bytes) : c ∈ alphabet ∨ c = '=' := by
  fun_induction encode bytes with
  | case1 => cases inside
  | case2 a =>
    simp only [List.mem_cons, List.not_mem_nil, or_false] at inside
    rcases inside with rfl | rfl | rfl | rfl
    · exact .inl (sextetChar_cases _).1
    · exact .inl (sextetChar_cases _).1
    all_goals exact .inr rfl
  | case3 a b =>
    simp only [List.mem_cons, List.not_mem_nil, or_false] at inside
    rcases inside with rfl | rfl | rfl | rfl
    · exact .inl (sextetChar_cases _).1
    · exact .inl (sextetChar_cases _).1
    · exact .inl (sextetChar_cases _).1
    · exact .inr rfl
  | case4 a b c rest ih =>
    simp only [List.mem_cons] at inside
    rcases inside with rfl | rfl | rfl | rfl | inside
    · exact .inl (sextetChar_cases _).1
    · exact .inl (sextetChar_cases _).1
    · exact .inl (sextetChar_cases _).1
    · exact .inl (sextetChar_cases _).1
    · exact ih inside

/-- Four characters for each three bytes, and four for what is left over. -/
theorem length_encode (bytes : List UInt8) : (encode bytes).length = (bytes.length + 2) / 3 * 4 := by
  fun_induction encode bytes with
  | case1 => rfl
  | case2 | case3 => simp
  | case4 a b c rest ih =>
    simp only [List.length_cons, ih]
    omega

/-- What is left over is padded. -/
theorem pad_mem_encode {bytes : List UInt8} (left : bytes.length % 3 ≠ 0) : '=' ∈ encode bytes := by
  fun_induction encode bytes with
  | case1 => exact absurd rfl left
  | case2 | case3 => simp
  | case4 a b c rest ih =>
    simp only [List.length_cons] at left
    have inside := ih (by omega)
    simp only [List.mem_cons]
    exact .inr (.inr (.inr (.inr inside)))

/-! ## Round trip -/

theorem ofNat_eq {n : Nat} {byte : UInt8} (same : n = byte.toNat) : UInt8.ofNat n = byte := by
  rw [same]
  exact UInt8.ofNat_toNat

/-- Reading gives the bytes back. -/
theorem decode_encode (bytes : List UInt8) : decode (encode bytes) = some bytes := by
  fun_induction encode bytes with
  | case1 => rfl
  | case2 a =>
    have small := a.toNat_lt
    unfold decode
    simp only [↓reduceIte, ne_eq, not_true_eq_false, sextet_sextetChar, bind, Option.bind_some]
    rw [if_pos (by omega), ofNat_eq (show _ = a.toNat by omega)]
  | case3 a b =>
    have small := a.toNat_lt
    have small' := b.toNat_lt
    unfold decode
    simp only [↓reduceIte, ne_eq, not_true_eq_false, sextetChar_ne_pad, sextet_sextetChar, bind, Option.bind_some]
    rw [if_pos (by omega), ofNat_eq (show _ = a.toNat by omega), ofNat_eq (show _ = b.toNat by omega)]
  | case4 a b c rest ih =>
    have small := a.toNat_lt
    have small' := b.toNat_lt
    have small'' := c.toNat_lt
    unfold decode
    simp only [↓reduceIte, sextetChar_ne_pad, sextet_sextetChar, ih, bind, Option.bind_some, Option.some.injEq,
      List.cons.injEq, and_true]
    refine ⟨ofNat_eq ?_, ofNat_eq ?_, ofNat_eq ?_⟩ <;> omega

end TelemetryHub.Lib.Base64
