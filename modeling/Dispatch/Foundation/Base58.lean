import Mathlib.Data.Nat.Digits.Lemmas

/-! # Base 58

The texts that `bs58` decodes.
-/

namespace Dispatch.Base58

def alphabet : List Char :=
  "123456789ABCDEFGHJKLMNPQRSTUVWXYZabcdefghijkmnopqrstuvwxyz".toList

def value? (char : Char) : Option Nat := alphabet.idxOf? char

def number? (high : Nat) : List Char → Option Nat
  | [] => some high
  | char :: rest =>
    match value? char with
    | some value => number? (high * 58 + value) rest
    | none => none

def zeros : List Char → Nat
  | [] => 0
  | char :: rest => if char = '1' then zeros rest + 1 else 0

def decode? (text : List Char) : Option (List UInt8) :=
  match number? 0 text with
  | some number =>
    some (List.replicate (zeros text) 0 ++
      (Nat.digits 256 number).reverse.map UInt8.ofNat)
  | none => none

/-- The address of the system program. -/
example : decode? (List.replicate 32 '1') = some (List.replicate 32 0) := by
  decide +kernel

/-! ## How many bytes a text has -/

theorem value?_eq_zero {char : Char} (zero : value? char = some 0) :
    char = '1' := by
  have first : alphabet = '1' :: alphabet.tail := by decide +kernel
  rw [value?, first, List.idxOf?_cons] at zero
  split at zero
  · next same => exact (eq_of_beq same).symm
  · cases index : alphabet.tail.idxOf? char with
    | none => simp [index] at zero
    | some position => simp [index] at zero

theorem number?_cons {high number : Nat} {char : Char} {rest : List Char}
    (read : number? high (char :: rest) = some number) :
    ∃ value, value? char = some value ∧
      number? (high * 58 + value) rest = some number := by
  rw [number?] at read
  split at read
  · next value digit => exact ⟨value, digit, read⟩
  · cases read

theorem pow_le_number {text : List Char} {high number : Nat}
    (read : number? high text = some number) :
    high * 58 ^ text.length ≤ number := by
  induction text generalizing high with
  | nil =>
    cases read
    simp
  | cons char rest induction =>
    rcases number?_cons read with ⟨value, _, more⟩
    calc high * 58 ^ (char :: rest).length
        = high * 58 * 58 ^ rest.length := by
          rw [List.length_cons, pow_succ]
          ring
      _ ≤ (high * 58 + value) * 58 ^ rest.length :=
          Nat.mul_le_mul_right _ (Nat.le_add_right _ _)
      _ ≤ number := induction more

theorem digits_le_number {text : List Char} {number : Nat}
    (read : number? 0 text = some number)
    (more : zeros text < text.length) :
    58 ^ (text.length - zeros text - 1) ≤ number := by
  induction text with
  | nil => cases more
  | cons char rest induction =>
    rcases number?_cons read with ⟨value, digit, read⟩
    by_cases one : char = '1'
    · have zero : value = 0 := by
        subst one
        have first : value? '1' = some 0 := by decide
        rw [first] at digit
        exact (Option.some.inj digit).symm
      subst zero
      rw [zeros, if_pos one] at more ⊢
      rw [List.length_cons] at more ⊢
      have shorter := induction read (by omega)
      rwa [show rest.length + 1 - (zeros rest + 1) - 1 =
        rest.length - zeros rest - 1 by omega]
    · have positive : 1 ≤ value := by
        rcases Nat.eq_zero_or_pos value with zero | positive
        · subst zero
          exact absurd (value?_eq_zero digit) one
        · exact positive
      rw [zeros, if_neg one, List.length_cons]
      calc 58 ^ (rest.length + 1 - 0 - 1)
          = 1 * 58 ^ rest.length := by
            rw [Nat.sub_zero, Nat.add_sub_cancel, one_mul]
        _ ≤ (0 * 58 + value) * 58 ^ rest.length :=
            Nat.mul_le_mul_right _ (by omega)
        _ ≤ number := pow_le_number read

theorem zeros_le_length (text : List Char) : zeros text ≤ text.length := by
  induction text with
  | nil => exact Nat.le_refl 0
  | cons char rest induction =>
    rw [zeros, List.length_cons]
    split <;> omega

theorem length_le_of_decode? {text : List Char} {bytes : List UInt8}
    (decoded : decode? text = some bytes) :
    2 * text.length ≤ 3 * bytes.length + 1 := by
  rw [decode?] at decoded
  cases read : number? 0 text with
  | none =>
    rw [read] at decoded
    cases decoded
  | some number =>
    rw [read] at decoded
    cases decoded
    simp only [List.length_append, List.length_replicate, List.length_map,
      List.length_reverse]
    rcases Nat.lt_or_ge (zeros text) text.length with more | only
    · have lower := digits_le_number read more
      have upper : number < 256 ^ (Nat.digits 256 number).length :=
        Nat.lt_base_pow_length_digits (by decide)
      generalize (Nat.digits 256 number).length = size at upper ⊢
      have squares : 58 ^ (2 * (text.length - zeros text - 1)) <
          58 ^ (3 * size) :=
        calc 58 ^ (2 * (text.length - zeros text - 1))
            = (58 ^ (text.length - zeros text - 1)) ^ 2 := by
              rw [← pow_mul, Nat.mul_comm]
          _ < (256 ^ size) ^ 2 :=
              Nat.pow_lt_pow_left (lower.trans_lt upper) (by decide)
          _ = (256 ^ 2) ^ size := by rw [← pow_mul, ← pow_mul, Nat.mul_comm]
          _ ≤ (58 ^ 3) ^ size := Nat.pow_le_pow_left (by decide) size
          _ = 58 ^ (3 * size) := by rw [← pow_mul]
      have exponents := (Nat.pow_lt_pow_iff_right (by decide)).mp squares
      omega
    · have bound := zeros_le_length text
      omega

end Dispatch.Base58
