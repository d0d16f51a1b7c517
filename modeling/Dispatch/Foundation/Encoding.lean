import Dispatch.Foundation.Json

/-! # Bytes as text

`Buffer`'s hexadecimal and base64 texts, and reading them back.
-/

namespace Dispatch

/-- `Buffer.from(bytes).toString("hex")` -/
def Hex.encode (bytes : List UInt8) : List Char :=
  bytes.flatMap fun byte =>
    [Json.hexDigit (byte.toNat / 16), Json.hexDigit (byte.toNat % 16)]

namespace Base64

def digit (value : Nat) : Char :=
  if value < 26 then Char.ofNat ('A'.toNat + value)
  else if value < 52 then Char.ofNat ('a'.toNat + (value - 26))
  else if value < 62 then Char.ofNat ('0'.toNat + (value - 52))
  else if value = 62 then '+'
  else '/'

def value? (char : Char) : Option Nat :=
  if 'A' ≤ char ∧ char ≤ 'Z' then some (char.toNat - 'A'.toNat)
  else if 'a' ≤ char ∧ char ≤ 'z' then some (char.toNat - 'a'.toNat + 26)
  else if '0' ≤ char ∧ char ≤ '9' then some (char.toNat - '0'.toNat + 52)
  else if char = '+' ∨ char = '-' then some 62
  else if char = '/' ∨ char = '_' then some 63
  else none

def encode : List UInt8 → List Char
  | [] => []
  | [first] =>
    [digit (first.toNat / 4), digit (first.toNat % 4 * 16), '=', '=']
  | [first, second] =>
    [digit (first.toNat / 4),
      digit (first.toNat % 4 * 16 + second.toNat / 16),
      digit (second.toNat % 16 * 4), '=']
  | first :: second :: third :: rest =>
    digit (first.toNat / 4) ::
      digit (first.toNat % 4 * 16 + second.toNat / 16) ::
      digit (second.toNat % 16 * 4 + third.toNat / 64) ::
      digit (third.toNat % 64) :: encode rest

def decode? : List Char → Option (List UInt8)
  | [] => some []
  | first :: second :: third :: fourth :: rest =>
    match value? first, value? second, value? third, value? fourth with
    | some first, some second, some third, some fourth => do
      let others ← decode? rest
      return .ofNat (first * 4 + second / 16) ::
        .ofNat (second % 16 * 16 + third / 4) ::
        .ofNat (third % 4 * 64 + fourth) :: others
    | some first, some second, some third, none =>
      if fourth = '=' ∧ rest = [] then
        some [.ofNat (first * 4 + second / 16),
          .ofNat (second % 16 * 16 + third / 4)]
      else
        none
    | some first, some second, none, none =>
      if third = '=' ∧ fourth = '=' ∧ rest = [] then
        some [.ofNat (first * 4 + second / 16)]
      else
        none
    | _, _, _, _ => none
  | _ => none

private theorem value?_digit_fin : ∀ value : Fin 64,
    value? (digit value.val) = some value.val := by
  decide

private theorem value?_digit {value : Nat} (bound : value < 64) :
    value? (digit value) = some value :=
  value?_digit_fin ⟨value, bound⟩

private theorem value?_padding : value? '=' = none := by decide

private theorem ofNat_eq {value : Nat} {byte : UInt8}
    (same : value = byte.toNat) : UInt8.ofNat value = byte := by
  rw [same, UInt8.ofNat_toNat]

theorem decode?_encode (bytes : List UInt8) :
    decode? (encode bytes) = some bytes := by
  induction bytes using encode.induct with
  | case1 => rfl
  | case2 first =>
    have firstBound := first.toNat_lt
    rw [encode, decode?, value?_digit (by omega), value?_digit (by omega),
      value?_padding]
    dsimp only
    rw [if_pos (by simp), ofNat_eq (show _ = first.toNat by omega)]
  | case3 first second =>
    have firstBound := first.toNat_lt
    have secondBound := second.toNat_lt
    rw [encode, decode?, value?_digit (by omega), value?_digit (by omega),
      value?_digit (by omega), value?_padding]
    dsimp only
    rw [if_pos (by simp), ofNat_eq (show _ = first.toNat by omega),
      ofNat_eq (show _ = second.toNat by omega)]
  | case4 first second third rest induction =>
    have firstBound := first.toNat_lt
    have secondBound := second.toNat_lt
    have thirdBound := third.toNat_lt
    rw [encode, decode?, value?_digit (by omega), value?_digit (by omega),
      value?_digit (by omega), value?_digit (by omega), induction]
    dsimp only
    rw [ofNat_eq (show _ = first.toNat by omega),
      ofNat_eq (show _ = second.toNat by omega),
      ofNat_eq (show _ = third.toNat by omega)]
    rfl

end Base64

end Dispatch
