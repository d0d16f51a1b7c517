import Mathlib.Algebra.Order.Field.Rat

/-! # Double-precision numbers

The numbers of ECMAScript, as the rationals that they are.
-/

namespace Dispatch.Binary64

def roundEven (value : ℚ) : ℤ :=
  let below := value.floor
  let rest := value - below
  if rest < 1 / 2 then below
  else if 1 / 2 < rest then below + 1
  else if below % 2 = 0 then below
  else below + 1

/-- `value * 2 ^ exponent` -/
def scale (value : ℚ) : ℤ → ℚ
  | .ofNat exponent => value * 2 ^ exponent
  | .negSucc exponent => value / 2 ^ (exponent + 1)

def exponent (value : ℚ) : ℤ :=
  let guess : ℤ := (value.num.natAbs.log2 : ℤ) - value.den.log2
  if scale 1 guess ≤ |value| then guess else guess - 1

def round (value : ℚ) : ℚ :=
  if value = 0 then 0
  else
    let last := exponent value - 52
    scale (roundEven (scale value (-last))) last

def add (left right : ℚ) : ℚ :=
  round (left + right)

def mul (left right : ℚ) : ℚ :=
  round (left * right)

example : round (1 / 10) = 3602879701896397 / 2 ^ 55 := by decide +kernel

example : add (round (1 / 10)) (round (2 / 10)) ≠ round (3 / 10) := by
  decide +kernel

end Dispatch.Binary64
