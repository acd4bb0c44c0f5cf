import StackSampler.Decimal.Binary
import StackSampler.Decimal.Digits

/-!
# Fixed places

Writing a floating-point number with a fixed number of decimal places: its exact value is rounded to
the nearest decimal, and half way to the even one.
-/

namespace StackSampler.Decimal

/-- `num / den` rounded to the nearest integer, half way to the even one. -/
def roundDiv (num den : Nat) : Nat :=
  let q := num / den
  let twice := 2 * (num % den)
  if twice < den ∨ (twice = den ∧ q % 2 = 0) then q else q + 1

/-- A finite number with `places` digits behind the point. -/
def fixed (places : Nat) (x : Float) : List Char :=
  let b := Binary.ofFloat x
  let (num, den) := Binary.powerOfTwo b.exponent
  let n := roundDiv (b.significand * num * Nat.pow 10 places) den
  let ds := padded (places + 1) n
  let whole := ds.length - places
  let body := ds.take whole ++ if places = 0 then [] else '.' :: ds.drop whole
  if b.negative then '-' :: body else body

end StackSampler.Decimal
