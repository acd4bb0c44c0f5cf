/-!
# Floating-point numbers as integers

A finite 64-bit floating-point number is an integer times a power of two. `Binary.ofBits` takes one
apart; the decimal writers work on the parts alone, so they compute with integers only.
-/

namespace StackSampler.Decimal

/-- The number `significand * 2 ^ exponent`, with a sign. -/
structure Binary where
  negative : Bool
  significand : Nat
  exponent : Int
  deriving DecidableEq, Repr, Inhabited

namespace Binary

/-- The bits of the fraction. -/
def fractionSize : Nat := Nat.pow 2 52

/-- The smallest exponent, that of the numbers next to zero. -/
def leastExponent : Int := -1074

/-- The number behind 64 bits. Infinities and NaNs have no parts of their own and are read as if
their exponent were an ordinary one. -/
def ofBits (bits : UInt64) : Binary :=
  let raw := bits.toNat
  let fraction := raw % fractionSize
  let biased : Nat := raw / fractionSize % Nat.pow 2 11
  { negative := Nat.pow 2 63 ≤ raw
    significand := if biased = 0 then fraction else fractionSize + fraction
    exponent := if biased = 0 then leastExponent else (biased : Int) - 1 + leastExponent }

def ofFloat (x : Float) : Binary := ofBits x.toBits

/-- Two to the power `e`, as a numerator and a denominator. -/
def powerOfTwo (e : Int) : Nat × Nat := (Nat.pow 2 e.toNat, Nat.pow 2 (-e).toNat)

end Binary

/-- Ten to the power `e`, as a numerator and a denominator. -/
def powerOfTen (e : Int) : Nat × Nat := (Nat.pow 10 e.toNat, Nat.pow 10 (-e).toNat)

end StackSampler.Decimal
