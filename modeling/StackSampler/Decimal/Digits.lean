/-!
# Decimal digits

Natural numbers in base ten: written as they are, padded to a width, grouped in thousands, or as the
digits behind a decimal point; and read, as long as they fit 64 bits.
-/

namespace StackSampler.Decimal

/-- The digits of `n`, without leading zeros. -/
def digits (n : Nat) : List Char := Nat.toDigits 10 n

/-- The digits of `n` with zeros in front up to `width`. -/
def padded (width n : Nat) : List Char :=
  let ds := digits n
  List.replicate (width - ds.length) '0' ++ ds

/-- Zeros at the end dropped. -/
def dropTrailingZeros (ds : List Char) : List Char :=
  (ds.reverse.dropWhile (· == '0')).reverse

/-- Digits with a comma in front of every third one from the right. -/
def grouped (n : Nat) : List Char :=
  let rec go : List Char → Nat → List Char
    | [], _ => []
    | d :: ds, i => if i % 3 = 0 ∧ i ≠ 0 then d :: ',' :: go ds (i - 1) else d :: go ds (i - 1)
  let ds := digits n
  go ds (ds.length - 1)

/-- The number that digits stand for. -/
def value (ds : List Char) : Nat := Nat.ofDigitChars 10 ds 0

/-- The largest number of 64 bits. -/
def largestWord : Nat := 18446744073709551615

/-- A number of at most 64 bits: digits, maybe behind a plus sign. -/
def word? (cs : List Char) : Option Nat :=
  let ds := if cs.head? = some '+' then cs.tail else cs
  if ds.isEmpty || !ds.all Char.isDigit || largestWord < value ds then none else some (value ds)

end StackSampler.Decimal
