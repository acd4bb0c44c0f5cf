import StackSampler.Decimal.Binary
import StackSampler.Decimal.Digits

/-!
# Shortest decimals

Many decimals round to the same floating-point number. `shortest` finds the one with the fewest
digits, and of several the one nearest to the number: it tries grids of one digit, two digits, and
so on, and looks on each grid only at the two neighbours of the number.
-/

namespace StackSampler.Decimal

/-- The decimal `digits * 10 ^ scale`. -/
structure Scaled where
  digits : Nat
  scale : Int
  deriving DecidableEq, Repr, Inhabited

namespace Binary

/-- A number and the ends of the interval of reals that round to it, all three in quarters of the
last binary place. Below a power of two the numbers lie twice as dense. -/
structure Interval where
  low : Nat
  middle : Nat
  high : Nat
  /-- Ends that lie half way between two numbers round to the even one. -/
  closed : Bool

def interval (b : Binary) : Interval :=
  let middle := 4 * b.significand
  let dense := b.significand = fractionSize ∧ leastExponent < b.exponent
  { low := middle - if dense then 1 else 2
    middle, high := middle + 2, closed := b.significand % 2 = 0 }

/-- The exponent of the first digit of a number that is not zero. Times `Nat.pow 10 400`, every number is
above one. -/
def firstPlace (b : Binary) : Int :=
  let (num, den) := powerOfTwo b.exponent
  ((Decimal.digits (b.significand * num * Nat.pow 10 400 / den)).length : Int) - 401

/-- The decimal on the grid of step `10 ^ scale` that rounds to `b` and is nearest to it; of two as
near, the one with an even last digit. -/
def onGrid (b : Binary) (scale : Int) : Option Scaled :=
  let i := b.interval
  let (twoNum, twoDen) := powerOfTwo (b.exponent - 2)
  let (tenNum, tenDen) := powerOfTen scale
  let quarter := twoNum * tenDen
  let step := tenNum * twoDen
  let inside (k : Nat) : Bool :=
    if i.closed then i.low * quarter ≤ k * step && k * step ≤ i.high * quarter
    else i.low * quarter < k * step && k * step < i.high * quarter
  let below := i.middle * quarter / step
  let above := below + 1
  let toBelow := i.middle * quarter - below * step
  let toAbove := above * step - i.middle * quarter
  match inside below, inside above with
  | false, false => none
  | true, false => some ⟨below, scale⟩
  | false, true => some ⟨above, scale⟩
  | true, true =>
    if toBelow < toAbove ∨ (toBelow = toAbove ∧ below % 2 = 0) then some ⟨below, scale⟩
    else some ⟨above, scale⟩

/-- The shortest decimal of a number that is not zero; 17 digits always do. -/
def shortest (b : Binary) : Scaled :=
  let place := b.firstPlace
  ((List.range 17).findSome? fun (n : Nat) => b.onGrid (place - n)).getD ⟨0, 0⟩

end Binary

/-- How a shortest decimal is written: between two exponents of the first digit by position, with
`.0` after whole numbers, and beyond them with one digit in front of the point and an exponent that
always has a sign. -/
structure FloatStyle where
  least : Int
  most : Int

namespace FloatStyle

variable (style : FloatStyle)

/-- Digits with the exponent of the first one. -/
def write (ds : List Char) (place : Int) : List Char :=
  if place < style.least ∨ style.most < place then
    let sign := if place < 0 then '-' else '+'
    ds.take 1 ++ (if ds.length ≤ 1 then [] else '.' :: ds.drop 1) ++
      'e' :: sign :: Decimal.digits place.natAbs
  else if place < 0 then
    '0' :: '.' :: List.replicate (place.natAbs - 1) '0' ++ ds
  else
    let whole := place.toNat + 1
    let fraction := ds.drop whole
    ds.take whole ++ List.replicate (whole - ds.length) '0' ++
      '.' :: if fraction.isEmpty then ['0'] else fraction

/-- A finite number; a zero keeps its sign. -/
def text (x : Float) : String :=
  let b := Binary.ofFloat x
  let body :=
    if b.significand = 0 then "0.0".toList
    else
      let d := b.shortest
      let ds := Decimal.digits d.digits
      style.write (dropTrailingZeros ds) (d.scale + ds.length - 1)
  String.ofList (if b.negative then '-' :: body else body)

end FloatStyle

end StackSampler.Decimal
