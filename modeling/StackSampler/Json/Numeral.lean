import StackSampler.Json.Reader

/-!
# JSON numbers

A number without fraction and exponent that fits 64 bits is read exactly, any other as a float:
its digits are taken into a 64-bit **significand** as far as they fit, and the significand is then
multiplied or divided by a power of ten.
-/

namespace StackSampler.Json

/-- A number as it was read. -/
inductive Numeral where
  | natural (n : Nat)
  | negative (n : Int)
  | float (x : Float)
  deriving Repr

def Numeral.found : Numeral → Found
  | .natural n => .integer n
  | .negative n => .integer n
  | .float x => .float x

namespace Numeral

/-- The size of the smallest integer with a sign. -/
def smallestInt : Nat := 9223372036854775808

/-- The largest exponent that is computed with. -/
def largestExponent : Nat := 2147483647

def isDigit (c : Cell) : Bool := c.any Char.isDigit

/-- Appends digits to a significand while it fits 64 bits, and counts them. -/
def absorb (significand : Nat) : List Char → Nat × Nat
  | [] => (significand, 0)
  | d :: ds =>
    let longer := significand * 10 + (d.toNat - 48)
    if Decimal.largestWord < longer then (significand, 0)
    else
      let (s, n) := absorb longer ds
      (s, n + 1)

/-- `x * 10 ^ e`, in steps that a power of ten can be found for; `none` if it is out of range. -/
def scale (x : Float) (e : Int) : Option Float :=
  if 308 < e then if x == 0.0 then some x else none
  else if 0 ≤ e then
    let y := x * Float.ofScientific 1 false e.toNat
    if y.isInf then none else some y
  else if -308 ≤ e then some (x / Float.ofScientific 1 false e.natAbs)
  else if x == 0.0 then some x
  else scale (x / Float.ofScientific 1 false 308) (e + 308)
termination_by e.natAbs
decreasing_by omega

end Numeral

namespace Reader

open Numeral

/-- The digits in front, none of them possibly. -/
def digitRun : Reader (List Char) := do
  let cs ← get
  set (cs.dropWhile isDigit)
  return (cs.takeWhile isDigit).filterMap id

/-- At least one digit. -/
def digitsOrFault (atEnd : TextFault) : Reader (List Char) := do
  let ds ← digitRun
  if ds.isEmpty then
    if (← get).isEmpty then fail atEnd else fail .invalidNumber
  return ds

/-- Whether the next cell is one of `cs`. -/
def isNext (cs : List Char) : Reader Bool := do
  return (← get).head?.any fun c => c.any (cs.contains ·)

/-- The integer part: a zero stands alone. -/
def integerDigits (atEnd : TextFault) : Reader (List Char) := do
  let ds ← digitsOrFault atEnd
  if ds.head? = some '0' ∧ 1 < ds.length then fail .invalidNumber
  return ds

/-- The sign of an exponent; `true` for a positive one. -/
def exponentSign : Reader Bool := do
  if ← isNext ['-'] then
    eat
    return false
  if ← isNext ['+'] then eat
  return true

/-- A float from its significand and the power of ten so far, with an optional exponent to come. -/
def floatTail (negative : Bool) (significand : Nat) (power : Int) : Reader Numeral := do
  let signed (x : Float) : Numeral := .float (if negative then -x else x)
  let scaled (e : Int) : Reader Numeral :=
    match scale significand.toUInt64.toFloat e with
    | some x => pure (signed x)
    | none => fail .numberOutOfRange
  if ← isNext ['e', 'E'] then
    eat
    let positive ← exponentSign
    let e := Decimal.value (← digitsOrFault .endInValue)
    if largestExponent < e then
      if significand ≠ 0 ∧ positive then fail .numberOutOfRange
      return signed 0.0
    scaled (if positive then power + e else power - e)
  else scaled power

/-- An integer of the given sign. The number `-0` and integers that do not fit are floats. -/
def wholeNumber (negative : Bool) (n : Nat) : Numeral :=
  if !negative then .natural n
  else if n = 0 ∨ smallestInt < n then .float (-n.toUInt64.toFloat)
  else .negative (-n)

/-- A number behind its sign. -/
def numeral (negative : Bool) : Reader Numeral := do
  let ds ← integerDigits .endInValue
  let (significand, taken) := absorb 0 ds
  if ← isNext ['.'] then
    eat
    let fraction ← digitsOrFault .endInValue
    let (significand, more) := absorb significand fraction
    floatTail negative significand (ds.length - taken - more : Int)
  else if taken < ds.length ∨ (← isNext ['e', 'E']) then
    floatTail negative significand (ds.length - taken : Int)
  else return wholeNumber negative significand

/-- A number that nobody asked for. -/
def skipNumeral : Reader Unit := do
  discard (integerDigits .invalidNumber)
  if ← isNext ['.'] then
    eat
    discard (digitsOrFault .invalidNumber)
  if ← isNext ['e', 'E'] then
    eat
    discard exponentSign
    discard (digitsOrFault .invalidNumber)

end Reader

end StackSampler.Json
