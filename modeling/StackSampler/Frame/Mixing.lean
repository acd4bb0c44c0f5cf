/-!
# Bit mixing

Frame identities are small and sequential, and buckets are picked by the low bits of a hash, so
every bit of an identity has to reach those bits. `mix` is a bijection of the 64-bit words: each of
its steps (a shift folded in by exclusive or, a product with an odd constant) can be undone.
-/

namespace StackSampler

/-- Spreads every bit of `z` over the whole word. -/
def mix (z : UInt64) : UInt64 :=
  let z := (z ^^^ (z >>> 30)) * 0xbf58476d1ce4e5b9
  let z := (z ^^^ (z >>> 27)) * 0x94d049bb133111eb
  z ^^^ (z >>> 31)

/-- `z` turned left by four bits: no bit is lost. -/
def rotateFour (z : UInt64) : UInt64 := (z <<< 4) ||| (z >>> 60)

/-- One step of an order-sensitive fold: the accumulator is turned before `h` is added, so equal
words at different places add up to different sums. -/
def combine (acc h : UInt64) : UInt64 := rotateFour acc + h

end StackSampler
