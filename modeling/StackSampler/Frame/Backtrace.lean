import StackSampler.Frame.Basic

/-!
# Backtraces

A backtrace lists frames from the innermost outwards. Inside the store every backtrace has the full
captured depth: shorter stacks are padded with the absent frame, and hashing and equality see the
padding, so a shallow stack never stands for a deeper one that starts alike.
-/

namespace StackSampler

/-- Frames of a stack, innermost first. -/
abbrev Backtrace := List FrameId

/-- The number of buckets that backtraces are spread over. -/
def bucketCount : Nat := 128

/-- The bucket that a number falls into. -/
def bucketOf (n : Nat) : Fin bucketCount := ⟨n % bucketCount, Nat.mod_lt n (by decide)⟩

namespace Backtrace

/-- The order-sensitive hash of all frames, padding included. -/
def hash (b : Backtrace) : UInt64 :=
  mix (b.foldl (fun acc f => combine acc f.hash) 0)

/-- The bucket of a backtrace. -/
def bucket (b : Backtrace) : Fin bucketCount := bucketOf b.hash.toNat

/-- The frames in front of the first absent one: what is exported of a backtrace. -/
def named (b : Backtrace) : Backtrace := b.takeWhile fun f => !f.isAbsent

/-- A backtrace that shows no innermost frame cannot be counted. -/
def isBlank (b : Backtrace) : Bool := b.head?.all FrameId.isAbsent

/-- `depth` absent frames. -/
def blank (depth : Nat) : Backtrace := List.replicate depth FrameId.absent

end Backtrace

end StackSampler
