import StackSampler.Frame.Mixing

/-!
# Frame identities

A frame of a call stack is known by a 64-bit identity. Identity 0 is **absent**: it pads a stack
below its last frame and stands for a frame that has no identity of its own.
-/

namespace StackSampler

/-- The identity of one stack frame. -/
structure FrameId where
  raw : UInt64
  deriving DecidableEq, Repr, Inhabited

namespace FrameId

/-- No identifiable frame. -/
def absent : FrameId := ⟨0⟩

/-- The identity `n`, modulo `2 ^ 64`. -/
def ofNat (n : Nat) : FrameId := ⟨UInt64.ofNat n⟩

def toNat (f : FrameId) : Nat := f.raw.toNat

def isAbsent (f : FrameId) : Bool := f == absent

/-- The hash of one frame alone. -/
def hash (f : FrameId) : UInt64 := mix f.raw

/-- How an identity without a name is shown: `#` and the number. -/
def label (f : FrameId) : String := "#" ++ Nat.repr f.toNat

end FrameId

end StackSampler
