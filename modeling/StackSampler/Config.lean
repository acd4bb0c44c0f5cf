/-!
# Sizing

How many frames a sample keeps and how many slots aggregate samples. The sizes are read when the
slots are allocated, and only then.
-/

namespace StackSampler

/-- Sizing of the slot pool. -/
structure Config where
  /-- Frames kept per backtrace. -/
  depth : Nat := 16
  /-- Aggregation slots. -/
  slots : Nat := 10000
  deriving DecidableEq, Repr, Inhabited

/-- Why a configuration cannot back a pool; each cause carries the refused size. -/
inductive ConfigError where
  | depth (given : Nat)
  | slots (given : Nat)
  deriving DecidableEq, Repr

namespace Config

/-- The deepest backtrace that may be kept. -/
def depthLimit : Nat := 1024

/-- Slots are linked by 32-bit numbers of which the largest means "no link": pools are smaller. -/
def slotLimit : Nat := 4294967295

/-- Accepts depths from 1 to `depthLimit` and slot counts from 1 to below `slotLimit`; the depth is
checked first. -/
def validate (c : Config) : Except ConfigError Unit :=
  if c.depth = 0 ∨ depthLimit < c.depth then .error (.depth c.depth)
  else if c.slots = 0 ∨ slotLimit ≤ c.slots then .error (.slots c.slots)
  else .ok ()

end Config

def ConfigError.message : ConfigError → String
  | .depth given => s!"max_stack_depth must be between 1 and 1024, got {given}"
  | .slots given => s!"slot_heap_size must be between 1 and u32::MAX - 1, got {given}"

end StackSampler
