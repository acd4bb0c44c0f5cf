import StackSampler.Sampling.Trigger

/-!
# Triggers on a thread

A thread trigger runs its ticks on a thread of its own, which sleeps for one interval and ticks,
over and over. Disarming ends the thread, so no tick comes after it.
-/

namespace StackSampler

/-- What a sampling thread was started with. -/
structure Worker (τ : Type) where
  interval : Span
  tick : τ
  deriving Repr

/-- A trigger with at most one sampling thread. -/
structure ThreadTrigger (τ : Type) where
  worker : Option (Worker τ) := none
  deriving Repr, Inhabited

namespace ThreadTrigger

variable {τ : Type} (t : ThreadTrigger τ)

/-- Ends the thread, if one runs. -/
def disarm (_ : ThreadTrigger τ) : ThreadTrigger τ := { worker := none }

/-- Replaces the thread; a zero interval leaves none. -/
def install (interval : Span) (tick : τ) : ThreadTrigger τ :=
  if interval.isZero then t.disarm else { worker := some ⟨interval, tick⟩ }

def armed : Bool := t.worker.isSome

/-- The tick of a thread whose interval has passed. -/
def wake : Option τ := t.worker.map Worker.tick

end ThreadTrigger

end StackSampler
