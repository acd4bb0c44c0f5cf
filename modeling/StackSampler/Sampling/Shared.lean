import StackSampler.Store.Basic

/-!
# The shared store

A tick may interrupt anything, another tick and the control calls included, so the store stands
behind one busy flag. A tick only ever tries to take the flag: it never waits, and a tick that finds
the flag taken is dropped and counted as missed.
-/

namespace StackSampler

/-- The store, its flag, and the ticks that were dropped. -/
structure Shared where
  busy : Bool := false
  store : Option Store := none
  missed : Nat := 0
  deriving Repr, Inhabited

namespace Shared

variable (s : Shared)

/-- Takes the flag if it is free. -/
def acquire : Option Shared := if s.busy then none else some { s with busy := true }

/-- Holds the flag, as a call does that has waited until it was free. -/
def hold : Shared := { s with busy := true }

/-- Gives the flag back. -/
def release : Shared := { s with busy := false }

/-- Drops a tick. -/
def miss : Shared := { s with missed := s.missed + 1 }

/-- Counts one stack in the store, if there is one. -/
def capture (source : Backtrace → Backtrace) : Shared :=
  { s with store := s.store.map fun store => (store.recordFrom source).2 }

/-- One tick over a source that does nothing but write frames. -/
def tick (source : Backtrace → Backtrace) : Shared :=
  match s.acquire with
  | none => s.miss
  | some held => (held.capture source).release

end Shared

end StackSampler
