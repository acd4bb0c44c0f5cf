import StackSampler.Sampling.Trigger

/-!
# The profiling signal

One process has one profiling timer and one profiling signal. Interval-timer triggers share them:
the first to install owns the signal until it is dropped, and the signal's handler runs the tick of
the owner's latest install. A thread that masks the signal keeps at most one pending; it is
delivered when the mask is lifted.

* `ItimerTrigger.install`, `disarm` and `drop` change one trigger and the process state together.
* `ProfSignal.send` is a signal sent to the thread, `ProfSignal.expire` one run-down of the timer.
-/

namespace StackSampler

/-- What the process does on the profiling signal. -/
inductive Disposition where
  /-- What was in force before any trigger was installed. -/
  | inherited
  /-- The handler that runs the installed tick. -/
  | sampling
  deriving DecidableEq, Repr, Inhabited

/-- The process-wide state behind interval-timer triggers. -/
structure ProfSignal (τ : Type) where
  /-- Whether some trigger owns the signal. -/
  owned : Bool := false
  /-- The tick that the handler runs. -/
  target : Option τ := none
  disposition : Disposition := .inherited
  /-- The period of the running timer. -/
  timer : Option Span := none
  /-- Whether the thread holds the signal back. -/
  blocked : Bool := false
  /-- Whether a signal waits for the mask to be lifted. -/
  pending : Bool := false
  deriving Repr, Inhabited

/-- A trigger driven by the profiling timer. -/
structure ItimerTrigger where
  ownsSignal : Bool := false
  armed : Bool := false
  /-- The disposition to restore when the trigger is dropped. -/
  previous : Option Disposition := none
  deriving DecidableEq, Repr, Inhabited

namespace ProfSignal

variable {τ : Type} (s : ProfSignal τ)

/-- The tick that the handler runs now. -/
def handle : Option τ := if s.disposition = .sampling then s.target else none

/-- A signal to the thread: it runs a tick at once, or waits, merged with one that waits already. -/
def send : Option τ × ProfSignal τ :=
  if s.blocked then (none, { s with pending := true }) else (s.handle, s)

def block : ProfSignal τ := { s with blocked := true }

/-- Lifts the mask, however often it was taken, and delivers the signal that waits. -/
def unblock : Option τ × ProfSignal τ :=
  let free := { s with blocked := false, pending := false }
  (if s.pending then s.handle else none, free)

/-- The timer runs down once: it sends a signal if it was set. -/
def expire : Option τ × ProfSignal τ := if s.timer.isSome then s.send else (none, s)

/-- Seconds that the timer can hold. -/
def timerSeconds : Nat := 9223372036854775807

/-- The timer setting for an interval: whole microseconds, of which an interval that is not zero
gets at least one. Zero turns the timer off. -/
def timerSetting (interval : Span) : Except TriggerError (Option Span) :=
  if timerSeconds < interval.secs then .error (.invalidInterval interval)
  else if interval.isZero then .ok none
  else
    let micros := interval.nanos / 1000
    .ok (some ⟨interval.secs, if interval.secs = 0 ∧ micros = 0 then 1000 else micros * 1000⟩)

end ProfSignal

/-- What came of an install. -/
structure Installed (τ : Type) where
  result : Except TriggerError Unit
  trigger : ItimerTrigger
  signal : ProfSignal τ
  /-- A tick that had waited for the mask. -/
  delivered : Option τ := none

namespace ItimerTrigger

variable {τ : Type} (t : ItimerTrigger) (s : ProfSignal τ)

/-- Claims the signal, hands the tick to the handler, and sets the timer, in this order. An interval
that the timer cannot hold is found last: the handler has the new tick by then, and a timer that
runs keeps running. -/
def install (interval : Span) (tick : τ) : Installed τ :=
  if !t.ownsSignal && s.owned then { result := .error .busy, trigger := t, signal := s }
  else
    let handler := { s.block with owned := true, target := some tick, disposition := .sampling }
    let (delivered, s') := handler.unblock
    let t := { t with ownsSignal := true, previous := t.previous.or (some s.disposition) }
    match ProfSignal.timerSetting interval with
    | .error e =>
      { result := .error e, trigger := { t with armed := false }, signal := s', delivered }
    | .ok setting =>
      { result := .ok (), trigger := { t with armed := !interval.isZero }
        signal := { s' with timer := setting }, delivered }

/-- Turns the timer off. The handler keeps its tick. -/
def disarm : ItimerTrigger × ProfSignal τ :=
  if t.ownsSignal then ({ t with armed := false }, { s with timer := none }) else (t, s)

/-- Gives the signal up: the timer is off, the handler has no tick, and the disposition from before
the first install is back. -/
def drop : ProfSignal τ :=
  if t.ownsSignal then
    let (t, s) := t.disarm s
    let s := { s.block with target := none, disposition := t.previous.getD s.disposition }
    { s.unblock.2 with owned := false }
  else s

end ItimerTrigger

end StackSampler
