import StackSampler.Sampling.Trigger

/-!
# Triggers fired by hand

A hand trigger runs a tick when the host says so. `τ` names ticks: firing tells which tick has to
run, and the host runs it.
-/

namespace StackSampler

/-- A trigger that the host fires itself. -/
structure HandTrigger (τ : Type) where
  /-- The tick of the latest install. -/
  tick : Option τ := none
  interval : Option Span := none
  armed : Bool := false
  /-- Whether installs are refused. -/
  refusing : Bool := false
  /-- Ticks run. -/
  fired : Nat := 0
  /-- Masks held. -/
  maskDepth : Nat := 0
  /-- Disarms that happened under a mask. -/
  maskedDisarms : Nat := 0
  deriving Repr, Inhabited

namespace HandTrigger

variable {τ : Type} (t : HandTrigger τ)

/-- Installs and arms; a refusal changes nothing. -/
def install (interval : Span) (tick : τ) : Except TriggerError (HandTrigger τ) :=
  if t.refusing then .error .refused
  else .ok { t with tick := some tick, interval := some interval, armed := true }

/-- Stops firing; tick and interval stay behind. -/
def disarm : HandTrigger τ :=
  { t with
    maskedDisarms := if 0 < t.maskDepth then t.maskedDisarms + 1 else t.maskedDisarms
    armed := false }

/-- Fires once: the tick to run, if the trigger is armed with an interval that is not zero. Masks
hold back interrupts, not the host's own hand. -/
def fire : Option τ × HandTrigger τ :=
  if !t.armed || t.interval.any Span.isZero then (none, t)
  else (t.tick, { t with fired := t.fired + 1 })

def refuse (on : Bool) : HandTrigger τ := { t with refusing := on }

def block : HandTrigger τ := { t with maskDepth := t.maskDepth + 1 }

/-- Gives up one mask, if any is held. -/
def unblock : HandTrigger τ := { t with maskDepth := t.maskDepth - 1 }

def isMasked : Bool := 0 < t.maskDepth

end HandTrigger

end StackSampler
