import StackSampler.Sampling.ProfSignal
import StackSampler.Sampling.ThreadTrigger

/-!
# Several triggers in one process

Triggers live under names. Interval-timer triggers compete for the one profiling signal; thread
triggers are independent of it and of each other. Ticks are counted, either on the shared counter or
on the counter of a trial run.
-/

namespace StackSampler

/-- The counter that a tick adds to. -/
inductive Counter where
  | shared
  | trial
  deriving DecidableEq, Repr, Inhabited

/-- A trigger driven by the timer signal or by a thread. -/
inductive RealTrigger where
  | itimer (t : ItimerTrigger)
  | thread (t : ThreadTrigger Counter)
  deriving Repr, Inhabited

def RealTrigger.armed : RealTrigger → Bool
  | .itimer t => t.armed
  | .thread t => t.armed

/-- The outcome of a trial run. -/
structure Trial where
  /-- As many ticks as asked for came. -/
  came : Bool
  /-- The trigger was armed meanwhile. -/
  armed : Bool
  /-- No tick came after the trigger was disarmed. -/
  quiet : Bool
  deriving DecidableEq, Repr

/-- Named triggers, the signal that they share, and the counters. -/
structure TriggerSet where
  signal : ProfSignal Counter := {}
  triggers : List (String × RealTrigger) := []
  ticks : Nat := 0
  trialTicks : Nat := 0
  deriving Repr, Inhabited

namespace TriggerSet

variable (p : TriggerSet)

def find (name : String) : Option RealTrigger := p.triggers.lookup name

/-- `trigger` under `name`, in the place of one that has the name already. -/
def put (name : String) (trigger : RealTrigger) : TriggerSet :=
  let others := p.triggers.filter fun (other, _) => other != name
  { p with triggers := others ++ [(name, trigger)] }

/-- Runs a tick, if there is one to run. -/
def count : Option Counter → TriggerSet
  | none => p
  | some .shared => { p with ticks := p.ticks + 1 }
  | some .trial => { p with trialTicks := p.trialTicks + 1 }

/-- Takes over what a step of the signal did. -/
def settle (step : Option Counter × ProfSignal Counter) : TriggerSet :=
  { p with signal := step.2 }.count step.1

/-- Drops the trigger of a name; tells whether there was one. -/
def drop (name : String) : Bool × TriggerSet :=
  match p.find name with
  | none => (false, p)
  | some trigger =>
    let signal := match trigger with
      | .itimer t => t.drop p.signal
      | .thread _ => p.signal
    (true, { p with signal, triggers := p.triggers.filter fun (other, _) => other != name })

/-- Puts a fresh trigger under a name; tells whether that dropped another. -/
def create (name : String) (fresh : RealTrigger) : Bool × TriggerSet :=
  let (replaced, p) := p.drop name
  (replaced, p.put name fresh)

/-- Installs the trigger of a name. -/
def install (name : String) (interval : Span) (tick : Counter) :
    Except TriggerError Unit × TriggerSet :=
  match p.find name with
  | none => (.ok (), p)
  | some (.itimer t) =>
    let done := t.install p.signal interval tick
    (done.result, (p.put name (.itimer done.trigger)).settle (done.delivered, done.signal))
  | some (.thread t) => (.ok (), p.put name (.thread (t.install interval tick)))

def disarm (name : String) : TriggerSet :=
  match p.find name with
  | none => p
  | some (.itimer t) =>
    let (t, signal) := t.disarm p.signal
    { p with signal }.put name (.itimer t)
  | some (.thread t) => p.put name (.thread t.disarm)

/-- Masks the trigger of a name. Only the signal can be masked, but any interval-timer trigger
masks it, the owner or not. -/
def block (name : String) : TriggerSet :=
  match p.find name with
  | some (.itimer _) => { p with signal := p.signal.block }
  | _ => p

def unblock (name : String) : TriggerSet :=
  match p.find name with
  | some (.itimer _) => p.settle p.signal.unblock
  | _ => p

/-- Sends the signal, if it has a handler; tells whether it was sent. -/
def raise : Bool × TriggerSet :=
  if p.signal.disposition = .sampling then (true, p.settle p.signal.send) else (false, p)

/-- Sends the signal `n` times; tells how often it was sent. -/
def raiseN : Nat → TriggerSet → Nat × TriggerSet
  | 0, p => (0, p)
  | n + 1, p =>
    let (sent, p) := p.raise
    let (more, p) := raiseN n p
    (more + (if sent then 1 else 0), p)

/-- Lets one interval of a trigger pass. -/
def elapse (name : String) : TriggerSet :=
  match p.find name with
  | some (.itimer _) => p.settle p.signal.expire
  | some (.thread t) => p.count t.wake
  | none => p

/-- Installs a trigger with a tick of its own, lets `n` intervals pass, disarms it, and lets one
more pass. -/
def trial (name : String) (interval : Span) (n : Nat) : Except TriggerError Trial × TriggerSet :=
  match ({ p with trialTicks := 0 } : TriggerSet).install name interval .trial with
  | (.error e, p) => (.error e, p)
  | (.ok (), p) =>
    let armed := (p.find name).any RealTrigger.armed
    let p := Nat.repeat (elapse · name) n p
    let came := n ≤ p.trialTicks
    let p := p.disarm name
    let after := p.elapse name
    (.ok ⟨came, armed, after.trialTicks = p.trialTicks⟩, after)

end TriggerSet

end StackSampler
