import StackSampler.Sampling.HandTrigger
import StackSampler.Sampling.ProfSignal
import StackSampler.Sampling.Shared
import StackSampler.Sampling.ShadowStack
import StackSampler.Sampling.ThreadTrigger
import StackSampler.Snapshot.Export

/-!
# Profiling sessions

A session is a profiler together with its host: the shadow stack that it samples, the clock, and the
triggers. The control calls (`start`, `stop`, `reset`, `snapshot`, `isAllocated`) mask the
profiler's trigger while they work on the shared store.

* `start` allocates the store if there is none, then installs the trigger; mode, start time and
  interval change only when both succeed.
* `stop` disarms and keeps everything else; `reset` gives the store up and keeps everything else.
* A tick reads the stack, then runs the ticks that the host fires from inside it, then counts.
-/

namespace StackSampler

/-- Why sampling did not start. -/
inductive ProfilerError where
  | config (cause : ConfigError)
  | trigger (cause : TriggerError)
  deriving DecidableEq, Repr

def ProfilerError.message : ProfilerError → String
  | .config cause => "Invalid profiler configuration: " ++ cause.message
  | .trigger cause => "Trigger installation failed: " ++ cause.message

/-- The trigger that a profiler owns. The hand trigger itself belongs to the host. -/
inductive Trigger where
  | hand
  | itimer (t : ItimerTrigger)
  | thread (t : ThreadTrigger Unit)
  deriving Repr, Inhabited

/-- A profiler and its host. There is one tick, so ticks carry no name. -/
structure Session where
  config : Config := {}
  shared : Shared := {}
  mode : Mode := .idle
  startTime : Option Instant := none
  interval : Option Span := none
  trigger : Trigger := .hand
  stack : ShadowStack
  clock : Instant
  hand : HandTrigger Unit := {}
  signal : ProfSignal Unit := {}
  /-- How often a tick fires the hand trigger from inside. -/
  nested : Nat := 0
  deriving Repr, Inhabited

namespace Session

/-! ## Ticks -/

/-- Fires the hand trigger; `tick` runs the tick that it asks for. -/
def fireWith (tick : Session → Session) (s : Session) : Bool × Session :=
  match s.hand.fire with
  | (none, hand) => (false, { s with hand })
  | (some (), hand) => (true, tick { s with hand })

/-- One tick; ticks that are fired from inside it are followed `levels` deep. A tick that finds a
store reads the stack first, then fires, then counts what it read. -/
def tickAt : Nat → Session → Session
  | 0, s => s
  | levels + 1, s =>
    match s.shared.acquire with
    | none => { s with shared := s.shared.miss }
    | some held =>
      match held.store with
      | none => { s with shared := held.release }
      | some _ =>
        let stack := s.stack
        let fire (s : Session) : Session := (fireWith (tickAt levels) s).2
        let s := Nat.repeat fire s.nested { s with shared := held }
        { s with shared := (s.shared.capture stack.read).release }

/-- One tick. A tick inside a tick finds the flag taken and goes no deeper: two levels are all. -/
def tick : Session → Session := tickAt 2

/-- Fires the hand trigger once; tells whether a tick ran. -/
def fire (s : Session) : Bool × Session := fireWith tick s

/-- Runs one tick at once, as a host does from its own safe points. -/
def sampleNow (s : Session) : Session := s.tick

/-- Runs the tick that the signal brought, if it brought one. -/
def deliver (s : Session) : Option Unit × ProfSignal Unit → Session
  | (none, signal) => { s with signal }
  | (some (), signal) => tick { s with signal }

/-- Sends the profiling signal to the thread, where it has a handler; tells whether it was sent. -/
def raise (s : Session) : Bool × Session :=
  if s.signal.disposition = .sampling then (true, s.deliver s.signal.send) else (false, s)

/-- Lets one interval of the profiler's own trigger pass. The hand trigger has none. -/
def elapse (s : Session) : Session :=
  match s.trigger with
  | .hand => s
  | .itimer _ => s.deliver s.signal.expire
  | .thread t => if t.armed then s.tick else s

/-! ## The trigger -/

def isArmed (s : Session) : Bool :=
  match s.trigger with
  | .hand => s.hand.armed
  | .itimer t => t.armed
  | .thread t => t.armed

/-- Masks the profiler's trigger. A sampling thread cannot be masked. -/
def block (s : Session) : Session :=
  match s.trigger with
  | .hand => { s with hand := s.hand.block }
  | .itimer _ => { s with signal := s.signal.block }
  | .thread _ => s

/-- Gives up a mask, and runs the tick of a signal that waited for it. -/
def unblock (s : Session) : Session :=
  match s.trigger with
  | .hand => { s with hand := s.hand.unblock }
  | .itimer _ => s.deliver s.signal.unblock
  | .thread _ => s

/-- Runs `act` under a mask. -/
def masked {α : Type} (act : Session → α × Session) (s : Session) : α × Session :=
  let (a, s) := act s.block
  (a, s.unblock)

/-- Installs the session's tick at an interval. -/
def install (interval : Span) (s : Session) : Except TriggerError Unit × Session :=
  match s.trigger with
  | .hand =>
    match s.hand.install interval () with
    | .error e => (.error e, s)
    | .ok hand => (.ok (), { s with hand })
  | .itimer t =>
    let done := t.install s.signal interval ()
    (done.result, deliver { s with trigger := .itimer done.trigger } (done.delivered, done.signal))
  | .thread t => (.ok (), { s with trigger := .thread (t.install interval ()) })

/-- Disarms the profiler's trigger. -/
def disarm (s : Session) : Session :=
  match s.trigger with
  | .hand => { s with hand := s.hand.disarm }
  | .itimer t =>
    let (t, signal) := t.disarm s.signal
    { s with trigger := .itimer t, signal }
  | .thread t => { s with trigger := .thread t.disarm }

/-! ## Control calls -/

/-- Whether a store is allocated. The mask is lifted before the flag is given back, so the tick of a signal
that waited finds the flag taken and is missed. -/
def isAllocated (s : Session) : Bool × Session :=
  let (yes, s) := masked (fun s => (s.shared.store.isSome, { s with shared := s.shared.hold })) s
  (yes, { s with shared := s.shared.release })

/-- Allocates a store of the present configuration unless there is one. -/
def ensureAllocated : Session → Except ConfigError Unit × Session :=
  masked fun s =>
    if s.shared.store.isSome then (.ok (), s)
    else
      match s.config.validate with
      | .error e => (.error e, s)
      | .ok () => (.ok (), { s with shared := { s.shared with store := some (Store.new s.config) } })

/-- Starts sampling. -/
def start (interval : Span) (s : Session) : Except ProfilerError Unit × Session :=
  match s.ensureAllocated with
  | (.error e, s) => (.error (.config e), s)
  | (.ok (), s) =>
    match s.install interval with
    | (.error e, s) => (.error (.trigger e), s)
    | (.ok (), s) =>
      (.ok (), { s with mode := .sampling, startTime := some s.clock, interval := some interval })

/-- Stops the trigger. -/
def stop (s : Session) : Session := (masked (fun s => ((), s.disarm)) s).2

/-- Gives up the store and every count in it. -/
def reset (s : Session) : Session :=
  (masked (fun s => ((), { s with shared := { s.shared with store := none } })) s).2

/-- A snapshot at the present clock reading. -/
def snapshot : Session → Snapshot FrameId × Session :=
  masked fun s =>
    (Snapshot.ofStore s.shared.store s.mode s.startTime s.clock s.interval, s)

/-! ## The host -/

def push (f : FrameId) (s : Session) : Session := { s with stack := s.stack.push f }

def pop (s : Session) : Session := { s with stack := s.stack.pop }

/-- Moves the clock. -/
def advance (nanos : Int) (s : Session) : Session := { s with clock := s.clock.advance nanos }

/-- Whether the hand trigger refuses installs from now on. -/
def refuse (on : Bool) (s : Session) : Session := { s with hand := s.hand.refuse on }

def setConfig (config : Config) (s : Session) : Session := { s with config }

def setNested (nested : Nat) (s : Session) : Session := { s with nested }

end Session

end StackSampler
