import StackSampler.Command.Basic
import StackSampler.Command.Workload
import StackSampler.Report.Summary

/-!
# Recording

Runs the workload under the profiler and writes what was sampled: the snapshot always, collapsed
stacks, an image and a summary if they are asked for.

* `RecordArgs.validate` refuses arguments that make no sense together.
* `record` does it all in order; what is written before a fault stays written.
-/

namespace StackSampler.Command

/-- What drives the samples. -/
inductive TriggerKind where
  | itimer
  | thread
  deriving DecidableEq, Repr, Inhabited

namespace TriggerKind

def text : TriggerKind → String
  | .itimer => "itimer"
  | .thread => "thread"

def all : List TriggerKind := [.itimer, .thread]

def ofText? (s : String) : Option TriggerKind := all.find? fun k => k.text == s

def about : TriggerKind → String
  | .itimer => "SIGPROF delivered by the process CPU-time interval timer"
  | .thread => "Dedicated sampling thread ticking on wall-clock time"

def fresh : TriggerKind → Trigger
  | .itimer => .itimer {}
  | .thread => .thread {}

end TriggerKind

structure RecordArgs where
  /-- How long the workload runs. -/
  duration : Span := ⟨2, 0⟩
  interval : Span := .ofMillis 10
  config : Config := {}
  trigger : TriggerKind := .itimer
  /-- The snapshot file. -/
  output : String := "profile.json"
  image : Option String := none
  collapsed : Option String := none
  look : FlamegraphConfig := {}
  summary : Bool := false
  /-- Stacks in the summary. -/
  top : Nat := 10
  deriving Repr, Inhabited

namespace RecordArgs

variable (a : RecordArgs)

/-- Duration and interval are looked at first, then the sizes, then the summary. -/
def validate : Except CommandError Unit :=
  if a.duration.isZero then .error .noDuration
  else if a.interval.longer a.duration then .error (.longInterval a.interval a.duration)
  else
    match a.config.validate with
    | .error e => .error (.badConfig e)
    | .ok () => if a.top = 0 then .error .noStacks else .ok ()

/-- A profiler over an empty stack, at a moment. -/
def session (now : Instant) : Session :=
  { config := a.config, trigger := a.trigger.fresh, clock := now
    stack := ShadowStack.new Workload.stackCapacity }

/-- A profiler that samples. -/
def started (now : Instant) : Except CommandError Session :=
  match (a.session now).start a.interval with
  | (.ok (), s) => .ok s
  | (.error e, _) => .error (.notStarted e)

/-- The intervals that pass during the recording. A zero interval never passes. -/
def ticks : Nat := if a.interval.isZero then 0 else a.duration.toNanos / a.interval.toNanos

end RecordArgs

/-- Stops sampling and names what was sampled. -/
def finish (s : Session) : Snapshot String := s.stop.snapshot.1.resolve Workload.symbols

def ruler : String := String.ofList (List.replicate 80 '=')

/-- The summary of a recording. -/
def tell (s : Snapshot String) (collapsed : List Collapsed) (top : Nat) : Job Unit := do
  say ""
  say ruler
  say "PROFILE SUMMARY"
  say ruler
  say ("Samples:       " ++ Nat.repr s.samples)
  say ("Overflow:      " ++ Nat.repr s.overflowCount)
  say ("Unique Stacks: " ++ Nat.repr s.stackEntries.length)
  say ""
  say (Summary.text collapsed top s.samples)
  say ruler

/-- Writes what was sampled. Where nothing was there is no image. -/
def publish (a : RecordArgs) (s : Snapshot String) : Job Unit := do
  let collapsed := s.collapse
  onFiles .snapshotNotWritten (Files.writeSnapshot a.output s)
  match a.collapsed with
  | some path => onFiles .stacksNotWritten (Files.writeCollapsed path collapsed)
  | none => pure ()
  match a.image with
  | some path =>
    if !collapsed.isEmpty then
      let image ← draw collapsed a.look
      onFiles .imageNotWritten (Files.writeImage path image)
  | none => pure ()
  if a.summary then tell s collapsed a.top

/-- A recording that begins at a moment; `work` runs the workload in a session. -/
def recordBy (work : Session → Session) (a : RecordArgs) (now : Instant) :
    Job (Snapshot String) := do
  match a.started now with
  | .error e => throw e
  | .ok s =>
    let taken := finish (work s)
    publish a taken
    return taken

/-- A recording in which an interval passes during each piece of work. -/
def record (a : RecordArgs) (now : Instant) : Job (Snapshot String) :=
  recordBy (Workload.run a.ticks) a now

/-- A recording with nothing but a duration of its own. -/
def quickRecord (duration : Span) (now : Instant) : Job (Snapshot String) :=
  record { duration } now

end StackSampler.Command
