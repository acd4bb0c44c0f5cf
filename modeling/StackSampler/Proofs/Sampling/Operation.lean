import StackSampler.Sampling.Session

/-!
# Runs of a session

What a host does to a profiler one after the other: control calls, ticks from any source, and changes
of the host's own. `Session.perform` is one operation with its answer, `Session.after` what a run of
operations leaves, and `Session.events` its history: which operation was answered how, and what the
clock read then.

* `Session.after_invariant`: what every operation keeps, a run keeps.
-/

namespace StackSampler

/-- Operations on a profiler and its host. -/
inductive Operation where
  | start (interval : Span)
  | stop
  | reset
  | isAllocated
  | snapshot
  /-- A new configuration, as a whole or edited. -/
  | setConfig (config : Config)
  /-- The host fires the hand trigger. -/
  | fire
  /-- The host samples from a safe point. -/
  | sampleNow
  /-- A profiling signal to the thread. -/
  | raise
  /-- Profiling signals to a thread that holds a mask, which it then lifts. -/
  | raiseMasked (times : Nat)
  /-- An interval of the profiler's own trigger passes. -/
  | elapse
  | push (f : FrameId)
  | pop
  | advance (nanos : Int)
  | refuse (on : Bool)
  | setNested (nested : Nat)

/-- What an operation answers. -/
inductive Answer where
  | done
  | started (outcome : Except ProfilerError Unit)
  | told (yes : Bool)
  | counted (n : Nat)
  | taken (snapshot : Snapshot FrameId)

/-- The operations that may run ticks. -/
def Operation.ticks : Operation → Bool
  | .fire | .sampleNow | .raise | .raiseMasked _ | .elapse => true
  | _ => false

/-- An operation in the history of a session. -/
structure Event where
  operation : Operation
  answer : Answer
  /-- What the clock read when the operation began. -/
  clock : Instant

namespace Session

/-- Sends signals one after the other, and counts those that were sent. -/
def raiseMany (times : Nat) (s : Session) : Nat × Session :=
  Nat.repeat (fun (n, s) => (n + s.raise.1.toNat, s.raise.2)) times (0, s)

/-- One operation. -/
def perform (s : Session) : Operation → Answer × Session
  | .start interval => let (outcome, s) := s.start interval; (.started outcome, s)
  | .stop => (.done, s.stop)
  | .reset => (.done, s.reset)
  | .isAllocated => let (yes, s) := s.isAllocated; (.told yes, s)
  | .snapshot => let (taken, s) := s.snapshot; (.taken taken, s)
  | .setConfig config => (.done, s.setConfig config)
  | .fire => let (ran, s) := s.fire; (.told ran, s)
  | .sampleNow => (.done, s.sampleNow)
  | .raise => let (sent, s) := s.raise; (.told sent, s)
  | .raiseMasked times => let (sent, s) := s.masked (raiseMany times); (.counted sent, s)
  | .elapse => (.done, s.elapse)
  | .push f => (.done, s.push f)
  | .pop => (.done, s.pop)
  | .advance nanos => (.done, s.advance nanos)
  | .refuse on => (.done, s.refuse on)
  | .setNested nested => (.done, s.setNested nested)

/-- The session behind a run. -/
def after (s : Session) (ops : List Operation) : Session :=
  ops.foldl (fun s op => (s.perform op).2) s

/-- An operation as the history will have it. -/
def event (s : Session) (op : Operation) : Event := ⟨op, (s.perform op).1, s.clock⟩

/-- The history of a run. -/
def events (s : Session) : List Operation → List Event
  | [] => []
  | op :: ops => s.event op :: (s.perform op).2.events ops

/-- The answers of a run. -/
def answers (s : Session) (ops : List Operation) : List Answer := (s.events ops).map Event.answer

variable {s : Session} {op : Operation} {ops more : List Operation}

@[simp] theorem after_nil : s.after [] = s := rfl

@[simp] theorem after_cons : s.after (op :: ops) = (s.perform op).2.after ops := rfl

theorem after_append : s.after (ops ++ more) = (s.after ops).after more := List.foldl_append

theorem after_concat : s.after (ops ++ [op]) = ((s.after ops).perform op).2 := after_append

theorem events_append : s.events (ops ++ more) = s.events ops ++ (s.after ops).events more := by
  induction ops generalizing s with
  | nil => rfl
  | cons op ops ih => simp only [List.cons_append, events, ih, after_cons]

theorem events_concat : s.events (ops ++ [op]) = s.events ops ++ [(s.after ops).event op] :=
  events_append

/-- **What every operation keeps, a run keeps.** -/
theorem after_invariant {P : Session → Prop} (hstep : ∀ s op, P s → P (s.perform op).2)
    (hs : P s) (ops : List Operation) : P (s.after ops) := by
  induction ops generalizing s with
  | nil => exact hs
  | cons op ops ih => exact ih (hstep s op hs)

end Session

end StackSampler
