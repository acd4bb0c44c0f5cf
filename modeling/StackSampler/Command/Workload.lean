import StackSampler.Sampling.Session

/-!
# The built-in workload

An interpreter that does nothing but call its own functions and burn time in them, so that there is
something to sample. It is a list of steps: entering a function, working in it, leaving it. Each
iteration of its loop evaluates 64 forms, and every eighth one collects garbage.
-/

namespace StackSampler

/-- What the workload does next. -/
inductive WorkStep where
  | enter (f : FrameId)
  | leave
  /-- Some rounds of arithmetic. -/
  | work (rounds : Nat)
  deriving DecidableEq, Repr

namespace Workload

/-- The names of the functions, in the order of their identities. -/
def names : List String := ["command-loop", "eval", "apply", "arith", "concat", "garbage-collect"]

def symbols : SymbolTable := SymbolTable.ofList names

def commandLoop : FrameId := .ofNat 1

def eval : FrameId := .ofNat 2

def apply : FrameId := .ofNat 3

def arith : FrameId := .ofNat 4

def concat : FrameId := .ofNat 5

def garbageCollect : FrameId := .ofNat 6

/-- Frames that the shadow stack has room for: more than any captured depth. -/
def stackCapacity : Nat := Config.depthLimit

/-- Steps inside a function. -/
def within (f : FrameId) (steps : List WorkStep) : List WorkStep := .enter f :: steps ++ [.leave]

/-- Evaluates a form that nests `depth` forms. -/
def evaluate : Nat → List WorkStep
  | 0 => within eval (within arith [.work 600])
  | depth + 1 =>
    within eval <|
      match (depth + 1) % 3 with
      | 0 => within apply (evaluate depth)
      | 1 => within concat (.work 300 :: evaluate depth)
      | _ => evaluate depth

/-- One turn of the command loop. -/
def iteration (i : Nat) : List WorkStep :=
  let forms := (List.range 64).flatMap fun form => evaluate (form % 6)
  let rest := if i % 8 = 7 then within garbageCollect [.work 4000] else []
  within commandLoop (forms ++ rest)

/-- Every iteration works at least once for each form. -/
def visitsPerIteration : Nat := 64

/-- A run of the workload in which one interval passes during each piece of work, until none is
`left`. -/
structure Run where
  session : Session
  left : Nat

def Run.step (r : Run) : WorkStep → Run
  | .enter f => { r with session := r.session.push f }
  | .leave => { r with session := r.session.pop }
  | .work _ => if r.left = 0 then r else ⟨r.session.elapse, r.left - 1⟩

/-- Runs whole iterations until `ticks` intervals have passed. -/
def run (ticks : Nat) (s : Session) : Session :=
  let iterations := (ticks + visitsPerIteration - 1) / visitsPerIteration
  ((List.range iterations).foldl (fun r i => (iteration i).foldl Run.step r) ⟨s, ticks⟩).session

end Workload

end StackSampler
