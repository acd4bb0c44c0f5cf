import StackSampler.Command.Program
import Std.Time.DateTime.Timestamp

/-!
# The program, run

Reads the arguments, the environment, the files that are named, and the clock; runs the command; then
writes what it left behind. A recording runs the workload for real: each interval that has passed on
the clock when a piece of work is done elapses in the session.
-/

namespace StackSampler.Command

/-- The wall clock. -/
def wallClock : IO Instant := do
  let t ← Std.Time.Timestamp.now
  return Instant.epoch.advance t.toNanosecondsSinceUnixEpoch.val

/-- What the disk has at a path. -/
def onDisk? (path : String) : IO (Option Files.Node) := do
  let file := (← IO.currentDir) / path
  if ← file.isDir then return some .directory
  try
    return some (.file (.bytes (← IO.FS.readBinFile file)))
  catch _ => return none

/-- The part of the disk that paths lead through. -/
def loadTree (paths : List String) : IO Files.Tree := do
  let here := (Files.Path.ofText (← IO.currentDir).toString).segments
  let mut tree := Files.Tree.rooted here
  for path in paths.flatMap fun text => (Files.Path.ofText text).trail do
    if let some node ← onDisk? path then
      tree := tree.learn path node
  return tree

/-- Writes what is new or different. -/
def saveTree (earlier later : Files.Tree) : IO Unit := do
  for (place, node) in later.changes earlier do
    let path := "/" ++ "/".intercalate place
    match node with
    | .directory => IO.FS.createDirAll path
    | .file content => IO.FS.writeBinFile path content.toBytes

/-- Rounds of arithmetic that take a while. -/
def spin (rounds : Nat) (x : UInt64) : UInt64 :=
  Nat.fold rounds (fun i _ x => ((x <<< 5 ||| x >>> 59) ^^^ i.toUInt64) * 0x100000001b3) x

/-- A recording in progress. -/
structure Live where
  session : Session
  /-- Intervals that have elapsed. -/
  ticks : Nat := 0
  /-- The result of all work so far. -/
  sum : UInt64 := 0

/-- One step of the workload; `due` tells how many intervals have passed on the clock. -/
def Live.step (due : IO Nat) (l : Live) : WorkStep → IO Live
  | .enter f => return { l with session := l.session.push f }
  | .leave => return { l with session := l.session.pop }
  | .work rounds => do
    let sum := spin rounds l.sum
    let now ← due
    let session := Nat.repeat Session.elapse (now - l.ticks) l.session
    return { session, ticks := max l.ticks now, sum }

/-- Iterations of the workload until the recording is over. -/
partial def Live.run (elapsed : IO Nat) (a : RecordArgs) (i : Nat) (l : Live) : IO Live := do
  if a.duration.toNanos ≤ (← elapsed) then return l
  let due : IO Nat := do
    if a.interval.isZero then return 0
    return (← elapsed) / a.interval.toNanos
  let l ← (Workload.iteration i).foldlM (Live.step due) l
  l.run elapsed a (i + 1)

/-- Runs the workload of a recording that starts now. Nothing runs where it does not start. -/
def live (now : Instant) (a : RecordArgs) : IO (Session → Session) := do
  match a.validate, a.started now with
  | .ok (), .ok session =>
    let begun ← IO.monoNanosNow
    let elapsed : IO Nat := do return (← IO.monoNanosNow) - begun
    let l ← Live.run elapsed a 0 { session }
    let passed ← elapsed
    return fun _ => l.session.advance passed
  | _, _ => return id

/-- The environment variables that commands read. -/
def environment : IO Environment := do
  let found ← sources.filterMapM fun name => do return (← IO.getEnv name).map (name, ·)
  return fun name => found.lookup name

/-- Runs the program on words. -/
def perform (words : List String) : IO Outcome := do
  let environment ← environment
  match parse environment words with
  | .error halt => return halt.outcome environment {}
  | .ok invocation =>
    let files ← loadTree invocation.paths
    let now ← wallClock
    let work ← match invocation with
      | .record a => live now a
      | _ => pure id
    let outcome := outcomeOf files (invocation.run (fun _ => work) now)
    saveTree files outcome.files
    return outcome

end StackSampler.Command

open StackSampler.Command in
def main (words : List String) : IO UInt32 := do
  let outcome ← perform words
  IO.print outcome.output
  for line in outcome.report do
    IO.eprintln line
  return outcome.code.toUInt32
