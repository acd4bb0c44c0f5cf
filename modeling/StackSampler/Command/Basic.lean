import StackSampler.Files.Output
import StackSampler.Sampling.Session
import StackSampler.Text.Split

/-!
# Commands

What the commands have in common: they change files, write lines to the terminal, and fail with a
chain of messages that leads from what was tried to what went wrong.
-/

namespace StackSampler.Command

/-- Why a command failed. -/
inductive CommandError where
  | noDuration
  | longInterval (interval duration : Span)
  | badConfig (cause : ConfigError)
  | noStacks
  | notStarted (cause : ProfilerError)
  | snapshotNotWritten (cause : Files.OutputError)
  | stacksNotWritten (cause : Files.OutputError)
  | notRendered (cause : FlamegraphError)
  | imageNotWritten (cause : Files.OutputError)
  | notRead (path : String) (cause : Files.OutputError)
  | overflowNotFirst
  | wrongTotal (entries samples : Nat)
  deriving Repr

namespace CommandError

/-- The messages of an error that starting to sample may meet. -/
def startChain (e : ProfilerError) : List String :=
  e.message :: match e with
    | .config cause => [cause.message]
    | .trigger cause => [cause.message]

/-- All messages, the outermost first. -/
def chain : CommandError → List String
  | .noDuration => ["duration must be greater than 0"]
  | .longInterval interval duration =>
    ["interval (" ++ interval.text ++ ") is longer than the recording duration (" ++
      duration.text ++ ")"]
  | .badConfig cause => ["Invalid profiler configuration", cause.message]
  | .noStacks => ["top_stacks must be greater than 0"]
  | .notStarted cause => "Failed to start sampling" :: startChain cause
  | .snapshotNotWritten cause => "Failed to write snapshot JSON" :: cause.chain
  | .stacksNotWritten cause => "Failed to write collapsed stacks" :: cause.chain
  | .notRendered cause => ["Failed to generate flamegraph", cause.message]
  | .imageNotWritten cause => "Failed to write flamegraph SVG" :: cause.chain
  | .notRead path cause => ("Failed to read " ++ path) :: cause.chain
  | .overflowNotFirst => ["First entry is not the overflow entry"]
  | .wrongTotal entries samples =>
    ["Entries sum to " ++ Nat.repr entries ++ " but sample_count is " ++ Nat.repr samples]

def message (e : CommandError) : String := e.chain.headD ""

/-- A message behind a margin: its further lines have the second one. -/
def behind (first others : String) (message : String) : List String :=
  match Text.splitAt '\n' message.toList with
  | [] => []
  | line :: lines =>
    (first ++ String.ofList line) :: lines.map fun line => others ++ String.ofList line

/-- The report of an error: the first message, and the others below it, numbered if there are
several. -/
def report (e : CommandError) : List String :=
  behind "Error: " "" e.message ++ match e.chain.tail with
    | [] => []
    | [cause] => "" :: "Caused by:" :: behind "    " "    " cause
    | causes =>
      let numbered := causes.mapIdx fun i cause =>
        behind ("    " ++ Nat.repr i ++ ": ") "       " cause
      "" :: "Caused by:" :: numbered.flatten

end CommandError

/-- What a command works on. -/
structure Desk where
  files : Files.Tree := {}
  /-- The lines on the terminal. -/
  lines : List String := []
  deriving Inhabited

/-- What was written to the terminal. -/
def Desk.output (d : Desk) : String := String.join (d.lines.map (· ++ "\n"))

/-- Changes the desk and may fail on the way. -/
abbrev Job := ExceptT CommandError (StateM Desk)

/-- Writes a line to the terminal. -/
def say (line : String) : Job Unit := modify fun d => { d with lines := d.lines ++ [line] }

/-- Works on files; `wrap` says what was tried. -/
def onFiles {α : Type} (wrap : Files.OutputError → CommandError) (act : Files.Action α) :
    Job α := do
  let (result, files) := act.run.run (← get).files
  modify fun d => { d with files }
  match result with
  | .ok a => return a
  | .error e => throw (wrap e)

/-- Draws an image of stacks. -/
def draw (collapsed : List Collapsed) (config : FlamegraphConfig) : Job Flamegraph.Image :=
  match Flamegraph.render collapsed config with
  | .ok image => pure image
  | .error e => throw (.notRendered e)

end StackSampler.Command
