import StackSampler.Command.Help
import StackSampler.Text.ControlSequence

/-!
# The program

From a command line, an environment and files to what the program leaves behind: an exit code, what
it says, and files.

* The code is 0 for a command that was carried out and for help, 1 for a command that failed, and 2
  for a command line that was refused.
-/

namespace StackSampler.Command

/-- What the program leaves behind. -/
structure Outcome where
  code : Nat
  output : String := ""
  /-- The report of a failure. -/
  report : List String := []
  files : Files.Tree

/-- Carries out what a command line asks for; `work` runs the workload of a recording. -/
def Invocation.run (work : RecordArgs → Session → Session) (now : Instant) :
    Invocation → Job Unit
  | .record a => do
    match a.validate with
    | .error e => throw e
    | .ok () => discard (recordBy (work a) a now)
  | .validate path => Command.validate path
  | .render input output config => Command.render input output config
  | .schema full => Command.schema full
  | .version => Command.version

/-- Lines with their ends. -/
def joinLines (lines : List String) : String := String.join (lines.map (· ++ "\n"))

/-- What a command leaves behind. -/
def outcomeOf (files : Files.Tree) (job : Job Unit) : Outcome :=
  let (result, desk) := job.run.run { files }
  match result with
  | .ok () => { code := 0, output := desk.output, files := desk.files }
  | .error e => { code := 1, output := desk.output, report := e.report, files := desk.files }

/-- Help as it is printed: a variable of the environment cannot send anything to the terminal. -/
def helpText (environment : Environment) (topic : Option String) (full : Bool) : String :=
  String.ofList
    (Text.ControlSequence.shown (joinLines (helpLines environment topic full)).toList)

/-- What a command line that is not carried out leaves behind. -/
def Halt.outcome (environment : Environment) (files : Files.Tree) : Halt → Outcome
  | .usage => { code := 2, files }
  | .help topic full => { code := 0, output := helpText environment topic full, files }
  | .version => { code := 0, output := programName ++ " " ++ programVersion ++ "\n", files }

/-- Runs the program at a moment, in a recording with one interval to each piece of work. -/
def runProgram (environment : Environment) (now : Instant) (files : Files.Tree)
    (words : List String) : Outcome :=
  match parse environment words with
  | .ok invocation => outcomeOf files (invocation.run (fun a => Workload.run a.ticks) now)
  | .error halt => halt.outcome environment files

end StackSampler.Command
