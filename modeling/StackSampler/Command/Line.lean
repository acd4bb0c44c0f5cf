import StackSampler.Command.Inspect
import StackSampler.Command.Record
import StackSampler.Command.Switch

/-!
# The command line

The commands of the program, with their switches. `parse` finds out what a command line asks for.
-/

namespace StackSampler.Command

/-- What a command line asks for. -/
inductive Invocation where
  | record (args : RecordArgs)
  | validate (path : String)
  | render (input output : String) (config : FlamegraphConfig)
  | schema (full : Bool)
  | version
  deriving Repr, Inhabited

/-- The paths that an invocation reads or writes. -/
def Invocation.paths : Invocation → List String
  | .record a => a.output :: [a.image, a.collapsed].filterMap id
  | .validate path => [path]
  | .render input output _ => [input, output]
  | .schema _ => []
  | .version => []

abbrev Environment := String → Option String

/-- A command: what help tells about it, and how its words are read. -/
structure Form where
  name : String
  about : String
  labels : List Label
  read : Environment → List String → Except Halt Invocation

/-! ## Switches of all commands -/

variable {α : Type}

def verboseSwitch : Switch α :=
  { long := "verbose", short := some 'v', about := "Enable verbose logging"
    takesValue := false, effect := .flag id }

/-- Asks for help about a topic: in full by its long name. -/
def helpSwitch (topic : Option String) (about : String) : Switch α :=
  { long := "help", short := some 'h', about, takesValue := false, effect := .halt (.help topic) }

def versionSwitch : Switch α :=
  { long := "version", short := some 'V', about := "Print version"
    takesValue := false, effect := .halt fun _ => .version }

/-- Switches of a command in the order of its help: its own, with `verbose` behind the first six of
them, then `help`. -/
def allSwitches (topic : String) (own : List (Switch α)) : List (Switch α) :=
  let detailed := own.any fun s => !s.choices.isEmpty
  own.take 6 ++ verboseSwitch :: own.drop 6 ++
    [helpSwitch (some topic) (if detailed then "Print help (see more with '--help')" else "Print help")]

/-- A command whose switches collect its arguments, from `start` on; `finish` refuses arguments that
lack something. -/
def Form.ofSwitches (name about : String) (own : List (Switch α)) (start : α)
    (finish : α → Option Invocation) : Form :=
  let switches := allSwitches name own
  { name, about
    labels := switches.map Switch.toLabel
    read := fun environment words => do
      match finish (← Reading.read switches environment start words) with
      | some invocation => return invocation
      | none => throw .usage }

/-! ## Commands -/

def recordSwitches : List (Switch RecordArgs) :=
  [{ long := "duration-ms", about := "How long to run the workload, in milliseconds"
     fallback := some "2000"
     effect := .number fun n a => { a with duration := .ofMillis n } },
   { long := "interval-ms"
     about := "Sampling interval in milliseconds (0 installs the trigger without firing)"
     source := some "PROFILER_SAMPLE_INTERVAL_MS", fallback := some "10"
     effect := .number fun n a => { a with interval := .ofMillis n } },
   { long := "max-stack-depth", about := "Frames kept per sample"
     source := some "PROFILER_MAX_STACK_DEPTH", fallback := some "16"
     effect := .number fun n a => { a with config := { a.config with depth := n } } },
   { long := "slot-heap-size", about := "Number of aggregation slots"
     source := some "PROFILER_SLOT_HEAP_SIZE", fallback := some "10000"
     effect := .number fun n a => { a with config := { a.config with slots := n } } },
   { long := "trigger", about := "Trigger driving the samples", fallback := some "itimer"
     choices := TriggerKind.all.map fun k => (k.text, k.about)
     effect := .value fun text a =>
       (TriggerKind.ofText? text).map fun trigger => { a with trigger } },
   { long := "output", short := some 'o', about := "Output path for JSON snapshot"
     fallback := some "profile.json"
     effect := .path fun output a => { a with output } },
   { long := "flamegraph", short := some 'f', about := "Output path for SVG flamegraph (optional)"
     effect := .path fun image a => { a with image := some image } },
   { long := "collapsed", about := "Output path for collapsed stacks (optional)"
     effect := .path fun collapsed a => { a with collapsed := some collapsed } },
   { long := "title", about := "Flamegraph title"
     effect := .text fun title a => { a with look := { a.look with title } } },
   { long := "width", about := "Flamegraph width in pixels", fallback := some "1200"
     effect := .number fun width a => { a with look := { a.look with width } } },
   { long := "summary", about := "Print text summary to stdout", takesValue := false
     effect := .flag fun a => { a with summary := true } },
   { long := "top-stacks", about := "Number of stacks in the summary", fallback := some "10"
     effect := .number fun top a => { a with top } }]

def recordForm : Form :=
  .ofSwitches "record" "Profile the built-in workload and write a snapshot" recordSwitches {}
    fun a => some (.record a)

def validateForm : Form :=
  .ofSwitches "validate" "Validate a snapshot JSON file"
    [{ long := "file", short := some 'f', about := "Path to snapshot JSON file", required := true
       effect := .path fun file (_ : Option String) => some file }]
    none fun file => file.map .validate

/-- What drawing a snapshot file needs. -/
structure RenderArgs where
  input : Option String := none
  output : String := "flamegraph.svg"
  look : FlamegraphConfig := {}

def renderForm : Form :=
  .ofSwitches "flamegraph" "Render a flamegraph from a snapshot JSON file"
    [{ long := "input", short := some 'i', about := "Path to snapshot JSON file", required := true
       effect := .path fun input a => { a with input := some input } },
     { long := "output", short := some 'o', about := "Output path for the SVG"
       fallback := some "flamegraph.svg"
       effect := .path fun output a => { a with output } },
     { long := "title", about := "Flamegraph title"
       effect := .text fun title a => { a with look := { a.look with title } } },
     { long := "width", about := "Flamegraph width in pixels", fallback := some "1200"
       effect := .number fun width a => { a with look := { a.look with width } } }]
    ({} : RenderArgs) fun a => a.input.map fun input => .render input a.output a.look

def schemaForm : Form :=
  .ofSwitches "schema" "Display schema information"
    [{ long := "show", about := "Show full schema details", takesValue := false
       effect := .flag fun _ => true }]
    false fun full => some (.schema full)

def versionForm : Form :=
  .ofSwitches "version" "Display version information" [] () fun _ => some .version

/-- All commands. -/
def forms : List Form := [recordForm, validateForm, renderForm, schemaForm, versionForm]

/-- The environment variables that commands read. -/
def sources : List String := forms.flatMap fun form => form.labels.filterMap Label.source

/-! ## The program -/

/-- The command that is no form of its own: it tells about the others. -/
def helpName : String := "help"

/-- The switches in front of a command. -/
def programSwitches : List (Switch Unit) :=
  [verboseSwitch, helpSwitch none "Print help", versionSwitch]

/-- The words behind `help` name what help is wanted about. -/
def helpTopic : List String → Halt
  | [] => .help none true
  | [name] =>
    if name = helpName || forms.any (·.name == name) then .help (some name) true else .usage
  | _ => .usage

/-- The words of the program: its switches, then the name of a command and the command's words. -/
def parseFrom (environment : Environment) (r : Reading Unit) :
    List String → Except Halt Invocation
  | [] => .error .usage
  | word :: rest =>
    if Reading.isSwitch word then do
      parseFrom environment (← r.step programSwitches word) rest
    else if r.closed then .error .usage
    else if word = helpName then .error (helpTopic rest)
    else
      match forms.find? fun form => form.name == word with
      | some form => form.read environment rest
      | none => .error .usage

def parse (environment : Environment) (words : List String) : Except Halt Invocation :=
  parseFrom environment { args := () } words

end StackSampler.Command
