import StackSampler.Command.Line
import StackSampler.Text.Align
import StackSampler.Text.Split

/-!
# Help

What the program tells about itself. Switches stand in two columns; where one of them is too wide for
that, every text stands below its switch. Full help, of a command with values to choose from, tells
more about each switch and leaves a line free between them.

A text that is told about a switch may have several lines, because a variable of the environment may
hold anything. They all start in the same column.
-/

namespace StackSampler.Command

def programName : String := "sprof"

def programAbout : String :=
  "Bounded-memory statistical call-stack sampling profiler for embedding in language runtimes"

namespace Label

variable (l : Label)

/-- What stands for the value. -/
def placeholder : String :=
  String.ofList (l.long.toList.map fun c => if c = '-' then '_' else c.toUpper)

/-- The long name, and what stands for the value. -/
def spelling : String :=
  "--" ++ l.long ++ if l.takesValue then " <" ++ l.placeholder ++ ">" else ""

/-- Both names. -/
def head : String :=
  (match l.short with
    | some c => String.ofList [' ', ' ', '-', c, ',', ' ']
    | none => "      ") ++ l.spelling

/-- What is told in brackets. Full help tells about choices elsewhere. -/
def hints (environment : Environment) (full : Bool) : List String :=
  let source := l.source.map fun name =>
    "[env: " ++ name ++ "=" ++ (environment name).getD "" ++ "]"
  let fallback := l.fallback.map fun text => "[default: " ++ text ++ "]"
  let choices := if full || l.choices.isEmpty then none else
    some ("[possible values: " ++ ", ".intercalate (l.choices.map (·.1)) ++ "]")
  [source, fallback, choices].filterMap id

/-- The text about a switch in short help. -/
def brief (environment : Environment) : String :=
  " ".intercalate (l.about :: l.hints environment false)

end Label

/-! ## Layouts -/

/-- Columns of a line. -/
def lineWidth : Nat := 100

def indent : String := "          "

/-- The widest spelling. -/
def widest (labels : List Label) : Nat := (labels.map (·.spelling.length)).foldl max 0

/-- Whether the text about a switch is too wide for its column, where that starts in the right
three fifths of the line. -/
def isCrowded (environment : Environment) (widest : Nat) (l : Label) : Bool :=
  let taken := widest + 8
  let hints := " ".intercalate (l.hints environment false)
  2 * lineWidth < 5 * taken && lineWidth - taken < l.about.length + hints.length

/-- Two columns. -/
def twoColumns (rows : List (String × String)) : List String :=
  let width := (rows.map (·.1.length)).foldl max 0 + 2
  rows.map fun (left, right) => String.ofList (Text.padRight width left.toList) ++ right

def textLines (text : String) : List String :=
  (Text.splitAt '\n' text.toList).map String.ofList

/-- A text below its switch. -/
def indented (text : String) : List String := (textLines text).map (indent ++ ·)

/-- A text beside its switch, which gets `width` columns. -/
def beside (width : Nat) (head text : String) : List String :=
  let column (cs : List Char) : String := String.ofList (Text.padRight width cs)
  match textLines text with
  | [] => [head]
  | line :: lines => (column head.toList ++ line) :: lines.map (column [] ++ ·)

/-- The switches in short help. -/
def briefLines (environment : Environment) (labels : List Label) : List String :=
  if labels.any (isCrowded environment (widest labels)) then
    labels.flatMap fun l => l.head :: indented (l.brief environment)
  else
    labels.flatMap fun l => beside (widest labels + 8) l.head (l.brief environment)

/-- A switch in full help. -/
def fullLines (environment : Environment) (l : Label) : List String :=
  let about := if l.long = "help" then "Print help (see a summary with '-h')" else l.about
  let choices := if l.choices.isEmpty then [] else
    "" :: (indent ++ "Possible values:") ::
      l.choices.map fun (name, about) => indent ++ "- " ++ name ++ ": " ++ about
  let hints := l.hints environment true
  l.head :: indented about ++ choices ++
    if hints.isEmpty then [] else indent :: hints.flatMap indented

/-- Blocks of lines with a free line between them. -/
def spaced : List (List String) → List String
  | [] => []
  | [block] => block
  | block :: blocks => block ++ "" :: spaced blocks

/-! ## Texts -/

def usageLine (rest : List String) : String := " ".intercalate ("Usage:" :: programName :: rest)

namespace Form

variable (form : Form)

/-- The switches that a command cannot do without. -/
def required : List Label := form.labels.filter Label.required

/-- Whether full help tells more than short help. -/
def isDetailed : Bool := form.labels.any fun l => !l.choices.isEmpty

def helpLines (environment : Environment) (full : Bool) : List String :=
  [form.about, "", usageLine (form.name :: "[OPTIONS]" :: form.required.map Label.spelling), "",
    "Options:"] ++
    if full && form.isDetailed then spaced (form.labels.map (fullLines environment))
    else briefLines environment form.labels

end Form

def helpAbout : String := "Print this message or the help of the given subcommand(s)"

/-- Help about the whole program. -/
def programHelp (environment : Environment) : List String :=
  let rows := forms.map fun form => ("  " ++ form.name, form.about)
  [programAbout, "", usageLine ["[OPTIONS]", "<COMMAND>"], "", "Commands:"] ++
    twoColumns (rows ++ [("  " ++ helpName, helpAbout)]) ++
    ["", "Options:"] ++ briefLines environment (programSwitches.map Switch.toLabel)

/-- Help about help. -/
def helpHelp : List String :=
  [helpAbout, "", usageLine [helpName, "[COMMAND]..."], "", "Arguments:",
    "  [COMMAND]...  Print help for the subcommand(s)"]

/-- Help about a topic. -/
def helpLines (environment : Environment) (topic : Option String) (full : Bool) : List String :=
  match topic with
  | none => programHelp environment
  | some name =>
    match forms.find? fun form => form.name == name with
    | some form => form.helpLines environment full
    | none => helpHelp

end StackSampler.Command
