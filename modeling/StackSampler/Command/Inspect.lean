import StackSampler.Command.Basic

/-!
# Commands on files

Checking a snapshot file, drawing one, and the texts about the format and the program.
-/

namespace StackSampler.Command

/-- What makes a snapshot well formed: the overflow entry comes first, and the entries account for
every sample. -/
def wellFormed (s : Snapshot String) : Except CommandError Unit :=
  if !s.entries.head?.any Entry.isOverflow then .error .overflowNotFirst
  else if !s.isConsistent then .error (.wrongTotal s.entriesTotal s.samples)
  else .ok ()

/-- Checks a snapshot file and tells its figures. -/
def validate (path : String) : Job Unit := do
  say ("Validating snapshot: " ++ path)
  let s ← onFiles (.notRead path) (Files.readSnapshot path)
  match wellFormed s with
  | .error e => throw e
  | .ok () => pure ()
  say "✓ Valid snapshot JSON"
  say ("  Version: " ++ s.version)
  say ("  Mode: " ++ s.mode.text)
  say ("  Samples: " ++ Nat.repr s.samples)
  say ("  Overflow: " ++ Nat.repr s.overflowCount)
  say ("  Stacks: " ++ Nat.repr s.stackEntries.length)
  if s.version ≠ schemaVersion then
    say ("  Note: schema v" ++ s.version ++ " differs from current v" ++ schemaVersion)

/-- Draws a snapshot file. -/
def render (input output : String) (config : FlamegraphConfig) : Job Unit := do
  let s ← onFiles (.notRead input) (Files.readSnapshot input)
  let image ← draw s.collapse config
  onFiles .imageNotWritten (Files.writeImage output image)
  say ("✓ Flamegraph written to: " ++ output)

/-- The format of snapshots, in short or in full. -/
def schemaLines (full : Bool) : List String :=
  ["Sampling Profiler Snapshot Schema", "Current Version: " ++ schemaVersion, ""] ++
  if full then
    ["Schema Structure:",
     "  version: string           - Schema version (e.g., '1.0.0')",
     "  mode: string              - 'idle' or 'sampling'",
     "  start_time: string?       - ISO 8601 time sampling last started",
     "  stop_time: string         - ISO 8601 time the snapshot was taken",
     "  sample_interval: object?  - \x7b secs, nanos \x7d",
     "  sample_count: number      - Samples accepted, evicted ones included",
     "  entries: array            - Overflow entry first, then one per stack",
     "    frames: array           - Innermost first; 'overflow' or \x7b function: name \x7d",
     "    count: number           - Samples attributed to this stack"]
  else ["Use --show for detailed schema information"]

/-- The version of the program. -/
def programVersion : String := "0.1.0"

def versionLines : List String :=
  ["sprof v" ++ programVersion, "Snapshot Schema: v" ++ schemaVersion, "",
   "A bounded-memory statistical call-stack sampling profiler."]

def schema (full : Bool) : Job Unit := (schemaLines full).forM say

def version : Job Unit := versionLines.forM say

end StackSampler.Command
