import StackSampler.Json.Decode
import StackSampler.Json.Value
import StackSampler.Snapshot.Basic

/-!
# The snapshot format

Snapshots as JSON. A snapshot is an object with a field for each part, times are RFC 3339 text, spans
are seconds and nanoseconds, and a frame is either the name `overflow` or a function under
`function`. The format is the same for frames of any kind `φ`: named functions in files, identities in
memory.

* `Snapshot.toValue` and `Snapshot.reader` write and read the format.
* `Snapshot.text` is the text of a file, `Snapshot.ofBytes` reads one.
-/

namespace StackSampler

open Json Json.Reader

/-- The largest number of nanoseconds in the text of a span. -/
def largestNanos : Nat := 4294967295

namespace Mode

def reader : Reader Mode :=
  choice [.plain Mode.idle.text .idle, .plain Mode.sampling.text .sampling]

end Mode

namespace Span

def toValue (s : Span) : Value := .object [("secs", .number s.secs), ("nanos", .number s.nanos)]

/-- A span while it is read. -/
structure Draft where
  secs : Option Nat := none
  nanos : Option Nat := none

/-- Whole seconds among the nanoseconds are carried over. -/
def Draft.finish (d : Draft) : Except ValueFault Span := do
  let secs ← need "secs" d.secs
  let nanos ← need "nanos" d.nanos
  let carried := secs + nanos / nanosPerSec
  if Decimal.largestWord < carried then throw .spanOverflow
  return ⟨carried, nanos % nanosPerSec⟩

def reader : Reader Span :=
  record
    { title := "struct Duration"
      arity := "struct Duration"
      fields :=
        [.of "secs" Draft.secs (fun d n => { d with secs := some n }) (natural Decimal.largestWord "u64"),
         .of "nanos" Draft.nanos (fun d n => { d with nanos := some n })
          (natural largestNanos "u32")]
      strict := true
      start := {}
      finish := Draft.finish }

end Span

namespace Instant

def toValue (t : Instant) : Value := .string t.text

def reader : Reader Instant := do
  let s ← Reader.text "an RFC 3339 formatted date and time string"
  match Instant.read s with
  | .ok t => return t
  | .error e => refuse (.time e)

end Instant

variable {φ : Type}

namespace Frame

def toValue (f : φ → Value) : Frame φ → Value
  | .overflow => .string "overflow"
  | .function a => .object [("function", f a)]

def reader (r : Reader φ) : Reader (Frame φ) :=
  choice [.plain "overflow" .overflow, .carrying "function" (.function <$> r)]

end Frame

namespace Entry

def toValue (f : φ → Value) (e : Entry φ) : Value :=
  .object [("frames", .array (e.frames.map (Frame.toValue f))), ("count", .number e.count)]

/-- An entry while it is read. -/
structure Draft (φ : Type) where
  frames : Option (List (Frame φ)) := none
  count : Option Nat := none

def Draft.finish (d : Draft φ) : Except ValueFault (Entry φ) := do
  return ⟨← need "frames" d.frames, ← need "count" d.count⟩

def reader (r : Reader φ) : Reader (Entry φ) :=
  record
    { title := "struct SnapshotEntry"
      arity := "struct SnapshotEntry with 2 elements"
      fields :=
        [.of "frames" Draft.frames (fun d fs => { d with frames := some fs })
          (array (Frame.reader r)),
         .of "count" Draft.count (fun d n => { d with count := some n })
          (natural Decimal.largestWord "u64")]
      strict := false
      start := {}
      finish := Draft.finish }

end Entry

namespace Snapshot

def toValue (f : φ → Value) (s : Snapshot φ) : Value :=
  .object
    [("version", .string s.version),
     ("mode", .string s.mode.text),
     ("start_time", .ofOption Instant.toValue s.startTime),
     ("stop_time", s.stopTime.toValue),
     ("sample_interval", .ofOption Span.toValue s.interval),
     ("sample_count", .number s.samples),
     ("entries", .array (s.entries.map (Entry.toValue f)))]

/-- A snapshot while it is read. -/
structure Draft (φ : Type) where
  version : Option String := none
  mode : Option Mode := none
  startTime : Option (Option Instant) := none
  stopTime : Option Instant := none
  interval : Option (Option Span) := none
  samples : Option Nat := none
  entries : Option (List (Entry φ)) := none

/-- Start time and interval may be left out. -/
def Draft.finish (d : Draft φ) : Except ValueFault (Snapshot φ) := do
  return {
    version := ← need "version" d.version
    mode := ← need "mode" d.mode
    startTime := d.startTime.join
    stopTime := ← need "stop_time" d.stopTime
    interval := d.interval.join
    samples := ← need "sample_count" d.samples
    entries := ← need "entries" d.entries }

def reader (r : Reader φ) : Reader (Snapshot φ) :=
  record
    { title := "struct Snapshot"
      arity := "struct Snapshot with 7 elements"
      fields :=
        [.of "version" Draft.version (fun d v => { d with version := some v }) (text "a string"),
         .of "mode" Draft.mode (fun d m => { d with mode := some m }) Mode.reader,
         .of "start_time" Draft.startTime (fun d t => { d with startTime := some t })
          (optional Instant.reader),
         .of "stop_time" Draft.stopTime (fun d t => { d with stopTime := some t }) Instant.reader,
         .of "sample_interval" Draft.interval (fun d i => { d with interval := some i })
          (optional Span.reader),
         .of "sample_count" Draft.samples (fun d n => { d with samples := some n })
          (natural Decimal.largestWord "u64"),
         .of "entries" Draft.entries (fun d es => { d with entries := some es })
          (array (Entry.reader r))]
      strict := false
      start := {}
      finish := Draft.finish }

/-- The text of a snapshot file. -/
def text (s : Snapshot String) : String := (s.toValue .string).pretty

/-- Reads a snapshot from cells. -/
def ofCells (r : Reader φ) (cs : List Cell) : Except Fault (Snapshot φ) :=
  ((document (reader r)).run cs).map Prod.fst

/-- A function name in a file. -/
def name : Reader String := Reader.text "a string"

/-- Reads a snapshot file. -/
def ofBytes (b : ByteArray) : Except Fault (Snapshot String) := ofCells name (cellsOfBytes b)

/-- The text of a snapshot of identities. -/
def rawText (s : Snapshot FrameId) : String := (s.toValue fun f => .number f.toNat).compact

/-- Reads a snapshot of identities. -/
def ofRawText (t : String) : Except Fault (Snapshot FrameId) :=
  ofCells (FrameId.ofNat <$> natural Decimal.largestWord "u64") (cells t)

end Snapshot

end StackSampler
