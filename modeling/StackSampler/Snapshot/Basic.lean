import StackSampler.Frame.Symbols
import StackSampler.Time.Instant
import StackSampler.Time.Span
import StackSampler.Total

/-!
# Snapshots

A snapshot is what a profile looks like at one moment: a header and one entry per counted stack,
with the overflow entry for evicted samples in front. Frames are identities at first; resolving a
snapshot turns them into names.
-/

namespace StackSampler

/-- Whether sampling was ever started. -/
inductive Mode where
  | idle
  | sampling
  deriving DecidableEq, Repr, Inhabited

def Mode.text : Mode → String
  | .idle => "idle"
  | .sampling => "sampling"

/-- One frame of an entry. -/
inductive Frame (φ : Type) where
  /-- The mark of the entry that holds evicted samples. -/
  | overflow
  | function (f : φ)
  deriving DecidableEq, Repr, Inhabited

/-- A stack, innermost frame first, and its samples. -/
structure Entry (φ : Type) where
  frames : List (Frame φ)
  count : Nat
  deriving DecidableEq, Repr, Inhabited

structure Snapshot (φ : Type) where
  version : String
  mode : Mode
  /-- When sampling was last started. -/
  startTime : Option Instant
  /-- When the snapshot was taken. -/
  stopTime : Instant
  interval : Option Span
  /-- Samples accepted, evicted ones included. -/
  samples : Nat
  entries : List (Entry φ)
  deriving DecidableEq, Repr, Inhabited

/-- The version of the snapshot format. -/
def schemaVersion : String := "1.0.0"

namespace Frame

variable {φ ψ : Type}

def map (g : φ → ψ) : Frame φ → Frame ψ
  | .overflow => .overflow
  | .function f => .function (g f)

def function? : Frame φ → Option φ
  | .overflow => none
  | .function f => some f

end Frame

namespace Entry

variable {φ ψ : Type}

/-- The entry that holds evicted samples. -/
def overflow (count : Nat) : Entry φ := ⟨[.overflow], count⟩

/-- Whether the entry is the overflow mark and nothing else. -/
def isOverflow (e : Entry φ) : Bool :=
  match e.frames with
  | [.overflow] => true
  | _ => false

/-- The function frames, innermost first. -/
def functions (e : Entry φ) : List φ := e.frames.filterMap Frame.function?

def map (g : φ → ψ) (e : Entry φ) : Entry ψ := ⟨e.frames.map (Frame.map g), e.count⟩

end Entry

namespace Snapshot

variable {φ ψ : Type} (s : Snapshot φ)

/-- The count of the first overflow entry. -/
def overflowCount : Nat := ((s.entries.find? Entry.isOverflow).map Entry.count).getD 0

/-- The entries that stand for real stacks. -/
def stackEntries : List (Entry φ) := s.entries.filter fun e => !e.isOverflow

def entriesTotal : Nat := total (s.entries.map Entry.count)

/-- Whether the entries account for every sample. -/
def isConsistent : Bool := s.entriesTotal == s.samples

/-- Changes the function frames and nothing else. -/
def mapFrames (g : φ → ψ) : Snapshot ψ :=
  { version := s.version, mode := s.mode, startTime := s.startTime, stopTime := s.stopTime
    interval := s.interval, samples := s.samples, entries := s.entries.map (Entry.map g) }

/-- Names for identities. -/
def resolve (s : Snapshot FrameId) (symbols : SymbolTable) : Snapshot String :=
  s.mapFrames symbols.display

end Snapshot

end StackSampler
