import StackSampler.Config
import StackSampler.Store.Table
import StackSampler.Total

/-!
# Sample stores

A store is all that a tick changes: the table of counted backtraces, the scratch buffer that a stack
is captured into, and two totals. Every accepted sample is in `total`; what evictions spilled is in
`others`; the counts of the used slots and `others` always add up to `total`.

* `Store.record` counts a given stack, `Store.recordFrom` one that a source writes into the buffer.
-/

namespace StackSampler

/-- `frames` written over the start of `buffer`, as far as it reaches. -/
def Backtrace.overlay (frames buffer : Backtrace) : Backtrace :=
  frames.take buffer.length ++ buffer.drop frames.length

/-- Counted samples. -/
structure Store where
  table : Table
  /-- The stack captured last, padded to the full depth. -/
  scratch : Backtrace
  /-- Samples accepted. -/
  total : Nat := 0
  /-- Samples whose slot was evicted. -/
  others : Nat := 0
  deriving Repr, Inhabited

namespace Store

/-- An empty store of the configured size. -/
def new (c : Config) : Store :=
  { table := Table.new c.slots c.depth, scratch := Backtrace.blank c.depth }

variable (s : Store)

/-- Counts the backtrace in the buffer. One whose innermost frame is absent is discarded and
changes nothing. -/
def commit : Bool × Store :=
  if s.scratch.isBlank then (false, s)
  else
    match s.table.place s.scratch with
    | none => (false, s)
    | some placed =>
      (true, { s with
        table := placed.table.increment placed.index
        total := s.total + 1
        others := s.others + placed.spilled })

/-- Counts the stack that `source` writes into a blanked buffer. -/
def recordFrom (source : Backtrace → Backtrace) : Bool × Store :=
  { s with scratch := source (s.scratch.map fun _ => FrameId.absent) }.commit

/-- Counts `frames`, cut or padded to the captured depth. -/
def record (frames : Backtrace) : Bool × Store :=
  let rest := (s.scratch.drop frames.length).map fun _ => FrameId.absent
  { s with scratch := frames.take s.scratch.length ++ rest }.commit

def evictions : Nat := s.table.evictions

def capacity : Nat := s.table.pool.capacity

def depth : Nat := s.table.pool.depth

/-- The number of slots in use. -/
def usedSlots : Nat := s.table.pool.usedLen

/-- The slots in use, in storage order. -/
def used : List Slot := s.table.pool.used

/-- The count of a backtrace of full depth, if a slot holds it. -/
def countOf (frames : Backtrace) : Option Nat :=
  if frames.length = s.depth then (s.table.find frames).map s.table.countAt else none

/-- Whether slots and overflow account for every accepted sample. -/
def isConsistent : Bool := StackSampler.total (s.used.map Slot.count) + s.others == s.total

end Store

end StackSampler
