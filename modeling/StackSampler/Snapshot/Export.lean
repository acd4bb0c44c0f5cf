import StackSampler.Snapshot.Basic
import StackSampler.Store.Basic

/-!
# Taking snapshots

The entries of a snapshot are read off the store: the overflow entry, always first and present even
at count zero, then the used slots in storage order, each cut in front of its first absent frame.
-/

namespace StackSampler

/-- A slot as an entry. -/
def Slot.entry (s : Slot) : Entry FrameId := ⟨s.backtrace.named.map .function, s.count⟩

/-- The entries of a store; without a store only an empty overflow entry. -/
def exportedEntries : Option Store → List (Entry FrameId)
  | none => [Entry.overflow 0]
  | some store => Entry.overflow store.others :: store.used.map Slot.entry

/-- The snapshot of a store under a header. -/
def Snapshot.ofStore (store : Option Store) (mode : Mode) (startTime : Option Instant)
    (stopTime : Instant) (interval : Option Span) : Snapshot FrameId :=
  { version := schemaVersion, mode, startTime, stopTime, interval
    samples := (store.map Store.total).getD 0
    entries := exportedEntries store }

end StackSampler
