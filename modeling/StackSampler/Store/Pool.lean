import StackSampler.Frame.Backtrace

/-!
# Slot pools

A pool holds a fixed number of slots. Each slot counts the samples of one backtrace while it is in
use. The free slots form a stack, threaded through their own `next` links, with the lowest index on
top at first; taking and giving back a slot only rewires links.

* `Pool.pop` takes the top free slot, `Pool.release` puts a slot back on top.
* `Pool.leastUsed` is the used slot with the smallest count, the first such in storage order.
-/

namespace StackSampler

/-- The record of one distinct backtrace. -/
structure Slot where
  backtrace : Backtrace
  count : Nat := 0
  used : Bool := false
  /-- The following slot: of the bucket chain while used, of the free stack while free. -/
  next : Option Nat := none
  /-- The preceding slot of the bucket chain. -/
  prev : Option Nat := none
  deriving DecidableEq, Repr, Inhabited

/-- Slots and their free stack. -/
structure Pool where
  slots : Array Slot
  /-- The top of the free stack. -/
  freeHead : Option Nat
  /-- The size of the free stack. -/
  freeLen : Nat
  /-- Frames per backtrace. -/
  depth : Nat
  deriving Repr, Inhabited

namespace Pool

/-- `capacity` free slots, each under the one before it. -/
def new (capacity depth : Nat) : Pool :=
  let blank := Backtrace.blank depth
  { slots := Array.ofFn fun i : Fin capacity =>
      { backtrace := blank, next := if i.val + 1 < capacity then some (i.val + 1) else none }
    freeHead := if capacity = 0 then none else some 0
    freeLen := capacity
    depth := depth }

variable (p : Pool)

def capacity : Nat := p.slots.size

def usedLen : Nat := p.slots.size - p.freeLen

/-- The link out of the slot at `i`. -/
def nextOf (i : Nat) : Option Nat := p.slots[i]?.bind Slot.next

/-- The slot at `i` changed by `f`. -/
def update (i : Nat) (f : Slot → Slot) : Pool := { p with slots := p.slots.modify i f }

/-- Sets the back link of a slot, if there is a slot. -/
def pointBack (slot before : Option Nat) : Pool :=
  match slot with
  | some i => p.update i fun s => { s with prev := before }
  | none => p

/-- Takes the top of the free stack into use. -/
def pop : Option (Nat × Pool) :=
  p.freeHead.map fun i =>
    let next := p.nextOf i
    (i, { p with
      slots := p.slots.modify i fun s => { s with used := true, next := none, prev := none }
      freeHead := next
      freeLen := p.freeLen - 1 })

/-- Puts a used slot on top of the free stack. It has to be off its chain already; its backtrace
and count stay behind and mean nothing. -/
def release (i : Nat) : Pool :=
  let top := p.freeHead
  { p with
    slots := p.slots.modify i fun s => { s with used := false, prev := none, next := top }
    freeHead := some i
    freeLen := p.freeLen + 1 }

/-- The better of the candidate so far and the slot at `i`: a used slot with a strictly smaller
count. Free slots are never candidates. -/
def lesser (best : Option (Nat × Nat)) (i : Nat) (s : Slot) : Option (Nat × Nat) :=
  if s.used then
    match best with
    | some (_, least) => if least ≤ s.count then best else some (i, s.count)
    | none => some (i, s.count)
  else best

/-- Scans slots that start at index `i`. -/
def scan : List Slot → Nat → Option (Nat × Nat) → Option (Nat × Nat)
  | [], _, best => best
  | s :: rest, i, best => scan rest (i + 1) (lesser best i s)

/-- The used slot with the smallest count, the first in storage order among equals. -/
def leastUsed : Option Nat := (scan p.slots.toList 0 none).map Prod.fst

/-- The used slots in storage order. -/
def used : List Slot := p.slots.toList.filter Slot.used

/-- The indices met from `start` along the links, at most `fuel` of them. -/
def walk : Nat → Option Nat → List Nat
  | 0, _ => []
  | _ + 1, none => []
  | fuel + 1, some i => i :: walk fuel (p.nextOf i)

end Pool

end StackSampler
