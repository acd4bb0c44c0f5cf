import StackSampler.Store.Pool

/-!
# Backtrace tables

A table finds the slot of a backtrace. Each of the `bucketCount` buckets holds the head of a doubly
linked chain of used slots; new backtraces go to the head of their chain. A table that is full makes
room by **eviction**: the least used slot gives up its count and its place.

* `Table.find` looks a backtrace up.
* `Table.place` looks it up and creates its slot if there is none.
-/

namespace StackSampler

/-- A pool whose used slots are reachable by backtrace. -/
structure Table where
  pool : Pool
  /-- The head of each bucket's chain. -/
  heads : Vector (Option Nat) bucketCount
  /-- Slots reclaimed by eviction so far. -/
  evictions : Nat := 0
  deriving Repr

/-- A backtrace's slot after `Table.place`, and the count that an eviction spilled for it. -/
structure Placement where
  index : Nat
  table : Table
  spilled : Nat

namespace Table

def new (capacity depth : Nat) : Table :=
  { pool := Pool.new capacity depth, heads := Vector.replicate bucketCount none }

instance : Inhabited Table := ⟨new 0 0⟩

variable (t : Table)

/-- The newest slot of a bucket. -/
def head (bucket : Fin bucketCount) : Option Nat := t.heads[bucket]

/-- The slots of a bucket, newest first. No chain is longer than the pool. -/
def chain (bucket : Fin bucketCount) : List Nat :=
  t.pool.walk t.pool.capacity (t.head bucket)

def chainLen (bucket : Fin bucketCount) : Nat := (t.chain bucket).length

/-- The slot that holds `key`. -/
def find (key : Backtrace) : Option Nat :=
  (t.chain key.bucket).find? fun i => t.pool.slots[i]?.any fun s => s.backtrace = key

/-- The count of the slot at `i`. -/
def countAt (i : Nat) : Nat := (t.pool.slots[i]?.map Slot.count).getD 0

def increment (i : Nat) : Table :=
  { t with pool := t.pool.update i fun s => { s with count := s.count + 1 } }

/-- Lets `next` follow on `before`: on a slot, or as a new head where none is before it. -/
def lead (before : Option Nat) (bucket : Fin bucketCount) (next : Option Nat) : Table :=
  match before with
  | some i => { t with pool := t.pool.update i fun s => { s with next := next } }
  | none => { t with heads := t.heads.set bucket next }

/-- Puts the slot at `i` at the head of a bucket's chain. -/
def link (i : Nat) (bucket : Fin bucketCount) : Table :=
  let head := t.head bucket
  { t with
    pool := (t.pool.pointBack head (some i)).update i fun s => { s with prev := none, next := head }
    heads := t.heads.set bucket (some i) }

/-- Takes the slot at `i` off its chain: its neighbours are joined, and where it has none before it
the bucket of its own backtrace gets a new head. -/
def unlink (i : Nat) : Table :=
  match t.pool.slots[i]? with
  | none => t
  | some slot =>
    let t := t.lead slot.prev slot.backtrace.bucket slot.next
    { t with
      pool := (t.pool.pointBack slot.next slot.prev).update i fun s =>
        { s with prev := none, next := none } }

/-- Reclaims the least used slot and tells what it counted. -/
def evict : Option (Table × Nat) :=
  t.pool.leastUsed.map fun victim =>
    let spilled := t.countAt victim
    let t := t.unlink victim
    ({ t with pool := t.pool.release victim, evictions := t.evictions + 1 }, spilled)

/-- Evicts only where no slot is free. -/
def makeRoom : Option (Table × Nat) :=
  if t.pool.freeLen = 0 then t.evict else some (t, 0)

/-- Takes the top free slot into use for `key`, with count 0. -/
def create (key : Backtrace) : Option (Nat × Table) :=
  t.pool.pop.map fun (i, pool) =>
    let pool := pool.update i fun s => { s with backtrace := key, count := 0 }
    (i, { t with pool := pool }.link i key.bucket)

/-- The slot of `key`, created where there is none. A table with slots always finds one; `none` is
left for the table without any. -/
def place (key : Backtrace) : Option Placement :=
  match t.find key with
  | some i => some ⟨i, t, 0⟩
  | none =>
    t.makeRoom.bind fun (t, spilled) => (t.create key).map fun (i, t) => ⟨i, t, spilled⟩

end Table

end StackSampler
