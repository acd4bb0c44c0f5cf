import StackSampler.Flamegraph.Line

/-!
# Blocks

A flamegraph draws every run of neighbouring stacks that share a frame at some depth, and all frames
outside of it, as one block. Samples are laid out on a line from left to right; a block reaches from
its first sample to behind its last.

`blocks` walks over the lines with the blocks that are still open, one for each frame of the stack
before. A block is done when the next stack leaves it.
-/

namespace StackSampler.Flamegraph

/-- A frame and the samples that it covers. -/
structure Block where
  name : List Char
  /-- Frames outside of it; only the root has none. -/
  depth : Nat
  start : Nat
  stop : Nat
  /-- The change in weight, where weights were compared. -/
  delta : Option Int
  deriving DecidableEq, Repr

namespace Block

def samples (b : Block) : Nat := b.stop - b.start

def isRoot (b : Block) : Bool := b.depth == 0

end Block

/-- A 64-bit word as a signed number: the upper half of the words is negative. -/
def signed (word : Nat) : Int :=
  if word < 9223372036854775808 then word else (word : Int) - 18446744073709551616

/-- The walk so far. -/
structure Walk where
  /-- The blocks of the stack before, outermost first, with an end to come. -/
  live : List Block := []
  /-- The blocks that are done, newest first. -/
  done : List Block := []
  /-- Samples so far. -/
  time : Nat := 0
  /-- The change in the latest line that compared weights. -/
  delta : Option Int := none
  deriving Repr

/-- How many frames two stacks share from the outermost inwards. -/
def sharedDepth : List Block → List (List Char) → Nat
  | b :: bs, n :: ns => if b.name = n then sharedDepth bs ns + 1 else 0
  | _, _ => 0

/-- Opens blocks for frames at `depth` and further in. A change is told of the innermost frame. -/
def openBlocks (time : Nat) (delta : Option Int) : Nat → List (List Char) → List Block
  | _, [] => []
  | depth, name :: names =>
    let own := if names.isEmpty then delta else delta.map fun _ => 0
    ⟨name, depth, time, time, own⟩ :: openBlocks time delta (depth + 1) names

namespace Walk

/-- Closes the open blocks from `depth` inwards, the outermost first. -/
def close (w : Walk) (depth : Nat) : Walk :=
  { w with
    live := w.live.take depth
    done := ((w.live.drop depth).map fun b => { b with stop := w.time }).reverse ++ w.done }

/-- One more line. The root, a frame without a name, is outside of all stacks. -/
def step (w : Walk) (line : Line) : Walk :=
  let names := [] :: Text.splitAt ';' line.stack
  let delta := match line.before with
    | some before => some (signed line.weight - signed before)
    | none => w.delta
  let shared := sharedDepth w.live names
  let w := w.close shared
  { w with
    live := w.live ++ openBlocks w.time delta shared (names.drop shared)
    time := w.time + line.weight
    delta }

end Walk

/-- The blocks of the lines in the order in which they are done, and the number of samples. -/
def blocks (lines : List Line) : List Block × Nat :=
  let w := lines.foldl Walk.step {}
  ((w.close 0).done.reverse, w.time)

end StackSampler.Flamegraph
