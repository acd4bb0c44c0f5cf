import StackSampler.Frame.Backtrace

/-!
# Shadow stacks

The host keeps a shadow of its call stack: it pushes a frame on every entry and pops it on every
exit. Storage is fixed. Frames pushed past the capacity count toward the depth but are not stored,
and read as absent.
-/

namespace StackSampler

/-- A stack with room for `cells.size` frames. Cells at and above `depth` are leftovers. -/
structure ShadowStack where
  cells : Array FrameId
  /-- Frames on the stack, stored or not. -/
  depth : Nat := 0
  deriving Repr, Inhabited

namespace ShadowStack

def new (capacity : Nat) : ShadowStack := { cells := Array.replicate capacity FrameId.absent }

variable (s : ShadowStack)

def capacity : Nat := s.cells.size

def push (f : FrameId) : ShadowStack :=
  { cells := s.cells.modify s.depth fun _ => f, depth := s.depth + 1 }

/-- Takes the innermost frame off; storage is left as it is. -/
def pop : ShadowStack := { s with depth := s.depth - 1 }

def pushAll (frames : List FrameId) : ShadowStack := frames.foldl push s

def popN (n : Nat) : ShadowStack := { s with depth := s.depth - n }

/-- The frame `i` places below the innermost one. -/
def frameAt (i : Nat) : FrameId :=
  if i < s.depth then (s.cells[s.depth - 1 - i]?).getD FrameId.absent else FrameId.absent

/-- Writes the innermost frames over a whole buffer; what lies past the outermost frame reads as
absent. -/
def read (buffer : Backtrace) : Backtrace := buffer.mapIdx fun i _ => s.frameAt i

end ShadowStack

/-- A shadow stack together with its open guards. Entering a frame opens a guard; closing the
newest guard pops the stack. -/
structure GuardedStack where
  stack : ShadowStack
  guards : Nat := 0
  deriving Repr, Inhabited

namespace GuardedStack

def enter (g : GuardedStack) (f : FrameId) : GuardedStack :=
  { stack := g.stack.push f, guards := g.guards + 1 }

/-- Closes the newest guard, if one is open. -/
def leave (g : GuardedStack) : Bool × GuardedStack :=
  match g.guards with
  | 0 => (false, g)
  | n + 1 => (true, { stack := g.stack.pop, guards := n })

end GuardedStack

end StackSampler
