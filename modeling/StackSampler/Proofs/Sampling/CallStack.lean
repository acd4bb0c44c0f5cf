import StackSampler.Proofs.Sampling.LogicalStack

/-!
# The call stack behind a shadow stack

A call stack grows without limit: it is a list of frames, and each guard that is open will take one
frame off. A shadow stack of fixed room **shadows** it over any run of pushes, guards and pops. Frames
that find no room are counted and not stored, pops clear nothing, and still a read shows no frame that
has left: a cell below the depth was written by the push that last reached it.

* `GuardedStack.Shadows.move`: one step, and `Shadows.moved` a run.
* `GuardedStack.shadows_call_stack`: the depth, and each cell of a buffer that is read into.
-/

namespace StackSampler

/-- What a host does with its shadow stack. -/
inductive StackMove where
  | push (f : FrameId)
  /-- Pushes a frame and opens a guard. -/
  | enter (f : FrameId)
  /-- Closes the newest guard, which pops a frame. -/
  | leave
  | pop

/-- Frames, the innermost first, and open guards. -/
structure CallStack where
  frames : List FrameId := []
  guards : Nat := 0

namespace CallStack

/-- One step of a host that never pops an empty stack and closes no guard that is not open. -/
def move (c : CallStack) : StackMove → Option CallStack
  | .push f => some { c with frames := f :: c.frames }
  | .enter f => some ⟨f :: c.frames, c.guards + 1⟩
  | .leave =>
    match c.frames, c.guards with
    | _ :: frames, guards + 1 => some ⟨frames, guards⟩
    | _, _ => none
  | .pop =>
    match c.frames with
    | _ :: frames => some { c with frames }
    | [] => none

/-- The call stack after a run of steps. -/
def run (c : CallStack) (moves : List StackMove) : Option CallStack := moves.foldlM move c

end CallStack

namespace GuardedStack

variable {g : GuardedStack} {c c' : CallStack} {room : Nat}

def move (g : GuardedStack) : StackMove → GuardedStack
  | .push f => { g with stack := g.stack.push f }
  | .enter f => g.enter f
  | .leave => g.leave.2
  | .pop => { g with stack := g.stack.pop }

/-- The shadow stack after a run of steps. -/
def moved (g : GuardedStack) (moves : List StackMove) : GuardedStack := moves.foldl move g

/-- **A shadow stack of a call stack**, with room for `room` frames. -/
structure Shadows (room : Nat) (g : GuardedStack) (c : CallStack) : Prop where
  holds : g.stack.Holds c.frames
  room : g.stack.capacity = room
  guards : g.guards = c.guards

/-- **One step** of both. -/
theorem Shadows.move (h : g.Shadows room c) {m : StackMove} (hm : c.move m = some c') :
    (g.move m).Shadows room c' := by
  obtain ⟨hholds, hroom, hguards⟩ := h
  obtain ⟨frames, guards⟩ := c
  cases m with
  | push f =>
    obtain rfl := Option.some.inj hm
    exact ⟨hholds.push f, (g.stack.capacity_push f).trans hroom, hguards⟩
  | enter f =>
    obtain rfl := Option.some.inj hm
    exact ⟨hholds.push f, (g.stack.capacity_push f).trans hroom, congrArg (· + 1) hguards⟩
  | leave =>
    cases frames with
    | nil => cases hm
    | cons f frames =>
      cases guards with
      | zero => cases hm
      | succ guards =>
        obtain rfl := Option.some.inj hm
        have hleave : g.leave = (true, { stack := g.stack.pop, guards }) := by
          unfold leave
          rw [hguards]
        rw [GuardedStack.move, hleave]
        exact ⟨hholds.pop, hroom, rfl⟩
  | pop =>
    cases frames with
    | nil => cases hm
    | cons f frames =>
      obtain rfl := Option.some.inj hm
      exact ⟨hholds.pop, hroom, hguards⟩

/-- A run of steps. -/
theorem Shadows.moved (h : g.Shadows room c) {moves : List StackMove} (hrun : c.run moves = some c') :
    (g.moved moves).Shadows room c' := by
  induction moves generalizing g c with
  | nil =>
    obtain rfl := Option.some.inj hrun
    exact h
  | cons m moves ih =>
    rw [CallStack.run, List.foldlM_cons] at hrun
    obtain ⟨next, hm, hrest⟩ := Option.bind_eq_some_iff.1 hrun
    exact ih (h.move hm) hrest

end GuardedStack

namespace ShadowStack

variable {s : ShadowStack} {frames : List FrameId} {room : Nat}

/-- **What is read of `frames`** where `room` of them, counted from the outermost, were stored. A buffer
is overwritten from its first cell to its last, whatever it held. -/
structure Shows (room : Nat) (s : ShadowStack) (frames : List FrameId) : Prop where
  depth : s.depth = frames.length
  whole : ∀ buffer : Backtrace, (s.read buffer).length = buffer.length
  /-- Cell `i` shows the frame `i` places below the innermost, if it found room. -/
  stored : ∀ (buffer : Backtrace) i f, i < buffer.length → frames[i]? = some f →
    frames.length - 1 - i < room → (s.read buffer)[i]? = some f
  /-- A frame that found no room reads as absent. -/
  unstored : ∀ (buffer : Backtrace) i f, i < buffer.length → frames[i]? = some f →
    room ≤ frames.length - 1 - i → (s.read buffer)[i]? = some FrameId.absent
  /-- So do the cells past the outermost frame. -/
  past : ∀ (buffer : Backtrace) i, i < buffer.length → frames.length ≤ i →
    (s.read buffer)[i]? = some FrameId.absent

theorem Holds.shows (h : s.Holds frames) : s.Shows s.capacity frames := by
  refine ⟨h.depth, fun _ => List.length_mapIdx, ?_, ?_, ?_⟩
  · intro buffer i f hi hf hroom
    rw [getElem?_read s hi, h.frameAt, if_pos hroom, hf, Option.getD_some]
  · intro buffer i f hi _ hroom
    rw [getElem?_read s hi, h.frameAt, if_neg (Nat.not_lt.2 hroom), Option.getD_none]
  · intro buffer i hi hpast
    rw [getElem?_read s hi, h.frameAt, List.getElem?_eq_none hpast, ite_self, Option.getD_none]

end ShadowStack

namespace GuardedStack

/-- **A shadow stack shadows the call stack.** After any run of a host that never pops an empty stack,
with room for any number of frames or for none: the depth is the number of frames that are on the call
stack, stored or not, the same guards are open, and a read overwrites its buffer with the innermost
frames, those without room and the cells past the outermost frame as absent. -/
theorem shadows_call_stack (room : Nat) (moves : List StackMove) (c : CallStack)
    (hrun : CallStack.run {} moves = some c) :
    let g := GuardedStack.moved { stack := ShadowStack.new room } moves
    g.stack.Shows room c.frames ∧ g.guards = c.guards := by
  intro g
  have hstart : Shadows room { stack := ShadowStack.new room } {} :=
    ⟨ShadowStack.holds_new room, Array.size_replicate, rfl⟩
  obtain ⟨hholds, hroom, hguards⟩ := hstart.moved hrun
  have hshows := hholds.shows
  rw [hroom] at hshows
  exact ⟨hshows, hguards⟩

/-- Over the edge of two cells and back, twice; what was stored first is stored over. -/
theorem shadows_over_the_edge :
    let moves : List StackMove :=
      [.enter ⟨1⟩, .push ⟨2⟩, .enter ⟨3⟩, .push ⟨4⟩, .leave, .pop, .pop, .push ⟨5⟩, .enter ⟨6⟩,
        .push ⟨7⟩]
    let c : CallStack := { frames := [⟨7⟩, ⟨6⟩, ⟨5⟩, ⟨1⟩], guards := 2 }
    let g := GuardedStack.moved { stack := ShadowStack.new 2 } moves
    CallStack.run {} moves = some c ∧ g.stack.Shows 2 c.frames ∧ g.guards = 2 ∧
      g.stack.read [⟨9⟩, ⟨9⟩, ⟨9⟩, ⟨9⟩, ⟨9⟩] = [⟨0⟩, ⟨0⟩, ⟨5⟩, ⟨1⟩, ⟨0⟩] := by
  intro moves c g
  obtain ⟨hshows, hguards⟩ := shadows_call_stack 2 moves c rfl
  exact ⟨rfl, hshows, hguards, by decide⟩

end GuardedStack

end StackSampler
