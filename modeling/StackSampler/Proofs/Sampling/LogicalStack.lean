import StackSampler.Proofs.Store.Refinement
import StackSampler.Sampling.ShadowStack

/-!
# What a shadow stack holds

The host's call stack is a plain list of frames, the innermost first. A shadow stack **holds** it if
it counts all frames and stores the outermost ones, as many as it has room for; what lies in its other
cells does not matter.

* `Holds.push`, `Holds.pop`: entering and leaving a frame.
* `Holds.read`: what is read of a shadow stack is the view of the list that it holds
  (`Backtrace.view`), padded.
-/

namespace StackSampler

/-- What can be seen of a call stack: its innermost `depth` frames. A frame that was pushed when
`room` frames or more were on the stack reads as absent. -/
def Backtrace.view (room depth : Nat) (frames : List FrameId) : Backtrace :=
  (frames.take depth).mapIdx fun i f => if frames.length - 1 - i < room then f else FrameId.absent

namespace ShadowStack

variable {s s' : ShadowStack} {frames : List FrameId}

/-- **The frames on a shadow stack**, the innermost first. -/
structure Holds (s : ShadowStack) (frames : List FrameId) : Prop where
  depth : s.depth = frames.length
  cells : ∀ j, j < frames.length → j < s.capacity → s.cells[j]? = frames.reverse[j]?

theorem holds_new (room : Nat) : (new room).Holds [] := ⟨rfl, fun j hj => absurd hj (Nat.not_lt_zero j)⟩

@[simp] theorem capacity_push (s : ShadowStack) (f : FrameId) : (s.push f).capacity = s.capacity :=
  Array.size_modify

theorem Holds.push (h : s.Holds frames) (f : FrameId) : (s.push f).Holds (f :: frames) := by
  refine ⟨congrArg (· + 1) h.depth, fun j hj hroom => ?_⟩
  rw [capacity_push] at hroom
  have hcell : (s.push f).cells[j]? = if s.depth = j then s.cells[j]?.map fun _ => f else s.cells[j]? :=
    Array.getElem?_modify
  rw [hcell, List.reverse_cons]
  -- the new frame is in the first free cell; the cells below it are as they were
  by_cases hnew : s.depth = j
  · subst hnew
    unfold capacity at hroom
    have hlast : frames.length = frames.reverse.length := List.length_reverse.symm
    rw [if_pos rfl, Array.getElem?_eq_getElem hroom, Option.map_some, h.depth, hlast,
      List.getElem?_concat_length]
  · have hlt : j < frames.length := by
      rw [h.depth] at hnew
      rw [List.length_cons] at hj
      omega
    rw [if_neg hnew, List.getElem?_append_left (by rwa [List.length_reverse])]
    exact h.cells j hlt hroom

/-- There is nothing to leave on an empty stack. -/
theorem Holds.pop (h : s.Holds frames) : s.pop.Holds frames.tail := by
  refine ⟨?_, fun j hj hroom => ?_⟩
  · rw [List.length_tail, ← h.depth]
    rfl
  · have hrev : frames.tail.reverse = frames.reverse.dropLast := by
      cases frames with
      | nil => rfl
      | cons f frames => rw [List.tail_cons, List.reverse_cons, List.dropLast_concat]
    rw [List.length_tail] at hj
    rw [hrev, List.getElem?_dropLast, List.length_reverse, if_pos hj]
    exact h.cells j (by omega) hroom

theorem Holds.frameAt (h : s.Holds frames) (i : Nat) :
    s.frameAt i =
      (if frames.length - 1 - i < s.capacity then frames[i]? else none).getD FrameId.absent := by
  unfold ShadowStack.frameAt
  rw [h.depth]
  by_cases hi : i < frames.length
  · rw [if_pos hi]
    by_cases hroom : frames.length - 1 - i < s.capacity
    · rw [if_pos hroom, h.cells _ (by omega) hroom, List.getElem?_reverse (by omega)]
      have : frames.length - 1 - (frames.length - 1 - i) = i := by omega
      rw [this]
    · unfold capacity at hroom ⊢
      rw [if_neg hroom, Array.getElem?_eq_none (Nat.le_of_not_lt hroom)]
  · rw [if_neg hi, List.getElem?_eq_none (by omega), ite_self, Option.getD_none]

theorem getElem?_read (s : ShadowStack) {buffer : Backtrace} {i : Nat} (hi : i < buffer.length) :
    (s.read buffer)[i]? = some (s.frameAt i) := by
  rw [ShadowStack.read, List.getElem?_mapIdx, List.getElem?_eq_getElem hi, Option.map_some]

/-- **Reading a shadow stack** shows the view of what it holds. -/
theorem Holds.read (h : s.Holds frames) (buffer : Backtrace) :
    s.read buffer = (Backtrace.view s.capacity buffer.length frames).fit buffer.length := by
  refine List.ext_getElem? fun i => ?_
  by_cases hi : i < buffer.length
  · rw [Backtrace.getElem?_fit _ hi, getElem?_read s hi, h.frameAt, Backtrace.view,
      List.getElem?_mapIdx, List.getElem?_take_of_lt hi]
    cases frames[i]? with
    | none => rw [ite_self, Option.map_none]
    | some f => split <;> simp
  · have hlen : (s.read buffer).length = buffer.length := List.length_mapIdx
    rw [List.getElem?_eq_none (by omega),
      List.getElem?_eq_none (by rw [Backtrace.length_fit]; omega)]

/-! ## Stacks that differ in leftovers only -/

/-- Equal room, and the same frames. -/
def Alike (s s' : ShadowStack) : Prop :=
  s.capacity = s'.capacity ∧ ∃ frames, s.Holds frames ∧ s'.Holds frames

theorem Alike.read (h : s.Alike s') : s.read = s'.read := by
  obtain ⟨hroom, frames, hs, hs'⟩ := h
  funext buffer
  rw [hs.read, hs'.read, hroom]

theorem Alike.push (h : s.Alike s') (f : FrameId) : (s.push f).Alike (s'.push f) := by
  obtain ⟨hroom, frames, hs, hs'⟩ := h
  exact ⟨by rw [capacity_push, capacity_push, hroom], f :: frames, hs.push f, hs'.push f⟩

theorem Alike.pop (h : s.Alike s') : s.pop.Alike s'.pop := by
  obtain ⟨hroom, frames, hs, hs'⟩ := h
  exact ⟨hroom, frames.tail, hs.pop, hs'.pop⟩

end ShadowStack

end StackSampler
