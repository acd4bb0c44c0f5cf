import StackSampler.Proofs.Run
import StackSampler.Proofs.Store.Cells
import StackSampler.Proofs.Store.Tally
import StackSampler.Store.Basic

/-!
# A store is a tally

Buckets, chains, the free stack and the reuse of an evicted slot cannot be told from a plain list of
cells: a store **matches** a tally while its table shows the tally's cells and the numbers agree.

* `Store.Matches.call`: one call takes matching states to matching states, with one answer.
* `Store.run_eq_tally`: so over any run the used slots in storage order, the totals and all answers
  are those of the tally.
-/

namespace StackSampler

theorem Backtrace.isBlank_eq (key : Backtrace) : key.isBlank = !key.starts := by
  unfold isBlank starts
  cases key.head? with
  | none => rfl
  | some f => simp [FrameId.isAbsent, beq_eq_decide]

theorem Backtrace.length_fit (depth : Nat) (frames : Backtrace) :
    (frames.fit depth).length = depth := by
  simp [fit]
  omega

theorem Backtrace.getElem?_fit {depth i : Nat} (frames : Backtrace) (hi : i < depth) :
    (frames.fit depth)[i]? = some (frames[i]?.getD FrameId.absent) := by
  unfold fit
  by_cases hlt : i < frames.length
  · rw [List.getElem?_append_left (by rw [List.length_take]; omega), List.getElem?_take_of_lt hi,
      List.getElem?_eq_getElem hlt, Option.getD_some]
  · have hlen : (frames.take depth).length ≤ i := by
      rw [List.length_take]
      omega
    rw [List.getElem?_append_right hlen, List.getElem?_eq_none (by omega : frames.length ≤ i),
      List.getElem?_replicate_of_lt (by rw [List.length_take]; omega), Option.getD_none]

/-- Where a captured stack comes from: it fills a buffer and cannot change its size. -/
structure Source where
  fill : Backtrace → Backtrace
  length_fill : ∀ buffer : Backtrace, (fill buffer).length = buffer.length

/-- The calls that count a sample. -/
inductive Call where
  | record (frames : Backtrace)
  | recordFrom (source : Source)

/-- The backtrace that a call captures. -/
def Call.key (depth : Nat) : Call → Backtrace
  | .record frames => frames.fit depth
  | .recordFrom source => source.fill (Backtrace.blank depth)

theorem Call.length_key (depth : Nat) (call : Call) : (call.key depth).length = depth := by
  cases call with
  | record frames => exact Backtrace.length_fit depth frames
  | recordFrom source => simp [key, source.length_fill, Backtrace.blank]

namespace Store

/-- One call to a store. -/
def call (s : Store) : Call → Bool × Store
  | .record frames => s.record frames
  | .recordFrom source => s.recordFrom source.fill

variable {s : Store} {c : Config} {r r' : Tally} {key : Backtrace}

/-- **Every call commits what it captured**: the buffer holds nothing of earlier calls. -/
theorem call_eq (hlen : s.scratch.length = c.depth) (call : Call) :
    s.call call = ({ s with scratch := call.key c.depth } : Store).commit := by
  cases call with
  | record frames =>
    have hkey : frames.take s.scratch.length ++
        (s.scratch.drop frames.length).map (fun _ => FrameId.absent) = frames.fit c.depth := by
      rw [List.map_const', List.length_drop, hlen]
      rfl
    exact congrArg (fun key => ({ s with scratch := key } : Store).commit) hkey
  | recordFrom source =>
    have hblank : s.scratch.map (fun _ => FrameId.absent) = Backtrace.blank c.depth := by
      rw [List.map_const', hlen]
      rfl
    exact congrArg (fun blank => ({ s with scratch := source.fill blank } : Store).commit) hblank

/-- **A store matches a tally**: same cells, same totals, in a table of the configured size. -/
structure Matches (s : Store) (c : Config) (r : Tally) : Prop where
  ok : r.Ok c.slots
  shows : s.table.Shows r.cells
  capacity : s.table.pool.capacity = c.slots
  depth : s.table.pool.depth = c.depth
  buffer : s.scratch.length = c.depth
  total : s.total = r.total
  others : s.others = r.others
  evictions : s.evictions = r.evictions

namespace Matches

theorem new (c : Config) : (Store.new c).Matches c {} where
  ok := Tally.ok_new c.slots
  shows := Table.Shows.new c.slots c.depth
  capacity := by simp [Store.new, Table.new, Pool.new, Pool.capacity]
  depth := rfl
  buffer := by simp [Store.new, Backtrace.blank]
  total := rfl
  others := rfl
  evictions := rfl

/-- What is in the buffer does not matter between calls. -/
theorem recapture (h : s.Matches c r) (hlen : key.length = c.depth) :
    ({ s with scratch := key } : Store).Matches c r :=
  ⟨h.ok, h.shows, h.capacity, h.depth, hlen, h.total, h.others, h.evictions⟩

/-- **Placing and incrementing is counting**: whatever way the tally counts `key`, the table places
it in the same cell. -/
theorem count (h : s.Matches c r) (hpos : 0 < c.slots) (hkey : key.starts = true)
    (hlen : key.length = c.depth) (hc : Tally.Counts c.slots r key r') :
    ∃ placed, s.table.place key = some placed ∧
      ({ table := placed.table.increment placed.index
         scratch := key
         total := s.total + 1
         others := s.others + placed.spilled } : Store).Matches c r' := by
  have hok := hc.ok h.ok hkey
  have hcap := h.capacity
  cases hc with
  | again here =>
    obtain ⟨hshows, hw⟩ := h.shows.increment here
    exact ⟨_, h.shows.place_hit here, hok, hshows, hw.capacity.trans hcap, hw.depth.trans h.depth, hlen,
      congrArg (· + 1) h.total, h.others, h.evictions⟩
  | fresh absent room =>
    obtain ⟨t', hplace, hshows, hw, hev⟩ := h.shows.place_fresh absent (by omega)
    obtain ⟨hshows', hw'⟩ := hshows.increment (List.getElem?_concat_length ..)
    rw [List.set_append_right _ _ (Nat.le_refl _), Nat.sub_self] at hshows'
    exact ⟨_, hplace, hok, hshows', (hw'.capacity.trans hw.capacity).trans hcap,
      (hw'.depth.trans hw.depth).trans h.depth, hlen, congrArg (· + 1) h.total, h.others,
      hev.trans h.evictions⟩
  | @instead v n k absent full victim =>
    have hnil : r.cells ≠ [] := by
      rw [← List.length_pos_iff, full]
      exact hpos
    obtain ⟨t', v', k', n', hplace, victim', hshows, hw, hev⟩ :=
      h.shows.place_full absent (by omega) hnil
    -- both took the first cell of least count
    obtain rfl : v' = v := victim'.least_eq.symm.trans victim.least_eq
    obtain rfl : n' = n := victim'.countAt_eq.symm.trans victim.countAt_eq
    have hv := (List.getElem?_eq_some_iff.1 victim.here).1
    obtain ⟨hshows', hw'⟩ := hshows.increment (List.getElem?_set_self hv)
    rw [List.set_set] at hshows'
    exact ⟨_, hplace, hok, hshows', (hw'.capacity.trans hw.capacity).trans hcap,
      (hw'.depth.trans hw.depth).trans h.depth, hlen, congrArg (· + 1) h.total,
      congrArg (· + n') h.others, hev.trans (congrArg (· + 1) h.evictions)⟩

/-- **Committing a captured backtrace samples it.** -/
theorem commit (h : s.Matches c r) (hpos : 0 < c.slots) (hlen : key.length = c.depth) :
    ({ s with scratch := key } : Store).commit.1 = (r.sample c.slots key).1 ∧
      ({ s with scratch := key } : Store).commit.2.Matches c (r.sample c.slots key).2 := by
  unfold Store.commit Tally.sample
  rw [Backtrace.isBlank_eq]
  cases hkey : key.starts with
  | false => exact ⟨rfl, h.recapture hlen⟩
  | true =>
    obtain ⟨placed, hplace, hmatch⟩ := h.count hpos hkey hlen (h.ok.counts hpos key)
    simp only [hplace]
    exact ⟨rfl, hmatch⟩

/-- **One call** answers as the tally does and leaves matching states. -/
theorem call (h : s.Matches c r) (hpos : 0 < c.slots) (call : Call) :
    (s.call call).1 = (r.sample c.slots (call.key c.depth)).1 ∧
      (s.call call).2.Matches c (r.sample c.slots (call.key c.depth)).2 := by
  rw [call_eq h.buffer]
  exact h.commit hpos (call.length_key c.depth)

/-- Over any run of calls a store answers as the tally of the captured backtraces does, and ends
matching it. -/
theorem calls (hpos : 0 < c.slots) (calls : List Call) :
    (runAll Store.call (Store.new c) calls).1 =
        (runAll (Tally.sample c.slots) {} (calls.map (Call.key c.depth))).1 ∧
      (runAll Store.call (Store.new c) calls).2.Matches c
        (runAll (Tally.sample c.slots) {} (calls.map (Call.key c.depth))).2 := by
  rw [← runAll_map (Call.key c.depth)]
  exact runAll_simulates (R := fun (s : Store) (r : Tally) => s.Matches c r)
    (fun _ _ call h => h.call hpos call) (new c) calls

/-- The same for runs that record given stacks only. -/
theorem records (hpos : 0 < c.slots) (frames : List Backtrace) :
    (runAll Store.record (Store.new c) frames).1 =
        (runAll (Tally.sample c.slots) {} (frames.map (Backtrace.fit c.depth))).1 ∧
      (runAll Store.record (Store.new c) frames).2.Matches c
        (runAll (Tally.sample c.slots) {} (frames.map (Backtrace.fit c.depth))).2 := by
  have h := calls hpos (frames.map Call.record)
  rw [← runAll_map Call.record, List.map_map] at h
  exact h

theorem used_eq (h : s.Matches c r) : s.used.map (fun x => (x.backtrace, x.count)) = r.cells :=
  h.shows.used_eq

end Matches

/-- **A store is a tally.** Whatever stacks are recorded, the used slots in storage order are the
cells of the tally that counted the same stacks, never more than there are slots; both totals, the
number of evictions and the answer to every call are the tally's too. -/
theorem run_eq_tally (c : Config) (hpos : 0 < c.slots) (frames : List Backtrace) :
    let stored := runAll Store.record (Store.new c) frames
    let tallied := runAll (Tally.record c.slots c.depth) {} frames
    stored.1 = tallied.1 ∧
      stored.2.used.map (fun x => (x.backtrace, x.count)) = tallied.2.cells ∧
      tallied.2.cells.length ≤ c.slots ∧
      stored.2.total = tallied.2.total ∧
      stored.2.others = tallied.2.others ∧
      stored.2.evictions = tallied.2.evictions := by
  intro stored tallied
  obtain ⟨hanswers, hmatch⟩ := Matches.records hpos frames
  rw [← runAll_map (Backtrace.fit c.depth)] at hanswers hmatch
  exact ⟨hanswers, hmatch.used_eq, hmatch.ok.le, hmatch.total, hmatch.others, hmatch.evictions⟩

/-- Two slots of which the second is given away, to a stack that was padded. -/
theorem tally_after_eviction :
    let c : Config := { depth := 2, slots := 2 }
    let frames : List Backtrace := [[⟨1⟩], [⟨1⟩, ⟨0⟩, ⟨7⟩], [⟨2⟩, ⟨1⟩], [], [⟨3⟩]]
    let stored := runAll Store.record (Store.new c) frames
    0 < c.slots ∧ stored.1 = [true, true, true, false, true] ∧
      stored.2.used.map (fun x => (x.backtrace, x.count)) = [([⟨1⟩, ⟨0⟩], 2), ([⟨3⟩, ⟨0⟩], 1)] ∧
      stored.2.others = 1 := by
  obtain ⟨hanswers, hcells, -, -, hothers, -⟩ := run_eq_tally { depth := 2, slots := 2 } (by decide)
    [[⟨1⟩], [⟨1⟩, ⟨0⟩, ⟨7⟩], [⟨2⟩, ⟨1⟩], [], [⟨3⟩]]
  refine ⟨by decide, hanswers.trans ?_, hcells.trans ?_, hothers.trans ?_⟩
  all_goals decide +kernel

end Store

end StackSampler
