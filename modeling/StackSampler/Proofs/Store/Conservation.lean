import StackSampler.Proofs.Store.Refinement

/-!
# No sample is lost

Every accepted sample is in the count of a used slot or in the overflow, whatever was evicted on the
way: `Store.conserved`. The totals are invariants of the tally that the store matches
(`Tally.Ok`), the number of accepted samples is counted along the run (`runAll_counts`).
-/

namespace StackSampler

theorem Tally.total_count (limit : Nat) (r : Tally) (key : Backtrace) :
    (r.count limit key).total = r.total + 1 := by
  unfold count
  split
  · rfl
  · split <;> rfl

theorem Tally.total_sample (limit : Nat) (r : Tally) (key : Backtrace) :
    (r.sample limit key).2.total = r.total + (r.sample limit key).1.toNat := by
  unfold sample
  split
  · exact r.total_count limit key
  · rfl

theorem Backtrace.exists_of_starts {key : Backtrace} (h : key.starts = true) :
    ∃ f, key.head? = some f ∧ f ≠ FrameId.absent := by
  unfold starts at h
  cases hf : key.head? with
  | none =>
    rw [hf] at h
    simp at h
  | some f =>
    rw [hf] at h
    exact ⟨f, rfl, of_decide_eq_true h⟩

namespace Store

variable {s : Store} {c : Config} {r : Tally}

/-- **Everything accepted is accounted for**, after calls that gave these answers. -/
structure Conserved (c : Config) (answers : List Bool) (s : Store) : Prop where
  /-- Slots and overflow add up. -/
  mass : StackSampler.total (s.used.map Slot.count) + s.others = s.total
  consistent : s.isConsistent = true
  /-- Each call that answers yes is one accepted sample. -/
  accepted : s.total = answers.count true
  bounded : s.usedSlots ≤ c.slots
  listed : s.usedSlots = s.used.length
  counted : ∀ x ∈ s.used, 1 ≤ x.count
  started : ∀ x ∈ s.used, ∃ f, x.backtrace.head? = some f ∧ f ≠ FrameId.absent
  /-- An eviction spills at least one sample. -/
  spilled : s.evictions ≤ s.others
  /-- No counter is ahead of the number of calls, so 64 bits hold each as long as they hold that. -/
  small : ∀ n ∈ s.total :: s.others :: s.evictions :: s.used.map Slot.count, n ≤ answers.length

namespace Matches

theorem usedSlots_eq (h : s.Matches c r) : s.usedSlots = r.cells.length := by
  have hle := h.shows.le
  have hfree := h.shows.freeLen_eq
  unfold Store.usedSlots Pool.usedLen
  unfold Pool.capacity at hle hfree
  omega

theorem counts_eq (h : s.Matches c r) : s.used.map Slot.count = r.cells.map Prod.snd := by
  rw [← h.used_eq, List.map_map]
  rfl

/-- A used slot is a cell. -/
theorem mem_cells (h : s.Matches c r) {x : Slot} (hx : x ∈ s.used) :
    (x.backtrace, x.count) ∈ r.cells := by
  rw [← h.used_eq]
  exact List.mem_map_of_mem hx

theorem conserved (h : s.Matches c r) {answers : List Bool} (ht : r.total = answers.count true) :
    s.Conserved c answers := by
  have hmass : StackSampler.total (s.used.map Slot.count) + s.others = s.total := by
    rw [h.counts_eq, h.others, h.total]
    exact h.ok.mass
  have htotal : s.total = answers.count true := h.total.trans ht
  have hlen : answers.count true ≤ answers.length := List.count_le_length
  have hspilled : s.evictions ≤ s.others := by
    rw [h.evictions, h.others]
    exact h.ok.spilled
  refine ⟨hmass, beq_iff_eq.2 hmass, htotal, ?_, ?_, fun x hx => h.ok.pos _ (h.mem_cells hx),
    fun x hx => Backtrace.exists_of_starts (h.ok.starts _ (h.mem_cells hx)), hspilled, fun n hn => ?_⟩
  · rw [h.usedSlots_eq]
    exact h.ok.le
  · rw [h.usedSlots_eq, ← h.used_eq, List.length_map]
  · simp only [List.mem_cons] at hn
    rcases hn with rfl | rfl | rfl | hn
    · omega
    · omega
    · omega
    · have := le_total hn
      omega

end Matches

/-- **No sample is lost.** Whatever calls are made to a store with slots, in any order and from any
source: the counts of the used slots and the overflow add up to the number of calls that answered
yes. -/
theorem conserved_calls (c : Config) (hpos : 0 < c.slots) (calls : List Call) :
    (runAll Store.call (Store.new c) calls).1.length = calls.length ∧
      (runAll Store.call (Store.new c) calls).2.Conserved c
        (runAll Store.call (Store.new c) calls).1 := by
  obtain ⟨hanswers, hmatch⟩ := Matches.calls hpos calls
  refine ⟨length_answers _ calls, hmatch.conserved ?_⟩
  rw [hanswers, runAll_counts (m := Tally.total) (Tally.total_sample c.slots)]
  exact Nat.zero_add _

/-- A source that sets the innermost frame only. -/
def innermost (f : FrameId) : Source where
  fill buffer := buffer.set 0 f
  length_fill _ := List.length_set

/-- One slot, three stacks and a call that shows none. -/
theorem conserved_after_evictions :
    let c : Config := { depth := 2, slots := 1 }
    let calls : List Call :=
      [.record [⟨1⟩], .recordFrom (innermost ⟨1⟩), .record [⟨2⟩, ⟨1⟩, ⟨1⟩], .record [], .record [⟨3⟩]]
    let run := runAll Store.call (Store.new c) calls
    0 < c.slots ∧ run.1 = [true, true, true, false, true] ∧ run.2.others = 3 ∧
      run.2.evictions = 2 ∧ run.2.Conserved c run.1 := by
  refine ⟨by decide, ?_, ?_, ?_, (conserved_calls _ (by decide) _).2⟩
  all_goals decide +kernel

end Store

end StackSampler
