import StackSampler.Proofs.Store.Keyed
import StackSampler.Proofs.Store.Layout
import StackSampler.Proofs.Store.LeastUsed
import Mathlib.Data.List.Range

/-!
# A table as a list of cells

The used slots of a table that was only filled, never partly emptied, are the first slots of its
pool, because an evicted slot is taken again at once. So the table shows a list of **cells**
(backtrace and count), and the cell at position `i` is the slot at index `i`: `Shows t cells`.

* `Shows.find_of_cell`, `Shows.find_of_notMem`: a lookup finds the cell of a backtrace, or nothing.
* `Shows.place_hit`, `Shows.place_fresh`, `Shows.place_full`: the three ways of placing a backtrace.
* `Shows.increment`: counting in a cell.
-/

namespace StackSampler

namespace Table

variable {t t' : Table} {free : List Nat} {chains : Fin bucketCount → List Nat}
variable {cells : Keyed} {i n : Nat} {key k : Backtrace}

/-! ## Lookup -/

namespace Layout

/-- The walk over a bucket's chain ends before its fuel does. -/
theorem chain_eq {loose : Option Nat} (h : t.Layout free chains loose) (b : Fin bucketCount) :
    t.chain b = chains b :=
  (h.chain_seg b).path.walk_eq (h.chain_seg b).path.length_le

theorem content_of_find (h : t.Layout free chains none) (hf : t.find key = some i) :
    ∃ n, t.pool.content i = some (true, key, n) := by
  unfold find at hf
  rw [h.chain_eq] at hf
  have hm := List.mem_of_find?_eq_some hf
  have hp := List.find?_some hf
  obtain ⟨-, k, n, hc, -⟩ := (h.mem_chain _ i).1 hm
  obtain ⟨s, hs, -, hk, -⟩ := Pool.slot_of_content hc
  rw [hs] at hp
  obtain rfl : s.backtrace = key := by simpa using hp
  exact ⟨n, hk ▸ hc⟩

/-- A lookup misses only what no used slot holds. -/
theorem find_ne_none (h : t.Layout free chains none) (hc : t.pool.content i = some (true, key, n)) :
    t.find key ≠ none := by
  unfold find
  rw [h.chain_eq]
  intro hf
  have hno := List.find?_eq_none.1 hf i ((h.mem_chain _ i).2 ⟨by simp, key, n, hc, rfl⟩)
  obtain ⟨s, hs, -, hk, -⟩ := Pool.slot_of_content hc
  rw [hs] at hno
  simp [hk] at hno

end Layout

/-! ## Cells -/

/-- **The table shows these cells**: they fill its first slots in order, all further slots are free,
lowest on top, and no backtrace has two cells. -/
structure Shows (t : Table) (cells : Keyed) : Prop where
  le : cells.length ≤ t.pool.capacity
  content : ∀ i c, cells[i]? = some c → t.pool.content i = some (true, c)
  layout : ∃ chains,
    t.Layout (List.range' cells.length (t.pool.capacity - cells.length)) chains none
  nodup : cells.keys.Nodup

namespace Shows

/-- The used slots are the cells, index by index. -/
theorem content_iff (h : t.Shows cells) {c : Backtrace × Nat} :
    t.pool.content i = some (true, c) ↔ cells[i]? = some c := by
  refine ⟨fun hc => ?_, h.content i c⟩
  obtain ⟨chains, hl⟩ := h.layout
  obtain ⟨s, hs, -⟩ := Pool.slot_of_content hc
  have hcap : i < t.pool.capacity := (Array.getElem?_eq_some_iff.1 hs).1
  have hi : i < cells.length := by
    -- all slots behind the cells are free
    by_contra hn
    have hm : i ∈ List.range' cells.length (t.pool.capacity - cells.length) := by
      rw [List.mem_range'_1]
      omega
    obtain ⟨k, n, hk⟩ := (hl.mem_free i).1 hm
    rw [hc] at hk
    simp at hk
  have := h.content i _ (List.getElem?_eq_getElem hi)
  rw [hc] at this
  rw [List.getElem?_eq_getElem hi]
  simpa using this.symm

theorem find_of_cell (h : t.Shows cells) (hi : cells[i]? = some (key, n)) :
    t.find key = some i := by
  obtain ⟨chains, hl⟩ := h.layout
  cases hf : t.find key with
  | none => exact absurd hf (hl.find_ne_none (h.content i _ hi))
  | some j =>
    obtain ⟨m, hc⟩ := hl.content_of_find hf
    rw [Keyed.index_unique h.nodup hi (h.content_iff.1 hc)]

theorem find_of_notMem (h : t.Shows cells) (hk : key ∉ cells.keys) :
    t.find key = none := by
  obtain ⟨chains, hl⟩ := h.layout
  cases hf : t.find key with
  | none => rfl
  | some j =>
    obtain ⟨m, hc⟩ := hl.content_of_find hf
    exact absurd (Keyed.mem_keys_of_mem (List.mem_of_getElem? (h.content_iff.1 hc))) hk

theorem slot_of_cell (h : t.Shows cells) {c : Backtrace × Nat} (hi : cells[i]? = some c) :
    ∃ s, t.pool.slots.toList[i]? = some s ∧ s.used = true ∧ (s.backtrace, s.count) = c := by
  obtain ⟨s, hs, hu, hk, hn⟩ := Pool.slot_of_content (h.content i c hi)
  rw [← Array.getElem?_toList] at hs
  exact ⟨s, hs, hu, Prod.ext hk hn⟩

theorem cell_of_slot (h : t.Shows cells) {s : Slot} (hs : t.pool.slots.toList[i]? = some s)
    (hu : s.used = true) : cells[i]? = some (s.backtrace, s.count) := by
  rw [Array.getElem?_toList] at hs
  rw [← h.content_iff, Pool.content_of_slot hs, hu]

theorem countAt_of_cell (h : t.Shows cells) (hi : cells[i]? = some (key, n)) : t.countAt i = n := by
  obtain ⟨s, hs, -, hc⟩ := h.slot_of_cell hi
  rw [Array.getElem?_toList] at hs
  rw [countAt, hs]
  exact congrArg Prod.snd hc

/-- A table shows what its used slots record, in storage order. -/
theorem used_eq (h : t.Shows cells) :
    t.pool.used.map (fun s => (s.backtrace, s.count)) = cells := by
  have hlen : cells.length ≤ t.pool.slots.toList.length := by simpa [Pool.capacity] using h.le
  unfold Pool.used
  -- the slots in front are all used, those behind all free
  rw [← List.take_append_drop cells.length t.pool.slots.toList, List.filter_append,
    List.filter_eq_self.2, List.filter_eq_nil_iff.2, List.append_nil]
  · refine List.ext_getElem? fun i => ?_
    rw [List.getElem?_map]
    by_cases hi : i < cells.length
    · obtain ⟨s, hs, -, hc⟩ := h.slot_of_cell (List.getElem?_eq_getElem hi)
      rw [List.getElem?_take_of_lt hi, hs, List.getElem?_eq_getElem hi, Option.map_some, hc]
    · rw [List.getElem?_eq_none (by simp; omega), List.getElem?_eq_none (by omega)]
      rfl
  · intro s hs hu
    obtain ⟨i, hi, hsi⟩ := List.getElem_of_mem hs
    rw [List.getElem_drop] at hsi
    have hc := h.cell_of_slot (i := cells.length + i) (by rw [← hsi]; exact List.getElem?_eq_getElem _) hu
    rw [List.getElem?_eq_none (by omega)] at hc
    simp at hc
  · intro s hs
    obtain ⟨i, hi, hsi⟩ := List.getElem_of_mem hs
    have hi' : i < cells.length := by simp at hi; omega
    rw [List.getElem_take] at hsi
    obtain ⟨x, hx, hu, -⟩ := h.slot_of_cell (List.getElem?_eq_getElem hi')
    rw [List.getElem?_eq_getElem (by omega), hsi, Option.some.injEq] at hx
    rw [hx, hu]

theorem new (N D : Nat) : (Table.new N D).Shows [] :=
  ⟨Nat.zero_le _, fun i c hi => by simp at hi,
    ⟨_, by simpa [Table.new, Pool.new, Pool.capacity] using layout_new N D⟩, List.nodup_nil⟩

theorem freeLen_eq (h : t.Shows cells) : t.pool.freeLen = t.pool.capacity - cells.length := by
  obtain ⟨chains, hl⟩ := h.layout
  rw [hl.free_len, List.length_range']

/-- A table shows the cells with one rewritten, once its slot is. -/
theorem set (h : t.Shows cells) (hw : Writes t.pool t'.pool i (true, k, n)) (hi : i < cells.length)
    (hl : ∃ chains, t'.Layout (List.range' cells.length (t.pool.capacity - cells.length)) chains none)
    (hnd : (Keyed.keys (cells.set i (k, n))).Nodup) : t'.Shows (cells.set i (k, n)) := by
  refine ⟨?_, fun j c hj => ?_, ?_, hnd⟩
  · rw [List.length_set, hw.capacity]
    exact h.le
  · by_cases hij : i = j
    · subst hij
      rw [List.getElem?_set_self hi] at hj
      rw [hw.here, ← Option.some.inj hj]
    · rw [List.getElem?_set_ne hij] at hj
      rw [hw.there j (Ne.symm hij)]
      exact h.content j c hj
  · rw [List.length_set, hw.capacity]
    exact hl

/-- **Counting** in a cell. -/
theorem increment (h : t.Shows cells) (hi : cells[i]? = some (k, n)) :
    (t.increment i).Shows (cells.set i (k, n + 1)) ∧
      Writes t.pool (t.increment i).pool i (true, k, n + 1) := by
  obtain ⟨chains, hl⟩ := h.layout
  have hc := h.content i _ hi
  obtain ⟨s, hs, hw⟩ := writes_update (f := fun s => { s with count := s.count + 1 }) hc
  rw [Pool.content_of_slot hs] at hc
  simp only [Option.some.injEq, Prod.mk.injEq] at hc
  simp only [hc] at hw
  refine ⟨h.set hw (List.getElem?_eq_some_iff.1 hi).1 ⟨chains, hl.increment i⟩ ?_, hw⟩
  rw [Keyed.keys_set_count hi]
  exact h.nodup

/-! ## The three ways of placing a backtrace -/

/-- A backtrace that has a cell keeps it, and nothing changes. -/
theorem place_hit (h : t.Shows cells) (hi : cells[i]? = some (key, n)) :
    t.place key = some ⟨i, t, 0⟩ := by
  rw [place, h.find_of_cell hi]

/-- **While slots are free** a new backtrace gets the next cell. -/
theorem place_fresh (h : t.Shows cells) (hk : key ∉ cells.keys)
    (hlt : cells.length < t.pool.capacity) :
    ∃ t', t.place key = some ⟨cells.length, t', 0⟩ ∧ t'.Shows (cells ++ [(key, 0)]) ∧
      Writes t.pool t'.pool cells.length (true, key, 0) ∧ t'.evictions = t.evictions := by
  obtain ⟨chains, hl⟩ := h.layout
  have hfree : List.range' cells.length (t.pool.capacity - cells.length) =
      cells.length :: List.range' (cells.length + 1) (t.pool.capacity - (cells.length + 1)) := by
    rw [show t.pool.capacity - cells.length = t.pool.capacity - (cells.length + 1) + 1 by omega,
      List.range'_succ]
  rw [hfree] at hl
  obtain ⟨t', hcreate, hw, hev, hl'⟩ := hl.create key
  refine ⟨t', ?_, ⟨?_, fun i c hi => ?_, ?_, ?_⟩, hw, hev⟩
  · have hroom : t.makeRoom = some (t, 0) := by
      rw [makeRoom, if_neg (by rw [h.freeLen_eq]; omega)]
    rw [place, h.find_of_notMem hk]
    simp only [hroom, Option.bind_some, hcreate, Option.map_some]
  · rw [hw.capacity, List.length_append]
    exact hlt
  · by_cases hi' : i = cells.length
    · subst hi'
      rw [List.getElem?_concat_length] at hi
      rw [hw.here, ← Option.some.inj hi]
    · rw [hw.there i hi']
      rw [List.getElem?_append] at hi
      split at hi
      · exact h.content i c hi
      · rw [List.getElem?_eq_none (by simp; omega)] at hi
        simp at hi
  · rw [hw.capacity, List.length_append, List.length_singleton]
    exact ⟨_, hl'⟩
  · exact Keyed.nodup_concat h.nodup hk

/-- **When no slot is free** the new backtrace takes the first cell of least count, whose count is
spilled. -/
theorem place_full (h : t.Shows cells) (hk : key ∉ cells.keys)
    (hfull : t.pool.capacity ≤ cells.length) (hpos : cells ≠ []) :
    ∃ t' v k n, t.place key = some ⟨v, t', n⟩ ∧ cells.Victim v k n ∧
      t'.Shows (cells.set v (key, 0)) ∧ Writes t.pool t'.pool v (true, key, 0) ∧
      t'.evictions = t.evictions + 1 := by
  obtain ⟨chains, hl⟩ := h.layout
  have hnil : t.pool.capacity - cells.length = 0 := by omega
  -- the first cell is in use, so the scan finds a victim
  obtain ⟨v, hv⟩ : ∃ v, t.pool.leastUsed = some v := by
    cases hn : t.pool.leastUsed with
    | some v => exact ⟨v, rfl⟩
    | none =>
      obtain ⟨c, cs, rfl⟩ := List.exists_cons_of_ne_nil hpos
      obtain ⟨s, hs, hu, -⟩ := h.slot_of_cell (i := 0) rfl
      rw [Pool.leastUsed_eq_none hn s (List.mem_of_getElem? hs)] at hu
      simp at hu
  obtain ⟨n, hleast⟩ := Pool.leastUsed_eq_some hv
  obtain ⟨s, hs, hu, rfl⟩ := hleast.here
  have hvc := h.cell_of_slot hs hu
  -- the slot given back is on top of the free stack, and taken again
  obtain ⟨t₁, k', n', hevict, hw₁, hev₁, hl₁⟩ := hl.evict hv (h.content v _ hvc)
  rw [hnil] at hl₁
  obtain ⟨t₂, hcreate, hw₂, hev₂, hl₂⟩ := hl₁.create key
  have hw := hw₁.trans hw₂
  have hvl := (List.getElem?_eq_some_iff.1 hvc).1
  refine ⟨t₂, v, s.backtrace, s.count, ?_, ⟨hvc, fun c hc => ?_, fun j c hj hjv => ?_⟩,
    h.set hw hvl ?_ (Keyed.nodup_set h.nodup hk), hw, hev₂.trans hev₁⟩
  · have hroom : t.makeRoom = some (t₁, s.count) := by
      rw [makeRoom, if_pos (by rw [h.freeLen_eq]; omega), hevict]
    rw [place, h.find_of_notMem hk]
    simp only [hroom, Option.bind_some, hcreate, Option.map_some]
  · obtain ⟨j, hj⟩ := List.getElem?_of_mem hc
    obtain ⟨x, hx, hxu, rfl⟩ := h.slot_of_cell hj
    exact hleast.least j x hx hxu
  · obtain ⟨x, hx, hxu, rfl⟩ := h.slot_of_cell hj
    exact hleast.first j x hx hxu hjv
  · rw [hnil]
    exact ⟨_, hl₂⟩

/-- **A table with slots places every backtrace**, in one of the three ways. -/
theorem place (h : t.Shows cells) (hcap : 0 < t.pool.capacity) (key : Backtrace) :
    ∃ placed cells', t.place key = some placed ∧ placed.table.Shows cells' ∧
      placed.table.pool.capacity = t.pool.capacity ∧ placed.table.pool.depth = t.pool.depth := by
  by_cases hk : key ∈ cells.keys
  · obtain ⟨i, n, hi⟩ := Keyed.exists_of_mem_keys hk
    exact ⟨_, cells, h.place_hit hi, h, rfl, rfl⟩
  by_cases hlt : cells.length < t.pool.capacity
  · obtain ⟨t', hp, hs, hw, -⟩ := h.place_fresh hk hlt
    exact ⟨_, _, hp, hs, hw.capacity, hw.depth⟩
  · have hpos : cells ≠ [] := by
      rintro rfl
      simp at hlt
      omega
    obtain ⟨t', v, k, n, hp, -, hs, hw, -⟩ := h.place_full hk (Nat.le_of_not_lt hlt) hpos
    exact ⟨_, _, hp, hs, hw.capacity, hw.depth⟩

end Shows

end Table

end StackSampler
