import StackSampler.Proofs.Store.Cells
import StackSampler.Total
import Mathlib.Data.List.Nodup
import Mathlib.Data.List.FinRange

/-!
# Every slot in one place

`Reached N D t`: the table comes from a new one with `N` slots for backtraces of depth `D`, by
placing backtraces of that depth and counting in used slots, any number of times in any order.

* `Layout.wellLinked_layout`: what a layout without a slot in hand says about the table alone, through its
  own links, walks and counters (`WellLinked`).
* `Reached.shows`: every table reached shows some cells, so it has such a layout.
* `Reached.wellLinked` puts the two together: **each slot is on the free stack or on the chain of its
  own backtrace, once, and no walk along links can leave the pool or run on.**
-/

namespace StackSampler

namespace Pool

/-- The back link of the slot at `i`. -/
def prevOf (p : Pool) (i : Nat) : Option Nat := p.slots[i]?.bind Slot.prev

/-- The free slots from the top of the free stack down. -/
def freeStack (p : Pool) : List Nat := p.walk p.capacity p.freeHead

variable {p : Pool} {start : Option Nat} {l : List Nat} {i j : Nat}

theorem prevOf_of_links {x y : Option Nat} (h : p.links i = some (x, y)) : p.prevOf i = x := by
  obtain ⟨s, hs, hp, -⟩ := slot_of_links h
  rw [prevOf, hs, Option.bind_some, hp]

/-- A path does not leave its own slots. -/
theorem Path.next_mem (h : p.Path start l) (hi : i ∈ l) (hj : p.nextOf i = some j) : j ∈ l := by
  obtain ⟨l₁, l₂, rfl⟩ := List.append_of_mem hi
  obtain ⟨-, before, next, hk, hp⟩ := h.drop_of_append
  rw [nextOf_of_links hk] at hj
  subst hj
  cases l₂ with
  | nil => simp [Path] at hp
  | cons k l₂ =>
    obtain rfl : j = k := by simpa using hp.1
    simp

end Pool

namespace Table

/-- **What the links of a sound table of `N` slots are like.** -/
structure WellLinked (t : Table) (N : Nat) : Prop where
  capacity : t.pool.capacity = N
  /-- Each slot is once on the free stack and unused, or once on one chain, used, and that chain is
  the one of its own backtrace. -/
  place : ∀ i, i < N → ∃ s, t.pool.slots[i]? = some s ∧
    (s.used = false ∧ t.pool.freeStack.count i = 1 ∧ (∀ b, i ∉ t.chain b) ∨
      s.used = true ∧ i ∉ t.pool.freeStack ∧ (t.chain s.backtrace.bucket).count i = 1 ∧
        ∀ b, i ∈ t.chain b → b = s.backtrace.bucket)
  /-- Nothing but slots is on the free stack or a chain. -/
  only_slots : (∀ i ∈ t.pool.freeStack, i < N) ∧ ∀ b, ∀ i ∈ t.chain b, i < N
  head_prev : ∀ (b : Fin bucketCount) i, t.head b = some i → t.pool.prevOf i = none
  next_prev : ∀ b, ∀ i ∈ t.chain b, ∀ j, t.pool.nextOf i = some j →
    j ∈ t.chain b ∧ t.pool.prevOf j = some i
  prev_next : ∀ b, ∀ j ∈ t.chain b, ∀ i, t.pool.prevOf j = some i →
    i ∈ t.chain b ∧ t.pool.nextOf i = some j
  free_len : t.pool.freeLen = t.pool.freeStack.length
  /-- The free stack ends, after as many steps as it has slots. -/
  free_ends : t.pool.follow t.pool.freeLen t.pool.freeHead = none
  used_len : t.pool.usedLen = N - t.pool.freeLen
  chain_lens : total ((List.finRange bucketCount).map t.chainLen) = t.pool.usedLen
  /-- No link leads out of the pool. -/
  links_lt : ∀ j, t.pool.freeHead = some j ∨ (∃ b : Fin bucketCount, t.head b = some j) ∨
    (∃ i, t.pool.nextOf i = some j) ∨ (∃ i, t.pool.prevOf i = some j) → j < N
  /-- From the head of a chain, as many steps as slots are in use lead past its end. -/
  walk_ends : ∀ b : Fin bucketCount, t.pool.follow t.pool.usedLen (t.head b) = none
  /-- A chain is all that any longer walk would meet. -/
  walk_all : ∀ (b : Fin bucketCount) fuel, t.pool.usedLen ≤ fuel → t.pool.walk fuel (t.head b) = t.chain b

variable {t t' : Table} {free : List Nat} {chains : Fin bucketCount → List Nat}
variable {cells : Keyed} {i j n N D : Nat} {b : Fin bucketCount} {key : Backtrace}

namespace Layout

theorem freeStack_eq (h : t.Layout free chains none) : t.pool.freeStack = free :=
  h.free_path.walk_eq h.free_path.length_le

/-- Every slot is free or on a chain. -/
theorem mem_iff_lt (h : t.Layout free chains none) :
    (i ∈ free ∨ ∃ b, i ∈ chains b) ↔ i < t.pool.capacity := by
  constructor
  · rintro (hi | ⟨b, hi⟩)
    · obtain ⟨x, hx⟩ := h.free_path.mem_links hi
      exact Pool.lt_capacity_of_links hx
    · obtain ⟨x, hx⟩ := (h.chain_seg b).path.mem_links hi
      exact Pool.lt_capacity_of_links hx
  · intro hi
    obtain ⟨s, hs⟩ : ∃ s, t.pool.slots[i]? = some s := ⟨_, Array.getElem?_eq_getElem hi⟩
    have hc := Pool.content_of_slot hs
    cases hu : s.used with
    | false => exact .inl ((h.mem_free i).2 ⟨_, _, hu ▸ hc⟩)
    | true => exact .inr ⟨_, (h.mem_chain _ i).2 ⟨by simp, _, _, hu ▸ hc, rfl⟩⟩

/-- **The free stack and the chains share out the slots.** -/
theorem perm_range (h : t.Layout free chains none) :
    (free ++ (List.finRange bucketCount).flatMap chains).Perm (List.range t.pool.capacity) := by
  -- nothing is listed twice, and everything below the capacity is listed
  have hchains : ((List.finRange bucketCount).flatMap chains).Nodup := by
    refine List.nodup_flatMap.2 ⟨fun b _ => h.nodup_chain b, ?_⟩
    refine (List.nodup_finRange bucketCount).imp fun {a b} hab => ?_
    exact fun i hi hi' => h.not_mem_chain hi hab hi'
  have hnd : (free ++ (List.finRange bucketCount).flatMap chains).Nodup := by
    refine List.nodup_append.2 ⟨h.nodup_free, hchains, fun i hi j hj => ?_⟩
    rintro rfl
    obtain ⟨b, -, hb⟩ := List.mem_flatMap.1 hj
    exact h.not_mem_chain_of_free hi hb
  refine (List.perm_ext_iff_of_nodup hnd List.nodup_range).2 fun i => ?_
  rw [List.mem_range, ← h.mem_iff_lt]
  simp

/-- What is not free is on the chains. -/
theorem total_chains (h : t.Layout free chains none) :
    total ((List.finRange bucketCount).map fun b => (chains b).length) = t.pool.usedLen := by
  have hlen := h.perm_range.length_eq
  rw [List.length_append, List.length_range] at hlen
  have hfree := h.free_len
  rw [total_length]
  unfold Pool.usedLen
  unfold Pool.capacity at hlen
  omega

theorem chain_le_used (h : t.Layout free chains none) (b : Fin bucketCount) :
    (chains b).length ≤ t.pool.usedLen := by
  rw [← h.total_chains]
  exact le_total (List.mem_map_of_mem (List.mem_finRange b))

/-- The neighbours of a slot on a chain. -/
theorem links_of_mem (h : t.Layout free chains none) (hi : i ∈ chains b) :
    ∃ l m, chains b = l ++ i :: m ∧ t.pool.links i = some (l.getLast?, m.head?) := by
  obtain ⟨l, m, hs⟩ := List.append_of_mem hi
  have hseg := h.chain_seg b
  rw [hs] at hseg
  exact ⟨l, m, hs, by rw [hseg.links_mid, Option.or_none]⟩

theorem next_prev (h : t.Layout free chains none) (hi : i ∈ chains b)
    (hj : t.pool.nextOf i = some j) : j ∈ chains b ∧ t.pool.prevOf j = some i := by
  obtain ⟨l, m, hs, hl⟩ := h.links_of_mem hi
  rw [Pool.nextOf_of_links hl] at hj
  obtain ⟨m, rfl⟩ : ∃ m', m = j :: m' := by
    cases m with
    | nil => simp at hj
    | cons k m => exact ⟨m, by simpa using hj⟩
  have hseg := h.chain_seg b
  rw [hs, List.append_cons] at hseg
  refine ⟨by rw [hs]; simp, ?_⟩
  rw [Pool.prevOf_of_links hseg.links_mid, List.getLast?_concat]
  rfl

theorem prev_next (h : t.Layout free chains none) (hj : j ∈ chains b)
    (hi : t.pool.prevOf j = some i) : i ∈ chains b ∧ t.pool.nextOf i = some j := by
  obtain ⟨l, m, hs, hl⟩ := h.links_of_mem hj
  rw [Pool.prevOf_of_links hl] at hi
  obtain ⟨l, rfl⟩ : ∃ l', l = l' ++ [i] := List.getLast?_eq_some_iff.1 hi
  have hseg := h.chain_seg b
  rw [hs, List.append_assoc, List.singleton_append] at hseg
  refine ⟨by rw [hs]; simp, ?_⟩
  rw [Pool.nextOf_of_links hseg.links_mid]
  rfl

/-- **No link leads out of the pool**: from a head or a chained slot it leads to the same chain,
from the free stack to the free stack. -/
theorem links_lt (h : t.Layout free chains none)
    (hj : t.pool.freeHead = some j ∨ (∃ b : Fin bucketCount, t.head b = some j) ∨
      (∃ i, t.pool.nextOf i = some j) ∨ ∃ i, t.pool.prevOf i = some j) : j < t.pool.capacity := by
  -- only a slot of the pool has a link at all
  have hslot : ∀ {i x} {f : Slot → Option Nat}, t.pool.slots[i]?.bind f = some x →
      i ∈ free ∨ ∃ b, i ∈ chains b := by
    intro i x f hi
    obtain ⟨s, hs, -⟩ := Option.bind_eq_some_iff.1 hi
    exact h.mem_iff_lt.2 (Array.getElem?_eq_some_iff.1 hs).1
  rcases hj with hj | ⟨b, hj⟩ | ⟨i, hj⟩ | ⟨i, hj⟩
  · have hp := h.free_path
    rw [hj] at hp
    cases free with
    | nil => simp [Pool.Path] at hp
    | cons k l =>
      obtain rfl : j = k := by simpa using hp.1
      exact h.mem_iff_lt.1 (.inl List.mem_cons_self)
  · rw [h.head_eq] at hj
    exact h.mem_iff_lt.1 (.inr ⟨b, List.mem_of_mem_head? hj⟩)
  · rcases hslot hj with hi | ⟨b, hi⟩
    · exact h.mem_iff_lt.1 (.inl (h.free_path.next_mem hi hj))
    · exact h.mem_iff_lt.1 (.inr ⟨b, (h.next_prev hi hj).1⟩)
  · rcases hslot hj with hi | ⟨b, hi⟩
    · obtain ⟨next, hl⟩ := h.free_prev i hi
      rw [Pool.prevOf_of_links hl] at hj
      simp at hj
    · exact h.mem_iff_lt.1 (.inr ⟨b, (h.prev_next hi hj).1⟩)

/-- **A slot's one place**: its used flag says whether it is on the free stack or on a chain, and its
backtrace says on which. -/
theorem one_place (h : t.Layout free chains none) {s : Slot} (hs : t.pool.slots[i]? = some s) :
    s.used = false ∧ free.count i = 1 ∧ (∀ b, i ∉ chains b) ∨
      s.used = true ∧ i ∉ free ∧ (chains s.backtrace.bucket).count i = 1 ∧
        ∀ b, i ∈ chains b → b = s.backtrace.bucket := by
  have hc := Pool.content_of_slot hs
  cases hu : s.used with
  | false =>
    have hm := (h.mem_free i).2 ⟨_, _, hu ▸ hc⟩
    exact .inl ⟨rfl, List.count_eq_one_of_mem h.nodup_free hm, fun b => h.not_mem_chain_of_free hm⟩
  | true =>
    have hm := (h.mem_chain s.backtrace.bucket i).2 ⟨by simp, _, _, hu ▸ hc, rfl⟩
    refine .inr ⟨rfl, fun hf => h.not_mem_chain_of_free hf hm,
      List.count_eq_one_of_mem (h.nodup_chain _) hm, fun b hb => ?_⟩
    by_contra hne
    exact h.not_mem_chain hb hne hm

theorem head_prev (h : t.Layout free chains none) (hb : t.head b = some i) :
    t.pool.prevOf i = none := by
  have hs := h.chain_seg b
  rw [hb] at hs
  cases hl : chains b with
  | nil =>
    rw [hl] at hs
    simp [Pool.Segment] at hs
  | cons k l =>
    rw [hl] at hs
    obtain ⟨hk, next, hlinks, -⟩ := hs
    obtain rfl : i = k := by simpa using hk
    exact Pool.prevOf_of_links hlinks

/-- **A layout read off the table's own links.** -/
theorem wellLinked_layout (h : t.Layout free chains none) : t.WellLinked t.pool.capacity := by
  -- what the table's own walks find is what the layout lists
  have hchain : ∀ b, t.chain b = chains b := h.chain_eq
  have hfree := h.freeStack_eq
  refine
    { capacity := rfl, place := fun i hi => ?_, only_slots := ?_, head_prev := fun b i => h.head_prev,
      next_prev := fun b i hi j hj => ?_, prev_next := fun b j hj i hi => ?_,
      free_len := by rw [hfree, h.free_len], free_ends := ?_, used_len := rfl, chain_lens := ?_,
      links_lt := fun j => h.links_lt, walk_ends := fun b => ?_, walk_all := fun b fuel hf => ?_ }
  · obtain ⟨s, hs⟩ : ∃ s, t.pool.slots[i]? = some s := ⟨_, Array.getElem?_eq_getElem hi⟩
    refine ⟨s, hs, ?_⟩
    simp only [hchain, hfree]
    exact h.one_place hs
  · rw [hfree]
    exact ⟨fun i hi => h.mem_iff_lt.1 (.inl hi),
      fun b i hi => h.mem_iff_lt.1 (.inr ⟨b, hchain b ▸ hi⟩)⟩
  · rw [hchain] at hi ⊢
    exact h.next_prev hi hj
  · rw [hchain] at hj ⊢
    exact h.prev_next hj hi
  · exact h.free_path.follow_eq (Nat.le_of_eq h.free_len.symm)
  · rw [← h.total_chains]
    exact congrArg total (List.map_congr_left fun b _ => congrArg List.length (hchain b))
  · exact (h.chain_seg b).path.follow_eq (h.chain_le_used b)
  · rw [hchain]
    exact (h.chain_seg b).path.walk_eq (Nat.le_trans (h.chain_le_used b) hf)

end Layout

/-! ## Tables reached -/

/-- **The tables reached** from a new one of `N` slots for backtraces of depth `D`. -/
inductive Reached (N D : Nat) : Table → Prop where
  | new : Reached N D (Table.new N D)
  | place {t : Table} {key : Backtrace} {placed : Placement} : Reached N D t → key.length = D →
      t.place key = some placed → Reached N D placed.table
  | increment {t : Table} {i : Nat} {s : Slot} : Reached N D t → t.pool.slots[i]? = some s →
      s.used = true → Reached N D (t.increment i)

/-- Every table reached shows some cells, in a pool of the size it was made with. -/
theorem Reached.shows (hN : 0 < N) (h : Reached N D t) :
    ∃ cells, t.Shows cells ∧ t.pool.capacity = N ∧ t.pool.depth = D := by
  induction h with
  | new => exact ⟨[], Shows.new N D, by simp [Table.new, Pool.new, Pool.capacity], rfl⟩
  | @place t key placed _ _ hp ih =>
    obtain ⟨cells, hs, hc, hd⟩ := ih
    obtain ⟨placed', cells', hp', hs', hc', hd'⟩ := hs.place (by rw [hc]; exact hN) key
    obtain rfl : placed = placed' := Option.some.inj (hp.symm.trans hp')
    exact ⟨cells', hs', hc'.trans hc, hd'.trans hd⟩
  | @increment t i s _ hi hu ih =>
    obtain ⟨cells, hs, hc, hd⟩ := ih
    have hcell := hs.cell_of_slot (by rw [Array.getElem?_toList]; exact hi) hu
    obtain ⟨hs', hw⟩ := hs.increment hcell
    exact ⟨_, hs', hw.capacity.trans hc, hw.depth.trans hd⟩

/-- **Each slot of a table reached is in one place.** It is on the free stack or on the chain of its
own backtrace, once; the links of a chain go forth and back alike; the counters are the lengths; and
no link leaves the pool, so that every walk ends within the number of used slots. -/
theorem Reached.wellLinked (hN : 0 < N) (h : Reached N D t) : t.WellLinked N := by
  obtain ⟨cells, hs, hc, -⟩ := h.shows hN
  obtain ⟨chains, hl⟩ := hs.layout
  rw [← hc]
  exact hl.wellLinked_layout

/-- Two slots, of which the first was evicted for a third backtrace. -/
theorem wellLinked_after_eviction :
    ∃ p q r, (Table.new 2 1).place [⟨1⟩] = some p ∧ p.table.place [⟨2⟩] = some q ∧
      q.table.place [⟨3⟩] = some r ∧ r.table.evictions = 1 ∧ 0 < 2 ∧ Reached 2 1 r.table ∧
      r.table.WellLinked 2 := by
  have h₁ := (Reached.new (N := 2) (D := 1)).place (rfl : [FrameId.ofNat 1].length = 1) rfl
  have h₂ := h₁.place (rfl : [FrameId.ofNat 2].length = 1) rfl
  have h₃ := h₂.place (rfl : [FrameId.ofNat 3].length = 1) rfl
  exact ⟨_, _, _, rfl, rfl, rfl, rfl, by decide, h₃, Reached.wellLinked (by decide) h₃⟩

end Table

end StackSampler
