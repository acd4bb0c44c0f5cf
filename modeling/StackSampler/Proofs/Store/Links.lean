import StackSampler.Store.Pool
import Mathlib.Data.List.Perm.Subperm
import Mathlib.Logic.Basic

/-!
# Links between slots

A slot is read in two halves: its **links** (`prev` and `next`) and its **content** (the used flag,
the backtrace and the count). What follows says how links make lists.

* `Path`: following `next` from a start meets exactly the given slots and then stops. There is at
  most one such list (`Path.unique`), it holds no slot twice (`Path.nodup`), a walk with enough fuel
  is that list (`Path.walk_eq`), and as many steps as it has slots end it (`Path.follow_eq`).
* `Segment`: a stretch of a doubly linked chain. Stretches are joined and parted by `segment_append`;
  `Segment.turn_last` and `Segment.turn_first` change where a stretch leads to and comes from.
-/

namespace StackSampler

namespace Pool

variable {p p' : Pool} {before start after : Option Nat} {l m : List Nat} {i j : Nat}

/-! ## The two halves of a slot -/

/-- The back link and the forward link of the slot at `i`. -/
def links (p : Pool) (i : Nat) : Option (Option Nat × Option Nat) :=
  p.slots[i]?.map fun s => (s.prev, s.next)

/-- What the slot at `i` records: the used flag, the backtrace and the count. -/
def content (p : Pool) (i : Nat) : Option (Bool × Backtrace × Nat) :=
  p.slots[i]?.map fun s => (s.used, s.backtrace, s.count)

theorem slot_of_links {x y : Option Nat} (h : p.links i = some (x, y)) :
    ∃ s, p.slots[i]? = some s ∧ s.prev = x ∧ s.next = y := by
  obtain ⟨s, hs, he⟩ := Option.map_eq_some_iff.1 h
  rw [Prod.mk.injEq] at he
  exact ⟨s, hs, he⟩

theorem slot_of_content {u : Bool} {k : Backtrace} {n : Nat} (h : p.content i = some (u, k, n)) :
    ∃ s, p.slots[i]? = some s ∧ s.used = u ∧ s.backtrace = k ∧ s.count = n := by
  obtain ⟨s, hs, he⟩ := Option.map_eq_some_iff.1 h
  rw [Prod.mk.injEq, Prod.mk.injEq] at he
  exact ⟨s, hs, he⟩

theorem content_of_slot {s : Slot} (hs : p.slots[i]? = some s) :
    p.content i = some (s.used, s.backtrace, s.count) := by
  rw [content, hs, Option.map_some]

theorem slots_update (p : Pool) (i j : Nat) (f : Slot → Slot) :
    (p.update i f).slots[j]? = if i = j then p.slots[j]?.map f else p.slots[j]? :=
  Array.getElem?_modify

theorem links_update_ne {f : Slot → Slot} (h : i ≠ j) : (p.update i f).links j = p.links j := by
  simp only [links, slots_update, if_neg h]

theorem links_update_self (p : Pool) (i : Nat) (f : Slot → Slot) :
    (p.update i f).links i = p.slots[i]?.map fun s => ((f s).prev, (f s).next) := by
  simp only [links, slots_update, if_true, Option.map_map, Function.comp_def]

/-- A change of content only keeps every link. -/
theorem links_update_of_keep {f : Slot → Slot} (hf : ∀ s, (f s).prev = s.prev ∧ (f s).next = s.next)
    (j : Nat) : (p.update i f).links j = p.links j := by
  by_cases h : i = j
  · subst h; rw [links_update_self]; simp only [hf, links]
  · exact links_update_ne h

theorem content_update_ne {f : Slot → Slot} (h : i ≠ j) :
    (p.update i f).content j = p.content j := by
  simp only [content, slots_update, if_neg h]

theorem content_update_self (p : Pool) (i : Nat) (f : Slot → Slot) :
    (p.update i f).content i =
      p.slots[i]?.map fun s => ((f s).used, (f s).backtrace, (f s).count) := by
  simp only [content, slots_update, if_true, Option.map_map, Function.comp_def]

/-- A change of links only keeps every content. -/
theorem content_update_of_keep {f : Slot → Slot}
    (hf : ∀ s, (f s).used = s.used ∧ (f s).backtrace = s.backtrace ∧ (f s).count = s.count)
    (j : Nat) : (p.update i f).content j = p.content j := by
  by_cases h : i = j
  · subst h; rw [content_update_self]; simp only [hf, content]
  · exact content_update_ne h

@[simp] theorem size_update (p : Pool) (i : Nat) (f : Slot → Slot) :
    (p.update i f).slots.size = p.slots.size := Array.size_modify

theorem content_pointBack (p : Pool) (slot before : Option Nat) (j : Nat) :
    (p.pointBack slot before).content j = p.content j := by
  cases slot with
  | none => rfl
  | some i => exact content_update_of_keep (by simp) j

theorem links_pointBack_of_ne {slot : Option Nat} (h : slot ≠ some j) (x : Option Nat) :
    (p.pointBack slot x).links j = p.links j := by
  cases slot with
  | none => rfl
  | some i => exact links_update_ne (by simpa using h)

/-! ## Paths -/

/-- Following `next` from `start` meets exactly the slots of the list, and then stops. -/
def Path (p : Pool) : Option Nat → List Nat → Prop
  | start, [] => start = none
  | start, i :: l => start = some i ∧ ∃ before next, p.links i = some (before, next) ∧ p.Path next l

theorem nextOf_of_links {x y : Option Nat} (h : p.links i = some (x, y)) : p.nextOf i = y := by
  obtain ⟨s, hs, -, hn⟩ := slot_of_links h
  rw [nextOf, hs, Option.bind_some, hn]

theorem lt_capacity_of_links {x : Option Nat × Option Nat} (h : p.links i = some x) :
    i < p.capacity := by
  obtain ⟨s, hs, -⟩ := Option.map_eq_some_iff.1 h
  exact (Array.getElem?_eq_some_iff.1 hs).1

/-- Paths depend on the links of their own slots only. -/
theorem Path.frame (h : p.Path start l) (hl : ∀ i ∈ l, p'.links i = p.links i) :
    p'.Path start l := by
  induction l generalizing start with
  | nil => exact h
  | cons i l ih =>
    obtain ⟨rfl, before, next, hi, hp⟩ := h
    refine ⟨rfl, before, next, ?_, ih hp fun j hj => hl j (List.mem_cons_of_mem _ hj)⟩
    rw [hl i List.mem_cons_self, hi]

/-- **A walk follows the path to its end.** -/
theorem Path.walk_eq (h : p.Path start l) {fuel : Nat} (hf : l.length ≤ fuel) :
    p.walk fuel start = l := by
  induction l generalizing start fuel with
  | nil =>
    cases h
    cases fuel <;> rfl
  | cons i l ih =>
    obtain ⟨rfl, before, next, hi, hp⟩ := h
    obtain ⟨fuel, rfl⟩ : ∃ n, fuel = n + 1 := ⟨fuel - 1, by simp at hf; omega⟩
    simp only [walk]
    rw [nextOf_of_links hi, ih hp (by simpa using hf)]

/-- Where `n` steps along `next` lead from `start`. -/
def follow (p : Pool) : Nat → Option Nat → Option Nat
  | 0, start => start
  | n + 1, start => p.follow n (start.bind p.nextOf)

/-- **The steps along a path run out**, after as many as it has slots. -/
theorem Path.follow_eq (h : p.Path start l) {n : Nat} (hn : l.length ≤ n) :
    p.follow n start = none := by
  induction n generalizing start l with
  | zero =>
    obtain rfl := List.eq_nil_of_length_eq_zero (Nat.le_zero.1 hn)
    exact h
  | succ n ih =>
    cases l with
    | nil =>
      cases h
      exact ih (l := []) rfl (Nat.zero_le _)
    | cons i l =>
      obtain ⟨rfl, before, next, hi, hp⟩ := h
      simp only [follow, Option.bind_some]
      rw [nextOf_of_links hi]
      exact ih hp (by simpa using hn)

theorem Path.unique (h : p.Path start l) (h' : p.Path start m) : l = m := by
  have hl := h.walk_eq (Nat.le_max_left l.length m.length)
  have hm := h'.walk_eq (Nat.le_max_right l.length m.length)
  exact hl.symm.trans hm

/-- What is left of a path behind one of its slots is the path from there. -/
theorem Path.drop_of_append (h : p.Path start (l ++ i :: m)) : p.Path (some i) (i :: m) := by
  induction l generalizing start with
  | nil => obtain ⟨rfl, h⟩ := h; exact ⟨rfl, h⟩
  | cons j l ih =>
    obtain ⟨rfl, before, next, -, hp⟩ := h
    exact ih hp

/-- **A path that ends meets no slot twice**: from the second meeting on it would go the same way
again, and never stop. -/
theorem Path.nodup (h : p.Path start l) : l.Nodup := by
  induction l generalizing start with
  | nil => exact List.nodup_nil
  | cons i l ih =>
    obtain ⟨rfl, before, next, hi, hp⟩ := h
    refine List.nodup_cons.2 ⟨fun hm => ?_, ih hp⟩
    obtain ⟨l₁, l₂, rfl⟩ := List.append_of_mem hm
    -- two paths from `i`, the longer one through the shorter
    have hfirst : p.Path (some i) (i :: (l₁ ++ i :: l₂)) := ⟨rfl, before, next, hi, hp⟩
    have := congrArg List.length (hfirst.unique hp.drop_of_append)
    simp at this
    omega

theorem Path.mem_links (h : p.Path start l) (hi : i ∈ l) : ∃ x, p.links i = some x := by
  obtain ⟨l₁, l₂, rfl⟩ := List.append_of_mem hi
  obtain ⟨-, before, next, hi, -⟩ := h.drop_of_append
  exact ⟨_, hi⟩

/-- No path is longer than the pool. -/
theorem Path.length_le (h : p.Path start l) : l.length ≤ p.capacity := by
  have hsub : l ⊆ List.range p.capacity := fun i hi => by
    obtain ⟨x, hx⟩ := h.mem_links hi
    exact List.mem_range.2 (lt_capacity_of_links hx)
  simpa using (List.subperm_of_subset h.nodup hsub).length_le

/-! ## Segments -/

/-- A stretch of a doubly linked chain: `before` stands in front of it, `start` leads into it, and
its last slot leads to `after`. -/
def Segment (p : Pool) : Option Nat → Option Nat → List Nat → Option Nat → Prop
  | _, start, [], after => start = after
  | before, start, i :: l, after =>
    start = some i ∧ ∃ next, p.links i = some (before, next) ∧ p.Segment (some i) next l after

theorem Segment.frame (h : p.Segment before start l after) (hl : ∀ i ∈ l, p'.links i = p.links i) :
    p'.Segment before start l after := by
  induction l generalizing before start with
  | nil => exact h
  | cons i l ih =>
    obtain ⟨rfl, next, hi, hs⟩ := h
    refine ⟨rfl, next, ?_, ih hs fun j hj => hl j (List.mem_cons_of_mem _ hj)⟩
    rw [hl i List.mem_cons_self, hi]

/-- A stretch that leads nowhere is a path. -/
theorem Segment.path (h : p.Segment before start l none) : p.Path start l := by
  induction l generalizing before start with
  | nil => exact h
  | cons i l ih =>
    obtain ⟨rfl, next, hi, hs⟩ := h
    exact ⟨rfl, before, next, hi, ih hs⟩

theorem Segment.start_eq (h : p.Segment before start l after) : start = l.head?.or after := by
  cases l with
  | nil => simpa [Segment] using h
  | cons i l => simpa using h.1

/-- **Joining and parting stretches.** -/
theorem segment_append : p.Segment before start (l ++ m) after ↔
    ∃ mid, p.Segment before start l mid ∧ p.Segment (l.getLast?.or before) mid m after := by
  induction l generalizing before start with
  | nil => simp [Segment]
  | cons i l ih =>
    -- what stands in front of the second stretch is the end of the first, if it has one
    have hlast : (i :: l).getLast?.or before = l.getLast?.or (some i) := by
      simp [List.getLast?_cons]
    rw [hlast]
    constructor
    · rintro ⟨rfl, next, hi, hs⟩
      obtain ⟨mid, h1, h2⟩ := ih.1 hs
      exact ⟨mid, ⟨rfl, next, hi, h1⟩, h2⟩
    · rintro ⟨mid, ⟨rfl, next, hi, h1⟩, h2⟩
      exact ⟨rfl, next, hi, ih.2 ⟨mid, h1, h2⟩⟩

/-- The links of a slot inside a chain name its two neighbours. -/
theorem Segment.links_mid (h : p.Segment before start (l ++ i :: m) none) :
    p.links i = some (l.getLast?.or before, m.head?) := by
  obtain ⟨mid, -, -, next, hi, hs⟩ := segment_append.1 h
  rw [hi, hs.start_eq, Option.or_none]

/-- The last slot of a stretch made to lead elsewhere. -/
theorem Segment.turn_last (h : p.Segment before start (l ++ [i]) after) (hi : i ∉ l)
    (x : Option Nat) :
    (p.update i fun s => { s with next := x }).Segment before start (l ++ [i]) x := by
  obtain ⟨mid, h1, rfl, next, hk, -⟩ := segment_append.1 h
  refine segment_append.2 ⟨some i, h1.frame fun j hj => ?_, rfl, x, ?_, rfl⟩
  · exact links_update_ne fun hij => hi (hij ▸ hj)
  · obtain ⟨s, hs, hprev, -⟩ := slot_of_links hk
    rw [links_update_self, hs, Option.map_some, hprev]

/-- A stretch made to come from elsewhere. -/
theorem Segment.turn_first (h : p.Segment before start l after) (hl : l.Nodup) (x : Option Nat) :
    (p.pointBack l.head? x).Segment x start l after := by
  cases l with
  | nil => exact h
  | cons i l =>
    obtain ⟨rfl, next, hk, hs⟩ := h
    have hi := (List.nodup_cons.1 hl).1
    refine ⟨rfl, next, ?_, hs.frame fun j hj => links_update_ne fun hij => hi (hij ▸ hj)⟩
    simp only [List.head?_cons, pointBack]
    obtain ⟨s, hs, -, hnext⟩ := slot_of_links hk
    rw [links_update_self, hs, Option.map_some, hnext]

end Pool

end StackSampler
