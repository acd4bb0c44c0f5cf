import StackSampler.Proofs.Run
import StackSampler.Proofs.Store.WellLinked

/-!
# Free slots are a stack

What the holders of slots may ask of a pool: take a free slot, give one back, and write a slot that is in
use. The free slots are threaded through the slots themselves, and to all of this they are a stack.

* `Stacked p N free`: the pool has `N` slots, and its free ones are the list `free`, the top first.
* `Stacked.call`: one call changes the list like a stack, and answers what the stack answers.
* `Stacked.handed_anew`: a slot in use is not handed out before it is given back.
* `Stacked.recorded_exchange`: what a run leaves in a slot's record is what was written there last.
-/

namespace StackSampler

/-- A call on a pool. Slots are released and written by those who hold them. -/
inductive PoolCall where
  /-- Takes a free slot into use. -/
  | pop
  | release (i : Nat)
  /-- Writes the record of a slot, and its chain links. -/
  | write (i : Nat) (backtrace : Backtrace) (count : Nat) (next prev : Option Nat)

namespace Pool

/-- Whether the slot at `i` is in use. -/
def isUsed (p : Pool) (i : Nat) : Bool := p.slots[i]?.any Slot.used

/-- What the slot at `i` counts, and how often. -/
def recorded (p : Pool) (i : Nat) : Option (Backtrace × Nat) :=
  p.slots[i]?.map fun s => (s.backtrace, s.count)

/-- One call, and the slot that it hands out. -/
def call (p : Pool) : PoolCall → Option Nat × Pool
  | .pop =>
    match p.pop with
    | some (i, p) => (some i, p)
    | none => (none, p)
  | .release i => (none, p.release i)
  | .write i backtrace count next prev =>
    (none, p.update i fun s => { s with backtrace, count, next, prev })

end Pool

namespace PoolCall

/-- Only a slot in use is released or written. -/
def Allowed (p : Pool) : PoolCall → Prop
  | .pop => True
  | .release i => p.isUsed i = true
  | .write i _ _ _ _ => p.isUsed i = true

/-- What a call does to a stack of free slots, and what it takes from its top. -/
def onStack (free : List Nat) : PoolCall → Option Nat × List Nat
  | .pop => (free.head?, free.tail)
  | .release i => (none, i :: free)
  | .write _ _ _ _ _ => (none, free)

/-- What a call leaves in the record of the slot at `j`. -/
def onRecord (j : Nat) (r : Backtrace × Nat) : PoolCall → Backtrace × Nat
  | .write i backtrace count _ _ => if i = j then (backtrace, count) else r
  | _ => r

end PoolCall

namespace Pool

variable {p q : Pool} {N D i j : Nat} {free : List Nat} {c : PoolCall} {calls : List PoolCall}

/-- **A pool of `N` slots, of which `free` are free**, as a stack with the top first. -/
structure Stacked (p : Pool) (N : Nat) (free : List Nat) : Prop where
  capacity : p.capacity = N
  path : p.Path p.freeHead free
  freeLen : p.freeLen = free.length
  used : ∀ i, p.isUsed i = true ↔ i < N ∧ i ∉ free

/-! ## What is read off the stack -/

theorem isUsed_eq_true_iff : p.isUsed i = true ↔ ∃ s, p.slots[i]? = some s ∧ s.used = true := by
  rw [isUsed, Option.any_eq_true]

theorem isUsed_update_ne {f : Slot → Slot} (h : i ≠ j) : (p.update i f).isUsed j = p.isUsed j := by
  rw [isUsed, slots_update, if_neg h, isUsed]

theorem isUsed_update_self {s : Slot} {f : Slot → Slot} (hs : p.slots[i]? = some s) :
    (p.update i f).isUsed i = (f s).used := by
  rw [isUsed, slots_update, if_pos rfl, hs]
  rfl

theorem recorded_update (p : Pool) (i : Nat) (f : Slot → Slot) (j : Nat) :
    (p.update i f).recorded j =
      if i = j then p.slots[j]?.map fun s => ((f s).backtrace, (f s).count) else p.recorded j := by
  rw [recorded, slots_update]
  by_cases hij : i = j
  · rw [if_pos hij, if_pos hij, Option.map_map]
    rfl
  · rw [if_neg hij, if_neg hij, recorded]

/-- What passes a test, by its places. -/
theorem filter_eq_range {α : Type} (keep : α → Bool) (l : List α) :
    l.filter keep = ((List.range l.length).filter fun i => l[i]?.any keep).filterMap fun i => l[i]? := by
  induction l with
  | nil => rfl
  | cons a l ih =>
    have htail : ((List.range l.length).map Nat.succ).filter (fun i => (a :: l)[i]?.any keep) =
        ((List.range l.length).filter fun i => l[i]?.any keep).map Nat.succ := by
      rw [List.filter_map]
      rfl
    rw [List.length_cons, List.range_succ_eq_map, List.filter_cons, List.filter_cons, htail, ih]
    cases hkeep : keep a with
    | true => simp [hkeep, List.filterMap_map]
    | false => simp [hkeep, List.filterMap_map]

namespace Stacked

theorem nodup (h : p.Stacked N free) : free.Nodup := h.path.nodup

theorem lt_of_mem (h : p.Stacked N free) (hi : i ∈ free) : i < N := by
  obtain ⟨x, hx⟩ := h.path.mem_links hi
  have hlt := lt_capacity_of_links hx
  have hcapacity := h.capacity
  omega

theorem freeStack_eq (h : p.Stacked N free) : p.freeStack = free :=
  h.path.walk_eq h.path.length_le

theorem usedLen_eq (h : p.Stacked N free) : p.usedLen = N - free.length := by
  have hcapacity : p.slots.size = N := h.capacity
  rw [usedLen, hcapacity, h.freeLen]

/-- Those slots are in use that are not free, in ascending order. -/
theorem used_eq (h : p.Stacked N free) :
    p.used = ((List.range N).filter fun i => i ∉ free).filterMap fun i => p.slots[i]? := by
  have hsize : p.slots.toList.length = N := h.capacity
  have hused : ∀ i ∈ List.range N, p.isUsed i = decide (i ∉ free) := by
    intro i hi
    have hlt := List.mem_range.1 hi
    rw [Bool.eq_iff_iff, h.used i, decide_eq_true_iff]
    simp only [hlt, true_and]
  rw [Pool.used, filter_eq_range, hsize]
  simp only [Array.getElem?_toList]
  congr 1
  exact List.filter_congr hused

/-! ## One call -/

theorem pop_nil (h : p.Stacked N []) : p.pop = none := by
  have hhead : p.freeHead = none := h.path
  rw [pop, hhead, Option.map_none]

/-- **The top of the stack is handed out.** -/
theorem pop_cons (h : p.Stacked N (i :: free)) :
    ∃ q, p.pop = some (i, q) ∧ q.Stacked N free ∧ ∀ j, q.recorded j = p.recorded j := by
  obtain ⟨hhead, before, next, hlinks, hpath⟩ := h.path
  obtain ⟨s, hs, -⟩ := slot_of_links hlinks
  have hnot : i ∉ free := (List.nodup_cons.1 h.nodup).1
  have hlt : i < N := h.lt_of_mem List.mem_cons_self
  set taken := p.update i fun s => { s with used := true, next := none, prev := none } with htaken
  refine ⟨{ taken with freeHead := next, freeLen := p.freeLen - 1 }, ?_, ⟨?_, ?_, ?_, ?_⟩, ?_⟩
  · rw [pop, hhead, Option.map_some, nextOf_of_links hlinks]
    rfl
  · have hsize : taken.capacity = p.capacity := size_update ..
    exact hsize.trans h.capacity
  · apply hpath.frame
    intro j hj
    have hij : i ≠ j := fun e => hnot (e ▸ hj)
    exact links_update_ne hij
  · have hlen := h.freeLen
    rw [List.length_cons] at hlen
    show p.freeLen - 1 = free.length
    omega
  · intro j
    show taken.isUsed j = true ↔ j < N ∧ j ∉ free
    by_cases hij : i = j
    · subst hij
      rw [htaken, isUsed_update_self hs]
      simp [hlt, hnot]
    · rw [htaken, isUsed_update_ne hij, h.used j]
      simp [Ne.symm hij]
  · intro j
    show taken.recorded j = p.recorded j
    rw [htaken, recorded_update]
    simp [recorded]

/-- **A slot that is given back goes on top.** -/
theorem release (h : p.Stacked N free) (hi : p.isUsed i = true) :
    (p.release i).Stacked N (i :: free) ∧ ∀ j, (p.release i).recorded j = p.recorded j := by
  obtain ⟨s, hs, -⟩ := isUsed_eq_true_iff.1 hi
  obtain ⟨hlt, hnot⟩ := (h.used i).1 hi
  set given := p.update i fun s => { s with used := false, prev := none, next := p.freeHead }
    with hgiven
  have hhere : given.links i = some (none, p.freeHead) := by
    rw [hgiven, links_update_self, hs, Option.map_some]
  have hthere : ∀ j ∈ free, given.links j = p.links j := by
    intro j hj
    have hij : i ≠ j := fun e => hnot (e ▸ hj)
    exact links_update_ne hij
  refine ⟨⟨?_, ?_, ?_, ?_⟩, ?_⟩
  · have hsize : given.capacity = p.capacity := size_update ..
    exact hsize.trans h.capacity
  · exact ⟨rfl, none, p.freeHead, hhere, h.path.frame hthere⟩
  · show p.freeLen + 1 = (i :: free).length
    rw [List.length_cons, h.freeLen]
  · intro j
    show given.isUsed j = true ↔ j < N ∧ j ∉ i :: free
    by_cases hij : i = j
    · subst hij
      rw [hgiven, isUsed_update_self hs]
      simp
    · rw [hgiven, isUsed_update_ne hij, h.used j]
      simp [Ne.symm hij]
  · intro j
    show given.recorded j = p.recorded j
    rw [hgiven, recorded_update]
    simp [recorded]

/-- A slot in use is on no thread of free slots, so its links are its holder's. -/
theorem write (h : p.Stacked N free) (hi : p.isUsed i = true) {f : Slot → Slot}
    (hf : ∀ s, (f s).used = s.used) : (p.update i f).Stacked N free := by
  obtain ⟨s, hs, hused⟩ := isUsed_eq_true_iff.1 hi
  obtain ⟨-, hnot⟩ := (h.used i).1 hi
  refine ⟨(size_update ..).trans h.capacity, ?_, h.freeLen, ?_⟩
  · apply h.path.frame
    intro j hj
    have hij : i ≠ j := fun e => hnot (e ▸ hj)
    exact links_update_ne hij
  · intro j
    by_cases hij : i = j
    · subst hij
      rw [isUsed_update_self hs, hf, hused, ← h.used i, hi]
    · rw [isUsed_update_ne hij, h.used j]

/-- **One call** does to the pool what it does to the stack. -/
theorem call (h : p.Stacked N free) (hc : c.Allowed p) :
    (p.call c).1 = (c.onStack free).1 ∧ (p.call c).2.Stacked N (c.onStack free).2 := by
  cases c with
  | pop =>
    cases free with
    | nil =>
      simp only [Pool.call, h.pop_nil]
      exact ⟨rfl, h⟩
    | cons i free =>
      obtain ⟨q, hpop, hq, -⟩ := h.pop_cons
      simp only [Pool.call, hpop]
      exact ⟨rfl, hq⟩
  | release i => exact ⟨rfl, (h.release hc).1⟩
  | write i backtrace count next prev => exact ⟨rfl, h.write hc fun _ => rfl⟩

/-- A call leaves every record alone, but for the one that it writes. -/
theorem recorded_call (h : p.Stacked N free) (hc : c.Allowed p) (j : Nat) :
    (p.call c).2.recorded j = (p.recorded j).map fun r => c.onRecord j r := by
  cases c with
  | pop =>
    cases free with
    | nil =>
      simp only [Pool.call, h.pop_nil]
      simp [PoolCall.onRecord]
    | cons i free =>
      obtain ⟨q, hpop, -, hrecorded⟩ := h.pop_cons
      simp only [Pool.call, hpop, hrecorded j]
      simp [PoolCall.onRecord]
  | release i =>
    have hrecorded := (h.release hc).2 j
    simp only [Pool.call, hrecorded]
    simp [PoolCall.onRecord]
  | write i backtrace count next prev =>
    simp only [Pool.call, recorded_update, PoolCall.onRecord]
    by_cases hij : i = j
    · simp [hij, recorded, Function.comp_def]
    · simp [hij]

end Stacked

/-! ## Runs -/

/-- A new pool has every slot free, the lowest on top. -/
theorem stacked_new (N D : Nat) : (Pool.new N D).Stacked N (List.range N) := by
  have hslot : ∀ i, (Pool.new N D).isUsed i = false := by
    intro i
    simp only [isUsed, Pool.new, Array.getElem?_ofFn]
    by_cases hi : i < N
    · simp [hi]
    · simp [hi]
  refine ⟨?_, ?_, ?_, ?_⟩
  · simp [Pool.new, Pool.capacity]
  · have hpath := Table.path_new N D N 0 (Nat.zero_add N)
    rw [← List.range_eq_range'] at hpath
    exact hpath
  · simp [Pool.new]
  · intro i
    rw [hslot i]
    simp

/-- **A run of calls** that are allowed: the pool answers what the stack answers, and stays that stack. -/
theorem Stacked.exchanged (h : p.Stacked N free)
    (hcalls : Allows PoolCall.Allowed Pool.call p calls) :
    (exchange Pool.call p calls).1 = (exchange PoolCall.onStack free calls).1 ∧
      (exchange Pool.call p calls).2.Stacked N (exchange PoolCall.onStack free calls).2 := by
  have hstep : ∀ (p : Pool) (free : List Nat) (c : PoolCall), p.Stacked N free → c.Allowed p →
      (c.onStack free).1 = id (p.call c).1 ∧ (p.call c).2.Stacked N (c.onStack free).2 := by
    intro p free c h hc
    obtain ⟨hanswer, hnext⟩ := h.call hc
    exact ⟨hanswer.symm, hnext⟩
  have hrun := exchange_simulates id hstep h hcalls
  obtain ⟨hanswers, hlast⟩ := hrun
  rw [List.map_id] at hanswers
  exact ⟨hanswers.symm, hlast⟩

/-- **A slot's record after a run** is what was written there last. -/
theorem Stacked.recorded_exchange (h : p.Stacked N free)
    (hcalls : Allows PoolCall.Allowed Pool.call p calls) (j : Nat) :
    (exchange Pool.call p calls).2.recorded j =
      (p.recorded j).map fun r => calls.foldl (fun r c => c.onRecord j r) r := by
  induction calls generalizing p free with
  | nil => simp [exchange]
  | cons c calls ih =>
    obtain ⟨hc, hrest⟩ := hcalls
    have hnext := (h.call hc).2
    have hlast := ih hnext hrest
    rw [exchange, hlast, h.recorded_call hc j, Option.map_map]
    rfl

/-- A call answers with a free slot, which is not free any more. -/
theorem Stacked.answer_mem (h : p.Stacked N free) (hi : (c.onStack free).1 = some i) :
    i ∈ free ∧ i ∉ (c.onStack free).2 := by
  cases c with
  | pop =>
    have hhead : free.head? = some i := hi
    obtain ⟨rest, rfl⟩ := List.head?_eq_some_iff.1 hhead
    have hnot := (List.nodup_cons.1 h.nodup).1
    exact ⟨List.mem_cons_self, hnot⟩
  | release j => cases hi
  | write j backtrace count next prev => cases hi

/-- Only giving a slot back makes it free. -/
theorem mem_onStack (hi : i ∈ (c.onStack free).2) : i ∈ free ∨ c = .release i := by
  cases c with
  | pop => exact .inl (List.mem_of_mem_tail hi)
  | release j =>
    rcases List.mem_cons.1 hi with rfl | hi
    · exact .inr rfl
    · exact .inl hi
  | write j backtrace count next prev => exact .inl hi

/-- A slot in use is handed out only after it was given back. -/
theorem Stacked.released_before (h : p.Stacked N free)
    (hcalls : Allows PoolCall.Allowed Pool.call p calls) (hi : i ∉ free) {b : Nat}
    (hb : (exchange Pool.call p calls).1[b]? = some (some i)) :
    ∃ k, k < b ∧ calls[k]? = some (.release i) := by
  induction calls generalizing p free b with
  | nil => simp [exchange] at hb
  | cons c calls ih =>
    obtain ⟨hc, hrest⟩ := hcalls
    obtain ⟨hanswer, hnext⟩ := h.call hc
    cases b with
    | zero =>
      simp only [exchange, List.getElem?_cons_zero, Option.some.injEq] at hb
      rw [hanswer] at hb
      have hmem := (h.answer_mem hb).1
      exact absurd hmem hi
    | succ b =>
      simp only [exchange, List.getElem?_cons_succ] at hb
      by_cases hfree : i ∈ (c.onStack free).2
      · have hreleased := (mem_onStack hfree).resolve_left hi
        exact ⟨0, Nat.succ_pos b, by rw [hreleased]; rfl⟩
      · obtain ⟨k, hk, hreleased⟩ := ih hnext hrest hfree hb
        refine ⟨k + 1, by omega, ?_⟩
        rw [List.getElem?_cons_succ]
        exact hreleased

/-- **No slot is handed out twice** without being given back in between. -/
theorem Stacked.handed_anew (h : p.Stacked N free)
    (hcalls : Allows PoolCall.Allowed Pool.call p calls) {a b : Nat} (hab : a < b)
    (ha : (exchange Pool.call p calls).1[a]? = some (some i))
    (hb : (exchange Pool.call p calls).1[b]? = some (some i)) :
    ∃ k, a < k ∧ k < b ∧ calls[k]? = some (.release i) := by
  induction calls generalizing p free a b with
  | nil => simp [exchange] at ha
  | cons c calls ih =>
    obtain ⟨hc, hrest⟩ := hcalls
    obtain ⟨hanswer, hnext⟩ := h.call hc
    obtain ⟨b, rfl⟩ : ∃ m, b = m + 1 := ⟨b - 1, by omega⟩
    simp only [exchange, List.getElem?_cons_succ] at hb
    cases a with
    | zero =>
      simp only [exchange, List.getElem?_cons_zero, Option.some.injEq] at ha
      rw [hanswer] at ha
      -- from here on the slot is in use
      have hnot := (h.answer_mem ha).2
      obtain ⟨k, hk, hreleased⟩ := hnext.released_before hrest hnot hb
      refine ⟨k + 1, by omega, by omega, ?_⟩
      rw [List.getElem?_cons_succ]
      exact hreleased
    | succ a =>
      simp only [exchange, List.getElem?_cons_succ] at ha
      obtain ⟨k, hak, hkb, hreleased⟩ := ih hnext hrest (by omega) ha hb
      refine ⟨k + 1, by omega, by omega, ?_⟩
      rw [List.getElem?_cons_succ]
      exact hreleased

end Pool

end StackSampler
