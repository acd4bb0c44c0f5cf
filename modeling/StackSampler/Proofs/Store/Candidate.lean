import StackSampler.Proofs.Store.LeastUsed
import StackSampler.Proofs.Store.LinkWords

/-!
# The candidate for eviction

A full table gives up the slot that the scan of its pool finds. Any mix of used and free slots may be
scanned, and a slot that was given back still has its old count, which may be smaller than every count in
use. So the scan is described for all pools, not only for those that a run of calls leads to.

* `firstLeast_iff`: to be the first used slot of smallest count depends on the counts in use alone.
* `leastUsed_congr`: hence pools with the same counts in use have the same candidate, whatever is left
  behind in their free slots.
* `words_leastUsed`: a scan that keeps the index of its candidate in a word finds the word of that index.
* `Pool.first_least_found`: the law of the scan.
-/

namespace StackSampler

namespace WordPool

/-- The better of the candidate so far and the slot at `i`. A candidate's index is kept in a word. -/
def lesser (best : Option (UInt32 × Nat)) (i : Nat) (s : WordSlot) : Option (UInt32 × Nat) :=
  if s.used then
    match best with
    | some (_, least) => if least ≤ s.count then best else some (.ofNat i, s.count)
    | none => some (.ofNat i, s.count)
  else best

/-- Scans slots that start at index `i`. -/
def scan : List WordSlot → Nat → Option (UInt32 × Nat) → Option (UInt32 × Nat)
  | [], _, best => best
  | s :: rest, i, best => scan rest (i + 1) (lesser best i s)

/-- The used slot with the smallest count, the first in storage order among equals. -/
def leastUsed (p : WordPool) : Option UInt32 := (scan p.slots.toList 0 none).map Prod.fst

end WordPool

namespace Pool

variable {p q : Pool} {i v n : Nat}

/-- What the slot at `i` counts, if it is in use. -/
def usedCount (p : Pool) (i : Nat) : Option Nat := (p.slots[i]?.filter Slot.used).map Slot.count

/-! ## Free slots have no say -/

theorem usedCount_eq_some_iff :
    p.usedCount i = some n ↔ ∃ s, p.slots[i]? = some s ∧ s.used = true ∧ s.count = n := by
  simp only [usedCount, Option.map_eq_some_iff, Option.filter_eq_some_iff, and_assoc]

/-- **The first used slot of smallest count**, by the counts in use. -/
theorem firstLeast_iff : FirstLeast p.slots.toList v n ↔
    p.usedCount v = some n ∧ ∀ j m, p.usedCount j = some m → n ≤ m ∧ (j < v → n < m) := by
  simp only [usedCount_eq_some_iff]
  constructor
  · intro h
    have hhere := h.here
    rw [Array.getElem?_toList] at hhere
    refine ⟨hhere, ?_⟩
    rintro j m ⟨s, hs, hused, rfl⟩
    rw [← Array.getElem?_toList] at hs
    exact ⟨h.least j s hs hused, h.first j s hs hused⟩
  · rintro ⟨hhere, hothers⟩
    refine ⟨?_, ?_, ?_⟩
    · rw [Array.getElem?_toList]
      exact hhere
    · intro j s hs hused
      rw [Array.getElem?_toList] at hs
      exact (hothers j s.count ⟨s, hs, hused, rfl⟩).1
    · intro j s hs hused hlt
      rw [Array.getElem?_toList] at hs
      exact (hothers j s.count ⟨s, hs, hused, rfl⟩).2 hlt

/-- What is written into a free slot is no count in use. -/
theorem usedCount_update_of_free {f : Slot → Slot} (hfree : p.isUsed i = false)
    (hf : ∀ s, (f s).used = s.used) (j : Nat) : (p.update i f).usedCount j = p.usedCount j := by
  rw [usedCount, usedCount, slots_update]
  by_cases hij : i = j
  · subst hij
    rw [if_pos rfl]
    cases hs : p.slots[i]? with
    | none => rfl
    | some s =>
      rw [isUsed, hs] at hfree
      have hnot : s.used = false := hfree
      rw [Option.map_some, Option.filter_some, Option.filter_some, hf, hnot]
      rfl
  · rw [if_neg hij]

/-- **Pools with the same counts in use have the same candidate.** -/
theorem leastUsed_congr (h : ∀ i, q.usedCount i = p.usedCount i) : q.leastUsed = p.leastUsed := by
  apply Option.ext
  intro v
  simp only [leastUsed_eq_some_iff, firstLeast_iff, h]

theorem forall_free_iff :
    (∀ s ∈ p.slots.toList, s.used = false) ↔ ∀ i, p.isUsed i = false := by
  constructor
  · intro hfree i
    rw [Bool.eq_false_iff]
    intro hi
    obtain ⟨s, hs, hused⟩ := isUsed_eq_true_iff.1 hi
    rw [← Array.getElem?_toList] at hs
    simp [hfree s (List.mem_of_getElem? hs)] at hused
  · intro hfree s hs
    rw [Bool.eq_false_iff]
    intro hused
    obtain ⟨i, hi⟩ := List.getElem?_of_mem hs
    rw [Array.getElem?_toList] at hi
    have hyes := isUsed_eq_true_iff.2 ⟨s, hi, hused⟩
    simp [hfree i] at hyes

/-! ## The index in a word -/

/-- **One slot**, with the candidate's index in a word. -/
theorem lesser_words (best : Option (Nat × Nat)) (i : Nat) (s : Slot) :
    WordPool.lesser (best.map (Prod.map .ofNat id)) i s.words =
      (lesser best i s).map (Prod.map .ofNat id) := by
  have hused : s.words.used = s.used := rfl
  have hcount : s.words.count = s.count := rfl
  simp only [WordPool.lesser, lesser, hused, hcount]
  cases s.used with
  | false => rfl
  | true =>
    cases best with
    | none => rfl
    | some c =>
      obtain ⟨w, least⟩ := c
      by_cases hle : least ≤ s.count
      · simp [hle]
      · simp [hle]

/-- **The scan**, with the candidate's index in a word. -/
theorem scan_words (slots : List Slot) (i : Nat) (best : Option (Nat × Nat)) :
    WordPool.scan (slots.map Slot.words) i (best.map (Prod.map .ofNat id)) =
      (scan slots i best).map (Prod.map .ofNat id) := by
  -- the place and the candidate change from slot to slot
  induction slots generalizing i best with
  | nil => rfl
  | cons s slots ih =>
    rw [List.map_cons, WordPool.scan, lesser_words, ih]
    rfl

theorem words_leastUsed (p : Pool) : p.words.leastUsed = p.leastUsed.map .ofNat := by
  have hscan := scan_words p.slots.toList 0 none
  simp only [WordPool.leastUsed, leastUsed, words, Array.toList_map]
  rw [Option.map_none] at hscan
  rw [hscan, Option.map_map, Option.map_map]
  rfl

/-- The candidate is a slot of the pool. -/
theorem leastUsed_lt (h : p.leastUsed = some v) : v < p.capacity := by
  obtain ⟨n, hleast⟩ := leastUsed_eq_some h
  obtain ⟨s, hs, -⟩ := hleast.here
  obtain ⟨hlt, -⟩ := List.getElem?_eq_some_iff.1 hs
  exact hlt

/-! ## The law -/

/-- **The scan finds the first used slot of smallest count**, and finds nothing only where nothing is in
use. What free slots hold makes no difference. For every pool whose indices leave a word of 32 bits for
"no link", the index fits its word, and the word is not that one. -/
theorem first_least_found (p : Pool) (hsize : p.capacity < WordPool.noLink.toNat) :
    (p.leastUsed = none ↔ ∀ i, p.isUsed i = false) ∧
      (∀ v, p.leastUsed = some v ↔ ∃ n, FirstLeast p.slots.toList v n) ∧
      (∀ q : Pool, (∀ i, q.usedCount i = p.usedCount i) → q.leastUsed = p.leastUsed) ∧
      p.words.leastUsed.map UInt32.toNat = p.leastUsed ∧
      p.words.leastUsed ≠ some WordPool.noLink := by
  have hnone := leastUsed_eq_none_iff.trans (forall_free_iff (p := p))
  -- only here the size matters: an index beyond the words would come back as another one
  have hword : p.words.leastUsed.map UInt32.toNat = p.leastUsed ∧
      p.words.leastUsed ≠ some WordPool.noLink := by
    rw [words_leastUsed]
    cases hfound : p.leastUsed with
    | none => simp
    | some v =>
      have hlt := leastUsed_lt hfound
      obtain ⟨htoNat, hlink⟩ := toNat_link (i := v) (by omega)
      simp [htoNat, hlink]
  refine ⟨hnone, ?_, ?_, hword⟩
  · intro v
    exact leastUsed_eq_some_iff
  · intro q hsame
    exact leastUsed_congr hsame

/-- A slot was given back with a count below all counts in use, and two slots tie. What the free slot
holds may change. -/
theorem first_least_found_behind_free :
    let calls : List PoolCall :=
      [.pop, .pop, .pop, .pop, .write 0 [⟨9⟩] 1 none none, .write 1 [⟨7⟩] 5 none none,
        .write 2 [⟨6⟩] 3 none none, .write 3 [⟨5⟩] 3 none none, .release 0]
    let p := (exchange Pool.call (Pool.new 5 1) calls).2
    let q := p.update 0 fun s => { s with backtrace := [⟨4⟩], count := 0 }
    p.capacity < WordPool.noLink.toNat ∧ p.isUsed 0 = false ∧ p.recorded 0 = some ([⟨9⟩], 1) ∧
      FirstLeast p.slots.toList 2 3 ∧ q.leastUsed = some 2 ∧
      p.words.leastUsed.map UInt32.toNat = some 2 := by
  intro calls p q
  have hsize : p.capacity < WordPool.noLink.toNat := by decide
  have hfound : p.leastUsed = some 2 := rfl
  obtain ⟨-, hsome, hsame, hword, -⟩ := first_least_found p hsize
  obtain ⟨n, hleast⟩ := (hsome 2).1 hfound
  have hcount : p.usedCount 2 = some n := (firstLeast_iff.1 hleast).1
  have hthree : p.usedCount 2 = some 3 := rfl
  obtain rfl : n = 3 := by
    rw [hthree] at hcount
    exact (Option.some.inj hcount).symm
  have hfree : p.isUsed 0 = false := rfl
  have hcounts : ∀ i, q.usedCount i = p.usedCount i := usedCount_update_of_free hfree fun _ => rfl
  exact ⟨hsize, hfree, rfl, hleast, (hsame q hcounts).trans hfound, hword.trans hfound⟩

end Pool

end StackSampler
