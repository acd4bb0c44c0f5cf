import StackSampler.Report.Distribution
import StackSampler.Proofs.Report.Collapsed
import Mathlib.Data.List.Perm.Subperm

/-!
# Statistics of collapsed stacks

The hot stacks and the heaviest tenth are taken from the front of the list, unsorted, so they mean what
they say only because a collapsed snapshot is sorted. The total, the mean and the median do not depend on
the order.

* `total_le_take`: the front of a descending list has the largest total.
* `countP_le_getElem`, `le_countP_getElem`: how much of an ascending list is on either side of a place.
* `Hottest` and `Describes`: what hot stacks and a distribution say about any stacks.
* `Snapshot.statistics`: they say it about every collapsed snapshot.
-/

namespace StackSampler

variable {ms ns : List Nat} {i k : Nat}

/-! ## The largest totals -/

theorem total_le_of_sublist (h : ms.Sublist ns) : total ms ≤ total ns := by
  induction h with
  | slnil => exact Nat.le_refl _
  | cons n h ih =>
    rw [total_cons]
    omega
  | cons_cons n h ih =>
    rw [total_cons, total_cons]
    omega

/-- **The front of a descending list has the largest total** of all parts of its length. -/
theorem total_le_take (hns : ns.Pairwise (· ≥ ·)) (h : ms.Sublist ns) :
    total ms ≤ total (ns.take ms.length) := by
  induction ns generalizing ms with
  | nil =>
    obtain rfl := List.sublist_nil.1 h
    exact Nat.le_refl _
  | cons n ns ih =>
    cases ms with
    | nil => exact Nat.zero_le _
    | cons m ms =>
      obtain ⟨hle, hns⟩ := List.pairwise_cons.1 hns
      have hsub : ms.Sublist ns := h.tail
      have hrest := ih hns hsub
      have hm : m ≤ n := by
        have hmem := h.subset List.mem_cons_self
        rcases List.mem_cons.1 hmem with rfl | hmem
        · exact Nat.le_refl _
        · exact hle m hmem
      rw [List.length_cons, List.take_succ_cons, total_cons, total_cons]
      omega

/-- Nothing longer than the front has a larger share of the total than it has of the length. -/
theorem total_take_mul_le (hns : ns.Pairwise (· ≥ ·)) (k parts : Nat) :
    total (ns.take (parts * k)) ≤ parts * total (ns.take k) := by
  induction parts with
  | zero => simp
  | succ parts ih =>
    -- the next `k` numbers are a part of the list that is not longer than its front
    have hpart : total ((ns.drop (parts * k)).take k) ≤ total (ns.take k) := by
      have hsub : ((ns.drop (parts * k)).take k).Sublist ns :=
        (List.take_sublist _ _).trans (List.drop_sublist _ _)
      have hlength : ((ns.drop (parts * k)).take k).length ≤ k := List.length_take_le _ _
      have hfront : (ns.take ((ns.drop (parts * k)).take k).length).Sublist (ns.take k) :=
        (List.take_prefix_take_left hlength).sublist
      exact Nat.le_trans (total_le_take hns hsub) (total_le_of_sublist hfront)
    rw [Nat.succ_mul, Nat.succ_mul, List.take_add, total_append]
    omega

/-! ## The middle -/

/-- In an ascending list no number up to a place is larger than the one there. -/
theorem countP_le_getElem (hns : ns.Pairwise (· ≤ ·)) (hi : i < ns.length) :
    i + 1 ≤ ns.countP (· ≤ ns[i]) := by
  have hfront : ∀ n ∈ ns.take (i + 1), decide (n ≤ ns[i]) = true := by
    intro n hn
    obtain ⟨j, hj, rfl⟩ := List.mem_take_iff_getElem.1 hn
    rw [decide_eq_true_iff]
    rcases Nat.lt_or_ge j i with hlt | hge
    · exact List.pairwise_iff_getElem.1 hns j i (by omega) hi hlt
    · obtain rfl : j = i := by omega
      exact Nat.le_refl _
  have hcount := List.countP_eq_length.2 hfront
  rw [List.length_take] at hcount
  have hle := (List.take_sublist (i + 1) ns).countP_le (p := fun n => decide (n ≤ ns[i]))
  omega

/-- In an ascending list no number from a place on is less than the one there. -/
theorem le_countP_getElem (hns : ns.Pairwise (· ≤ ·)) (hi : i < ns.length) :
    ns.length - i ≤ ns.countP (ns[i] ≤ ·) := by
  have hback : ∀ n ∈ ns.drop i, decide (ns[i] ≤ n) = true := by
    intro n hn
    obtain ⟨j, hj, rfl⟩ := List.mem_drop_iff_getElem.1 hn
    rw [decide_eq_true_iff]
    rcases Nat.eq_zero_or_pos j with rfl | hpos
    · exact Nat.le_refl _
    · exact List.pairwise_iff_getElem.1 hns i (i + j) hi (by omega) (by omega)
  have hcount := List.countP_eq_length.2 hback
  rw [List.length_drop] at hcount
  have hle := (List.drop_sublist i ns).countP_le (p := fun n => decide (ns[i] ≤ n))
  omega

/-! ## The median -/

namespace Distribution

variable {weights : List Nat}

theorem sorted_pairwise (weights : List Nat) : (weights.mergeSort (· ≤ ·)).Pairwise (· ≤ ·) := by
  have hsorted : (weights.mergeSort (· ≤ ·)).Pairwise fun a b => decide (a ≤ b) = true := by
    apply List.pairwise_mergeSort
    · intro a b c hab hbc
      rw [decide_eq_true_iff] at hab hbc ⊢
      exact Nat.le_trans hab hbc
    · intro a b
      rw [Bool.or_eq_true, decide_eq_true_iff, decide_eq_true_iff]
      exact Nat.le_total a b
  exact hsorted.imp of_decide_eq_true

/-- The median is the weight at the middle place of the sorted weights. -/
theorem medianOf_eq (hne : weights ≠ []) :
    ∃ hmid : weights.length / 2 < (weights.mergeSort (· ≤ ·)).length,
      medianOf weights = (weights.mergeSort (· ≤ ·))[weights.length / 2] := by
  have hpos := List.length_pos_iff.2 hne
  have hlength : (weights.mergeSort (· ≤ ·)).length = weights.length := List.length_mergeSort _
  have hmid : weights.length / 2 < (weights.mergeSort (· ≤ ·)).length := by omega
  refine ⟨hmid, ?_⟩
  rw [medianOf, List.getD_eq_getElem?_getD, List.getElem?_eq_getElem hmid, Option.getD_some]

theorem medianOf_mem (hne : weights ≠ []) : medianOf weights ∈ weights := by
  obtain ⟨hmid, heq⟩ := medianOf_eq hne
  rw [heq]
  exact (List.mergeSort_perm weights _).mem_iff.1 (List.getElem_mem hmid)

/-- At least half of the weights are at most the median. -/
theorem half_le_medianOf (hne : weights ≠ []) :
    weights.length ≤ 2 * weights.countP (· ≤ medianOf weights) := by
  obtain ⟨hmid, heq⟩ := medianOf_eq hne
  have hcount := countP_le_getElem (sorted_pairwise weights) hmid
  rw [← heq, (List.mergeSort_perm weights _).countP_eq] at hcount
  omega

/-- At least half of the weights are at least the median. -/
theorem half_ge_medianOf (hne : weights ≠ []) :
    weights.length ≤ 2 * weights.countP (medianOf weights ≤ ·) := by
  obtain ⟨hmid, heq⟩ := medianOf_eq hne
  have hcount := le_countP_getElem (sorted_pairwise weights) hmid
  have hlength : (weights.mergeSort (· ≤ ·)).length = weights.length := List.length_mergeSort _
  rw [← heq, (List.mergeSort_perm weights _).countP_eq, hlength] at hcount
  omega

/-- The order of the weights does not show in their median. -/
theorem medianOf_perm {ms ns : List Nat} (h : ms.Perm ns) : medianOf ms = medianOf ns := by
  have hsorted : ms.mergeSort (· ≤ ·) = ns.mergeSort (· ≤ ·) := by
    have hperm : (ms.mergeSort (· ≤ ·)).Perm (ns.mergeSort (· ≤ ·)) :=
      ((List.mergeSort_perm ms _).trans h).trans (List.mergeSort_perm ns _).symm
    exact hperm.eq_of_pairwise (fun _ _ _ _ => Nat.le_antisymm) (sorted_pairwise ms)
      (sorted_pairwise ns)
  rw [medianOf, medianOf, hsorted, h.length_eq]

end Distribution

/-! ## Sums in words -/

/-- A sum in words of 64 bits, which wraps around. -/
def wordTotal (ns : List Nat) : UInt64 := ns.foldl (fun sum n => sum + .ofNat n) 0

theorem foldl_wordTotal (sum : UInt64) (ns : List Nat) :
    ns.foldl (fun sum n => sum + .ofNat n) sum = sum + .ofNat (total ns) := by
  induction ns generalizing sum with
  | nil => simp
  | cons n ns ih => rw [List.foldl_cons, ih, total_cons, UInt64.ofNat_add, UInt64.add_assoc]

/-- **A total that fits into a word** is what the words sum up to. -/
theorem toNat_wordTotal (hfit : total ns < UInt64.size) : (wordTotal ns).toNat = total ns := by
  rw [wordTotal, foldl_wordTotal, UInt64.zero_add]
  exact UInt64.toNat_ofNat_of_lt' hfit

/-! ## What hot stacks and distributions say -/

/-- **`hot` are the `n` hottest of the stacks**, or all of them if there are fewer. -/
structure Hottest (cs : List Collapsed) (n : Nat) (hot : List HotStack) : Prop where
  length : hot.length = min n cs.length
  descending : hot.Pairwise fun a b => b.samples ≤ a.samples
  /-- They are stacks, and none of those that are left weighs more than one of them. -/
  hottest : ∃ listed left : List Collapsed, (listed ++ left).Perm cs ∧
    hot.map (fun h => (h.stack, h.samples)) = listed.map (fun c => (c.stack, c.weight)) ∧
    ∀ h ∈ hot, ∀ c ∈ left, c.weight ≤ h.samples

/-- **What a distribution says** of the stacks, whatever their order. -/
structure Distribution.Describes (d : Distribution) (cs : List Collapsed) : Prop where
  total : d.total = StackSampler.total (cs.map Collapsed.weight)
  size : d.size = cs.length
  /-- The mean is rounded down. -/
  mean_le : d.mean * cs.length ≤ d.total
  lt_mean : d.total < (d.mean + 1) * cs.length
  median_mem : d.median ∈ cs.map Collapsed.weight
  below_median : cs.length ≤ 2 * cs.countP fun c => c.weight ≤ d.median
  above_median : cs.length ≤ 2 * cs.countP fun c => d.median ≤ c.weight
  /-- Of a tenth of the stacks, rounded up, none has more samples than the top tenth. -/
  top : ∃ k, cs.length ≤ 10 * k ∧ 10 * k < cs.length + 10 ∧
    (∃ part : List Collapsed, part.Subperm cs ∧ part.length = k ∧
      d.topTenth = StackSampler.total (part.map Collapsed.weight)) ∧
    ∀ part : List Collapsed, part.Subperm cs → part.length = k →
      StackSampler.total (part.map Collapsed.weight) ≤ d.topTenth
  total_le_top : d.total ≤ 10 * d.topTenth

section

variable {cs : List Collapsed}

/-- Stacks with the heaviest first. -/
abbrev Descending (cs : List Collapsed) : Prop :=
  cs.Pairwise fun a b => b.weight ≤ a.weight

theorem Descending.weights (h : Descending cs) : (cs.map Collapsed.weight).Pairwise (· ≥ ·) := by
  rw [List.pairwise_map]
  exact h

/-- **The front of descending stacks is hottest.** -/
theorem hottest_hotStacks (h : Descending cs) (total n : Nat) :
    Hottest cs n (hotStacks cs total n) := by
  refine ⟨?_, ?_, cs.take n, cs.drop n, ?_, ?_, ?_⟩
  · rw [hotStacks, List.length_map, List.length_take]
  · rw [hotStacks, List.pairwise_map]
    exact h.take
  · rw [List.take_append_drop]
  · rw [hotStacks, List.map_map]
    rfl
  · intro hot hhot c hc
    obtain ⟨b, hb, rfl⟩ := List.mem_map.1 hhot
    rw [← List.take_append_drop n cs] at h
    exact (List.pairwise_append.1 h).2.2 b hb c hc

/-- No part of descending stacks weighs more than a front of its length. -/
theorem total_le_front (h : Descending cs) {part : List Collapsed} (hpart : part.Subperm cs) :
    total (part.map Collapsed.weight) ≤ total ((cs.take part.length).map Collapsed.weight) := by
  obtain ⟨ordered, hperm, hsub⟩ := hpart
  have hle := total_le_take h.weights (hsub.map Collapsed.weight)
  rw [List.length_map, hperm.length_eq, ← List.map_take] at hle
  rwa [← total_perm (hperm.map Collapsed.weight)]

/-- **The distribution of descending stacks.** -/
theorem describes_ofStacks (h : Descending cs) (hne : cs ≠ []) :
    (Distribution.ofStacks cs).Describes cs := by
  have hpos := List.length_pos_iff.2 hne
  have hweights : cs.map Collapsed.weight ≠ [] := by simpa using hne
  have hround : cs.length ≤ 10 * Distribution.tenth cs.length ∧
      10 * Distribution.tenth cs.length < cs.length + 10 := by
    rw [Distribution.tenth]
    omega
  have hlength : (cs.take (Distribution.tenth cs.length)).length = Distribution.tenth cs.length := by
    rw [List.length_take, Distribution.tenth]
    omega
  rw [Distribution.ofStacks, if_neg (by simpa using hne)]
  refine
    { total := rfl, size := rfl, mean_le := Nat.div_mul_le_self _ _, lt_mean := ?_
      median_mem := Distribution.medianOf_mem hweights, below_median := ?_, above_median := ?_
      top := ⟨_, hround.1, hround.2, ⟨_, (List.take_sublist _ _).subperm, hlength, rfl⟩, ?_⟩
      total_le_top := ?_ }
  · exact Nat.lt_mul_of_div_lt (Nat.lt_succ_self _) hpos
  · have hhalf := Distribution.half_le_medianOf hweights
    rw [List.countP_map, List.length_map] at hhalf
    exact hhalf
  · have hhalf := Distribution.half_ge_medianOf hweights
    rw [List.countP_map, List.length_map] at hhalf
    exact hhalf
  · intro part hpart hk
    have hle := total_le_front h hpart
    rw [hk] at hle
    exact hle
  · have hle := total_take_mul_le h.weights (Distribution.tenth cs.length) 10
    rw [List.take_of_length_le (by rw [List.length_map]; exact hround.1), ← List.map_take] at hle
    exact hle

/-- The order of the stacks shows in the top tenth only. -/
theorem Distribution.ofStacks_perm {ts : List Collapsed} (h : ts.Perm cs) :
    (ofStacks ts).total = (ofStacks cs).total ∧ (ofStacks ts).size = (ofStacks cs).size ∧
      (ofStacks ts).mean = (ofStacks cs).mean ∧ (ofStacks ts).median = (ofStacks cs).median := by
  have htotal : totalWeight ts = totalWeight cs := total_perm (h.map Collapsed.weight)
  have hmedian := medianOf_perm (h.map Collapsed.weight)
  have hlength := h.length_eq
  by_cases hne : cs = []
  · subst hne
    obtain rfl := h.eq_nil
    exact ⟨rfl, rfl, rfl, rfl⟩
  · have hne' : ts ≠ [] := fun e => hne (e ▸ h).nil_eq.symm
    simp only [ofStacks, List.isEmpty_iff, hne, hne', if_false]
    exact ⟨htotal, hlength, by rw [htotal, hlength], hmedian⟩

end

/-! ## The law -/

namespace Snapshot

theorem collapse_descending (s : Snapshot String) : Descending s.collapse := by
  refine s.collapse_pairwise.imp ?_
  intro a b hab
  rcases Collapsed.precedes_iff.1 hab with hlt | ⟨heq, -⟩
  · exact Nat.le_of_lt hlt
  · exact Nat.le_of_eq heq.symm

/-- **The statistics of a collapsed snapshot** with samples: the hot stacks are the heaviest, and the
distribution describes the stacks. Its sums are those of words of 64 bits if all samples fit into one,
and of a list in another order only the top tenth may differ. -/
theorem statistics (s : Snapshot String) (hne : s.collapse ≠ [])
    (hfit : total (s.collapse.map Collapsed.weight) < UInt64.size) :
    let cs := s.collapse
    let d := Distribution.ofStacks cs
    (∀ all n, Hottest cs n (hotStacks cs all n)) ∧ d.Describes cs ∧
      (wordTotal (cs.map Collapsed.weight)).toNat = d.total ∧
      (wordTotal
        ((cs.take (Distribution.tenth cs.length)).map Collapsed.weight)).toNat = d.topTenth ∧
      ∀ ts : List Collapsed, ts.Perm cs →
        (Distribution.ofStacks ts).total = d.total ∧ (Distribution.ofStacks ts).size = d.size ∧
          (Distribution.ofStacks ts).mean = d.mean ∧ (Distribution.ofStacks ts).median = d.median := by
  intro cs d
  have hd : d.total = total (cs.map Collapsed.weight) ∧
      d.topTenth =
        total ((cs.take (Distribution.tenth cs.length)).map Collapsed.weight) := by
    have heq : d = Distribution.ofStacks cs := rfl
    rw [heq, Distribution.ofStacks, if_neg (by simpa using hne)]
    exact ⟨rfl, rfl⟩
  have hfront := total_le_of_sublist
    ((List.take_sublist (Distribution.tenth cs.length) cs).map Collapsed.weight)
  refine ⟨?_, describes_ofStacks s.collapse_descending hne, ?_, ?_, ?_⟩
  · intro all n
    exact hottest_hotStacks s.collapse_descending all n
  · rw [toNat_wordTotal hfit, hd.1]
  · rw [toNat_wordTotal (Nat.lt_of_le_of_lt hfront hfit), hd.2]
  · intro ts hperm
    exact Distribution.ofStacks_perm hperm

/-- Twelve stacks: the top tenth is two of them, and three share the weight in the middle. -/
theorem statistics_twelve :
    let e (name : String) (n : Nat) : Entry String := ⟨[.function name], n⟩
    let s : Snapshot String :=
      { version := schemaVersion, mode := .sampling, startTime := none, stopTime := .epoch
        interval := none, samples := 50
        entries := [e "a" 1, e "b" 3, .overflow 9, e "c" 1, e "d" 3, e "e" 2, e "f" 20, e "g" 1,
          e "h" 3, e "i" 4, e "j" 1, e "idle" 0, e "k" 2] }
    let d := Distribution.ofStacks s.collapse
    s.collapse ≠ [] ∧ total (s.collapse.map Collapsed.weight) = 50 ∧ d.Describes s.collapse ∧
      (d.total, d.size, d.mean, d.topTenth) = (50, 12, 4, 29) ∧
      Hottest s.collapse 3 (hotStacks s.collapse 50 3) ∧
      (hotStacks s.collapse 50 3).map (·.stack) = ["f", "[others]", "i"] := by
  intro e s d
  have hcollapse : s.collapse =
      [⟨"f", 20⟩, ⟨"[others]", 9⟩, ⟨"i", 4⟩, ⟨"b", 3⟩, ⟨"d", 3⟩, ⟨"h", 3⟩, ⟨"e", 2⟩, ⟨"k", 2⟩,
        ⟨"a", 1⟩, ⟨"c", 1⟩, ⟨"g", 1⟩, ⟨"j", 1⟩] := by
    -- sorted lists with the same stacks are equal
    refine (s.collapse_perm.trans ?_).eq_of_pairwise (fun _ _ _ _ => Collapsed.precedes_antisymm)
      s.collapse_pairwise ?_
    · decide +kernel
    · decide +kernel
  have hne : s.collapse ≠ [] := by
    rw [hcollapse]
    exact List.cons_ne_nil _ _
  have htotal : total (s.collapse.map Collapsed.weight) = 50 := by
    rw [hcollapse]
    rfl
  obtain ⟨hhot, hdescribes, -⟩ := s.statistics hne (by rw [htotal]; decide)
  have hd : d = Distribution.ofStacks s.collapse := rfl
  refine ⟨hne, htotal, hdescribes, ?_, hhot 50 3, ?_⟩
  · rw [hd, hcollapse]
    rfl
  · rw [hcollapse]
    rfl

end Snapshot

end StackSampler
