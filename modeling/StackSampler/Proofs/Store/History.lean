import StackSampler.Proofs.Store.Conservation
import Mathlib.Algebra.BigOperators.Group.Finset.Basic
import Mathlib.Algebra.Order.BigOperators.Group.Finset
import Mathlib.Data.List.Induction

/-!
# Counts and the history of calls

What a store counts of a backtrace against how often it was sampled. A backtrace may be inserted,
evicted and inserted again any number of times; its count is the number of samples **since the last
insertion**, and what all counts miss is the overflow (`Store.accurate_counts`).

* `Tally.Ok.countOf_sample`: what one sample does to one count; `Tally.since_inserted` is the run
  lemma, by induction on the last sample.
* `Tally.Tracks`: how a tally relates to the set of sampled backtraces; `Tally.Counts.tracks` is its
  step and `Tally.after_tracks` its run lemma.
* `Tally.Tracks.sum_missing`: summing up over the sampled backtraces.
-/

namespace StackSampler

/-- **Call `j` inserted last**, of `calls` calls, where `held i` is what is held after `i` of them:
nothing before it, and something after it and after each later call. -/
structure LastInserted (held : Nat → Option Nat) (calls j : Nat) : Prop where
  lt : j < calls
  absent : held j = none
  present : ∀ i, j < i → i ≤ calls → held i ≠ none

theorem LastInserted.grow {held held' : Nat → Option Nat} {calls j : Nat}
    (h : LastInserted held calls j) (hsame : ∀ i ≤ calls, held' i = held i)
    (hnext : held' (calls + 1) ≠ none) : LastInserted held' (calls + 1) j := by
  have hlt := h.lt
  refine ⟨by omega, (hsame j (by omega)).trans h.absent, fun i hj hi => ?_⟩
  rcases Nat.eq_or_lt_of_le hi with rfl | hi
  · exact hnext
  · rw [hsame i (by omega)]
    exact h.present i hj (by omega)

namespace Tally

variable {limit : Nat} {r r' : Tally} {keys : List Backtrace} {key k : Backtrace} {n : Nat}

/-- The tally of samples of `keys`. -/
def after (limit : Nat) (keys : List Backtrace) : Tally := (runAll (sample limit) {} keys).2

/-- The samples that are counted. -/
def accepted (keys : List Backtrace) : List Backtrace := keys.filter Backtrace.starts

theorem after_concat (keys : List Backtrace) (key : Backtrace) :
    after limit (keys ++ [key]) = ((after limit keys).sample limit key).2 := by
  rw [after, runAll_concat]
  rfl

theorem after_ok (hpos : 0 < limit) (keys : List Backtrace) : (after limit keys).Ok limit :=
  runAll_invariant (P := Ok limit) (fun _ key h => h.sample hpos key) (ok_new limit) keys

theorem starts_of_countOf (h : r.Ok limit) (hk : r.cells.countOf k = some n) : k.starts = true :=
  h.starts _ (Keyed.mem_of_countOf hk)

/-! ## Since the last insertion -/

/-- What one sample does to the count of any backtrace: it goes on from the count before, by one if
it was sampled, or it was sampled and starts at one. -/
theorem Ok.countOf_sample (h : r.Ok limit) (hpos : 0 < limit)
    (hk : (r.sample limit key).2.cells.countOf k = some n) :
    (∃ m, r.cells.countOf k = some m ∧ n = m + [key].count k) ∨
      r.cells.countOf k = none ∧ key = k ∧ n = 1 := by
  have hstarts := starts_of_countOf (h.sample hpos key) hk
  have hok' := h.sample hpos key
  unfold Tally.sample at hk hok'
  by_cases hkey : key.starts = true
  · rw [if_pos hkey] at hk hok'
    have hc := h.counts hpos key
    by_cases heq : k = key
    · subst heq
      rw [hc.countOf_self h hok'.nodup] at hk
      have hn := Option.some.inj hk
      cases hm : r.cells.countOf k with
      | none =>
        rw [hm] at hn
        exact .inr ⟨rfl, rfl, hn.symm⟩
      | some m =>
        rw [hm] at hn
        exact .inl ⟨m, rfl, by rw [List.count_singleton_self, ← hn, Option.getD_some]⟩
    · refine .inl ⟨n, hc.countOf_ne h heq hk, ?_⟩
      rw [List.count_singleton, if_neg (by simpa using Ne.symm heq), Nat.add_zero]
  · -- a backtrace that is held was not the ignored one
    rw [if_neg hkey] at hk
    have hne : key ≠ k := by
      rintro rfl
      exact hkey hstarts
    refine .inl ⟨n, hk, ?_⟩
    rw [List.count_singleton, if_neg (by simpa using hne), Nat.add_zero]

/-- **A count is the number of samples since the last insertion.** -/
theorem since_inserted (hpos : 0 < limit) (keys : List Backtrace)
    (hk : (after limit keys).cells.countOf k = some n) :
    ∃ j, LastInserted (fun i => (after limit (keys.take i)).cells.countOf k) keys.length j ∧
      n = (keys.drop j).count k := by
  induction keys using List.reverseRecOn generalizing n with
  | nil => simp [after, runAll, Keyed.countOf] at hk
  | append_singleton keys key ih =>
    -- what was held after a prefix does not depend on the last sample
    have hsame : ∀ i ≤ keys.length, (after limit ((keys ++ [key]).take i)).cells.countOf k =
        (after limit (keys.take i)).cells.countOf k := by
      intro i hi
      rw [List.take_append_of_le_length hi]
    have hnext : (after limit ((keys ++ [key]).take (keys.length + 1))).cells.countOf k ≠ none := by
      rw [List.take_of_length_le (by simp), hk]
      exact Option.some_ne_none n
    rw [after_concat] at hk
    rw [List.length_append, List.length_singleton]
    rcases (after_ok hpos keys).countOf_sample hpos hk with ⟨m, hm, rfl⟩ | ⟨hm, rfl, rfl⟩
    · -- an earlier insertion is still the last
      obtain ⟨j, hj, rfl⟩ := ih hm
      refine ⟨j, hj.grow hsame hnext, ?_⟩
      rw [List.drop_append_of_le_length (Nat.le_of_lt hj.lt), List.count_append]
    · -- this very sample inserted it
      refine ⟨keys.length, ⟨Nat.lt_succ_self _, ?_, fun i hi hi' => ?_⟩, ?_⟩
      · rw [hsame _ (Nat.le_refl _), List.take_length]
        exact hm
      · obtain rfl : i = keys.length + 1 := by omega
        exact hnext
      · rw [List.drop_left, List.count_singleton_self]

/-! ## The set of sampled backtraces -/

/-- **What the cells say of the counted samples**: they hold some of the backtraces, all as long as
there is room, and nothing was evicted exactly if there was always room. -/
structure Tracks (limit : Nat) (r : Tally) (keys : List Backtrace) : Prop where
  seen : r.cells.keys ⊆ keys
  total : r.total = keys.length
  length : r.cells.length = min limit keys.toFinset.card
  kept : r.evictions = 0 ↔ keys.toFinset.card ≤ limit

/-- One more sample brings at most one more backtrace. -/
theorem card_concat_le (keys : List Backtrace) (key : Backtrace) :
    (keys ++ [key]).toFinset.card ≤ keys.toFinset.card + 1 := by
  rw [List.toFinset_append, List.toFinset_cons, List.toFinset_nil, Finset.union_comm]
  exact Finset.card_insert_le key keys.toFinset

theorem card_concat_of_mem (hk : key ∈ keys) :
    (keys ++ [key]).toFinset.card = keys.toFinset.card := by
  have : (keys ++ [key]).toFinset = keys.toFinset := by
    ext k
    simp only [List.mem_toFinset, List.mem_append, List.mem_singleton]
    constructor
    · rintro (h | rfl)
      · exact h
      · exact hk
    · exact Or.inl
  rw [this]

/-- A sample without a cell is one backtrace more than there are cells. -/
theorem Tracks.lt_card_concat (h : r.Ok limit) (ht : Tracks limit r keys)
    (hk : key ∉ r.cells.keys) : r.cells.length < (keys ++ [key]).toFinset.card := by
  have hnd : (key :: r.cells.keys).Nodup := List.nodup_cons.2 ⟨hk, h.nodup⟩
  have hsub : (key :: r.cells.keys).toFinset ⊆ (keys ++ [key]).toFinset := by
    intro k hmem
    rw [List.mem_toFinset] at hmem ⊢
    rcases List.mem_cons.1 hmem with rfl | hmem
    · exact List.mem_append_right _ List.mem_cons_self
    · exact List.mem_append_left _ (ht.seen hmem)
  have hle := Finset.card_le_card hsub
  rw [List.toFinset_card_of_nodup hnd, List.length_cons, Keyed.keys_length] at hle
  exact hle

/-- The backtraces after writing a cell are old ones and the written one. -/
theorem keys_set_subset {cells : Keyed} (hs : cells.keys ⊆ keys) (i : Nat) :
    Keyed.keys (cells.set i (key, n)) ⊆ keys ++ [key] := by
  intro k hk
  rw [Keyed.keys_set] at hk
  rcases List.mem_or_eq_of_mem_set hk with hk | rfl
  · exact List.mem_append_left _ (hs hk)
  · exact List.mem_append_right _ List.mem_cons_self

/-- **Counting keeps track.** -/
theorem Counts.tracks (h : r.Ok limit) (ht : Tracks limit r keys) (hc : Counts limit r key r') :
    Tracks limit r' (keys ++ [key]) := by
  have htotal : r.total + 1 = (keys ++ [key]).length := by
    rw [List.length_append, ht.total]
    rfl
  have hlen := ht.length
  have hkept := ht.kept
  have hle := card_concat_le keys key
  cases hc with
  | @again i n here =>
    have hcard := card_concat_of_mem
      (ht.seen (Keyed.mem_keys_of_mem (List.mem_of_getElem? here)))
    refine ⟨keys_set_subset ht.seen i, htotal, ?_, ?_⟩
    · rw [List.length_set, hcard]
      exact hlen
    · rw [hcard]
      exact hkept
  | fresh absent room =>
    -- there was room for all backtraces so far, and there is for this one
    have hlt := ht.lt_card_concat h absent
    refine ⟨?_, htotal, ?_, ?_⟩
    · rw [Keyed.keys_concat]
      exact List.append_subset.2 ⟨List.subset_append_of_subset_left _ ht.seen,
        List.subset_append_right ..⟩
    · rw [List.length_append, List.length_singleton]
      omega
    · show r.evictions = 0 ↔ _
      omega
  | @instead v n k absent full victim =>
    have hlt := ht.lt_card_concat h absent
    refine ⟨keys_set_subset ht.seen v, htotal, ?_, ?_⟩
    · rw [List.length_set]
      omega
    · show r.evictions + 1 = 0 ↔ _
      omega

theorem after_tracks (hpos : 0 < limit) (keys : List Backtrace) :
    Tracks limit (after limit keys) (accepted keys) := by
  induction keys using List.reverseRecOn with
  | nil => exact ⟨List.nil_subset _, rfl, (Nat.min_zero _).symm, by simp [after, runAll, accepted]⟩
  | append_singleton keys key ih =>
    have hok := after_ok hpos keys
    rw [after_concat, accepted, List.filter_append, sample]
    by_cases hkey : key.starts = true
    · rw [if_pos hkey, List.filter_cons_of_pos hkey]
      exact (hok.counts hpos key).tracks hok ih
    · rw [if_neg hkey, List.filter_cons_of_neg hkey, List.filter_nil, List.append_nil]
      exact ih

/-! ## Summing up -/

theorem sum_toFinset_eq_total {l : List Backtrace} (hl : l.Nodup) (f : Backtrace → Nat) :
    ∑ k ∈ l.toFinset, f k = StackSampler.total (l.map f) := by
  induction l with
  | nil => rfl
  | cons k l ih =>
    obtain ⟨hk, hl⟩ := List.nodup_cons.1 hl
    have hk : k ∉ l.toFinset := fun hmem => hk (List.mem_toFinset.1 hmem)
    rw [List.toFinset_cons, Finset.sum_insert hk, ih hl, List.map_cons, total_cons]

/-- All occurrences together, whichever way two backtraces are compared. -/
theorem sum_count (keys : List Backtrace) : ∑ k ∈ keys.toFinset, keys.count k = keys.length := by
  rw [← List.sum_toFinset_count_eq_length keys]
  refine Finset.sum_congr rfl fun k _ => ?_
  exact List.countP_congr fun x _ => by simp

/-- All counts together, summed over the sampled backtraces. -/
theorem Tracks.sum_countOf (h : r.Ok limit) (ht : Tracks limit r keys) :
    ∑ k ∈ keys.toFinset, (r.cells.countOf k).getD 0 = r.cells.mass := by
  have hsub : r.cells.keys.toFinset ⊆ keys.toFinset := fun k hk =>
    List.mem_toFinset.2 (ht.seen (List.mem_toFinset.1 hk))
  rw [← Finset.sum_subset hsub, sum_toFinset_eq_total h.nodup, Keyed.mass, Keyed.keys, List.map_map]
  · refine congrArg StackSampler.total (List.map_congr_left fun c hc => ?_)
    rw [Function.comp_apply, (Keyed.countOf_eq_some h.nodup).2 hc]
    rfl
  · intro k _ hk
    rw [Keyed.countOf_eq_none.2 (fun hmem => hk (List.mem_toFinset.2 hmem))]
    rfl

/-- **What the counts miss is in the overflow.** -/
theorem Tracks.sum_missing (h : r.Ok limit) (ht : Tracks limit r keys)
    (hle : ∀ k, (r.cells.countOf k).getD 0 ≤ keys.count k) :
    ∑ k ∈ keys.toFinset, (keys.count k - (r.cells.countOf k).getD 0) = r.others := by
  have hmass := h.mass
  have htotal := ht.total
  rw [Finset.sum_tsub_distrib _ (fun k _ => hle k), sum_count, ht.sum_countOf h]
  omega

theorem countOf_le (hpos : 0 < limit) (keys : List Backtrace) (k : Backtrace) :
    ((after limit keys).cells.countOf k).getD 0 ≤ (accepted keys).count k := by
  cases hk : (after limit keys).cells.countOf k with
  | none => exact Nat.zero_le _
  | some n =>
    obtain ⟨j, -, rfl⟩ := since_inserted hpos keys hk
    rw [accepted, List.count_filter (starts_of_countOf (after_ok hpos keys) hk)]
    exact (List.drop_sublist j keys).count_le k

end Tally

/-! ## The store -/

namespace Store

variable {s : Store} {c : Config} {r : Tally} {k : Backtrace}

/-- The store behind a run that recorded `frames`. -/
def after (c : Config) (frames : List Backtrace) : Store :=
  (runAll Store.record (Store.new c) frames).2

/-- The backtraces that a run captures, call by call. -/
def captured (c : Config) (frames : List Backtrace) : List Backtrace :=
  frames.map (Backtrace.fit c.depth)

/-- Those of them that it counts. -/
def accepted (c : Config) (frames : List Backtrace) : List Backtrace :=
  Tally.accepted (captured c frames)

theorem matches_after (hpos : 0 < c.slots) (frames : List Backtrace) :
    (after c frames).Matches c (Tally.after c.slots (captured c frames)) :=
  (Matches.records hpos frames).2

theorem Matches.countOf_eq (h : s.Matches c r) (hk : k.length = c.depth) :
    s.countOf k = r.cells.countOf k := by
  unfold Store.countOf Store.depth
  rw [if_pos (hk.trans h.depth.symm)]
  cases hn : r.cells.countOf k with
  | none =>
    rw [h.shows.find_of_notMem (Keyed.countOf_eq_none.1 hn)]
    rfl
  | some n =>
    obtain ⟨i, hi⟩ := List.getElem?_of_mem (Keyed.mem_of_countOf hn)
    rw [h.shows.find_of_cell hi, Option.map_some, h.shows.countAt_of_cell hi]

/-- What a store holds of a backtrace is what the tally of its samples holds. -/
theorem countOf_after (hpos : 0 < c.slots) (frames : List Backtrace) (k : Backtrace) :
    (after c frames).countOf k = (Tally.after c.slots (captured c frames)).cells.countOf k := by
  have hmatch := matches_after hpos frames
  by_cases hk : k.length = c.depth
  · exact hmatch.countOf_eq hk
  · -- a backtrace of another depth is neither looked up nor ever captured
    have hnone : (after c frames).countOf k = none := by
      unfold Store.countOf
      exact if_neg fun heq => hk (heq.trans hmatch.depth)
    rw [hnone, eq_comm, Keyed.countOf_eq_none]
    intro hmem
    have hseen := (Tally.after_tracks hpos (captured c frames)).seen hmem
    obtain ⟨f, -, rfl⟩ := List.mem_map.1 (List.mem_of_mem_filter hseen)
    exact hk (Backtrace.length_fit c.depth f)

/-- **How accurate the counts are**, after recording `frames`. -/
structure Accurate (c : Config) (frames : List Backtrace) : Prop where
  /-- No backtrace counts more than it was sampled. -/
  le : ∀ k, ((after c frames).countOf k).getD 0 ≤ (accepted c frames).count k
  /-- A count is the number of samples since the last insertion. -/
  since : ∀ k n, (after c frames).countOf k = some n →
    ∃ j, LastInserted (fun i => (after c (frames.take i)).countOf k) frames.length j ∧
      n = (accepted c (frames.drop j)).count k
  /-- What the counts miss, over all sampled backtraces and any others, is the overflow. -/
  missing : ∀ keys : Finset Backtrace, (accepted c frames).toFinset ⊆ keys →
    ∑ k ∈ keys, ((accepted c frames).count k - ((after c frames).countOf k).getD 0) =
      (after c frames).others
  slots : (after c frames).usedSlots = min c.slots (accepted c frames).toFinset.card
  others_iff : (after c frames).others = 0 ↔ (after c frames).evictions = 0
  evictions_iff : (after c frames).evictions = 0 ↔ (accepted c frames).toFinset.card ≤ c.slots
  /-- With a slot for each backtrace the counts are exact. -/
  exact : (accepted c frames).toFinset.card ≤ c.slots →
    ∀ k, ((after c frames).countOf k).getD 0 = (accepted c frames).count k

theorem count_le_accepted (hpos : 0 < c.slots) (frames : List Backtrace) (k : Backtrace) :
    ((after c frames).countOf k).getD 0 ≤ (accepted c frames).count k := by
  rw [countOf_after hpos]
  exact Tally.countOf_le hpos _ k

theorem count_since (hpos : 0 < c.slots) (frames : List Backtrace) {n : Nat}
    (hk : (after c frames).countOf k = some n) :
    ∃ j, LastInserted (fun i => (after c (frames.take i)).countOf k) frames.length j ∧
      n = (accepted c (frames.drop j)).count k := by
  rw [countOf_after hpos] at hk
  have hstarts := Tally.starts_of_countOf (Tally.after_ok hpos _) hk
  obtain ⟨j, hj, rfl⟩ := Tally.since_inserted hpos (captured c frames) hk
  refine ⟨j, ?_, ?_⟩
  · simp only [countOf_after hpos]
    unfold captured at hj ⊢
    rw [List.length_map] at hj
    simp only [List.map_take]
    exact hj
  · rw [accepted, Tally.accepted, List.count_filter hstarts, captured, captured, List.map_drop]

theorem sum_missing_after (hpos : 0 < c.slots) (frames : List Backtrace) {keys : Finset Backtrace}
    (hkeys : (accepted c frames).toFinset ⊆ keys) :
    ∑ k ∈ keys, ((accepted c frames).count k - ((after c frames).countOf k).getD 0) =
      (after c frames).others := by
  have hmissing := (Tally.after_tracks hpos (captured c frames)).sum_missing
    (Tally.after_ok hpos (captured c frames)) (Tally.countOf_le hpos (captured c frames))
  rw [(matches_after hpos frames).others, ← hmissing, ← Finset.sum_subset hkeys]
  · simp only [countOf_after hpos]
    rfl
  · -- what was never sampled misses nothing
    intro k _ hk
    rw [List.mem_toFinset] at hk
    rw [List.count_eq_zero_of_not_mem hk, Nat.zero_sub]

/-- **Counts are accurate up to what evictions lost**, for every run that records stacks. -/
theorem accurate_counts (c : Config) (hpos : 0 < c.slots) (frames : List Backtrace) :
    Accurate c frames := by
  have hmatch := matches_after hpos frames
  have hok := Tally.after_ok hpos (captured c frames)
  have ht := Tally.after_tracks hpos (captured c frames)
  have hothers : (after c frames).others = 0 ↔ (after c frames).evictions = 0 := by
    rw [hmatch.others, hmatch.evictions]
    have := hok.spilled
    exact ⟨fun h => by omega, hok.kept⟩
  have hevictions : (after c frames).evictions = 0 ↔
      (accepted c frames).toFinset.card ≤ c.slots := by
    rw [hmatch.evictions]
    exact ht.kept
  refine ⟨count_le_accepted hpos frames, fun k n => count_since hpos frames,
    fun keys => sum_missing_after hpos frames, ?_, hothers, hevictions, fun hroom k => ?_⟩
  · rw [hmatch.usedSlots_eq]
    exact ht.length
  · -- nothing is missing in total, so nothing is missing anywhere
    have hle := count_le_accepted hpos frames k
    have hsum := sum_missing_after hpos frames (Finset.subset_insert k (accepted c frames).toFinset)
    rw [hothers.2 (hevictions.2 hroom), Finset.sum_eq_zero_iff] at hsum
    have := hsum k (Finset.mem_insert_self ..)
    omega

/-- One slot: the first stack is counted twice, evicted, and counted twice more. -/
theorem accurate_after_reinsertion :
    let c : Config := { depth := 1, slots := 1 }
    let frames : List Backtrace := [[⟨1⟩], [⟨1⟩], [⟨2⟩, ⟨1⟩], [⟨1⟩], [], [⟨1⟩, ⟨2⟩]]
    0 < c.slots ∧ (after c frames).countOf [⟨1⟩] = some 2 ∧ (accepted c frames).count [⟨1⟩] = 4 ∧
      (after c frames).others = 3 ∧ Accurate c frames := by
  refine ⟨by decide, ?_, ?_, ?_, accurate_counts _ (by decide) _⟩
  all_goals decide +kernel

end Store

end StackSampler
