import StackSampler.Proofs.Store.History
import Mathlib.Data.List.MinMax

/-!
# Hot stacks stay

What an eviction takes is never more than the average slot counts: the victim counts least, and the slots
together count what is not in the overflow. So a stack with more than its share of all samples keeps its
slot, and with two slots or more the largest count never falls.

* `Tally.Counts.retains`: one counted sample, read off the list of cells.
* `Store.hot_stacks_stay`: one call to a store after any calls.
-/

namespace StackSampler

namespace Tally

variable {limit : Nat} {r r' : Tally} {key : Backtrace}

/-- **What becomes of the cells** of a tally with `limit` of them, from `r` to `r'`. -/
structure Retains (limit : Nat) (r r' : Tally) : Prop where
  /-- An eviction takes a cell. -/
  evicted : r'.evictions ≠ r.evictions → ∃ c ∈ r.cells, c.1 ∉ r'.cells.keys
  /-- The cell that it takes counts no more than the average one. -/
  cheap : ∀ c ∈ r.cells, c.1 ∉ r'.cells.keys → r'.others = r.others + c.2 ∧
    r'.evictions = r.evictions + 1 ∧ limit * c.2 + r.others ≤ r.total
  /-- Any other goes on. -/
  kept : ∀ c ∈ r.cells, c.1 ∈ r'.cells.keys → ∃ d ∈ r'.cells, d.1 = c.1 ∧ c.2 ≤ d.2
  /-- With a second cell there is always one that counts as much. -/
  matched : 2 ≤ limit → ∀ c ∈ r.cells, ∃ d ∈ r'.cells, c.2 ≤ d.2

/-- Where every cell goes on, nothing is evicted. -/
theorem Retains.of_kept (hsame : r'.evictions = r.evictions)
    (hkept : ∀ c ∈ r.cells, ∃ d ∈ r'.cells, d.1 = c.1 ∧ c.2 ≤ d.2) : Retains limit r r' where
  evicted hne := absurd hsame hne
  cheap c hc hlost := by
    obtain ⟨⟨k, n⟩, hd, rfl, -⟩ := hkept c hc
    exact absurd (Keyed.mem_keys_of_mem hd) hlost
  kept c hc _ := hkept c hc
  matched _ c hc := by
    obtain ⟨d, hd, -, hle⟩ := hkept c hc
    exact ⟨d, hd, hle⟩

/-- **The victim is cheap**: all cells together count at least as often as there are cells what it
counts. -/
theorem Ok.victim_le (h : r.Ok limit) (hfull : r.cells.length = limit) {v n : Nat} {k : Backtrace}
    (victim : r.cells.Victim v k n) : limit * n + r.others ≤ r.total := by
  have hmass := h.mass
  have hleast : ∀ m ∈ r.cells.map Prod.snd, n ≤ m := List.forall_mem_map.2 victim.least
  have hall := length_mul_le_total hleast
  rw [List.length_map, hfull] at hall
  unfold Keyed.mass at hmass
  omega

/-- **One counted sample.** -/
theorem Counts.retains (h : r.Ok limit) (hc : Counts limit r key r') : Retains limit r r' := by
  cases hc with
  | @again i n here =>
    refine .of_kept rfl fun c hc => ?_
    by_cases hi : r.cells[i]? = some c
    · obtain rfl := Option.some.inj (here.symm.trans hi)
      exact ⟨_, List.mem_set (List.getElem?_eq_some_iff.1 here).1 _, rfl, Nat.le_succ n⟩
    · exact ⟨c, Keyed.mem_set_of_mem hc hi, rfl, Nat.le_refl _⟩
  | fresh absent room =>
    exact .of_kept rfl fun c hc => ⟨c, List.mem_append_left _ hc, rfl, Nat.le_refl _⟩
  | @instead v n k absent full victim =>
    have hnew : key ≠ k := by
      rintro rfl
      exact absent (Keyed.mem_keys_of_mem (List.mem_of_getElem? victim.here))
    have hlost := Keyed.notMem_keys_set (m := 1) h.nodup victim.here hnew
    -- every cell is the victim or stays
    have hcases (c : Backtrace × Nat) (hc : c ∈ r.cells) :
        c = (k, n) ∨ c ∈ r.cells.set v (key, 1) := by
      by_cases hv : r.cells[v]? = some c
      · exact .inl (Option.some.inj (hv.symm.trans victim.here))
      · exact .inr (Keyed.mem_set_of_mem hc hv)
    refine ⟨fun _ => ⟨_, List.mem_of_getElem? victim.here, hlost⟩, fun c hc hgone => ?_,
      fun c hc hkept => ?_, fun htwo c hc => ?_⟩
    · rcases hcases c hc with rfl | hstays
      · exact ⟨rfl, rfl, h.victim_le full victim⟩
      · exact absurd (List.mem_map_of_mem hstays) hgone
    · rcases hcases c hc with rfl | hstays
      · exact absurd hkept hlost
      · exact ⟨c, hstays, rfl, Nat.le_refl _⟩
    · rcases hcases c hc with rfl | hstays
      · -- any second cell counts as much as the victim
        obtain ⟨j, hj, hne⟩ : ∃ j, j < r.cells.length ∧ v ≠ j := by
          by_cases h0 : v = 0
          · exact ⟨1, by omega, by omega⟩
          · exact ⟨0, by omega, h0⟩
        have hother := List.getElem?_eq_getElem hj
        exact ⟨_, List.mem_of_getElem? ((List.getElem?_set_ne hne).trans hother),
          victim.least _ (List.mem_of_getElem? hother)⟩
      · exact ⟨c, hstays, Nat.le_refl _⟩

theorem Ok.retains (h : r.Ok limit) (hpos : 0 < limit) (key : Backtrace) :
    Retains limit r (r.sample limit key).2 := by
  unfold Tally.sample
  split
  · exact (h.counts hpos key).retains h
  · exact .of_kept rfl fun c hc => ⟨c, hc, rfl, Nat.le_refl _⟩

/-- A sample that is counted has a cell. -/
theorem Ok.countOf_sampled (h : r.Ok limit) (hpos : 0 < limit)
    (hanswer : (r.sample limit key).1 = true) :
    ∃ n, 1 ≤ n ∧ (r.sample limit key).2.cells.countOf key = some n := by
  have hok := (h.sample hpos key).nodup
  unfold Tally.sample at hanswer hok ⊢
  split at hanswer
  · next hkey =>
    rw [if_pos hkey] at hok ⊢
    exact ⟨_, Nat.succ_pos _, (h.counts hpos key).countOf_self h hok⟩
  · cases hanswer

end Tally

/-! ## The store -/

namespace Store

variable {s s' : Store} {c : Config} {r r' : Tally} {k : Backtrace} {n : Nat}

/-- The largest count of a used slot; 0 while there is none. -/
def largest (s : Store) : Nat := (s.used.map Slot.count).foldr max 0

/-- **What a call costs**, from `s` to `s'`, in a store of `N` slots. -/
structure Retains (N : Nat) (s s' : Store) : Prop where
  /-- A call that evicts takes a used slot from its backtrace. -/
  evicted : s'.evictions ≠ s.evictions → ∃ x ∈ s.used, s'.countOf x.backtrace = none
  /-- What that slot counted is spilled, and `N` times as much was counted by all slots. -/
  cheap : ∀ x ∈ s.used, s'.countOf x.backtrace = none → s'.others = s.others + x.count ∧
    s'.evictions = s.evictions + 1 ∧ N * x.count + s.others ≤ s.total
  /-- A backtrace with more than its share of the total is not the one. -/
  hot : ∀ k n, s.countOf k = some n → s.total < N * n → ∃ m, n ≤ m ∧ s'.countOf k = some m
  largest : 2 ≤ N → s.largest ≤ s'.largest

theorem Matches.mem_of_countOf (h : s.Matches c r) (hk : s.countOf k = some n) :
    k.length = c.depth ∧ (k, n) ∈ r.cells := by
  have hlen : k.length = c.depth := by
    unfold Store.countOf at hk
    split at hk
    · next hlen => exact hlen.trans h.depth
    · cases hk
  rw [h.countOf_eq hlen] at hk
  exact ⟨hlen, Keyed.mem_of_countOf hk⟩

/-- What is true of the cells is true of the slots. -/
theorem Matches.retains (h : s.Matches c r) (h' : s'.Matches c r')
    (hdepth : ∀ k ∈ r.cells.keys, k.length = c.depth) (hr : Tally.Retains c.slots r r') :
    Retains c.slots s s' := by
  have hcount {k : Backtrace} (hk : k ∈ r.cells.keys) :
      s'.countOf k = none ↔ k ∉ r'.cells.keys := by
    rw [h'.countOf_eq (hdepth k hk), Keyed.countOf_eq_none]
  refine ⟨fun hne => ?_, fun x hx hgone => ?_, fun k n hk hshare => ?_, fun htwo => ?_⟩
  · rw [h.evictions, h'.evictions] at hne
    obtain ⟨cell, hcell, hlost⟩ := hr.evicted hne
    obtain ⟨x, hx, rfl⟩ := List.mem_map.1 (h.used_eq ▸ hcell)
    exact ⟨x, hx, (hcount (Keyed.mem_keys_of_mem hcell)).2 hlost⟩
  · have hcell := h.mem_cells hx
    rw [h.others, h.evictions, h.total, h'.others, h'.evictions]
    exact hr.cheap _ hcell ((hcount (Keyed.mem_keys_of_mem hcell)).1 hgone)
  · obtain ⟨hlen, hcell⟩ := h.mem_of_countOf hk
    have htotal := h.total
    by_cases hkept : k ∈ r'.cells.keys
    · obtain ⟨⟨k, m⟩, hd, rfl, hle⟩ := hr.kept _ hcell hkept
      refine ⟨m, hle, ?_⟩
      rw [h'.countOf_eq hlen]
      exact (Keyed.countOf_eq_some h'.ok.nodup).2 hd
    · obtain ⟨-, -, hcheap⟩ := hr.cheap _ hcell hkept
      simp only at hcheap
      omega
  · unfold Store.largest
    rw [h.counts_eq, h'.counts_eq]
    refine List.max_le_of_forall_le _ _ (List.forall_mem_map.2 fun cell hcell => ?_)
    obtain ⟨d, hd, hle⟩ := hr.matched htwo cell hcell
    exact List.le_max_of_le (List.mem_map_of_mem hd) hle

/-- **Hot stacks stay.** After any calls to a store with slots, one more call evicts at most a stack that
counts no more than the average slot, and none with more than its share of all samples; what it counts is
there afterwards; and with two slots or more the largest count is no less than before. -/
theorem hot_stacks_stay (c : Config) (hpos : 0 < c.slots) (calls : List Call) (call : Call) :
    let s := (runAll Store.call (Store.new c) calls).2
    Retains c.slots s (s.call call).2 ∧
      ((s.call call).1 = true →
        ∃ n, 1 ≤ n ∧ (s.call call).2.countOf (call.key c.depth) = some n) := by
  intro s
  have hmatch : s.Matches c (Tally.after c.slots (calls.map (Call.key c.depth))) :=
    (Matches.calls hpos calls).2
  obtain ⟨hanswer, hnext⟩ := hmatch.call hpos call
  have hdepth : ∀ k ∈ (Tally.after c.slots (calls.map (Call.key c.depth))).cells.keys,
      k.length = c.depth := by
    intro k hk
    have hseen := (Tally.after_tracks hpos _).seen hk
    obtain ⟨earlier, -, rfl⟩ := List.mem_map.1 (List.mem_of_mem_filter hseen)
    exact earlier.length_key c.depth
  refine ⟨hmatch.retains hnext hdepth (hmatch.ok.retains hpos _), fun htrue => ?_⟩
  rw [hnext.countOf_eq (call.length_key c.depth)]
  exact hmatch.ok.countOf_sampled hpos (hanswer.symm.trans htrue)

/-- A hot stack and one that was sampled once, in a store that has evicted before. -/
theorem hot_stack_stays :
    let c : Config := { depth := 2, slots := 2 }
    let calls : List Call :=
      [.record [⟨1⟩], .record [⟨1⟩], .recordFrom (innermost ⟨1⟩), .record [⟨2⟩, ⟨1⟩], .record [⟨3⟩]]
    let s := (runAll Store.call (Store.new c) calls).2
    let next := s.call (.record [⟨2⟩, ⟨1⟩])
    0 < c.slots ∧ s.total = 5 ∧ s.others = 1 ∧ s.countOf [⟨1⟩, ⟨0⟩] = some 3 ∧
      s.countOf [⟨3⟩, ⟨0⟩] = some 1 ∧ next.1 = true ∧ next.2.countOf [⟨3⟩, ⟨0⟩] = none ∧
      Retains 2 s next.2 ∧ ∃ n, 1 ≤ n ∧ next.2.countOf [⟨2⟩, ⟨1⟩] = some n := by
  intro c calls s next
  obtain ⟨hretains, hcounted⟩ := hot_stacks_stay c (by decide) calls (.record [⟨2⟩, ⟨1⟩])
  have htrue : next.1 = true := by decide +kernel
  refine ⟨by decide, ?_, ?_, ?_, ?_, htrue, ?_, hretains, hcounted htrue⟩
  all_goals decide +kernel

end Store

end StackSampler
