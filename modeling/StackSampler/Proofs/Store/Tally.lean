import StackSampler.Proofs.Store.Keyed

/-!
# Tallies

A tally counts backtraces in a plain list of cells, without hashing, chains or a free stack: it is
what a store amounts to. A backtrace that has a cell is counted there; a new one gets a cell at the
end while there are fewer than the limit, and then takes the place of the first cell of least count,
whose count goes to `others`.

* `Tally.Ok.counts`: counting is one of three rewritings of the list of cells (`Tally.Counts`).
* `Tally.Ok`: what holds of every tally that counted from the start, and the one-step lemma
  `Tally.Counts.ok`.
* `Tally.Counts.countOf_self`, `Tally.Counts.countOf_ne`: what counting does to each backtrace.
-/

namespace StackSampler

/-- A stack cut or padded to a depth. -/
def Backtrace.fit (depth : Nat) (frames : Backtrace) : Backtrace :=
  frames.take depth ++ List.replicate (depth - frames.length) FrameId.absent

/-- Whether a backtrace shows its innermost frame. -/
def Backtrace.starts (key : Backtrace) : Bool :=
  match key.head? with
  | none => false
  | some f => f ≠ FrameId.absent

/-- Counted backtraces, in the order in which their cells were filled first. -/
structure Tally where
  cells : Keyed := []
  /-- Samples counted. -/
  total : Nat := 0
  /-- Counts of the cells that were given away. -/
  others : Nat := 0
  /-- How often a cell was given away. -/
  evictions : Nat := 0
  deriving DecidableEq, Repr

namespace Tally

/-- Counts one sample of `key`, with at most `limit` cells. -/
def count (limit : Nat) (r : Tally) (key : Backtrace) : Tally :=
  if key ∈ r.cells.keys then
    { r with
      cells := r.cells.map fun c => if c.1 = key then (c.1, c.2 + 1) else c
      total := r.total + 1 }
  else if r.cells.length < limit then
    { r with cells := r.cells ++ [(key, 1)], total := r.total + 1 }
  else
    { cells := r.cells.set r.cells.least (key, 1)
      total := r.total + 1
      others := r.others + r.cells.countAt r.cells.least
      evictions := r.evictions + 1 }

/-- Counts a captured backtrace that shows its innermost frame, and ignores any other. -/
def sample (limit : Nat) (r : Tally) (key : Backtrace) : Bool × Tally :=
  if key.starts then (true, r.count limit key) else (false, r)

/-- Counts a stack, cut or padded to `depth`. -/
def record (limit depth : Nat) (r : Tally) (frames : Backtrace) : Bool × Tally :=
  r.sample limit (frames.fit depth)

variable {limit : Nat} {r r' : Tally} {key k : Backtrace}

/-! ## The three ways of counting -/

/-- **What counting `key` does**: in its cell, in a new cell, or in the victim's. -/
inductive Counts (limit : Nat) (r : Tally) (key : Backtrace) : Tally → Prop
  | again {i n : Nat} (here : r.cells[i]? = some (key, n)) :
    Counts limit r key { r with cells := r.cells.set i (key, n + 1), total := r.total + 1 }
  | fresh (absent : key ∉ r.cells.keys) (room : r.cells.length < limit) :
    Counts limit r key { r with cells := r.cells ++ [(key, 1)], total := r.total + 1 }
  | instead {v n : Nat} {k : Backtrace} (absent : key ∉ r.cells.keys)
    (full : r.cells.length = limit) (victim : r.cells.Victim v k n) :
    Counts limit r key
      { cells := r.cells.set v (key, 1)
        total := r.total + 1
        others := r.others + n
        evictions := r.evictions + 1 }

/-- **What holds from the start on**: at most `limit` cells, no backtrace with two; every cell counts
something and shows its innermost frame; nothing counted is lost, and no cell was given away for
free. -/
structure Ok (limit : Nat) (r : Tally) : Prop where
  le : r.cells.length ≤ limit
  nodup : r.cells.keys.Nodup
  pos : ∀ c ∈ r.cells, 0 < c.2
  starts : ∀ c ∈ r.cells, c.1.starts = true
  mass : r.cells.mass + r.others = r.total
  spilled : r.evictions ≤ r.others
  kept : r.evictions = 0 → r.others = 0

theorem ok_new (limit : Nat) : Ok limit {} where
  le := Nat.zero_le _
  nodup := List.nodup_nil
  pos := by simp
  starts := by simp
  mass := rfl
  spilled := Nat.le_refl _
  kept := fun _ => rfl

/-- Counting in every cell of a backtrace is counting in its one cell. -/
theorem map_eq_set {cells : Keyed} {i n : Nat} (hnd : cells.keys.Nodup)
    (hi : cells[i]? = some (key, n)) :
    (cells.map fun c => if c.1 = key then (c.1, c.2 + 1) else c) = cells.set i (key, n + 1) := by
  refine List.ext_getElem? fun j => ?_
  rw [List.getElem?_map, List.getElem?_set]
  by_cases hij : i = j
  · subst hij
    rw [if_pos rfl, if_pos (List.getElem?_eq_some_iff.1 hi).1, hi]
    simp
  · rw [if_neg hij]
    cases hj : cells[j]? with
    | none => rfl
    | some c =>
      -- another cell of the same backtrace would be the same cell
      have hne : c.1 ≠ key := by
        rintro rfl
        exact hij (Keyed.index_unique hnd hi hj)
      rw [Option.map_some, if_neg hne]

theorem Ok.counts (h : r.Ok limit) (hpos : 0 < limit) (key : Backtrace) :
    Counts limit r key (r.count limit key) := by
  unfold count
  by_cases hk : key ∈ r.cells.keys
  · obtain ⟨i, n, hi⟩ := Keyed.exists_of_mem_keys hk
    rw [if_pos hk, map_eq_set h.nodup hi]
    exact .again hi
  rw [if_neg hk]
  by_cases hlt : r.cells.length < limit
  · rw [if_pos hlt]
    exact .fresh hk hlt
  · rw [if_neg hlt]
    have hfull : r.cells.length = limit := Nat.le_antisymm h.le (Nat.le_of_not_lt hlt)
    have hnil : r.cells ≠ [] := by
      rw [← List.length_pos_iff, hfull]
      exact hpos
    obtain ⟨v, k, n, hv⟩ := Keyed.exists_victim hnil
    rw [hv.countAt_eq, hv.least_eq]
    exact .instead hk hfull hv

/-! ## What counting keeps -/

/-- A cell after a rewriting is an old one or the written one. -/
theorem forall_mem_set {cells : Keyed} {P : Backtrace × Nat → Prop} (h : ∀ c ∈ cells, P c) {i : Nat}
    {c : Backtrace × Nat} (hc : P c) : ∀ d ∈ cells.set i c, P d := by
  intro d hd
  rcases List.mem_or_eq_of_mem_set hd with hd | rfl
  · exact h d hd
  · exact hc

/-- **Counting keeps a tally in order.** -/
theorem Counts.ok (h : r.Ok limit) (hkey : key.starts = true) (hc : Counts limit r key r') :
    r'.Ok limit := by
  have hmass := h.mass
  have hspilled := h.spilled
  cases hc with
  | @again i n here =>
    have hmove := Keyed.mass_set here key (n + 1)
    refine ⟨?_, ?_, forall_mem_set h.pos (Nat.succ_pos _), forall_mem_set h.starts hkey, ?_,
      h.spilled, h.kept⟩
    · rw [List.length_set]
      exact h.le
    · rw [Keyed.keys_set_count here]
      exact h.nodup
    · show Keyed.mass (r.cells.set i (key, n + 1)) + r.others = r.total + 1
      omega
  | fresh absent room =>
    refine ⟨?_, Keyed.nodup_concat h.nodup absent,
      List.forall_mem_append.2 ⟨h.pos, List.forall_mem_singleton.2 Nat.one_pos⟩,
      List.forall_mem_append.2 ⟨h.starts, List.forall_mem_singleton.2 hkey⟩, ?_, h.spilled, h.kept⟩
    · rw [List.length_append]
      exact room
    · show Keyed.mass (r.cells ++ [(key, 1)]) + r.others = r.total + 1
      rw [Keyed.mass_concat]
      omega
  | @instead v n k absent full victim =>
    have hmove := Keyed.mass_set victim.here key 1
    -- the victim was counted at least once, so `others` grows with `evictions`
    have hn : 0 < n := h.pos _ (List.mem_of_getElem? victim.here)
    refine ⟨?_, Keyed.nodup_set h.nodup absent, forall_mem_set h.pos Nat.one_pos,
      forall_mem_set h.starts hkey, ?_, ?_, fun h0 => ?_⟩
    · rw [List.length_set]
      exact h.le
    · show Keyed.mass (r.cells.set v (key, 1)) + (r.others + n) = r.total + 1
      omega
    · show r.evictions + 1 ≤ r.others + n
      omega
    · simp at h0

theorem Ok.sample (h : r.Ok limit) (hpos : 0 < limit) (key : Backtrace) :
    (r.sample limit key).2.Ok limit := by
  unfold Tally.sample
  by_cases hkey : key.starts = true
  · rw [if_pos hkey]
    exact (h.counts hpos key).ok h hkey
  · rw [if_neg hkey]
    exact h

/-! ## What counting does to each backtrace -/

/-- The counted backtrace counts one more, or starts at one. -/
theorem Counts.countOf_self (h : r.Ok limit) (hc : Counts limit r key r') (h' : r'.cells.keys.Nodup) :
    r'.cells.countOf key = some ((r.cells.countOf key).getD 0 + 1) := by
  rw [Keyed.countOf_eq_some h']
  cases hc with
  | @again i n here =>
    have := (Keyed.countOf_eq_some h.nodup).2 (List.mem_of_getElem? here)
    rw [this]
    exact List.mem_set (List.getElem?_eq_some_iff.1 here).1 _
  | fresh absent room =>
    rw [Keyed.countOf_eq_none.2 absent]
    exact List.mem_append_right _ List.mem_cons_self
  | @instead v n k absent full victim =>
    rw [Keyed.countOf_eq_none.2 absent]
    exact List.mem_set (List.getElem?_eq_some_iff.1 victim.here).1 _

/-- Any other backtrace keeps its count, unless it loses its cell. -/
theorem Counts.countOf_ne (h : r.Ok limit) (hc : Counts limit r key r') {n : Nat} (hne : k ≠ key)
    (hn : r'.cells.countOf k = some n) : r.cells.countOf k = some n := by
  rw [Keyed.countOf_eq_some h.nodup]
  have hmem := Keyed.mem_of_countOf hn
  cases hc with
  | again here =>
    rcases List.mem_or_eq_of_mem_set hmem with hm | he
    · exact hm
    · exact absurd (congrArg Prod.fst he) hne
  | fresh absent room =>
    rcases List.mem_append.1 hmem with hm | he
    · exact hm
    · exact absurd (congrArg Prod.fst (List.mem_singleton.1 he)) hne
  | instead absent full victim =>
    rcases List.mem_or_eq_of_mem_set hmem with hm | he
    · exact hm
    · exact absurd (congrArg Prod.fst he) hne

end Tally

end StackSampler
