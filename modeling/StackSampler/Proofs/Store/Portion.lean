import StackSampler.Proofs.Store.History

/-!
# What some backtraces count together

The cells of a tally whose backtraces have a property count together at most as many samples as had
the property, and exactly as many while nothing was evicted: `Tally.after_massOf`, from the one-step
lemma `Tally.Counts.massOf`.
-/

namespace StackSampler

namespace Keyed

variable {cells : Keyed} {key k : Backtrace} {i n : Nat}

/-- What the cells of the backtraces with a property count together. -/
def massOf (p : Backtrace → Bool) (cells : Keyed) : Nat := mass (cells.filter fun c => p c.1)

theorem massOf_cons (p : Backtrace → Bool) (key : Backtrace) (n : Nat) (cells : Keyed) :
    massOf p ((key, n) :: cells) = (if p key then n else 0) + massOf p cells := by
  unfold massOf mass
  cases hp : p key <;> simp [hp]

theorem massOf_concat (p : Backtrace → Bool) (cells : Keyed) (key : Backtrace) (n : Nat) :
    massOf p (cells ++ [(key, n)]) = cells.massOf p + if p key then n else 0 := by
  unfold massOf mass
  cases hp : p key <;> simp [hp]

theorem massOf_set (p : Backtrace → Bool) (h : cells[i]? = some (k, n)) (key : Backtrace) (m : Nat) :
    massOf p (cells.set i (key, m)) + (if p k then n else 0) =
      cells.massOf p + if p key then m else 0 := by
  induction cells generalizing i with
  | nil => simp at h
  | cons c cells ih =>
    obtain ⟨k', n'⟩ := c
    cases i with
    | zero =>
      obtain ⟨rfl, rfl⟩ := Prod.mk.inj (Option.some.inj h)
      rw [List.set_cons_zero, massOf_cons, massOf_cons]
      omega
    | succ i =>
      have := ih (by simpa using h)
      rw [List.set_cons_succ, massOf_cons, massOf_cons]
      omega

end Keyed

namespace Tally

variable {limit : Nat} {r r' : Tally} {key : Backtrace}

/-- **Counting** adds one to what is counted together with `key`, and takes away what an eviction
spills. -/
theorem Counts.massOf (hc : Counts limit r key r') (p : Backtrace → Bool) :
    r'.cells.massOf p ≤ (r.cells.massOf p + if p key then 1 else 0) ∧
      (r'.evictions = 0 →
        r.evictions = 0 ∧ r'.cells.massOf p = r.cells.massOf p + if p key then 1 else 0) := by
  cases hc with
  | @again i n here =>
    have hmove := Keyed.massOf_set p here key (n + 1)
    have heq : Keyed.massOf p (r.cells.set i (key, n + 1)) =
        r.cells.massOf p + if p key then 1 else 0 := by
      cases hp : p key <;> simp only [hp, if_true, Bool.false_eq_true, if_false] at hmove ⊢ <;> omega
    exact ⟨heq.le, fun h0 => ⟨h0, heq⟩⟩
  | fresh absent room =>
    have heq := Keyed.massOf_concat p r.cells key 1
    exact ⟨heq.le, fun h0 => ⟨h0, heq⟩⟩
  | @instead v n k absent full victim =>
    have hmove := Keyed.massOf_set p victim.here key 1
    refine ⟨?_, fun h0 => absurd h0 (Nat.succ_ne_zero _)⟩
    show Keyed.massOf p (r.cells.set v (key, 1)) ≤ _
    omega

/-- **A portion of the counts** against the samples that belong to it. -/
theorem after_massOf (hpos : 0 < limit) (p : Backtrace → Bool) (keys : List Backtrace) :
    (after limit keys).cells.massOf p ≤ (accepted keys).countP p ∧
      ((after limit keys).evictions = 0 →
        (after limit keys).cells.massOf p = (accepted keys).countP p) := by
  induction keys using List.reverseRecOn with
  | nil => exact ⟨Nat.le_refl _, fun _ => rfl⟩
  | append_singleton keys key ih =>
    rw [after_concat, accepted, List.filter_append, sample]
    by_cases hkey : key.starts = true
    · obtain ⟨hle, heq⟩ := ((after_ok hpos keys).counts hpos key).massOf p
      rw [if_pos hkey, List.filter_cons_of_pos hkey, List.filter_nil, List.countP_append,
        List.countP_singleton]
      refine ⟨hle.trans (Nat.add_le_add_right ih.1 _), fun h0 => ?_⟩
      obtain ⟨h0', heq⟩ := heq h0
      rw [heq, ih.2 h0']
      rfl
    · rw [if_neg hkey, List.filter_cons_of_neg hkey, List.filter_nil, List.append_nil]
      exact ih

end Tally

end StackSampler
