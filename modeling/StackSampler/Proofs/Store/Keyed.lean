import StackSampler.Frame.Backtrace
import StackSampler.Total
import Mathlib.Data.List.Nodup

/-!
# Lists of cells

A **cell** is a backtrace and its count. In a list of cells no backtrace has two, so a backtrace
finds its cell by looking through the list, and a cell can be rewritten by its position.

* `Keyed.index_unique`: the cells of one backtrace are one cell.
* `Keyed.countOf_eq_some`: a lookup finds exactly what is in the list.
* `Keyed.Victim`: the first cell of least count; there is one unless there is no cell
  (`Keyed.exists_victim`).
-/

namespace StackSampler

/-- Backtraces and their counts. -/
abbrev Keyed := List (Backtrace × Nat)

namespace Keyed

/-- The backtraces that have a cell. -/
def keys (cells : Keyed) : List Backtrace := cells.map Prod.fst

/-- What all cells count together. -/
def mass (cells : Keyed) : Nat := total (cells.map Prod.snd)

/-- The count of a backtrace, if it has a cell. -/
def countOf (cells : Keyed) (key : Backtrace) : Option Nat :=
  (cells.find? fun c => c.1 = key).map Prod.snd

/-- The position of the first cell of least count. -/
def least (cells : Keyed) : Nat := cells.findIdx fun c => cells.all fun d => c.2 ≤ d.2

/-- The count of the cell at a position. -/
def countAt (cells : Keyed) (i : Nat) : Nat := (cells[i]?.map Prod.snd).getD 0

variable {cells : Keyed} {key k : Backtrace} {i j n m : Nat}

@[simp] theorem keys_concat : keys (cells ++ [(key, n)]) = cells.keys ++ [key] := List.map_append

@[simp] theorem keys_length : cells.keys.length = cells.length := List.length_map ..

@[simp] theorem mass_concat : mass (cells ++ [(key, n)]) = cells.mass + n := by
  simp [mass]

theorem keys_getElem? (h : cells[i]? = some (key, n)) : cells.keys[i]? = some key := by
  simp [keys, h]

theorem mem_keys_of_mem (h : (key, n) ∈ cells) : key ∈ cells.keys := List.mem_map_of_mem h

theorem exists_of_mem_keys (h : key ∈ cells.keys) : ∃ (i n : Nat), cells[i]? = some (key, n) := by
  obtain ⟨⟨k, n⟩, hc, rfl⟩ := List.mem_map.1 h
  obtain ⟨i, hi⟩ := List.getElem?_of_mem hc
  exact ⟨i, n, hi⟩

/-- **The cells of one backtrace are one cell.** -/
theorem index_unique (hnd : cells.keys.Nodup) (hi : cells[i]? = some (key, n))
    (hj : cells[j]? = some (key, m)) : i = j := by
  obtain ⟨hil, hie⟩ := List.getElem?_eq_some_iff.1 (keys_getElem? hi)
  obtain ⟨hjl, hje⟩ := List.getElem?_eq_some_iff.1 (keys_getElem? hj)
  exact (hnd.getElem_inj_iff).1 (hie.trans hje.symm)

/-! ## Rewriting a cell -/

theorem keys_set : keys (cells.set i (key, n)) = cells.keys.set i key := List.map_set

/-- A new count leaves the backtraces as they are. -/
theorem keys_set_count (h : cells[i]? = some (key, n)) :
    keys (cells.set i (key, m)) = cells.keys := by
  obtain ⟨hil, hie⟩ := List.getElem?_eq_some_iff.1 (keys_getElem? h)
  rw [keys_set, ← hie]
  exact List.set_getElem_self hil

theorem nodup_set (hnd : cells.keys.Nodup) (hk : key ∉ cells.keys) :
    (keys (cells.set i (key, n))).Nodup := by
  rw [keys_set]
  exact hnd.set hk

theorem nodup_concat (hnd : cells.keys.Nodup) (hk : key ∉ cells.keys) :
    (keys (cells ++ [(key, n)])).Nodup := by
  rw [keys_concat, ← List.concat_eq_append]
  exact hnd.concat hk

/-- A rewritten cell trades its count for another. -/
theorem mass_set (h : cells[i]? = some (k, n)) (key : Backtrace) (m : Nat) :
    mass (cells.set i (key, m)) + n = cells.mass + m := by
  induction cells generalizing i with
  | nil => simp at h
  | cons c cells ih =>
    cases i with
    | zero =>
      simp only [List.getElem?_cons_zero, Option.some.injEq] at h
      subst h
      simp [mass]
      omega
    | succ i =>
      have := ih (by simpa using h)
      simp [mass] at this ⊢
      omega

/-- A cell that is not written stays. -/
theorem mem_set_of_mem {c d : Backtrace × Nat} (hc : c ∈ cells) (hi : cells[i]? ≠ some c) :
    c ∈ cells.set i d := by
  obtain ⟨j, hj⟩ := List.getElem?_of_mem hc
  have hij : i ≠ j := by
    rintro rfl
    exact hi hj
  exact List.mem_of_getElem? ((List.getElem?_set_ne hij).trans hj)

/-- A backtrace whose cell is written over has none left. -/
theorem notMem_keys_set (hnd : cells.keys.Nodup) (hi : cells[i]? = some (k, n)) (hne : key ≠ k) :
    k ∉ keys (cells.set i (key, m)) := by
  intro hk
  obtain ⟨j, m', hj⟩ := exists_of_mem_keys hk
  by_cases hij : i = j
  · subst hij
    rw [List.getElem?_set_self (List.getElem?_eq_some_iff.1 hi).1] at hj
    exact hne (congrArg Prod.fst (Option.some.inj hj))
  · rw [List.getElem?_set_ne hij] at hj
    exact hij (index_unique hnd hi hj)

/-! ## Lookup -/

theorem countOf_eq_none : cells.countOf key = none ↔ key ∉ cells.keys := by
  rw [countOf, Option.map_eq_none_iff, List.find?_eq_none, keys, List.mem_map]
  simp only [decide_eq_true_eq, not_exists, not_and]

theorem mem_of_countOf (h : cells.countOf key = some n) : (key, n) ∈ cells := by
  obtain ⟨⟨k, m⟩, hc, rfl⟩ := Option.map_eq_some_iff.1 h
  have hkey := List.find?_some hc
  rw [decide_eq_true_eq] at hkey
  subst hkey
  exact List.mem_of_find?_eq_some hc

/-- **A lookup finds exactly what is in the list.** -/
theorem countOf_eq_some (hnd : cells.keys.Nodup) :
    cells.countOf key = some n ↔ (key, n) ∈ cells := by
  refine ⟨mem_of_countOf, fun h => ?_⟩
  cases hf : cells.countOf key with
  | none => exact absurd (mem_keys_of_mem h) (countOf_eq_none.1 hf)
  | some m =>
    -- what was found and what was asked for are cells of one backtrace
    obtain ⟨i, hi⟩ := List.getElem?_of_mem (mem_of_countOf hf)
    obtain ⟨j, hj⟩ := List.getElem?_of_mem h
    rw [index_unique hnd hi hj, hj] at hi
    simpa using hi.symm

/-! ## The first cell of least count -/

/-- **A victim**: the cell at `v` has the least count, `n`, and is the first that does. -/
structure Victim (cells : Keyed) (v : Nat) (k : Backtrace) (n : Nat) : Prop where
  here : cells[v]? = some (k, n)
  least : ∀ c ∈ cells, n ≤ c.2
  first : ∀ (j : Nat) (c : Backtrace × Nat), cells[j]? = some c → j < v → n < c.2

namespace Victim

variable {v : Nat}

/-- The search for the least cell ends at the victim. -/
theorem least_eq (h : Victim cells v k n) : cells.least = v := by
  obtain ⟨hv, hcell⟩ := List.getElem?_eq_some_iff.1 h.here
  rw [Keyed.least, List.findIdx_eq hv]
  refine ⟨?_, fun j hj => ?_⟩
  · rw [List.all_eq_true]
    intro c hc
    rw [hcell]
    exact decide_eq_true (h.least c hc)
  · -- an earlier cell counts more than the victim, so it is not least
    have hlt := h.first j _ (List.getElem?_eq_getElem (Nat.lt_trans hj hv)) hj
    rw [List.all_eq_false]
    refine ⟨_, List.mem_of_getElem? h.here, ?_⟩
    simpa using hlt

theorem countAt_eq (h : Victim cells v k n) : cells.countAt cells.least = n := by
  rw [h.least_eq, countAt, h.here]
  rfl

end Victim

/-- Some cell counts no more than any other. -/
theorem exists_least (h : cells ≠ []) : ∃ c ∈ cells, ∀ d ∈ cells, c.2 ≤ d.2 := by
  induction cells with
  | nil => exact absurd rfl h
  | cons a cells ih =>
    by_cases hnil : cells = []
    · subst hnil
      exact ⟨a, by simp, by simp⟩
    · obtain ⟨c, hc, hle⟩ := ih hnil
      rcases Nat.le_total a.2 c.2 with hac | hca
      · refine ⟨a, List.mem_cons_self, fun d hd => ?_⟩
        rcases List.mem_cons.1 hd with rfl | hd
        · exact Nat.le_refl _
        · exact Nat.le_trans hac (hle d hd)
      · refine ⟨c, List.mem_cons_of_mem _ hc, fun d hd => ?_⟩
        rcases List.mem_cons.1 hd with rfl | hd
        · exact hca
        · exact hle d hd

/-- **There is a victim** unless there is no cell. -/
theorem exists_victim (h : cells ≠ []) : ∃ v k n, Victim cells v k n := by
  obtain ⟨c, hc, hle⟩ := exists_least h
  have hv : cells.least < cells.length :=
    List.findIdx_lt_length_of_exists ⟨c, hc, List.all_eq_true.2 fun d hd => decide_eq_true (hle d hd)⟩
  have hall : ∀ d ∈ cells, (cells.get ⟨cells.least, hv⟩).2 ≤ d.2 := by
    have := List.findIdx_getElem (w := hv)
    rw [List.all_eq_true] at this
    exact fun d hd => of_decide_eq_true (this d hd)
  refine ⟨cells.least, _, _, List.getElem?_eq_getElem hv, hall, fun j d hj hlt => ?_⟩
  obtain ⟨hjl, rfl⟩ := List.getElem?_eq_some_iff.1 hj
  have hnot := List.not_of_lt_findIdx hlt
  rw [List.all_eq_false] at hnot
  -- an earlier cell has a smaller one somewhere, and that is no smaller than the victim
  obtain ⟨e, he, hlte⟩ := hnot
  have hmin := hall e he
  simp only [decide_eq_true_eq, Nat.not_le] at hlte
  exact Nat.lt_of_le_of_lt hmin hlte

end Keyed

end StackSampler
