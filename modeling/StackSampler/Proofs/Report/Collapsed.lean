import StackSampler.Report.Collapsed

/-!
# Collapsed stacks lose no sample

Collapsing leaves entries without samples out and sorts the rest. The order compares all that there is of
a collapsed stack, its weight and its text, so stacks that are equal in the order are equal, and the
place of an entry in the snapshot cannot show: neither which of two entries was first that read the same
once their names are made to fit, nor where the slots lay.

* `Collapsed.precedes_iff` and the laws of the order after it.
* `Snapshot.collapse_eq_iff`: which snapshots collapse alike.
* `Snapshot.collapse_conserves`: what a collapsed snapshot holds.
-/

namespace StackSampler

namespace Collapsed

variable {a b c : Collapsed}

/-- The heavier stack goes first, and of two with one weight the one whose text is less. -/
theorem precedes_iff :
    a.precedes b = true ↔ b.weight < a.weight ∨ a.weight = b.weight ∧ a.stack ≤ b.stack := by
  simp [precedes]

theorem precedes_trans (hab : a.precedes b = true) (hbc : b.precedes c = true) :
    a.precedes c = true := by
  rw [precedes_iff] at hab hbc ⊢
  rcases hab with hab | ⟨hab, hle⟩ <;> rcases hbc with hbc | ⟨hbc, hle'⟩
  · exact .inl (by omega)
  · exact .inl (by omega)
  · exact .inl (by omega)
  · exact .inr ⟨hab.trans hbc, String.le_trans hle hle'⟩

theorem precedes_total (a b : Collapsed) : (a.precedes b || b.precedes a) = true := by
  rw [Bool.or_eq_true, precedes_iff, precedes_iff]
  rcases Nat.lt_trichotomy a.weight b.weight with hlt | heq | hgt
  · exact .inr (.inl hlt)
  · rcases String.le_total a.stack b.stack with hle | hle
    · exact .inl (.inr ⟨heq, hle⟩)
    · exact .inr (.inr ⟨heq.symm, hle⟩)
  · exact .inl (.inl hgt)

/-- **The order tells stacks apart.** -/
theorem precedes_antisymm (hab : a.precedes b = true) (hba : b.precedes a = true) : a = b := by
  rw [precedes_iff] at hab hba
  have hweight : a.weight = b.weight := by omega
  have hstack : a.stack = b.stack := by
    rcases hab with hab | ⟨-, hle⟩
    · omega
    · rcases hba with hba | ⟨-, hle'⟩
      · omega
      · exact String.le_antisymm hle hle'
  obtain ⟨stack, weight⟩ := a
  obtain ⟨stack', weight'⟩ := b
  obtain rfl : stack = stack' := hstack
  obtain rfl : weight = weight' := hweight
  rfl

end Collapsed

namespace Snapshot

variable (s t : Snapshot String)

/-- The entries that have samples. -/
def sampled : List (Entry String) := s.entries.filter fun e => 0 < e.count

theorem collapse_perm : s.collapse.Perm (s.sampled.map Entry.collapse) := List.mergeSort_perm _ _

theorem collapse_pairwise : s.collapse.Pairwise fun a b => a.precedes b = true := by
  apply List.pairwise_mergeSort
  · intro a b c hab hbc
    exact Collapsed.precedes_trans hab hbc
  · exact Collapsed.precedes_total

/-- **Which snapshots collapse alike**: those with the same stacks, in any order. -/
theorem collapse_eq_iff :
    s.collapse = t.collapse ↔
      (s.sampled.map Entry.collapse).Perm (t.sampled.map Entry.collapse) := by
  constructor
  · intro heq
    exact (s.collapse_perm.symm.trans (.of_eq heq)).trans t.collapse_perm
  · intro hperm
    have hstacks : s.collapse.Perm t.collapse :=
      (s.collapse_perm.trans hperm).trans t.collapse_perm.symm
    -- both are sorted, and the order is antisymmetric
    exact hstacks.eq_of_pairwise (fun _ _ _ _ => Collapsed.precedes_antisymm)
      s.collapse_pairwise t.collapse_pairwise

/-- Where an entry stands in the snapshot does not show. -/
theorem collapse_of_perm {s t : Snapshot String} (h : s.entries.Perm t.entries) :
    s.collapse = t.collapse :=
  (collapse_eq_iff s t).2 ((h.filter _).map _)

/-- Entries without samples have no part in a total. -/
theorem total_sampled : total (s.sampled.map Entry.count) = s.entriesTotal := by
  have hparts := total_filter (fun e : Entry String => decide (0 < e.count)) Entry.count s.entries
  have hrest : total ((s.entries.filter fun e => !decide (0 < e.count)).map Entry.count) = 0 := by
    refine total_eq_zero.2 (List.forall_mem_map.2 fun e he => ?_)
    have hnone : (!decide (0 < e.count)) = true := (List.mem_filter.1 he).2
    simpa using hnone
  rw [hrest, Nat.add_zero] at hparts
  exact hparts.symm

theorem total_collapse : total (s.collapse.map Collapsed.weight) = s.entriesTotal := by
  have hperm := s.collapse_perm.map Collapsed.weight
  rw [List.map_map] at hperm
  exact (total_perm hperm).trans s.total_sampled

/-- **What a collapsed snapshot holds.** -/
structure Conserves (s : Snapshot String) (collapsed : List Collapsed) : Prop where
  /-- One stack for each entry that has samples, and no other. -/
  each : collapsed.Perm ((s.entries.filter fun e => 0 < e.count).map Entry.collapse)
  length : collapsed.length = s.entries.countP fun e => 0 < e.count
  /-- All samples, the evicted ones included. -/
  mass : total (collapsed.map Collapsed.weight) = s.entriesTotal
  /-- Heavier stacks first, and stacks of one weight in the order of their text. -/
  sorted : collapsed.Pairwise fun a b =>
    b.weight < a.weight ∨ a.weight = b.weight ∧ a.stack ≤ b.stack

/-- **Collapsing conserves samples and forgets the order of the entries**: snapshots whose entries are
the same in another order give the same stacks and the same text, whatever their headers say. -/
theorem collapse_conserves (s : Snapshot String) :
    s.Conserves s.collapse ∧
      ∀ t : Snapshot String, t.entries.Perm s.entries →
        t.collapse = s.collapse ∧ Collapsed.text t.collapse = Collapsed.text s.collapse := by
  have hlength : s.collapse.length = s.entries.countP fun e => 0 < e.count := by
    rw [s.collapse_perm.length_eq, List.length_map, List.countP_eq_length_filter]
    rfl
  have hsorted := s.collapse_pairwise.imp Collapsed.precedes_iff.1
  refine ⟨⟨s.collapse_perm, hlength, s.total_collapse, hsorted⟩, ?_⟩
  intro t hperm
  have hsame := collapse_of_perm hperm
  exact ⟨hsame, congrArg Collapsed.text hsame⟩

/-- Two stacks that read the same because neither of their names fits, and an entry without samples. -/
theorem collapse_conserves_unnamed :
    let e (name : String) (n : Nat) : Entry String := ⟨[.function name, .function "main"], n⟩
    let s : Snapshot String :=
      { version := schemaVersion, mode := .sampling, startTime := none, stopTime := .epoch
        interval := none, samples := 8
        entries := [.overflow 2, e "a b" 3, e "idle" 0, e "c;d" 3] }
    let t := { s with entries := [e "c;d" 3, .overflow 2, e "a b" 3, e "idle" 0] }
    t.entries.Perm s.entries ∧
      s.entries.map Entry.collapse =
        [⟨"[others]", 2⟩, ⟨"main;[unnamed]", 3⟩, ⟨"main;idle", 0⟩, ⟨"main;[unnamed]", 3⟩] ∧
      s.collapse.length = 3 ∧ total (s.collapse.map Collapsed.weight) = 8 ∧
      t.collapse = s.collapse ∧ Collapsed.text t.collapse = Collapsed.text s.collapse := by
  intro e s t
  have hperm : t.entries.Perm s.entries := by decide
  obtain ⟨hconserves, hsame⟩ := s.collapse_conserves
  exact ⟨hperm, by decide +kernel, hconserves.length, hconserves.mass, hsame t hperm⟩

end Snapshot

end StackSampler
