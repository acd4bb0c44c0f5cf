/-!
# Ranges of characters

A property of characters as a table: inclusive ranges of character numbers, in ascending order.

* `holds_iff_exists`: in a table that is in order, looking a number up stops early and misses nothing.
-/

namespace StackSampler.Text

/-- The numbers of characters as inclusive ranges. -/
abbrev Ranges := List (Nat × Nat)

namespace Ranges

/-- Whether a number is in one of the ranges. The ranges that start behind it are not looked at. -/
def holds : Ranges → Nat → Bool
  | [], _ => false
  | (lo, hi) :: rest, n => if n < lo then false else n ≤ hi || holds rest n

/-- Whether no range is empty and each one starts behind the end of the one before. -/
def inOrder : Ranges → Bool
  | [] => true
  | (lo, hi) :: rest => lo ≤ hi && rest.head?.all (hi < ·.1) && inOrder rest

theorem behind_of_inOrder {r : Nat × Nat} {rest : Ranges} (order : inOrder (r :: rest)) :
    ∀ s ∈ rest, r.1 < s.1 := by
  induction rest generalizing r with
  | nil => simp
  | cons s rest ih =>
    simp only [inOrder, List.head?_cons, Option.all_some, Bool.and_eq_true,
      decide_eq_true_eq] at order
    have hs : r.1 < s.1 := by omega
    intro t ht
    rcases List.mem_cons.1 ht with rfl | ht
    · exact hs
    · have := ih (r := s) (by simpa [inOrder] using order.2) t ht
      omega

theorem holds_iff_exists {ranges : Ranges} (order : ranges.inOrder) (n : Nat) :
    ranges.holds n ↔ ∃ r ∈ ranges, r.1 ≤ n ∧ n ≤ r.2 := by
  induction ranges with
  | nil => simp [holds]
  | cons r rest ih =>
    have behind := behind_of_inOrder order
    simp only [inOrder, Bool.and_eq_true] at order
    by_cases h : n < r.1
    · -- the ranges behind start even later
      simp only [holds, h, if_true, List.mem_cons]
      constructor
      · intro hf
        cases hf
      · rintro ⟨s, rfl | hs, hn, _⟩
        · omega
        · have := behind s hs
          omega
    · simp only [holds, h, if_false, Bool.or_eq_true, decide_eq_true_eq, ih order.2, List.mem_cons]
      constructor
      · rintro (hn | ⟨s, hs, hn⟩)
        · exact ⟨r, Or.inl rfl, by omega, hn⟩
        · exact ⟨s, Or.inr hs, hn⟩
      · rintro ⟨s, rfl | hs, hn⟩
        · exact Or.inl hn.2
        · exact Or.inr ⟨s, hs, hn⟩

end Ranges

end StackSampler.Text
