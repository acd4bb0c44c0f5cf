import Mathlib.Data.List.TakeWhile

/-!
# Parts between separators

Lists that were joined with a separator between them are parted again at the separator, each of them at
its own separators too (`splitOn_intercalate_eq_flatMap`), and what is behind the last separator can be
read from the end (`takeWhile_reverse_append_cons`).
-/

namespace StackSampler.Text

variable {α : Type} {x y : α} {last : List α} {ls : List (List α)}

/-! ## Joined and parted -/

/-- What is no separator comes from one of the parts. -/
theorem mem_intercalate (hyx : y ≠ x) : y ∈ [x].intercalate ls ↔ ∃ l ∈ ls, y ∈ l := by
  induction ls with
  | nil => simp
  | cons l ls ih =>
    cases ls with
    | nil => simp
    | cons l' ls =>
      rw [List.intercalate_cons_cons, List.append_assoc, List.mem_append, List.singleton_append,
        List.mem_cons, or_iff_right hyx, ih]
      simp only [List.mem_cons, exists_eq_or_imp]

theorem reverse_append_cons (l last : List α) (x : α) :
    (l ++ x :: last).reverse = last.reverse ++ x :: l.reverse := by
  rw [List.reverse_append, List.reverse_cons, List.append_assoc, List.singleton_append]

variable [BEq α] [LawfulBEq α]

/-- **Joining and parting**: every separator parts, the joining ones and those inside. -/
theorem splitOn_intercalate_eq_flatMap (x : α) (hls : ls ≠ []) :
    ([x].intercalate ls).splitOn x = ls.flatMap fun l => l.splitOn x := by
  induction ls with
  | nil => exact absurd rfl hls
  | cons l ls ih =>
    cases ls with
    | nil => simp
    | cons l' ls =>
      have hjoin : [x].intercalate (l :: l' :: ls) = l ++ x :: [x].intercalate (l' :: ls) := by
        rw [List.intercalate_cons_cons, List.append_assoc, List.singleton_append]
      rw [hjoin, List.splitOn_append_cons_self, List.flatMap_cons, ih (List.cons_ne_nil _ _)]

/-! ## From the end -/

theorem bne_of_mem_reverse (h : x ∉ last) : ∀ y ∈ last.reverse, (y != x) = true := fun _ hy =>
  bne_iff_ne.2 fun heq => h (heq ▸ List.mem_reverse.1 hy)

/-- **Behind the last separator**, read from the end. -/
theorem takeWhile_reverse_append_cons (h : x ∉ last) (l : List α) :
    (l ++ x :: last).reverse.takeWhile (· != x) = last.reverse := by
  rw [reverse_append_cons, List.takeWhile_append_of_pos (bne_of_mem_reverse h),
    List.takeWhile_cons_of_neg (by simp), List.append_nil]

/-- The last separator, and what is in front of it. -/
theorem dropWhile_reverse_append_cons (h : x ∉ last) (l : List α) :
    (l ++ x :: last).reverse.dropWhile (· != x) = x :: l.reverse := by
  rw [reverse_append_cons, List.dropWhile_append_of_pos (bne_of_mem_reverse h),
    List.dropWhile_cons_of_neg (by simp)]

end StackSampler.Text
