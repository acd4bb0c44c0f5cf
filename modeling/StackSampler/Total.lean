/-!
# Totals

The sum of counts. Samples are only ever added up, so a total is the same in any order
(`total_append`, `total_perm`), no number in it is larger (`le_total`), and it may be taken in parts
(`total_filter`).
-/

namespace StackSampler

/-- The sum of numbers. -/
def total : List Nat → Nat
  | [] => 0
  | n :: ns => n + total ns

@[simp] theorem total_nil : total [] = 0 := rfl

@[simp] theorem total_cons (n : Nat) (ns : List Nat) : total (n :: ns) = n + total ns := rfl

@[simp] theorem total_append (ms ns : List Nat) : total (ms ++ ns) = total ms + total ns := by
  induction ms with
  | nil => simp
  | cons m ms ih => simp [ih]; omega

/-- A total is the same in any order. -/
theorem total_perm {ms ns : List Nat} (h : ms.Perm ns) : total ms = total ns := by
  induction h with
  | nil => rfl
  | cons n _ ih => rw [total_cons, total_cons, ih]
  | swap m n ns =>
    simp only [total_cons]
    omega
  | trans _ _ ih ih' => exact ih.trans ih'

theorem le_total {n : Nat} {ns : List Nat} (h : n ∈ ns) : n ≤ total ns := by
  induction ns with
  | nil => cases h
  | cons m ns ih =>
    rcases List.mem_cons.1 h with rfl | h
    · exact Nat.le_add_right ..
    · exact Nat.le_add_left_of_le (ih h)

/-- A total of numbers that are all at least `n`. -/
theorem length_mul_le_total {ns : List Nat} {n : Nat} (h : ∀ m ∈ ns, n ≤ m) :
    ns.length * n ≤ total ns := by
  induction ns with
  | nil => simp
  | cons m ns ih =>
    obtain ⟨hm, hns⟩ := List.forall_mem_cons.1 h
    have hrest := ih hns
    rw [List.length_cons, total_cons, Nat.succ_mul]
    omega

theorem total_eq_zero {ns : List Nat} : total ns = 0 ↔ ∀ n ∈ ns, n = 0 := by
  induction ns with
  | nil => exact ⟨fun _ => nofun, fun _ => rfl⟩
  | cons n ns ih => rw [total_cons, Nat.add_eq_zero_iff, ih, List.forall_mem_cons]

/-- What is counted has a property or has not. -/
theorem total_filter {α : Type} (p : α → Bool) (f : α → Nat) (l : List α) :
    total (l.map f) = total ((l.filter p).map f) + total ((l.filter fun a => !p a).map f) := by
  induction l with
  | nil => rfl
  | cons a l ih =>
    rw [List.map_cons, total_cons, ih]
    cases hp : p a with
    | true =>
      rw [List.filter_cons_of_pos hp, List.filter_cons_of_neg (by simp [hp]), List.map_cons, total_cons]
      omega
    | false =>
      rw [List.filter_cons_of_neg (by simp [hp]), List.filter_cons_of_pos (by simp [hp]), List.map_cons,
        total_cons]
      omega

theorem total_length {α β : Type} (l : List α) (f : α → List β) :
    total (l.map fun a => (f a).length) = (l.flatMap f).length := by
  induction l with
  | nil => rfl
  | cons a l ih => simp [ih]

end StackSampler
