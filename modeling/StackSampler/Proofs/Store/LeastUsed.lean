import StackSampler.Store.Pool

/-!
# The least used slot

The scan over a pool carries the best candidate so far. `Best seen best` says what that candidate is
worth: it is the first used slot of smallest count among the slots seen, or there is none because no
slot seen is in use. One slot more keeps it (`best_lesser`), hence the whole scan does (`best_scan`),
and `leastUsed_eq_some`, `leastUsed_eq_none` read off the result. As there is only one such slot
(`FirstLeast.unique`), both hold the other way round too.
-/

namespace StackSampler

namespace Pool

variable {seen : List Slot} {best : Option (Nat × Nat)} {v n : Nat}

/-- **The first used slot of smallest count** among `slots` is the one at `v`, and counts `n`. -/
structure FirstLeast (slots : List Slot) (v n : Nat) : Prop where
  here : ∃ s : Slot, slots[v]? = some s ∧ s.used = true ∧ s.count = n
  least : ∀ (j : Nat) (s : Slot), slots[j]? = some s → s.used = true → n ≤ s.count
  first : ∀ (j : Nat) (s : Slot), slots[j]? = some s → s.used = true → j < v → n < s.count

/-- What the candidate of a scan says about the slots seen so far. -/
def Best (seen : List Slot) : Option (Nat × Nat) → Prop
  | none => ∀ s ∈ seen, s.used = false
  | some (v, n) => FirstLeast seen v n

theorem getElem?_snoc (seen : List Slot) (s : Slot) (j : Nat) {x : Slot}
    (h : (seen ++ [s])[j]? = some x) : seen[j]? = some x ∨ j = seen.length ∧ s = x := by
  rcases Nat.lt_trichotomy j seen.length with hj | hj | hj
  · rw [List.getElem?_append_left hj] at h
    exact .inl h
  · subst hj
    rw [List.getElem?_concat_length] at h
    exact .inr ⟨rfl, by simpa using h⟩
  · rw [List.getElem?_eq_none (by simp; omega)] at h
    simp at h

/-- A slot that is not better than the candidate leaves it standing. -/
theorem FirstLeast.snoc (h : FirstLeast seen v n) {s : Slot} (hs : s.used = true → n ≤ s.count) :
    FirstLeast (seen ++ [s]) v n := by
  obtain ⟨x, hx, hu, hn⟩ := h.here
  have hv : v < seen.length := (List.getElem?_eq_some_iff.1 hx).1
  refine ⟨⟨x, ?_, hu, hn⟩, fun j y hj hy => ?_, fun j y hj hy hjv => ?_⟩
  · rw [List.getElem?_append_left hv, hx]
  · rcases getElem?_snoc seen s j hj with hj | ⟨-, rfl⟩
    · exact h.least j y hj hy
    · exact hs hy
  · rcases getElem?_snoc seen s j hj with hj | ⟨rfl, -⟩
    · exact h.first j y hj hy hjv
    · omega

/-- A used slot with a smaller count than every used slot seen takes over. -/
theorem FirstLeast.last {s : Slot} (hu : s.used = true)
    (hs : ∀ (j : Nat) (x : Slot), seen[j]? = some x → x.used = true → s.count < x.count) :
    FirstLeast (seen ++ [s]) seen.length s.count := by
  refine ⟨⟨s, List.getElem?_concat_length, hu, rfl⟩, fun j y hj hy => ?_, fun j y hj hy hjv => ?_⟩
  · rcases getElem?_snoc seen s j hj with hj | ⟨-, rfl⟩
    · exact Nat.le_of_lt (hs j y hj hy)
    · exact Nat.le_refl _
  · rcases getElem?_snoc seen s j hj with hj | ⟨rfl, -⟩
    · exact hs j y hj hy
    · omega

/-- **One slot more.** -/
theorem best_lesser (h : Best seen best) (s : Slot) :
    Best (seen ++ [s]) (lesser best seen.length s) := by
  unfold lesser
  cases hu : s.used with
  | false =>
    simp only [Bool.false_eq_true, if_false]
    cases best with
    | none =>
      -- still no slot in use
      intro x hx
      rcases List.mem_append.1 hx with hx | hx
      · exact h x hx
      · rw [List.mem_singleton.1 hx, hu]
    | some c => exact FirstLeast.snoc h (by simp [hu])
  | true =>
    simp only [if_true]
    cases best with
    | none =>
      refine FirstLeast.last hu fun j x hj hx => ?_
      rw [h x (List.mem_of_getElem? hj)] at hx
      simp at hx
    | some c =>
      obtain ⟨v, n⟩ := c
      simp only
      -- an equal count does not take over, so the first slot of that count stays
      by_cases hn : n ≤ s.count
      · rw [if_pos hn]
        exact FirstLeast.snoc h fun _ => hn
      · rw [if_neg hn]
        exact FirstLeast.last hu fun j x hj hx => Nat.lt_of_lt_of_le (Nat.lt_of_not_le hn) (h.least j x hj hx)

/-- **The scan** keeps what its candidate says. -/
theorem best_scan (l : List Slot) (h : Best seen best) :
    Best (seen ++ l) (scan l seen.length best) := by
  -- what is still to be scanned shrinks while what was seen grows
  induction l generalizing seen best with
  | nil => simpa [scan] using h
  | cons s l ih =>
    have := ih (best_lesser h s)
    rw [List.length_append, List.length_singleton, List.append_assoc] at this
    exact this

variable {p : Pool}

theorem best_slots (p : Pool) : Best p.slots.toList (scan p.slots.toList 0 none) := by
  have h : Best [] none := fun s hs => by simp at hs
  exact best_scan p.slots.toList h

theorem leastUsed_eq_some (h : p.leastUsed = some v) : ∃ n, FirstLeast p.slots.toList v n := by
  have hb := best_slots p
  unfold leastUsed at h
  cases hs : scan p.slots.toList 0 none with
  | none => rw [hs] at h; simp at h
  | some c =>
    obtain ⟨w, n⟩ := c
    rw [hs] at h hb
    obtain rfl : w = v := by simpa using h
    exact ⟨n, hb⟩

/-- Nothing is found only where nothing is in use. -/
theorem leastUsed_eq_none (h : p.leastUsed = none) : ∀ s ∈ p.slots.toList, s.used = false := by
  have hb := best_slots p
  unfold leastUsed at h
  rw [Option.map_eq_none_iff] at h
  rw [h] at hb
  exact hb

/-- There is only one first used slot of smallest count. -/
theorem FirstLeast.unique (h : FirstLeast seen v n) {w m : Nat} (h' : FirstLeast seen w m) :
    v = w ∧ n = m := by
  obtain ⟨s, hs, hused, rfl⟩ := h.here
  obtain ⟨x, hx, hxused, rfl⟩ := h'.here
  have hle : s.count ≤ x.count := h.least w x hx hxused
  have hge : x.count ≤ s.count := h'.least v s hs hused
  refine ⟨?_, Nat.le_antisymm hle hge⟩
  rcases Nat.lt_trichotomy v w with hlt | heq | hlt
  · have hfirst := h'.first v s hs hused hlt
    omega
  · exact heq
  · have hfirst := h.first w x hx hxused hlt
    omega

theorem FirstLeast.exists_used (h : FirstLeast seen v n) : ∃ s ∈ seen, s.used = true := by
  obtain ⟨s, hs, hused, -⟩ := h.here
  exact ⟨s, List.mem_of_getElem? hs, hused⟩

theorem leastUsed_eq_some_iff : p.leastUsed = some v ↔ ∃ n, FirstLeast p.slots.toList v n := by
  constructor
  · exact leastUsed_eq_some
  · rintro ⟨n, h⟩
    cases hfound : p.leastUsed with
    | none =>
      obtain ⟨s, hs, hused⟩ := h.exists_used
      have hfree := leastUsed_eq_none hfound s hs
      simp [hfree] at hused
    | some w =>
      obtain ⟨m, h'⟩ := leastUsed_eq_some hfound
      rw [(h.unique h').1]

theorem leastUsed_eq_none_iff : p.leastUsed = none ↔ ∀ s ∈ p.slots.toList, s.used = false := by
  constructor
  · exact leastUsed_eq_none
  · intro hfree
    cases hfound : p.leastUsed with
    | none => rfl
    | some v =>
      obtain ⟨n, h⟩ := leastUsed_eq_some hfound
      obtain ⟨s, hs, hused⟩ := h.exists_used
      have hnot := hfree s hs
      simp [hnot] at hused

end Pool

end StackSampler
