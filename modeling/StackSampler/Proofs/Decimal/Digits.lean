import Mathlib.Data.Nat.Digits.Defs
import StackSampler.Decimal.Digits

/-!
# Digits of numbers

Digits stand for the number that they were written for, padded or not (`value_digits`,
`value_padded`), and `width` digits for a number below `10 ^ width` (`value_lt`).
-/

namespace StackSampler.Decimal

variable {c : Char} {n width : Nat} {ds : List Char}

theorem isDigit_of_mem_digits (h : c ∈ digits n) : c.isDigit = true :=
  Nat.isDigit_of_mem_toDigits (by decide) (by decide) h

/-- No separator is among the digits. -/
theorem notMem_digits (h : c.isDigit = false) : c ∉ digits n := fun hmem => by
  rw [isDigit_of_mem_digits hmem] at h
  cases h

theorem digits_ne_nil (n : Nat) : digits n ≠ [] := Nat.toDigits_ne_nil

theorem value_digits (n : Nat) : value (digits n) = n := Nat.ofDigitChars_ten_toDigits

theorem isDigit_of_mem_padded (h : c ∈ padded width n) : c.isDigit = true := by
  rcases List.mem_append.1 h with h | h
  · rw [List.eq_of_mem_replicate h]
    rfl
  · exact isDigit_of_mem_digits h

theorem value_padded (width n : Nat) : value (padded width n) = n := by
  unfold padded value
  rw [Nat.ofDigitChars_append, Nat.ofDigitChars_replicate_zero, Nat.mul_zero]
  exact value_digits n

theorem length_padded (hpos : 0 < width) (h : n < 10 ^ width) : (padded width n).length = width := by
  have hle : (digits n).length ≤ width := Nat.toDigits_length 10 n width hpos h
  unfold padded
  rw [List.length_append, List.length_replicate]
  omega

theorem padded_ne_nil (width n : Nat) : padded width n ≠ [] := by
  intro h
  exact digits_ne_nil n (List.append_eq_nil_iff.1 h).2

theorem value_cons (c : Char) (ds : List Char) :
    value (c :: ds) = (c.toNat - 48) * 10 ^ ds.length + value ds := by
  unfold value
  rw [Nat.ofDigitChars_cons, Nat.ofDigitChars_eq_ofDigitChars_zero, Nat.mul_zero, Nat.zero_add,
    Nat.mul_comm]
  rfl

theorem toNat_of_isDigit (h : c.isDigit = true) : 48 ≤ c.toNat ∧ c.toNat ≤ 57 :=
  Char.isDigit_iff_toNat.1 h

/-- **Digits stand for a number of that many digits.** -/
theorem value_lt (h : ∀ c ∈ ds, c.isDigit = true) : value ds < 10 ^ ds.length := by
  induction ds with
  | nil => exact Nat.one_pos
  | cons c ds ih =>
    obtain ⟨hc, hds⟩ := List.forall_mem_cons.1 h
    have hrest := ih hds
    have hle : c.toNat - 48 ≤ 9 := by
      have := toNat_of_isDigit hc
      omega
    have hmul := Nat.mul_le_mul_right (10 ^ ds.length) hle
    rw [value_cons, List.length_cons, Nat.pow_succ]
    omega

/-- A zero in front stands alone. -/
theorem digits_head (n : Nat) : (digits n).head? = some '0' → (digits n).length = 1 := by
  induction n using Nat.strongRecOn with
  | ind n ih =>
    unfold digits at ih ⊢
    by_cases hlt : n < 10
    · rw [Nat.toDigits_of_lt_base hlt]
      exact fun _ => rfl
    · rw [Nat.toDigits_of_base_le (by decide) (by omega)]
      intro hhead
      -- digits in front of the last one begin with no zero, as they stand for a positive number
      have hfront : (Nat.toDigits 10 (n / 10)).head? = some '0' := by
        cases hds : Nat.toDigits 10 (n / 10) with
        | nil => exact absurd hds Nat.toDigits_ne_nil
        | cons d ds =>
          rw [hds] at hhead
          exact hhead
      have hlen := ih (n / 10) (by omega) hfront
      obtain ⟨d, hd⟩ := List.length_eq_one_iff.1 hlen
      have hvalue := value_digits (n / 10)
      unfold digits at hvalue
      rw [hd] at hfront hvalue
      obtain rfl : d = '0' := Option.some.inj hfront
      have : value ['0'] = 0 := rfl
      omega

end StackSampler.Decimal
