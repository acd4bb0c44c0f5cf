import StackSampler.Time.Instant

/-!
# Days and dates

Every day has a date of the calendar, and that date counts as the day: `Date.names_ofDays`. Years have
no gaps (`Calendar.daysBefore_succ`), a day lies in the year that is found for it
(`Calendar.daysBefore_yearOf`), and the months of a year fill it (`Calendar.splitMonths_eq`).
-/

namespace StackSampler

namespace Calendar

/-- The days of a year. -/
def yearLength (year : Int) : Nat := total (monthLengths year)

theorem yearLength_eq (year : Int) : yearLength year = if isLeap year then 366 else 365 := by
  unfold yearLength monthLengths
  cases isLeap year <;> rfl

theorem daysBefore_succ (year : Int) : daysBefore (year + 1) = daysBefore year + yearLength year := by
  rw [yearLength_eq]
  unfold daysBefore isLeap
  split
  · next h =>
    simp only [Bool.and_eq_true, Bool.or_eq_true, decide_eq_true_eq] at h
    omega
  · next h =>
    simp only [Bool.and_eq_true, Bool.or_eq_true, decide_eq_true_eq] at h
    omega

theorem daysBefore_mono {y y' : Int} (h : y ≤ y') : daysBefore y ≤ daysBefore y' := by
  unfold daysBefore
  omega

/-- **A day lies in its year.** -/
theorem daysBefore_yearOf (days : Int) :
    daysBefore (yearOf days) ≤ days ∧ days < daysBefore (yearOf days + 1) := by
  unfold yearOf
  -- 400 years have 146097 days, so the guess is not more than one year off
  have hguess : days * 400 / 146097 * 146097 ≤ days * 400 := by omega
  have hguess' : days * 400 < (days * 400 / 146097 + 1) * 146097 := by omega
  generalize days * 400 / 146097 = guess at hguess hguess' ⊢
  have hprev : guess - 1 + 1 = guess := by omega
  simp only
  split
  · next h =>
    rw [hprev]
    refine ⟨?_, h⟩
    unfold daysBefore
    omega
  · split
    · next h =>
      refine ⟨h, ?_⟩
      unfold daysBefore
      omega
    · next h h' => exact ⟨Int.not_lt.1 h, Int.not_le.1 h'⟩

/-- A day before the first day of `y'` lies in a year before `y'`. -/
theorem yearOf_lt {days y' : Int} (h : days < daysBefore y') : yearOf days < y' := by
  refine Int.not_le.1 fun hle => ?_
  have hmono := daysBefore_mono hle
  have := (daysBefore_yearOf days).1
  omega

theorem le_yearOf {days y : Int} (h : daysBefore y ≤ days) : y ≤ yearOf days := by
  refine Int.not_lt.1 fun hlt => ?_
  have hmono := daysBefore_mono (Int.add_one_le_of_lt hlt)
  have := (daysBefore_yearOf days).2
  omega

/-- **Months fill their year**: a day of it is the day `day + 1` of some month. -/
theorem splitMonths_eq {lens : List Nat} {n : Nat} (month : Nat) (h : n < total lens) :
    ∃ i len day, splitMonths lens month n = (month + i, day + 1) ∧ lens[i]? = some len ∧
      day < len ∧ total (lens.take i) + day = n := by
  induction lens generalizing month n with
  | nil => exact absurd h (Nat.not_lt_zero n)
  | cons len lens ih =>
    unfold splitMonths
    by_cases hn : n < len
    · rw [if_pos hn]
      exact ⟨0, len, n, rfl, rfl, hn, Nat.zero_add n⟩
    · rw [if_neg hn]
      rw [total_cons] at h
      obtain ⟨i, len', day, hsplit, hlen', hday, htotal⟩ := ih (month + 1) (by omega : n - len < total lens)
      refine ⟨i + 1, len', day, ?_, hlen', hday, ?_⟩
      · rw [hsplit, Nat.add_assoc, Nat.add_comm 1 i]
      · rw [List.take_succ_cons, total_cons]
        omega

theorem le_of_monthLengths {year : Int} {i len : Nat} (h : (monthLengths year)[i]? = some len) :
    i < 12 ∧ len ≤ 31 := by
  obtain ⟨hi, rfl⟩ := List.getElem?_eq_some_iff.1 h
  have hmem := List.getElem_mem hi
  refine ⟨hi, ?_⟩
  generalize (monthLengths year)[i] = len at hmem
  unfold monthLengths at hmem
  simp only [List.mem_cons, List.not_mem_nil, or_false] at hmem
  split at hmem
  · omega
  · omega

end Calendar

namespace Date

open Calendar

/-- A date of the calendar that counts as the day `days`. -/
structure Names (d : Date) (days : Int) : Prop where
  valid : d.isValid = true
  toDays : d.toDays = days
  year : d.year = yearOf days
  month_pos : 1 ≤ d.month
  month_le : d.month ≤ 12
  day_pos : 1 ≤ d.day
  day_le : d.day ≤ 31

/-- **Every day has its date.** -/
theorem names_ofDays (days : Int) : (ofDays days).Names days := by
  obtain ⟨hle, hlt⟩ := daysBefore_yearOf days
  rw [daysBefore_succ] at hlt
  unfold yearLength at hlt
  have hlength : (days - daysBefore (yearOf days)).toNat < total (monthLengths (yearOf days)) := by
    omega
  obtain ⟨i, len, day, hsplit, hlen, hday, htotal⟩ := splitMonths_eq 1 hlength
  obtain ⟨hi, hlen31⟩ := le_of_monthLengths hlen
  have heq : ofDays days = ⟨yearOf days, 1 + i, day + 1⟩ := by
    unfold ofDays
    simp only [hsplit]
  have hmonth : 1 + i - 1 = i := by omega
  rw [heq]
  refine ⟨?_, ?_, rfl, Nat.le_add_right .., ?_, Nat.succ_pos day, ?_⟩
  · simp only [isValid, hmonth, hlen, Option.any_some, Bool.and_eq_true, decide_eq_true_eq]
    omega
  · simp only [Date.toDays, hmonth]
    omega
  · show 1 + i ≤ 12
    omega
  · show day + 1 ≤ 31
    omega

end Date

namespace Instant

/-- Day and second of the day make the instant. -/
theorem ofDate_date (t : Instant) : ofDate t.date t.secondOfDay = t.seconds := by
  unfold ofDate date
  rw [(Date.names_ofDays t.dayNumber).toDays]
  unfold dayNumber secondOfDay epochDay secondsPerDay
  omega

theorem secondOfDay_lt (t : Instant) : t.secondOfDay < 86400 := by
  unfold secondOfDay secondsPerDay
  omega

theorem year_of_inRange {t : Instant} (h : t.inRange = true) :
    firstYear ≤ t.date.year ∧ t.date.year ≤ lastYear := by
  unfold inRange at h
  simp only [Bool.and_eq_true, decide_eq_true_eq] at h
  have hyear : t.date.year = Calendar.yearOf t.dayNumber := (Date.names_ofDays t.dayNumber).year
  rw [hyear]
  exact ⟨Calendar.le_yearOf h.1, Int.lt_add_one_iff.1 (Calendar.yearOf_lt h.2)⟩

end Instant

end StackSampler
