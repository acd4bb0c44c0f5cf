import StackSampler.Proofs.Decimal.Digits
import StackSampler.Proofs.Reading
import StackSampler.Proofs.Time.Calendar
import StackSampler.Time.Rfc3339

/-!
# Times as text

Any second may be prolonged, but a text has a second 60 for the last one of a minute only. A second
that is prolonged before that has the text of the second after it (`Rfc3339.chars_settled`). All other
instants are named by their text (`Instant.Nameable`), and read back from it (`Rfc3339.read_chars`). What
is read from any text is such an instant (`Rfc3339.nameable_of_read`).
-/

namespace StackSampler

namespace Instant

variable {t : Instant}

/-- **The instants that there are**: within the years of the calendar, with the nanoseconds of a second
or, in a leap second, of two. -/
structure Valid (t : Instant) : Prop where
  inRange : t.inRange = true
  nanos : t.nanos < 2 * second

/-- **The instants that a text can name**: those whose leap second is the last of its minute. -/
structure Nameable (t : Instant) : Prop where
  inRange : t.inRange = true
  nanos : t.nanos < second ∨ t.nanos < 2 * second ∧ t.seconds % 60 = 59

instance (t : Instant) : Decidable t.Valid :=
  decidable_of_iff (t.inRange = true ∧ t.nanos < 2 * second)
    ⟨fun h => ⟨h.1, h.2⟩, fun h => ⟨h.inRange, h.nanos⟩⟩

instance (t : Instant) : Decidable t.Nameable :=
  decidable_of_iff (t.inRange = true ∧ (t.nanos < second ∨ t.nanos < 2 * second ∧ t.seconds % 60 = 59))
    ⟨fun h => ⟨h.1, h.2⟩, fun h => ⟨h.inRange, h.nanos⟩⟩

/-- Whether an instant is in a second that is prolonged before its minute ends. -/
def isProlonged (t : Instant) : Bool := second ≤ t.nanos && t.seconds % 60 != 59

/-- What the text of an instant names. -/
def settled (t : Instant) : Instant :=
  if t.isProlonged then ⟨t.seconds + 1, t.nanos - second⟩ else t

theorem isProlonged_iff : t.isProlonged = true ↔ second ≤ t.nanos ∧ t.seconds % 60 ≠ 59 := by
  simp [isProlonged]

theorem Nameable.valid (h : t.Nameable) : t.Valid := by
  have hnanos := h.nanos
  exact ⟨h.inRange, by omega⟩

theorem Valid.nameable_iff (h : t.Valid) : t.Nameable ↔ t.isProlonged = false := by
  have hnanos := h.nanos
  rw [← Bool.not_eq_true, isProlonged_iff]
  constructor
  · intro hname
    have hshort := hname.nanos
    omega
  · intro hno
    exact ⟨h.inRange, by omega⟩

/-- An instant that a text can name is the one that its own text names. -/
theorem settled_eq_self_iff (h : t.Valid) : t.settled = t ↔ t.Nameable := by
  rw [h.nameable_iff, settled]
  cases t.isProlonged with
  | false => simp
  | true =>
    -- a second later is another instant
    simp only [if_true, Bool.true_eq_false, iff_false]
    intro hsame
    have hseconds : t.seconds + 1 = t.seconds := congrArg Instant.seconds hsame
    omega

/-- A second that is prolonged before its minute ends is on the day of the second after it. -/
theorem dayNumber_settled (t : Instant) : t.settled.dayNumber = t.dayNumber := by
  unfold settled
  split
  · next hlong =>
    obtain ⟨-, hlast⟩ := isProlonged_iff.1 hlong
    unfold dayNumber secondsPerDay
    simp only
    omega
  · rfl

theorem Valid.settled (h : t.Valid) : t.settled.Nameable := by
  have hnanos := h.nanos
  have hrange : t.settled.inRange = true := by
    rw [Instant.inRange, t.dayNumber_settled]
    exact h.inRange
  refine ⟨hrange, ?_⟩
  unfold Instant.settled
  split
  · next hlong =>
    obtain ⟨hlong, -⟩ := isProlonged_iff.1 hlong
    simp only
    omega
  · next hshort =>
    rw [isProlonged_iff] at hshort
    omega

end Instant

namespace Rfc3339

open Decimal Reading Text

variable {ds rest : List Char} {c : Char} {width n : Nat}

/-! ## Tokens -/

/-- White space is skipped, and digits and separators are none. -/
theorem blanks_run (hc : isBlank c = false) : blanks.run (c :: rest) = .ok ((), c :: rest) := by
  unfold blanks skipBlank
  rw [run_modify, List.dropWhile_cons_of_neg (by rw [hc]; exact Bool.false_ne_true)]

theorem not_isBlank_of_isDigit (h : c.isDigit = true) : isBlank c = false := by
  have hrange := toNat_of_isDigit h
  rw [isBlank, ← Bool.not_eq_true, Ranges.holds_iff_exists blankRanges_inOrder]
  rintro ⟨r, hr, hlo, hhi⟩
  simp only [blankRanges, List.mem_cons, List.not_mem_nil, or_false] at hr
  rcases hr with rfl | rfl | rfl | rfl | rfl | rfl | rfl | rfl | rfl | rfl <;> simp only at hlo hhi <;> omega

theorem number_eq (width : Nat) (cs : List Char) :
    (number width).run cs =
      let ds := (cs.take width).takeWhile Char.isDigit
      if cs.isEmpty then .error .tooShort
      else if ds.isEmpty then .error .invalid
      else if largest < value ds then .error .outOfRange
      else .ok (value ds, cs.drop ds.length) := by
  unfold number
  rw [run_bind run_get]
  simp only
  repeat (split; rfl)
  rfl

/-- **A number is read** as far as its digits or its width go. -/
theorem number_run (hds : ∀ c ∈ ds, c.isDigit = true) (hne : ds ≠ []) (hlen : ds.length ≤ width)
    (hstop : ds.length = width ∨ ∀ c ∈ rest.head?, c.isDigit = false) (hsmall : value ds ≤ largest) :
    (number width).run (ds ++ rest) = .ok (value ds, rest) := by
  -- the digits stop at the width, or in front of a character that is none
  have htaken : ((ds ++ rest).take width).takeWhile Char.isDigit = ds := by
    rw [List.take_append, List.take_of_length_le hlen, List.takeWhile_append_of_pos hds]
    rcases hstop with hwidth | hhead
    · rw [hwidth, Nat.sub_self, List.take_zero, List.takeWhile_nil, List.append_nil]
    · have hnone : (rest.take (width - ds.length)).takeWhile Char.isDigit = [] := by
        cases rest with
        | nil => simp
        | cons c rest =>
          have hc := hhead c rfl
          cases width - ds.length with
          | zero => rfl
          | succ k => simp [hc]
      rw [hnone, List.append_nil]
  have hds' : ds.isEmpty = false := by simpa using hne
  have hcs : (ds ++ rest).isEmpty = false := by simp [hne]
  have hnot : ¬largest < value ds := Nat.not_lt.2 hsmall
  rw [number_eq]
  simp only [htaken, hcs, hds', hnot, Bool.false_eq_true, if_false, List.drop_left]

theorem mark_run {marks : List Char} (h : c ∈ marks) : (mark marks).run (c :: rest) = .ok ((), rest) := by
  unfold mark
  rw [run_bind run_get]
  simp only [h, if_true]
  exact run_set

theorem separator_run {sep : Char} (h : isBlank sep = false) :
    (separator sep).run (sep :: rest) = .ok ((), rest) := by
  unfold separator
  rw [run_bind (blanks_run h)]
  exact mark_run List.mem_cons_self

/-- A padded number, of the width that is read or in front of something else. -/
theorem padded_run {places : Nat} (hlen : (padded places n).length ≤ width)
    (hstop : (padded places n).length = width ∨ ∀ c ∈ rest.head?, c.isDigit = false)
    (hsmall : n ≤ largest) : (number width).run (padded places n ++ rest) = .ok (n, rest) := by
  have hvalue : value (padded places n) = n := value_padded places n
  rw [number_run (fun c => isDigit_of_mem_padded) (padded_ne_nil places n) hlen hstop
    (hvalue.symm ▸ hsmall), hvalue]

theorem blanks_padded (width n : Nat) (rest : List Char) :
    blanks.run (padded width n ++ rest) = .ok ((), padded width n ++ rest) := by
  cases hp : padded width n with
  | nil => exact absurd hp (padded_ne_nil width n)
  | cons c ds =>
    exact blanks_run (not_isBlank_of_isDigit (isDigit_of_mem_padded (hp ▸ List.mem_cons_self)))

/-- A field of two digits. -/
theorem field_run {lo hi : Nat} (hlo : lo ≤ n) (hhi : n ≤ hi) (hn : n < 100) :
    (field lo hi).run (padded 2 n ++ rest) = .ok (n, rest) := by
  have hlen : (padded 2 n).length = 2 := length_padded (by decide) hn
  have hsmall : n ≤ largest := by
    unfold largest
    omega
  unfold field
  rw [run_bind (blanks_padded 2 n rest), run_bind (padded_run hlen.le (.inl hlen) hsmall)]
  simp only [Nat.not_lt.2 hlo, Nat.not_lt.2 hhi, or_self, if_false]
  exact run_pure

/-! ## Parts -/

theorem year_run {y : Int} (hlo : Instant.firstYear ≤ y) (hhi : y ≤ Instant.lastYear) :
    year.run (yearText y ++ '-' :: rest) = .ok (y, '-' :: rest) := by
  unfold Instant.firstYear at hlo
  unfold Instant.lastYear at hhi
  have hrange : ¬(y < -2147483648 ∨ 2147483647 < y) := by omega
  have hsmall : y.natAbs ≤ largest := by
    unfold largest
    omega
  unfold year yearText
  split
  · -- four digits, of which the first is not taken for a sign
    have hn : y.toNat < 10 ^ 4 := by omega
    have hlen : (padded 4 y.toNat).length = 4 := length_padded (by decide) hn
    have hy : ((y.toNat : Nat) : Int) = y := by omega
    have hblanks := blanks_padded 4 y.toNat ('-' :: rest)
    have hnumber : (number 4).run (padded 4 y.toNat ++ '-' :: rest) = .ok (y.toNat, '-' :: rest) :=
      padded_run hlen.le (.inl hlen) (by omega)
    cases hp : padded 4 y.toNat with
    | nil => exact absurd hp (padded_ne_nil 4 _)
    | cons d ds =>
      have hd : d.isDigit = true := isDigit_of_mem_padded (hp ▸ List.mem_cons_self)
      rw [hp, List.cons_append] at hnumber hblanks
      rw [List.cons_append, run_bind hblanks, run_bind run_get]
      split
      · next heq =>
        obtain ⟨rfl, -⟩ := List.cons.inj heq
        cases hd
      · next heq =>
        obtain ⟨rfl, -⟩ := List.cons.inj heq
        cases hd
      · rw [run_bind hnumber, run_bind run_pure, hy]
        simp only [hrange, if_false]
        exact run_pure
  · -- a sign, and digits up to the separator
    have hlong : longNumber.run (padded 4 y.natAbs ++ '-' :: rest) = .ok (y.natAbs, '-' :: rest) := by
      unfold longNumber
      rw [run_bind run_get]
      exact padded_run (by simp) (.inr (by simp)) hsmall
    split
    · have hy : -((y.natAbs : Nat) : Int) = y := by omega
      rw [List.cons_append, run_bind (blanks_run (by decide)), run_bind run_get]
      simp only
      rw [run_bind run_set, run_bind hlong, run_bind run_pure, hy]
      simp only [hrange, if_false]
      exact run_pure
    · have hy : ((y.natAbs : Nat) : Int) = y := by omega
      rw [List.cons_append, run_bind (blanks_run (by decide)), run_bind run_get]
      simp only
      rw [run_bind run_set, run_bind hlong, run_bind run_pure, hy]
      simp only [hrange, if_false]
      exact run_pure

/-- A fraction of up to nine digits. -/
theorem fraction_digits (hpos : 0 < width) (hwidth : width ≤ 9) (hn : n < 10 ^ width)
    (hrest : ∀ c ∈ rest.head?, c.isDigit = false) :
    fraction.run ('.' :: (padded width n ++ rest)) = .ok (n * 10 ^ (9 - width), rest) := by
  have hlen := length_padded hpos hn
  have hsmall : n ≤ largest := by
    have := Nat.pow_le_pow_right (by decide : 0 < 10) hwidth
    unfold largest
    omega
  have hnumber : (number 9).run (padded width n ++ rest) = .ok (n, rest) :=
    padded_run (by omega) (.inr hrest) hsmall
  have hnone : rest.dropWhile Char.isDigit = rest := by
    cases rest with
    | nil => rfl
    | cons c rest => exact List.dropWhile_cons_of_neg (by rw [hrest c rfl]; exact Bool.false_ne_true)
  have hcount : (padded width n ++ rest).length - rest.length = width := by
    rw [List.length_append, hlen]
    omega
  unfold fraction
  rw [run_bind run_get]
  simp only
  rw [run_bind run_set, run_bind hnumber, run_bind run_get, run_bind run_set, hnone, hcount]
  exact run_pure

/-- **A fraction is read back**, as it was cut only where it ends in zeros. -/
theorem fraction_run {nanos : Nat} (h : nanos < Instant.second) :
    fraction.run (fractionText nanos ++ ['Z']) = .ok (nanos, ['Z']) := by
  have hZ : ∀ c ∈ (['Z'] : List Char).head?, c.isDigit = false := by simp
  unfold Instant.second at h
  unfold fractionText
  split
  · next hzero =>
    rw [hzero]
    rfl
  · split
    · have hexact : nanos / 1000000 * 10 ^ (9 - 3) = nanos := by omega
      rw [List.cons_append, fraction_digits (by decide) (by decide) (by omega) hZ, hexact]
    · split
      · have hexact : nanos / 1000 * 10 ^ (9 - 6) = nanos := by omega
        rw [List.cons_append, fraction_digits (by decide) (by decide) (by omega) hZ, hexact]
      · have hexact : nanos * 10 ^ (9 - 9) = nanos := by omega
        rw [List.cons_append, fraction_digits (by decide) (by decide) (by omega) hZ, hexact]

/-! ## Times -/

/-- The parts that the text of an instant shows. -/
def parts (t : Instant) : Fields :=
  let leap := Instant.second ≤ t.nanos
  { date := t.date
    hour := t.secondOfDay / 3600
    minute := t.secondOfDay / 60 % 60
    second := t.secondOfDay % 60 + if leap then 1 else 0
    nanos := if leap then t.nanos - Instant.second else t.nanos
    offset := 0 }

theorem zone_run : zone.run ['Z'] = .ok (0, []) := rfl

theorem parts_bounds {t : Instant} (h : t.Nameable) :
    (parts t).hour ≤ 23 ∧ (parts t).minute ≤ 59 ∧ (parts t).second ≤ 60 ∧
      (parts t).nanos < Instant.second := by
  have hday := t.secondOfDay_lt
  have hnanos := h.nanos
  simp only [parts]
  split <;> omega

theorem chars_eq (t : Instant) :
    chars t = yearText t.date.year ++ '-' :: (padded 2 t.date.month ++ '-' ::
      (padded 2 t.date.day ++ 'T' :: (padded 2 (parts t).hour ++ ':' ::
        (padded 2 (parts t).minute ++ ':' :: (padded 2 (parts t).second ++
          (fractionText (parts t).nanos ++ ['Z'])))))) := by
  unfold chars dateText timeText
  simp only [List.append_assoc, List.cons_append]
  rfl

theorem fields_run {t : Instant} (h : t.Nameable) : fields.run (chars t) = .ok (parts t, []) := by
  obtain ⟨hyear, hyear'⟩ := Instant.year_of_inRange h.inRange
  obtain ⟨hhour, hminute, hsecond, hnanos⟩ := parts_bounds h
  have hdate : t.date.Names t.dayNumber := Date.names_ofDays t.dayNumber
  have hmonth := hdate.month_le
  have hday := hdate.day_le
  -- part by part, in the order of the text
  unfold fields
  rw [chars_eq, run_bind (year_run hyear hyear'), run_bind (separator_run (by decide)),
    run_bind (field_run hdate.month_pos hmonth (by omega)), run_bind (separator_run (by decide)),
    run_bind (field_run hdate.day_pos hday (by omega)), run_bind (mark_run (by decide)),
    run_bind (field_run (Nat.zero_le _) hhour (by omega)), run_bind (separator_run (by decide)),
    run_bind (field_run (Nat.zero_le _) hminute (by omega)), run_bind (separator_run (by decide)),
    run_bind (field_run (Nat.zero_le _) hsecond (by omega)), run_bind (fraction_run hnanos),
    run_bind (blanks_run (by decide)), run_bind zone_run]
  rfl

/-- **Parts make an instant again.** -/
theorem instant_parts {t : Instant} (h : t.Nameable) : (parts t).instant = .ok t := by
  obtain ⟨hyear, hyear'⟩ := Instant.year_of_inRange h.inRange
  have hdate : t.date.Names t.dayNumber := Date.names_ofDays t.dayNumber
  have hnanos := h.nanos
  have hminute : t.seconds % 60 = t.secondOfDay % 60 := by
    unfold Instant.secondOfDay Instant.secondsPerDay
    omega
  -- hours, minutes and seconds add up to the second of the day, a leap second to the one before it
  have hsecondOfDay : ((parts t).hour * 60 + (parts t).minute) * 60 + min (parts t).second 59 =
      t.secondOfDay := by
    simp only [parts]
    split <;> omega
  have hback : (if (parts t).second = 60 then (parts t).nanos + Instant.second else (parts t).nanos) =
      t.nanos := by
    simp only [parts]
    split <;> split <;> omega
  have hinstant : ({ seconds := Instant.ofDate (parts t).date t.secondOfDay - (parts t).offset
                     nanos := t.nanos } : Instant) = t := by
    have hseconds : Instant.ofDate (parts t).date t.secondOfDay = t.seconds := t.ofDate_date
    rw [hseconds]
    exact congrArg (Instant.mk · t.nanos) (Int.sub_zero _)
  have hvalid : (parts t).date.isValid = true := hdate.valid
  have hyears : ¬((parts t).date.year < Instant.firstYear ∨ Instant.lastYear < (parts t).date.year) :=
    not_or.2 ⟨Int.not_lt.2 hyear, Int.not_lt.2 hyear'⟩
  have hoffset : ¬Instant.secondsPerDay ≤ (((parts t).offset.natAbs : Nat) : Int) := by
    show ¬(86400 : Int) ≤ 0
    decide
  unfold Fields.instant
  simp only [hsecondOfDay, hback, hinstant, hvalid, hyears, hoffset, h.inRange, Bool.not_true,
    Bool.false_eq_true, if_false]
  rfl

/-- **An instant that a text can name is read back from its text.** -/
theorem read_chars {t : Instant} (h : t.Nameable) : read (chars t) = .ok t := by
  unfold read
  rw [fields_run h]
  exact instant_parts h

/-- **A second that is prolonged before the minute ends** has the text of the second after it. -/
theorem chars_settled {t : Instant} (h : t.Valid) : chars t.settled = chars t := by
  have hdate : t.settled.date = t.date := congrArg Date.ofDays t.dayNumber_settled
  cases hlong : t.isProlonged with
  | false =>
    have hself : t.settled = t := if_neg (Bool.eq_false_iff.1 hlong)
    rw [hself]
  | true =>
    have hsettled : t.settled = ⟨t.seconds + 1, t.nanos - Instant.second⟩ := if_pos hlong
    obtain ⟨hnanos, hlast⟩ := Instant.isProlonged_iff.1 hlong
    have hnanos' := h.nanos
    have hshort : ¬Instant.second ≤ t.nanos - Instant.second := by omega
    have hsecond : t.settled.secondOfDay = t.secondOfDay + 1 := by
      rw [hsettled]
      unfold Instant.secondOfDay Instant.secondsPerDay
      simp only
      omega
    have hlast' : t.secondOfDay % 60 ≠ 59 := by
      unfold Instant.secondOfDay Instant.secondsPerDay
      omega
    -- it is in the same minute
    have hhour : (t.secondOfDay + 1) / 3600 = t.secondOfDay / 3600 := by omega
    have hminute : (t.secondOfDay + 1) / 60 = t.secondOfDay / 60 := by omega
    have hminutely : (t.secondOfDay + 1) % 60 = t.secondOfDay % 60 + 1 := by omega
    have hrest : t.settled.nanos = t.nanos - Instant.second := by rw [hsettled]
    unfold chars timeText
    simp only [hdate, hsecond, hrest, hhour, hminute, hminutely, hnanos, hshort, if_true, if_false,
      Nat.add_zero]

/-! ## What is read at all -/

/-- A number that is read was in front, in digits. -/
theorem number_ok {cs : List Char} (h : (number width).run cs = .ok (n, rest)) :
    ∃ ds, cs = ds ++ rest ∧ n = value ds ∧ ds.length ≤ width ∧ ∀ c ∈ ds, c.isDigit = true := by
  rw [number_eq] at h
  simp only at h
  repeat (split at h; cases h)
  obtain ⟨rfl, rfl⟩ := Prod.mk.inj (Except.ok.inj h)
  have hfront : (cs.take width).takeWhile Char.isDigit <+: cs.take width := List.takeWhile_prefix _
  refine ⟨(cs.take width).takeWhile Char.isDigit, ?_, rfl, ?_, fun c hc => ?_⟩
  · exact (List.prefix_iff_eq_append.1 (hfront.trans (List.take_prefix width cs))).symm
  · exact hfront.length_le.trans (List.length_take_le width cs)
  · exact List.all_eq_true.1 List.all_takeWhile c hc

/-- Digits behind the point stand for less than a second. -/
theorem yields_fraction : Yields fraction (· < Instant.second) := by
  intro cs nanos rest h
  unfold fraction at h
  rw [run_bind run_get] at h
  split at h
  · rw [run_bind run_set] at h
    next cs =>
    obtain ⟨n, rest', hnumber, h⟩ := exists_of_run_bind h
    rw [run_bind run_get, run_bind run_set] at h
    obtain ⟨rfl, -⟩ := Prod.mk.inj (Except.ok.inj h)
    obtain ⟨ds, rfl, rfl, hlen, hds⟩ := number_ok hnumber
    have hcount : (ds ++ rest').length - rest'.length = ds.length := by
      rw [List.length_append]
      omega
    rw [hcount]
    have hmul := Nat.mul_lt_mul_of_pos_right (value_lt hds) (Nat.pow_pos (by decide : 0 < 10) (n := 9 - ds.length))
    rw [← Nat.pow_add, Nat.add_sub_cancel' hlen] at hmul
    exact hmul
  · obtain ⟨rfl, -⟩ := Prod.mk.inj (Except.ok.inj h)
    decide

theorem yields_offset : Yields offset (· % 60 = 0) := by
  unfold offset
  refine .andThen fun hours => .andThen fun _ => .andThen fun minutes => .pure ?_
  exact Nat.mul_mod_left ..

/-- Offsets are whole minutes. -/
theorem yields_zone : Yields zone fun offset => offset % 60 = 0 := by
  have hwhole (n : Nat) (h : n % 60 = 0) : (n : Int) % 60 = 0 ∧ -(n : Int) % 60 = 0 := by omega
  unfold zone
  refine .andThen fun cs => ?_
  split
  · exact .throw _
  · refine .ite (fun _ => .andThen fun _ => .pure rfl) fun _ => .andThen fun _ => ?_
    refine .ite (fun _ => .pure rfl) fun _ => .ite (fun _ => ?_) fun _ => .ite (fun _ => ?_) fun _ => .throw _
    · exact yields_offset.bind fun n hn => .pure (hwhole n hn).1
    · exact yields_offset.bind fun n hn => .pure (hwhole n hn).2

theorem yields_fields : Yields fields fun f => f.nanos < Instant.second ∧ f.offset % 60 = 0 := by
  unfold fields
  refine .andThen fun y => .andThen fun _ => .andThen fun month => .andThen fun _ =>
    .andThen fun day => .andThen fun _ => .andThen fun hour => .andThen fun _ =>
    .andThen fun minute => .andThen fun _ => .andThen fun second => yields_fraction.bind fun nanos hnanos =>
    .andThen fun _ => yields_zone.bind fun offset hoffset => .andThen fun _ => .andThen fun rest => ?_
  exact .ite (fun _ => .andThen fun _ => .pure ⟨hnanos, hoffset⟩) fun _ => .pure ⟨hnanos, hoffset⟩

theorem nameable_of_instant {f : Fields} {t : Instant} (hnanos : f.nanos < Instant.second)
    (hoffset : f.offset % 60 = 0) (h : f.instant = .ok t) : t.Nameable := by
  unfold Fields.instant at h
  obtain ⟨-, h⟩ := of_guard_ok h
  obtain ⟨-, h⟩ := of_guard_ok h
  obtain ⟨-, h⟩ := of_guard_ok h
  obtain ⟨hrange, h⟩ := of_guard_ok h
  obtain rfl := Except.ok.inj h
  refine ⟨by simpa using hrange, ?_⟩
  simp only
  split
  · -- second 60 is read as second 59, and an offset does not change the second of the minute
    next hleap =>
    refine .inr ⟨by omega, ?_⟩
    rw [hleap]
    unfold Instant.ofDate Instant.secondsPerDay
    omega
  · exact .inl hnanos

/-- **Whatever is read is an instant that a text can name.** -/
theorem nameable_of_read {cs : List Char} {t : Instant} (h : read cs = .ok t) : t.Nameable := by
  unfold read at h
  obtain ⟨⟨f, rest⟩, hfields, h⟩ := exists_of_bind_ok h
  obtain ⟨hnanos, hoffset⟩ := yields_fields cs f rest hfields
  exact nameable_of_instant hnanos hoffset h

end Rfc3339

end StackSampler
