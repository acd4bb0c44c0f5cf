import StackSampler.Json.Decode
import StackSampler.Json.Value
import StackSampler.Proofs.Decimal.Digits
import StackSampler.Proofs.Reading

/-!
# Reading what was written: tokens

The leaves of a document: blanks, strings and numbers. A reader is run on the cells of a text in front
of any other cells, and leaves those.

* `string_run`: a quoted string is read back, whatever characters are in it.
* `numeral_run`: the digits of a number of 64 bits are read back, unless more of a number follows.
-/

namespace StackSampler.Json

open Decimal Reading Reader

/-! ## Blanks -/

/-- Blanks between tokens. -/
def Blank (gap : List Char) : Prop := ∀ c ∈ gap, isBlank (some c) = true

theorem blank_nil : Blank [] := by simp [Blank]

/-- **What may follow a value**: nothing, blanks, a comma, or a closing bracket. -/
def Ends (rest : List Cell) : Prop :=
  ∀ c ∈ rest.head?, isBlank c = true ∨ c ∈ [some ',', some ']', some '\x7d']

variable {gap cs text : List Char} {rest : List Cell} {c : Char} {n : Nat}

/-- Whether a value may go on with a character. -/
def isInside (c : Char) : Bool := !isBlank (some c) && !([',', ']', '\x7d'].contains c)

/-- No value goes on with what may follow it. -/
theorem Ends.not_mem (h : Ends rest) {marks : List Char} (hmarks : marks.all isInside = true) :
    (rest.head?.any fun c => c.any (marks.contains ·)) = false := by
  cases rest with
  | nil => rfl
  | cons c rest =>
    cases c with
    | none => rfl
    | some c =>
      rw [List.head?_cons, Option.any_some, Option.any_some, ← Bool.not_eq_true, List.contains_iff_mem]
      intro hc
      have hinside := List.all_eq_true.1 hmarks c hc
      simp only [isInside, Bool.and_eq_true, Bool.not_eq_true'] at hinside
      rcases h (some c) rfl with hb | hb
      · rw [hinside.1] at hb
        cases hb
      · have hbracket : [',', ']', '\x7d'].contains c = true := by simpa using hb
        rw [hinside.2] at hbracket
        cases hbracket

theorem Ends.not_digit (h : Ends rest) : ∀ c ∈ rest.head?, Numeral.isDigit c = false := by
  intro c hc
  rcases h c hc with hb | hb
  · cases c with
    | none => rfl
    | some c =>
      simp only [isBlank, Bool.or_eq_true, beq_iff_eq] at hb
      rcases hb with ((rfl | rfl) | rfl) | rfl <;> rfl
  · simp only [List.mem_cons, List.not_mem_nil, or_false] at hb
    rcases hb with rfl | rfl | rfl <;> rfl

theorem skipBlanks_run (hgap : Blank gap) (hstop : ∀ c ∈ rest.head?, isBlank c = false) :
    skipBlanks.run (gap.map some ++ rest) = .ok ((), rest) := by
  have hdrop : (gap.map some ++ rest).dropWhile isBlank = rest := by
    rw [List.dropWhile_append_of_pos]
    · cases rest with
      | nil => rfl
      | cons c rest =>
        exact List.dropWhile_cons_of_neg (by rw [hstop c rfl]; exact Bool.false_ne_true)
    · intro c hc
      obtain ⟨c, hmem, rfl⟩ := List.mem_map.1 hc
      exact hgap c hmem
  unfold skipBlanks
  rw [run_modify, hdrop]

/-- The next token is looked at behind blanks. -/
theorem peek_run (atEnd : TextFault) (hgap : Blank gap) (hc : isBlank (some c) = false) :
    (peek atEnd).run (gap.map some ++ some c :: rest) = .ok (some c, some c :: rest) := by
  unfold peek
  rw [run_bind (skipBlanks_run hgap (by simpa using hc)), run_bind run_get]
  exact run_pure

theorem peek_here (atEnd : TextFault) {c : Char} (hc : isBlank (some c) = false) :
    (peek atEnd).run (some c :: rest) = .ok (some c, some c :: rest) :=
  peek_run atEnd blank_nil hc

theorem eat_run (c : Cell) : eat.run (c :: rest) = .ok ((), rest) := rfl

theorem literal_run (cs : List Char) : (literal cs).run (cs.map some ++ rest) = .ok ((), rest) := by
  induction cs with
  | nil => exact run_pure
  | cons c cs ih =>
    unfold literal
    rw [List.map_cons, List.cons_append, run_bind run_get]
    simp only [if_true]
    rw [run_bind run_set, ih]

/-! ## Strings -/

/-- How a character is written inside quotes. -/
theorem escape_cases (c : Char) :
    (∃ l, escape c = ['\\', l] ∧ l ≠ 'u' ∧ letterEscape (some l) = some c) ∨
      (escape c = unicodeEscape c ∧ c.toNat < 32) ∨
      (escape c = [c] ∧ c ≠ '"' ∧ c ≠ '\\' ∧ ¬c.toNat < 32) := by
  have hc := Char.ofNat_toNat c
  unfold escape
  split
  case isTrue h => exact .inl ⟨'"', rfl, by decide, by rw [h]; rfl⟩
  rename_i hquote
  split
  case isTrue h => exact .inl ⟨'\\', rfl, by decide, by rw [h]; rfl⟩
  rename_i hback
  split
  case isTrue h => exact .inl ⟨'n', rfl, by decide, by rw [h]; rfl⟩
  split
  case isTrue h => exact .inl ⟨'r', rfl, by decide, by rw [h]; rfl⟩
  split
  case isTrue h => exact .inl ⟨'t', rfl, by decide, by rw [h]; rfl⟩
  split
  case isTrue h => exact .inl ⟨'b', rfl, by decide, by rw [← hc, h]; rfl⟩
  split
  case isTrue h => exact .inl ⟨'f', rfl, by decide, by rw [← hc, h]; rfl⟩
  split
  case isTrue h => exact .inr (.inl ⟨rfl, h⟩)
  case isFalse h => exact .inr (.inr ⟨rfl, hquote, hback, h⟩)

/-- Four digits name the character again. -/
theorem hexFour_unicodeEscape (h : n < 32) :
    hexFour (some '0') (some '0') (some (Nat.digitChar (n / 16))) (some (Nat.digitChar (n % 16))) =
      some n := by
  have hall : ∀ n : Fin 32, hexFour (some '0') (some '0') (some (Nat.digitChar (n.val / 16)))
      (some (Nat.digitChar (n.val % 16))) = some n.val := by decide
  exact hall ⟨n, h⟩

/-- **A written character is read back.** -/
theorem stringBody_escape (c : Char) (rest : List Cell) :
    stringBody none ((escape c).map some ++ rest) =
      (stringBody none rest).map fun (cs, rest) => (some c :: cs, rest) := by
  rcases escape_cases c with ⟨l, hescape, hu, hletter⟩ | ⟨hescape, hlt⟩ | ⟨hescape, hquote, hback, hlt⟩
  · have hu' : some l ≠ some 'u' := fun h => hu (Option.some.inj h)
    -- a letter other than `u` is no start of four digits
    rw [hescape]
    show stringBody none (some '\\' :: some l :: rest) = _
    rw [stringBody, hletter]
    · exact fun _ _ _ _ _ h _ => hu' h
    · exact hu'
  · -- control characters are far below the surrogates, so the digits stand alone
    have hhex := hexFour_unicodeEscape hlt
    have hlow : isLowSurrogate c.toNat = false := by
      simp only [isLowSurrogate, Bool.and_eq_false_iff, decide_eq_false_iff_not]
      omega
    have hhigh : isHighSurrogate c.toNat = false := by
      simp only [isHighSurrogate, Bool.and_eq_false_iff, decide_eq_false_iff_not]
      omega
    rw [hescape]
    show stringBody none (some '\\' :: some 'u' :: some '0' :: some '0' ::
      some (Nat.digitChar (c.toNat / 16)) :: some (Nat.digitChar (c.toNat % 16)) :: rest) = _
    rw [stringBody.eq_def]
    simp only [hhex, hlow, hhigh, Char.ofNat_toNat, Bool.false_eq_true, if_false]
  · have hback' : some c ≠ some '\\' := fun h => hback (Option.some.inj h)
    have hquote' : some c ≠ some '"' := fun h => hquote (Option.some.inj h)
    have hcontrol : isControl (some c) = false := decide_eq_false hlt
    rw [hescape]
    show stringBody none (some c :: rest) = _
    rw [stringBody, hcontrol]
    · rfl
    · exact fun h _ => hback' h
    · exact fun _ _ _ _ _ h _ => hback' h
    · exact fun _ h _ => hback' h
    · exact fun _ _ h _ => hback' h
    · exact hquote'

theorem stringBody_text (text : List Char) (rest : List Cell) :
    stringBody none ((text.flatMap escape).map some ++ some '"' :: rest) = .ok (text.map some, rest) := by
  induction text with
  | nil => rfl
  | cons c text ih =>
    rw [List.flatMap_cons, List.map_append, List.append_assoc, stringBody_escape, ih]
    rfl

/-- **A string is read back** behind its opening quote. -/
theorem string_run (s : String) :
    string.run ((s.toList.flatMap escape).map some ++ some '"' :: rest) = .ok (s, rest) := by
  have hall : (s.toList.map some).all Option.isSome = true := by simp
  have hsome : (s.toList.map some).filterMap id = s.toList := by simp
  unfold string
  rw [run_bind run_get, stringBody_text]
  simp only [hall, if_true]
  rw [run_bind run_set, hsome, String.ofList_toList]
  exact run_pure

theorem quoted_cells (s : String) (rest : List Cell) :
    (quoted s).map some ++ rest =
      some '"' :: ((s.toList.flatMap escape).map some ++ some '"' :: rest) := by
  unfold quoted
  simp only [List.map_cons, List.map_append, List.map_nil, List.cons_append, List.append_assoc,
    List.nil_append]

/-! ## Numbers -/

theorem absorb_digits {s : Nat} {ds : List Char} (h : Nat.ofDigitChars 10 ds s ≤ largestWord) :
    Numeral.absorb s ds = (Nat.ofDigitChars 10 ds s, ds.length) := by
  induction ds generalizing s with
  | nil => rfl
  | cons d ds ih =>
    rw [Nat.ofDigitChars_cons] at h
    have hstep : 10 * s + (d.toNat - '0'.toNat) = s * 10 + (d.toNat - 48) := by
      rw [Nat.mul_comm]
      rfl
    rw [hstep] at h
    -- more digits only make the number larger
    have hle : s * 10 + (d.toNat - 48) ≤ largestWord := by
      have hgrow := Nat.le_mul_of_pos_left (s * 10 + (d.toNat - 48))
        (Nat.pow_pos (by decide : 0 < 10) (n := ds.length))
      rw [Nat.ofDigitChars_eq_ofDigitChars_zero] at h
      omega
    unfold Numeral.absorb
    rw [Nat.ofDigitChars_cons, hstep]
    simp only [Nat.not_lt.2 hle, if_false, ih h]
    rfl

theorem digitRun_run {ds : List Char} (hds : ∀ c ∈ ds, c.isDigit = true) (hrest : Ends rest) :
    digitRun.run (ds.map some ++ rest) = .ok (ds, rest) := by
  have hmem : ∀ c ∈ ds.map some, Numeral.isDigit c = true := by
    intro cell hcell
    obtain ⟨c, hc, rfl⟩ := List.mem_map.1 hcell
    exact hds c hc
  have hstop := hrest.not_digit
  have hnone : rest.takeWhile Numeral.isDigit = [] ∧ rest.dropWhile Numeral.isDigit = rest := by
    cases rest with
    | nil => exact ⟨rfl, rfl⟩
    | cons c rest =>
      have hc := hstop c rfl
      exact ⟨by simp [hc], by simp [hc]⟩
  have hsome : (ds.map some).filterMap id = ds := by simp
  unfold digitRun
  rw [run_bind run_get, run_bind run_set, List.takeWhile_append_of_pos hmem,
    List.dropWhile_append_of_pos hmem, hnone.1, hnone.2, List.append_nil, hsome]
  exact run_pure

theorem integerDigits_run (hrest : Ends rest) (atEnd : TextFault) :
    (integerDigits atEnd).run ((digits n).map some ++ rest) = .ok (digits n, rest) := by
  have hne : (digits n).isEmpty = false := by simpa using digits_ne_nil n
  have hzero : ¬((digits n).head? = some '0' ∧ 1 < (digits n).length) := by
    rintro ⟨hhead, hlen⟩
    rw [digits_head n hhead] at hlen
    exact Nat.lt_irrefl 1 hlen
  have hdigits : (digitsOrFault atEnd).run ((digits n).map some ++ rest) = .ok (digits n, rest) := by
    unfold digitsOrFault
    rw [run_bind (digitRun_run (fun _ => isDigit_of_mem_digits) hrest)]
    simp only [hne, Bool.false_eq_true, if_false]
    exact run_pure
  unfold integerDigits
  rw [run_bind hdigits]
  simp only [hzero, if_false]
  exact run_pure

theorem isNext_run (hrest : Ends rest) {marks : List Char} (hmarks : marks.all isInside = true) :
    (isNext marks).run rest = .ok (false, rest) := by
  unfold isNext
  rw [run_bind run_get, hrest.not_mem hmarks]
  exact run_pure

/-- **A number of 64 bits is read back.** -/
theorem numeral_run (h : n ≤ largestWord) (hrest : Ends rest) :
    (numeral false).run ((digits n).map some ++ rest) = .ok (.natural n, rest) := by
  have hvalue : Nat.ofDigitChars 10 (digits n) 0 = n := value_digits n
  have habsorb : Numeral.absorb 0 (digits n) = (n, (digits n).length) := by
    rw [absorb_digits (by rw [hvalue]; exact h), hvalue]
  unfold numeral
  rw [run_bind (integerDigits_run hrest .endInValue)]
  simp only [habsorb]
  rw [run_bind (isNext_run hrest rfl)]
  simp only [Bool.false_eq_true, if_false]
  rw [run_bind (isNext_run hrest rfl)]
  simp only [Nat.lt_irrefl, Bool.false_eq_true, or_self, if_false]
  exact run_pure

end StackSampler.Json
