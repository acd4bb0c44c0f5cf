import StackSampler.Proofs.Sampling.Tick

/-!
# The history of a hand trigger

A trigger that is fired by hand keeps a number of fields, and all of them follow from the calls that were
made and how they were answered. Which tick is due is decided by the latest install that went well or the
latest disarm, whichever came later; masks have no part in it.

* `HandTrigger.call`: a call on a trigger, and `HandHistory.answer`: what a history says it answers.
* `HandTrigger.Follows t past`: the fields of `t` are what its history makes of them.
* `HandTrigger.Follows.answer`, `HandTrigger.Follows.call`: one more call.
-/

namespace StackSampler

variable {τ : Type}

/-- A call on a hand trigger. -/
inductive HandCall (τ : Type) where
  | install (interval : Span) (tick : τ)
  | disarm
  | refuse (on : Bool)
  | block
  | unblock
  | fire
  | fireMany (n : Nat)

/-- What a call gives back; a fire also comes with the ticks that it ran. -/
inductive HandAnswer (τ : Type) where
  | done
  | installed (refusal : Option TriggerError)
  | fired (ran : Bool) (ticks : List τ)
  | firedMany (ran : Nat) (ticks : List τ)
  deriving DecidableEq

/-- The ticks that a call ran. -/
def HandAnswer.ticks : HandAnswer τ → List τ
  | .fired _ ticks => ticks
  | .firedMany _ ticks => ticks
  | _ => []

/-- Whether a call takes a mask or drops one. -/
def HandCall.isMask : HandCall τ → Bool
  | .block => true
  | .unblock => true
  | _ => false

def HandCall.isDisarm : HandCall τ → Bool
  | .disarm => true
  | _ => false

namespace HandTrigger

/-- Fires `n` times: how many of the fires ran a tick, and the ticks. -/
def fireMany (t : HandTrigger τ) : Nat → (Nat × List τ) × HandTrigger τ
  | 0 => ((0, []), t)
  | n + 1 =>
    let first := t.fire
    let rest := first.2.fireMany n
    ((rest.1.1 + first.1.isSome.toNat, first.1.toList ++ rest.1.2), rest.2)

/-- One call, and its answer. -/
def call (t : HandTrigger τ) : HandCall τ → HandAnswer τ × HandTrigger τ
  | .install interval tick =>
    match t.install interval tick with
    | .ok t => (.installed none, t)
    | .error e => (.installed (some e), t)
  | .disarm => (.done, t.disarm)
  | .refuse on => (.done, t.refuse on)
  | .block => (.done, t.block)
  | .unblock => (.done, t.unblock)
  | .fire => (.fired t.fire.1.isSome t.fire.1.toList, t.fire.2)
  | .fireMany n => (.firedMany (t.fireMany n).1.1 (t.fireMany n).1.2, (t.fireMany n).2)

end HandTrigger

/-! ## Histories -/

/-- The calls on a trigger with their answers, the oldest first. -/
abbrev HandHistory (τ : Type) := List (HandCall τ × HandAnswer τ)

namespace HandHistory

/-- What a call decides of the ticks from then on: an install that went well brings one, a disarm none. -/
def decision : HandCall τ × HandAnswer τ → Option (Option (Span × τ))
  | (.install interval tick, .installed none) => some (some (interval, tick))
  | (.disarm, _) => some none
  | _ => none

/-- The interval and the tick of the latest install that went well, unless a disarm came later. -/
def latest (past : HandHistory τ) : Option (Span × τ) := (past.filterMap decision).getLast?.join

/-- The tick that a fire has to run. -/
def due (past : HandHistory τ) : Option τ :=
  (latest past).bind fun (interval, tick) => if interval.isZero then none else some tick

/-- Whether installs are refused after a call, if they were before. -/
def refusal (before : Bool) : HandCall τ → Bool
  | .refuse on => on
  | _ => before

/-- Whether installs are refused. -/
def refusing (past : HandHistory τ) : Bool := past.foldl (fun before e => refusal before e.1) false

/-- The masks that are held after a call: one is dropped only if there is one. -/
def held (before : Nat) : HandCall τ → Nat
  | .block => before + 1
  | .unblock => before - 1
  | _ => before

/-- The masks that are held. -/
def depth (past : HandHistory τ) : Nat := past.foldl (fun before e => held before e.1) 0

/-- The ticks that were run, in order. -/
def ticks (past : HandHistory τ) : List τ := past.flatMap fun e => e.2.ticks

/-- The places of the disarms that were made under a mask. -/
def maskedDisarms (past : HandHistory τ) : List Nat :=
  (List.range past.length).filter fun i =>
    (past[i]?.any fun e => e.1.isDisarm) && decide (0 < depth (past.take i))

/-- The history without the calls that take and drop masks. -/
def unmasked (past : HandHistory τ) : HandHistory τ := past.filter fun e => !e.1.isMask

/-- What a trigger with this history answers to a call. -/
def answer (past : HandHistory τ) : HandCall τ → HandAnswer τ
  | .install _ _ => .installed (if refusing past then some .refused else none)
  | .fire =>
    match due past with
    | some tick => .fired true [tick]
    | none => .fired false []
  | .fireMany n =>
    match due past with
    | some tick => .firedMany n (List.replicate n tick)
    | none => .firedMany 0 []
  | _ => .done

variable (past : HandHistory τ) (c : HandCall τ) (a : HandAnswer τ)

theorem latest_concat :
    latest (past ++ [(c, a)]) = (decision (c, a)).getD (latest past) := by
  rw [latest, latest, List.filterMap_append]
  cases hdecision : decision (c, a) with
  | none => simp [hdecision]
  | some d => simp [hdecision]

theorem refusing_concat : refusing (past ++ [(c, a)]) = refusal (refusing past) c := by
  simp [refusing]

theorem depth_concat : depth (past ++ [(c, a)]) = held (depth past) c := by
  simp [depth]

theorem latest_unmasked : latest (unmasked past) = latest past := by
  have hdecision : ∀ e : HandCall τ × HandAnswer τ,
      (if (!e.1.isMask) = true then decision e else none) = decision e := by
    rintro ⟨c, a⟩
    cases c <;> rfl
  simp only [latest, unmasked, List.filterMap_filter, hdecision]

theorem refusing_unmasked : refusing (unmasked past) = refusing past := by
  have hrefusal : ∀ (before : Bool) (e : HandCall τ × HandAnswer τ),
      (if (!e.1.isMask) = true then refusal before e.1 else before) = refusal before e.1 := by
    rintro before ⟨c, a⟩
    cases c <;> rfl
  simp only [refusing, unmasked, List.foldl_filter, hrefusal]

/-- **Masks decide no answer.** -/
theorem answer_unmasked : answer (unmasked past) c = answer past c := by
  have hdue : due (unmasked past) = due past := by rw [due, due, latest_unmasked]
  have hrefusing := refusing_unmasked past
  cases c <;> simp only [answer, hdue, hrefusing]

theorem ticks_concat : ticks (past ++ [(c, a)]) = ticks past ++ a.ticks := by
  simp [ticks]

theorem maskedDisarms_concat :
    maskedDisarms (past ++ [(c, a)]) =
      maskedDisarms past ++ if c.isDisarm && decide (0 < depth past) then [past.length] else [] := by
  -- what comes later does not change which masks were held at an earlier place
  have hbefore : ∀ i ∈ List.range past.length,
      (((past ++ [(c, a)])[i]?.any fun e => e.1.isDisarm) &&
          decide (0 < depth ((past ++ [(c, a)]).take i))) =
        ((past[i]?.any fun e => e.1.isDisarm) && decide (0 < depth (past.take i))) := by
    intro i hi
    have hlt := List.mem_range.1 hi
    rw [List.getElem?_append_left hlt, List.take_append_of_le_length (Nat.le_of_lt hlt)]
  rw [maskedDisarms, List.length_append, List.length_singleton, List.range_succ, List.filter_append,
    List.filter_congr hbefore, List.filter_cons, List.filter_nil, List.getElem?_concat_length,
    List.take_left, Option.any_some, maskedDisarms]

end HandHistory

open HandHistory

namespace HandTrigger

variable {t : HandTrigger τ} {past : HandHistory τ}

/-- **The fields of a trigger are what its history makes of them.** -/
structure Follows (t : HandTrigger τ) (past : HandHistory τ) : Prop where
  armed : t.armed = (latest past).isSome
  /-- A trigger that is armed has a tick and an interval. -/
  tick : ∀ interval tick, latest past = some (interval, tick) →
    t.interval = some interval ∧ t.tick = some tick
  refusing : t.refusing = HandHistory.refusing past
  fired : t.fired = (ticks past).length
  masks : t.maskDepth = depth past
  maskedDisarms : t.maskedDisarms = (HandHistory.maskedDisarms past).length

theorem follows_nil : ({} : HandTrigger τ).Follows [] := by
  refine ⟨rfl, ?_, rfl, rfl, rfl, rfl⟩
  intro interval tick hlatest
  cases hlatest

/-- A trigger is live where a tick is due, and that is its tick. -/
theorem Follows.due_cases (h : t.Follows past) :
    (∃ tick, due past = some tick ∧ t.live = true ∧ t.tick = some tick) ∨
      (due past = none ∧ t.live = false) := by
  have harmed := h.armed
  cases hlatest : latest past with
  | none =>
    rw [hlatest] at harmed
    exact .inr ⟨by rw [due, hlatest, Option.bind_none], by simp [live, harmed]⟩
  | some installed =>
    obtain ⟨interval, tick⟩ := installed
    rw [hlatest] at harmed
    obtain ⟨hinterval, htick⟩ := h.tick interval tick hlatest
    have hdue : due past = if interval.isZero then none else some tick := by
      rw [due, hlatest, Option.bind_some]
    have hlive : t.live = !interval.isZero := by simp [live, harmed, hinterval]
    cases hzero : interval.isZero with
    | false =>
      rw [hzero] at hdue hlive
      exact .inl ⟨tick, hdue, hlive, htick⟩
    | true =>
      rw [hzero] at hdue hlive
      exact .inr ⟨hdue, hlive⟩

theorem fireMany_of_live (hlive : t.live = true) {tick : τ} (htick : t.tick = some tick) (n : Nat) :
    t.fireMany n = ((n, List.replicate n tick), { t with fired := t.fired + n }) := by
  induction n generalizing t with
  | zero => rfl
  | succ n ih =>
    have hfirst : t.fire = (some tick, { t with fired := t.fired + 1 }) := by
      rw [fire_eq, hlive, ← htick]
      rfl
    have hrest := ih (t := { t with fired := t.fired + 1 }) hlive htick
    rw [fireMany, hfirst, hrest, List.replicate_succ, Nat.add_assoc, Nat.add_comm 1 n]
    rfl

theorem fireMany_of_not_live (hlive : t.live = false) (n : Nat) : t.fireMany n = ((0, []), t) := by
  induction n with
  | zero => rfl
  | succ n ih =>
    have hfirst : t.fire = (none, t) := by
      rw [fire_eq, hlive]
      rfl
    rw [fireMany, hfirst, ih]
    rfl

/-- The history decides the answer to a call. -/
theorem Follows.answer (h : t.Follows past) (c : HandCall τ) :
    (t.call c).1 = HandHistory.answer past c := by
  cases c with
  | install interval tick =>
    simp only [call, install, HandHistory.answer, ← h.refusing]
    cases t.refusing with
    | true => rfl
    | false => rfl
  | fire =>
    simp only [call, HandHistory.answer]
    rcases h.due_cases with ⟨tick, hdue, hlive, htick⟩ | ⟨hdue, hlive⟩
    · simp [fire_eq, hdue, hlive, htick]
    · simp [fire_eq, hdue, hlive]
  | fireMany n =>
    simp only [call, HandHistory.answer]
    rcases h.due_cases with ⟨tick, hdue, hlive, htick⟩ | ⟨hdue, hlive⟩
    · simp [fireMany_of_live hlive htick, hdue]
    · simp [fireMany_of_not_live hlive, hdue]
  | disarm => rfl
  | refuse on => rfl
  | block => rfl
  | unblock => rfl

/-- A call that decides nothing: ticks may have run, and a mask may have been taken or dropped. -/
theorem Follows.idle (h : t.Follows past) (c : HandCall τ) (a : HandAnswer τ)
    (hdecision : decision (c, a) = none) (hrefusal : ∀ b, refusal b c = b)
    (hdisarm : c.isDisarm = false) :
    { t with fired := t.fired + a.ticks.length, maskDepth := held t.maskDepth c }.Follows
      (past ++ [(c, a)]) := by
  have hlatest : latest (past ++ [(c, a)]) = latest past := by
    rw [latest_concat, hdecision, Option.getD_none]
  refine ⟨?_, ?_, ?_, ?_, ?_, ?_⟩
  · rw [hlatest]
    exact h.armed
  · rw [hlatest]
    exact h.tick
  · rw [refusing_concat, hrefusal]
    exact h.refusing
  · rw [ticks_concat, List.length_append, ← h.fired]
  · rw [depth_concat, ← h.masks]
  · rw [maskedDisarms_concat, hdisarm, Bool.false_and, if_neg Bool.false_ne_true, List.append_nil]
    exact h.maskedDisarms

/-- **One more call** leaves what the longer history makes of a trigger. -/
theorem Follows.call (h : t.Follows past) (c : HandCall τ) :
    (t.call c).2.Follows (past ++ [(c, (t.call c).1)]) := by
  cases c with
  | install interval tick =>
    simp only [HandTrigger.call, install]
    cases hrefusing : t.refusing with
    | true => exact h.idle (.install interval tick) (.installed (some .refused)) rfl (fun _ => rfl) rfl
    | false =>
      refine ⟨?_, ?_, ?_, ?_, ?_, ?_⟩
      · simp [latest_concat, decision]
      · intro interval' tick' hlatest
        rw [latest_concat] at hlatest
        obtain ⟨rfl, rfl⟩ : interval = interval' ∧ tick = tick' := by
          simpa [decision] using hlatest
        exact ⟨rfl, rfl⟩
      · simpa [refusing_concat, refusal, hrefusing] using h.refusing
      · simpa [ticks_concat, HandAnswer.ticks] using h.fired
      · simpa [depth_concat, held] using h.masks
      · simpa [maskedDisarms_concat, HandCall.isDisarm] using h.maskedDisarms
  | disarm =>
    refine ⟨?_, ?_, ?_, ?_, ?_, ?_⟩
    · simp [HandTrigger.call, disarm, latest_concat, decision]
    · simp [HandTrigger.call, latest_concat, decision]
    · simpa [HandTrigger.call, disarm, refusing_concat, refusal] using h.refusing
    · simpa [HandTrigger.call, disarm, ticks_concat, HandAnswer.ticks] using h.fired
    · simpa [HandTrigger.call, disarm, depth_concat, held] using h.masks
    · simp only [HandTrigger.call, disarm, maskedDisarms_concat, HandCall.isDisarm, Bool.true_and,
        decide_eq_true_iff, ← h.masks, List.length_append, ← h.maskedDisarms]
      by_cases hmasked : 0 < t.maskDepth
      · simp [hmasked]
      · simp [hmasked]
  | refuse on =>
    refine ⟨?_, ?_, ?_, ?_, ?_, ?_⟩
    · simpa [HandTrigger.call, refuse, latest_concat, decision] using h.armed
    · simpa [HandTrigger.call, refuse, latest_concat, decision] using h.tick
    · simp [HandTrigger.call, refuse, refusing_concat, refusal]
    · simpa [HandTrigger.call, refuse, ticks_concat, HandAnswer.ticks] using h.fired
    · simpa [HandTrigger.call, refuse, depth_concat, held] using h.masks
    · simpa [HandTrigger.call, refuse, maskedDisarms_concat, HandCall.isDisarm] using h.maskedDisarms
  | block => exact h.idle .block .done rfl (fun _ => rfl) rfl
  | unblock => exact h.idle .unblock .done rfl (fun _ => rfl) rfl
  | fire =>
    have hnext : (t.call .fire).2 = { t with fired := t.fired + (t.call .fire).1.ticks.length } := by
      simp only [HandTrigger.call, HandAnswer.ticks]
      rcases h.due_cases with ⟨tick, -, hlive, htick⟩ | ⟨-, hlive⟩
      · simp [fire_eq, hlive, htick]
      · simp [fire_eq, hlive]
    rw [hnext]
    exact h.idle .fire (t.call .fire).1 rfl (fun _ => rfl) rfl
  | fireMany n =>
    have hnext : (t.call (.fireMany n)).2 =
        { t with fired := t.fired + (t.call (.fireMany n)).1.ticks.length } := by
      simp only [HandTrigger.call, HandAnswer.ticks]
      rcases h.due_cases with ⟨tick, -, hlive, htick⟩ | ⟨-, hlive⟩
      · simp [fireMany_of_live hlive htick]
      · simp [fireMany_of_not_live hlive]
    rw [hnext]
    exact h.idle (.fireMany n) (t.call (.fireMany n)).1 rfl (fun _ => rfl) rfl

end HandTrigger

end StackSampler
