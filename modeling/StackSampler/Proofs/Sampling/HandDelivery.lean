import StackSampler.Proofs.Run
import StackSampler.Proofs.Sampling.HandHistory

/-!
# What hand triggers deliver

Over a run of calls a trigger answers each call as the history before it says. Handles do not matter: the
clones of a handle are handles on one trigger, so its history is what was asked through any of them.

* `HandTrigger.Follows.exchanged`, `Follows.answers` and `Follows.unmasked`: a run of calls on a trigger.
* `HandTriggers.call`: a call on any of the handles on any of the triggers.
* `HandTriggers.delivery`: the law of delivery, over any calls on any handles.
-/

namespace StackSampler

open HandHistory

variable {τ : Type}

namespace HandTrigger

variable {t : HandTrigger τ} {past : HandHistory τ}

/-! ## Runs -/

/-- The history that calls make. -/
def history (t : HandTrigger τ) (calls : List (HandCall τ)) : HandHistory τ :=
  calls.zip (exchange call t calls).1

theorem history_cons (t : HandTrigger τ) (c : HandCall τ) (calls : List (HandCall τ)) :
    t.history (c :: calls) = (c, (t.call c).1) :: (t.call c).2.history calls := rfl

theorem Follows.exchanged (h : t.Follows past) (calls : List (HandCall τ)) :
    (exchange HandTrigger.call t calls).2.Follows (past ++ t.history calls) := by
  induction calls generalizing t past with
  | nil => simpa [history, exchange] using h
  | cons c calls ih =>
    have hlast := ih (h.call c)
    rw [List.append_assoc] at hlast
    exact hlast

/-- Every answer of a run is the one that the history before it decides. -/
theorem Follows.answers (h : t.Follows past) (calls : List (HandCall τ)) {before after : HandHistory τ}
    {c : HandCall τ} {a : HandAnswer τ} (heq : t.history calls = before ++ (c, a) :: after) :
    a = HandHistory.answer (past ++ before) c := by
  induction calls generalizing t past before with
  | nil => simp [history, exchange] at heq
  | cons first calls ih =>
    rw [history_cons] at heq
    cases before with
    | nil =>
      obtain ⟨he, -⟩ := List.cons.inj heq
      obtain ⟨rfl, rfl⟩ := Prod.mk.inj he
      rw [List.append_nil]
      exact h.answer first
    | cons e before =>
      obtain ⟨rfl, hrest⟩ := List.cons.inj heq
      have hanswer := ih (h.call first) hrest
      rw [List.append_assoc] at hanswer
      exact hanswer

/-- **Masks do not show**: without the calls that take and drop them, all others are answered alike. -/
theorem Follows.unmasked {u : HandTrigger τ} (h : t.Follows past)
    (hu : u.Follows (HandHistory.unmasked past)) (calls : List (HandCall τ)) :
    u.history (calls.filter fun c => !c.isMask) = HandHistory.unmasked (t.history calls) := by
  induction calls generalizing t u past with
  | nil => rfl
  | cons c calls ih =>
    have hnext := h.call c
    cases hmask : c.isMask with
    | true =>
      -- the other trigger is not called, and its history is the longer one without masks, too
      have hsame : HandHistory.unmasked (past ++ [(c, (t.call c).1)]) = HandHistory.unmasked past := by
        simp [HandHistory.unmasked, hmask]
      rw [← hsame] at hu
      have hrest := ih hnext hu
      rw [history_cons, HandHistory.unmasked, List.filter_cons_of_neg (by simp [hmask]),
        List.filter_cons_of_neg (by simp [hmask])]
      exact hrest
    | false =>
      have hanswer : (u.call c).1 = (t.call c).1 := by
        rw [hu.answer, h.answer, answer_unmasked]
      have hu' := hu.call c
      have hlonger : HandHistory.unmasked (past ++ [(c, (t.call c).1)]) =
          HandHistory.unmasked past ++ [(c, (u.call c).1)] := by
        simp [HandHistory.unmasked, hmask, hanswer]
      rw [← hlonger] at hu'
      have hrest := ih hnext hu'
      rw [history_cons, HandHistory.unmasked, List.filter_cons_of_pos (by simp [hmask]),
        List.filter_cons_of_pos (by simp [hmask]), history_cons, hrest, hanswer]
      rfl

end HandTrigger

/-! ## Handles -/

/-- A call on a handle: a new trigger has one, and a clone of it holds the same trigger. -/
inductive HandleCall (τ : Type) where
  | new
  | clone (h : Nat)
  | through (h : Nat) (c : HandCall τ)

/-- Triggers, and the handles on them in the order in which they were made. -/
structure HandTriggers (τ : Type) where
  triggers : List (HandTrigger τ) := []
  /-- The place of the trigger that each handle holds. -/
  handles : List Nat := []

namespace HandTriggers

/-- A call on the trigger at `k`, and its answer. -/
def callAt (d : HandTriggers τ) (k : Nat) (c : HandCall τ) :
    Option (Nat × HandCall τ × HandAnswer τ) × HandTriggers τ :=
  match d.triggers[k]? with
  | none => (none, d)
  | some t => (some (k, c, (t.call c).1), { d with triggers := d.triggers.set k (t.call c).2 })

/-- One call, and what it made some trigger answer. -/
def call (d : HandTriggers τ) : HandleCall τ → Option (Nat × HandCall τ × HandAnswer τ) × HandTriggers τ
  | .new =>
    (none, { triggers := d.triggers ++ [{}], handles := d.handles ++ [d.triggers.length] })
  | .clone h => (none, { d with handles := d.handles ++ d.handles[h]?.toList })
  | .through h c =>
    match d.handles[h]? with
    | none => (none, d)
    | some k => d.callAt k c

/-- What the trigger at `k` was asked through any of its handles, and answered. -/
def historyOf (k : Nat) (answers : List (Option (Nat × HandCall τ × HandAnswer τ))) : HandHistory τ :=
  answers.filterMap fun answer => answer.bind fun (j, e) => if j = k then some e else none

/-- The trigger at `k`; before it is made it counts as new. -/
def trigger (d : HandTriggers τ) (k : Nat) : HandTrigger τ := d.triggers[k]?.getD {}

theorem trigger_new (d : HandTriggers τ) (k : Nat) : (d.call .new).2.trigger k = d.trigger k := by
  have hnew : ((d.call .new).2.triggers)[k]? = (d.triggers ++ [({} : HandTrigger τ)])[k]? := rfl
  rw [trigger, trigger, hnew]
  rcases Nat.lt_trichotomy k d.triggers.length with hlt | rfl | hgt
  · rw [List.getElem?_append_left hlt]
  · rw [List.getElem?_concat_length, List.getElem?_eq_none (Nat.le_refl _), Option.getD_none,
      Option.getD_some]
  · rw [List.getElem?_eq_none (Nat.le_of_lt hgt), List.getElem?_eq_none]
    rw [List.length_append, List.length_singleton]
    omega

/-- A call on the trigger at `j` leaves the one at `k` alone, or is a call on it. -/
theorem trigger_callAt (d : HandTriggers τ) (j k : Nat) (c : HandCall τ) :
    (historyOf k [(d.callAt j c).1] = [] ∧ (d.callAt j c).2.trigger k = d.trigger k) ∨
      (historyOf k [(d.callAt j c).1] = [(c, ((d.trigger k).call c).1)] ∧
        (d.callAt j c).2.trigger k = ((d.trigger k).call c).2) := by
  rw [callAt]
  cases htrigger : d.triggers[j]? with
  | none => exact .inl ⟨rfl, rfl⟩
  | some t =>
    have hlt : j < d.triggers.length := (List.getElem?_eq_some_iff.1 htrigger).1
    by_cases hjk : j = k
    · subst hjk
      have ht : d.trigger j = t := by rw [trigger, htrigger, Option.getD_some]
      rw [ht]
      refine .inr ⟨?_, ?_⟩
      · simp [historyOf]
      · simp [trigger, hlt]
    · refine .inl ⟨?_, ?_⟩
      · simp [historyOf, hjk]
      · simp [trigger, hjk]

/-- **A call on a handle** leaves a trigger alone, or is a call on it. -/
theorem trigger_call (d : HandTriggers τ) (c : HandleCall τ) (k : Nat) :
    (historyOf k [(d.call c).1] = [] ∧ (d.call c).2.trigger k = d.trigger k) ∨
      ∃ made, historyOf k [(d.call c).1] = [(made, ((d.trigger k).call made).1)] ∧
        (d.call c).2.trigger k = ((d.trigger k).call made).2 := by
  cases c with
  | new => exact .inl ⟨rfl, d.trigger_new k⟩
  | clone h => exact .inl ⟨rfl, rfl⟩
  | through h made =>
    rw [call]
    cases d.handles[h]? with
    | none => exact .inl ⟨rfl, rfl⟩
    | some j =>
      rcases d.trigger_callAt j k made with hsame | hcalled
      · exact .inl hsame
      · exact .inr ⟨made, hcalled⟩

/-- **Handles do not matter**: over a run a trigger is called like one that has no handles. -/
theorem trigger_exchanged (d : HandTriggers τ) (calls : List (HandleCall τ)) (k : Nat) :
    ∃ made, historyOf k (exchange call d calls).1 = (d.trigger k).history made ∧
      (exchange call d calls).2.trigger k = (exchange HandTrigger.call (d.trigger k) made).2 := by
  induction calls generalizing d with
  | nil => exact ⟨[], rfl, rfl⟩
  | cons c calls ih =>
    obtain ⟨made, hhistory, hlast⟩ := ih (d.call c).2
    have hsplit : historyOf k (exchange call d (c :: calls)).1 =
        historyOf k [(d.call c).1] ++ historyOf k (exchange call (d.call c).2 calls).1 := by
      rw [exchange, historyOf, historyOf, historyOf, ← List.filterMap_append]
      rfl
    rw [hsplit, hhistory, exchange, hlast]
    rcases trigger_call d c k with ⟨hnone, hsame⟩ | ⟨first, hfirst, hnext⟩
    · rw [hnone, hsame]
      exact ⟨made, rfl, rfl⟩
    · rw [hfirst, hnext]
      exact ⟨first :: made, rfl, rfl⟩

/-- **What a trigger delivers** that stands as `t` after `past`. -/
structure Delivers (past : HandHistory τ) (t : HandTrigger τ) : Prop where
  /-- Every call was answered as the history before it says: what is due was fired, and only that. -/
  answers : ∀ before c a after, past = before ++ (c, a) :: after → a = answer before c
  /-- Every tick was counted, every mask, and every disarm under one. -/
  fired : t.fired = (ticks past).length
  isMasked : t.isMasked = true ↔ 0 < depth past
  maskedDisarms : t.maskedDisarms = (maskedDisarms past).length
  /-- Had no mask been taken, the other calls would have been answered the same. -/
  unmasked : ({} : HandTrigger τ).history ((unmasked past).map Prod.fst) = unmasked past

theorem map_fst_unmasked (t : HandTrigger τ) (calls : List (HandCall τ)) :
    (unmasked (t.history calls)).map Prod.fst = calls.filter fun c => !c.isMask := by
  induction calls generalizing t with
  | nil => rfl
  | cons c calls ih =>
    have hrest := ih (t.call c).2
    rw [HandTrigger.history_cons, unmasked]
    cases hmask : c.isMask with
    | true =>
      rw [List.filter_cons_of_neg (by simp [hmask]), List.filter_cons_of_neg (by simp [hmask])]
      exact hrest
    | false =>
      rw [List.filter_cons_of_pos (by simp [hmask]), List.filter_cons_of_pos (by simp [hmask]),
        List.map_cons]
      exact congrArg (c :: ·) hrest

/-- **Delivery.** For any triggers, any handles on them and any calls on these: every trigger delivers
what is due by the history of the calls that came to it through any of its handles. -/
theorem delivery (calls : List (HandleCall τ)) (k : Nat) (t : HandTrigger τ)
    (hk : (exchange call {} calls).2.triggers[k]? = some t) :
    Delivers (historyOf k (exchange call {} calls).1) t := by
  obtain ⟨made, hhistory, hlast⟩ := trigger_exchanged {} calls k
  have hnew : ({} : HandTriggers τ).trigger k = {} := rfl
  have ht : (exchange call {} calls).2.trigger k = t := by rw [trigger, hk, Option.getD_some]
  rw [hnew] at hhistory hlast
  rw [ht] at hlast
  rw [hhistory]
  have hstart : ({} : HandTrigger τ).Follows [] := HandTrigger.follows_nil
  have hfollows := hstart.exchanged made
  rw [← hlast, List.nil_append] at hfollows
  refine ⟨?_, hfollows.fired, ?_, hfollows.maskedDisarms, ?_⟩
  · intro before c a after heq
    exact hstart.answers made heq
  · rw [HandTrigger.isMasked, decide_eq_true_iff, hfollows.masks]
  · rw [map_fst_unmasked]
    exact hstart.unmasked hstart made

/-- Two handles on one trigger, and one on another: a mask and a refused install change nothing of what
is due, an install with no interval and a disarm do. -/
theorem delivery_clones :
    let second : Span := ⟨1, 0⟩
    let calls : List (HandleCall Nat) :=
      [.new, .clone 0, .new, .through 0 (.install second 7), .through 2 .fire, .through 1 .block,
        .through 0 .fire, .through 1 (.refuse true), .through 0 (.install second 8),
        .through 1 (.fireMany 2), .through 0 .disarm, .through 1 .fire, .through 0 .unblock,
        .through 0 .unblock, .through 0 .disarm]
    let run := exchange call {} calls
    let past := historyOf 0 run.1
    ∃ t, run.2.triggers[0]? = some t ∧ Delivers past t ∧ ticks past = [7, 7, 7] ∧ t.fired = 3 ∧
      t.isMasked = false ∧ t.maskedDisarms = 1 ∧
      (past.map Prod.snd)[5]? = some (.firedMany 2 [7, 7]) ∧ ticks (historyOf 1 run.1) = [] := by
  intro second calls run past
  have hmade : 0 < run.2.triggers.length := by decide +kernel
  have ht : run.2.triggers[0]? = some run.2.triggers[0] := List.getElem?_eq_getElem hmade
  have hdelivers : Delivers past _ := delivery calls 0 _ ht
  have hticks : ticks past = [7, 7, 7] := by decide +kernel
  have hdepth : depth past = 0 := by decide +kernel
  have hmasked : (maskedDisarms past).length = 1 := by decide +kernel
  refine ⟨_, ht, hdelivers, hticks, ?_, ?_, hdelivers.maskedDisarms.trans hmasked, by decide +kernel,
    by decide +kernel⟩
  · rw [hdelivers.fired, hticks]
    rfl
  · rw [Bool.eq_false_iff, Ne, hdelivers.isMasked, hdepth]
    exact Nat.lt_irrefl 0

end HandTriggers

end StackSampler
