import StackSampler.Proofs.Sampling.Effect
import StackSampler.Proofs.Sampling.Wiring

/-!
# Acts

More comes to a trigger than the operations of its profiler. An **act** is an operation, a start in a
system that may refuse what it asks for, an install or a disarm past the profiler, a new trigger in the place
of the old one, or what other triggers do with the profiling signal meanwhile.

* `AtRest.act_effect`: to the record an act does what some operation does.
* `AtRest.act_wiring` and `AtRest.turn`: what it does to the wiring, and the outcome if it installs.
* `Rigged.acted`: what a run of acts keeps.
-/

namespace StackSampler

/-- What comes to a trigger. -/
inductive Act where
  /-- A call of the profiler or its host, or an event. -/
  | call (op : Operation)
  /-- A start, in a system that may refuse what its install asks for. -/
  | start (system : System) (interval : Span)
  /-- An install past the profiler. -/
  | install (system : System) (interval : Span)
  | disarm
  /-- The trigger is dropped, and a new one made. -/
  | renew
  /-- Other triggers claim the signal, use it and give it up, while this one does not own it. -/
  | others (signal : ProfSignal Unit)

namespace Act

/-- The operation that an act amounts to for the record. What is done past the profiler touches no more
of it than a stop does. -/
def operation : Act → Operation
  | .call op => op
  | .start _ interval => .start interval
  | .install .. | .disarm | .renew | .others _ => .stop

/-- Whether an act leaves the session its trigger, and the signal to that. -/
def own : Act → Bool
  | .renew | .others _ => false
  | _ => true

end Act

namespace Wiring

variable {w w' : Wiring} {outcome : Option (Except TriggerError Unit)}

/-- A new trigger in the place of the old one, which gives up what it owns. -/
def renew (w : Wiring) : Wiring :=
  match w.trigger with
  | .hand => { w with armed := false }
  | .itimer t =>
    if t.ownsSignal then
      { w with
        trigger := .itimer {}
        owned := false
        target := none
        disposition := t.previous.getD w.disposition
        timer := none }
    else { w with trigger := .itimer {} }
  | .thread _ => { w with trigger := .thread {} }

/-- **What an act does to the wiring**, and the outcome if it was an install. -/
inductive Turn (w : Wiring) : Option (Except TriggerError Unit) → Wiring → Prop
  | kept : Turn w none w
  | disarm : Turn w none w.disarm
  | install {i outcome w'} (h : w.Install i outcome w') : Turn w (some outcome) w'
  | renew : Turn w none w.renew
  | others {owned target disposition timer}
    (howns : ∀ t, w.trigger = .itimer t → t.ownsSignal = false)
    (hfree : owned = false → timer = none) :
    Turn w none { w with owned, target, disposition, timer }

theorem Claimed.renew (h : w.Claimed) : w.renew.Claimed ∧ w.renew.Disarmed := by
  unfold Wiring.renew
  split
  · next htrigger =>
    refine ⟨⟨fun t ht => ?_, h.free⟩, ?_, fun t ht => ?_⟩
    · cases htrigger.symm.trans ht
    · rw [isArmed, htrigger]
    · cases htrigger.symm.trans ht
  · split
    · refine ⟨⟨fun t ht harmed => ?_, fun _ => rfl⟩, rfl, fun _ _ _ => rfl⟩
      obtain rfl := Trigger.itimer.inj ht
      cases harmed
    · refine ⟨⟨fun t ht harmed => ?_, h.free⟩, rfl, fun t ht howns => ?_⟩
      · obtain rfl := Trigger.itimer.inj ht
        cases harmed
      · obtain rfl := Trigger.itimer.inj ht
        cases howns
  · exact ⟨⟨fun t ht => (by cases ht), h.free⟩, rfl, fun t ht => (by cases ht)⟩

theorem Turn.claimed (h : w.Turn outcome w') (hw : w.Claimed) : w'.Claimed := by
  cases h with
  | kept => exact hw
  | disarm => exact hw.disarm
  | install h => exact h.claimed hw
  | renew => exact hw.renew.1
  | others _ hfree => exact ⟨hw.owner, hfree⟩

end Wiring

namespace Session

variable {s t : Session} {a : Act} {acts more : List Act}

/-- A new trigger in the place of the old one. -/
def renew (s : Session) : Session :=
  match s.trigger with
  | .hand => { s with hand := {} }
  | .itimer t => { s with trigger := .itimer {}, signal := t.drop s.signal }
  | .thread _ => { s with trigger := .thread {} }

/-- Whether the session's trigger owns the profiling signal. -/
def ownsSignal (s : Session) : Bool :=
  match s.trigger with
  | .itimer t => t.ownsSignal
  | _ => false

/-- The signal as other triggers leave it, which is not theirs to change where this one owns it. Who
gives it up turns the timer off. -/
def others (signal : ProfSignal Unit) (s : Session) : Session :=
  if s.ownsSignal then s
  else
    { s with signal :=
      { signal with
        timer := if signal.owned then signal.timer else none
        blocked := s.signal.blocked
        pending := s.signal.pending } }

/-- One act, and the outcome if it was an install. -/
def act (s : Session) : Act → Option (Except TriggerError Unit) × Session
  | .call op => let (answer, s) := s.perform op; (answer.installed, s)
  | .start system interval =>
    let (outcome, s) := s.startIn system interval
    ((Answer.started outcome).installed, s)
  | .install system interval => let (outcome, s) := s.installIn system interval; (some outcome, s)
  | .disarm => (none, s.disarm)
  | .renew => (none, s.renew)
  | .others signal => (none, s.others signal)

/-- What an act answers, if it is a start. -/
def started (s : Session) : Act → Option (Except ProfilerError Unit)
  | .call (.start interval) => some (s.start interval).1
  | .start system interval => some (s.startIn system interval).1
  | _ => none

/-- The session after some acts. -/
def acted (s : Session) (acts : List Act) : Session := acts.foldl (fun s a => (s.act a).2) s

theorem acted_cons : s.acted (a :: acts) = (s.act a).2.acted acts := rfl

theorem acted_append : s.acted (acts ++ more) = (s.acted acts).acted more := List.foldl_append

theorem acted_concat : s.acted (acts ++ [a]) = ((s.acted acts).act a).2 := acted_append

/-- **What every act keeps, a run of acts keeps.** -/
theorem acted_invariant {P : Session → Prop} (hstep : ∀ s a, P s → P (s.act a).2) (hs : P s)
    (acts : List Act) : P (s.acted acts) := by
  induction acts generalizing s with
  | nil => exact hs
  | cons a acts ih => exact ih (hstep s a hs)

/-! ## The record -/

theorem AtRest.rewired_disarm (h : s.AtRest) : Rewired s s.disarm ∧ s.disarm.AtRest := by
  unfold Session.disarm
  split
  · exact ⟨⟨s.trigger, _, s.signal, rfl⟩, h.free, h.unmasked, h.settled⟩
  · next t _ =>
    cases howns : t.ownsSignal <;> simp only [ItimerTrigger.disarm, howns] <;>
      exact ⟨⟨_, s.hand, _, rfl⟩, h.free, h.unmasked, h.settled⟩
  · exact ⟨⟨_, s.hand, s.signal, rfl⟩, h.free, h.unmasked, h.settled⟩

theorem AtRest.rewired_renew (h : s.AtRest) : Rewired s s.renew ∧ s.renew.AtRest := by
  unfold Session.renew ItimerTrigger.drop
  split
  · exact ⟨⟨s.trigger, {}, s.signal, rfl⟩, h.free, h.unmasked, h.settled⟩
  · split
    · exact ⟨⟨_, s.hand, _, rfl⟩, h.free, rfl, rfl⟩
    · exact ⟨⟨_, s.hand, _, rfl⟩, h.free, h.unmasked, h.settled⟩
  · exact ⟨⟨_, s.hand, s.signal, rfl⟩, h.free, h.unmasked, h.settled⟩

theorem AtRest.rewired_others (h : s.AtRest) (signal : ProfSignal Unit) :
    Rewired s (s.others signal) ∧ (s.others signal).AtRest := by
  unfold Session.others
  split
  · exact ⟨⟨s.trigger, s.hand, s.signal, rfl⟩, h⟩
  · exact ⟨⟨s.trigger, s.hand, _, rfl⟩, h.free, h.unmasked, h.settled⟩

/-- Whatever the system refuses, a start has no effect that another start does not have. -/
theorem AtRest.startIn_effect (h : s.AtRest) (system : System) (i : Span) :
    Effect s (.start i) (.started (s.startIn system i).1) (s.startIn system i).2.record ∧
      (s.startIn system i).2.AtRest := by
  have hrewired := h.provisioned.rewired_installIn system i
  have hdoes := h.startIn_does system i
  generalize s.startIn system i = done at hdoes ⊢
  obtain ⟨outcome, t⟩ := done
  cases hdoes with
  | invalid hstore hconfig => exact ⟨.invalid hstore hconfig, h⟩
  | refused hready hinstall =>
    rw [hinstall] at hrewired
    exact ⟨hrewired.1.record ▸ .refused hready, hrewired.2⟩
  | begun hready hinstall =>
    rw [hinstall] at hrewired
    obtain ⟨⟨trigger, hand, signal, rfl⟩, hrest⟩ := hrewired
    exact ⟨.begun hready, hrest.free, hrest.unmasked, hrest.settled⟩

/-- **What an act does to the record**, some operation does. -/
theorem AtRest.act_effect (h : s.AtRest) (a : Act) :
    (∃ answer, Effect s a.operation answer (s.act a).2.record ∧
      ∀ outcome, s.started a = some outcome → answer = .started outcome) ∧ (s.act a).2.AtRest := by
  have hpast {t : Session} (hrewired : Rewired s t) : Effect s .stop .done t.record :=
    hrewired.record ▸ .kept nofun nofun
  cases a with
  | call op =>
    obtain ⟨heffect, hrest⟩ := h.perform_effect op
    refine ⟨⟨_, heffect, fun outcome houtcome => ?_⟩, hrest⟩
    cases op <;> cases houtcome
    rfl
  | start system i =>
    obtain ⟨heffect, hrest⟩ := h.startIn_effect system i
    exact ⟨⟨_, heffect, fun outcome houtcome => congrArg _ (Option.some.inj houtcome)⟩, hrest⟩
  | install system i =>
    obtain ⟨hrewired, hrest⟩ := h.rewired_installIn system i
    exact ⟨⟨_, hpast hrewired, nofun⟩, hrest⟩
  | disarm => exact ⟨⟨_, hpast h.rewired_disarm.1, nofun⟩, h.rewired_disarm.2⟩
  | renew => exact ⟨⟨_, hpast h.rewired_renew.1, nofun⟩, h.rewired_renew.2⟩
  | others signal =>
    obtain ⟨hrewired, hrest⟩ := h.rewired_others signal
    exact ⟨⟨_, hpast hrewired, nofun⟩, hrest⟩

/-! ## The wiring -/

theorem renew_wiring (s : Session) : s.renew.wiring = s.wiring.renew := by
  obtain ⟨config, shared, mode, startTime, interval, trigger, stack, clock, hand, signal, nested⟩ := s
  cases trigger with
  | hand => rfl
  | itimer t =>
    cases howns : t.ownsSignal with
    | true =>
      simp only [renew, wiring, Wiring.renew, ItimerTrigger.drop, ItimerTrigger.disarm, howns, if_true]
      rfl
    | false => simp [renew, wiring, Wiring.renew, ItimerTrigger.drop, howns]
  | thread t => rfl

theorem others_turn (signal : ProfSignal Unit) (s : Session) :
    s.wiring.Turn none (s.others signal).wiring := by
  unfold others
  split
  · exact .kept
  · next howns =>
    refine .others (fun t ht => ?_) fun hfree => ?_
    · have ht : s.trigger = .itimer t := ht
      rw [ownsSignal, ht] at howns
      exact Bool.eq_false_iff.2 howns
    · have hfree : signal.owned = false := hfree
      show (if signal.owned then signal.timer else none) = none
      rw [hfree]
      rfl

/-- **What a session's own acts do to its wiring**: they leave it, disarm it, or install. -/
theorem AtRest.act_wiring (h : s.AtRest) (hown : a.own = true) :
    (s.act a).1 = none ∧ (s.act a).2.wiring = s.wiring ∨
      (s.act a).1 = none ∧ (s.act a).2.wiring = s.wiring.disarm ∨
      ∃ i outcome, (s.act a).1 = some outcome ∧ s.wiring.Install i outcome (s.act a).2.wiring := by
  cases a with
  | call op =>
    rcases h.perform_wiring op with ⟨hnone, hsame⟩ | ⟨rfl, hdisarm⟩ | ⟨i, outcome, -, hsome, hinstall⟩
    · exact .inl ⟨hnone, hsame⟩
    · exact .inr (.inl ⟨rfl, hdisarm⟩)
    · exact .inr (.inr ⟨i, outcome, hsome, hinstall⟩)
  | start system i =>
    rcases h.startIn_wiring system i with ⟨hnone, hsame⟩ | ⟨outcome, hsome, hinstall⟩
    · exact .inl ⟨hnone, hsame⟩
    · exact .inr (.inr ⟨i, outcome, hsome, hinstall⟩)
  | install system i => exact .inr (.inr ⟨i, _, rfl, h.installIn_wiring system i⟩)
  | disarm => exact .inr (.inl ⟨rfl, disarm_wiring s⟩)
  | renew | others signal => cases hown

/-- **One act.** -/
theorem AtRest.turn (h : s.AtRest) (a : Act) : s.wiring.Turn (s.act a).1 (s.act a).2.wiring := by
  cases hown : a.own with
  | true =>
    rcases h.act_wiring hown with ⟨hnone, hsame⟩ | ⟨hnone, hdisarm⟩ | ⟨i, outcome, hsome, hinstall⟩
    · rw [hnone, hsame]
      exact .kept
    · rw [hnone, hdisarm]
      exact .disarm
    · rw [hsome]
      exact .install hinstall
  | false =>
    cases a with
    | call op | start system i | install system i | disarm => cases hown
    | renew => exact (renew_wiring s) ▸ .renew
    | others signal => exact others_turn signal s

/-- What every act keeps. -/
structure Rigged (s : Session) : Prop where
  atRest : s.AtRest
  claimed : s.wiring.Claimed

theorem Rigged.act (h : s.Rigged) (a : Act) : (s.act a).2.Rigged :=
  ⟨(h.atRest.act_effect a).2, (h.atRest.turn a).claimed h.claimed⟩

theorem Rigged.acted (h : s.Rigged) (acts : List Act) : (s.acted acts).Rigged :=
  acted_invariant (P := Rigged) (fun _ a h => h.act a) h acts

end Session

end StackSampler
