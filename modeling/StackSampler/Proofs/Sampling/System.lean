import StackSampler.Proofs.Sampling.Rest

/-!
# Starts and installs in a system that may refuse

An install asks the system for something: a sampling thread, the handler of the profiling signal, the
timer. The system may refuse each of them (`System`), and together with the refusals of the triggers
themselves these are all the ways in which an install fails.

* `Session.installIn`, `startIn`: an install and a start in such a system; `startIn_granted` says that they
  are the session's own where nothing is refused.
* `ItimerTrigger.installIn_lifts`: what a timer's install does to a mask, and to a signal that waits for it.
* `AtRest.rewired_installIn`: at rest an install changes triggers and the signal only, and runs no tick.
* `AtRest.startBy_does`: what a start can do, whatever its install does.
-/

namespace StackSampler

/-- What the system answers when an install asks for something, or why it refuses. -/
structure System where
  /-- A sampling thread. -/
  spawn : Except String Unit := .ok ()
  /-- The handler of the profiling signal. -/
  handler : Except String Unit := .ok ()
  /-- The profiling timer. -/
  timer : Except String Unit := .ok ()

/-- An install in a system that may refuse the handler or the timer. The signal is claimed and the tick
handed over before the handler is asked for; the timer is asked for last. -/
def ItimerTrigger.installIn {τ : Type} (t : ItimerTrigger) (system : System) (s : ProfSignal τ)
    (interval : Span) (tick : τ) : Installed τ :=
  if !t.ownsSignal && s.owned then { result := .error .busy, trigger := t, signal := s }
  else
    match system.handler with
    | .error reason =>
      -- what was in force before handles the signals that waited
      let (delivered, s') := { s.block with owned := true, target := some tick }.unblock
      { result := .error (.handlerInstall reason), trigger := { t with ownsSignal := true }
        signal := s', delivered }
    | .ok () =>
      let done := t.install s interval tick
      match done.result, system.timer with
      | .ok (), .error reason =>
        { done with
          result := .error (.timerArm reason)
          trigger := { done.trigger with armed := false }
          signal := { done.signal with timer := s.timer } }
      | _, _ => done

/-! ## Timers -/

namespace ItimerTrigger

variable {τ : Type} (t : ItimerTrigger) (system : System) {signal : ProfSignal τ}

theorem installIn_granted (signal : ProfSignal τ) (i : Span) (tick : τ) :
    t.installIn {} signal i tick = t.install signal i tick := by
  unfold installIn
  split
  · next hbusy =>
    unfold install
    rw [if_pos hbusy]
  · dsimp only
    cases (t.install signal i tick).result with
    | ok u => rfl
    | error e => rfl

/-- **An install leaves the signal alone, or lifts its mask** and lets through what waited for that. -/
theorem installIn_lifts (signal : ProfSignal τ) (i : Span) (tick : τ) :
    (t.installIn system signal i tick).delivered = none ∧
        (t.installIn system signal i tick).signal = signal ∨
      (t.installIn system signal i tick).signal.blocked = false ∧
        (t.installIn system signal i tick).signal.pending = false ∧
        (signal.pending = false → (t.installIn system signal i tick).delivered = none) := by
  unfold installIn
  split
  · exact .inl ⟨rfl, rfl⟩
  · next hfree =>
    have hlifts : (t.install signal i tick).signal.blocked = false ∧
        (t.install signal i tick).signal.pending = false ∧
        (signal.pending = false → (t.install signal i tick).delivered = none) := by
      unfold install
      rw [if_neg hfree]
      dsimp only
      split
      · exact ⟨rfl, rfl, fun hsettled => if_neg (Bool.eq_false_iff.1 hsettled)⟩
      · exact ⟨rfl, rfl, fun hsettled => if_neg (Bool.eq_false_iff.1 hsettled)⟩
    split
    · exact .inr ⟨rfl, rfl, fun hsettled => if_neg (Bool.eq_false_iff.1 hsettled)⟩
    · dsimp only
      split <;> exact .inr hlifts

/-- Where no signal is held back, an install delivers none. -/
theorem installIn_calm (hsettled : signal.pending = false) (hunmasked : signal.blocked = false)
    (i : Span) (tick : τ) :
    (t.installIn system signal i tick).delivered = none ∧
      (t.installIn system signal i tick).signal.pending = false ∧
      (t.installIn system signal i tick).signal.blocked = false := by
  rcases t.installIn_lifts system signal i tick with ⟨hnone, hsame⟩ | ⟨hlifted, hempty, hnone⟩
  · rw [hsame]
    exact ⟨hnone, hsettled, hunmasked⟩
  · exact ⟨hnone hsettled, hempty, hlifted⟩

end ItimerTrigger

namespace Session

variable {s t : Session} {i : Span}

/-- An install in a system that may refuse what it asks for. -/
def installIn (system : System) (interval : Span) (s : Session) : Except TriggerError Unit × Session :=
  match s.trigger, system.spawn with
  | .itimer t, _ =>
    let done := t.installIn system s.signal interval ()
    (done.result, deliver { s with trigger := .itimer done.trigger } (done.delivered, done.signal))
  | .thread t, .error reason =>
    -- a zero interval needs no thread
    if interval.isZero then s.install interval
    else (.error (.threadSpawn reason), { s with trigger := .thread t.disarm })
  | _, _ => s.install interval

/-- A start whose trigger is installed by `install`. -/
def startBy (install : Session → Except TriggerError Unit × Session) (interval : Span) (s : Session) :
    Except ProfilerError Unit × Session :=
  match s.ensureAllocated with
  | (.error e, s) => (.error (.config e), s)
  | (.ok (), s) =>
    match install s with
    | (.error e, s) => (.error (.trigger e), s)
    | (.ok (), s) =>
      (.ok (), { s with mode := .sampling, startTime := some s.clock, interval := some interval })

/-- A start in a system that may refuse what its install asks for. -/
def startIn (system : System) (interval : Span) (s : Session) : Except ProfilerError Unit × Session :=
  s.startBy (installIn system interval) interval

/-! ## Installs -/

theorem installIn_itimer {t : ItimerTrigger} (htrigger : s.trigger = .itimer t) (system : System)
    (i : Span) :
    s.installIn system i =
      ((t.installIn system s.signal i ()).result,
        deliver { s with trigger := .itimer (t.installIn system s.signal i ()).trigger }
          ((t.installIn system s.signal i ()).delivered, (t.installIn system s.signal i ()).signal)) := by
  rw [installIn, htrigger]

theorem installIn_hand (htrigger : s.trigger = .hand) (system : System) (i : Span) :
    s.installIn system i = s.install i := by
  rw [installIn, htrigger]

theorem installIn_granted (interval : Span) (s : Session) :
    s.installIn {} interval = s.install interval := by
  cases htrigger : s.trigger with
  | hand => exact installIn_hand htrigger {} interval
  | itimer t =>
    rw [installIn_itimer htrigger, ItimerTrigger.installIn_granted, install, htrigger]
  | thread t => rw [installIn, htrigger]

/-- In a system that refuses nothing this is the start itself. -/
theorem startIn_granted (interval : Span) (s : Session) :
    s.startIn {} interval = s.start interval := by
  have hinstall : installIn {} interval = install interval := funext (installIn_granted interval)
  unfold startIn
  rw [hinstall]
  rfl

/-- At rest a timer's install runs no tick. -/
theorem AtRest.installIn_itimer (h : s.AtRest) {t : ItimerTrigger} (htrigger : s.trigger = .itimer t)
    (system : System) (i : Span) :
    s.installIn system i =
      ((t.installIn system s.signal i ()).result,
        { s with
          trigger := .itimer (t.installIn system s.signal i ()).trigger
          signal := (t.installIn system s.signal i ()).signal }) := by
  have hnone := (t.installIn_calm system h.settled h.unmasked i ()).1
  rw [Session.installIn_itimer htrigger, hnone]
  rfl

theorem AtRest.rewired_installIn (h : s.AtRest) (system : System) (i : Span) :
    Rewired s (s.installIn system i).2 ∧ (s.installIn system i).2.AtRest := by
  cases htrigger : s.trigger with
  | hand =>
    rw [installIn_hand htrigger]
    exact h.rewired_install i
  | itimer t =>
    obtain ⟨-, hsettled, hunmasked⟩ := t.installIn_calm system h.settled h.unmasked i ()
    rw [h.installIn_itimer htrigger]
    exact ⟨⟨_, s.hand, _, rfl⟩, h.free, hunmasked, hsettled⟩
  | thread t =>
    rw [installIn, htrigger]
    cases system.spawn with
    | ok u => exact h.rewired_install i
    | error reason =>
      dsimp only
      split
      · exact h.rewired_install i
      · exact ⟨⟨.thread t.disarm, s.hand, s.signal, rfl⟩, h.free, h.unmasked, h.settled⟩

/-! ## Starts -/

/-- **What a start can do**: fail at the configuration, fail at its trigger, or begin. -/
inductive Start (s : Session) (install : Session → Except TriggerError Unit × Session) (i : Span) :
    Except ProfilerError Unit → Session → Prop
  | invalid {e} (hstore : s.shared.store = none) (hconfig : s.config.validate = .error e) :
    Start s install i (.error (.config e)) s
  | refused {e} {t : Session} (hready : s.Ready)
    (hinstall : install { s with shared := s.provision } = (.error e, t)) :
    Start s install i (.error (.trigger e)) t
  | begun {t : Session} (hready : s.Ready)
    (hinstall : install { s with shared := s.provision } = (.ok (), t)) :
    Start s install i (.ok ())
      { t with mode := .sampling, startTime := some t.clock, interval := some i }

theorem AtRest.startBy_does (h : s.AtRest) (install : Session → Except TriggerError Unit × Session)
    (i : Span) : s.Start install i (s.startBy install i).1 (s.startBy install i).2 := by
  unfold startBy
  rw [h.ensureAllocated_eq]
  rcases s.ready_or_invalid with hready | ⟨e, hstore, hconfig⟩
  · rw [hready.checked]
    dsimp only
    cases hinstall : install { s with shared := s.provision } with
    | mk outcome t =>
      cases outcome with
      | error e => exact .refused hready hinstall
      | ok u => exact .begun hready hinstall
  · have hkept : s.provision = s.shared := by simp [provision, hstore, hconfig]
    rw [hkept, hstore, hconfig]
    exact .invalid hstore hconfig

theorem AtRest.startIn_does (h : s.AtRest) (system : System) (i : Span) :
    s.Start (installIn system i) i (s.startIn system i).1 (s.startIn system i).2 :=
  h.startBy_does (installIn system i) i

/-- A session that has been given its store is at rest as it was. -/
theorem AtRest.provisioned (h : s.AtRest) : ({ s with shared := s.provision } : Session).AtRest :=
  ⟨s.provision_busy.trans h.free, h.unmasked, h.settled⟩

end Session

end StackSampler
