import StackSampler.Proofs.Sampling.Acts

/-!
# Installs that fail

An install fails when the hand trigger refuses it, when another trigger owns the profiling signal, when
the timer cannot hold the interval, and when the system refuses the thread, the handler or the timer. Where
nothing was armed before, nothing is armed then, and no tick comes until an install succeeds. A thread that
runs is ended in any case. But a hand trigger that was armed stays armed with its old tick, and a timer that
runs keeps running: its trigger says that it is not armed, unless it was the handler that was refused.

* `Turn.disarmed`: only an install that succeeds arms anything; `Rigged.acted_disarmed` is the run.
* `Session.failed_install`: what a failed install leaves.
* `Session.armed_after_failure`: a hand trigger and a timer that a failed install leaves at work.
-/

namespace StackSampler

namespace Wiring

variable {w w' : Wiring} {outcome : Option (Except TriggerError Unit)}

/-- A thread that could not be spawned leaves none. -/
theorem Install.disarmed_thread {i : Span} {e : TriggerError} {t : ThreadTrigger Unit}
    (h : Install w i (.error e) w') (htrigger : w.trigger = .thread t) : w'.Disarmed := by
  cases h with
  | refused hhand => cases htrigger.symm.trans hhand
  | busy hitimer _ | unhandled _ hitimer _ _ _ | unset _ hitimer _ _ _ =>
    cases htrigger.symm.trans hitimer
  | unspawned _ _ => exact ⟨rfl, nofun⟩

/-- An install that fails leaves the timer as it was. -/
theorem Install.timer_kept {i : Span} {e : TriggerError} (h : Install w i (.error e) w') :
    w'.timer = w.timer := by
  cases h <;> rfl

theorem Install.unhandled_armed {i : Span} {e : TriggerError} {reason : String}
    (h : Install w i (.error e) w') (he : e = .handlerInstall reason) : w'.isArmed = w.isArmed := by
  cases h with
  | unhandled _ htrigger _ _ hsame =>
    rw [isArmed, isArmed, htrigger]
    exact hsame
  | refused _ | busy _ _ | unspawned _ _ => cases he
  | unset hcause _ _ _ _ =>
    rcases hcause with rfl | ⟨_, rfl⟩ <;> cases he

/-- **Only an install that succeeds arms anything.** -/
theorem Turn.disarmed (h : w.Turn outcome w') (hw : w.Claimed) (hoff : w.Disarmed)
    (hno : outcome ≠ some (.ok ())) : w'.Disarmed := by
  cases h with
  | kept => exact hoff
  | disarm => exact hw.disarmed
  | @install i outcome w' h =>
    cases outcome with
    | ok u => exact absurd rfl hno
    | error e => exact h.disarmed hw hoff
  | renew => exact hw.renew.2
  | others howns _ =>
    refine ⟨hoff.unarmed, fun t ht howns' => ?_⟩
    rw [howns t ht] at howns'
    cases howns'

end Wiring

namespace Session

variable {s : Session} {acts : List Act}

/-- Among some acts no install succeeds. -/
def NoInstall : Session → List Act → Prop
  | _, [] => True
  | s, a :: acts => (s.act a).1 ≠ some (.ok ()) ∧ (s.act a).2.NoInstall acts

theorem Rigged.acted_disarmed (h : s.Rigged) (hoff : s.wiring.Disarmed) (hno : s.NoInstall acts) :
    (s.acted acts).wiring.Disarmed := by
  induction acts generalizing s with
  | nil => exact hoff
  | cons a acts ih =>
    have hnext := (h.atRest.turn a).disarmed h.claimed hoff hno.1
    exact ih (h.act a) hnext hno.2

/-! ## The law -/

/-- A session with a new trigger. Other triggers may own the signal already; if none does, no timer
runs. -/
structure New (s : Session) : Prop where
  atRest : s.AtRest
  trigger : s.trigger = .hand ∨ s.trigger = .itimer {} ∨ s.trigger = .thread {}
  free : s.signal.owned = false → s.signal.timer = none

theorem New.rigged (h : s.New) : s.Rigged := ⟨h.atRest, .of_new h.trigger h.free⟩

/-- **No tick comes**: the trigger says that it is not armed, the host's hand fires in vain, and no
interval of the trigger's own brings a tick. -/
structure Quiet (s : Session) : Prop where
  unarmed : s.isArmed = false
  fire : s.trigger = .hand → s.fire = (false, s)
  brings : s.brings = none

/-- **What an install that failed with `e` leaves**, from the session before it to the one after. -/
structure Failed (e : TriggerError) (s t : Session) : Prop where
  /-- Nothing is armed by it: a trigger that says that it is armed was so before, and it is a hand trigger,
  or a timer's whose handler was refused. -/
  armed : t.isArmed = true → s.isArmed = true ∧ (s.trigger = .hand ∨ ∃ reason, e = .handlerInstall reason)
  /-- Where the handler was refused, the trigger says what it said before. -/
  unhandled : ∀ reason, e = .handlerInstall reason → t.isArmed = s.isArmed
  /-- A timer is never turned off by it. -/
  timer : t.signal.timer = s.signal.timer
  /-- Where nothing was armed before, or a thread was, no tick comes until an install succeeds. -/
  quiet : s.wiring.Disarmed ∨ (∃ worker, s.trigger = .thread worker) →
    ∀ more, t.NoInstall more → (t.acted more).Quiet

/-- **An install that fails arms nothing**, with any trigger, any interval and any system, and whatever came
before: installs and disarms through the profiler and past it, refusals, drops, and other triggers that use
the signal. -/
theorem failed_install (h : s.New) (before : List Act) (a : Act) (e : TriggerError)
    (hfailed : ((s.acted before).act a).1 = some (.error e)) :
    Failed e (s.acted before) ((s.acted before).act a).2 := by
  have hrigged := h.rigged.acted before
  have hturn := hrigged.atRest.turn a
  rw [hfailed] at hturn
  generalize hw : ((s.acted before).act a).2.wiring = w' at hturn
  cases hturn with
  | install hinstall =>
    refine ⟨fun harmed => ?_, fun reason he => ?_, ?_, fun hoff more hmore => ?_⟩
    · rw [isArmed_eq, hw] at harmed
      exact hinstall.armed hrigged.claimed harmed
    · rw [isArmed_eq, isArmed_eq, hw]
      exact hinstall.unhandled_armed he
    · have htimer := hinstall.timer_kept
      rw [← hw] at htimer
      exact htimer
    · have hquiet : ((s.acted before).act a).2.wiring.Disarmed := by
        rw [hw]
        rcases hoff with hoff | ⟨worker, htrigger⟩
        · exact hinstall.disarmed hrigged.claimed hoff
        · exact hinstall.disarmed_thread htrigger
      have hlater := (hrigged.act a).acted_disarmed hquiet hmore
      exact ⟨hlater.unarmed, fire_disarmed hlater, brings_none hlater⟩

/-- A thread is running when its profiler starts again, and no other can be spawned. -/
theorem quiet_without_thread :
    let s : Session :=
      { config := ⟨2, 1⟩, trigger := .thread {}, stack := .new 4, clock := .epoch }
    let before : List Act := [.start {} ⟨7200, 0⟩, .call (.push ⟨1⟩), .call .elapse]
    let again : Act := .start { spawn := .error "no thread" } ⟨3600, 0⟩
    s.New ∧ (s.acted before).isArmed = true ∧
      ((s.acted before).act again).1 = some (.error (.threadSpawn "no thread")) ∧
      Failed (.threadSpawn "no thread") (s.acted before) ((s.acted before).act again).2 ∧
      ((s.acted before).act again).2.Quiet := by
  intro s before again
  have hnew : s.New := ⟨⟨rfl, rfl, rfl⟩, .inr (.inr rfl), fun _ => rfl⟩
  have hfailed : ((s.acted before).act again).1 = some (.error (.threadSpawn "no thread")) := rfl
  have hleft := failed_install hnew before again _ hfailed
  exact ⟨hnew, rfl, hfailed, hleft, hleft.quiet (.inr ⟨_, rfl⟩) [] trivial⟩

/-- **What a failed install leaves at work.** A hand trigger that refuses to be installed again stays
armed, and fires. A timer that runs goes on when the new interval does not fit it, and its ticks come
from a trigger that is not armed by its own account. -/
theorem armed_after_failure :
    let hand : Session := { config := ⟨2, 1⟩, stack := .new 4, clock := .epoch }
    let refusing := hand.acted [.install {} ⟨1, 0⟩, .call (.refuse true)]
    let timer : Session :=
      { config := ⟨2, 1⟩, trigger := .itimer {}, stack := .new 4, clock := .epoch }
    let running := timer.acted [.install {} ⟨7200, 0⟩]
    let misfit : Act := .install {} ⟨9223372036854775808, 0⟩
    hand.New ∧ (refusing.act (.install {} ⟨1, 0⟩)).1 = some (.error .refused) ∧
      (refusing.act (.install {} ⟨1, 0⟩)).2.isArmed = true ∧
      (refusing.act (.install {} ⟨1, 0⟩)).2.fire.1 = true ∧
      timer.New ∧
      (running.act misfit).1 = some (.error (.invalidInterval ⟨9223372036854775808, 0⟩)) ∧
      (running.act misfit).2.isArmed = false ∧ (running.act misfit).2.brings = some () := by
  intro hand refusing timer running misfit
  exact ⟨⟨⟨rfl, rfl, rfl⟩, .inl rfl, fun _ => rfl⟩, rfl, rfl, rfl,
    ⟨⟨rfl, rfl, rfl⟩, .inr (.inl rfl), fun _ => rfl⟩, rfl, rfl, rfl⟩

end Session

end StackSampler
