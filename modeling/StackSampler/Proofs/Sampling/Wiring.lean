import StackSampler.Proofs.Sampling.System

/-!
# What is armed

The **wiring** of a session is what decides whether ticks come by themselves: its trigger, whether the
hand trigger is armed, and what the process does about the profiling signal. Ticks, masks and the
host's own changes leave it alone, so only starts and stops matter (`AtRest.perform_wiring`).

* `Wiring.Disarmed`: nothing is armed; `fire_disarmed` and `brings_none` say that no tick comes.
* `Wiring.Install`: all that an install can do, in a system that may refuse what it asks for.
* `Install.disarmed`: an install that fails arms nothing.
-/

namespace StackSampler

/-- The part of a session that decides whether ticks come. -/
structure Wiring where
  trigger : Trigger
  /-- Whether the hand trigger is armed. -/
  armed : Bool
  owned : Bool
  target : Option Unit
  disposition : Disposition
  timer : Option Span

namespace Wiring

variable {w w' : Wiring} {i : Span} {outcome : Except TriggerError Unit}

/-- Whether the trigger says that it is armed. -/
def isArmed (w : Wiring) : Bool :=
  match w.trigger with
  | .hand => w.armed
  | .itimer t => t.armed
  | .thread t => t.armed

def disarm (w : Wiring) : Wiring :=
  match w.trigger with
  | .hand => { w with armed := false }
  | .itimer t =>
    if t.ownsSignal then { w with trigger := .itimer { t with armed := false }, timer := none } else w
  | .thread t => { w with trigger := .thread t.disarm }

/-- **Nothing is armed**: the trigger says so, and no timer or thread of its own runs. -/
structure Disarmed (w : Wiring) : Prop where
  unarmed : w.isArmed = false
  timer : ∀ t, w.trigger = .itimer t → t.ownsSignal = true → w.timer = none

/-- Only the owner of the signal is armed by it, and no timer runs while nobody owns it. -/
structure Claimed (w : Wiring) : Prop where
  owner : ∀ t, w.trigger = .itimer t → t.armed = true → t.ownsSignal = true
  free : w.owned = false → w.timer = none

/-- **What an install can do**, by its outcome. A timer that was not set, because it cannot hold the
interval or the system refuses it, goes on as it did; so does everything but the claim and the tick where
the handler was refused. -/
inductive Install (w : Wiring) (i : Span) : Except TriggerError Unit → Wiring → Prop
  | refused (htrigger : w.trigger = .hand) : Install w i (.error .refused) w
  | hand (htrigger : w.trigger = .hand) : Install w i (.ok ()) { w with armed := true }
  | busy {t} (htrigger : w.trigger = .itimer t) (howns : t.ownsSignal = false) :
    Install w i (.error .busy) w
  | unhandled {t t'} (reason : String) (htrigger : w.trigger = .itimer t)
    (hclaim : t.ownsSignal = true ∨ w.owned = false) (howns : t'.ownsSignal = true)
    (harmed : t'.armed = t.armed) :
    Install w i (.error (.handlerInstall reason))
      { w with trigger := .itimer t', owned := true, target := some () }
  | unset {t t' e} (hcause : e = .invalidInterval i ∨ ∃ reason, e = .timerArm reason)
    (htrigger : w.trigger = .itimer t) (hclaim : t.ownsSignal = true ∨ w.owned = false)
    (howns : t'.ownsSignal = true) (hunarmed : t'.armed = false) :
    Install w i (.error e)
      { w with trigger := .itimer t', owned := true, target := some (), disposition := .sampling }
  | timer {t t' setting} (htrigger : w.trigger = .itimer t) (howns : t'.ownsSignal = true) :
    Install w i (.ok ())
      { trigger := .itimer t', armed := w.armed, owned := true, target := some ()
        disposition := .sampling, timer := setting }
  | unspawned {t : ThreadTrigger Unit} (reason : String) (htrigger : w.trigger = .thread t) :
    Install w i (.error (.threadSpawn reason)) { w with trigger := .thread t.disarm }
  | thread {t t'} (htrigger : w.trigger = .thread t) :
    Install w i (.ok ()) { w with trigger := .thread t' }

/-- A new trigger owns nothing and is not armed. -/
theorem Claimed.of_new (hnew : w.trigger = .hand ∨ w.trigger = .itimer {} ∨ w.trigger = .thread {})
    (hfree : w.owned = false → w.timer = none) : w.Claimed := by
  refine ⟨fun t ht harmed => ?_, hfree⟩
  rcases hnew with hhand | hitimer | hthread
  · cases hhand.symm.trans ht
  · obtain rfl := Trigger.itimer.inj (hitimer.symm.trans ht)
    cases harmed
  · cases hthread.symm.trans ht

theorem Claimed.disarm (h : w.Claimed) : w.disarm.Claimed := by
  unfold Wiring.disarm
  split
  · next htrigger => exact ⟨fun t ht => (by cases htrigger.symm.trans ht), h.free⟩
  · next t htrigger =>
    split
    · refine ⟨fun t' ht harmed => ?_, fun _ => rfl⟩
      obtain rfl := Trigger.itimer.inj ht
      cases harmed
    · exact h
  · exact ⟨nofun, h.free⟩

/-- After a disarm nothing is armed. -/
theorem Claimed.disarmed (h : w.Claimed) : w.disarm.Disarmed := by
  unfold Wiring.disarm
  split
  · next htrigger =>
    refine ⟨by rw [isArmed, htrigger], fun t ht => ?_⟩
    cases htrigger.symm.trans ht
  · next t htrigger =>
    split
    · exact ⟨rfl, fun _ _ _ => rfl⟩
    · next hfree =>
      -- who does not own the signal was never armed by it
      refine ⟨?_, fun t' ht howns => ?_⟩
      · rw [isArmed, htrigger]
        exact Bool.eq_false_iff.2 fun harmed => hfree (h.owner t htrigger harmed)
      · obtain rfl := Trigger.itimer.inj (htrigger.symm.trans ht)
        exact absurd howns hfree
  · exact ⟨rfl, nofun⟩

theorem Install.claimed (h : Install w i outcome w') (hw : w.Claimed) : w'.Claimed := by
  cases h with
  | refused _ | busy _ _ => exact hw
  | hand htrigger => exact ⟨fun t ht => (by cases htrigger.symm.trans ht), hw.free⟩
  | unset _ _ _ _ hunarmed =>
    refine ⟨fun t ht harmed => ?_, nofun⟩
    obtain rfl := Trigger.itimer.inj ht
    rw [hunarmed] at harmed
    cases harmed
  | unhandled _ _ _ howns _ | timer _ howns =>
    refine ⟨fun t ht _ => ?_, nofun⟩
    obtain rfl := Trigger.itimer.inj ht
    exact howns
  | unspawned _ _ | thread _ => exact ⟨nofun, hw.free⟩

/-- Nobody else runs the timer of a trigger that may claim the signal. -/
theorem Disarmed.timer_off (hoff : w.Disarmed) (hw : w.Claimed) {t : ItimerTrigger}
    (htrigger : w.trigger = .itimer t) (hclaim : t.ownsSignal = true ∨ w.owned = false) :
    w.timer = none := by
  rcases hclaim with howns | hfree
  · exact hoff.timer t htrigger howns
  · exact hw.free hfree

/-- **An install that fails arms nothing**, where nothing was armed before. -/
theorem Install.disarmed {e : TriggerError} (h : Install w i (.error e) w') (hw : w.Claimed)
    (hoff : w.Disarmed) : w'.Disarmed := by
  cases h with
  | refused _ | busy _ _ => exact hoff
  | unhandled _ htrigger hclaim _ harmed =>
    refine ⟨harmed.trans ?_, fun _ _ _ => hoff.timer_off hw htrigger hclaim⟩
    have hunarmed := hoff.unarmed
    rwa [isArmed, htrigger] at hunarmed
  | unset _ htrigger hclaim _ hunarmed =>
    exact ⟨hunarmed, fun _ _ _ => hoff.timer_off hw htrigger hclaim⟩
  | unspawned reason htrigger => exact ⟨rfl, nofun⟩

/-- Whatever is armed after a failed install was armed before it: a hand trigger, or a timer whose handler
was refused. -/
theorem Install.armed {e : TriggerError} (h : Install w i (.error e) w') (hw : w.Claimed)
    (harmed : w'.isArmed = true) :
    w.isArmed = true ∧ (w.trigger = .hand ∨ ∃ reason, e = .handlerInstall reason) := by
  cases h with
  | refused htrigger => exact ⟨harmed, .inl htrigger⟩
  | @busy t htrigger howns =>
    rw [isArmed, htrigger] at harmed
    rw [hw.owner t htrigger harmed] at howns
    cases howns
  | @unhandled t t' reason htrigger _ _ hsame =>
    refine ⟨?_, .inr ⟨reason, rfl⟩⟩
    rw [isArmed, htrigger]
    exact hsame.symm.trans harmed
  | unset _ _ _ _ hunarmed => cases hunarmed.symm.trans harmed
  | unspawned reason htrigger => cases harmed

end Wiring

/-- What an answer tells about an install; a start that fails before it comes to that tells nothing. -/
def Answer.installed : Answer → Option (Except TriggerError Unit)
  | .started (.ok ()) => some (.ok ())
  | .started (.error (.trigger e)) => some (.error e)
  | _ => none

namespace Session

variable {s t : Session}

def wiring (s : Session) : Wiring :=
  ⟨s.trigger, s.hand.armed, s.signal.owned, s.signal.target, s.signal.disposition, s.signal.timer⟩

theorem isArmed_eq (s : Session) : s.isArmed = s.wiring.isArmed := rfl

/-- The tick that an interval of the session's own trigger brings. A timer that another trigger has set
is not its own. -/
def brings (s : Session) : Option Unit :=
  match s.trigger with
  | .hand => none
  | .itimer t => if t.ownsSignal then s.signal.expire.1 else none
  | .thread t => t.wake

/-- Where no hand trigger is armed, a shot of the host's is in vain. -/
theorem fire_unarmed (h : s.hand.armed = false) : s.fire = (false, s) := by
  have hlive : s.hand.live = false := by
    unfold HandTrigger.live
    rw [h]
    rfl
  rw [fire_eq, hlive]
  exact if_neg nofun

theorem fire_disarmed (h : s.wiring.Disarmed) (hhand : s.trigger = .hand) : s.fire = (false, s) := by
  have hunarmed := h.unarmed
  rw [← isArmed_eq, isArmed, hhand] at hunarmed
  exact fire_unarmed hunarmed

theorem brings_none (h : s.wiring.Disarmed) : s.brings = none := by
  unfold brings
  have hunarmed := h.unarmed
  rw [← isArmed_eq] at hunarmed
  unfold isArmed at hunarmed
  split
  · rfl
  · next t htrigger =>
    split
    · next howns =>
      have htimer : s.signal.timer = none := h.timer t htrigger howns
      unfold ProfSignal.expire
      rw [htimer]
      rfl
    · rfl
  · next t htrigger =>
    rw [htrigger] at hunarmed
    have hworker : t.worker = none := by simpa [ThreadTrigger.armed] using hunarmed
    rw [ThreadTrigger.wake, hworker]
    rfl

/-- An interval of the session's own trigger runs the tick that it brings. -/
theorem AtRest.elapse_own (h : s.AtRest)
    (howns : ∀ t, s.trigger = .itimer t → t.ownsSignal = true) :
    s.elapse = if s.brings.isSome then s.tick else s := by
  cases htrigger : s.trigger with
  | hand => simp [Session.elapse, brings, htrigger]
  | itimer t =>
    have hexpire : s.signal.expire = (s.signal.expire.1, s.signal) := by
      unfold ProfSignal.expire ProfSignal.send
      rw [h.unmasked]
      split <;> rfl
    simp only [Session.elapse, brings, htrigger, howns t htrigger, if_true]
    rw [hexpire]
    cases s.signal.expire.1 <;> rfl
  | thread t =>
    have hwake : t.wake.isSome = t.armed := Option.isSome_map
    simp only [Session.elapse, brings, htrigger, hwake]

/-! ## What leaves the wiring alone -/

theorem wiring_tick (hfree : s.shared.busy = false) : s.tick.wiring = s.wiring := by
  rw [tick_eq hfree]
  cases s.shared.store <;> rfl

theorem wiring_fire (hfree : s.shared.busy = false) : s.fire.2.wiring = s.wiring := by
  rw [fire_eq]
  split
  · split
    · rfl
    · exact wiring_tick (s := s.shot) hfree
  · rfl

theorem wiring_deliver (hfree : s.shared.busy = false) (brought : Option Unit)
    (signal : ProfSignal Unit) :
    (s.deliver (brought, signal)).wiring = ({ s with signal } : Session).wiring := by
  cases brought with
  | none => rfl
  | some u => exact wiring_tick (s := { s with signal }) hfree

theorem wiring_block (s : Session) : s.block.wiring = s.wiring := by
  unfold block
  split <;> rfl

theorem wiring_unblock (hfree : s.shared.busy = false) : s.unblock.wiring = s.wiring := by
  unfold unblock
  split
  · rfl
  · exact wiring_deliver hfree _ _
  · rfl

theorem wiring_send (s : Session) :
    ({ s with signal := s.signal.send.2 } : Session).wiring = s.wiring := by
  unfold ProfSignal.send
  split <;> rfl

theorem wiring_expire (s : Session) :
    ({ s with signal := s.signal.expire.2 } : Session).wiring = s.wiring := by
  unfold ProfSignal.expire
  split
  · exact s.wiring_send
  · rfl

theorem wiring_raise (hfree : s.shared.busy = false) : s.raise.2.wiring = s.wiring := by
  unfold raise
  split
  · exact (wiring_deliver hfree s.signal.send.1 s.signal.send.2).trans s.wiring_send
  · rfl

theorem wiring_raiseMany (hfree : s.shared.busy = false) (times : Nat) :
    (raiseMany times s).2.wiring = s.wiring := by
  induction times with
  | zero => rfl
  | succ times ih =>
    rw [raiseMany_succ]
    exact (wiring_raise ((someTicks_raiseMany hfree times).busy.trans hfree)).trans ih

theorem wiring_raiseMasked (hfree : s.shared.busy = false) (times : Nat) :
    (s.masked (raiseMany times)).2.wiring = s.wiring := by
  have hblock : s.block.shared.busy = false := (someTicks_block s).busy.trans hfree
  have hraise := (someTicks_raiseMany hblock times).busy.trans hblock
  exact (wiring_unblock hraise).trans ((wiring_raiseMany hblock times).trans (wiring_block s))

theorem wiring_elapse (hfree : s.shared.busy = false) : s.elapse.wiring = s.wiring := by
  unfold elapse
  split
  · rfl
  · exact (wiring_deliver hfree s.signal.expire.1 s.signal.expire.2).trans s.wiring_expire
  · split
    · exact wiring_tick hfree
    · rfl

theorem AtRest.wiring_kept (h : s.AtRest) (op : Operation) (hstart : ∀ i, op ≠ .start i)
    (hstop : op ≠ .stop) : (s.perform op).2.wiring = s.wiring := by
  cases op with
  | start i => exact absurd rfl (hstart i)
  | stop => exact absurd rfl hstop
  | reset => rw [perform, h.reset_eq]; rfl
  | isAllocated => rw [perform, h.isAllocated_eq]
  | snapshot => rw [perform, h.snapshot_eq]
  | fire => exact wiring_fire h.free
  | sampleNow => exact wiring_tick h.free
  | raise => exact wiring_raise h.free
  | raiseMasked times => exact wiring_raiseMasked h.free times
  | elapse => exact wiring_elapse h.free
  | setConfig config | push f | pop | advance nanos | refuse on | setNested nested => rfl

/-! ## What changes it -/

theorem disarm_wiring (s : Session) : s.disarm.wiring = s.wiring.disarm := by
  obtain ⟨config, shared, mode, startTime, interval, trigger, stack, clock, hand, signal, nested⟩ := s
  cases trigger with
  | hand => rfl
  | itimer t =>
    cases howns : t.ownsSignal <;>
      simp [disarm, wiring, Wiring.disarm, ItimerTrigger.disarm, howns]
  | thread t => rfl

@[simp] theorem disarm_shared (s : Session) : s.disarm.shared = s.shared := by
  unfold disarm
  split <;> rfl

theorem AtRest.stop_wiring (h : s.AtRest) : s.stop.wiring = s.wiring.disarm := by
  have hshared : s.block.disarm.shared = s.shared := by rw [disarm_shared, block_shared]
  have hunblock := wiring_unblock (s := s.block.disarm) (by rw [hshared, h.free])
  exact hunblock.trans ((disarm_wiring s.block).trans (congrArg Wiring.disarm s.wiring_block))

theorem timerSetting_error {i : Span} {e : TriggerError}
    (h : ProfSignal.timerSetting i = .error e) : e = .invalidInterval i := by
  unfold ProfSignal.timerSetting at h
  split at h
  · exact (Except.error.inj h).symm
  · split at h <;> cases h

/-- What a timer's trigger may claim. -/
theorem claims_of_not_busy {t : ItimerTrigger} (hclaim : ¬ (!t.ownsSignal && s.signal.owned) = true) :
    t.ownsSignal = true ∨ s.wiring.owned = false := by
  cases howns : t.ownsSignal with
  | true => exact .inl rfl
  | false =>
    rw [howns] at hclaim
    exact .inr (Bool.eq_false_iff.2 hclaim)

theorem AtRest.install_wiring (h : s.AtRest) (i : Span) :
    s.wiring.Install i (s.install i).1 (s.install i).2.wiring := by
  cases htrigger : s.trigger with
  | hand =>
    cases hrefusing : s.hand.refusing with
    | true =>
      have hinstall : s.install i = (.error .refused, s) := by
        simp [install, htrigger, HandTrigger.install, hrefusing]
      rw [hinstall]
      exact .refused htrigger
    | false =>
      have hinstall : s.install i = (.ok (), { s with
          hand := { s.hand with tick := some (), interval := some i, armed := true } }) := by
        simp [install, htrigger, HandTrigger.install, hrefusing]
      rw [hinstall]
      exact .hand htrigger
  | itimer t =>
    have hcalm := (install_calm t h.settled h.unmasked i ()).1
    have hinstall : s.install i = ((t.install s.signal i ()).result, { s with
        trigger := .itimer (t.install s.signal i ()).trigger
        signal := (t.install s.signal i ()).signal }) := by
      simp only [install, htrigger, hcalm, deliver]
    rw [hinstall]
    unfold ItimerTrigger.install
    split
    · next hbusy =>
      simp only [Bool.and_eq_true, Bool.not_eq_true'] at hbusy
      have hsame : ({ s with trigger := .itimer t } : Session).wiring = s.wiring := by
        rw [← htrigger]
      rw [hsame]
      exact .busy htrigger hbusy.1
    · next hfree =>
      have hclaim := claims_of_not_busy hfree
      cases hsetting : ProfSignal.timerSetting i with
      | error e => exact .unset (.inl (timerSetting_error hsetting)) htrigger hclaim rfl rfl
      | ok setting => exact .timer htrigger rfl
  | thread t =>
    simp only [install, htrigger]
    exact .thread htrigger

/-- What the system refuses takes an install to one of the ends that it may have. -/
theorem AtRest.installIn_wiring (h : s.AtRest) (system : System) (i : Span) :
    s.wiring.Install i (s.installIn system i).1 (s.installIn system i).2.wiring := by
  cases htrigger : s.trigger with
  | hand =>
    rw [installIn_hand htrigger]
    exact h.install_wiring i
  | itimer t =>
    have hgranted := h.install_wiring i
    rw [← installIn_granted, h.installIn_itimer htrigger, ItimerTrigger.installIn_granted] at hgranted
    rw [h.installIn_itimer htrigger]
    unfold ItimerTrigger.installIn
    split
    · next hbusy =>
      rw [ItimerTrigger.install, if_pos hbusy] at hgranted
      exact hgranted
    · next hfree =>
      have hclaim := claims_of_not_busy hfree
      cases system.handler with
      | error reason => exact .unhandled reason htrigger hclaim rfl rfl
      | ok u =>
        cases system.timer with
        | ok v =>
          dsimp only
          cases hresult : (t.install s.signal i ()).result <;> exact hgranted
        | error reason =>
          -- the timer is asked for only where everything else went well
          unfold ItimerTrigger.install at hgranted ⊢
          rw [if_neg hfree] at hgranted ⊢
          cases hsetting : ProfSignal.timerSetting i with
          | error e =>
            simp only [hsetting] at hgranted ⊢
            exact hgranted
          | ok setting => exact .unset (.inr ⟨reason, rfl⟩) htrigger hclaim rfl rfl
  | thread t =>
    rw [installIn, htrigger]
    cases system.spawn with
    | ok u => exact h.install_wiring i
    | error reason =>
      dsimp only
      split
      · exact h.install_wiring i
      · exact .unspawned reason htrigger

/-- A start either fails before it comes to the trigger, or is an install. -/
theorem AtRest.startIn_wiring (h : s.AtRest) (system : System) (i : Span) :
    (Answer.started (s.startIn system i).1).installed = none ∧
        (s.startIn system i).2.wiring = s.wiring ∨
      ∃ outcome, (Answer.started (s.startIn system i).1).installed = some outcome ∧
        s.wiring.Install i outcome (s.startIn system i).2.wiring := by
  have hwiring := h.provisioned.installIn_wiring system i
  have hdoes := h.startIn_does system i
  generalize s.startIn system i = done at hdoes ⊢
  obtain ⟨outcome, t⟩ := done
  cases hdoes with
  | invalid hstore hconfig => exact .inl ⟨rfl, rfl⟩
  | refused hready hinstall =>
    rw [hinstall] at hwiring
    exact .inr ⟨_, rfl, hwiring⟩
  | begun hready hinstall =>
    rw [hinstall] at hwiring
    exact .inr ⟨_, rfl, hwiring⟩

/-- **Only starts and stops change the wiring.** -/
theorem AtRest.perform_wiring (h : s.AtRest) (op : Operation) :
    (s.perform op).1.installed = none ∧ (s.perform op).2.wiring = s.wiring ∨
      op = .stop ∧ (s.perform op).2.wiring = s.wiring.disarm ∨
      ∃ i outcome, op = .start i ∧ (s.perform op).1.installed = some outcome ∧
        s.wiring.Install i outcome (s.perform op).2.wiring := by
  by_cases hstart : ∃ i, op = .start i
  · obtain ⟨i, rfl⟩ := hstart
    have hwiring := h.startIn_wiring {} i
    rw [startIn_granted] at hwiring
    rcases hwiring with ⟨hnone, hsame⟩ | ⟨outcome, hsome, hinstall⟩
    · exact .inl ⟨hnone, hsame⟩
    · exact .inr (.inr ⟨i, outcome, rfl, hsome, hinstall⟩)
  · by_cases hstop : op = .stop
    · subst hstop
      exact .inr (.inl ⟨rfl, h.stop_wiring⟩)
    · refine .inl ⟨?_, h.wiring_kept op (fun i hi => hstart ⟨i, hi⟩) hstop⟩
      cases op with
      | start i => exact absurd ⟨i, rfl⟩ hstart
      | _ => rfl

end Session

end StackSampler
