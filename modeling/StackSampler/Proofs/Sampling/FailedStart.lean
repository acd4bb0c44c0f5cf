import StackSampler.Proofs.Sampling.Incidents
import StackSampler.Proofs.Sampling.Lifecycle

/-!
# Starts that fail

A start can fail at two points: where the configuration is checked, before there is a store, and where
the trigger is installed, when there is one already. No snapshot tells either from no start at all. A
start that fails at the configuration does not come to its trigger. One that fails at its trigger may
leave a new store behind, but an empty store shows what no store shows.

A start takes a mask of its trigger and drops it while it looks after the store. A hand trigger counts its
masks, so it is masked in the end as it was at first. A timer's trigger does not: there the start lifts
the mask that somebody else holds, and lets a signal through that was held back by it.

* `Poised.failed`: what a failed start does to a session, whether masks are held or not.
* `Session.failed_start_unseen`: the law, after any incidents.
* `Session.start_lifts_mask`: the mask that is lifted.
-/

namespace StackSampler

theorem Store.used_new (c : Config) : (Store.new c).used = [] :=
  List.map_eq_nil_iff.1 (Store.Matches.new c).used_eq

/-- Whether a timer's install fails, and with what, is settled by who owns the signal. -/
theorem ItimerTrigger.installIn_result {τ : Type} (t : ItimerTrigger) (system : System)
    {signal signal' : ProfSignal τ} (howned : signal'.owned = signal.owned) (i : Span) (tick : τ) :
    (t.installIn system signal' i tick).result = (t.installIn system signal i tick).result := by
  have hinstall : (t.install signal' i tick).result = (t.install signal i tick).result := by
    unfold install
    rw [howned]
    split
    · rfl
    · cases ProfSignal.timerSetting i <;> rfl
  unfold installIn
  rw [howned]
  split
  · rfl
  · cases system.handler with
    | error reason => rfl
    | ok u =>
      dsimp only
      cases hresult : (t.install signal i tick).result with
      | error e =>
        rw [hresult] at hinstall
        simp only [hinstall, hresult]
      | ok v =>
        rw [hresult] at hinstall
        cases system.timer <;> simp only [hinstall, hresult]

namespace Session

variable {s t : Session} {install : Session → Except TriggerError Unit × Session} {i : Span}
  {system : System}

/-! ## Before the trigger -/

/-- A mask that nothing waits for is taken and dropped without a tick. -/
theorem shared_unblock_block (h : s.waiting = none) : s.block.unblock.shared = s.shared := by
  unfold waiting at h
  cases htrigger : s.trigger with
  | hand =>
    simp only [block, unblock, htrigger]
  | itimer t =>
    rw [htrigger] at h
    have hdropped : s.signal.block.unblock =
        (none, { s.signal with blocked := false, pending := false }) := Prod.ext h rfl
    simp only [block, unblock, htrigger, hdropped, deliver]
  | thread t => simp only [block, unblock, htrigger]

/-- A start that the check refuses asks no install: the mask of its own is all that it took. -/
theorem startBy_invalid {e : ConfigError} (hstore : s.shared.store = none)
    (hconfig : s.config.validate = .error e) :
    s.startBy install i = (.error (.config e), s.block.unblock) := by
  have hkept : s.provision = s.shared := by simp [provision, hstore, hconfig]
  unfold startBy
  rw [ensureAllocated_masked, hkept, hstore, hconfig]
  rfl

/-- Past the check a start answers what its install answers, and is over with it if that fails. -/
theorem startBy_ready (hready : s.Ready)
    (install : Session → Except TriggerError Unit × Session) :
    let done := install ({ s with shared := s.provision } : Session).block.unblock
    (s.startBy install i).1 = done.1.mapError .trigger ∧
      ∀ e, done.1 = .error e → (s.startBy install i).2 = done.2 := by
  unfold startBy
  rw [ensureAllocated_masked, hready.checked]
  dsimp only
  generalize install _ = done
  obtain ⟨outcome, t⟩ := done
  cases outcome with
  | error e => exact ⟨rfl, fun _ _ => rfl⟩
  | ok u => exact ⟨rfl, nofun⟩

/-- A start that comes to its trigger found the check passed. -/
theorem Ready.passed (hready : s.Ready) (e : ConfigError) :
    ¬ (s.shared.store = none ∧ s.config.validate = .error e) := by
  rintro ⟨hstore, hconfig⟩
  rcases hready with hst | hvalid
  · rw [hstore] at hst
    cases hst
  · cases hconfig.symm.trans hvalid

theorem Ready.startBy_fst (hready : s.Ready) (e : ConfigError) :
    (s.startBy install i).1 ≠ .error (.config e) := by
  rw [(startBy_ready hready install).1]
  generalize (install _).1 = outcome
  cases outcome <;> exact nofun

/-- **Where the check refuses the configuration**, a start fails with its error, and nowhere else. -/
theorem startBy_config_iff (install : Session → Except TriggerError Unit × Session) (i : Span)
    (s : Session) (e : ConfigError) :
    (s.startBy install i).1 = .error (.config e) ↔
      s.shared.store = none ∧ s.config.validate = .error e := by
  rcases s.ready_or_invalid with hready | ⟨e', hstore, hconfig⟩
  · exact iff_of_false (hready.startBy_fst e) (hready.passed e)
  · rw [startBy_invalid hstore hconfig, hstore, hconfig]
    simp

/-! ## At the trigger -/

/-- Whether a trigger can be installed has nothing to do with what is shared with its ticks. -/
theorem installIn_shared (system : System) (i : Span) (s : Session) (shared : Shared) :
    (({ s with shared } : Session).installIn system i).1 = (s.installIn system i).1 := by
  obtain ⟨config, shared', mode, startTime, interval, trigger, stack, clock, hand, signal, nested⟩ := s
  cases trigger with
  | hand =>
    simp only [installIn, Session.install]
    split <;> rfl
  | itimer t => rfl
  | thread t =>
    cases hspawn : system.spawn <;> simp only [installIn, hspawn, Session.install]
    split <;> rfl

/-- Nor has it to do with the mask that a start takes before it, or with a tick that waited for that. -/
theorem Poised.installIn_outcome (h : s.Poised) (system : System) (i : Span) :
    (({ s with shared := s.provision } : Session).block.unblock.installIn system i).1 =
      (s.installIn system i).1 := by
  rcases h.itimer_or_atRest with ⟨t, htrigger⟩ | hrest
  · have hwiring := (wiring_unblock h.provisioned.block.free).trans (wiring_block _)
    generalize ({ s with shared := s.provision } : Session).block.unblock = u at hwiring ⊢
    have hsame : u.trigger = .itimer t := (congrArg Wiring.trigger hwiring).trans htrigger
    have howned : u.signal.owned = s.signal.owned := congrArg Wiring.owned hwiring
    rw [installIn_itimer htrigger, installIn_itimer hsame]
    exact t.installIn_result system howned i ()
  · rw [block_with, hrest.unblock_block, installIn_shared]

/-- **A start that fails**: the session is given its store, if it can have one; some ticks may have waited
for the mask of the start; and an install may have changed triggers and the signal in vain. -/
theorem Poised.failed (h : s.Poised) {e : ProfilerError} (hfailed : (s.startIn system i).1 = .error e) :
    ∃ u, SomeTicks { s with shared := s.provision } u ∧ (s.waiting = none → u.shared = s.provision) ∧
      Rewired u (s.startIn system i).2 := by
  refine ⟨({ s with shared := s.provision } : Session).block.unblock, ?_, fun hwaiting => ?_, ?_⟩
  · exact (someTicks_block _).trans (someTicks_unblock h.provisioned.block.free)
  · exact shared_unblock_block hwaiting
  rcases s.ready_or_invalid with hready | ⟨e', hstore, hconfig⟩
  · obtain ⟨houtcome, hleft⟩ := startBy_ready (i := i) hready (Session.installIn system i)
    have hrewired := (h.provisioned.block.unblock.rewired_installIn system i).1
    rw [Session.startIn, houtcome] at hfailed
    generalize Session.installIn system i _ = done at hfailed hleft hrewired
    obtain ⟨outcome, t⟩ := done
    cases outcome with
    | ok u => cases hfailed
    | error e =>
      rw [Session.startIn, hleft e rfl]
      exact hrewired
  · have hkept : s.provision = s.shared := by simp [provision, hstore, hconfig]
    rw [Session.startIn, startBy_invalid hstore hconfig, hkept]
    exact ⟨_, _, _, rfl⟩

/-! ## What is spared -/

/-- **A store that a start has just made shows nothing.** -/
theorem ofStore_provision (s : Session) (mode : Mode) (startTime : Option Instant) (stopTime : Instant)
    (interval : Option Span) :
    Snapshot.ofStore s.provision.store mode startTime stopTime interval =
      Snapshot.ofStore s.shared.store mode startTime stopTime interval := by
  unfold provision
  split
  · next hstore _ =>
    have hentries : exportedEntries (some (Store.new s.config)) = exportedEntries none := by
      show Entry.overflow 0 :: (Store.new s.config).used.map Slot.entry = [Entry.overflow 0]
      rw [Store.used_new]
      rfl
    unfold Snapshot.ofStore
    rw [hstore, hentries]
    rfl
  · rfl

/-- What a snapshot shows was there before its mask is dropped. -/
theorem snapshot_fst (s : Session) :
    s.snapshot.1 = .ofStore s.shared.store s.mode s.startTime s.clock s.interval := by
  show Snapshot.ofStore s.block.shared.store s.block.mode s.block.startTime s.block.clock
    s.block.interval = _
  rw [block_shared, block_mode, block_startTime, block_clock, block_interval]

/-- **What a failed start leaves alone**, from the session before it to the one after. -/
structure Spared (s t : Session) : Prop where
  mode : t.mode = s.mode
  startTime : t.startTime = s.startTime
  interval : t.interval = s.interval
  config : t.config = s.config
  /-- The flag is given back. -/
  free : t.shared.busy = false
  /-- The trigger is masked as it was, unless it is a timer's and was masked, -/
  mask : s.signal.blocked = false → t.isMasked = s.isMasked
  /-- for no mask of the signal outlives a start; those of a hand trigger are counted. -/
  lifted : t.signal.blocked = false
  depth : t.hand.maskDepth = s.hand.maskDepth
  /-- What is shared is as it was, up to a new store, and to ticks that waited for a mask to be dropped. -/
  ticks : ∃ n k, t.shared = s.provision.sampled s.stack n k
  /-- If none waits, no tick is missed, -/
  missed : s.waiting = none → t.shared.missed = s.shared.missed
  /-- a store that was there is as it was, -/
  store : s.waiting = none → ∀ st, s.shared.store = some st → t.shared.store = some st
  /-- and whatever the clock reads, a snapshot after the start is what one before it would have been. -/
  snapshot : s.waiting = none →
    ∀ clock, ({ t with clock } : Session).snapshot.1 = ({ s with clock } : Session).snapshot.1

theorem ReturnsMasks.isMasked_eq (h : ReturnsMasks s t) (hunmasked : s.signal.blocked = false) :
    t.isMasked = s.isMasked := by
  cases hkind : s.trigger.maskKind with
  | count =>
    rw [isMasked_count hkind, isMasked_count (h.kind.trans hkind), HandTrigger.isMasked,
      HandTrigger.isMasked, h.depth]
  | signal =>
    rw [isMasked_signal hkind, isMasked_signal (h.kind.trans hkind), h.lifted hkind, hunmasked]
  | never => rw [isMasked_never hkind, isMasked_never (h.kind.trans hkind)]

/-- **A start that fails**, at whichever point. -/
theorem Poised.spared (h : s.Poised) {e : ProfilerError} (hfailed : (s.startIn system i).1 = .error e) :
    Spared s (s.startIn system i).2 := by
  obtain ⟨u, ⟨n, k, hand, signal, rfl⟩, hcalm, ⟨trigger, hand', signal', hleft⟩⟩ := h.failed hfailed
  have hrest := h.startIn system i
  have hreturns := returnsMasks_startIn system i s
  generalize (s.startIn system i).2 = t at hleft hrest hreturns ⊢
  have hshared (hwaiting : s.waiting = none) : t.shared = s.provision := by
    rw [hleft]
    exact hcalm hwaiting
  have hmissed : s.provision.missed = s.shared.missed := by
    unfold provision
    split <;> rfl
  refine ⟨by rw [hleft], by rw [hleft], by rw [hleft], by rw [hleft], hrest.free, hreturns.isMasked_eq,
    hrest.unmasked, hreturns.depth, ⟨n, k, by rw [hleft]⟩, ?_, ?_, ?_⟩
  · intro hwaiting
    rw [hshared hwaiting, hmissed]
  · intro hwaiting st hst
    rw [hshared hwaiting, provision_some hst, hst]
  · intro hwaiting clock
    rw [snapshot_fst, snapshot_fst, hshared hwaiting, hleft]
    exact ofStore_provision s s.mode s.startTime clock s.interval

/-! ## The law -/

/-- **How a start ends**, and what it leaves if it fails. -/
structure Ends (s : Session) (system : System) (i : Span) : Prop where
  /-- It fails at the configuration just where there is no store and the check refuses one. -/
  config : ∀ e, (s.startIn system i).1 = .error (.config e) ↔
    s.shared.store = none ∧ s.config.validate = .error e
  /-- Then the trigger is not asked, for any install would have done: the start has taken its mask and
  dropped it, and if the signal was not masked this changes nothing. -/
  untouched : ∀ e, s.shared.store = none → s.config.validate = .error e →
    (∀ install, s.startBy install i = (.error (.config e), s.block.unblock)) ∧
      (s.signal.blocked = false → s.block.unblock = s)
  /-- Any other start answers what the install answers. -/
  answer : (∀ e, (s.startIn system i).1 ≠ .error (.config e)) →
    (s.startIn system i).1 = (s.installIn system i).1.mapError .trigger
  spared : ∀ e, (s.startIn system i).1 = .error e → Spared s (s.startIn system i).2
  /-- No tick waits for a mask to be dropped if the signal is not masked. -/
  waiting : s.signal.blocked = false → s.waiting = none
  /-- All this is so of the session's own start, in a system that refuses nothing. -/
  granted : s.startIn {} i = s.start i

theorem AtRest.waiting_none (h : s.AtRest) : s.waiting = none := by
  unfold waiting
  split
  · rw [ProfSignal.unblock, h.settled]
    rfl
  · rfl

/-- **A failed start is unseen.** After any incidents, with any trigger, any interval and any system: a
start fails at the configuration or answers what its install answers, and if it fails, the mode, the start
time, the interval, the configuration and the masks of a hand trigger are as before. So are the missed
ticks, a store that was there and the snapshots, unless a tick waited for a mask of the signal to be
dropped. No such mask outlives the start. -/
theorem failed_start_unseen (h : s.Fresh) (incidents : List Incident) (system : System) (i : Span) :
    Ends (s.met incidents) system i := by
  have hpoised := h.atRest.poised.met incidents
  generalize s.met incidents = t at hpoised
  refine ⟨startBy_config_iff _ i t, ?_, ?_, fun e => hpoised.spared, ?_, startIn_granted i t⟩
  · intro e hstore hconfig
    refine ⟨fun install => startBy_invalid hstore hconfig, fun hunmasked => ?_⟩
    have hunblock := (hpoised.atRest hunmasked).unblock_block t.shared
    rw [← t.block_shared] at hunblock
    rw [hunblock, t.block_shared]
  · intro hpassed
    rcases t.ready_or_invalid with hready | ⟨e, hstore, hconfig⟩
    · rw [startIn, (startBy_ready hready _).1, hpoised.installIn_outcome]
    · exact absurd ((startBy_config_iff _ i t e).2 ⟨hstore, hconfig⟩) (hpassed e)
  · intro hunmasked
    exact (hpoised.atRest hunmasked).waiting_none

/-- A timer that has brought a sample is started anew, under a configuration that could back no store,
and the system refuses it. -/
theorem failed_start_unseen_timer :
    let s : Session :=
      { config := ⟨2, 1⟩, trigger := .itimer {}, stack := .new 4, clock := .epoch }
    let incidents : List Incident :=
      [.act (.start { handler := .error "EINVAL" } ⟨1, 0⟩), .act (.call (.start ⟨1, 0⟩)), .take,
        .act (.call (.push ⟨7⟩)), .act (.call .elapse), .drop, .act (.call (.setConfig ⟨0, 0⟩))]
    let system : System := { timer := .error "EINVAL" }
    let again := (s.met incidents).startIn system ⟨2, 0⟩
    s.Fresh ∧ again.1 = .error (.trigger (.timerArm "EINVAL")) ∧ Spared (s.met incidents) again.2 ∧
      (s.met incidents).waiting = none ∧ again.2.interval = some ⟨1, 0⟩ ∧ again.2.isArmed = false ∧
      again.2.snapshot.1.samples = 1 := by
  intro s incidents system again
  have hfresh : s.Fresh := ⟨rfl, rfl, rfl, rfl, rfl, rfl⟩
  have hfailed : again.1 = .error (.trigger (.timerArm "EINVAL")) := by decide +kernel
  have hends := failed_start_unseen hfresh incidents system ⟨2, 0⟩
  have hunmasked : (s.met incidents).signal.blocked = false := by decide +kernel
  exact ⟨hfresh, hfailed, hends.spared _ hfailed, hends.waiting hunmasked, by decide +kernel,
    by decide +kernel, by decide +kernel⟩

/-- **A start that fails lifts the mask of a timer's trigger** that the host holds: at the configuration,
where the trigger is not asked at all, and at the trigger, where a signal that the mask held back is
counted. A hand trigger stays masked. -/
theorem start_lifts_mask :
    let timer : Session :=
      { config := ⟨0, 0⟩, trigger := .itimer {}, stack := (ShadowStack.new 4).push ⟨7⟩, clock := .epoch }
    let hand : Session := { timer with config := ⟨2, 1⟩, trigger := .hand }
    let misfit : Span := ⟨9223372036854775808, 0⟩
    let unready := timer.met [.take]
    let running := timer.met
      [.act (.call (.setConfig ⟨2, 1⟩)), .act (.call (.start ⟨7200, 0⟩)), .take, .act (.call .raise)]
    let refusing := hand.met [.act (.call (.refuse true)), .take]
    timer.Fresh ∧ hand.Fresh ∧
      (unready.isMasked = true ∧ (unready.start ⟨1, 0⟩).1 = .error (.config (.depth 0)) ∧
        (unready.start ⟨1, 0⟩).2.isMasked = false) ∧
      (running.isMasked = true ∧ (running.start misfit).1 = .error (.trigger (.invalidInterval misfit)) ∧
        (running.start misfit).2.isMasked = false ∧ running.snapshot.1.samples = 0 ∧
        (running.start misfit).2.snapshot.1.samples = 1) ∧
      refusing.isMasked = true ∧ (refusing.start ⟨1, 0⟩).1 = .error (.trigger .refused) ∧
      (refusing.start ⟨1, 0⟩).2.isMasked = true := by
  intro timer hand misfit unready running refusing
  exact ⟨⟨rfl, rfl, rfl, rfl, rfl, rfl⟩, ⟨rfl, rfl, rfl, rfl, rfl, rfl⟩, by decide +kernel,
    by decide +kernel, by decide +kernel, by decide +kernel, by decide +kernel⟩

end Session

end StackSampler
