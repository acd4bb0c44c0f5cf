import StackSampler.Proofs.Sampling.Tick

/-!
# Sessions at rest

Between operations a session is **at rest**: no tick holds the flag, the profiling signal is not held
back, and none waits. A mask that is taken and lifted at rest then leaves nothing behind, so every
control call is one equation, whatever the trigger: `AtRest.isAllocated_eq`, `snapshot_eq`, `reset_eq`,
`ensureAllocated_eq`, and with the trigger `start_invalid` and `start_ready`.
-/

namespace StackSampler

namespace Session

variable {s t : Session}

/-- At rest, as a session is between operations. -/
structure AtRest (s : Session) : Prop where
  free : s.shared.busy = false
  unmasked : s.signal.blocked = false
  settled : s.signal.pending = false

/-! ## Masks -/

theorem someTicks_block (s : Session) : SomeTicks s s.block := by
  unfold block
  split
  · exact .of_calm s s.hand.block s.signal
  · exact .of_calm s s.hand s.signal.block
  · exact .of_calm s s.hand s.signal

/-- Lifting a mask delivers the signal that waits. -/
theorem someTicks_unblock (hfree : s.shared.busy = false) : SomeTicks s s.unblock := by
  unfold unblock
  split
  · exact .of_calm s s.hand.unblock s.signal
  · exact (someTicks_deliver hfree _ _).1
  · exact .of_calm s s.hand s.signal

@[simp] theorem block_config (s : Session) : s.block.config = s.config := by
  unfold block
  split <;> rfl

@[simp] theorem block_shared (s : Session) : s.block.shared = s.shared := by
  unfold block
  split <;> rfl

@[simp] theorem block_mode (s : Session) : s.block.mode = s.mode := by
  unfold block
  split <;> rfl

@[simp] theorem block_startTime (s : Session) : s.block.startTime = s.startTime := by
  unfold block
  split <;> rfl

@[simp] theorem block_interval (s : Session) : s.block.interval = s.interval := by
  unfold block
  split <;> rfl

@[simp] theorem block_clock (s : Session) : s.block.clock = s.clock := by
  unfold block
  split <;> rfl

/-! ## Control calls -/

/-- The shared store as a start leaves it: without a store it gets one, if the present configuration
can back it. -/
def provision (s : Session) : Shared :=
  match s.shared.store, s.config.validate with
  | none, .ok () => { s.shared with store := some (Store.new s.config) }
  | _, _ => s.shared

@[simp] theorem provision_busy (s : Session) : s.provision.busy = s.shared.busy := by
  unfold provision
  split <;> rfl

@[simp] theorem block_provision (s : Session) : s.block.provision = s.provision := by
  simp only [provision, block_shared, block_config]

/-- What a mask is has nothing to do with what is shared. -/
theorem block_with (s : Session) (shared : Shared) :
    ({ s with shared } : Session).block = { s.block with shared } := by
  obtain ⟨config, shared', mode, startTime, interval, trigger, stack, clock, hand, signal, nested⟩ := s
  cases trigger <;> rfl

/-- **What a start does before it comes to its trigger**: it looks after the store under a mask. -/
theorem ensureAllocated_masked (s : Session) :
    s.ensureAllocated =
      (if s.shared.store.isSome then .ok () else s.config.validate,
        ({ s with shared := s.provision } : Session).block.unblock) := by
  have hact : ensureAllocated = masked fun s =>
      (if s.shared.store.isSome then .ok () else s.config.validate,
        { s with shared := s.provision }) := by
    refine congrArg masked (funext fun s => ?_)
    unfold provision
    cases hst : s.shared.store with
    | some st => simp only [Option.isSome_some, if_true]
    | none => cases s.config.validate <;> simp
  rw [hact, masked, s.block_with s.provision]
  simp only [block_shared, block_config, block_provision]

namespace AtRest

/-- A mask taken and lifted again, with no signal in between. -/
theorem unblock_block (h : s.AtRest) (sh : Shared) :
    ({ s.block with shared := sh } : Session).unblock = { s with shared := sh } := by
  obtain ⟨config, shared, mode, startTime, interval, trigger, stack, clock, hand, signal, nested⟩ := s
  obtain ⟨-, hunmasked, hsettled⟩ := h
  cases trigger with
  | hand => rfl
  | itimer t =>
    obtain ⟨owned, target, disposition, timer, blocked, pending⟩ := signal
    obtain rfl : blocked = false := hunmasked
    obtain rfl : pending = false := hsettled
    rfl
  | thread t => rfl

/-- What is done to the shared store under a mask. -/
theorem masked_eq {α : Type} (h : s.AtRest) (look : Session → α) (change : Session → Shared) :
    masked (fun s => (look s, { s with shared := change s })) s =
      (look s.block, { s with shared := change s.block }) :=
  congrArg (Prod.mk (look s.block)) (h.unblock_block (change s.block))

/-- No signal waits, so nothing comes while the flag is held without a mask. -/
theorem isAllocated_eq (h : s.AtRest) : s.isAllocated = (s.shared.store.isSome, s) := by
  have hmasked := h.masked_eq (fun s => s.shared.store.isSome) fun s => s.shared.hold
  have hshared : s.shared.hold.release = s.shared := congrArg (Shared.mk · _ _) h.free.symm
  simp only [block_shared] at hmasked
  rw [isAllocated, hmasked]
  exact congrArg (fun shared => (s.shared.store.isSome, { s with shared })) hshared

theorem snapshot_eq (h : s.AtRest) :
    s.snapshot = (Snapshot.ofStore s.shared.store s.mode s.startTime s.clock s.interval, s) := by
  have hmasked := h.masked_eq
    (fun s => Snapshot.ofStore s.shared.store s.mode s.startTime s.clock s.interval) Session.shared
  simp only [block_shared, block_mode, block_startTime, block_clock, block_interval] at hmasked
  exact hmasked

theorem reset_eq (h : s.AtRest) :
    s.reset = { s with shared := { s.shared with store := none } } := by
  have hmasked := h.masked_eq (fun _ => ()) fun s => { s.shared with store := none }
  simp only [block_shared] at hmasked
  exact congrArg Prod.snd hmasked

theorem ensureAllocated_eq (h : s.AtRest) :
    s.ensureAllocated =
      (if s.shared.store.isSome then .ok () else s.config.validate,
        { s with shared := s.provision }) := by
  rw [ensureAllocated_masked, block_with, h.unblock_block]

end AtRest

/-! ## The trigger -/

/-- Nothing but triggers and the signal changed. -/
def Rewired (s t : Session) : Prop := ∃ trigger hand signal, t = { s with trigger, hand, signal }

/-- An install with no signal held back or waiting runs no tick, and keeps it so. -/
theorem install_calm {τ : Type} (t : ItimerTrigger) {signal : ProfSignal τ}
    (hsettled : signal.pending = false) (hunmasked : signal.blocked = false) (i : Span) (tick : τ) :
    (t.install signal i tick).delivered = none ∧
      (t.install signal i tick).signal.pending = false ∧
      (t.install signal i tick).signal.blocked = false := by
  unfold ItimerTrigger.install
  split
  · exact ⟨rfl, hsettled, hunmasked⟩
  · simp only [ProfSignal.block, ProfSignal.unblock, hsettled]
    split
    · exact ⟨rfl, rfl, rfl⟩
    · exact ⟨rfl, rfl, rfl⟩

theorem AtRest.rewired_install (h : s.AtRest) (i : Span) :
    Rewired s (s.install i).2 ∧ (s.install i).2.AtRest := by
  unfold install
  split
  · split
    · exact ⟨⟨s.trigger, s.hand, s.signal, rfl⟩, h⟩
    · exact ⟨⟨s.trigger, _, s.signal, rfl⟩, h.free, h.unmasked, h.settled⟩
  · next t _ =>
    obtain ⟨hnone, hsettled, hunmasked⟩ := install_calm t h.settled h.unmasked i ()
    simp only [hnone, deliver]
    exact ⟨⟨_, s.hand, _, rfl⟩, h.free, hunmasked, hsettled⟩
  · exact ⟨⟨_, s.hand, s.signal, rfl⟩, h.free, h.unmasked, h.settled⟩

theorem AtRest.rewired_stop (h : s.AtRest) : Rewired s s.stop ∧ s.stop.AtRest := by
  obtain ⟨config, shared, mode, startTime, interval, trigger, stack, clock, hand, signal, nested⟩ := s
  obtain ⟨hfree, hunmasked, hsettled⟩ := h
  cases trigger with
  | hand => exact ⟨⟨.hand, _, signal, rfl⟩, hfree, hunmasked, hsettled⟩
  | itimer t =>
    obtain ⟨owned, target, disposition, timer, blocked, pending⟩ := signal
    obtain rfl : blocked = false := hunmasked
    obtain rfl : pending = false := hsettled
    simp only [stop, masked, block, disarm, ItimerTrigger.disarm]
    split
    · exact ⟨⟨_, hand, _, rfl⟩, hfree, rfl, rfl⟩
    · exact ⟨⟨_, hand, _, rfl⟩, hfree, rfl, rfl⟩
  | thread t => exact ⟨⟨_, hand, signal, rfl⟩, hfree, hunmasked, hsettled⟩

/-! ## Starting -/

/-- Whether a start gets as far as the trigger. -/
def Ready (s : Session) : Prop := s.shared.store.isSome ∨ s.config.validate = .ok ()

theorem ready_or_invalid (s : Session) :
    s.Ready ∨ ∃ e, s.shared.store = none ∧ s.config.validate = .error e := by
  unfold Ready
  cases s.shared.store with
  | some st => exact .inl (.inl rfl)
  | none =>
    cases s.config.validate with
    | ok u => exact .inl (.inr rfl)
    | error e => exact .inr ⟨e, rfl, rfl⟩

/-- The check of the configuration, where a start passes it. -/
theorem Ready.checked (h : s.Ready) :
    (if s.shared.store.isSome then .ok () else s.config.validate : Except ConfigError Unit) = .ok () := by
  rcases h with hst | hvalid
  · rw [if_pos hst]
  · rw [hvalid, ite_self]

theorem AtRest.start_invalid (h : s.AtRest) {e : ConfigError} (hstore : s.shared.store = none)
    (hconfig : s.config.validate = .error e) (i : Span) : s.start i = (.error (.config e), s) := by
  have hkept : s.provision = s.shared := by simp [provision, hstore, hconfig]
  rw [start, h.ensureAllocated_eq, hkept]
  simp only [hstore, Option.isSome_none, hconfig]
  rfl

theorem AtRest.start_ready (h : s.AtRest) (hready : s.Ready) (i : Span) :
    s.start i = match install i { s with shared := s.provision } with
      | (.error e, s) => (.error (.trigger e), s)
      | (.ok (), s) =>
        (.ok (), { s with mode := .sampling, startTime := some s.clock, interval := some i }) := by
  obtain ⟨outcome, t, hinstall⟩ : ∃ outcome t, install i { s with shared := s.provision } = (outcome, t) :=
    ⟨_, _, rfl⟩
  unfold start
  rw [h.ensureAllocated_eq, hready.checked, hinstall]
  cases outcome <;> simp only [hinstall]

/-! ## Ticks from rest -/

theorem AtRest.of_ticks (h : s.AtRest) (hticks : SomeTicks s t) (hsignal : t.signal = s.signal) :
    t.AtRest :=
  ⟨hticks.busy.trans h.free, hsignal ▸ h.unmasked, hsignal ▸ h.settled⟩

/-- Signals sent from rest, each delivered at once. -/
theorem AtRest.raiseMany (h : s.AtRest) (times : Nat) : (raiseMany times s).2.AtRest := by
  induction times with
  | zero => exact h
  | succ times ih =>
    rw [raiseMany_succ]
    have hsignal := (signal_raise ih.free).2 ih.unmasked
    exact ⟨(someTicks_raise ih.free).busy.trans ih.free, hsignal ▸ ih.unmasked, hsignal ▸ ih.settled⟩

/-- A mask that is lifted from a timer lets no signal wait; other triggers hold none back. -/
theorem atRest_unblock (hfree : s.shared.busy = false)
    (h : (∃ t, s.trigger = .itimer t) ∨ s.AtRest) : s.unblock.AtRest := by
  unfold unblock
  split
  · next heq =>
    obtain ⟨t, ht⟩ | hrest := h
    · simp [heq] at ht
    · exact ⟨hrest.free, hrest.unmasked, hrest.settled⟩
  · obtain ⟨hticks, hsignal⟩ := someTicks_deliver hfree s.signal.unblock.1 s.signal.unblock.2
    exact ⟨hticks.busy.trans hfree, by rw [hsignal]; rfl, by rw [hsignal]; rfl⟩
  · next t heq =>
    obtain ⟨t', ht⟩ | hrest := h
    · simp [heq] at ht
    · exact hrest

theorem AtRest.raiseMasked (h : s.AtRest) (times : Nat) :
    SomeTicks s (masked (Session.raiseMany times) s).2 ∧
      (masked (Session.raiseMany times) s).2.AtRest := by
  have hblock := someTicks_block s
  have hraise := someTicks_raiseMany (hblock.busy.trans h.free) times
  have hfree := hraise.busy.trans (hblock.busy.trans h.free)
  have heq : (masked (Session.raiseMany times) s).2 = (Session.raiseMany times s.block).2.unblock := rfl
  rw [heq]
  refine ⟨hblock.trans (hraise.trans (someTicks_unblock hfree)), atRest_unblock hfree ?_⟩
  -- an interval trigger lets the signal through at the end; the others never held it back
  rw [hraise.trigger, hblock.trigger]
  cases htrigger : s.trigger with
  | itimer t => exact .inl ⟨t, rfl⟩
  | hand =>
    have hsignal : s.block.signal = s.signal := by rw [block, htrigger]
    exact .inr ((h.of_ticks hblock hsignal).raiseMany times)
  | thread t =>
    have hsignal : s.block.signal = s.signal := by rw [block, htrigger]
    exact .inr ((h.of_ticks hblock hsignal).raiseMany times)

theorem AtRest.elapse (h : s.AtRest) : SomeTicks s s.elapse ∧ s.elapse.signal = s.signal := by
  have hcalm : SomeTicks s s := .of_calm s s.hand s.signal
  unfold Session.elapse
  split
  · exact ⟨hcalm, rfl⟩
  · have hexpire : s.signal.expire.2 = s.signal := by
      unfold ProfSignal.expire ProfSignal.send
      rw [h.unmasked]
      split <;> rfl
    obtain ⟨hticks, hsignal⟩ := someTicks_deliver h.free s.signal.expire.1 s.signal.expire.2
    exact ⟨hticks, hsignal.trans hexpire⟩
  · split
    · exact someTicks_tick h.free
    · exact ⟨hcalm, rfl⟩

end Session

end StackSampler
