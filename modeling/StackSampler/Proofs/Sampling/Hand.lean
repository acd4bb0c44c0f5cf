import StackSampler.Proofs.Sampling.Effect
import StackSampler.Proofs.Sampling.Wiring

/-!
# The host's part

With any trigger the shadow stack is the host's alone: `AtRest.perform_stack`. With the hand trigger, which
stays, a start and a stop are plain equations: `AtRest.start_hand`, `stop_hand`, `AtRest.perform_hand`.
-/

namespace StackSampler

/-- What an operation does to the shadow stack. -/
def Operation.onStack (stack : ShadowStack) : Operation → ShadowStack
  | .push f => stack.push f
  | .pop => stack.pop
  | _ => stack

namespace Session

variable {s t : Session}

/-! ## The shadow stack -/

theorem SomeTicks.stack (h : SomeTicks s t) : t.stack = s.stack := by
  obtain ⟨n, k, hand, signal, rfl⟩ := h
  rfl

theorem Rewired.stack (h : Rewired s t) : t.stack = s.stack := by
  obtain ⟨trigger, hand, signal, rfl⟩ := h
  rfl

theorem AtRest.startIn_stack (h : s.AtRest) (system : System) (i : Span) :
    (s.startIn system i).2.stack = s.stack := by
  have hrewired := (h.provisioned.rewired_installIn system i).1
  have hdoes := h.startIn_does system i
  generalize s.startIn system i = done at hdoes ⊢
  obtain ⟨outcome, t⟩ := done
  cases hdoes with
  | invalid hstore hconfig => rfl
  | refused hready heq | begun hready heq =>
    rw [heq] at hrewired
    exact hrewired.stack

/-- **Only the host enters and leaves frames.** -/
theorem AtRest.perform_stack (h : s.AtRest) (op : Operation) :
    (s.perform op).2.stack = op.onStack s.stack := by
  cases op with
  | start i =>
    show (s.start i).2.stack = s.stack
    rw [← startIn_granted]
    exact h.startIn_stack {} i
  | stop => exact h.rewired_stop.1.stack
  | reset =>
    rw [perform, h.reset_eq]
    rfl
  | isAllocated =>
    rw [perform, h.isAllocated_eq]
    rfl
  | snapshot =>
    rw [perform, h.snapshot_eq]
    rfl
  | fire => exact (someTicks_fire h.free).1.stack
  | sampleNow => exact (someTicks_tick h.free).1.stack
  | raise => exact (someTicks_raise h.free).stack
  | raiseMasked times => exact (h.raiseMasked times).1.stack
  | elapse => exact h.elapse.1.stack
  | setConfig config | push f | pop | advance nanos | refuse on | setNested nested => rfl

/-! ## Starts and stops by hand -/

/-- An ok answer arms the trigger and writes the header; a refusal leaves no more than a new store. -/
theorem AtRest.start_hand (h : s.AtRest) (hhand : s.trigger = .hand) (hready : s.Ready) (i : Span) :
    s.start i =
      if s.hand.refusing then (.error (.trigger .refused), { s with shared := s.provision })
      else
        (.ok (), { s with
          shared := s.provision
          hand := { s.hand with tick := some (), interval := some i, armed := true }
          mode := .sampling
          startTime := some s.clock
          interval := some i }) := by
  have hinstall : install i { s with shared := s.provision } =
      if s.hand.refusing then (.error .refused, { s with shared := s.provision })
      else (.ok (), { s with
        shared := s.provision
        hand := { s.hand with tick := some (), interval := some i, armed := true } }) := by
    unfold install HandTrigger.install
    simp only [hhand]
    cases s.hand.refusing <;> rfl
  rw [h.start_ready hready, hinstall]
  cases s.hand.refusing <;> rfl

/-- The disarm counts as one under a mask. -/
theorem stop_hand (hhand : s.trigger = .hand) :
    s.stop = { s with hand := { s.hand with
      armed := false
      maskedDisarms := s.hand.maskedDisarms + 1 } } := by
  obtain ⟨config, shared, mode, startTime, interval, trigger, stack, clock, hand, signal, nested⟩ := s
  obtain rfl : trigger = .hand := hhand
  simp only [stop, masked, block, unblock, disarm, HandTrigger.block, HandTrigger.disarm,
    HandTrigger.unblock, Nat.succ_pos, if_true, Nat.add_sub_cancel]

/-- A mask on the hand trigger holds no signal back. -/
theorem masked_hand {α : Type} (hhand : s.trigger = .hand) (act : Session → α × Session)
    (hact : (act { s with hand := s.hand.block }).2.trigger = .hand) :
    masked act s =
      ((act { s with hand := s.hand.block }).1,
        { (act { s with hand := s.hand.block }).2 with
          hand := (act { s with hand := s.hand.block }).2.hand.unblock }) := by
  have hblock : s.block = { s with hand := s.hand.block } := by rw [block, hhand]
  unfold masked
  rw [hblock]
  simp only [unblock, hact]

/-! ## Signals that are not the profiler's -/

theorem raise_inherited (h : s.signal.disposition = .inherited) : s.raise = (false, s) := by
  unfold raise
  rw [h]
  exact if_neg nofun

theorem raiseMany_inherited (h : s.signal.disposition = .inherited) (times : Nat) :
    raiseMany times s = (0, s) := by
  induction times with
  | zero => rfl
  | succ times ih =>
    unfold raiseMany at ih ⊢
    rw [Nat.repeat, ih]
    show (0 + s.raise.1.toNat, s.raise.2) = (0, s)
    rw [raise_inherited h]
    rfl

theorem raiseMasked_inherited (hhand : s.trigger = .hand) (h : s.signal.disposition = .inherited)
    (times : Nat) : s.masked (raiseMany times) = (0, s) := by
  have hmany := raiseMany_inherited (s := { s with hand := s.hand.block }) h times
  rw [masked_hand hhand, hmany]
  · rfl
  · rw [hmany]
    exact hhand

theorem elapse_hand (hhand : s.trigger = .hand) : s.elapse = s := by rw [elapse, hhand]

/-! ## A run by hand -/

/-- An operation changes the shadow stack by entering or leaving a frame, the hand trigger is there for
life, and so is a signal that no trigger took. -/
theorem AtRest.perform_hand (h : s.AtRest) (hhand : s.trigger = .hand) (op : Operation) :
    (s.perform op).2.stack = op.onStack s.stack ∧ (s.perform op).2.trigger = .hand ∧
      (s.signal.disposition = .inherited → (s.perform op).2.signal = s.signal) := by
  refine ⟨h.perform_stack op, ?_⟩
  have of_ticks {t : Session} (hticks : SomeTicks s t)
      (hsignal : s.signal.disposition = .inherited → t.signal = s.signal) :
      t.trigger = .hand ∧ (s.signal.disposition = .inherited → t.signal = s.signal) :=
    ⟨hticks.trigger.trans hhand, hsignal⟩
  cases op with
  | start i =>
    show (s.start i).2.trigger = .hand ∧
      (s.signal.disposition = .inherited → (s.start i).2.signal = s.signal)
    rcases s.ready_or_invalid with hready | ⟨e, hstore, hconfig⟩
    · rw [h.start_hand hhand hready]
      split <;> exact ⟨hhand, fun _ => rfl⟩
    · rw [h.start_invalid hstore hconfig]
      exact ⟨hhand, fun _ => rfl⟩
  | stop =>
    rw [perform, stop_hand hhand]
    exact ⟨hhand, fun _ => rfl⟩
  | reset =>
    rw [perform, h.reset_eq]
    exact ⟨hhand, fun _ => rfl⟩
  | isAllocated =>
    rw [perform, h.isAllocated_eq]
    exact ⟨hhand, fun _ => rfl⟩
  | snapshot =>
    rw [perform, h.snapshot_eq]
    exact ⟨hhand, fun _ => rfl⟩
  | fire =>
    obtain ⟨hticks, hsignal⟩ := someTicks_fire h.free
    exact of_ticks hticks fun _ => hsignal
  | sampleNow =>
    obtain ⟨hticks, hsignal⟩ := someTicks_tick h.free
    exact of_ticks hticks fun _ => hsignal
  | raise =>
    refine of_ticks (someTicks_raise h.free) fun hinherited => ?_
    rw [perform, raise_inherited hinherited]
  | raiseMasked times =>
    refine of_ticks (h.raiseMasked times).1 fun hinherited => ?_
    rw [perform, raiseMasked_inherited hhand hinherited]
  | elapse =>
    rw [perform, elapse_hand hhand]
    exact ⟨hhand, fun _ => rfl⟩
  | setConfig config | push f | pop | advance nanos | refuse on | setNested nested =>
    exact ⟨hhand, fun _ => rfl⟩

/-- What a run does to the host's part. -/
theorem AtRest.after_hand (h : s.AtRest) (hhand : s.trigger = .hand) (ops : List Operation) :
    (s.after ops).stack = ops.foldl Operation.onStack s.stack ∧ (s.after ops).trigger = .hand ∧
      (s.signal.disposition = .inherited → (s.after ops).signal = s.signal) := by
  induction ops generalizing s with
  | nil => exact ⟨rfl, hhand, fun _ => rfl⟩
  | cons op ops ih =>
    obtain ⟨hstack, htrigger, hsignal⟩ := h.perform_hand hhand op
    obtain ⟨hstack', htrigger', hsignal'⟩ := ih (h.perform_effect op).2 htrigger
    refine ⟨hstack'.trans (by rw [hstack]; rfl), htrigger', fun hinherited => ?_⟩
    have hfirst := hsignal hinherited
    exact (hsignal' (by rw [hfirst]; exact hinherited)).trans hfirst

end Session

end StackSampler
