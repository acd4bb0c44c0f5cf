import StackSampler.Proofs.Sampling.MaskFrames

/-!
# Sessions whose masks are held

A host may mask the profiler's trigger and go on with the mask held: make calls, drop the trigger, let signals
wait. A session is then not at rest, but little is missing: no tick holds the flag, and signals wait only
while a timer's trigger holds them back (`Poised`). Every call that takes a mask of its own drops it in the
end, and with that the session is at rest again (`Poised.masked`).

* `Incident`: an act, or a mask taken or dropped.
* `Poised.meet`: what every incident keeps; `Poised.met` is the run.
* `Poised.startIn`: a start leaves a session at rest, whether masks are held or not.
-/

namespace StackSampler

/-- What may come to a session: an act, or the host takes a mask of its trigger, or drops one. -/
inductive Incident where
  | act (a : Act)
  | take
  | drop

namespace Session

variable {s t : Session} {i : Span}

/-- **Between incidents**, with masks held or not. -/
structure Poised (s : Session) : Prop where
  free : s.shared.busy = false
  /-- Signals wait only while they are held back, -/
  waits : s.signal.pending = true → s.signal.blocked = true
  /-- and only a timer's trigger holds them back. -/
  timer : s.signal.blocked = true → s.trigger.maskKind = .signal

theorem AtRest.poised (h : s.AtRest) : s.Poised := by
  refine ⟨h.free, ?_, ?_⟩
  · rw [h.settled]
    exact nofun
  · rw [h.unmasked]
    exact nofun

/-- Where the signal is not held back, a session is at rest. -/
theorem Poised.atRest (h : s.Poised) (hunmasked : s.signal.blocked = false) : s.AtRest := by
  refine ⟨h.free, hunmasked, Bool.eq_false_iff.2 fun hpending => ?_⟩
  cases hunmasked.symm.trans (h.waits hpending)

/-- No other trigger than a timer's keeps a session from rest. -/
theorem Poised.itimer_or_atRest (h : s.Poised) : (∃ t, s.trigger = .itimer t) ∨ s.AtRest := by
  cases htrigger : s.trigger with
  | itimer t => exact .inl ⟨t, rfl⟩
  | hand | thread t =>
    refine .inr (h.atRest (Bool.eq_false_iff.2 fun hblocked => ?_))
    have hkind := h.timer hblocked
    rw [htrigger] at hkind
    cases hkind

/-- What leaves masks alone, and makes no signal wait that is not held back. -/
theorem Poised.of_keeps (h : s.Poised) (hfree : t.shared.busy = false) (hkeeps : KeepsMasks s t)
    (hcalm : s.AtRest → t.AtRest) : t.Poised := by
  cases hblocked : s.signal.blocked with
  | false => exact (hcalm (h.atRest hblocked)).poised
  | true =>
    have hheld : t.signal.blocked = true := hkeeps.blocked.trans hblocked
    exact ⟨hfree, fun _ => hheld, fun _ => hkeeps.kind.trans (h.timer hblocked)⟩

/-! ## Masks -/

theorem Poised.block (h : s.Poised) : s.block.Poised := by
  have hfree : s.block.shared.busy = false := (congrArg Shared.busy s.block_shared).trans h.free
  obtain ⟨htrigger, -, -, hblocked⟩ := s.block_masks
  have hkind := congrArg Trigger.maskKind htrigger
  cases hsignal : s.trigger.maskKind with
  | signal => exact ⟨hfree, fun _ => hblocked hsignal, fun _ => hkind.trans hsignal⟩
  | count | never =>
    -- here masks leave the signal alone
    have hsame : s.block.signal = s.signal := by
      unfold Session.block
      cases htrigger : s.trigger with
      | itimer t => cases htrigger ▸ hsignal
      | hand | thread t => rfl
    refine ⟨hfree, ?_, ?_⟩
    · rw [hsame]
      exact h.waits
    · rw [hsame, hkind]
      exact h.timer

/-- **A mask that is dropped** lets through what waits, and the session is at rest. -/
theorem Poised.unblock (h : s.Poised) : s.unblock.AtRest := atRest_unblock h.free h.itimer_or_atRest

theorem Poised.sharing (h : s.Poised) {shared : Shared} (hfree : shared.busy = false) :
    ({ s with shared } : Session).Poised :=
  ⟨hfree, h.waits, h.timer⟩

/-- **A call with a mask of its own** leaves a session at rest. -/
theorem Poised.masked {α : Type} {act : Session → α × Session} (h : s.Poised)
    (hact : ∀ t : Session, t.Poised → (act t).2.Poised) : (s.masked act).2.AtRest :=
  (hact s.block h.block).unblock

theorem Poised.raise (h : s.Poised) : s.raise.2.Poised :=
  h.of_keeps ((someTicks_raise h.free).busy.trans h.free) (keepsMasks_raise s)
    fun hrest => (hrest.perform_effect .raise).2

theorem Poised.raiseMany (h : s.Poised) (times : Nat) : (raiseMany times s).2.Poised := by
  induction times with
  | zero => exact h
  | succ times ih =>
    rw [raiseMany_succ]
    exact ih.raise

theorem Poised.disarm (h : s.Poised) : s.disarm.Poised :=
  h.of_keeps ((congrArg Shared.busy (disarm_shared s)).trans h.free) (keepsMasks_disarm s)
    fun hrest => hrest.rewired_disarm.2

/-! ## Starts -/

theorem Poised.provisioned (h : s.Poised) : ({ s with shared := s.provision } : Session).Poised :=
  h.sharing (s.provision_busy.trans h.free)

theorem Poised.ensured (h : s.Poised) : s.ensureAllocated.2.AtRest := by
  rw [ensureAllocated_masked]
  exact h.provisioned.block.unblock

/-- **A start leaves a session at rest**, whether it fails or not. -/
theorem Poised.startIn (h : s.Poised) (system : System) (i : Span) : (s.startIn system i).2.AtRest := by
  have hensured := h.ensured
  unfold Session.startIn startBy
  generalize s.ensureAllocated = checked at hensured
  obtain ⟨outcome, t⟩ := checked
  cases outcome with
  | error e => exact hensured
  | ok u =>
    have hrest := (hensured.rewired_installIn system i).2
    dsimp only at hrest ⊢
    generalize t.installIn system i = installed at hrest ⊢
    obtain ⟨outcome, u⟩ := installed
    cases outcome with
    | error e => exact hrest
    | ok v => exact ⟨hrest.free, hrest.unmasked, hrest.settled⟩

/-! ## Incidents -/

/-- The tick that comes when the mask of the profiler's trigger is dropped now. -/
def waiting (s : Session) : Option Unit :=
  match s.trigger with
  | .itimer _ => s.signal.unblock.1
  | _ => none

/-- What is delivered before the flag is given back is missed. -/
theorem release_deliver (hfree : s.shared.busy = false) (brought : Option Unit)
    (signal signal' : ProfSignal Unit) :
    let t := ({ s with shared := s.shared.hold, signal := signal' } : Session).deliver (brought, signal)
    ({ t with shared := t.shared.release } : Session) =
      { s with signal, shared := if brought.isSome then s.shared.miss else s.shared } := by
  obtain ⟨config, ⟨busy, store, missed⟩, mode, startTime, interval, trigger, stack, clock, hand, held,
    nested⟩ := s
  obtain rfl : busy = false := hfree
  rw [deliver_busy rfl]
  cases brought with
  | none => rfl
  | some u => rfl

/-- **The tick that waited for an allocation check is missed**: the mask is dropped while the flag is held. -/
theorem isAllocated_itimer (hfree : s.shared.busy = false) {t : ItimerTrigger}
    (htrigger : s.trigger = .itimer t) :
    s.isAllocated = (s.shared.store.isSome,
      { s with
        shared := if s.waiting.isSome then s.shared.miss else s.shared
        signal := { s.signal with blocked := false, pending := false } }) := by
  have hdropped : s.signal.block.unblock =
      (s.signal.unblock.1, { s.signal with blocked := false, pending := false }) := rfl
  simp only [isAllocated, masked, block, unblock, waiting, htrigger]
  rw [hdropped]
  exact congrArg (Prod.mk _) (htrigger ▸ release_deliver hfree _ _ _)

/-- After an allocation check nothing waits. -/
theorem Poised.isAllocated (h : s.Poised) : s.isAllocated.2.AtRest := by
  rcases h.itimer_or_atRest with ⟨t, htrigger⟩ | hrest
  · rw [isAllocated_itimer h.free htrigger]
    refine ⟨?_, rfl, rfl⟩
    dsimp only
    split <;> exact h.free
  · rw [hrest.isAllocated_eq]
    exact hrest

theorem someTicks_elapse (hfree : s.shared.busy = false) : SomeTicks s s.elapse := by
  unfold elapse
  split
  · exact .of_calm s s.hand s.signal
  · exact (someTicks_deliver hfree _ _).1
  · split
    · exact (someTicks_tick hfree).1
    · exact .of_calm s s.hand s.signal

/-- **One operation.** -/
theorem Poised.perform (h : s.Poised) (op : Operation) : (s.perform op).2.Poised := by
  have hkeeps (hop : op.masks = false) (hfree : (s.perform op).2.shared.busy = false) :
      (s.perform op).2.Poised :=
    h.of_keeps hfree (keepsMasks_perform hop s) fun hrest => (hrest.perform_effect op).2
  cases op with
  | start i =>
    have hstart := (h.startIn {} i).poised
    rw [startIn_granted] at hstart
    exact hstart
  | stop =>
    have hstopped : (s.masked fun s => ((), s.disarm)).2.AtRest := h.masked fun _ ht => ht.disarm
    exact hstopped.poised
  | reset =>
    have hreset : (s.masked fun s =>
        ((), { s with shared := { s.shared with store := none } })).2.AtRest :=
      h.masked fun _ ht => ht.sharing ht.free
    exact hreset.poised
  | isAllocated => exact h.isAllocated.poised
  | snapshot =>
    have htaken : s.snapshot.2.AtRest := h.masked fun _ ht => ht
    exact htaken.poised
  | raiseMasked times => exact (h.masked fun _ ht => ht.raiseMany times).poised
  | fire => exact hkeeps rfl ((someTicks_fire h.free).1.busy.trans h.free)
  | sampleNow => exact hkeeps rfl ((someTicks_tick h.free).1.busy.trans h.free)
  | raise => exact h.raise
  | elapse => exact hkeeps rfl ((someTicks_elapse h.free).busy.trans h.free)
  | setConfig config | push f | pop | advance nanos | refuse on | setNested nested =>
    exact hkeeps rfl h.free

theorem Poised.installIn (h : s.Poised) (system : System) (i : Span) :
    (s.installIn system i).2.Poised := by
  rcases h.itimer_or_atRest with ⟨t, htrigger⟩ | hrest
  · rw [installIn_itimer htrigger]
    have hlifts := t.installIn_lifts system s.signal i ()
    generalize t.installIn system s.signal i () = installed at hlifts ⊢
    rcases hlifts with ⟨hnone, hsame⟩ | ⟨hunmasked, hsettled, -⟩
    · rw [hnone, hsame]
      exact ⟨h.free, h.waits, fun _ => rfl⟩
    · obtain ⟨hticks, hsignal⟩ := someTicks_deliver
        (s := { s with trigger := .itimer installed.trigger }) h.free installed.delivered
        installed.signal
      exact AtRest.poised ⟨hticks.busy.trans h.free, (congrArg ProfSignal.blocked hsignal).trans hunmasked,
        (congrArg ProfSignal.pending hsignal).trans hsettled⟩
  · exact (hrest.rewired_installIn system i).2.poised

theorem Poised.renew (h : s.Poised) : s.renew.Poised := by
  rcases h.itimer_or_atRest with ⟨t, htrigger⟩ | hrest
  · rw [Session.renew, htrigger]
    dsimp only
    unfold ItimerTrigger.drop
    split
    · refine ⟨h.free, ?_, fun _ => rfl⟩
      intro hpending
      cases hpending
    · exact ⟨h.free, h.waits, fun _ => rfl⟩
  · exact hrest.rewired_renew.2.poised

theorem Poised.others (h : s.Poised) (signal : ProfSignal Unit) : (s.others signal).Poised := by
  unfold Session.others
  split
  · exact h
  · exact ⟨h.free, h.waits, h.timer⟩

/-- One incident. -/
def meet (s : Session) : Incident → Session
  | .act a => (s.act a).2
  | .take => s.block
  | .drop => s.unblock

/-- The session after some incidents. -/
def met (s : Session) (incidents : List Incident) : Session := incidents.foldl meet s

/-- **One incident** leaves a session poised. -/
theorem Poised.meet (h : s.Poised) (incident : Incident) : (s.meet incident).Poised := by
  cases incident with
  | take => exact h.block
  | drop => exact h.unblock.poised
  | act a =>
    cases a with
    | call op => exact h.perform op
    | start system i => exact (h.startIn system i).poised
    | install system i => exact h.installIn system i
    | disarm => exact h.disarm
    | renew => exact h.renew
    | others signal => exact h.others signal

/-- **Any incidents.** -/
theorem Poised.met (h : s.Poised) (incidents : List Incident) : (s.met incidents).Poised := by
  induction incidents generalizing s with
  | nil => exact h
  | cons incident incidents ih => exact ih (h.meet incident)

end Session

end StackSampler
