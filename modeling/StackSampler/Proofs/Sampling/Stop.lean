import StackSampler.Proofs.Sampling.Acts
import StackSampler.Proofs.Sampling.Hand
import StackSampler.Proofs.Sampling.Lifecycle

/-!
# After a stop

A stop disarms the trigger. From then on until the next start the hand fires in vain and no interval
brings a tick. But the handler of the profiling signal stays in place with its tick, so a signal that
comes from elsewhere after the stop still counts a sample.

A session is one logical thread: what comes to it comes between its operations. A handler that runs on
another thread while the stop returns is not part of it.

* `Suspended.perform_idle`: one operation on a suspended profiler leaves the shared store alone.
* `Session.stop_suspends`: so does every run of them after a stop.
* `Session.counts_stray_signal`: a signal after the stop counts.
-/

namespace StackSampler

/-- What may change the counts after a stop: a start, the host's own samples, a reset; and a signal that
is sent from elsewhere, where it is still handled. -/
def Operation.resumes (handled : Bool) : Operation → Bool
  | .start _ | .sampleNow | .reset => true
  | .raise | .raiseMasked _ => handled
  | _ => false

namespace Wiring

variable {w w' : Wiring} {i : Span} {outcome : Except TriggerError Unit}

/-- The profiler's trigger is the only one in the process: nobody else fires by hand, and nobody else
uses the profiling signal. -/
structure Alone (w : Wiring) : Prop where
  hand : w.trigger ≠ .hand → w.armed = false
  signal : (∀ t, w.trigger = .itimer t → t.ownsSignal = false) →
    w.timer = none ∧ w.disposition = .inherited

/-- Whether the trigger is the interval timer. -/
def onTimer (w : Wiring) : Bool :=
  match w.trigger with
  | .itimer _ => true
  | _ => false

/-- Whether the handler of the profiling signal is in place. -/
def handled (w : Wiring) : Bool := w.disposition = .sampling

theorem Install.onTimer (h : Install w i outcome w') : w'.onTimer = w.onTimer := by
  cases h with
  | refused _ | busy _ _ | hand _ => rfl
  | unhandled _ htrigger _ _ _ | unset _ htrigger _ _ _ | timer htrigger _ | unspawned _ htrigger
  | thread htrigger =>
    rw [Wiring.onTimer, Wiring.onTimer, htrigger]

theorem disarm_onTimer (w : Wiring) : w.disarm.onTimer = w.onTimer := by
  unfold Wiring.disarm
  split
  · rfl
  · next t htrigger =>
    split
    · rw [Wiring.onTimer, Wiring.onTimer, htrigger]
    · rfl
  · next t htrigger => rw [Wiring.onTimer, Wiring.onTimer, htrigger]

theorem disarm_disposition (w : Wiring) : w.disarm.disposition = w.disposition := by
  unfold Wiring.disarm
  split
  · rfl
  · split <;> rfl
  · rfl

/-- Where a signal from elsewhere has no handler, or none of this trigger's, it has its inherited
effect. -/
theorem Alone.inherited (h : w.Alone) (hno : w.onTimer = false ∨ w.handled = false) :
    w.disposition = .inherited := by
  rcases hno with htimer | hunhandled
  · refine (h.signal fun t ht => ?_).2
    rw [onTimer, ht] at htimer
    cases htimer
  · cases hdisposition : w.disposition with
    | inherited => rfl
    | sampling =>
      rw [handled, hdisposition] at hunhandled
      cases hunhandled

theorem Install.alone (h : Install w i outcome w') (hw : w.Alone) : w'.Alone := by
  cases h with
  | refused _ | busy _ _ => exact hw
  | hand htrigger => exact ⟨fun hne => absurd htrigger hne, hw.signal⟩
  | unhandled _ htrigger _ howns _ | unset _ htrigger _ howns _ | timer htrigger howns =>
    refine ⟨fun _ => hw.hand (by rw [htrigger]; exact nofun), fun hno => ?_⟩
    rw [hno _ rfl] at howns
    cases howns
  | unspawned _ htrigger | thread htrigger =>
    refine ⟨fun _ => hw.hand (by rw [htrigger]; exact nofun), fun _ => hw.signal fun t ht => ?_⟩
    cases htrigger.symm.trans ht

theorem Alone.disarm (h : w.Alone) : w.disarm.Alone := by
  unfold Wiring.disarm
  split
  · exact ⟨fun _ => rfl, h.signal⟩
  · next t htrigger =>
    have hhand : w.armed = false := h.hand (by rw [htrigger]; exact nofun)
    split
    · next howns =>
      refine ⟨fun _ => hhand, fun hno => ?_⟩
      cases howns.symm.trans (hno { t with armed := false } rfl)
    · exact h
  · next t htrigger =>
    refine ⟨fun _ => h.hand (by rw [htrigger]; exact nofun), fun _ => h.signal fun t' ht => ?_⟩
    cases htrigger.symm.trans ht

end Wiring

namespace Session

variable {s t : Session} {a : Act} {acts : List Act} {op : Operation} {ops : List Operation}

/-- A profiler that was just made, with a trigger of its own that is new, in a process that makes no
other use of triggers. -/
structure Made (s : Session) : Prop where
  fresh : s.Fresh
  trigger : s.trigger = .hand ∨ s.trigger = .itimer {} ∨ s.trigger = .thread {}
  hand : s.hand.armed = false
  signal : s.signal = {}

/-- What a session keeps through its own acts. -/
structure Wired (s : Session) : Prop where
  rigged : s.Rigged
  alone : s.wiring.Alone

theorem Made.wired (h : s.Made) : s.Wired := by
  have htimer : s.wiring.timer = none := by rw [wiring, h.signal]
  have hdisposition : s.wiring.disposition = .inherited := by rw [wiring, h.signal]
  exact ⟨⟨h.fresh.atRest, .of_new h.trigger fun _ => htimer⟩, fun _ => h.hand,
    fun _ => ⟨htimer, hdisposition⟩⟩

theorem Wired.act (h : s.Wired) (hown : a.own = true) :
    (s.act a).2.Wired ∧ (s.act a).2.wiring.onTimer = s.wiring.onTimer := by
  have hrigged := h.rigged.act a
  rcases h.rigged.atRest.act_wiring hown with ⟨-, hsame⟩ | ⟨-, hdisarm⟩ | ⟨i, outcome, -, hinstall⟩
  · exact ⟨⟨hrigged, hsame ▸ h.alone⟩, by rw [hsame]⟩
  · exact ⟨⟨hrigged, hdisarm ▸ h.alone.disarm⟩, by rw [hdisarm, Wiring.disarm_onTimer]⟩
  · exact ⟨⟨hrigged, hinstall.alone h.alone⟩, hinstall.onTimer⟩

theorem Wired.acted (h : s.Wired) (hown : ∀ a ∈ acts, a.own = true) :
    (s.acted acts).Wired ∧ (s.acted acts).wiring.onTimer = s.wiring.onTimer := by
  induction acts generalizing s with
  | nil => exact ⟨h, rfl⟩
  | cons a acts ih =>
    obtain ⟨hnext, htimer⟩ := h.act (hown a List.mem_cons_self)
    obtain ⟨hlast, htimers⟩ := ih hnext fun b hb => hown b (List.mem_cons_of_mem a hb)
    exact ⟨hlast, htimers.trans htimer⟩

theorem Wired.perform (h : s.Wired) (op : Operation) :
    (s.perform op).2.Wired ∧ (s.perform op).2.wiring.onTimer = s.wiring.onTimer :=
  h.act (a := .call op) rfl

/-- **Nothing is armed**, and no signal has a handler unless that is granted. -/
structure Suspended (handled : Bool) (s : Session) : Prop where
  wired : s.Wired
  disarmed : s.wiring.Disarmed
  inherited : handled = false → s.wiring.disposition = .inherited

/-- Until a start, this stays so. -/
theorem Suspended.perform {handled : Bool} (h : s.Suspended handled) (hop : ∀ i, op ≠ .start i) :
    (s.perform op).2.Suspended handled := by
  have hwired := (h.wired.perform op).1
  rcases h.wired.rigged.atRest.perform_wiring op with ⟨-, hsame⟩ | ⟨-, hdisarm⟩ | ⟨i, -, hstart, -⟩
  · exact ⟨hwired, hsame ▸ h.disarmed, hsame ▸ h.inherited⟩
  · refine ⟨hwired, hdisarm ▸ h.wired.rigged.claimed.disarmed, fun hno => ?_⟩
    rw [hdisarm, Wiring.disarm_disposition]
    exact h.inherited hno
  · exact absurd hstart (hop i)

/-! ## Where nothing is armed -/

theorem Wired.fire_idle (h : s.Wired) (hoff : s.wiring.Disarmed) : s.fire = (false, s) := by
  by_cases hhand : s.trigger = .hand
  · exact fire_disarmed hoff hhand
  · exact fire_unarmed (h.alone.hand hhand)

theorem Wired.elapse_idle (h : s.Wired) (hoff : s.wiring.Disarmed) : s.elapse = s := by
  by_cases howns : ∀ t, s.trigger = .itimer t → t.ownsSignal = true
  · rw [h.rigged.atRest.elapse_own howns, brings_none hoff]
    rfl
  · -- nobody owns the signal, and so nobody has set the timer
    push Not at howns
    obtain ⟨t, htrigger, hfree⟩ := howns
    have htimer : s.signal.timer = none := by
      refine (h.alone.signal fun t' ht => ?_).1
      obtain rfl := Trigger.itimer.inj (htrigger.symm.trans ht)
      exact Bool.eq_false_iff.2 hfree
    have hexpire : s.signal.expire = (none, s.signal) := by
      rw [ProfSignal.expire, htimer]
      rfl
    rw [elapse, htrigger]
    simp only [hexpire, deliver]

/-- Without a handler no signal is sent, and a mask that none came to leaves nothing behind. -/
theorem AtRest.raise_idle (h : s.AtRest) (hno : s.wiring.disposition = .inherited) (times : Nat) :
    s.raise = (false, s) ∧ s.masked (Session.raiseMany times) = (0, s) := by
  have hblock : s.block.signal.disposition = .inherited :=
    (congrArg Wiring.disposition s.wiring_block).trans hno
  refine ⟨raise_inherited hno, ?_⟩
  rw [masked, raiseMany_inherited hblock]
  have hunblock : s.block.unblock = { s with shared := s.block.shared } := h.unblock_block _
  rw [block_shared] at hunblock
  exact congrArg (Prod.mk 0) hunblock

/-- **An operation on a suspended profiler** leaves the shared store alone, unless it is one that may
count again. -/
theorem Suspended.perform_idle {handled : Bool} (h : s.Suspended handled)
    (hop : op.resumes handled = false) : (s.perform op).2.shared = s.shared := by
  have hrest := h.wired.rigged.atRest
  cases op with
  | start i | sampleNow | reset => cases hop
  | stop =>
    have hrecord := hrest.rewired_stop.1.record
    exact congrArg Record.shared hrecord
  | fire => rw [Session.perform, h.wired.fire_idle h.disarmed]
  | elapse => rw [Session.perform, h.wired.elapse_idle h.disarmed]
  | raise => rw [Session.perform, (hrest.raise_idle (h.inherited hop) 0).1]
  | raiseMasked times => rw [Session.perform, (hrest.raise_idle (h.inherited hop) times).2]
  | isAllocated => rw [Session.perform, hrest.isAllocated_eq]
  | snapshot => rw [Session.perform, hrest.snapshot_eq]
  | setConfig config | push f | pop | advance nanos | refuse on | setNested nested => rfl

theorem Suspended.after_idle {handled : Bool} (h : s.Suspended handled)
    (hops : ∀ op ∈ ops, op.resumes handled = false) : (s.after ops).shared = s.shared := by
  induction ops generalizing s with
  | nil => rfl
  | cons op ops ih =>
    have hop := hops op List.mem_cons_self
    have hstart : ∀ i, op ≠ .start i := by
      rintro i rfl
      cases hop
    have hrest := ih (h.perform hstart) fun o ho => hops o (List.mem_cons_of_mem _ ho)
    rw [after_cons, hrest, h.perform_idle hop]

/-! ## The law -/

theorem Wired.stop (h : s.Wired) {handled : Bool}
    (hno : handled = false → s.wiring.disposition = .inherited) : s.stop.Suspended handled := by
  have hstop := h.rigged.atRest.stop_wiring
  refine ⟨(h.perform .stop).1, hstop ▸ h.rigged.claimed.disarmed, fun hfalse => ?_⟩
  rw [hstop, Wiring.disarm_disposition]
  exact hno hfalse

/-- Over the same store two snapshots show the same counts. -/
theorem AtRest.shown_of_shared (hs : s.AtRest) (ht : t.AtRest) (hshared : s.shared = t.shared) :
    s.snapshot.1.samples = t.snapshot.1.samples ∧ s.snapshot.1.entries = t.snapshot.1.entries := by
  rw [hs.snapshot_eq, ht.snapshot_eq, hshared]
  exact ⟨rfl, rfl⟩

/-- **A stop suspends collection**, with any trigger and after any run: until the next start, and apart
from a reset and the host's own samples, neither the hand nor a thread nor the timer changes a count.
Nor does a signal from elsewhere, unless the trigger is the timer and its handler is in place. -/
theorem stop_suspends (h : s.Made) (acts : List Act) (hown : ∀ a ∈ acts, a.own = true)
    (more : List Operation)
    (hmore : ∀ op ∈ more, op.resumes (s.wiring.onTimer && (s.acted acts).wiring.handled) = false) :
    let stopped := (s.acted acts).stop
    (stopped.after more).shared = stopped.shared ∧
      (stopped.after more).snapshot.1.samples = stopped.snapshot.1.samples ∧
      (stopped.after more).snapshot.1.entries = stopped.snapshot.1.entries := by
  intro stopped
  obtain ⟨hwired, htimer⟩ := h.wired.acted hown
  have hstopped := hwired.stop fun hfalse => hwired.alone.inherited <| by
    rwa [htimer, ← Bool.and_eq_false_iff]
  have hshared : (stopped.after more).shared = stopped.shared := hstopped.after_idle hmore
  have hrest := hstopped.wired.rigged.atRest
  exact ⟨hshared, (hrest.after more).shown_of_shared hrest hshared⟩

/-- Two ticks of the timer; then a stop, and everything that a host may try. -/
theorem suspended_after_two :
    let s : Session :=
      { config := ⟨2, 1⟩, trigger := .itimer {}, stack := .new 4, clock := .epoch }
    let acts : List Act :=
      [.call (.start ⟨7200, 0⟩), .call (.push ⟨1⟩), .call .elapse, .call .raise]
    let more : List Operation := [.elapse, .fire, .pop, .elapse, .stop, .setConfig ⟨1, 3⟩, .elapse]
    s.Made ∧ (s.acted acts).stop.snapshot.1.samples = 2 ∧
      ((s.acted acts).stop.after more).snapshot.1.samples = 2 := by
  intro s acts more
  have hmade : s.Made := ⟨⟨rfl, rfl, rfl, rfl, rfl, rfl⟩, .inr (.inl rfl), rfl, rfl⟩
  have htwo : (s.acted acts).stop.snapshot.1.samples = 2 := by decide +kernel
  have hlaw := stop_suspends hmade acts (by decide) more (by decide)
  exact ⟨hmade, htwo, hlaw.2.1.trans htwo⟩

/-- **A signal after the stop counts**: the handler has no part in the disarm. -/
theorem counts_stray_signal :
    let s : Session :=
      { config := ⟨2, 1⟩, trigger := .itimer {}, stack := .new 4, clock := .epoch }
    let ops : List Operation := [.start ⟨7200, 0⟩, .push ⟨1⟩, .stop]
    s.Made ∧ (s.after ops).isArmed = false ∧ (s.after ops).snapshot.1.samples = 0 ∧
      (s.after (ops ++ [.raise])).snapshot.1.samples = 1 := by
  intro s ops
  exact ⟨⟨⟨rfl, rfl, rfl, rfl, rfl, rfl⟩, .inr (.inl rfl), rfl, rfl⟩, by decide +kernel,
    by decide +kernel, by decide +kernel⟩

end Session

end StackSampler
