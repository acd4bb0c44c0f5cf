import StackSampler.Proofs.Sampling.Hand
import StackSampler.Proofs.Sampling.Lifecycle
import StackSampler.Proofs.Sampling.LogicalStack

/-!
# A reset leaves nothing behind

Two profilers are compared: one with a long past that is reset and started again, and one that was just
made and started. What the first has of its past is a **residue**: leftovers in the cells of its stack,
and three counts that were not at zero. No operation shows it.

* `AtRest.perform_aged`: an operation on a session with a residue answers the same, and leaves the
  residue as it was.
* `AtRest.answers_aged`, `AtRest.after_aged`: so does a run.
* `AtRest.start_renewed`: after a reset and a start, a session is a new one with a residue.
-/

namespace StackSampler

deriving instance DecidableEq for ProfSignal

/-- What a profiler has of its past. -/
structure Residue where
  /-- The stack with its leftovers. -/
  stack : ShadowStack
  missed : Nat
  fired : Nat
  maskedDisarms : Nat
  maskDepth : Nat

/-- The residue after an operation: the host changes its stack, the counts stay. -/
def Residue.next (p : Residue) (op : Operation) : Residue := { p with stack := op.onStack p.stack }

namespace Session

variable {s t : Session} {p : Residue}

/-- A session with a residue. -/
def aged (p : Residue) (s : Session) : Session :=
  { s with
    stack := p.stack
    shared := { s.shared with missed := s.shared.missed + p.missed }
    hand := { s.hand with
      fired := s.hand.fired + p.fired
      maskDepth := p.maskDepth
      maskedDisarms := s.hand.maskedDisarms + p.maskedDisarms } }

theorem AtRest.aged (h : s.AtRest) (p : Residue) : (s.aged p).AtRest :=
  ⟨h.free, h.unmasked, h.settled⟩

/-! ## Ticks -/

theorem tick_aged (hfree : s.shared.busy = false) (halike : p.stack.Alike s.stack) :
    (s.aged p).tick = s.tick.aged p := by
  cases hst : s.shared.store with
  | none =>
    rw [tick_none hfree hst]
    exact tick_none hfree hst
  | some st =>
    have haged : (s.aged p).shared.store = some st := hst
    rw [tick_some hfree hst, tick_some (s := s.aged p) hfree haged]
    -- the same frames are read, and the nested ticks are as many
    have hread : (s.aged p).stack.read = s.stack.read := halike.read
    have hticks : (s.aged p).nestedTicks = s.nestedTicks := rfl
    have hfires : (s.aged p).nestedFires = s.nestedFires := rfl
    rw [hread, hticks, hfires]
    simp only [Session.aged, Nat.add_right_comm]

theorem shot_aged (s : Session) (p : Residue) : (s.aged p).shot = s.shot.aged p := by
  simp only [shot, Session.aged, Nat.add_right_comm]

theorem fire_aged (hfree : s.shared.busy = false) (halike : p.stack.Alike s.stack) :
    (s.aged p).fire = (s.fire.1, s.fire.2.aged p) := by
  have hlive : (s.aged p).hand.live = s.hand.live := rfl
  have htick : (s.aged p).hand.tick = s.hand.tick := rfl
  rw [fire_eq, fire_eq, hlive, htick, shot_aged, tick_aged (s := s.shot) hfree halike]
  cases s.hand.live with
  | false => rfl
  | true => cases s.hand.tick <;> rfl

theorem deliver_aged (hfree : s.shared.busy = false) (halike : p.stack.Alike s.stack)
    (brought : Option Unit × ProfSignal Unit) :
    (s.aged p).deliver brought = (s.deliver brought).aged p := by
  obtain ⟨_ | u, signal⟩ := brought
  · rfl
  · exact tick_aged (s := { s with signal }) hfree halike

theorem raise_aged (hfree : s.shared.busy = false) (halike : p.stack.Alike s.stack) :
    (s.aged p).raise = (s.raise.1, s.raise.2.aged p) := by
  have hsignal : (s.aged p).signal = s.signal := rfl
  unfold raise
  rw [hsignal, deliver_aged hfree halike]
  split <;> rfl

theorem raiseMany_aged (hfree : s.shared.busy = false) (halike : p.stack.Alike s.stack) (times : Nat) :
    raiseMany times (s.aged p) = ((raiseMany times s).1, (raiseMany times s).2.aged p) := by
  induction times with
  | zero => rfl
  | succ times ih =>
    have hticks := someTicks_raiseMany hfree times
    have halike' : p.stack.Alike (raiseMany times s).2.stack := by
      rw [hticks.stack]
      exact halike
    have hraise := raise_aged (hticks.busy.trans hfree) halike'
    unfold raiseMany at ih hraise ⊢
    simp only [Nat.repeat]
    rw [ih, hraise]

/-! ## Operations -/

theorem provision_aged (s : Session) (p : Residue) :
    (s.aged p).provision = { s.provision with missed := s.provision.missed + p.missed } := by
  have hstore : (s.aged p).shared.store = s.shared.store := rfl
  have hconfig : (s.aged p).config = s.config := rfl
  unfold provision
  rw [hstore, hconfig]
  split <;> rfl

theorem AtRest.start_aged (h : s.AtRest) (hhand : s.trigger = .hand) (i : Span) :
    (s.aged p).start i = ((s.start i).1, (s.start i).2.aged p) := by
  rcases s.ready_or_invalid with hready | ⟨e, hstore, hconfig⟩
  · have hrefusing : (s.aged p).hand.refusing = s.hand.refusing := rfl
    rw [h.start_hand hhand hready, (h.aged p).start_hand hhand hready, provision_aged, hrefusing]
    split <;> rfl
  · rw [h.start_invalid hstore hconfig, (h.aged p).start_invalid hstore hconfig]

theorem stop_aged (hhand : s.trigger = .hand) : (s.aged p).stop = s.stop.aged p := by
  rw [stop_hand hhand, stop_hand (s := s.aged p) hhand]
  simp only [Session.aged, Nat.add_right_comm]

theorem raiseMasked_aged (hfree : s.shared.busy = false) (hhand : s.trigger = .hand)
    (halike : p.stack.Alike s.stack) (times : Nat) :
    (s.aged p).masked (raiseMany times) =
      ((s.masked (raiseMany times)).1, (s.masked (raiseMany times)).2.aged p) := by
  have hticks := someTicks_raiseMany (s := { s with hand := s.hand.block }) hfree times
  have hunder : ({ s.aged p with hand := (s.aged p).hand.block } : Session) =
      ({ s with hand := s.hand.block } : Session).aged { p with maskDepth := p.maskDepth + 1 } := rfl
  have hmany := raiseMany_aged (s := { s with hand := s.hand.block })
    (p := { p with maskDepth := p.maskDepth + 1 }) hfree halike times
  have htrigger := hticks.trigger.trans hhand
  rw [masked_hand hhand _ htrigger, masked_hand (s := s.aged p) hhand]
  · rw [hunder, hmany]
    rfl
  · rw [hunder, hmany]
    exact htrigger

/-- **An operation does not show a residue**, and leaves its counts as they were. -/
theorem AtRest.perform_aged (h : s.AtRest) (hhand : s.trigger = .hand)
    (halike : p.stack.Alike s.stack) (op : Operation) :
    (s.aged p).perform op = ((s.perform op).1, (s.perform op).2.aged (p.next op)) := by
  cases op with
  | start i => rw [perform, perform, h.start_aged hhand]; rfl
  | stop => rw [perform, perform, stop_aged hhand]; rfl
  | reset => rw [perform, perform, h.reset_eq, (h.aged p).reset_eq]; rfl
  | isAllocated => rw [perform, perform, h.isAllocated_eq, (h.aged p).isAllocated_eq]; rfl
  | snapshot => rw [perform, perform, h.snapshot_eq, (h.aged p).snapshot_eq]; rfl
  | fire => rw [perform, perform, fire_aged h.free halike]; rfl
  | sampleNow => rw [perform, perform, sampleNow, tick_aged h.free halike]; rfl
  | raise => rw [perform, perform, raise_aged h.free halike]; rfl
  | raiseMasked times => rw [perform, perform, raiseMasked_aged h.free hhand halike]; rfl
  | elapse => rw [perform, perform, elapse_hand hhand, elapse_hand (s := s.aged p) hhand]; rfl
  | setConfig config | push f | pop | advance nanos | refuse on | setNested nested => rfl

/-! ## Runs -/

/-- A stack with leftovers stays alike, whatever the host does. -/
theorem alike_next (halike : p.stack.Alike s.stack) (op : Operation) :
    (p.next op).stack.Alike (op.onStack s.stack) := by
  cases op with
  | push f => exact halike.push f
  | pop => exact halike.pop
  | _ => exact halike

/-- **A run does not show a residue**: by induction on the run, as the counts of the residue stay and
its stack stays alike. -/
theorem AtRest.run_aged (h : s.AtRest) (hhand : s.trigger = .hand) (halike : p.stack.Alike s.stack)
    (ops : List Operation) :
    (s.aged p).answers ops = s.answers ops ∧
      ∃ stack, (s.aged p).after ops = (s.after ops).aged { p with stack } := by
  -- on the operations: each is answered alike and leaves stacks that are still alike
  induction ops generalizing s p with
  | nil => exact ⟨rfl, p.stack, rfl⟩
  | cons op ops ih =>
    obtain ⟨hstack, htrigger, -⟩ := h.perform_hand hhand op
    have hperform := h.perform_aged hhand halike op
    have halike' : (p.next op).stack.Alike (s.perform op).2.stack := by
      rw [hstack]
      exact alike_next halike op
    obtain ⟨hanswers, stack, hafter⟩ := ih (h.perform_effect op).2 htrigger halike'
    refine ⟨?_, stack, ?_⟩
    · unfold answers at hanswers ⊢
      simp only [events, List.map_cons, event, hperform]
      rw [hanswers]
    · rw [after_cons, after_cons, hperform, hafter]
      rfl

/-- From `s` and `t` on nothing that can be asked for differs, but for three counts, and these by what
`past` had counted. -/
structure Indistinct (past s t : Session) (ops : List Operation) : Prop where
  answers : s.answers ops = t.answers ops
  snapshot : (s.after ops).snapshot.1 = (t.after ops).snapshot.1
  allocated : (s.after ops).isAllocated.1 = (t.after ops).isAllocated.1
  missed : (s.after ops).shared.missed = (t.after ops).shared.missed + past.shared.missed
  fired : (s.after ops).hand.fired = (t.after ops).hand.fired + past.hand.fired
  maskedDisarms :
    (s.after ops).hand.maskedDisarms = (t.after ops).hand.maskedDisarms + past.hand.maskedDisarms

/-- A profiler made anew in the place of `s`, of the same configuration and for the same host: clock,
stack and habits are the host's. -/
structure Anew (s t : Session) : Prop where
  fresh : t.Fresh
  trigger : t.trigger = .hand
  hand : t.hand = {}
  config : t.config = s.config
  stack : s.stack.Alike t.stack
  clock : t.clock = s.clock
  nested : t.nested = s.nested
  signal : t.signal = s.signal

/-- Without a store, a start that is answered ok makes one of the present configuration. -/
theorem AtRest.start_new (h : s.AtRest) (hhand : s.trigger = .hand) (hstore : s.shared.store = none)
    (hvalid : s.config.validate = .ok ()) (hrefusing : s.hand.refusing = false) (i : Span) :
    s.start i =
      (.ok (), { s with
        shared := { s.shared with store := some (Store.new s.config) }
        hand := { s.hand with tick := some (), interval := some i, armed := true }
        mode := .sampling
        startTime := some s.clock
        interval := some i }) := by
  rw [h.start_hand hhand (.inr hvalid), (provision_none hstore (.inr hvalid)).2, hrefusing]
  rfl

theorem AtRest.valid_of_start (h : s.AtRest) (hhand : s.trigger = .hand)
    (hstore : s.shared.store = none) {i : Span} (hok : (s.start i).1 = .ok ()) :
    s.config.validate = .ok () ∧ s.hand.refusing = false := by
  rcases s.ready_or_invalid with hready | ⟨e, -, hconfig⟩
  · refine ⟨(provision_none hstore hready).1, ?_⟩
    rw [h.start_hand hhand hready] at hok
    cases hrefusing : s.hand.refusing with
    | false => rfl
    | true =>
      rw [hrefusing] at hok
      cases hok
  · rw [h.start_invalid hstore hconfig] at hok
    cases hok

/-- **A start after a reset** makes a new profiler, but for a residue. -/
theorem AtRest.start_renewed (h : s.AtRest) (hhand : s.trigger = .hand) (ht : Anew s t) {i : Span}
    (hok : (s.reset.start i).1 = .ok ()) :
    (t.start i).1 = .ok () ∧
      (s.reset.start i).2 = (t.start i).2.aged
        ⟨s.stack, s.shared.missed, s.hand.fired, s.hand.maskedDisarms, s.hand.maskDepth⟩ := by
  have hreset := h.reset_eq
  have hrest : s.reset.AtRest := (h.perform_effect .reset).2
  have hstore : s.reset.shared.store = none := by rw [hreset]
  have hhand' : s.reset.trigger = .hand := by rw [hreset]; exact hhand
  obtain ⟨hvalid, hrefusing⟩ := hrest.valid_of_start hhand' hstore hok
  have hvalid' : t.config.validate = .ok () := by
    rw [ht.config]
    rw [hreset] at hvalid
    exact hvalid
  rw [hrest.start_new hhand' hstore hvalid hrefusing,
    ht.fresh.atRest.start_new ht.trigger (by rw [ht.fresh.shared]) hvalid' (by rw [ht.hand])]
  refine ⟨rfl, ?_⟩
  -- a start writes over everything else that the past could have changed
  have hfree := h.free
  have hrefusing' : s.hand.refusing = false := by rwa [hreset] at hrefusing
  simp only [Session.aged, hreset, ht.fresh.shared, ht.hand, ht.config, ht.clock, ht.nested, ht.signal,
    hhand, ht.trigger, hfree, hrefusing', Nat.zero_add]

/-- **No state leaks across a reset.** After any run, a profiler that is reset and started behaves over
every further run like one that was just made and started. -/
theorem renewal {s t : Session} (h : s.Fresh) (hhand : s.trigger = .hand) (before : List Operation)
    (ht : Anew (s.after before) t) {i : Span} (hok : ((s.after before).reset.start i).1 = .ok ()) :
    (t.start i).1 = .ok () ∧ ∀ ops,
      Indistinct (s.after before) ((s.after before).reset.start i).2 (t.start i).2 ops := by
  have hrest := h.atRest.after before
  have hhand' : (s.after before).trigger = .hand := (h.atRest.after_hand hhand before).2.1
  obtain ⟨hok', hstart⟩ := hrest.start_renewed hhand' ht hok
  obtain ⟨hstack, htrigger, -⟩ := ht.fresh.atRest.perform_hand ht.trigger (.start i)
  have hrest' : (t.start i).2.AtRest := (ht.fresh.atRest.start_effect i).2
  refine ⟨hok', fun ops => ?_⟩
  have halike : (s.after before).stack.Alike (t.start i).2.stack := hstack ▸ ht.stack
  obtain ⟨hanswers, stack, hafter⟩ := hrest'.run_aged htrigger
    (p := ⟨_, _, _, _, _⟩) halike ops
  rw [← hstart] at hanswers hafter
  have hlast : ((t.start i).2.after ops).AtRest := hrest'.after ops
  refine ⟨hanswers, ?_, ?_, ?_, ?_, ?_⟩
  · rw [hafter, (hlast.aged _).snapshot_eq, hlast.snapshot_eq]
    rfl
  · rw [hafter, (hlast.aged _).isAllocated_eq, hlast.isAllocated_eq]
    rfl
  all_goals rw [hafter]; rfl

/-- A past with an eviction, a nested tick and a masked disarm, and with the leftover of a frame that
was left again. -/
theorem renewal_after_eviction :
    let s : Session := { config := ⟨2, 1⟩, stack := .new 3, clock := .epoch }
    let before : List Operation :=
      [.start ⟨1, 0⟩, .push ⟨7⟩, .fire, .push ⟨8⟩, .setNested 1, .fire, .pop, .stop, .advance 5]
    let t : Session :=
      { config := ⟨2, 1⟩, stack := (ShadowStack.new 3).push ⟨7⟩, clock := ⟨0, 5⟩, nested := 1 }
    let i : Span := ⟨0, 7⟩
    s.Fresh ∧ s.trigger = .hand ∧ Anew (s.after before) t ∧
      ((s.after before).reset.start i).1 = .ok () ∧ (s.after before).shared.missed = 1 ∧
      (s.after before).stack.cells ≠ t.stack.cells ∧
      ∀ ops, Indistinct (s.after before) ((s.after before).reset.start i).2 (t.start i).2 ops := by
  intro s before t i
  have hfresh : s.Fresh := ⟨rfl, rfl, rfl, rfl, rfl, rfl⟩
  have halike : (s.after before).stack.Alike t.stack := by
    refine ⟨by decide +kernel, [⟨7⟩], ?_, (ShadowStack.holds_new 3).push ⟨7⟩⟩
    have hstack := (hfresh.atRest.after_hand rfl before).1
    rw [hstack]
    exact (((ShadowStack.holds_new 3).push ⟨7⟩).push ⟨8⟩).pop
  have hanew : Anew (s.after before) t :=
    ⟨⟨rfl, rfl, rfl, rfl, rfl, rfl⟩, rfl, rfl, by decide +kernel, halike, by decide +kernel,
      by decide +kernel, by decide +kernel⟩
  have hok : ((s.after before).reset.start i).1 = .ok () := by decide +kernel
  exact ⟨hfresh, rfl, hanew, hok, by decide +kernel, by decide +kernel,
    (renewal hfresh rfl before hanew hok).2⟩

end Session

end StackSampler
