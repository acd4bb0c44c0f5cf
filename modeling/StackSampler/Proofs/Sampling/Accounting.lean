import StackSampler.Proofs.Sampling.Outcomes
import StackSampler.Proofs.Sampling.Stop

/-!
# Accounting for the ticks of a profiler that is fired by hand

With the hand trigger all ticks come from the host: it fires the trigger, samples at a point of its own,
or fires from inside a tick. So the trigger's own count, the total and the missed ticks tell what became
of every one of them.

* `ByHand`: what such a profiler keeps; an armed trigger always has a tick and an interval.
* `TickAccount`: one tick from outside of any other.
* `Session.ticks_accounted`: the law, for ticks that fire any number of others, and for runs.
-/

namespace StackSampler

/-- The operation that runs a tick past the trigger. -/
def Operation.samples : Operation → Bool
  | .sampleNow => true
  | _ => false

theorem Config.depth_pos {c : Config} (h : c.validate = .ok ()) : 0 < c.depth := by
  unfold validate at h
  split at h
  · simp at h
  · omega

namespace Session

variable {s : Session} {a : Act} {acts : List Act} {op : Operation}

/-! ## What is kept -/

/-- The stores of a session keep frames. -/
def Deep (s : Session) : Prop := ∀ st ∈ s.shared.store, 0 < st.depth

theorem Effect.deep {answer : Answer} {r : Record} (h : Effect s op answer r) (hsound : s.Sound)
    (hs : s.Deep) : ∀ st ∈ r.shared.store, 0 < st.depth := by
  intro st hst
  rcases h.origin hst with ⟨st₀, n, hst₀, rfl⟩ | ⟨hvalid, rfl⟩
  · rw [((hsound st₀ hst₀).sampled s.stack n).2.depth]
    exact hs st₀ hst₀
  · exact Config.depth_pos hvalid

/-- An armed trigger has a tick to run and an interval. -/
def Loaded (s : Session) : Prop :=
  s.hand.armed = true → s.hand.tick.isSome = true ∧ s.hand.interval.isSome = true

theorem Loaded.live_iff (h : s.Loaded) :
    s.hand.live = true ↔ s.hand.armed = true ∧ ∃ i, s.hand.interval = some i ∧ i.isZero = false := by
  unfold HandTrigger.live
  cases harmed : s.hand.armed with
  | false => simp
  | true =>
    obtain ⟨-, hinterval⟩ := h harmed
    obtain ⟨i, hi⟩ := Option.isSome_iff_exists.1 hinterval
    simp [hi]

theorem Loaded.tick_some (h : s.Loaded) (hlive : s.hand.live = true) : s.hand.tick = some () := by
  obtain ⟨u, hu⟩ := Option.isSome_iff_exists.1 (h ((h.live_iff.1 hlive).1)).1
  exact hu

/-- What is fired from inside a tick runs a tick. -/
theorem Loaded.nestedTicks_eq (h : s.Loaded) : s.nestedTicks = s.nestedFires := by
  unfold nestedTicks nestedFires
  cases hlive : s.hand.live with
  | false => simp
  | true => simp [h.tick_some hlive]

theorem Loaded.installIn (h : s.Loaded) (hhand : s.trigger = .hand) (system : System) (i : Span) :
    (s.installIn system i).2.Loaded ∧ (s.installIn system i).2.hand.fired = s.hand.fired := by
  rw [installIn_hand hhand, install, hhand]
  simp only [HandTrigger.install]
  cases s.hand.refusing with
  | true => exact ⟨h, rfl⟩
  | false => exact ⟨fun _ => ⟨rfl, rfl⟩, rfl⟩

/-! ## Ticks -/

theorem hand_tick (hfree : s.shared.busy = false) :
    s.tick.hand =
      { s.hand with
        fired := s.hand.fired + if s.shared.store.isSome then s.nestedFires else 0 } := by
  rw [tick_eq hfree]
  cases hst : s.shared.store <;> rfl

theorem Loaded.tick (h : s.Loaded) (hfree : s.shared.busy = false) : s.tick.Loaded := by
  unfold Loaded
  rw [hand_tick hfree]
  exact h

/-- **A tick counts itself nowhere**, but every tick inside it counts as fired. -/
theorem Loaded.fired_tick (h : s.Loaded) (hfree : s.shared.busy = false) :
    s.tick.hand.fired + 1 = s.hand.fired + s.tickOutcomes.length := by
  rw [hand_tick hfree, tickOutcomes, hfree]
  cases hst : s.shared.store with
  | none => simp
  | some st =>
    simp [h.nestedTicks_eq]
    omega

theorem Loaded.fire (h : s.Loaded) (hfree : s.shared.busy = false) :
    s.fire.2.Loaded ∧ s.fire.2.hand.fired = s.hand.fired + s.fireOutcomes.length := by
  have hshot : s.shot.Loaded := h
  unfold fireOutcomes
  rw [fire_eq]
  cases hlive : s.hand.live with
  | false => exact ⟨h, rfl⟩
  | true =>
    have hfired := hshot.fired_tick hfree
    have hone : s.shot.hand.fired = s.hand.fired + 1 := rfl
    rw [h.tick_some hlive]
    refine ⟨hshot.tick hfree, ?_⟩
    simp only [if_true, Option.isSome_some, and_self]
    omega

/-- Where the profiling signal has no handler, it runs nothing. -/
theorem raiseManyOutcomes_inherited (h : s.signal.disposition = .inherited) (times : Nat) :
    raiseManyOutcomes times s = [] := by
  induction times with
  | zero => rfl
  | succ times ih =>
    rw [raiseManyOutcomes, ih, raiseMany_inherited h, raiseOutcomes, h]
    rfl

theorem outcomes_raiseMasked (hhand : s.trigger = .hand) (h : s.signal.disposition = .inherited)
    (times : Nat) : s.outcomes (.raiseMasked times) = [] := by
  have hblock : s.block = { s with hand := s.hand.block } := by rw [block, hhand]
  have hmany := raiseManyOutcomes_inherited (s := { s with hand := s.hand.block }) h times
  rw [outcomes, hblock, hmany, raiseMany_inherited (by exact h), unblockOutcomes, hhand]
  rfl

/-- **The trigger counts its ticks**: all those that are run but the host's own samples. -/
theorem Loaded.perform (hloaded : s.Loaded) (h : s.AtRest) (hhand : s.trigger = .hand)
    (hinherited : s.signal.disposition = .inherited) (op : Operation) :
    (s.perform op).2.Loaded ∧
      (s.perform op).2.hand.fired + op.samples.toNat = s.hand.fired + (s.outcomes op).length := by
  cases op with
  | start i =>
    show (s.start i).2.Loaded ∧ (s.start i).2.hand.fired = s.hand.fired
    rcases s.ready_or_invalid with hready | ⟨e, hstore, hconfig⟩
    · rw [h.start_hand hhand hready]
      split
      · exact ⟨hloaded, rfl⟩
      · exact ⟨fun _ => ⟨rfl, rfl⟩, rfl⟩
    · rw [h.start_invalid hstore hconfig]
      exact ⟨hloaded, rfl⟩
  | stop =>
    rw [Session.perform, stop_hand hhand]
    refine ⟨fun harmed => ?_, rfl⟩
    cases harmed
  | reset =>
    rw [Session.perform, h.reset_eq]
    exact ⟨hloaded, rfl⟩
  | isAllocated =>
    rw [Session.perform, h.isAllocated_eq]
    exact ⟨hloaded, rfl⟩
  | snapshot =>
    rw [Session.perform, h.snapshot_eq]
    exact ⟨hloaded, rfl⟩
  | fire => exact hloaded.fire h.free
  | sampleNow => exact ⟨hloaded.tick h.free, hloaded.fired_tick h.free⟩
  | raise =>
    rw [Session.perform, raise_inherited hinherited, outcomes, raiseOutcomes, hinherited]
    exact ⟨hloaded, rfl⟩
  | raiseMasked times =>
    rw [Session.perform, raiseMasked_inherited hhand hinherited,
      outcomes_raiseMasked hhand hinherited]
    exact ⟨hloaded, rfl⟩
  | elapse =>
    rw [Session.perform, elapse_hand hhand, outcomes, elapseOutcomes, hhand]
    exact ⟨hloaded, rfl⟩
  | setConfig config | push f | pop | advance nanos | refuse on | setNested nested =>
    exact ⟨hloaded, rfl⟩

/-! ## The law -/

/-- A profiler that is fired by hand, in a process that makes no other use of triggers. -/
structure ByHand (s : Session) : Prop where
  wired : s.Wired
  trigger : s.trigger = .hand
  loaded : s.Loaded
  sound : s.Sound
  deep : s.Deep

namespace ByHand

theorem atRest (h : s.ByHand) : s.AtRest := h.wired.rigged.atRest

theorem inherited (h : s.ByHand) : s.signal.disposition = .inherited := by
  have hno : s.wiring.onTimer = false := by
    have htrigger : s.wiring.trigger = .hand := h.trigger
    rw [Wiring.onTimer, htrigger]
  exact h.wired.alone.inherited (.inl hno)

theorem of_made (h : s.Made) (hhand : s.trigger = .hand) : s.ByHand := by
  have hstore : s.shared.store = none := by rw [h.fresh.shared]
  refine ⟨h.wired, hhand, fun harmed => ?_, ?_, ?_⟩
  · rw [h.hand] at harmed
    cases harmed
  · simp [Sound, hstore]
  · simp [Deep, hstore]

theorem shot (h : s.ByHand) : s.shot.ByHand where
  wired := ⟨⟨⟨h.atRest.free, h.atRest.unmasked, h.atRest.settled⟩, h.wired.rigged.claimed⟩,
    h.wired.alone⟩
  trigger := h.trigger
  loaded := h.loaded
  sound := h.sound
  deep := h.deep

/-- The trigger is there for life. -/
theorem trigger_act (h : s.ByHand) (hown : a.own = true) : (s.act a).2.trigger = .hand := by
  have htrigger : s.wiring.trigger = .hand := h.trigger
  show (s.act a).2.wiring.trigger = .hand
  rcases h.atRest.act_wiring hown with ⟨-, hsame⟩ | ⟨-, hdisarm⟩ | ⟨i, outcome, -, hinstall⟩
  · rw [hsame]
    exact htrigger
  · rw [hdisarm, Wiring.disarm, htrigger]
  · generalize (s.act a).2.wiring = w at hinstall
    cases hinstall with
    | refused _ | hand _ => exact htrigger
    | busy hitimer _ | unhandled _ hitimer _ _ _ | unset _ hitimer _ _ _ | timer hitimer _ =>
      cases htrigger.symm.trans hitimer
    | unspawned _ hthread | thread hthread => cases htrigger.symm.trans hthread

/-- **One act**, and what the trigger counts in it. -/
theorem loaded_act (h : s.ByHand) (hown : a.own = true) :
    (s.act a).2.Loaded ∧
      (s.act a).2.hand.fired + a.operation.samples.toNat =
        s.hand.fired + (s.outcomes a.operation).length := by
  cases a with
  | call op => exact h.loaded.perform h.atRest h.trigger h.inherited op
  | start system i =>
    have hprovided : ({ s with shared := s.provision } : Session).Loaded := h.loaded
    have hinstalled := hprovided.installIn h.trigger system i
    have hdoes := h.atRest.startIn_does system i
    show (s.startIn system i).2.Loaded ∧ (s.startIn system i).2.hand.fired = s.hand.fired
    generalize s.startIn system i = done at hdoes ⊢
    obtain ⟨outcome, t⟩ := done
    cases hdoes with
    | invalid _ _ => exact ⟨h.loaded, rfl⟩
    | refused _ hinstall | begun _ hinstall =>
      rw [hinstall] at hinstalled
      exact hinstalled
  | install system i => exact h.loaded.installIn h.trigger system i
  | disarm =>
    show s.disarm.Loaded ∧ s.disarm.hand.fired = s.hand.fired
    rw [disarm, h.trigger]
    refine ⟨fun harmed => ?_, rfl⟩
    cases harmed
  | renew | others signal => cases hown

theorem act (h : s.ByHand) (hown : a.own = true) : (s.act a).2.ByHand := by
  obtain ⟨⟨answer, heffect, -⟩, -⟩ := h.atRest.act_effect a
  exact ⟨(h.wired.act hown).1, h.trigger_act hown, (h.loaded_act hown).1, heffect.sound h.sound,
    heffect.deep h.sound h.deep⟩

theorem acted (h : s.ByHand) (hown : ∀ a ∈ acts, a.own = true) : (s.acted acts).ByHand := by
  induction acts generalizing s with
  | nil => exact h
  | cons a acts ih =>
    have hnext := h.act (hown a List.mem_cons_self)
    exact ih hnext fun b hb => hown b (List.mem_cons_of_mem a hb)

/-- Over a run the trigger counts all ticks but the host's own samples. -/
theorem run_fired (h : s.ByHand) (hown : ∀ a ∈ acts, a.own = true) :
    (s.acted acts).hand.fired + (acts.map Act.operation).countP Operation.samples =
      s.hand.fired + (s.runOutcomes acts).length := by
  induction acts generalizing s with
  | nil => rfl
  | cons a acts ih =>
    have ha := hown a List.mem_cons_self
    have hact := (h.loaded_act ha).2
    have hrest := ih (h.act ha) fun b hb => hown b (List.mem_cons_of_mem a hb)
    have hcount : ((a :: acts).map Act.operation).countP Operation.samples =
        (acts.map Act.operation).countP Operation.samples + a.operation.samples.toNat := by
      rw [List.map_cons, List.countP_cons]
      cases a.operation.samples <;> rfl
    rw [acted_cons, hcount, runOutcomes, List.length_append]
    omega

end ByHand

/-- **One tick from outside of any other**, from `s` to `t`. -/
structure TickAccount (s t : Session) : Prop where
  /-- It comes to an end, however deep the ticks inside it would go, and in one way. -/
  runs : ∀ os reads u, Runs .tick s os reads u ↔ os = s.tickOutcomes ∧ reads = s.tickReads ∧ u = t
  free : t.shared.busy = false
  /-- Without a store no stack is read, and nothing is counted. -/
  storeless : s.shared.store = none → s.tickReads = 0 ∧ t = s
  /-- With one, a stack is read once and counted if it has an innermost frame, and every tick from
  inside is missed. -/
  stored : s.shared.store.isSome = true → s.tickReads = 1 ∧
    t.counted = s.counted + (if (s.stack.frameAt 0).isAbsent then 0 else 1) ∧
    t.shared.missed = s.shared.missed + s.nestedFires ∧
    t.hand.fired = s.hand.fired + s.nestedFires
  /-- To the store it makes no difference what is fired from inside. -/
  undisturbed : t.shared.store = (s.setNested 0).tick.shared.store

theorem ByHand.tickAccount (h : s.ByHand) : TickAccount s s.tick := by
  have hfree := h.atRest.free
  have hcame := came_tick hfree
  refine ⟨fun os reads u => runs_tick_iff, hcame.someTicks.busy.trans hfree, fun hst => ?_,
    fun hst => ?_, ?_⟩
  · exact ⟨by simp [tickReads, hst], tick_none hfree hst⟩
  · obtain ⟨st, hst⟩ := Option.isSome_iff_exists.1 hst
    have houtcome := (h.sound st hst).outcome (h.deep st hst) s.stack
    have htotal := st.total_recordFrom s.stack.read
    rw [tick_some hfree hst]
    refine ⟨by simp [tickReads, hst, hfree], ?_, ?_, rfl⟩
    · simp only [counted, hst, Option.elim_some, htotal]
      unfold Store.outcome at houtcome
      cases hanswer : (st.recordFrom s.stack.read).1 <;>
        cases habsent : (s.stack.frameAt 0).isAbsent <;> simp [hanswer, habsent] at houtcome ⊢
    · show s.shared.missed + s.nestedTicks = _
      rw [h.loaded.nestedTicks_eq]
  · have hfree' : (s.setNested 0).shared.busy = false := hfree
    rw [tick_eq hfree, tick_eq hfree']
    cases hst : s.shared.store <;> simp [setNested, hst]

/-- **A tick from outside**, by the hand or by a sample. -/
structure Reentry (s : Session) : Prop where
  /-- The hand fires what is armed with an interval that is not zero. -/
  live : s.hand.live = true ↔ s.hand.armed = true ∧ ∃ i, s.hand.interval = some i ∧ i.isZero = false
  sampled : TickAccount s s.sampleNow
  fired : s.hand.live = true → s.fire.1 = true ∧ TickAccount s.shot s.fire.2
  idle : s.hand.live = false → s.fire = (false, s)

/-- **What became of the ticks of a run.** -/
structure Accounting (s : Session) (acts : List Act) : Prop where
  /-- The ticks are those that the trigger counted and the host's own samples. -/
  delivered : (s.acted acts).hand.fired + (acts.map Act.operation).countP Operation.samples =
    s.hand.fired + (s.runOutcomes acts).length
  /-- Each of them is one of four kinds. -/
  kinds : (s.runOutcomes acts).length =
    (s.runOutcomes acts).count .recorded + (s.runOutcomes acts).count .discarded +
      (s.runOutcomes acts).count .storeless + (s.runOutcomes acts).count .missed
  recorded : (∀ a ∈ acts, a.operation ≠ .reset) →
    (s.acted acts).counted = s.counted + (s.runOutcomes acts).count .recorded
  missed : (s.acted acts).shared.missed = s.shared.missed + (s.runOutcomes acts).count .missed

theorem length_eq_counts (os : List Outcome) :
    os.length = os.count .recorded + os.count .discarded + os.count .storeless +
      os.count .missed := by
  induction os with
  | nil => rfl
  | cons o os ih =>
    rw [List.length_cons, ih]
    cases o <;> simp <;> omega

/-- **Every tick is accounted for.** Whatever was done to a profiler with the hand trigger before, a
tick from outside counts one stack at most, every tick from inside it is missed, and over any run each
tick is recorded, discarded, without a store, or missed. -/
theorem ticks_accounted (h : s.Made) (hhand : s.trigger = .hand) (before : List Act)
    (hown : ∀ a ∈ before, a.own = true) :
    Reentry (s.acted before) ∧
      ∀ acts, (∀ a ∈ acts, a.own = true) → Accounting (s.acted before) acts := by
  have hs : (s.acted before).ByHand := (ByHand.of_made h hhand).acted hown
  refine ⟨⟨hs.loaded.live_iff, hs.tickAccount, fun hlive => ?_, fun hdead => ?_⟩, fun acts hacts =>
    ⟨hs.run_fired hacts, length_eq_counts _, hs.atRest.run_counted, hs.atRest.run_missed acts⟩⟩
  · rw [fire_eq, hlive, hs.loaded.tick_some hlive]
    exact ⟨rfl, hs.shot.tickAccount⟩
  · rw [fire_eq, hdead]
    rfl

/-- Three ticks inside each of two, of which the second finds the stack empty; then a stop, and a shot
in vain. -/
theorem ticks_accounted_nested :
    let s : Session := { config := ⟨2, 1⟩, stack := .new 4, clock := .epoch }
    let before : List Act := [.call (.start ⟨1, 0⟩), .call (.push ⟨7⟩), .call (.setNested 3)]
    let acts : List Act :=
      [.call .fire, .call .pop, .call .sampleNow, .call .stop, .call .fire, .call .sampleNow]
    let t := s.acted before
    s.Made ∧ (∀ a ∈ before, a.own = true) ∧ (∀ a ∈ acts, a.own = true) ∧
      t.fire.1 = true ∧ t.fire.2.counted = 1 ∧ t.fire.2.hand.fired = 4 ∧
      t.runOutcomes acts =
        [.missed, .missed, .missed, .recorded, .missed, .missed, .missed, .discarded, .discarded] ∧
      (t.acted acts).hand.fired + 2 = 9 ∧ (t.acted acts).shared.missed = 6 := by
  intro s before acts t
  have hmade : s.Made := ⟨⟨rfl, rfl, rfl, rfl, rfl, rfl⟩, .inl rfl, rfl, rfl⟩
  have hbefore : ∀ a ∈ before, a.own = true := by decide
  have hacts : ∀ a ∈ acts, a.own = true := by decide
  obtain ⟨hreentry, haccounting⟩ := ticks_accounted hmade rfl before hbefore
  have haccounting : Accounting t acts := haccounting acts hacts
  have houtcomes : t.runOutcomes acts =
      [.missed, .missed, .missed, .recorded, .missed, .missed, .missed, .discarded, .discarded] := by
    decide +kernel
  obtain ⟨hfired, hcount⟩ := hreentry.fired rfl
  obtain ⟨-, hcounted, -, hshots⟩ := hcount.stored rfl
  refine ⟨hmade, hbefore, hacts, hfired, hcounted, hshots, houtcomes, ?_, ?_⟩
  · have hsamples : (acts.map Act.operation).countP Operation.samples = 2 := by decide
    have hunfired : t.hand.fired = 0 := by decide +kernel
    have hlength : (t.runOutcomes acts).length = 9 := by rw [houtcomes]; rfl
    have hdelivered := haccounting.delivered
    rw [hsamples, hunfired, hlength] at hdelivered
    exact hdelivered
  · have hnone : t.shared.missed = 0 := by decide +kernel
    have hsix : (t.runOutcomes acts).count .missed = 6 := by rw [houtcomes]; rfl
    have hmissed := haccounting.missed
    rw [hnone, hsix] at hmissed
    exact hmissed

end Session

end StackSampler
