import StackSampler.Proofs.Sampling.Hand
import StackSampler.Proofs.Sampling.Lifecycle
import StackSampler.Proofs.Sampling.LogicalStack
import StackSampler.Proofs.Snapshot.Export

/-!
# From the call stack to the snapshot

A profiler with the hand trigger, seen from outside: the host knows its call stack as a plain list of
frames and which of its ticks ran. So it knows what each tick saw (`views`), and the snapshot counts
exactly that, whatever the store evicts on the way: `Session.snapshot_shows`.

* `Counting.perform`: one operation, and `Counting.after` a run.
-/

namespace StackSampler

/-- What an operation does to the host's call stack, the innermost frame first. -/
def Operation.onFrames (frames : List FrameId) : Operation → List FrameId
  | .push f => f :: frames
  | .pop => frames.tail
  | _ => frames

/-- Whether a tick ran. -/
def Event.isTick (e : Event) : Bool :=
  match e.operation, e.answer with
  | .fire, .told ran => ran
  | .sampleNow, _ => true
  | _, _ => false

/-- What the ticks of a history saw, which began with the call stack `frames`. -/
def views (room depth : Nat) (frames : List FrameId) : List Event → List Backtrace
  | [] => []
  | e :: es =>
    (if e.isTick then [Backtrace.view room depth frames] else []) ++
      views room depth (e.operation.onFrames frames) es

theorem Backtrace.length_view_le (room depth : Nat) (frames : List FrameId) :
    (view room depth frames).length ≤ depth := by
  rw [view, List.length_mapIdx, List.length_take]
  exact Nat.min_le_left ..

theorem length_views_le {room depth : Nat} {frames : List FrameId} {es : List Event} :
    ∀ b ∈ views room depth frames es, b.length ≤ depth := by
  induction es generalizing frames with
  | nil => simp [views]
  | cons e es ih =>
    intro b hb
    rcases List.mem_append.1 hb with hb | hb
    · split at hb
      · rw [List.mem_singleton] at hb
        exact hb ▸ Backtrace.length_view_le room depth frames
      · simp at hb
    · exact ih b hb

theorem ShadowStack.Holds.onStack {stack : ShadowStack} {frames : List FrameId} (h : stack.Holds frames)
    (op : Operation) :
    (op.onStack stack).Holds (op.onFrames frames) ∧ (op.onStack stack).capacity = stack.capacity := by
  cases op with
  | push f => exact ⟨h.push f, stack.capacity_push f⟩
  | pop => exact ⟨h.pop, rfl⟩
  | _ => exact ⟨h, rfl⟩

theorem ShadowStack.Holds.onRun {stack : ShadowStack} {frames : List FrameId} (h : stack.Holds frames)
    (ops : List Operation) :
    (ops.foldl Operation.onStack stack).Holds (ops.foldl Operation.onFrames frames) ∧
      (ops.foldl Operation.onStack stack).capacity = stack.capacity := by
  induction ops generalizing stack frames with
  | nil => exact ⟨h, rfl⟩
  | cons op ops ih =>
    obtain ⟨hholds, hroom⟩ := h.onStack op
    obtain ⟨hholds', hroom'⟩ := ih hholds
    exact ⟨hholds', hroom'.trans hroom⟩

namespace Session

variable {s : Session} {c : Config} {room : Nat} {frames : List FrameId} {seen : List Backtrace}

/-- Only the ticks that the history shows reach the store. -/
theorem AtRest.perform_tick (h : s.AtRest) (hhand : s.trigger = .hand)
    (hsignal : s.signal.disposition = .inherited) {st : Store} (hst : s.shared.store = some st)
    {op : Operation} (hop : op ≠ .reset) :
    (s.perform op).2.shared.store =
      some (if (s.event op).isTick then (st.recordFrom s.stack.read).2 else st) := by
  cases op with
  | start i =>
    have hready : s.Ready := .inl (by rw [hst]; rfl)
    rw [perform, h.start_hand hhand hready, provision_some hst]
    cases s.hand.refusing <;> exact hst
  | stop =>
    rw [perform, stop_hand hhand]
    exact hst
  | reset => exact absurd rfl hop
  | isAllocated =>
    rw [perform, h.isAllocated_eq]
    exact hst
  | snapshot =>
    rw [perform, h.snapshot_eq]
    exact hst
  | fire =>
    unfold event
    rw [perform, fire_eq]
    -- a hand that does not fire, one without a tick, and one with
    cases s.hand.live with
    | false => exact hst
    | true =>
      cases s.hand.tick with
      | none => exact hst
      | some u =>
        have htick := tick_some (s := s.shot) h.free hst
        simp only [if_true, htick]
        rfl
  | sampleNow =>
    show s.tick.shared.store = some (st.recordFrom s.stack.read).2
    rw [tick_some h.free hst]
  | raise =>
    rw [perform, raise_inherited hsignal]
    exact hst
  | raiseMasked times =>
    rw [perform, raiseMasked_inherited hhand hsignal]
    exact hst
  | elapse =>
    rw [perform, elapse_hand hhand]
    exact hst
  | setConfig config | push f | pop | advance nanos | refuse on | setNested nested =>
    exact hst

/-! ## The invariant -/

/-- **A store that has counted what was seen**, and a shadow stack that holds the call stack. -/
structure Counting (c : Config) (room : Nat) (frames : List FrameId) (seen : List Backtrace)
    (s : Session) : Prop where
  rest : s.AtRest
  hand : s.trigger = .hand
  signal : s.signal.disposition = .inherited
  holds : s.stack.Holds frames
  room : s.stack.capacity = room
  store : ∃ st, s.shared.store = some st ∧
    st.Matches c (Tally.after c.slots (seen.map (Backtrace.fit c.depth)))

/-- **One operation**: a tick adds its view to what was seen. -/
theorem Counting.perform (h : Counting c room frames seen s) (hpos : 0 < c.slots) {op : Operation}
    (hop : op ≠ .reset) :
    Counting c room (op.onFrames frames)
      (seen ++ if (s.event op).isTick then [Backtrace.view room c.depth frames] else [])
      (s.perform op).2 := by
  obtain ⟨st, hst, hmatch⟩ := h.store
  obtain ⟨hstack, htrigger, hsignal⟩ := h.rest.perform_hand h.hand op
  have hstore := h.rest.perform_tick h.hand h.signal hst hop
  obtain ⟨hholds, hcapacity⟩ := h.holds.onStack op
  refine ⟨(h.rest.perform_effect op).2, htrigger, hsignal h.signal ▸ h.signal, hstack ▸ hholds,
    hstack ▸ hcapacity.trans h.room, _, hstore, ?_⟩
  cases (s.event op).isTick with
  | false =>
    rw [if_neg Bool.false_ne_true, if_neg Bool.false_ne_true, List.append_nil]
    exact hmatch
  | true =>
    -- what the source writes over a blank buffer is the view, padded to the depth
    have hkey : s.stack.source.fill (Backtrace.blank c.depth) =
        (Backtrace.view room c.depth frames).fit c.depth := by
      have hlen : (Backtrace.blank c.depth).length = c.depth := List.length_replicate
      have hread := h.holds.read (Backtrace.blank c.depth)
      rw [hlen, h.room] at hread
      exact hread
    have hnext := (hmatch.call hpos (.recordFrom s.stack.source)).2
    rw [Call.key, hkey, ← Tally.after_concat] at hnext
    rw [if_pos rfl, if_pos rfl, List.map_append]
    exact hnext

/-- **A run** adds the views of its ticks. -/
theorem Counting.after (h : Counting c room frames seen s) (hpos : 0 < c.slots)
    {ops : List Operation} (hops : .reset ∉ ops) :
    Counting c room (ops.foldl Operation.onFrames frames)
      (seen ++ views room c.depth frames (s.events ops)) (s.after ops) := by
  induction ops generalizing s frames seen with
  | nil =>
    rw [events, views, List.append_nil]
    exact h
  | cons op ops ih =>
    obtain ⟨hop, hops⟩ := not_or.1 (fun hmem => hops (List.mem_cons.2 hmem))
    rw [events, views, ← List.append_assoc]
    exact ih (h.perform hpos (Ne.symm hop)) hops

/-- **A snapshot counts what the ticks saw.** In the life of any profiler with the hand trigger, take a
start that finds no store and a valid configuration: over every further run without a reset, the store
and the snapshot are those of the views of the ticks since. -/
theorem snapshot_shows (h : s.Fresh) (hhand : s.trigger = .hand)
    (hsignal : s.signal.disposition = .inherited) (hholds : s.stack.Holds frames)
    (before ops : List Operation) (i : Span) (hnone : (s.after before).shared.store = none)
    (hvalid : (s.after before).config.validate = .ok ()) (hops : .reset ∉ ops) :
    let begun := ((s.after before).start i).2
    let depth := (s.after before).config.depth
    let seen := views s.stack.capacity depth (before.foldl Operation.onFrames frames) (begun.events ops)
    ∃ st, (begun.after ops).shared.store = some st ∧
      (begun.after ops).snapshot.1.Shows depth seen st := by
  intro begun depth seen
  have hrest := h.atRest.after before
  have hready : (s.after before).Ready := .inr hvalid
  have hpos := Config.slots_pos hvalid
  obtain ⟨hstack, htrigger, hsame⟩ := h.atRest.after_hand hhand before
  obtain ⟨hstack', htrigger', hsame'⟩ := hrest.perform_hand htrigger (.start i)
  obtain ⟨hholds', hroom⟩ := hholds.onRun before
  have hsignal' : (s.after before).signal.disposition = .inherited := hsame hsignal ▸ hsignal
  -- refused by the trigger or not, the start leaves an empty store
  have hstore : begun.shared.store = some (Store.new (s.after before).config) := by
    have hnew := (provision_none hnone hready).2
    show ((s.after before).start i).2.shared.store = _
    rw [hrest.start_hand htrigger hready, hnew]
    split <;> rfl
  have hbegun : Counting (s.after before).config s.stack.capacity
      (before.foldl Operation.onFrames frames) [] begun := by
    refine ⟨(hrest.start_effect i).2, htrigger', (hsame' hsignal').symm ▸ hsignal', ?_, ?_,
      _, hstore, .new _⟩
    · exact hstack'.trans hstack ▸ hholds'
    · exact (congrArg ShadowStack.capacity (hstack'.trans hstack)).trans hroom
  have hcounting := hbegun.after hpos hops
  obtain ⟨st, hst, hmatch⟩ := hcounting.store
  refine ⟨st, hst, hmatch.exported hpos length_views_le ?_ ?_⟩
  · rw [hcounting.rest.snapshot_eq, hst]
    rfl
  · rw [hcounting.rest.snapshot_eq, hst]
    rfl

/-- A stack with room for two frames: the tick under a third frame sees none there and is not counted,
and a tick that is fired by a tick is missed. -/
theorem snapshot_shows_deep_stack :
    let s : Session := { config := ⟨2, 1⟩, stack := .new 2, clock := .epoch }
    let before : List Operation := [.push ⟨5⟩]
    let ops : List Operation :=
      [.fire, .push ⟨6⟩, .sampleNow, .push ⟨7⟩, .fire, .pop, .setNested 2, .fire, .stop, .fire]
    let begun := ((s.after before).start ⟨1, 0⟩).2
    let seen := views s.stack.capacity (s.after before).config.depth
      (before.foldl Operation.onFrames []) (begun.events ops)
    seen = [[⟨5⟩], [⟨6⟩, ⟨5⟩], [FrameId.absent, ⟨6⟩], [⟨6⟩, ⟨5⟩]] ∧
      (begun.after ops).snapshot.1.entries =
        [.overflow 1, ⟨[.function ⟨6⟩, .function ⟨5⟩], 2⟩] ∧
      ∃ st, (begun.after ops).shared.store = some st ∧
        (begun.after ops).snapshot.1.Shows (s.after before).config.depth seen st := by
  intro s before ops begun seen
  have hfresh : s.Fresh := ⟨rfl, rfl, rfl, rfl, rfl, rfl⟩
  refine ⟨by decide +kernel, by decide +kernel, ?_⟩
  have hhand : s.trigger = .hand := rfl
  have hsignal : s.signal.disposition = .inherited := rfl
  have hholds : s.stack.Holds [] := ShadowStack.holds_new 2
  have hnone : (s.after before).shared.store = none := rfl
  have hvalid : (s.after before).config.validate = .ok () := rfl
  have hops : .reset ∉ ops := by simp [ops]
  have hshows := snapshot_shows hfresh hhand hsignal hholds before ops ⟨1, 0⟩ hnone hvalid hops
  -- the run is not to be evaluated once more
  clear_value s before ops
  exact hshows

end Session

end StackSampler
