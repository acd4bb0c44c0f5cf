import StackSampler.Proofs.Sampling.Growth
import Mathlib.Data.List.Induction

/-!
# The life of a profiler

Mode, start time, interval and the store have different lives: the first three follow the starts that
were answered ok, the store comes with a start and goes with a reset, and the configuration counts
when a store is made and at no other time. `Session.lifecycle` reads each of them off the history of
a run.

* `Effect.header`: what one operation does to mode, start time and interval; `Fresh.header` is the
  run lemma, by induction on the last operation.
* `Effect.allocated`, `Effect.unallocated`: what one operation does to having a store.
-/

namespace StackSampler

/-- The interval and the clock reading of a start that was answered ok. -/
def Event.begun (e : Event) : Option (Span × Instant) :=
  match e.operation, e.answer with
  | .start i, .started (.ok ()) => some (i, e.clock)
  | _, _ => none

namespace Session

variable {s : Session} {op : Operation} {a : Answer} {r : Record} {ops more : List Operation}

/-- A profiler that was just made, in a process that holds no signal back. -/
structure Fresh (s : Session) : Prop where
  mode : s.mode = .idle
  startTime : s.startTime = none
  interval : s.interval = none
  shared : s.shared = {}
  unmasked : s.signal.blocked = false
  settled : s.signal.pending = false

theorem Fresh.atRest (h : s.Fresh) : s.AtRest := ⟨by rw [h.shared], h.unmasked, h.settled⟩

/-- The starts of a run that were answered ok, in their order. -/
def begun (s : Session) (ops : List Operation) : List (Span × Instant) :=
  (s.events ops).filterMap Event.begun

theorem begun_concat :
    s.begun (ops ++ [op]) = s.begun ops ++ ((s.after ops).event op).begun.toList := by
  unfold begun
  rw [events_concat, List.filterMap_append]
  cases hb : ((s.after ops).event op).begun <;> simp [hb]

/-! ## Mode, start time, interval -/

/-- What is written over a record when sampling begins. -/
structure Header (begun : Option (Span × Instant)) (mode : Mode) (startTime : Option Instant)
    (interval : Option Span) : Prop where
  mode : mode = .sampling ↔ begun ≠ none
  startTime : startTime = begun.map Prod.snd
  interval : interval = begun.map Prod.fst

/-- **One operation**: a start that is answered ok writes mode, start time and interval, and all else
leaves them alone. -/
theorem Effect.header (h : Effect s op a r) :
    match Event.begun ⟨op, a, s.clock⟩ with
    | some (i, t) => r.mode = .sampling ∧ r.startTime = some t ∧ r.interval = some i
    | none => r.mode = s.mode ∧ r.startTime = s.startTime ∧ r.interval = s.interval := by
  cases h with
  | kept _ hstart =>
    cases op with
    | start i => exact absurd rfl (hstart i)
    | _ => exact ⟨rfl, rfl, rfl⟩
  | ticked hticks =>
    cases op with
    | start i => cases hticks
    | _ => exact ⟨rfl, rfl, rfl⟩
  | reset | invalid _ _ | refused _ | begun _ => exact ⟨rfl, rfl, rfl⟩

theorem Fresh.header (h : s.Fresh) (ops : List Operation) :
    Header (s.begun ops).getLast? (s.after ops).mode (s.after ops).startTime
      (s.after ops).interval := by
  induction ops using List.reverseRecOn with
  | nil => exact ⟨by simp [begun, events, h.mode], h.startTime, h.interval⟩
  | append_singleton ops op ih =>
    have heffect := ((h.atRest.after ops).perform_effect op).1.header
    -- either the last operation wrote all three, or they are as before it
    rw [begun_concat, after_concat]
    unfold event
    cases hbegun : Event.begun ⟨op, ((s.after ops).perform op).1, (s.after ops).clock⟩ with
    | some b =>
      rw [hbegun] at heffect
      obtain ⟨hmode, htime, hinterval⟩ := heffect
      rw [Option.toList_some, List.getLast?_concat]
      exact ⟨iff_of_true hmode (Option.some_ne_none _), htime, hinterval⟩
    | none =>
      rw [hbegun] at heffect
      obtain ⟨hmode, htime, hinterval⟩ := heffect
      rw [Option.toList_none, List.append_nil]
      exact ⟨by rw [← ih.mode]; exact iff_of_eq (congrArg (· = _) hmode), htime.trans ih.startTime,
        hinterval.trans ih.interval⟩

/-! ## The store -/

theorem Effect.allocated (h : Effect s op a r) (hreset : op ≠ .reset)
    (hst : s.shared.store.isSome) : r.shared.store.isSome := by
  obtain ⟨st, hst⟩ := Option.isSome_iff_exists.1 hst
  obtain ⟨n, hn, -⟩ := h.store hreset hst
  rw [hn]
  rfl

theorem Effect.unallocated (h : Effect s op a r) (hstart : ∀ i, op ≠ .start i)
    (hstore : s.shared.store = none) : r.shared.store = none := by
  cases h with
  | kept _ _ => exact hstore
  | ticked _ => simp only [Shared.sampled, hstore, Option.map_none]
  | reset => rfl
  | invalid _ _ => exact hstore
  | @refused i e _ => exact absurd rfl (hstart i)
  | @begun i _ => exact absurd rfl (hstart i)

/-- No start, no store. -/
theorem Fresh.unallocated (h : s.Fresh) (hops : ∀ i, .start i ∉ ops) :
    (s.after ops).shared.store = none := by
  induction ops using List.reverseRecOn with
  | nil => exact congrArg Shared.store h.shared
  | append_singleton ops op ih =>
    have heffect := ((h.atRest.after ops).perform_effect op).1
    rw [after_concat]
    refine heffect.unallocated (fun i hi => hops i ?_) (ih fun i hi => hops i ?_)
    · rw [hi]
      exact List.mem_append_right _ List.mem_cons_self
    · exact List.mem_append_left _ hi

/-- A store that is there stays as long as nothing is reset. -/
theorem AtRest.allocated (h : s.AtRest) (hst : s.shared.store.isSome) (hops : .reset ∉ ops) :
    (s.after ops).shared.store.isSome := by
  induction ops generalizing s with
  | nil => exact hst
  | cons op ops ih =>
    obtain ⟨heffect, hrest⟩ := h.perform_effect op
    have hop : op ≠ .reset := fun hop => hops (hop ▸ List.mem_cons_self)
    exact ih hrest (heffect.allocated hop hst) fun hmem => hops (List.mem_cons_of_mem _ hmem)

/-- A start that is answered ok leaves a store. -/
theorem AtRest.allocated_start (h : s.AtRest) {i : Span} (hok : (s.start i).1 = .ok ()) :
    (s.start i).2.shared.store.isSome := by
  have heffect := (h.start_effect i).1
  rw [hok] at heffect
  cases hst : s.shared.store with
  | some st => exact heffect.allocated nofun (by simp [hst])
  | none =>
    generalize hr : (s.start i).2.record = r at heffect
    cases heffect with
    | begun hready =>
      have hshared : (s.start i).2.shared = s.provision := congrArg Record.shared hr
      rw [hshared, (provision_none hst hready).2]
      rfl
    | kept _ hstart => exact absurd rfl (hstart i)
    | ticked hticks => cases hticks

theorem Fresh.sound (h : s.Fresh) (ops : List Operation) : (s.after ops).Sound := by
  have hboth : (s.after ops).AtRest ∧ (s.after ops).Sound := by
    refine after_invariant (P := fun s => s.AtRest ∧ s.Sound) (fun s op ⟨hrest, hsound⟩ => ?_)
      ⟨h.atRest, ?_⟩ ops
    · obtain ⟨heffect, hrest'⟩ := hrest.perform_effect op
      exact ⟨hrest', heffect.sound hsound⟩
    · intro st hst
      rw [h.shared] at hst
      cases hst
  exact hboth.2

theorem Effect.missed_le (h : Effect s op a r) : s.shared.missed ≤ r.shared.missed := by
  have hprovision : s.provision.missed = s.shared.missed := by
    unfold provision
    split <;> rfl
  cases h with
  | kept _ _ | reset | invalid _ _ => exact Nat.le_refl _
  | ticked _ => exact Nat.le_add_right ..
  | refused _ | begun _ => exact hprovision.ge

/-! ## The laws -/

/-- **The state of a profiler after a run**, read off the history of the run. -/
structure Lifecycle (s : Session) (ops : List Operation) : Prop where
  mode : (s.after ops).mode = .sampling ↔ s.begun ops ≠ []
  startTime : (s.after ops).startTime = (s.begun ops).getLast?.map Prod.snd
  interval : (s.after ops).interval = (s.begun ops).getLast?.map Prod.fst
  /-- Nothing but a start that is answered ok changes these three. -/
  kept : ∀ op, ((s.after ops).event op).begun = none →
    (s.after (ops ++ [op])).mode = (s.after ops).mode ∧
      (s.after (ops ++ [op])).startTime = (s.after ops).startTime ∧
      (s.after (ops ++ [op])).interval = (s.after ops).interval
  unallocated : (∀ i, .start i ∉ ops) → (s.after ops).isAllocated.1 = false
  released : (s.after (ops ++ [.reset])).isAllocated.1 = false
  allocated : ∀ i more, ((s.after ops).start i).1 = .ok () → .reset ∉ more →
    (s.after (ops ++ .start i :: more)).isAllocated.1 = true
  /-- A store goes on until it is given up, and only ticks count in it. -/
  store : ∀ op st, op ≠ .reset → (s.after ops).shared.store = some st →
    ∃ st', (s.after (ops ++ [op])).shared.store = some st' ∧ st.Grown st' ∧
      (∃ n, st' = st.sampled (s.after ops).stack n) ∧ (op.ticks = false → st' = st)
  missed : ∀ op, (s.after ops).shared.missed ≤ (s.after (ops ++ [op])).shared.missed

/-- **A profiler's state is a function of its history**, for every profiler that was just made, with
any trigger, and every run of operations. -/
theorem lifecycle (h : s.Fresh) (ops : List Operation) : Lifecycle s ops := by
  have hrest := h.atRest.after ops
  have hheader := h.header ops
  have heffect (op : Operation) := (hrest.perform_effect op).1
  have hallocated (ops : List Operation) :
      (s.after ops).isAllocated.1 = (s.after ops).shared.store.isSome := by
    rw [(h.atRest.after ops).isAllocated_eq]
  refine ⟨?_, hheader.startTime, hheader.interval, fun op hop => ?_, fun hops => ?_, ?_,
    fun i more hok hmore => ?_, fun op st hop hst => ?_, fun op => ?_⟩
  · rw [hheader.mode, ne_eq, List.getLast?_eq_none_iff]
  · have hkept := (heffect op).header
    unfold event at hop
    rw [hop] at hkept
    rw [after_concat]
    exact hkept
  · rw [hallocated, h.unallocated hops]
    rfl
  · rw [hallocated, after_concat]
    show (s.after ops).reset.shared.store.isSome = false
    rw [hrest.reset_eq]
    rfl
  · rw [hallocated, after_append, after_cons]
    exact AtRest.allocated (hrest.start_effect i).2 (hrest.allocated_start hok) hmore
  · obtain ⟨n, hn, hzero⟩ := (heffect op).store hop hst
    rw [after_concat]
    refine ⟨_, hn, ((h.sound ops st hst).sampled _ n).2, ⟨n, rfl⟩, fun hticks => ?_⟩
    rw [hzero hticks]
    rfl
  · rw [after_concat]
    exact (heffect op).missed_le

/-- One start that is refused and one that is not, a tick of each kind, a new configuration and a reset:
the header is that of the second start, and there is no store. -/
theorem lifecycle_after_reset :
    let s : Session := { config := ⟨2, 1⟩, stack := .new 4, clock := .epoch }
    let ops : List Operation :=
      [.refuse true, .start ⟨1, 0⟩, .refuse false, .advance 5, .start ⟨0, 7⟩, .push ⟨3⟩, .fire,
        .sampleNow, .setConfig ⟨0, 0⟩, .advance 5, .reset, .start ⟨2, 0⟩, .stop]
    s.Fresh ∧ s.begun ops = [(⟨0, 7⟩, ⟨0, 5⟩)] ∧ (s.after ops).startTime = some ⟨0, 5⟩ ∧
      (s.after ops).interval = some ⟨0, 7⟩ ∧ (s.after (ops ++ [.reset])).isAllocated.1 = false ∧
      Lifecycle s ops := by
  intro s ops
  have hfresh : s.Fresh := ⟨rfl, rfl, rfl, rfl, rfl, rfl⟩
  have hbegun : s.begun ops = [(⟨0, 7⟩, ⟨0, 5⟩)] := by decide +kernel
  have hlife := lifecycle hfresh ops
  refine ⟨hfresh, hbegun, ?_, ?_, hlife.released, hlife⟩
  · rw [hlife.startTime, hbegun]
    rfl
  · rw [hlife.interval, hbegun]
    rfl

end Session

end StackSampler
