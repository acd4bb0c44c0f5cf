import StackSampler.Proofs.Sampling.Rest

/-!
# What an operation does

The **record** is the part of a session that snapshots show: mode, start time, interval and the shared
store. `Session.Effect` lists the six ways in which an operation changes it, and
`AtRest.perform_effect` says once for all operations that there is no other.
-/

namespace StackSampler

namespace Session

variable {s t : Session}

/-- What snapshots show of a session. -/
structure Record where
  mode : Mode
  startTime : Option Instant
  interval : Option Span
  shared : Shared

def record (s : Session) : Record := ⟨s.mode, s.startTime, s.interval, s.shared⟩

/-- **What an operation does to the record**, and what it answers. -/
inductive Effect (s : Session) : Operation → Answer → Record → Prop
  | kept {op a} (hreset : op ≠ .reset) (hstart : ∀ i, op ≠ .start i) : Effect s op a s.record
  | ticked {op a n k} (hticks : op.ticks = true) :
    Effect s op a { s.record with shared := s.shared.sampled s.stack n k }
  | reset : Effect s .reset .done { s.record with shared := { s.shared with store := none } }
  | invalid {i e} (hstore : s.shared.store = none) (hconfig : s.config.validate = .error e) :
    Effect s (.start i) (.started (.error (.config e))) s.record
  | refused {i e} (hready : s.Ready) :
    Effect s (.start i) (.started (.error (.trigger e))) { s.record with shared := s.provision }
  | begun {i} (hready : s.Ready) :
    Effect s (.start i) (.started (.ok ())) ⟨.sampling, some s.clock, some i, s.provision⟩

theorem AtRest.start_effect (h : s.AtRest) (i : Span) :
    Effect s (.start i) (.started (s.start i).1) (s.start i).2.record ∧ (s.start i).2.AtRest := by
  rcases s.ready_or_invalid with hready | ⟨e, hstore, hconfig⟩
  · have hrest : ({ s with shared := s.provision } : Session).AtRest :=
      ⟨s.provision_busy.trans h.free, h.unmasked, h.settled⟩
    obtain ⟨⟨trigger, hand, signal, heq⟩, hrest'⟩ := hrest.rewired_install i
    rw [h.start_ready hready]
    cases hinstall : install i { s with shared := s.provision } with
    | mk outcome t =>
      rw [hinstall] at heq hrest'
      obtain rfl : t = _ := heq
      cases outcome with
      | error e => exact ⟨.refused hready, hrest'⟩
      | ok u => exact ⟨.begun hready, hrest'.free, hrest'.unmasked, hrest'.settled⟩
  · rw [h.start_invalid hstore hconfig]
    exact ⟨.invalid hstore hconfig, h⟩

theorem Rewired.record (h : Rewired s t) : t.record = s.record := by
  obtain ⟨trigger, hand, signal, rfl⟩ := h
  rfl

theorem SomeTicks.effect (h : SomeTicks s t) {op : Operation} (hticks : op.ticks = true) (a : Answer) :
    Effect s op a t.record := by
  obtain ⟨n, k, hand, signal, rfl⟩ := h
  exact .ticked hticks

/-- **An operation at rest** does one of six things to the record, and leaves the session at rest. -/
theorem AtRest.perform_effect (h : s.AtRest) (op : Operation) :
    Effect s op (s.perform op).1 (s.perform op).2.record ∧ (s.perform op).2.AtRest := by
  have hkept {a : Answer} {t : Session} (hrecord : t.record = s.record) (hreset : op ≠ .reset)
      (hstart : ∀ i, op ≠ .start i) : Effect s op a t.record := hrecord ▸ .kept hreset hstart
  cases op with
  | start i => exact h.start_effect i
  | stop =>
    obtain ⟨hrewired, hrest⟩ := h.rewired_stop
    exact ⟨hkept hrewired.record nofun nofun, hrest⟩
  | reset =>
    rw [perform, h.reset_eq]
    exact ⟨.reset, h.free, h.unmasked, h.settled⟩
  | isAllocated =>
    rw [perform, h.isAllocated_eq]
    exact ⟨hkept rfl nofun nofun, h⟩
  | snapshot =>
    rw [perform, h.snapshot_eq]
    exact ⟨hkept rfl nofun nofun, h⟩
  | fire =>
    obtain ⟨hticks, hsignal⟩ := someTicks_fire h.free
    exact ⟨hticks.effect rfl _, h.of_ticks hticks hsignal⟩
  | sampleNow =>
    obtain ⟨hticks, hsignal⟩ := someTicks_tick h.free
    exact ⟨hticks.effect rfl _, h.of_ticks hticks hsignal⟩
  | raise =>
    have hticks := someTicks_raise h.free
    exact ⟨hticks.effect rfl _, h.of_ticks hticks ((signal_raise h.free).2 h.unmasked)⟩
  | raiseMasked times =>
    obtain ⟨hticks, hrest⟩ := h.raiseMasked times
    exact ⟨hticks.effect rfl _, hrest⟩
  | elapse =>
    obtain ⟨hticks, hsignal⟩ := h.elapse
    exact ⟨hticks.effect rfl _, h.of_ticks hticks hsignal⟩
  -- the host's own changes touch neither the record nor the signal
  | setConfig config | push f | pop | advance nanos | refuse on | setNested nested =>
    exact ⟨hkept rfl nofun nofun, h.free, h.unmasked, h.settled⟩

/-- Every run leaves a session at rest. -/
theorem AtRest.after (h : s.AtRest) (ops : List Operation) : (s.after ops).AtRest :=
  after_invariant (P := AtRest) (fun _ op h => (h.perform_effect op).2) h ops

end Session

end StackSampler
