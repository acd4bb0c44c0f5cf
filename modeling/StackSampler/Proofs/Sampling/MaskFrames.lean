import StackSampler.Proofs.Sampling.Acts

/-!
# What becomes of masks

A guard masks the profiler's trigger while it is held. What that is depends on the trigger: a hand trigger
counts its masks, a timer's trigger uses the one mask that the thread has for the signal, and a sampling
thread has none. Here is what each operation does to all of them, at any point: whether masks are held or
not, and whether signals wait or not.

* `KeepsMasks s t`: ticks, and what the host does, leave every mask alone (`keepsMasks_perform`).
* `ReturnsMasks s t`: a call with a mask of its own gives the count back as it was, and leaves the signal
  unmasked (`returnsMasks_masked`, `returnsMasks_startIn`, `returnsMasks_perform`).
-/

namespace StackSampler

/-- What it is to mask a trigger. -/
inductive MaskKind where
  /-- The trigger counts the masks that are held. -/
  | count
  /-- The thread holds the signal back, or does not. -/
  | signal
  /-- The trigger cannot be masked. -/
  | never
  deriving DecidableEq

def Trigger.maskKind : Trigger → MaskKind
  | .hand => .count
  | .itimer _ => .signal
  | .thread _ => .never

/-- The operations that take a mask of their own and drop it in the end. -/
def Operation.masks : Operation → Bool
  | .start _ | .stop | .reset | .isAllocated | .snapshot | .raiseMasked _ => true
  | _ => false

namespace Session

variable {s t u : Session} {op : Operation} {i : Span}

/-- Whether the profiler's trigger is masked. -/
def isMasked (s : Session) : Bool :=
  match s.trigger with
  | .hand => s.hand.isMasked
  | .itimer _ => s.signal.blocked
  | .thread _ => false

theorem isMasked_count (hkind : s.trigger.maskKind = .count) : s.isMasked = s.hand.isMasked := by
  unfold isMasked
  cases htrigger : s.trigger with
  | hand => rfl
  | itimer t | thread t =>
    rw [htrigger] at hkind
    cases hkind

theorem isMasked_signal (hkind : s.trigger.maskKind = .signal) : s.isMasked = s.signal.blocked := by
  unfold isMasked
  cases htrigger : s.trigger with
  | itimer t => rfl
  | hand | thread t =>
    rw [htrigger] at hkind
    cases hkind

theorem isMasked_never (hkind : s.trigger.maskKind = .never) : s.isMasked = false := by
  unfold isMasked
  cases htrigger : s.trigger with
  | thread t => rfl
  | hand | itimer t =>
    rw [htrigger] at hkind
    cases hkind

/-! ## What leaves masks alone -/

/-- **All masks are as they were.** -/
structure KeepsMasks (s t : Session) : Prop where
  kind : t.trigger.maskKind = s.trigger.maskKind
  depth : t.hand.maskDepth = s.hand.maskDepth
  blocked : t.signal.blocked = s.signal.blocked

theorem KeepsMasks.refl (s : Session) : KeepsMasks s s := ⟨rfl, rfl, rfl⟩

theorem KeepsMasks.trans (h : KeepsMasks s t) (h' : KeepsMasks t u) : KeepsMasks s u :=
  ⟨h'.kind.trans h.kind, h'.depth.trans h.depth, h'.blocked.trans h.blocked⟩

theorem keepsMasks_repeat {f : Session → Session} (hf : ∀ s, KeepsMasks s (f s)) (times : Nat)
    (s : Session) : KeepsMasks s (Nat.repeat f times s) := by
  induction times with
  | zero => exact .refl s
  | succ times ih => exact ih.trans (hf _)

theorem fire_maskDepth {τ : Type} (t : HandTrigger τ) : t.fire.2.maskDepth = t.maskDepth := by
  unfold HandTrigger.fire
  split <;> rfl

theorem keepsMasks_fireWith {tick : Session → Session} (htick : ∀ s, KeepsMasks s (tick s))
    (s : Session) : KeepsMasks s (fireWith tick s).2 := by
  have hdepth := fire_maskDepth s.hand
  unfold fireWith
  generalize s.hand.fire = fired at hdepth ⊢
  obtain ⟨due, hand⟩ := fired
  have hfired : KeepsMasks s { s with hand } := ⟨rfl, hdepth, rfl⟩
  cases due with
  | none => exact hfired
  | some u => exact hfired.trans (htick _)

/-- A tick may fire others, but it takes no mask. -/
theorem keepsMasks_tickAt (levels : Nat) (s : Session) : KeepsMasks s (tickAt levels s) := by
  induction levels generalizing s with
  | zero => exact .refl s
  | succ levels ih =>
    unfold tickAt
    cases s.shared.acquire with
    | none => exact ⟨rfl, rfl, rfl⟩
    | some held =>
      dsimp only
      cases held.store with
      | none => exact ⟨rfl, rfl, rfl⟩
      | some st =>
        have hheld : KeepsMasks s { s with shared := held } := ⟨rfl, rfl, rfl⟩
        have hfires := keepsMasks_repeat (keepsMasks_fireWith ih) s.nested { s with shared := held }
        have hall := hheld.trans hfires
        exact ⟨hall.kind, hall.depth, hall.blocked⟩

theorem keepsMasks_deliver (s : Session) (brought : Option Unit) (signal : ProfSignal Unit) :
    KeepsMasks { s with signal } (s.deliver (brought, signal)) := by
  cases brought with
  | none => exact .refl _
  | some u => exact keepsMasks_tickAt 2 _

theorem send_blocked (signal : ProfSignal Unit) : signal.send.2.blocked = signal.blocked := by
  unfold ProfSignal.send
  cases hblocked : signal.blocked with
  | true => rfl
  | false => exact hblocked

theorem keepsMasks_send (s : Session) : KeepsMasks s (s.deliver s.signal.send) := by
  have hsent : KeepsMasks s { s with signal := s.signal.send.2 } := ⟨rfl, rfl, send_blocked s.signal⟩
  exact hsent.trans (keepsMasks_deliver s s.signal.send.1 s.signal.send.2)

theorem keepsMasks_raise (s : Session) : KeepsMasks s s.raise.2 := by
  unfold raise
  split
  · exact keepsMasks_send s
  · exact .refl s

theorem keepsMasks_raiseMany (times : Nat) (s : Session) : KeepsMasks s (raiseMany times s).2 := by
  induction times with
  | zero => exact .refl s
  | succ times ih =>
    rw [raiseMany_succ]
    exact ih.trans (keepsMasks_raise _)

theorem keepsMasks_elapse (s : Session) : KeepsMasks s s.elapse := by
  unfold elapse
  cases s.trigger with
  | hand => exact .refl s
  | itimer t =>
    unfold ProfSignal.expire
    dsimp only
    split
    · exact keepsMasks_send s
    · exact keepsMasks_deliver s none s.signal
  | thread t =>
    dsimp only
    split
    · exact keepsMasks_tickAt 2 s
    · exact .refl s

/-- **Operations without a mask of their own** leave masks alone. -/
theorem keepsMasks_perform (hop : op.masks = false) (s : Session) : KeepsMasks s (s.perform op).2 := by
  cases op with
  | start i | stop | reset | isAllocated | snapshot | raiseMasked times => cases hop
  | fire => exact keepsMasks_fireWith (keepsMasks_tickAt 2) s
  | sampleNow => exact keepsMasks_tickAt 2 s
  | raise => exact keepsMasks_raise s
  | elapse => exact keepsMasks_elapse s
  | setConfig config => exact ⟨rfl, rfl, rfl⟩
  | push f => exact ⟨rfl, rfl, rfl⟩
  | pop => exact ⟨rfl, rfl, rfl⟩
  | advance nanos => exact ⟨rfl, rfl, rfl⟩
  | refuse on => exact ⟨rfl, rfl, rfl⟩
  | setNested nested => exact ⟨rfl, rfl, rfl⟩

/-! ## Taking a mask and dropping one -/

theorem block_masks (s : Session) :
    s.block.trigger = s.trigger ∧
      (s.trigger.maskKind = .count → s.block.hand.maskDepth = s.hand.maskDepth + 1) ∧
      (s.trigger.maskKind ≠ .count → s.block.hand.maskDepth = s.hand.maskDepth) ∧
      (s.trigger.maskKind = .signal → s.block.signal.blocked = true) := by
  unfold block
  cases htrigger : s.trigger with
  | hand => simp [Trigger.maskKind, HandTrigger.block]
  | itimer t => simp [Trigger.maskKind, ProfSignal.block]
  | thread t => simp [htrigger, Trigger.maskKind]

theorem unblock_masks (s : Session) :
    s.unblock.trigger.maskKind = s.trigger.maskKind ∧
      (s.trigger.maskKind = .count → s.unblock.hand.maskDepth = s.hand.maskDepth - 1) ∧
      (s.trigger.maskKind ≠ .count → s.unblock.hand.maskDepth = s.hand.maskDepth) ∧
      (s.trigger.maskKind = .signal → s.unblock.signal.blocked = false) := by
  unfold unblock
  cases htrigger : s.trigger with
  | hand => simp [Trigger.maskKind, HandTrigger.unblock]
  | itimer t =>
    obtain ⟨hkind, hdepth, hblocked⟩ :=
      keepsMasks_deliver s s.signal.unblock.1 s.signal.unblock.2
    have hlifted : s.signal.unblock.2.blocked = false := rfl
    dsimp only at hkind hdepth hblocked ⊢
    rw [htrigger] at hkind
    exact ⟨hkind, nofun, fun _ => hdepth, fun _ => hblocked.trans hlifted⟩
  | thread t => simp [htrigger, Trigger.maskKind]

/-! ## Calls with a mask of their own -/

/-- **The count is as it was, and the signal is not masked.** -/
structure ReturnsMasks (s t : Session) : Prop where
  kind : t.trigger.maskKind = s.trigger.maskKind
  depth : t.hand.maskDepth = s.hand.maskDepth
  lifted : s.trigger.maskKind = .signal → t.signal.blocked = false

/-- **A mask around what leaves masks alone.** -/
theorem returnsMasks_masked {α : Type} (act : Session → α × Session)
    (hact : ∀ s, KeepsMasks s (act s).2) (s : Session) : ReturnsMasks s (s.masked act).2 := by
  obtain ⟨htrigger, hcount, hother, -⟩ := s.block_masks
  obtain ⟨hkind, hdepth, -⟩ := hact s.block
  obtain ⟨hkind', hcount', hother', hlifted'⟩ := (act s.block).2.unblock_masks
  rw [htrigger] at hkind
  rw [hkind] at hkind' hcount' hother' hlifted'
  refine ⟨hkind', ?_, hlifted'⟩
  show (act s.block).2.unblock.hand.maskDepth = s.hand.maskDepth
  by_cases hs : s.trigger.maskKind = .count
  · rw [hcount' hs, hdepth, hcount hs]
    exact Nat.add_sub_cancel ..
  · rw [hother' hs, hdepth, hother hs]

theorem keepsMasks_disarm (s : Session) : KeepsMasks s s.disarm := by
  unfold disarm
  cases htrigger : s.trigger with
  | hand => exact ⟨(congrArg Trigger.maskKind htrigger).symm, rfl, rfl⟩
  | itimer t =>
    unfold ItimerTrigger.disarm
    dsimp only
    cases t.ownsSignal with
    | true => exact ⟨(congrArg Trigger.maskKind htrigger).symm, rfl, rfl⟩
    | false => exact ⟨(congrArg Trigger.maskKind htrigger).symm, rfl, rfl⟩
  | thread t => exact ⟨(congrArg Trigger.maskKind htrigger).symm, rfl, rfl⟩

theorem returnsMasks_ensureAllocated (s : Session) : ReturnsMasks s s.ensureAllocated.2 := by
  refine returnsMasks_masked _ ?_ s
  intro s
  dsimp only
  split
  · exact .refl s
  · split
    · exact .refl s
    · exact ⟨rfl, rfl, rfl⟩

theorem hand_install_maskDepth {t t' : HandTrigger Unit} (h : t.install i () = .ok t') :
    t'.maskDepth = t.maskDepth := by
  unfold HandTrigger.install at h
  split at h
  · cases h
  · cases h
    rfl

/-- **An install** keeps the count, and does not mask the signal. -/
theorem installIn_masks (system : System) (i : Span) (s : Session) :
    (s.installIn system i).2.trigger.maskKind = s.trigger.maskKind ∧
      (s.installIn system i).2.hand.maskDepth = s.hand.maskDepth ∧
      (s.trigger.maskKind = .signal → s.signal.blocked = false →
        (s.installIn system i).2.signal.blocked = false) := by
  cases htrigger : s.trigger with
  | hand =>
    rw [installIn_hand htrigger, install, htrigger]
    cases hinstall : s.hand.install i () with
    | error e => exact ⟨congrArg Trigger.maskKind htrigger, rfl, fun hkind => by cases hkind⟩
    | ok hand => exact ⟨rfl, hand_install_maskDepth hinstall, fun hkind => by cases hkind⟩
  | itimer t =>
    rw [installIn_itimer htrigger]
    obtain ⟨hkind, hdepth, hblocked⟩ := keepsMasks_deliver
      { s with trigger := .itimer (t.installIn system s.signal i ()).trigger }
      (t.installIn system s.signal i ()).delivered (t.installIn system s.signal i ()).signal
    refine ⟨hkind, hdepth, ?_⟩
    intro _ hunmasked
    refine hblocked.trans ?_
    rcases t.installIn_lifts system s.signal i () with ⟨-, hsame⟩ | ⟨hlifted, -, -⟩
    · rw [hsame]
      exact hunmasked
    · exact hlifted
  | thread t =>
    rw [installIn, htrigger]
    cases system.spawn with
    | ok u =>
      dsimp only
      rw [install, htrigger]
      exact ⟨rfl, rfl, fun hkind => by cases hkind⟩
    | error reason =>
      dsimp only
      split
      · rw [install, htrigger]
        exact ⟨rfl, rfl, fun hkind => by cases hkind⟩
      · exact ⟨rfl, rfl, fun hkind => by cases hkind⟩

/-- **A start**, however it ends. -/
theorem returnsMasks_startIn (system : System) (i : Span) (s : Session) :
    ReturnsMasks s (s.startIn system i).2 := by
  have hallocated := returnsMasks_ensureAllocated s
  unfold startIn startBy
  generalize s.ensureAllocated = checked at hallocated
  obtain ⟨outcome, t⟩ := checked
  cases outcome with
  | error e => exact hallocated
  | ok u =>
    obtain ⟨hkind, hdepth, hlifted⟩ := installIn_masks system i t
    have hinstalled : ReturnsMasks s (t.installIn system i).2 := by
      refine ⟨hkind.trans hallocated.kind, hdepth.trans hallocated.depth, ?_⟩
      intro hs
      exact hlifted (hallocated.kind.trans hs) (hallocated.lifted hs)
    dsimp only
    generalize t.installIn system i = installed at hinstalled
    obtain ⟨outcome, u⟩ := installed
    cases outcome with
    | error e => exact hinstalled
    | ok v => exact ⟨hinstalled.kind, hinstalled.depth, hinstalled.lifted⟩

/-- **Operations with a mask of their own.** -/
theorem returnsMasks_perform (hop : op.masks = true) (s : Session) :
    ReturnsMasks s (s.perform op).2 := by
  cases op with
  | start i =>
    have hstart := returnsMasks_startIn {} i s
    rw [startIn_granted] at hstart
    exact hstart
  | stop => exact returnsMasks_masked (fun s => ((), s.disarm)) keepsMasks_disarm s
  | reset =>
    refine returnsMasks_masked (fun s => ((), { s with shared := _ })) ?_ s
    intro s
    exact ⟨rfl, rfl, rfl⟩
  | isAllocated =>
    -- the flag is none of the masks
    obtain ⟨hkind, hdepth, hlifted⟩ := returnsMasks_masked
      (fun s => (s.shared.store.isSome, { s with shared := s.shared.hold })) (fun _ => ⟨rfl, rfl, rfl⟩) s
    exact ⟨hkind, hdepth, hlifted⟩
  | snapshot => exact returnsMasks_masked (fun s => (_, s)) .refl s
  | raiseMasked times => exact returnsMasks_masked (raiseMany times) (keepsMasks_raiseMany times) s
  | _ => cases hop

end Session

end StackSampler
