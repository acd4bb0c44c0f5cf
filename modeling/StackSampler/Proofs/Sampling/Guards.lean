import StackSampler.Proofs.Sampling.MaskFrames

/-!
# Guards

A guard takes a mask when it is made and drops it when it is dropped, and several may be held at once, in
any order. On a hand trigger masks are counted, so the trigger is masked just while some guard is held. It
is the host's own fires that a hand trigger runs, and these are no interrupts: no mask holds them back. A
timer's trigger does not count: the latest guard masks the ticks until any guard is dropped or a call takes a
mask of its own, and then they are not masked until another guard is taken. No mask is left behind when no
guard is.

* `Session.move`: taking a guard, dropping one, a start in any system, or an operation.
* `Session.guarded_move`, `Session.guarded_moved`: what one move and what a run does to the masks.
* `Session.quiet_of_masked`: a mask on the signal holds every tick back.
* `Session.guards_mask`: the law of guards, over any moves.
* `Session.unmasked_under_guard`: a guard on a timer's trigger that holds nothing back.
-/

namespace StackSampler

/-- What is done with a profiler while guards are taken and dropped. -/
inductive GuardMove where
  | take
  | drop
  | start (system : System) (interval : Span)
  | op (operation : Operation)

/-- The calls that take a mask of their own. -/
def GuardMove.isCall : GuardMove → Bool
  | .start _ _ => true
  | .op operation => operation.masks
  | _ => false

/-- The guards that are held. -/
structure Guards where
  held : Nat := 0
  /-- Since the latest guard was taken, none was dropped, and no call took a mask of its own. -/
  fresh : Bool := false

namespace Guards

def move (g : Guards) : GuardMove → Guards
  | .take => ⟨g.held + 1, true⟩
  | .drop => ⟨g.held - 1, false⟩
  | .start _ _ => { g with fresh := false }
  | .op operation => if operation.masks then { g with fresh := false } else g

/-- The guards behind some moves. -/
def moved (g : Guards) (moves : List GuardMove) : Guards := moves.foldl move g

/-- No guard is taken, and no call is made, while another guard is held. -/
def Apart (g : Guards) : List GuardMove → Prop
  | [] => True
  | m :: moves => (m = .take ∨ m.isCall = true → g.held = 0) ∧ (g.move m).Apart moves

variable {g : Guards} {m : GuardMove} {moves : List GuardMove}

theorem moved_cons : g.moved (m :: moves) = (g.move m).moved moves := rfl

/-- Only a guard that is held is fresh. -/
theorem held_of_fresh (hfresh : g.fresh = true → 0 < g.held) (moves : List GuardMove) :
    (g.moved moves).fresh = true → 0 < (g.moved moves).held := by
  induction moves generalizing g with
  | nil => exact hfresh
  | cons m moves ih =>
    refine ih ?_
    cases m with
    | take => exact fun _ => Nat.succ_pos _
    | drop | start system i => exact nofun
    | op operation =>
      show (if operation.masks then { g with fresh := false } else g).fresh = true → _
      rw [move]
      split
      · exact nofun
      · exact hfresh

/-- A guard that overlaps nothing is fresh as long as it is held. -/
theorem fresh_iff_of_apart (hone : g.held ≤ 1) (hfresh : g.fresh = true ↔ 0 < g.held)
    (hapart : g.Apart moves) : (g.moved moves).fresh = true ↔ 0 < (g.moved moves).held := by
  -- there is never more than one guard, so dropping it leaves none
  induction moves generalizing g with
  | nil => exact hfresh
  | cons m moves ih =>
    obtain ⟨hm, hrest⟩ := hapart
    rw [moved_cons]
    cases m with
    | take =>
      have hnone := hm (.inl rfl)
      refine ih ?_ ?_ hrest
      · show g.held + 1 ≤ 1
        omega
      · simp [move]
    | drop =>
      refine ih ?_ ?_ hrest
      · show g.held - 1 ≤ 1
        omega
      · simp only [move, Bool.false_eq_true, false_iff]
        omega
    | start system i =>
      have hnone := hm (.inr rfl)
      refine ih hone ?_ hrest
      simp [move, hnone]
    | op operation =>
      cases hmasks : operation.masks with
      | true =>
        have hnone := hm (.inr hmasks)
        refine ih ?_ ?_ hrest
        · simp [move, hmasks, hnone]
        · simp [move, hmasks, hnone]
      | false =>
        have hsame : g.move (.op operation) = g := by simp [move, hmasks]
        rw [hsame] at hrest ⊢
        exact ih hone hfresh hrest

end Guards

namespace Session

variable {s t : Session} {g : Guards} {m : GuardMove} {moves : List GuardMove}

def move (s : Session) : GuardMove → Session
  | .take => s.block
  | .drop => s.unblock
  | .start system interval => (s.startIn system interval).2
  | .op operation => (s.perform operation).2

/-- The session behind some moves. -/
def moved (s : Session) (moves : List GuardMove) : Session := moves.foldl move s

theorem returnsMasks_move (hm : m.isCall = true) (s : Session) : ReturnsMasks s (s.move m) := by
  cases m with
  | take => cases hm
  | drop => cases hm
  | start system i => exact returnsMasks_startIn system i s
  | op operation => exact returnsMasks_perform hm s

/-! ## Guards and masks -/

/-- **What guards do to masks**: a count is that of the guards, and the signal is masked just while the
latest guard is fresh. -/
structure Guarded (s : Session) (g : Guards) : Prop where
  count : s.trigger.maskKind = .count → s.hand.maskDepth = g.held
  signal : s.trigger.maskKind = .signal → s.signal.blocked = g.fresh

theorem Guarded.of_keeps (h : s.Guarded g) (hkeeps : KeepsMasks s t) : t.Guarded g := by
  refine ⟨?_, ?_⟩
  · intro hkind
    rw [hkeeps.kind] at hkind
    exact hkeeps.depth.trans (h.count hkind)
  · intro hkind
    rw [hkeeps.kind] at hkind
    exact hkeeps.blocked.trans (h.signal hkind)

theorem Guarded.of_returns (h : s.Guarded g) (hreturns : ReturnsMasks s t) :
    t.Guarded { g with fresh := false } := by
  refine ⟨?_, ?_⟩
  · intro hkind
    rw [hreturns.kind] at hkind
    exact hreturns.depth.trans (h.count hkind)
  · intro hkind
    rw [hreturns.kind] at hkind
    exact hreturns.lifted hkind

/-- **One move.** -/
theorem guarded_move (h : s.Guarded g) (m : GuardMove) :
    (s.move m).trigger.maskKind = s.trigger.maskKind ∧ (s.move m).Guarded (g.move m) := by
  cases m with
  | take =>
    obtain ⟨htrigger, hcount, -, hblocked⟩ := s.block_masks
    have hkind : (s.move .take).trigger.maskKind = s.trigger.maskKind :=
      congrArg Trigger.maskKind htrigger
    refine ⟨hkind, ?_, ?_⟩
    · intro hs
      rw [hkind] at hs
      exact (hcount hs).trans (congrArg (· + 1) (h.count hs))
    · intro hs
      rw [hkind] at hs
      exact hblocked hs
  | drop =>
    obtain ⟨hkind, hcount, -, hlifted⟩ := s.unblock_masks
    refine ⟨hkind, ?_, ?_⟩
    · intro hs
      have hs := hkind.symm.trans hs
      exact (hcount hs).trans (congrArg (· - 1) (h.count hs))
    · intro hs
      exact hlifted (hkind.symm.trans hs)
  | start system i =>
    have hreturns := returnsMasks_startIn system i s
    exact ⟨hreturns.kind, h.of_returns hreturns⟩
  | op operation =>
    cases hmasks : operation.masks with
    | true =>
      have hreturns := returnsMasks_perform hmasks s
      have hg : g.move (.op operation) = { g with fresh := false } := if_pos hmasks
      rw [hg]
      exact ⟨hreturns.kind, h.of_returns hreturns⟩
    | false =>
      have hkeeps := keepsMasks_perform hmasks s
      have hg : g.move (.op operation) = g := by
        rw [Guards.move, hmasks, if_neg Bool.false_ne_true]
      rw [hg]
      exact ⟨hkeeps.kind, h.of_keeps hkeeps⟩

/-- **Any moves.** -/
theorem guarded_moved (h : s.Guarded g) (moves : List GuardMove) :
    (s.moved moves).trigger.maskKind = s.trigger.maskKind ∧ (s.moved moves).Guarded (g.moved moves) := by
  induction moves generalizing s g with
  | nil => exact ⟨rfl, h⟩
  | cons m moves ih =>
    obtain ⟨hkind, hnext⟩ := guarded_move h m
    obtain ⟨hkind', hlast⟩ := ih hnext
    exact ⟨hkind'.trans hkind, hlast⟩

/-! ## What a mask holds back -/

/-- A signal to a thread that holds it back waits. -/
theorem raise_of_blocked (hblocked : s.signal.blocked = true) : s.raise.2.shared = s.shared := by
  unfold raise
  split
  · rw [ProfSignal.send, if_pos hblocked]
    rfl
  · rfl

theorem elapse_of_blocked (hkind : s.trigger.maskKind = .signal) (hblocked : s.signal.blocked = true) :
    s.elapse.shared = s.shared := by
  unfold elapse
  cases htrigger : s.trigger with
  | itimer t =>
    dsimp only
    unfold ProfSignal.expire
    split
    · rw [ProfSignal.send, if_pos hblocked]
      rfl
    · rfl
  | hand => rfl
  | thread t =>
    rw [htrigger] at hkind
    cases hkind

/-- **A mask on the signal holds every tick back**, of any signals and any intervals. -/
theorem quiet_of_masked (hkind : s.trigger.maskKind = .signal) (hblocked : s.signal.blocked = true)
    {ops : List Operation} (hops : ∀ op ∈ ops, op = .raise ∨ op = .elapse) :
    (s.after ops).shared = s.shared := by
  induction ops generalizing s with
  | nil => rfl
  | cons op ops ih =>
    obtain ⟨hop, hrest⟩ := List.forall_mem_cons.1 hops
    have hmasks : op.masks = false := by
      rcases hop with rfl | rfl
      · rfl
      · rfl
    have hkeeps := keepsMasks_perform hmasks s
    have hlast := ih (hkeeps.kind.trans hkind) (hkeeps.blocked.trans hblocked) hrest
    have hfirst : (s.perform op).2.shared = s.shared := by
      rcases hop with rfl | rfl
      · exact raise_of_blocked hblocked
      · exact elapse_of_blocked hkind hblocked
    rw [after_cons, hlast, hfirst]

/-- A mask does not hold the host's hand back. -/
theorem fire_of_depth (s : Session) (depth : Nat) :
    ({ s with hand := { s.hand with maskDepth := depth } } : Session).fire.1 = s.fire.1 := by
  have hlive : ({ s.hand with maskDepth := depth } : HandTrigger Unit).live = s.hand.live := rfl
  rw [fire_eq, fire_eq, hlive]
  cases s.hand.live with
  | false => rfl
  | true => cases s.hand.tick <;> rfl

/-! ## The law -/

/-- **What guards give** on a session that stands as `t` while `g` are held. -/
structure Holds (t : Session) (g : Guards) : Prop where
  /-- A hand trigger is masked just while a guard is held, and any call gives it back as it was. -/
  hand : t.trigger.maskKind = .count → (t.isMasked = true ↔ 0 < g.held)
  handCalls : t.trigger.maskKind = .count → ∀ m : GuardMove, m.isCall = true →
    (t.move m).isMasked = t.isMasked ∧ (t.move m).hand.maskDepth = t.hand.maskDepth
  /-- It fires no less under a mask, and no more. -/
  handFires : ∀ depth, t.fire.1 = ({ t with hand := { t.hand with maskDepth := depth } } : Session).fire.1
  /-- A timer's trigger is masked just while the latest guard is fresh, and no signal and no interval brings
  a tick then. -/
  signal : t.trigger.maskKind = .signal → (t.isMasked = true ↔ g.fresh = true)
  quiet : t.trigger.maskKind = .signal → t.isMasked = true →
    ∀ ops : List Operation, (∀ op ∈ ops, op = .raise ∨ op = .elapse) → (t.after ops).shared = t.shared
  /-- Once no guard is held, no mask is. -/
  lifted : g.held = 0 → t.isMasked = false
  /-- A call that begins without a mask ends without one. -/
  calls : t.isMasked = false → ∀ m : GuardMove, m.isCall = true → (t.move m).isMasked = false

theorem Guarded.lifts (h : s.Guarded g) (hfresh : g.fresh = true → 0 < g.held) (hheld : g.held = 0) :
    s.isMasked = false := by
  cases hkind : s.trigger.maskKind with
  | count =>
    have hdepth := h.count hkind
    rw [isMasked_count hkind, HandTrigger.isMasked, hdepth, hheld]
    rfl
  | signal =>
    rw [isMasked_signal hkind, h.signal hkind]
    refine Bool.eq_false_iff.2 fun hfresh' => ?_
    have hpos := hfresh hfresh'
    omega
  | never => exact isMasked_never hkind

/-- **A call that begins without a mask** ends without one. -/
theorem ReturnsMasks.unmasked (h : ReturnsMasks s t) (hmasked : s.isMasked = false) :
    t.isMasked = false := by
  cases hkind : s.trigger.maskKind with
  | count =>
    rw [isMasked_count hkind, HandTrigger.isMasked] at hmasked
    rw [isMasked_count (h.kind.trans hkind), HandTrigger.isMasked, h.depth]
    exact hmasked
  | signal =>
    rw [isMasked_signal (h.kind.trans hkind)]
    exact h.lifted hkind
  | never => exact isMasked_never (h.kind.trans hkind)

theorem Guarded.holds (h : s.Guarded g) (hfresh : g.fresh = true → 0 < g.held) : s.Holds g where
  hand hkind := by rw [isMasked_count hkind, HandTrigger.isMasked, h.count hkind, decide_eq_true_iff]
  handCalls hkind m hm := by
    have hreturns := returnsMasks_move hm s
    rw [isMasked_count hkind, isMasked_count (hreturns.kind.trans hkind), HandTrigger.isMasked,
      HandTrigger.isMasked, hreturns.depth]
    exact ⟨rfl, rfl⟩
  handFires depth := (fire_of_depth s depth).symm
  signal hkind := by rw [isMasked_signal hkind, h.signal hkind]
  quiet hkind hmasked ops hops := by
    rw [isMasked_signal hkind] at hmasked
    exact quiet_of_masked hkind hmasked hops
  lifted := h.lifts hfresh
  calls hmasked m hm := (returnsMasks_move hm s).unmasked hmasked

/-- **Guards mask.** For any session without masks, whatever waits for it, and any guards taken and dropped
between any calls, starts that fail among them, and any ticks: the trigger stays of its kind, and guards
give what they give. A guard that overlaps no other guard and no call masks a timer's trigger for as long as
it is held, and one that does overlap masks it until the other is dropped or the call is made. -/
theorem guards_mask (s : Session) (hdepth : s.hand.maskDepth = 0) (hblocked : s.signal.blocked = false)
    (moves : List GuardMove) :
    let t := s.moved moves
    let g := Guards.moved {} moves
    t.trigger.maskKind = s.trigger.maskKind ∧ t.Holds g ∧
      (t.trigger.maskKind = .signal → Guards.Apart {} moves → (t.isMasked = true ↔ 0 < g.held)) := by
  intro t g
  have hstart : s.Guarded {} := ⟨fun _ => hdepth, fun _ => hblocked⟩
  obtain ⟨hkind, hguarded⟩ := guarded_moved hstart moves
  have hholds : t.Holds g := hguarded.holds (Guards.held_of_fresh Bool.noConfusion moves)
  refine ⟨hkind, hholds, ?_⟩
  intro hsignal hapart
  have hfresh := Guards.fresh_iff_of_apart (Nat.zero_le 1) (by simp) hapart
  exact (hholds.signal hsignal).trans hfresh

/-- A timer is started twice, once in vain; a signal waits under a guard and is counted when it is dropped,
and a snapshot and another guard follow. -/
theorem guards_mask_timer :
    let s : Session := { config := ⟨2, 1⟩, trigger := .itimer {}, stack := .new 4, clock := .epoch }
    let moves : List GuardMove :=
      [.op (.push ⟨7⟩), .start {} ⟨1, 0⟩, .start { timer := .error "EINVAL" } ⟨2, 0⟩, .take,
        .op .raise, .drop, .op .snapshot, .take, .op .elapse]
    let t := s.moved moves
    let g := Guards.moved {} moves
    s.hand.maskDepth = 0 ∧ s.signal.blocked = false ∧ t.Holds g ∧ g.held = 1 ∧ t.isMasked = true ∧
      t.trigger.maskKind = .signal ∧ (t.after [.raise, .elapse, .raise]).shared = t.shared ∧
      t.snapshot.1.samples = 1 := by
  intro s moves t g
  obtain ⟨-, hholds, -⟩ := guards_mask s rfl rfl moves
  have hkind : t.trigger.maskKind = .signal := by decide +kernel
  have hmasked : t.isMasked = true := (hholds.signal hkind).2 rfl
  have hquiet := hholds.quiet hkind hmasked [.raise, .elapse, .raise] (by simp)
  exact ⟨rfl, rfl, hholds, rfl, hmasked, hkind, hquiet, by decide +kernel⟩

/-- **A guard that holds nothing back.** On a timer's trigger the mask ends with the first of two guards that
is dropped, so a signal brings a tick while the other is held; and it ends with any call, be it a snapshot or
a start that fails. On a hand trigger the same moves leave the mask in place. -/
theorem unmasked_under_guard :
    let hand : Session := { config := ⟨2, 1⟩, stack := (ShadowStack.new 4).push ⟨7⟩, clock := .epoch }
    let timer : Session := { hand with trigger := .itimer {} }
    let start : GuardMove := .start {} ⟨1, 0⟩
    let misfit : GuardMove := .start {} ⟨9223372036854775808, 0⟩
    let nested : List GuardMove := [start, .take, .take, .drop]
    let called : List GuardMove := [start, .take, .op .snapshot]
    let failed : List GuardMove := [start, .take, misfit]
    let held (moves : List GuardMove) : Nat := (Guards.moved {} moves).held
    (held nested = 1 ∧ (timer.moved nested).isMasked = false ∧ (hand.moved nested).isMasked = true) ∧
      ((timer.moved nested).snapshot.1.samples = 0 ∧
        (timer.moved nested).raise.2.snapshot.1.samples = 1) ∧
      ((timer.moved [start, .take]).isMasked = true ∧ held called = 1 ∧
        (timer.moved called).isMasked = false ∧ (hand.moved called).isMasked = true) ∧
      held failed = 1 ∧ (timer.moved failed).isMasked = false ∧ (hand.moved failed).isMasked = true := by
  decide +kernel

end Session

end StackSampler
