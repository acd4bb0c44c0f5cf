import StackSampler.Proofs.Sampling.Operation

/-!
# What a tick does

A tick that finds the flag free counts the present stack once, if there is a store. The ticks that
the host fires from inside it find the flag taken, so they are missed and nothing else:
`Session.tick_eq` says all of it in one equation.

`Session.SomeTicks` forgets how many ticks there were: nothing but ticks happened, and they all saw
the same stack. Whatever fires, signals and intervals bring is of this kind.
-/

namespace StackSampler

variable {τ : Type}

/-- Whether the host's hand fires: armed, with an interval that is not zero. -/
def HandTrigger.live (t : HandTrigger τ) : Bool := t.armed && !t.interval.any Span.isZero

theorem HandTrigger.fire_eq (t : HandTrigger τ) :
    t.fire = if t.live then (t.tick, { t with fired := t.fired + 1 }) else (none, t) := by
  unfold fire live
  cases t.armed <;> cases t.interval.any Span.isZero <;> rfl

/-- A store that counted the present stack a number of times. -/
def Store.sampled (stack : ShadowStack) (times : Nat) (st : Store) : Store :=
  Nat.repeat (fun st => (st.recordFrom stack.read).2) times st

theorem Store.sampled_add (stack : ShadowStack) (n m : Nat) (st : Store) :
    st.sampled stack (n + m) = (st.sampled stack n).sampled stack m := by
  induction m with
  | zero => rfl
  | succ m ih => exact congrArg (fun st : Store => (st.recordFrom stack.read).2) ih

namespace Shared

/-- After `n` ticks that found the flag free and `k` that did not. -/
def sampled (stack : ShadowStack) (n k : Nat) (sh : Shared) : Shared :=
  { sh with store := sh.store.map (Store.sampled stack n), missed := sh.missed + k }

theorem sampled_zero (stack : ShadowStack) (sh : Shared) : sh.sampled stack 0 0 = sh := by
  have hid : Store.sampled stack 0 = id := rfl
  simp only [sampled, hid, Option.map_id, id_eq, Nat.add_zero]

theorem sampled_add (stack : ShadowStack) (n k m l : Nat) (sh : Shared) :
    sh.sampled stack (n + m) (k + l) = (sh.sampled stack n k).sampled stack m l := by
  have hcomp : Store.sampled stack (n + m) = Store.sampled stack m ∘ Store.sampled stack n :=
    funext (Store.sampled_add stack n m)
  simp only [sampled, Option.map_map, hcomp, Nat.add_assoc]

end Shared

namespace Session

variable {s t u : Session} {st : Store} {n k m l : Nat}

/-! ## One tick -/

/-- The ticks that a nested fire runs: none where the hand does not fire. -/
def nestedTicks (s : Session) : Nat := if s.hand.live ∧ s.hand.tick.isSome then s.nested else 0

def nestedFires (s : Session) : Nat := if s.hand.live then s.nested else 0

/-- Firing under the flag: the tick is missed. -/
theorem fireWith_busy (hbusy : s.shared.busy = true) (levels : Nat) :
    (fireWith (tickAt (levels + 1)) s).2 =
      { s with
        hand := { s.hand with fired := s.hand.fired + if s.hand.live then 1 else 0 }
        shared := { s.shared with
          missed := s.shared.missed + if s.hand.live ∧ s.hand.tick.isSome then 1 else 0 } } := by
  unfold fireWith
  rw [HandTrigger.fire_eq]
  cases hlive : s.hand.live with
  | false => simp
  | true =>
    cases htick : s.hand.tick with
    | none => simp [htick]
    | some u => simp [tickAt, Shared.acquire, Shared.miss, hbusy, htick]

/-- Firing any number of times under the flag. -/
theorem repeat_fire_busy (hbusy : s.shared.busy = true) (levels times : Nat) :
    Nat.repeat (fun s => (fireWith (tickAt (levels + 1)) s).2) times s =
      { s with
        hand := { s.hand with fired := s.hand.fired + if s.hand.live then times else 0 }
        shared := { s.shared with
          missed := s.shared.missed + if s.hand.live ∧ s.hand.tick.isSome then times else 0 } } := by
  induction times with
  | zero => simp [Nat.repeat]
  | succ times ih =>
    have hlive (n : Nat) : ({ s.hand with fired := n } : HandTrigger Unit).live = s.hand.live := rfl
    rw [Nat.repeat, ih, fireWith_busy (by exact hbusy)]
    simp only [hlive, Nat.add_assoc]
    cases s.hand.live <;> cases s.hand.tick <;> rfl

/-- **A tick**, from outside of any other: without a store nothing happens; with one the present
stack is counted once, and every nested tick is missed. -/
theorem tick_eq (hfree : s.shared.busy = false) :
    s.tick = match s.shared.store with
      | none => s
      | some st =>
        { s with
          hand := { s.hand with fired := s.hand.fired + s.nestedFires }
          shared := { s.shared with
            store := some (st.recordFrom s.stack.read).2
            missed := s.shared.missed + s.nestedTicks } } := by
  unfold tick tickAt
  have hacquire : s.shared.acquire = some { s.shared with busy := true } := by
    rw [Shared.acquire, hfree]
    rfl
  rw [hacquire]
  cases hst : s.shared.store with
  | none =>
    simp only [hst, Shared.release]
    rw [← hfree, ← hst]
  | some st =>
    -- the store is taken, so whatever the tick fires is missed
    simp only [hst]
    rw [repeat_fire_busy rfl]
    simp only [Shared.capture, Shared.release, Option.map_some, nestedTicks, nestedFires]
    rw [← hfree]

theorem tick_none (hfree : s.shared.busy = false) (hst : s.shared.store = none) : s.tick = s := by
  rw [tick_eq hfree, hst]

theorem tick_some (hfree : s.shared.busy = false) (hst : s.shared.store = some st) :
    s.tick =
      { s with
        hand := { s.hand with fired := s.hand.fired + s.nestedFires }
        shared := { s.shared with
          store := some (st.recordFrom s.stack.read).2
          missed := s.shared.missed + s.nestedTicks } } := by
  rw [tick_eq hfree, hst]

/-- What is delivered while the flag is held is missed. -/
theorem deliver_busy (hbusy : s.shared.busy = true) (brought : Option Unit) (signal : ProfSignal Unit) :
    s.deliver (brought, signal) =
      { s with signal, shared := if brought.isSome then s.shared.miss else s.shared } := by
  cases brought with
  | none => rfl
  | some u =>
    show tickAt 2 { s with signal } = _
    simp only [tickAt, Shared.acquire, hbusy, Option.isSome_some, if_true]

/-! ## Any number of ticks -/

/-- Nothing but ticks happened, of which `n` looked for a store and `k` were missed. -/
def Ticked (n k : Nat) (s t : Session) : Prop :=
  ∃ hand signal, t = { s with hand, signal, shared := s.shared.sampled s.stack n k }

theorem Ticked.of_calm (s : Session) (hand : HandTrigger Unit) (signal : ProfSignal Unit) :
    Ticked 0 0 s { s with hand, signal } :=
  ⟨hand, signal, by rw [Shared.sampled_zero]⟩

theorem Ticked.trans (h : Ticked n k s t) (h' : Ticked m l t u) : Ticked (n + m) (k + l) s u := by
  obtain ⟨hand, signal, rfl⟩ := h
  obtain ⟨hand', signal', rfl⟩ := h'
  exact ⟨hand', signal', by rw [Shared.sampled_add]⟩

/-- Some ticks happened, any number of them. -/
def SomeTicks (s t : Session) : Prop := ∃ n k, Ticked n k s t

theorem SomeTicks.of_calm (s : Session) (hand : HandTrigger Unit) (signal : ProfSignal Unit) :
    SomeTicks s { s with hand, signal } :=
  ⟨0, 0, Ticked.of_calm s hand signal⟩

theorem SomeTicks.trans (h : SomeTicks s t) (h' : SomeTicks t u) : SomeTicks s u := by
  obtain ⟨n, k, h⟩ := h
  obtain ⟨m, l, h'⟩ := h'
  exact ⟨n + m, k + l, h.trans h'⟩

theorem SomeTicks.busy (h : SomeTicks s t) : t.shared.busy = s.shared.busy := by
  obtain ⟨n, k, hand, signal, rfl⟩ := h
  rfl

theorem SomeTicks.trigger (h : SomeTicks s t) : t.trigger = s.trigger := by
  obtain ⟨n, k, hand, signal, rfl⟩ := h
  rfl

theorem someTicks_tick (hfree : s.shared.busy = false) :
    SomeTicks s s.tick ∧ s.tick.signal = s.signal := by
  cases hst : s.shared.store with
  | none =>
    rw [tick_none hfree hst]
    exact ⟨.of_calm s s.hand s.signal, rfl⟩
  | some st =>
    rw [tick_some hfree hst]
    refine ⟨⟨1, s.nestedTicks, { s.hand with fired := s.hand.fired + s.nestedFires }, s.signal, ?_⟩,
      rfl⟩
    simp only [Shared.sampled, hst, Option.map_some]
    rfl

/-- A session in which the hand fired once more. -/
def shot (s : Session) : Session := { s with hand := { s.hand with fired := s.hand.fired + 1 } }

theorem fire_eq (s : Session) :
    s.fire =
      if s.hand.live then
        match s.hand.tick with
        | none => (false, s.shot)
        | some () => (true, s.shot.tick)
      else (false, s) := by
  unfold fire fireWith shot
  rw [HandTrigger.fire_eq]
  cases s.hand.live with
  | false => rfl
  | true => cases htick : s.hand.tick <;> simp [htick]

theorem someTicks_fire (hfree : s.shared.busy = false) :
    SomeTicks s s.fire.2 ∧ s.fire.2.signal = s.signal := by
  have hshot : SomeTicks s s.shot := .of_calm s _ s.signal
  rw [fire_eq]
  split
  · split
    · exact ⟨hshot, rfl⟩
    · obtain ⟨hticks, hsignal⟩ := someTicks_tick (s := s.shot) hfree
      exact ⟨hshot.trans hticks, hsignal⟩
  · exact ⟨.of_calm s s.hand s.signal, rfl⟩

theorem someTicks_deliver (hfree : s.shared.busy = false) (brought : Option Unit)
    (signal : ProfSignal Unit) :
    SomeTicks s (s.deliver (brought, signal)) ∧ (s.deliver (brought, signal)).signal = signal := by
  cases brought with
  | none => exact ⟨.of_calm s s.hand signal, rfl⟩
  | some u =>
    obtain ⟨hticks, hsignal⟩ := someTicks_tick (s := { s with signal }) hfree
    exact ⟨(SomeTicks.of_calm s s.hand signal).trans hticks, hsignal⟩

theorem someTicks_raise (hfree : s.shared.busy = false) : SomeTicks s s.raise.2 := by
  unfold raise
  split
  · exact (someTicks_deliver hfree _ _).1
  · exact .of_calm s s.hand s.signal

/-- A signal that is held back waits, and one that is not leaves nothing behind. -/
theorem signal_raise (hfree : s.shared.busy = false) :
    s.raise.2.signal.blocked = s.signal.blocked ∧
      (s.signal.blocked = false → s.raise.2.signal = s.signal) := by
  unfold raise
  split
  · show (s.deliver _).signal.blocked = _ ∧ (_ → (s.deliver _).signal = _)
    rw [(someTicks_deliver hfree _ _).2]
    unfold ProfSignal.send
    cases hblocked : s.signal.blocked <;> simp [hblocked]
  · exact ⟨rfl, fun _ => rfl⟩

theorem raiseMany_succ (times : Nat) (s : Session) :
    (raiseMany (times + 1) s).2 = (raiseMany times s).2.raise.2 := rfl

theorem someTicks_raiseMany (hfree : s.shared.busy = false) (times : Nat) :
    SomeTicks s (raiseMany times s).2 := by
  induction times with
  | zero => exact .of_calm s s.hand s.signal
  | succ times ih =>
    rw [raiseMany_succ]
    exact ih.trans (someTicks_raise (ih.busy.trans hfree))

end Session

end StackSampler
