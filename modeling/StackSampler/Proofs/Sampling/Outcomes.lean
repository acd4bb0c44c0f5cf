import StackSampler.Proofs.Sampling.Acts
import StackSampler.Proofs.Sampling.Reentry

/-!
# What becomes of every tick

An operation may run any number of ticks, and each of them comes to one `Outcome`. `Session.outcomes`
lists them for one operation, with any trigger, and `Session.runOutcomes` for a run of acts, of which
only operations run ticks. What a session counts can be read off the list: the total is the number of
recorded ticks, and the missed ticks are the missed ones.

* `Came`: nothing but ticks happened, and what they came to. `AtRest.came` says it of every operation.
* `AtRest.run_missed`, `AtRest.run_counted`, `AtRest.run_counted_le`: runs.
-/

namespace StackSampler

namespace Session

variable {s t u : Session} {os os' : List Outcome} {op : Operation} {a : Act}
  {acts : List Act}

/-- The total of the store; without one there is nothing in it. -/
def counted (s : Session) : Nat := s.shared.store.elim 0 Store.total

/-! ## The ticks of an operation -/

/-- What the tick of a signal comes to, if the signal brings one. -/
def deliverOutcomes (s : Session) : Option Unit × ProfSignal Unit → List Outcome
  | (none, _) => []
  | (some (), signal) => ({ s with signal } : Session).tickOutcomes

def fireOutcomes (s : Session) : List Outcome :=
  if s.hand.live ∧ s.hand.tick.isSome then s.shot.tickOutcomes else []

def raiseOutcomes (s : Session) : List Outcome :=
  if s.signal.disposition = .sampling then s.deliverOutcomes s.signal.send else []

def raiseManyOutcomes : Nat → Session → List Outcome
  | 0, _ => []
  | times + 1, s => raiseManyOutcomes times s ++ (raiseMany times s).2.raiseOutcomes

def unblockOutcomes (s : Session) : List Outcome :=
  match s.trigger with
  | .itimer _ => s.deliverOutcomes s.signal.unblock
  | .hand | .thread _ => []

def elapseOutcomes (s : Session) : List Outcome :=
  match s.trigger with
  | .hand => []
  | .itimer _ => s.deliverOutcomes s.signal.expire
  | .thread t => if t.armed then s.tickOutcomes else []

/-- What the ticks of an operation come to, in the order in which they end. No other operation runs
any. -/
def outcomes (s : Session) : Operation → List Outcome
  | .fire => s.fireOutcomes
  | .sampleNow => s.tickOutcomes
  | .raise => s.raiseOutcomes
  | .raiseMasked times =>
    raiseManyOutcomes times s.block ++ (raiseMany times s.block).2.unblockOutcomes
  | .elapse => s.elapseOutcomes
  | _ => []

/-- What the ticks of a run come to. -/
def runOutcomes (s : Session) : List Act → List Outcome
  | [] => []
  | a :: acts => s.outcomes a.operation ++ (s.act a).2.runOutcomes acts

theorem outcomes_of_not_ticks (hticks : op.ticks = false) : s.outcomes op = [] := by
  cases op with
  | fire | sampleNow | raise | raiseMasked _ | elapse => cases hticks
  | _ => rfl

/-! ## What ticks add up to -/

/-- **Nothing but ticks happened**, which came to `os`. -/
structure Came (os : List Outcome) (s t : Session) : Prop where
  ticked : ∃ n, Ticked n (os.count .missed) s t
  counted : t.counted = s.counted + os.count .recorded

namespace Came

theorem of_calm (s : Session) (hand : HandTrigger Unit) (signal : ProfSignal Unit) :
    Came [] s { s with hand, signal } := ⟨⟨0, .of_calm s hand signal⟩, rfl⟩

theorem trans (h : Came os s t) (h' : Came os' t u) : Came (os ++ os') s u := by
  obtain ⟨⟨n, hticked⟩, hcounted⟩ := h
  obtain ⟨⟨m, hticked'⟩, hcounted'⟩ := h'
  refine ⟨⟨n + m, ?_⟩, ?_⟩
  · rw [List.count_append]
    exact hticked.trans hticked'
  · rw [List.count_append, hcounted', hcounted, Nat.add_assoc]

theorem someTicks (h : Came os s t) : SomeTicks s t := by
  obtain ⟨⟨n, hticked⟩, -⟩ := h
  exact ⟨n, _, hticked⟩

theorem missed (h : Came os s t) : t.shared.missed = s.shared.missed + os.count .missed := by
  obtain ⟨⟨n, hand, signal, rfl⟩, -⟩ := h
  rfl

end Came

theorem came_tick (hfree : s.shared.busy = false) : Came s.tickOutcomes s s.tick := by
  unfold tickOutcomes
  rw [hfree]
  cases hst : s.shared.store with
  | none =>
    rw [tick_none hfree hst]
    exact ⟨⟨0, .of_calm s s.hand s.signal⟩, rfl⟩
  | some st =>
    rw [tick_some hfree hst]
    obtain ⟨hmissed, hrecorded⟩ := st.count_outcomes s.stack s.nestedTicks
    refine ⟨⟨1, { s.hand with fired := s.hand.fired + s.nestedFires }, s.signal, ?_⟩, ?_⟩
    · simp only [Bool.false_eq_true, if_false, hmissed, Shared.sampled, hst, Option.map_some]
      rfl
    · simp only [Bool.false_eq_true, if_false, hrecorded, counted, hst, Option.elim_some]
      exact st.total_recordFrom s.stack.read

theorem came_fire (hfree : s.shared.busy = false) : Came s.fireOutcomes s s.fire.2 := by
  have hshot : Came [] s s.shot := .of_calm s _ s.signal
  unfold fireOutcomes
  rw [fire_eq]
  cases s.hand.live with
  | false => exact .of_calm s s.hand s.signal
  | true =>
    cases s.hand.tick with
    | none => exact hshot
    | some u => exact hshot.trans (came_tick (s := s.shot) hfree)

theorem came_deliver (hfree : s.shared.busy = false) (step : Option Unit × ProfSignal Unit) :
    Came (s.deliverOutcomes step) s (s.deliver step) := by
  obtain ⟨brought, signal⟩ := step
  have hcalm : Came [] s { s with signal } := .of_calm s s.hand signal
  cases brought with
  | none => exact hcalm
  | some u => exact hcalm.trans (came_tick (s := { s with signal }) hfree)

theorem came_raise (hfree : s.shared.busy = false) : Came s.raiseOutcomes s s.raise.2 := by
  unfold raise raiseOutcomes
  split
  · exact came_deliver hfree _
  · exact .of_calm s s.hand s.signal

theorem came_raiseMany (hfree : s.shared.busy = false) (times : Nat) :
    Came (raiseManyOutcomes times s) s (raiseMany times s).2 := by
  induction times with
  | zero => exact .of_calm s s.hand s.signal
  | succ times ih =>
    rw [raiseMany_succ, raiseManyOutcomes]
    exact ih.trans (came_raise (ih.someTicks.busy.trans hfree))

theorem came_block (s : Session) : Came [] s s.block := by
  unfold block
  split
  · exact .of_calm s s.hand.block s.signal
  · exact .of_calm s s.hand s.signal.block
  · exact .of_calm s s.hand s.signal

theorem came_unblock (hfree : s.shared.busy = false) : Came s.unblockOutcomes s s.unblock := by
  cases htrigger : s.trigger with
  | hand =>
    simp only [unblock, unblockOutcomes, htrigger]
    exact htrigger ▸ .of_calm s s.hand.unblock s.signal
  | itimer t =>
    simp only [unblock, unblockOutcomes, htrigger]
    exact came_deliver hfree _
  | thread t =>
    simp only [unblock, unblockOutcomes, htrigger]
    exact .of_calm s s.hand s.signal

theorem came_elapse (hfree : s.shared.busy = false) : Came s.elapseOutcomes s s.elapse := by
  cases htrigger : s.trigger with
  | hand =>
    simp only [elapse, elapseOutcomes, htrigger]
    exact .of_calm s s.hand s.signal
  | itimer t =>
    simp only [elapse, elapseOutcomes, htrigger]
    exact came_deliver hfree _
  | thread t =>
    simp only [elapse, elapseOutcomes, htrigger]
    split
    · exact came_tick hfree
    · exact .of_calm s s.hand s.signal

/-- **What an operation's ticks come to** is what it does. -/
theorem AtRest.came (h : s.AtRest) (hticks : op.ticks = true) :
    Came (s.outcomes op) s (s.perform op).2 := by
  cases op with
  | fire => exact came_fire h.free
  | sampleNow => exact came_tick h.free
  | raise => exact came_raise h.free
  | raiseMasked times =>
    have hblock := came_block s
    have hraise := came_raiseMany (hblock.someTicks.busy.trans h.free) times
    have hfree := (hblock.trans hraise).someTicks.busy.trans h.free
    exact (hblock.trans hraise).trans (came_unblock hfree)
  | elapse => exact came_elapse h.free
  | start _ | stop | reset | isAllocated | snapshot | setConfig _ | push _ | pop | advance _ | refuse _
    | setNested _ => cases hticks

/-! ## Runs -/

/-- Without ticks nothing is counted. A new store starts from zero, as does having none. -/
theorem Effect.counts {a : Answer} {r : Record} (h : Effect s op a r) (hticks : op.ticks = false) :
    r.shared.missed = s.shared.missed ∧
      (op ≠ .reset → r.shared.store.elim 0 Store.total = s.counted) := by
  have hprovision : s.provision.missed = s.shared.missed ∧
      s.provision.store.elim 0 Store.total = s.counted := by
    unfold provision counted
    split
    · next hst _ => exact ⟨rfl, by rw [hst]; rfl⟩
    · exact ⟨rfl, rfl⟩
  cases h with
  | kept _ _ | invalid _ _ => exact ⟨rfl, fun _ => rfl⟩
  | ticked htrue => cases hticks.symm.trans htrue
  | reset => exact ⟨rfl, fun hne => absurd rfl hne⟩
  | refused _ | begun _ => exact ⟨hprovision.1, fun _ => hprovision.2⟩

/-- **One act**, with ticks or without. -/
theorem AtRest.act_counts (h : s.AtRest) (a : Act) :
    (s.act a).2.shared.missed = s.shared.missed + (s.outcomes a.operation).count .missed ∧
      (a.operation ≠ .reset →
        (s.act a).2.counted = s.counted + (s.outcomes a.operation).count .recorded) := by
  cases hticks : a.operation.ticks with
  | true =>
    cases a with
    | call op =>
      have hcame := h.came hticks
      exact ⟨hcame.missed, fun _ => hcame.counted⟩
    | start _ _ | install _ _ | disarm | renew | others _ => cases hticks
  | false =>
    obtain ⟨⟨answer, heffect, -⟩, -⟩ := h.act_effect a
    rw [outcomes_of_not_ticks hticks]
    exact heffect.counts hticks

theorem AtRest.run_missed (h : s.AtRest) (acts : List Act) :
    (s.acted acts).shared.missed = s.shared.missed + (s.runOutcomes acts).count .missed := by
  induction acts generalizing s with
  | nil => rfl
  | cons a acts ih =>
    have hact := (h.act_counts a).1
    have hrest := ih (h.act_effect a).2
    rw [acted_cons, hrest, hact, runOutcomes, List.count_append, Nat.add_assoc]

/-- Until a reset the total goes on. -/
theorem AtRest.run_counted (h : s.AtRest) (hacts : ∀ a ∈ acts, a.operation ≠ .reset) :
    (s.acted acts).counted = s.counted + (s.runOutcomes acts).count .recorded := by
  induction acts generalizing s with
  | nil => rfl
  | cons a acts ih =>
    have hact := (h.act_counts a).2 (hacts a List.mem_cons_self)
    have hrest := ih (h.act_effect a).2 fun b hb => hacts b (List.mem_cons_of_mem a hb)
    rw [acted_cons, hrest, hact, runOutcomes, List.count_append, Nat.add_assoc]

/-- With a reset nothing is left in the store. -/
theorem AtRest.act_reset (h : s.AtRest) (ha : a.operation = .reset) :
    (s.act a).2.shared.store = none := by
  cases a with
  | call op =>
    obtain rfl : op = .reset := ha
    show s.reset.shared.store = none
    rw [h.reset_eq]
  | start _ _ | install _ _ | disarm | renew | others _ => cases ha

/-- With resets too, no more is counted than there were ticks. -/
theorem AtRest.run_counted_le (h : s.AtRest) (acts : List Act) :
    (s.acted acts).counted ≤ s.counted + (s.runOutcomes acts).length := by
  induction acts generalizing s with
  | nil => exact Nat.le_refl _
  | cons a acts ih =>
    have hrest := ih (h.act_effect a).2
    have hact : (s.act a).2.counted ≤ s.counted + (s.outcomes a.operation).length := by
      by_cases hreset : a.operation = .reset
      · rw [counted, h.act_reset hreset]
        exact Nat.zero_le _
      · rw [(h.act_counts a).2 hreset]
        exact Nat.add_le_add_left List.count_le_length _
    rw [acted_cons, runOutcomes, List.length_append]
    omega

end Session

end StackSampler
