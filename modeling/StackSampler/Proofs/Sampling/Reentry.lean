import StackSampler.Proofs.Sampling.Growth

/-!
# Ticks inside a tick

The source of stacks that a tick consults may fire the hand trigger in its turn, which runs a tick, which
may consult the source. `Session.Runs` is what happens then, with no bound on how deep it goes; every
tick comes to one of four `Outcome`s.

* `Session.runs_tick`: every tick comes to an end, and only in one way, which is `Session.tick`. So it
  does not matter to how many levels `tickAt` follows the ticks, as long as there are two.
* `Session.tickOutcomes`: under the flag a tick is missed, and so are all that it fires under its own.
* `Store.Sound.outcome`: whether a stack is recorded depends on its innermost frame alone.
-/

namespace StackSampler

/-- What a tick comes to. -/
inductive Outcome where
  /-- Its stack was counted. -/
  | recorded
  /-- Its stack was read, and has no innermost frame. -/
  | discarded
  /-- There was no store. -/
  | storeless
  /-- The flag was taken. -/
  | missed
  deriving DecidableEq, Repr

namespace Store

/-- What a tick over a stack comes to that has a store to itself. -/
def outcome (st : Store) (stack : ShadowStack) : Outcome :=
  if (st.recordFrom stack.read).1 then .recorded else .discarded

variable {st : Store}

/-- The total is the number of stacks that were recorded. -/
theorem total_recordFrom (st : Store) (source : Backtrace → Backtrace) :
    (st.recordFrom source).2.total = st.total + if (st.recordFrom source).1 then 1 else 0 := by
  unfold recordFrom commit
  split
  · rfl
  · split <;> rfl

/-- A tick that `n` ticks inside it could not disturb. -/
theorem count_outcomes (st : Store) (stack : ShadowStack) (n : Nat) :
    (List.replicate n Outcome.missed ++ [st.outcome stack]).count .missed = n ∧
      (List.replicate n Outcome.missed ++ [st.outcome stack]).count .recorded =
        if (st.recordFrom stack.read).1 then 1 else 0 := by
  unfold outcome
  cases (st.recordFrom stack.read).1 <;> simp [List.count_append, List.count_replicate]

/-- **What is recorded**: every stack with an innermost frame. -/
theorem Sound.outcome (h : st.Sound) (hdepth : 0 < st.depth) (stack : ShadowStack) :
    st.outcome stack = if (stack.frameAt 0).isAbsent then .discarded else .recorded := by
  obtain ⟨c, r, hpos, hmatch⟩ := h
  have hcall := (hmatch.call hpos (.recordFrom stack.source)).1
  have hkey : (Call.recordFrom stack.source).key c.depth = stack.read (Backtrace.blank c.depth) := rfl
  have hdeep : 0 < c.depth := hmatch.depth ▸ hdepth
  have hhead : (stack.read (Backtrace.blank c.depth)).head? = some (stack.frameAt 0) := by
    simp [ShadowStack.read, Backtrace.blank, List.head?_eq_getElem?, hdeep]
  have hblank : (stack.read (Backtrace.blank c.depth)).isBlank = (stack.frameAt 0).isAbsent := by
    rw [Backtrace.isBlank, hhead]
    rfl
  have hstarts : (stack.read (Backtrace.blank c.depth)).starts = !(stack.frameAt 0).isAbsent := by
    rw [← hblank, Backtrace.isBlank_eq, Bool.not_not]
  have hanswer : (st.recordFrom stack.read).1 = !(stack.frameAt 0).isAbsent := by
    rw [hkey, Tally.sample, hstarts] at hcall
    refine hcall.trans ?_
    cases (stack.frameAt 0).isAbsent <;> rfl
  unfold Store.outcome
  rw [hanswer]
  cases (stack.frameAt 0).isAbsent <;> rfl

end Store

namespace Session

/-! ## With no bound -/

/-- What is run: a tick, or what the source of stacks fires from inside it. -/
inductive Task where
  | tick
  | fires (times : Nat)

/-- **How a task runs**: what its ticks come to, how often a stack is read, and what is left. -/
inductive Runs : Task → Session → List Outcome → Nat → Session → Prop
  | missed {s} (htaken : s.shared.acquire = none) :
    Runs .tick s [.missed] 0 { s with shared := s.shared.miss }
  | storeless {s held} (hheld : s.shared.acquire = some held) (hstore : held.store = none) :
    Runs .tick s [.storeless] 0 { s with shared := held.release }
  /-- The stack is read first, and counted when all that was fired is over. -/
  | counted {s held t os reads st} (hheld : s.shared.acquire = some held)
    (hstore : held.store.isSome)
    (hfires : Runs (.fires s.nested) { s with shared := held } os reads t)
    (hst : t.shared.store = some st) :
    Runs .tick s (os ++ [st.outcome s.stack]) (reads + 1)
      { t with shared := (t.shared.capture s.stack.read).release }
  | spent {s} : Runs (.fires 0) s [] 0 s
  | idle {s hand times os reads t} (hfire : s.hand.fire = (none, hand))
    (hrest : Runs (.fires times) { s with hand } os reads t) :
    Runs (.fires (times + 1)) s os reads t
  | shot {s hand times os reads t os' reads' u} (hfire : s.hand.fire = (some (), hand))
    (htick : Runs .tick { s with hand } os reads t)
    (hrest : Runs (.fires times) t os' reads' u) :
    Runs (.fires (times + 1)) s (os ++ os') (reads + reads') u

variable {s t : Session} {os : List Outcome} {reads : Nat}

/-- A task runs in one way only. -/
theorem Runs.unique {task : Task} (h : Runs task s os reads t) {os' : List Outcome} {reads' : Nat}
    {t' : Session} (h' : Runs task s os' reads' t') : os' = os ∧ reads' = reads ∧ t' = t := by
  induction h generalizing os' reads' t' with
  | missed htaken =>
    cases h' with
    | missed _ => exact ⟨rfl, rfl, rfl⟩
    | storeless hheld _ | counted hheld _ _ _ => cases htaken.symm.trans hheld
  | storeless hheld hstore =>
    cases h' with
    | missed htaken => cases htaken.symm.trans hheld
    | storeless hheld' _ =>
      obtain rfl := Option.some.inj (hheld.symm.trans hheld')
      exact ⟨rfl, rfl, rfl⟩
    | counted hheld' hstore' _ _ =>
      obtain rfl := Option.some.inj (hheld.symm.trans hheld')
      simp [hstore] at hstore'
  | counted hheld hstore _ hst ih =>
    cases h' with
    | missed htaken => cases htaken.symm.trans hheld
    | storeless hheld' hnone =>
      obtain rfl := Option.some.inj (hheld.symm.trans hheld')
      simp [hnone] at hstore
    | counted hheld' _ hfires' hst' =>
      obtain rfl := Option.some.inj (hheld.symm.trans hheld')
      obtain ⟨rfl, rfl, rfl⟩ := ih hfires'
      obtain rfl := Option.some.inj (hst.symm.trans hst')
      exact ⟨rfl, rfl, rfl⟩
  | spent =>
    cases h' with
    | spent => exact ⟨rfl, rfl, rfl⟩
  | idle hfire _ ih =>
    cases h' with
    | idle hfire' hrest' =>
      cases hfire.symm.trans hfire'
      exact ih hrest'
    | shot hfire' _ _ => cases hfire.symm.trans hfire'
  | shot hfire _ _ ihtick ihrest =>
    cases h' with
    | idle hfire' _ => cases hfire.symm.trans hfire'
    | shot hfire' htick' hrest' =>
      cases hfire.symm.trans hfire'
      obtain ⟨rfl, rfl, rfl⟩ := ihtick htick'
      obtain ⟨rfl, rfl, rfl⟩ := ihrest hrest'
      exact ⟨rfl, rfl, rfl⟩

/-! ## One tick -/

/-- What a tick and those inside it come to. -/
def tickOutcomes (s : Session) : List Outcome :=
  if s.shared.busy then [.missed]
  else
    match s.shared.store with
    | none => [.storeless]
    | some st => List.replicate s.nestedTicks .missed ++ [st.outcome s.stack]

/-- How often a tick reads the stack. -/
def tickReads (s : Session) : Nat := if s.shared.busy || s.shared.store.isNone then 0 else 1

theorem tick_busy (hbusy : s.shared.busy = true) : s.tick = { s with shared := s.shared.miss } := by
  have htaken : s.shared.acquire = none := if_pos hbusy
  simp only [tick, tickAt, htaken]

theorem hand_fire (hlive : s.hand.live = true) : s.hand.fire = (s.hand.tick, s.shot.hand) := by
  rw [HandTrigger.fire_eq, hlive]
  rfl

/-- Firing under the flag what does not fire. -/
theorem runs_fires_idle (hlive : s.hand.live = false) (times : Nat) :
    Runs (.fires times) s [] 0 s := by
  induction times with
  | zero => exact .spent
  | succ times ih =>
    have hfire := s.hand.fire_eq
    rw [hlive, if_neg Bool.false_ne_true] at hfire
    exact .idle hfire ih

/-- Firing what was never installed. -/
theorem runs_fires_vain (hlive : s.hand.live = true) (htick : s.hand.tick = none) (times : Nat) :
    Runs (.fires times) s [] 0 { s with hand := { s.hand with fired := s.hand.fired + times } } := by
  induction times generalizing s with
  | zero => exact .spent
  | succ times ih =>
    have hfire : s.hand.fire = (none, s.shot.hand) := htick ▸ hand_fire hlive
    have hrest := ih (s := s.shot) hlive htick
    have hcount : s.shot.hand.fired + times = s.hand.fired + (times + 1) :=
      Nat.succ_add_eq_add_succ s.hand.fired times
    rw [hcount] at hrest
    exact .idle hfire hrest

/-- Firing under the flag: every tick is missed at once. -/
theorem runs_fires_missed (hbusy : s.shared.busy = true) (hlive : s.hand.live = true)
    (htick : s.hand.tick = some ()) (times : Nat) :
    Runs (.fires times) s (List.replicate times .missed) 0
      { s with
        hand := { s.hand with fired := s.hand.fired + times }
        shared := { s.shared with missed := s.shared.missed + times } } := by
  induction times generalizing s with
  | zero => exact .spent
  | succ times ih =>
    have hfire : s.hand.fire = (some (), s.shot.hand) := htick ▸ hand_fire hlive
    have hmissed : Runs .tick s.shot [.missed] 0 { s.shot with shared := s.shot.shared.miss } :=
      .missed (if_pos hbusy)
    have hrest := ih (s := { s.shot with shared := s.shot.shared.miss }) hbusy hlive htick
    have hfired : s.shot.hand.fired + times = s.hand.fired + (times + 1) :=
      Nat.succ_add_eq_add_succ s.hand.fired times
    have hmisses : s.shot.shared.miss.missed + times = s.shared.missed + (times + 1) :=
      Nat.succ_add_eq_add_succ s.shared.missed times
    rw [hfired, hmisses] at hrest
    exact .shot hfire hmissed hrest

/-- What a tick fires while it has the flag. -/
theorem runs_fires_busy (hbusy : s.shared.busy = true) :
    Runs (.fires s.nested) s (List.replicate s.nestedTicks .missed) 0
      { s with
        hand := { s.hand with fired := s.hand.fired + s.nestedFires }
        shared := { s.shared with missed := s.shared.missed + s.nestedTicks } } := by
  unfold nestedTicks nestedFires
  cases hlive : s.hand.live with
  | false => simpa using runs_fires_idle hlive s.nested
  | true =>
    cases htick : s.hand.tick with
    | none => simpa [htick] using runs_fires_vain hlive htick s.nested
    | some u => simpa [htick] using runs_fires_missed hbusy hlive htick s.nested

/-- **A tick comes to an end**, whatever it fires. -/
theorem runs_tick (s : Session) : Runs .tick s s.tickOutcomes s.tickReads s.tick := by
  unfold tickOutcomes tickReads
  cases hbusy : s.shared.busy with
  | true =>
    rw [tick_busy hbusy]
    exact .missed (if_pos hbusy)
  | false =>
    have hheld : s.shared.acquire = some { s.shared with busy := true } := by
      rw [Shared.acquire, hbusy]
      rfl
    cases hst : s.shared.store with
    | none =>
      have hover := Runs.storeless hheld hst
      have hsame : ({ s.shared with busy := true } : Shared).release = s.shared := by
        rw [Shared.release, ← hbusy]
      rw [hsame] at hover
      rw [tick_none hbusy hst]
      exact hover
    | some st =>
      have hsome : s.shared.store.isSome := by simp [hst]
      have hfires := runs_fires_busy (s := { s with shared := { s.shared with busy := true } }) rfl
      have hover := Runs.counted hheld hsome hfires hst
      rw [tick_some hbusy hst]
      simpa [Shared.capture, Shared.release, hst, hbusy, nestedTicks, nestedFires] using hover

/-- **A tick runs in one way**, which is the one that is computed. -/
theorem runs_tick_iff :
    Runs .tick s os reads t ↔ os = s.tickOutcomes ∧ reads = s.tickReads ∧ t = s.tick := by
  constructor
  · intro h
    exact s.runs_tick.unique h
  · rintro ⟨rfl, rfl, rfl⟩
    exact s.runs_tick

/-- More levels change nothing. -/
theorem tickAt_eq (levels : Nat) (s : Session) : tickAt (levels + 2) s = s.tick := by
  cases hbusy : s.shared.busy with
  | true =>
    have htaken : s.shared.acquire = none := if_pos hbusy
    simp only [tick, tickAt, htaken]
  | false =>
    have hheld : s.shared.acquire = some { s.shared with busy := true } := by
      rw [Shared.acquire, hbusy]
      rfl
    rw [tick, tickAt, tickAt, hheld]
    cases hst : s.shared.store with
    | none => simp only [hst]
    | some st =>
      simp only [hst]
      rw [repeat_fire_busy rfl, repeat_fire_busy rfl]

end Session

end StackSampler
