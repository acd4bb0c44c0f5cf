import StackSampler.Proofs.Sampling.Effect

/-!
# Ticks and control calls side by side

Ticks and control calls run on any number of threads. A tick may also interrupt whatever its thread is
in, another tick included, and then runs to its end before that goes on. What they share is one
`Shared`. They change it in **atomic steps**: an attempt on the flag, one access to the store, the flag
given back, one more missed tick. A schedule is a list of `Move`s, and `World.of` is what it leaves.

An execution is named by its place in the list of all executions, in the order of their beginning.

* `Job.run_tick`: a tick that took the flag counts its stack.
* `World.after_nestedTick`: a tick with ticks inside it is `Shared.tick`, and one missed tick for each.
* `World.after_solo`: a job that nothing interrupts runs its critical section.
* `Session.tick_scheduled`, `AtRest.call_scheduled`, `AtRest.start_scheduled`: so the ticks and the
  control calls of a session are schedules.
-/

namespace StackSampler

variable {μ : Type}

/-! ## What is done under the flag -/

/-- One access to the store: from what the execution has kept in mind and what is stored, to what it
keeps in mind and stores. -/
abbrev Access (μ : Type) := Option μ × Option Store → Option μ × Option Store

/-- An access that changes the store, if there is one, and keeps nothing in mind. -/
def Access.onStore (f : Store → Store) : Access μ := fun x => (x.1, x.2.map f)

/-- Accesses one after the other. -/
def resume (accesses : List (Access μ)) (x : Option μ × Option Store) : Option μ × Option Store :=
  accesses.foldl (fun x access => access x) x

theorem resume_append (as bs : List (Access μ)) (x : Option μ × Option Store) :
    resume (as ++ bs) x = resume bs (resume as x) := List.foldl_append

/-- What is to be run. -/
inductive Job (μ : Type) where
  /-- A tick over a source of stacks. -/
  | tick (source : Backtrace → Backtrace)
  /-- A control call: what it does between taking the flag and giving it back. -/
  | control (accesses : List (Access μ))

namespace Job

def isTick : Job μ → Bool
  | .tick _ => true
  | .control _ => false

/-- The accesses under the flag. A tick blanks the buffer, has the source write over it, and counts. -/
def accesses : Job μ → List (Access μ)
  | .tick source =>
    [.onStore fun st => { st with scratch := st.scratch.map fun _ => FrameId.absent },
      .onStore fun st => { st with scratch := source st.scratch },
      .onStore fun st => st.commit.2]
  | .control accesses => accesses

/-- The whole critical section at once: what is in mind at its end, and the store. -/
def run (j : Job μ) (store : Option Store) : Option μ × Option Store := resume j.accesses (none, store)

theorem run_tick (source : Backtrace → Backtrace) (store : Option Store) :
    (tick source : Job μ).run store = (none, store.map fun st => (st.recordFrom source).2) := by
  cases store with
  | none => rfl
  | some st => rfl

end Job

/-! ## Steps -/

/-- How far an execution has come. -/
inductive Phase (μ : Type) where
  /-- About to try the flag. -/
  | trying
  /-- Holds the flag: what it has in mind, and the accesses that are left. -/
  | inside (mind : Option μ) (rest : List (Access μ))
  /-- A tick that found the flag taken, and has not been counted yet. -/
  | turnedAway
  /-- Over: the critical section was run. -/
  | ran (mind : Option μ)
  /-- Over: a missed tick. -/
  | missed

namespace Phase

/-- Whether the guard of the store exists. -/
def holds : Phase μ → Bool
  | .inside .. => true
  | _ => false

/-- Whether the flag was taken, now or before. -/
def entered : Phase μ → Bool
  | .inside .. | .ran _ => true
  | _ => false

/-- Whether the flag was found taken by an execution that does not wait. -/
def refused : Phase μ → Bool
  | .turnedAway | .missed => true
  | _ => false

def isMissed : Phase μ → Bool
  | .missed => true
  | _ => false

def isOver : Phase μ → Bool
  | .ran _ | .missed => true
  | _ => false

end Phase

/-- **One atomic step.** A control call that finds the flag taken tries again; a tick never does. An
attempt of a control call may also fail for no reason: that is a step which it has yet to take. -/
def Job.step (j : Job μ) : Phase μ → Shared → Phase μ × Shared
  | .trying, sh =>
    match sh.acquire with
    | some held => (.inside none j.accesses, held)
    | none => (if j.isTick then .turnedAway else .trying, sh)
  | .inside mind (access :: rest), sh =>
    let (mind, store) := access (mind, sh.store)
    (.inside mind rest, { sh with store })
  | .inside mind [], sh => (.ran mind, sh.release)
  | .turnedAway, sh => (.missed, sh.miss)
  | .ran mind, sh => (.ran mind, sh)
  | .missed, sh => (.missed, sh)

/-- Some steps of a job, with nothing between. -/
def Job.steps (j : Job μ) : Nat → Phase μ × Shared → Phase μ × Shared
  | 0, x => x
  | n + 1, x => j.steps n (j.step x.1 x.2)

/-- From inside, an execution runs the rest of its critical section and gives the flag back. -/
theorem Job.steps_inside (j : Job μ) (rest : List (Access μ)) (mind : Option μ) (sh : Shared) :
    j.steps (rest.length + 1) (.inside mind rest, sh) =
      (.ran (resume rest (mind, sh.store)).1,
        { sh with busy := false, store := (resume rest (mind, sh.store)).2 }) := by
  induction rest generalizing mind sh with
  | nil => rfl
  | cons access rest ih => exact ih _ _

/-- From a free flag, it runs the whole of it. -/
theorem Job.steps_free (j : Job μ) {sh : Shared} (hfree : sh.busy = false) :
    j.steps (j.accesses.length + 2) (.trying, sh) =
      (.ran (j.run sh.store).1, { sh with store := (j.run sh.store).2 }) := by
  have hacquire : sh.acquire = some { sh with busy := true } := by
    rw [Shared.acquire, hfree]
    rfl
  have htaken : j.step .trying sh = (.inside none j.accesses, { sh with busy := true }) := by
    rw [step, hacquire]
  show j.steps (j.accesses.length + 1) (j.step .trying sh) = _
  rw [htaken, steps_inside, ← hfree]
  rfl

structure Execution (μ : Type) where
  thread : Nat
  job : Job μ
  phase : Phase μ := .trying

/-- Everything that runs, and what it shares. -/
structure World (μ : Type) where
  shared : Shared := {}
  executions : List (Execution μ) := []
  /-- The executions that took the flag, in the order of taking it. No step looks at it. -/
  taken : List Nat := []

inductive Move (μ : Type) where
  /-- A thread begins to run a job, whatever it is in the middle of. -/
  | launch (thread : Nat) (job : Job μ)
  /-- An execution takes a step, if its thread is at it. -/
  | step (i : Nat)

namespace World

variable (w : World μ)

/-- The execution `i`, if its thread is at it: what interrupted it is over. -/
def live? (i : Nat) : Option (Execution μ) :=
  w.executions[i]?.filter fun e =>
    (w.executions.drop (i + 1)).all fun later => later.thread != e.thread || later.phase.isOver

/-- Execution `i`, which is `e`, takes a step. -/
def stepped (i : Nat) (e : Execution μ) : World μ :=
  let (phase, shared) := e.job.step e.phase w.shared
  { shared
    executions := w.executions.set i { e with phase }
    taken := if !e.phase.entered && phase.entered then w.taken ++ [i] else w.taken }

def move : Move μ → World μ
  | .launch thread job => { w with executions := w.executions ++ [{ thread, job }] }
  | .step i =>
    match w.live? i with
    | some e => w.stepped i e
    | none => w

/-- What a schedule leaves. -/
def after (moves : List (Move μ)) : World μ := moves.foldl move w

/-- The world of a schedule, from a new shared state on. -/
def of (moves : List (Move μ)) : World μ := after {} moves

/-- How many executions are in phases of a kind. -/
def count (P : Phase μ → Bool) : Nat := w.executions.countP fun e => P e.phase

def job? (i : Nat) : Option (Job μ) := w.executions[i]?.map Execution.job

/-- The store after the whole critical sections of some executions, one after the other. -/
def serial (is : List Nat) : Option Store :=
  is.foldl (fun store i => (w.job? i).elim store fun j => (j.run store).2) none

/-- Whether execution `i` takes a step in a move, as a number. -/
def turn (i : Nat) : Move μ → Nat
  | .launch .. => 0
  | .step k => if k = i ∧ (w.live? i).isSome then 1 else 0

/-- How many steps execution `i` takes under a schedule. -/
def turns (i : Nat) : World μ → List (Move μ) → Nat
  | _, [] => 0
  | w, m :: moves => w.turn i m + turns i (w.move m) moves

theorem after_append (moves more : List (Move μ)) :
    w.after (moves ++ more) = (w.after moves).after more := List.foldl_append

theorem after_concat (moves : List (Move μ)) (m : Move μ) :
    w.after (moves ++ [m]) = (w.after moves).move m := w.after_append moves [m]

theorem of_append (moves more : List (Move μ)) : of (moves ++ more) = (of moves).after more :=
  after_append {} moves more

theorem of_concat (moves : List (Move μ)) (m : Move μ) : of (moves ++ [m]) = (of moves).move m :=
  after_concat {} moves m

/-! ## One alone, and ticks inside a tick -/

/-- The moves of a job, in a world of `i` executions, that nothing interrupts. -/
def solo (thread i : Nat) (j : Job μ) : List (Move μ) :=
  .launch thread j :: List.replicate (j.accesses.length + 2) (.step i)

/-- The moves of a tick that begins under the flag. -/
def refusedTick (thread i : Nat) (source : Backtrace → Backtrace) : List (Move μ) :=
  [.launch thread (.tick source), .step i, .step i]

/-- The moves of a tick, in a world of `i` executions, that `n` ticks of its thread interrupt after
its source has written the stack. -/
def nestedTick (thread i : Nat) (source : Backtrace → Backtrace) (n : Nat) : List (Move μ) :=
  .launch thread (.tick source) :: (List.replicate 3 (.step i) ++
    ((List.range n).flatMap fun k => refusedTick thread (i + 1 + k) source) ++
    List.replicate 2 (.step i))

/-- Whoever was only interrupted by executions that are over takes its step. -/
theorem step_at (es : List (Execution μ)) (e : Execution μ) (sh : Shared) (taken : List Nat)
    {later : List (Execution μ)} (hlater : ∀ f ∈ later, f.phase.isOver = true) :
    ({ shared := sh, executions := es ++ e :: later, taken } : World μ).move (.step es.length) =
      { shared := (e.job.step e.phase sh).2
        executions := es ++ { e with phase := (e.job.step e.phase sh).1 } :: later
        taken := if !e.phase.entered && (e.job.step e.phase sh).1.entered then taken ++ [es.length]
          else taken } := by
  have hget : (es ++ e :: later)[es.length]? = some e := by
    rw [List.getElem?_append_right (Nat.le_refl _), Nat.sub_self]
    rfl
  have hdrop : (es ++ e :: later).drop (es.length + 1) = later := by
    rw [List.drop_append, List.drop_eq_nil_of_le (Nat.le_succ _), Nat.add_sub_cancel_left]
    rfl
  have hset (f : Execution μ) : (es ++ e :: later).set es.length f = es ++ f :: later := by
    rw [List.set_append_right _ _ (Nat.le_refl _), Nat.sub_self]
    rfl
  have hlive : ({ shared := sh, executions := es ++ e :: later, taken } : World μ).live? es.length =
      some e := by
    refine Option.filter_eq_some_iff.2 ⟨hget, ?_⟩
    show ((es ++ e :: later).drop (es.length + 1)).all _ = true
    rw [hdrop]
    exact List.all_eq_true.2 fun f hf => by rw [hlater f hf, Bool.or_true]
  rw [move, hlive]
  unfold stepped
  dsimp only
  rw [hset]

theorem after_steps (es : List (Execution μ)) {later : List (Execution μ)}
    (hlater : ∀ f ∈ later, f.phase.isOver = true) (n : Nat) (e : Execution μ) (sh : Shared)
    (taken : List Nat) :
    ∃ taken', ({ shared := sh, executions := es ++ e :: later, taken } : World μ).after
      (List.replicate n (.step es.length)) =
        { shared := (e.job.steps n (e.phase, sh)).2
          executions := es ++ { e with phase := (e.job.steps n (e.phase, sh)).1 } :: later
          taken := taken' } := by
  induction n generalizing e sh taken with
  | zero => exact ⟨taken, rfl⟩
  | succ n ih =>
    obtain ⟨taken', h⟩ := ih { e with phase := (e.job.step e.phase sh).1 } (e.job.step e.phase sh).2 _
    exact ⟨taken', (congrArg (World.after · (List.replicate n (.step es.length)))
      (step_at es e sh taken hlater)).trans h⟩

/-- **A job that finds the flag free**, and that nothing interrupts, runs its critical section. -/
theorem after_solo {w : World μ} (hfree : w.shared.busy = false) (thread : Nat) (j : Job μ) :
    (w.after (solo thread w.executions.length j)).shared =
        { w.shared with store := (j.run w.shared.store).2 } ∧
      (w.after (solo thread w.executions.length j)).executions =
        w.executions ++ [{ thread, job := j, phase := .ran (j.run w.shared.store).1 }] := by
  obtain ⟨sh, es, taken⟩ := w
  obtain ⟨taken', hsteps⟩ := after_steps es (List.forall_mem_nil _) (j.accesses.length + 2)
    ({ thread, job := j } : Execution μ) sh taken
  have hsolo : ({ shared := sh, executions := es, taken } : World μ).after (solo thread es.length j) =
      { shared := (j.steps (j.accesses.length + 2) (.trying, sh)).2
        executions := es ++
          [{ thread, job := j, phase := (j.steps (j.accesses.length + 2) (.trying, sh)).1 }]
        taken := taken' } := hsteps
  rw [hsolo, j.steps_free hfree]
  exact ⟨rfl, rfl⟩

/-- A tick that begins under the flag is missed, and nothing else. -/
theorem after_refusedTick {w : World μ} (hbusy : w.shared.busy = true) (thread : Nat)
    (source : Backtrace → Backtrace) :
    w.after (refusedTick thread w.executions.length source) =
      { w with
        shared := w.shared.miss
        executions := w.executions ++ [{ thread, job := .tick source, phase := .missed }] } := by
  obtain ⟨sh, es, taken⟩ := w
  have hacquire : sh.acquire = none := if_pos hbusy
  show (({ shared := sh, executions := es ++ [{ thread, job := .tick source }], taken } : World μ).move
    (.step es.length)).move (.step es.length) = _
  have hstep : Job.step (.tick source) .trying sh = (Phase.turnedAway (μ := μ), sh) := by
    rw [Job.step, hacquire]
    rfl
  rw [step_at es _ _ _ (List.forall_mem_nil _)]
  simp only [hstep]
  rw [step_at es _ _ _ (List.forall_mem_nil _)]
  rfl

/-- So are any number of them, one after the other. -/
theorem after_refusedTicks {w : World μ} (hbusy : w.shared.busy = true) (thread : Nat)
    (source : Backtrace → Backtrace) (n : Nat) :
    w.after ((List.range n).flatMap fun k => refusedTick thread (w.executions.length + k) source) =
      { w with
        shared := { w.shared with missed := w.shared.missed + n }
        executions := w.executions ++
          List.replicate n { thread, job := .tick source, phase := .missed } } := by
  induction n with
  | zero => simp [after]
  | succ n ih =>
    rw [List.range_succ, List.flatMap_append, after_append, ih, List.flatMap_singleton]
    have hlength : w.executions.length + n =
        (w.executions ++ List.replicate n
          ({ thread, job := .tick source, phase := .missed } : Execution μ)).length := by
      rw [List.length_append, List.length_replicate]
    rw [hlength]
    refine (after_refusedTick (by exact hbusy) thread source).trans ?_
    rw [List.append_assoc, ← List.replicate_succ']
    rfl

/-- **A tick that finds the flag free** does what `Shared.tick` does, and every tick that interrupts it
is missed. -/
theorem after_nestedTick {w : World μ} (hfree : w.shared.busy = false) (thread : Nat)
    (source : Backtrace → Backtrace) (n : Nat) :
    (w.after (nestedTick thread w.executions.length source n)).shared =
      { w.shared.tick source with missed := w.shared.missed + n } := by
  obtain ⟨⟨busy, store, missed⟩, es, taken⟩ := w
  obtain rfl : busy = false := hfree
  let job : Job μ := .tick source
  let written : Shared :=
    { busy := true, store := (resume (job.accesses.take 2) (none, store)).2, missed }
  let inside : Execution μ := { thread, job, phase := .inside none (job.accesses.drop 2) }
  let nested : List (Execution μ) := List.replicate n { thread, job, phase := .missed }
  have hnested : ∀ f ∈ nested, f.phase.isOver = true := fun f hf => by
    rw [List.eq_of_mem_replicate hf]
    rfl
  -- up to the stack written; then the ticks inside; then the count and the end
  obtain ⟨taken₁, hopen⟩ := after_steps es (List.forall_mem_nil _) 3
    ({ thread, job } : Execution μ) { store, missed } taken
  have hinside := after_refusedTicks
    (w := { shared := written, executions := es ++ [inside], taken := taken₁ }) rfl thread source n
  rw [List.length_append, List.length_singleton, List.append_assoc] at hinside
  obtain ⟨taken₂, hclose⟩ := after_steps es hnested 2 inside
    { written with missed := missed + n } taken₁
  have hmoves := (congrArg (World.after · (List.replicate 2 (.step es.length))) hinside).trans hclose
  have hstore : (resume (job.accesses.drop 2) (none, written.store)).2 =
      store.map fun st => (st.recordFrom source).2 :=
    congrArg Prod.snd (Job.run_tick source store)
  show (World.after { shared := { store, missed }, executions := es ++ [{ thread, job }], taken }
    _).shared = _
  rw [after_append, after_append, hopen]
  refine (congrArg World.shared hmoves).trans ?_
  show ({ store := (resume (job.accesses.drop 2) (none, written.store)).2, missed := missed + n } :
    Shared) = _
  rw [hstore]
  rfl

end World

/-! ## The schedules of a session -/

namespace Session

variable {s : Session}

/-- A tick of a session, and the ticks that its host fires from inside it. -/
theorem tick_scheduled {st : Store} (hfree : s.shared.busy = false) (hst : s.shared.store = some st) :
    s.tick.shared = (({ shared := s.shared } : World μ).after
      (World.nestedTick 0 0 s.stack.read s.nestedTicks)).shared := by
  have hworld := World.after_nestedTick (w := ({ shared := s.shared } : World μ)) hfree 0 s.stack.read
    s.nestedTicks
  have hacquire : s.shared.acquire = some { s.shared with busy := true } := by
    rw [Shared.acquire, hfree]
    rfl
  refine Eq.trans ?_ hworld.symm
  rw [tick_some hfree hst, Shared.tick, hacquire]
  simp only [Shared.capture, Shared.release, hst, hfree, Option.map_some]

/-- What a control call does under the flag: what it will answer, and the store that it leaves. -/
def critical (s : Session) : Operation → Option (Access Answer)
  | .isAllocated => some fun x => (some (.told x.2.isSome), x.2)
  | .snapshot =>
    some fun x => (some (.taken (.ofStore x.2 s.mode s.startTime s.clock s.interval)), x.2)
  | .reset => some fun _ => (some .done, none)
  | _ => none

/-- **A control call of a session** is the schedule of its one access: the answer is what that keeps in
mind. -/
theorem AtRest.call_scheduled (h : s.AtRest) {op : Operation} {access : Access Answer}
    (hop : s.critical op = some access) :
    let w := ({ shared := s.shared } : World Answer).after (World.solo 0 0 (.control [access]))
    (s.perform op).2.shared = w.shared ∧
      w.executions.map Execution.phase = [.ran (some (s.perform op).1)] := by
  obtain ⟨hshared, hexecutions⟩ := World.after_solo (w := ({ shared := s.shared } : World Answer))
    h.free 0 (.control [access])
  intro w
  change w.shared = _ at hshared
  change w.executions = _ at hexecutions
  rw [hshared, hexecutions]
  cases op <;> cases hop
  case isAllocated => rw [perform, h.isAllocated_eq]; exact ⟨rfl, rfl⟩
  case snapshot => rw [perform, h.snapshot_eq]; exact ⟨rfl, rfl⟩
  case reset => rw [perform, h.reset_eq]; exact ⟨rfl, rfl⟩

/-- What a start does under the flag, before it comes to the trigger. -/
def allocate (s : Session) : Access μ := fun x =>
  (x.1, ({ s with shared := { s.shared with store := x.2 } } : Session).provision.store)

theorem AtRest.start_shared (h : s.AtRest) (i : Span) : (s.start i).2.shared = s.provision := by
  have heffect := (h.start_effect i).1
  show (s.start i).2.record.shared = _
  generalize (s.start i).2.record = r at heffect
  generalize Answer.started (s.start i).1 = a at heffect
  cases heffect with
  | kept _ hstart => exact absurd rfl (hstart i)
  | ticked hticks => cases hticks
  | invalid hstore hconfig =>
    unfold provision
    rw [hstore, hconfig]
    rfl
  | refused _ | begun _ => rfl

theorem AtRest.start_scheduled (h : s.AtRest) (i : Span) :
    (s.start i).2.shared = (({ shared := s.shared } : World μ).after
      (World.solo 0 0 (.control [s.allocate]))).shared := by
  have hworld := (World.after_solo (w := ({ shared := s.shared } : World μ)) h.free 0
    (.control [s.allocate])).1
  rw [h.start_shared]
  refine Eq.trans ?_ hworld.symm
  show s.provision = { s.shared with store := s.provision.store }
  unfold provision
  split <;> rfl

end Session

end StackSampler
