import StackSampler.Proofs.Sampling.Exclusion

/-!
# Ticks come to their end

A tick tries the flag once. If it took it, nobody can keep it from its end; if it did not, it is counted
as missed. So it is over after five steps of its own at most, whatever the others do, and also when
they do nothing.

* `World.left_after`: each step of a tick brings it nearer to its end.
* `World.Attempt.outcome`: the flag at the attempt decides what becomes of a tick.
* `World.serial_concat_tick`: under the flag it counts its stack.
* `World.exclusion`: what holds after every schedule.
-/

namespace StackSampler

variable {μ : Type} {j : Job μ} {p q : Phase μ} {sh sh' : Shared}

/-- The steps that a job has before it, at most. -/
def Job.left (j : Job μ) : Phase μ → Nat
  | .trying => j.accesses.length + 2
  | .inside _ rest => rest.length + 1
  | .turnedAway => 1
  | .ran _ | .missed => 0

theorem Job.left_eq_zero : j.left p = 0 ↔ p.isOver = true := by
  cases p <;> simp [left, Phase.isOver]

/-- **A tick never waits**: each step brings it nearer to its end. -/
theorem Job.Does.left_lt (h : j.Does p sh q sh') (htick : j.isTick = true) (hp : p.isOver = false) :
    j.left q < j.left p := by
  cases h with
  | enter hfree => simp only [left]; omega
  | turn htaken htick => simp only [left]; omega
  | wait hcall hidle =>
    rcases hidle with rfl | hover
    · rw [hcall rfl] at htick
      cases htick
    · rw [hover] at hp
      cases hp
  | access a rest => simp only [left, List.length_cons]; omega
  | leave => simp only [left]; omega
  | miss => simp only [left]; omega

theorem Job.length_accesses (htick : j.isTick = true) : j.accesses.length = 3 := by
  cases j with
  | tick source => rfl
  | control accesses => cases htick

namespace World

variable {w : World μ} {i : Nat} {e : Execution μ} {moves before : List (Move μ)}

/-! ## One execution under a schedule -/

/-- What a move does to one execution: nothing, or its next step. -/
theorem move_at (he : w.executions[i]? = some e) (m : Move μ) :
    (w.move m).executions[i]? = some e ∧ w.turn i m = 0 ∨
      m = .step i ∧ w.live? i = some e ∧ (w.move m).executions[i]? = some (w.next e) ∧
        w.turn i m = 1 := by
  cases m with
  | launch thread job =>
    have hlt := (List.getElem?_eq_some_iff.1 he).1
    exact .inl ⟨(launched_lt hlt thread job).trans he, rfl⟩
  | step k =>
    by_cases hk : k = i
    · subst hk
      cases hlive : w.live? k with
      | none =>
        rw [move_stuck hlive]
        refine .inl ⟨he, if_neg ?_⟩
        rintro ⟨-, hsome⟩
        rw [hlive] at hsome
        cases hsome
      | some f =>
        obtain rfl : f = e := Option.some.inj ((getElem?_of_live? hlive).symm.trans he)
        rw [move_step hlive]
        exact .inr ⟨rfl, rfl, stepped_self he, if_pos ⟨rfl, by rw [hlive]; rfl⟩⟩
    · refine .inl ⟨?_, if_neg fun h => hk h.1⟩
      cases hlive : w.live? k with
      | none => rw [move_stuck hlive]; exact he
      | some f => rw [move_step hlive]; exact (stepped_ne hk).trans he

/-- Who is there after a move was there before, or is still about to try. -/
theorem there_before {m : Move μ} (he : (w.move m).executions[i]? = some e) :
    (∃ f, w.executions[i]? = some f) ∨ e.phase = .trying := by
  cases m with
  | launch thread job =>
    rcases launched_cases he with he | rfl
    · exact .inl ⟨e, he⟩
    · exact .inr rfl
  | step k =>
    have hlt := (List.getElem?_eq_some_iff.1 he).1
    have hlength : (w.move (.step k)).executions.length = w.executions.length := by
      cases hlive : w.live? k with
      | none => rw [move_stuck hlive]
      | some f => rw [move_step hlive]; exact List.length_set
    rw [hlength] at hlt
    exact .inl ⟨_, List.getElem?_eq_getElem hlt⟩

/-- Whoever took the flag, or was refused, has done so for good. -/
theorem kept_after (he : w.executions[i]? = some e) (moves : List (Move μ)) :
    ∃ f, (w.after moves).executions[i]? = some f ∧ f.job = e.job ∧
      (e.phase.entered = true → f.phase.entered = true) ∧
      (e.phase.refused = true → f.phase.refused = true) := by
  induction moves generalizing w e with
  | nil => exact ⟨e, he, rfl, id, id⟩
  | cons m moves ih =>
    rcases move_at he m with ⟨hsame, -⟩ | ⟨-, -, hnext, -⟩
    · exact ih hsame
    · obtain ⟨f, hf, hjob, hentered, hrefused⟩ := ih hnext
      have hkept := (e.job.step_does e.phase w.shared).kept
      exact ⟨f, hf, hjob, fun h => hentered (hkept.1 h), fun h => hrefused (hkept.2 h)⟩

/-! ## Nearer to the end -/

/-- **A tick comes nearer to its end with each step that it takes**, whatever moves between. -/
theorem left_after (he : w.executions[i]? = some e) (htick : e.job.isTick = true)
    (moves : List (Move μ)) :
    ∃ f, (w.after moves).executions[i]? = some f ∧ f.job = e.job ∧
      f.job.left f.phase ≤ e.job.left e.phase - w.turns i moves := by
  induction moves generalizing w e with
  | nil => exact ⟨e, he, rfl, Nat.le_refl _⟩
  | cons m moves ih =>
    have hturns : w.turns i (m :: moves) = w.turn i m + (w.move m).turns i moves := rfl
    rcases move_at he m with ⟨hsame, hturn⟩ | ⟨-, -, hnext, hturn⟩
    · obtain ⟨f, hf, hjob, hleft⟩ := ih hsame htick
      rw [hturn, Nat.zero_add] at hturns
      rw [hturns]
      exact ⟨f, hf, hjob, hleft⟩
    · obtain ⟨f, hf, hjob, hleft⟩ := ih hnext htick
      refine ⟨f, hf, hjob, Nat.le_trans hleft ?_⟩
      rw [hturns, hturn]
      show e.job.left (w.next e).phase - _ ≤ _
      cases hover : e.phase.isOver with
      | true =>
        -- nothing was left before this step either
        have hzero : e.job.left (w.next e).phase = 0 := by
          have hphase : (w.next e).phase = e.phase := by
            cases hp : e.phase <;> simp_all [next, Phase.isOver, Job.step]
          rw [hphase]
          exact Job.left_eq_zero.2 hover
        omega
      | false =>
        have hlt : e.job.left (w.next e).phase < e.job.left e.phase :=
          (e.job.step_does e.phase w.shared).left_lt htick hover
        omega

/-- Five steps are enough for a tick. -/
theorem Reached.left_le (h : w.Reached) (he : w.executions[i]? = some e)
    (htick : e.job.isTick = true) : e.job.left e.phase ≤ 5 := by
  have hlength := Job.length_accesses htick
  cases hp : e.phase with
  | trying => simp only [Job.left]; omega
  | inside mind rest =>
    obtain ⟨before, through, -, haccesses, -⟩ := h.serial.held i e mind rest he hp
    rw [haccesses, List.length_append] at hlength
    simp only [Job.left]
    omega
  | turnedAway => simp only [Job.left]; omega
  | ran mind => simp only [Job.left]; omega
  | missed => simp only [Job.left]; omega

theorem Reached.finishes (h : w.Reached) (he : w.executions[i]? = some e)
    (htick : e.job.isTick = true) (hturns : 5 ≤ w.turns i moves) :
    ∃ f, (w.after moves).executions[i]? = some f ∧ f.phase.isOver = true := by
  obtain ⟨f, hf, hjob, hleft⟩ := left_after he htick moves
  have hle := h.left_le he htick
  have hzero : f.job.left f.phase = 0 := by
    rw [hjob] at hleft ⊢
    omega
  exact ⟨f, hf, Job.left_eq_zero.1 hzero⟩

/-- Nothing interrupts a thread by itself: who is at its turn stays so until another is launched. -/
theorem live?_stepped (hlive : w.live? i = some e) : (w.stepped i e).live? i = some (w.next e) := by
  obtain ⟨he, hlater⟩ := Option.filter_eq_some_iff.1 hlive
  refine Option.filter_eq_some_iff.2 ⟨stepped_self he, ?_⟩
  have hdrop : (w.stepped i e).executions.drop (i + 1) = w.executions.drop (i + 1) :=
    List.drop_set_of_lt (Nat.lt_succ_self i)
  rw [hdrop]
  exact hlater

theorem turns_replicate (hlive : w.live? i = some e) (n : Nat) :
    w.turns i (List.replicate n (.step i)) = n := by
  induction n generalizing w e with
  | zero => rfl
  | succ n ih =>
    have hturn : w.turn i (.step i) = 1 := if_pos ⟨rfl, by rw [hlive]; rfl⟩
    have hmove : (w.move (.step i)).live? i = some (w.next e) := by
      rw [move_step hlive]
      exact live?_stepped hlive
    show w.turn i (.step i) + (w.move (.step i)).turns i (List.replicate n (.step i)) = n + 1
    rw [hturn, ih hmove, Nat.add_comm]

/-! ## The attempt -/

/-- In a schedule, execution `i` tries the flag after the moves `before`. -/
structure Attempt (moves : List (Move μ)) (i : Nat) (before : List (Move μ)) : Prop where
  split : ∃ more, moves = before ++ .step i :: more
  trying : ∃ e, (of before).live? i = some e ∧ e.phase = .trying

theorem Attempt.mono (h : Attempt moves i before) (more : List (Move μ)) :
    Attempt (moves ++ more) i before := by
  obtain ⟨rest, rfl⟩ := h.split
  exact ⟨⟨rest ++ more, List.append_assoc ..⟩, h.trying⟩

/-- **The flag at its attempt decides** whether a tick takes it or is refused. -/
theorem Attempt.outcome (h : Attempt moves i before) (he : (of moves).executions[i]? = some e)
    (htick : e.job.isTick = true) :
    (of before).shared.busy = true ∧ e.phase.refused = true ∨
      (of before).shared.busy = false ∧ e.phase.entered = true := by
  obtain ⟨more, rfl⟩ := h.split
  obtain ⟨f, hlive, hp⟩ := h.trying
  have hf := getElem?_of_live? hlive
  have hnext : ((of before).move (.step i)).executions[i]? = some ((of before).next f) := by
    rw [move_step hlive]
    exact stepped_self hf
  have hafter : of (before ++ .step i :: more) = ((of before).move (.step i)).after more :=
    of_append before _
  obtain ⟨e', he', hjob, hentered, hrefused⟩ := kept_after hnext more
  rw [← hafter, he] at he'
  obtain rfl := Option.some.inj he'
  have hdoes := f.job.step_does f.phase (of before).shared
  have hphase : ((of before).next f).phase = (f.job.step f.phase (of before).shared).1 := rfl
  rw [hp] at hdoes hphase
  generalize (f.job.step .trying (of before).shared).1 = q at hdoes hphase
  generalize (f.job.step .trying (of before).shared).2 = sh at hdoes
  cases hdoes with
  | enter hfree => exact .inr ⟨hfree, hentered (by rw [hphase]; rfl)⟩
  | turn hbusy _ => exact .inl ⟨hbusy, hrefused (by rw [hphase]; rfl)⟩
  | wait hcall _ =>
    rw [hjob] at htick
    cases htick.symm.trans (hcall rfl)

/-- After its attempt a tick is not about to try. -/
theorem Attempt.tried (h : Attempt moves i before) (he : (of moves).executions[i]? = some e)
    (htick : e.job.isTick = true) : e.phase ≠ .trying := by
  rintro hp
  rcases h.outcome he htick with ⟨-, hrefused⟩ | ⟨-, hentered⟩
  · rw [hp] at hrefused
    cases hrefused
  · rw [hp] at hentered
    cases hentered

/-- Whoever is no longer about to try has tried. -/
theorem attempt_of_tried (he : (of moves).executions[i]? = some e) (hp : e.phase ≠ .trying) :
    ∃ before, Attempt moves i before := by
  induction moves using List.reverseRecOn generalizing e with
  | nil => cases he
  | append_singleton moves m ih =>
    rw [of_concat] at he
    obtain ⟨f, hf⟩ := (there_before he).resolve_right hp
    by_cases hbefore : f.phase = .trying
    · rcases move_at hf m with ⟨hsame, -⟩ | ⟨rfl, hlive, -, -⟩
      · rw [hsame] at he
        exact absurd (Option.some.inj he ▸ hbefore) hp
      · exact ⟨moves, ⟨[], rfl⟩, f, hlive, hbefore⟩
    · obtain ⟨before, hattempt⟩ := ih hf hbefore
      exact ⟨before, hattempt.mono [m]⟩

/-- A tick does not try again. -/
theorem Attempt.once (h : Attempt moves i before) (he : (of moves).executions[i]? = some e)
    (htick : e.job.isTick = true) {earlier : List (Move μ)} : ¬ Attempt before i earlier := by
  intro hearlier
  obtain ⟨more, rfl⟩ := h.split
  obtain ⟨f, hlive, hp⟩ := h.trying
  have hf := getElem?_of_live? hlive
  obtain ⟨e', he', hjob, -, -⟩ := kept_after hf (.step i :: more)
  rw [← of_append, he] at he'
  obtain rfl := Option.some.inj he'
  exact hearlier.tried hf (hjob ▸ htick) hp

theorem Attempt.unique {before' : List (Move μ)} (h : Attempt moves i before)
    (h' : Attempt moves i before') (he : (of moves).executions[i]? = some e)
    (htick : e.job.isTick = true) : before = before' := by
  obtain ⟨more, hmore⟩ := h.split
  obtain ⟨more', hmore'⟩ := h'.split
  rcases List.append_eq_append_iff.1 (hmore.symm.trans hmore') with ⟨c, hc, hrest⟩ | ⟨c, hc, hrest⟩
  · cases c with
    | nil => exact (hc.trans (List.append_nil before)).symm
    | cons m c =>
      obtain rfl := (List.cons.inj hrest).1
      exact absurd ⟨⟨c, hc⟩, h.trying⟩ (h'.once he htick)
  · cases c with
    | nil => exact hc.trans (List.append_nil before')
    | cons m c =>
      obtain rfl := (List.cons.inj hrest).1
      exact absurd ⟨⟨c, hc⟩, h'.trying⟩ (h.once he htick)

/-! ## Every schedule -/

/-- **What holds after a schedule**, whatever it launches and however it interleaves the steps. -/
structure Exclusive (moves : List (Move μ)) : Prop where
  /-- There is one guard at most. -/
  one : ∀ (i k : Nat) (e f : Execution μ), (of moves).executions[i]? = some e →
    (of moves).executions[k]? = some f → e.phase.holds = true → f.phase.holds = true → i = k
  busy : (of moves).shared.busy = true ↔ ∃ e ∈ (of moves).executions, e.phase.holds = true
  /-- Without a guard nothing depends on the store, and nothing changes it. -/
  apart : ∀ e ∈ (of moves).executions, e.phase.holds = false → ∀ store,
    e.job.step e.phase { (of moves).shared with store } =
      ((e.job.step e.phase (of moves).shared).1,
        { (e.job.step e.phase (of moves).shared).2 with store })
  /-- A tick is over after five steps of its own, whatever moves between. -/
  finishes : ∀ (i : Nat) (e : Execution μ) (more : List (Move μ)),
    (of moves).executions[i]? = some e → e.job.isTick = true → 5 ≤ (of moves).turns i more →
      ∃ f, (of (moves ++ more)).executions[i]? = some f ∧ f.phase.isOver = true
  /-- Nobody else has to move for that. -/
  unaided : ∀ (i : Nat) (e : Execution μ), (of moves).live? i = some e → e.job.isTick = true →
    ∃ f, (of (moves ++ List.replicate 5 (.step i))).executions[i]? = some f ∧ f.phase.isOver = true
  /-- A tick that is over took the flag once, or counts as one missed tick. -/
  once : ∀ (i : Nat) (e : Execution μ), (of moves).executions[i]? = some e → e.job.isTick = true →
    e.phase.isOver = true → (of moves).taken.count i + e.phase.isMissed.toNat = 1
  missed : (of moves).shared.missed = (of moves).count Phase.isMissed
  /-- It made one attempt, and was missed when the flag was taken at that. -/
  attempt : ∀ (i : Nat) (e : Execution μ), (of moves).executions[i]? = some e →
    e.job.isTick = true → e.phase.isOver = true →
      ∃ before, (∀ other, Attempt moves i other ↔ other = before) ∧
        e.phase.isMissed = (of before).shared.busy
  /-- While the flag is free, the store is what the critical sections make of it, one after the other
  in the order of taking the flag. -/
  free : (of moves).shared.busy = false → (of moves).shared.store = (of moves).serial (of moves).taken
  /-- The holder took it last, and is somewhere in its own critical section. -/
  held : ∀ (i : Nat) (e : Execution μ) (mind : Option μ) (rest : List (Access μ)),
    (of moves).executions[i]? = some e → e.phase = .inside mind rest →
      ∃ before through, (of moves).taken = before ++ [i] ∧ e.job.accesses = through ++ rest ∧
        (mind, (of moves).shared.store) = resume through (none, (of moves).serial before)
  /-- What a critical section has in mind at its end comes from the same order. -/
  ran : ∀ (n i : Nat) (e : Execution μ) (mind : Option μ), (of moves).taken[n]? = some i →
    (of moves).executions[i]? = some e → e.phase = .ran mind →
      mind = (e.job.run ((of moves).serial ((of moves).taken.take n))).1
  /-- In that order a tick counts the stack of its source. -/
  counts : ∀ (i : Nat) (source : Backtrace → Backtrace), (of moves).job? i = some (.tick source) →
    ∀ is, (of moves).serial (is ++ [i]) =
      ((of moves).serial is).map fun st => (st.recordFrom source).2
  /-- A tick that finds the flag free is `Shared.tick`, and those that interrupt it are missed. -/
  tick : (of moves).shared.busy = false →
    ∀ (thread : Nat) (source : Backtrace → Backtrace) (n : Nat),
      (of (moves ++ nestedTick thread (of moves).executions.length source n)).shared =
        { (of moves).shared.tick source with missed := (of moves).shared.missed + n }

/-- A tick, last in an order, counts its stack. -/
theorem serial_concat_tick {source : Backtrace → Backtrace} (hjob : w.job? i = some (.tick source))
    (is : List Nat) :
    w.serial (is ++ [i]) = (w.serial is).map fun st => (st.recordFrom source).2 := by
  rw [serial_concat, hjob]
  exact congrArg Prod.snd (Job.run_tick source (w.serial is))

theorem Reached.busy_iff (h : w.Reached) :
    w.shared.busy = true ↔ ∃ e ∈ w.executions, e.phase.holds = true := by
  have hpos : 0 < w.count Phase.holds ↔ ∃ e ∈ w.executions, e.phase.holds = true :=
    List.countP_pos_iff
  rw [← hpos, h.flagged.guards]
  cases w.shared.busy <;> decide

theorem Reached.taken_count (h : w.Reached) (he : w.executions[i]? = some e)
    (hover : e.phase.isOver = true) : w.taken.count i + e.phase.isMissed.toNat = 1 := by
  have hmem : i ∈ w.taken ↔ e.phase.entered = true := by simp [h.ordered.mem_taken, he]
  cases hp : e.phase with
  | ran mind =>
    rw [hp] at hmem
    rw [List.count_eq_one_of_mem h.ordered.nodup (hmem.2 rfl)]
    rfl
  | missed =>
    rw [hp] at hmem
    rw [List.count_eq_zero.2 fun hin => absurd (hmem.1 hin) nofun]
    rfl
  | trying | inside | turnedAway =>
    rw [hp] at hover
    cases hover

theorem Attempt.missed (h : Attempt moves i before) (he : (of moves).executions[i]? = some e)
    (htick : e.job.isTick = true) (hover : e.phase.isOver = true) :
    e.phase.isMissed = (of before).shared.busy := by
  rcases h.outcome he htick with ⟨hbusy, hrefused⟩ | ⟨hfree, hentered⟩
  · rw [hbusy]
    cases hp : e.phase <;> simp_all [Phase.isOver, Phase.refused, Phase.isMissed]
  · rw [hfree]
    cases hp : e.phase <;> simp_all [Phase.isOver, Phase.entered, Phase.isMissed]

/-- **One holder at a time, no waiting tick, and no tick lost.** Take any ticks and control calls, on
any threads and inside one another, with their steps in any order. -/
theorem exclusion (moves : List (Move μ)) : Exclusive moves := by
  have h := reached moves
  refine ⟨fun i k e f he hf => h.flagged.unique he hf, h.busy_iff,
    fun e _ hholds store => Job.step_apart hholds store, fun i e more he htick hturns => ?_,
    fun i e hlive htick => ?_, fun i e he _ hover => h.taken_count he hover, h.flagged.missed.symm,
    fun i e he htick hover => ?_, h.serial.free, h.serial.held, h.serial.ran,
    fun i source hjob is => serial_concat_tick hjob is, fun hfree thread source n => ?_⟩
  · rw [of_append]
    exact h.finishes he htick hturns
  · rw [of_append]
    exact h.finishes (getElem?_of_live? hlive) htick (Nat.le_of_eq (turns_replicate hlive 5).symm)
  · have hp : e.phase ≠ .trying := by
      intro hp
      rw [hp] at hover
      cases hover
    obtain ⟨before, hattempt⟩ := attempt_of_tried he hp
    refine ⟨before, fun other => ⟨fun hother => ?_, fun hother => ?_⟩, hattempt.missed he htick hover⟩
    · exact hother.unique hattempt he htick
    · rw [hother]
      exact hattempt
  · rw [of_append]
    exact after_nestedTick hfree thread source n

end World

end StackSampler
