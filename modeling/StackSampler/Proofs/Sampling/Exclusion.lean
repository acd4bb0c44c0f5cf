import StackSampler.Proofs.Sampling.Interleaving
import Mathlib.Data.List.Count
import Mathlib.Data.List.Induction
import Mathlib.Data.List.Nodup

/-!
# One holder at a time

Whatever ticks and control calls run side by side, and however their steps are interleaved, one of
them at most holds the flag, and the store is what they would make of it one after the other.

* `Job.step_does`: all that a step can do, in six cases.
* `Flagged`, `Ordered`, `Serial`: the flag counts the guards, the executions that took it are known in
  their order, and the store follows that order. Each is kept by a step: `Flagged.stepped`,
  `Ordered.stepped`, `Serial.stepped`.
* `World.reached`: the three of them hold after every schedule.
-/

namespace StackSampler

variable {μ : Type}

/-! ## One step -/

/-- **What a step of a job can do.** -/
inductive Job.Does (j : Job μ) : Phase μ → Shared → Phase μ → Shared → Prop
  | enter {sh} (hfree : sh.busy = false) :
    Does j .trying sh (.inside none j.accesses) { sh with busy := true }
  | turn {sh} (htaken : sh.busy = true) (htick : j.isTick = true) : Does j .trying sh .turnedAway sh
  | wait {p sh} (hcall : p = .trying → j.isTick = false) (hidle : p = .trying ∨ p.isOver = true) :
    Does j p sh p sh
  | access {mind sh} (a : Access μ) (rest : List (Access μ)) :
    Does j (.inside mind (a :: rest)) sh (.inside (a (mind, sh.store)).1 rest)
      { sh with store := (a (mind, sh.store)).2 }
  | leave {mind sh} : Does j (.inside mind []) sh (.ran mind) { sh with busy := false }
  | miss {sh} : Does j .turnedAway sh .missed { sh with missed := sh.missed + 1 }

variable {j : Job μ} {p q : Phase μ} {sh sh' : Shared}

theorem Job.step_does (j : Job μ) (p : Phase μ) (sh : Shared) :
    j.Does p sh (j.step p sh).1 (j.step p sh).2 := by
  cases p with
  | trying =>
    obtain ⟨busy, st, missed⟩ := sh
    cases busy with
    | false => exact .enter rfl
    | true =>
      simp only [step, Shared.acquire, if_true]
      cases htick : j.isTick with
      | true => exact .turn rfl htick
      | false => exact .wait (fun _ => htick) (.inl rfl)
  | inside mind rest =>
    cases rest with
    | nil => exact .leave
    | cons a rest => exact .access a rest
  | turnedAway => exact .miss
  | ran mind => exact .wait (fun h => by cases h) (.inr rfl)
  | missed => exact .wait (fun h => by cases h) (.inr rfl)

/-- Whoever does not hold the flag would do the same over any other store, and leave that as it is. -/
theorem Job.step_apart (hp : p.holds = false) (store : Option Store) :
    j.step p { sh with store } = ((j.step p sh).1, { (j.step p sh).2 with store }) := by
  cases p with
  | trying =>
    obtain ⟨busy, st, missed⟩ := sh
    cases busy <;> rfl
  | inside mind rest => cases hp
  | turnedAway | ran mind | missed => rfl

/-- Who took the flag took it for good, and so did who was refused. -/
theorem Job.Does.kept (h : j.Does p sh q sh') :
    (p.entered = true → q.entered = true) ∧ (p.refused = true → q.refused = true) := by
  cases h <;> simp_all [Phase.entered, Phase.refused]

/-- A guard comes and goes with the flag, and a missed tick with its count. -/
theorem Job.Does.balance (h : j.Does p sh q sh') (hbusy : p.holds = true → sh.busy = true) :
    sh'.busy.toNat + p.holds.toNat = sh.busy.toNat + q.holds.toNat ∧
      sh'.missed + p.isMissed.toNat = sh.missed + q.isMissed.toNat := by
  cases h with
  | enter hfree => rw [hfree]; exact ⟨rfl, rfl⟩
  | turn htaken htick => exact ⟨rfl, rfl⟩
  | wait hcall hidle => exact ⟨rfl, rfl⟩
  | access a rest => exact ⟨rfl, rfl⟩
  | leave => rw [hbusy rfl]; exact ⟨rfl, rfl⟩
  | miss => exact ⟨rfl, rfl⟩

/-! ## One step in the world -/

namespace World

variable {w : World μ} {i k : Nat} {e f : Execution μ} {m : Move μ}

theorem getElem?_of_live? (h : w.live? i = some e) : w.executions[i]? = some e :=
  (Option.filter_eq_some_iff.1 h).1

theorem move_step (h : w.live? i = some e) : w.move (.step i) = w.stepped i e := by rw [move, h]

theorem move_stuck (h : w.live? i = none) : w.move (.step i) = w := by rw [move, h]

/-- An execution after one step. -/
def next (w : World μ) (e : Execution μ) : Execution μ :=
  { e with phase := (e.job.step e.phase w.shared).1 }

theorem stepped_self (h : w.executions[i]? = some e) :
    (w.stepped i e).executions[i]? = some (w.next e) :=
  List.getElem?_set_self (List.getElem?_eq_some_iff.1 h).1

theorem stepped_ne (h : i ≠ k) : (w.stepped i e).executions[k]? = w.executions[k]? :=
  List.getElem?_set_ne h

/-- Who is there after a step took it, or was there before. -/
theorem stepped_cases (he : w.executions[i]? = some e) (hf : (w.stepped i e).executions[k]? = some f) :
    k = i ∧ f = w.next e ∨ i ≠ k ∧ w.executions[k]? = some f := by
  by_cases hk : i = k
  · subst hk
    rw [stepped_self he] at hf
    exact .inl ⟨rfl, (Option.some.inj hf).symm⟩
  · rw [stepped_ne hk] at hf
    exact .inr ⟨hk, hf⟩

theorem launched_lt (h : k < w.executions.length) (thread : Nat) (job : Job μ) :
    (w.move (.launch thread job)).executions[k]? = w.executions[k]? :=
  List.getElem?_append_left h

/-- Who is there after a launch was there before, or has just begun. -/
theorem launched_cases {thread : Nat} {job : Job μ}
    (h : (w.move (.launch thread job)).executions[k]? = some f) :
    w.executions[k]? = some f ∨ f = { thread, job } := by
  change (w.executions ++ [({ thread := thread, job := job } : Execution μ)])[k]? = some f at h
  rw [List.getElem?_append] at h
  split at h
  · exact .inl h
  · rw [List.getElem?_singleton] at h
    split at h
    · exact .inr (Option.some.inj h).symm
    · cases h

/-- What launches keep, and steps of those who are there, every move keeps. -/
theorem move_kept {P : World μ → Prop} (hw : P w) (m : Move μ)
    (hlaunch : ∀ thread job, P (w.move (.launch thread job)))
    (hstep : ∀ i e, w.executions[i]? = some e → P (w.stepped i e)) : P (w.move m) := by
  cases m with
  | launch thread job => exact hlaunch thread job
  | step i =>
    cases hlive : w.live? i with
    | some e =>
      rw [move_step hlive]
      exact hstep i e (getElem?_of_live? hlive)
    | none =>
      rw [move_stuck hlive]
      exact hw

/-- A step moves one execution from phase to phase, in every count of phases. -/
theorem count_stepped (P : Phase μ → Bool) (h : w.executions[i]? = some e) :
    (w.stepped i e).count P + (P e.phase).toNat = w.count P + (P (w.next e).phase).toNat := by
  obtain ⟨hlt, he⟩ := List.getElem?_eq_some_iff.1 h
  have hset := List.countP_set (p := fun e : Execution μ => P e.phase) (a := w.next e) hlt
  have hpos (hP : P e.phase = true) : 0 < w.count P :=
    List.countP_pos_iff.2 ⟨e, List.mem_of_getElem? h, hP⟩
  rw [he] at hset
  show (w.executions.set i (w.next e)).countP (fun e => P e.phase) + _ = _
  rw [hset]
  unfold count at hpos ⊢
  generalize w.executions.countP (fun e => P e.phase) = n at hpos ⊢
  cases hP : P e.phase <;> cases P (w.next e).phase <;> simp [hP] at hpos ⊢ <;> omega

theorem count_launch (P : Phase μ → Bool) (hP : P .trying = false) (thread : Nat) (job : Job μ) :
    (w.move (.launch thread job)).count P = w.count P := by
  show (w.executions ++ [({ thread := thread, job := job } : Execution μ)]).countP
    (fun e => P e.phase) = _
  rw [List.countP_append, List.countP_singleton, hP]
  rfl

/-- Counted by phase, one who is there is not counted twice. -/
theorem unique_of_count (P : Phase μ → Bool) (hcount : w.count P ≤ 1) (he : w.executions[i]? = some e)
    (hf : w.executions[k]? = some f) (hP : P e.phase = true) (hP' : P f.phase = true) : i = k := by
  unfold count at hcount
  generalize w.executions = es at hcount he hf
  induction es generalizing i k with
  | nil => cases he
  | cons g es ih =>
    rw [List.countP_cons] at hcount
    -- if it is the first, there is no second; else both are further on
    cases i with
    | zero =>
      obtain rfl := Option.some.inj he
      cases k with
      | zero => rfl
      | succ k =>
        have hpos : 0 < es.countP fun e => P e.phase :=
          List.countP_pos_iff.2 ⟨f, List.mem_of_getElem? hf, hP'⟩
        rw [if_pos hP] at hcount
        omega
    | succ i =>
      cases k with
      | zero =>
        obtain rfl := Option.some.inj hf
        have hpos : 0 < es.countP fun e => P e.phase :=
          List.countP_pos_iff.2 ⟨e, List.mem_of_getElem? he, hP⟩
        rw [if_pos hP'] at hcount
        omega
      | succ k => exact congrArg (· + 1) (ih (by omega) he hf)

/-! ## The flag -/

/-- **The flag counts the guards**, and the missed ticks are counted one by one. -/
structure Flagged (w : World μ) : Prop where
  guards : w.count Phase.holds = w.shared.busy.toNat
  missed : w.count Phase.isMissed = w.shared.missed

theorem Flagged.busy (h : w.Flagged) (he : w.executions[i]? = some e) (hholds : e.phase.holds = true) :
    w.shared.busy = true := by
  have hpos : 0 < w.count Phase.holds := List.countP_pos_iff.2 ⟨e, List.mem_of_getElem? he, hholds⟩
  rw [h.guards] at hpos
  cases hbusy : w.shared.busy with
  | true => rfl
  | false =>
    rw [hbusy] at hpos
    cases hpos

/-- Two guards are one. -/
theorem Flagged.unique (h : w.Flagged) (he : w.executions[i]? = some e)
    (hf : w.executions[k]? = some f) (hholds : e.phase.holds = true) (hholds' : f.phase.holds = true) :
    i = k := by
  refine unique_of_count Phase.holds ?_ he hf hholds hholds'
  rw [h.guards]
  exact Bool.toNat_le _

theorem Flagged.stepped (h : w.Flagged) (he : w.executions[i]? = some e) : (w.stepped i e).Flagged := by
  have hguards := count_stepped Phase.holds he
  have hmissed := count_stepped Phase.isMissed he
  have hbalance := (e.job.step_does e.phase w.shared).balance (h.busy he)
  rw [h.guards] at hguards
  rw [h.missed] at hmissed
  exact ⟨Nat.add_right_cancel (hguards.trans hbalance.1.symm),
    Nat.add_right_cancel (hmissed.trans hbalance.2.symm)⟩

theorem Flagged.move (h : w.Flagged) (m : Move μ) : (w.move m).Flagged := by
  refine move_kept h m (fun thread job => ⟨?_, ?_⟩) fun i e he => h.stepped he
  · exact (count_launch _ rfl thread job).trans h.guards
  · exact (count_launch _ rfl thread job).trans h.missed

/-! ## The order of taking it -/

/-- **Whoever took the flag took it once**, and is in the record. -/
structure Ordered (w : World μ) : Prop where
  nodup : w.taken.Nodup
  mem_taken : ∀ i, i ∈ w.taken ↔ ∃ e, w.executions[i]? = some e ∧ e.phase.entered = true

theorem Ordered.lt (h : w.Ordered) (hi : i ∈ w.taken) : i < w.executions.length := by
  obtain ⟨e, he, -⟩ := (h.mem_taken i).1 hi
  exact (List.getElem?_eq_some_iff.1 he).1

theorem Ordered.stepped (h : w.Ordered) (he : w.executions[i]? = some e) : (w.stepped i e).Ordered := by
  have hself := stepped_self he
  have hkept : e.phase.entered = true → (w.next e).phase.entered = true :=
    (e.job.step_does e.phase w.shared).kept.1
  have hi : i ∈ w.taken ↔ e.phase.entered = true := by simp [h.mem_taken, he]
  have htaken : (w.stepped i e).taken =
      if !e.phase.entered && (w.next e).phase.entered then w.taken ++ [i] else w.taken := rfl
  refine ⟨?_, fun k => ?_⟩
  · rw [htaken]
    split
    · next hnew =>
      simp only [Bool.and_eq_true, Bool.not_eq_true'] at hnew
      refine List.nodup_append.2 ⟨h.nodup, List.nodup_singleton i, fun a ha b hb hab => ?_⟩
      rw [hab, List.mem_singleton.1 hb, hi, hnew.1] at ha
      cases ha
    · exact h.nodup
  · rw [htaken]
    by_cases hk : i = k
    · subst hk
      rw [hself]
      cases hin : e.phase.entered with
      | true => simp [hi, hin, hkept hin]
      | false => cases hout : (w.next e).phase.entered <;> simp [hi, hin, hout]
    · rw [stepped_ne hk, ← h.mem_taken]
      split
      · simp [Ne.symm hk]
      · rfl

theorem Ordered.move (h : w.Ordered) (m : Move μ) : (w.move m).Ordered := by
  refine move_kept h m (fun thread job => ⟨h.nodup, fun k => ?_⟩) fun i e he => h.stepped he
  refine (h.mem_taken k).trans ⟨fun ⟨e, he, hentered⟩ => ?_, fun ⟨e, he, hentered⟩ => ?_⟩
  · have hlt := (List.getElem?_eq_some_iff.1 he).1
    exact ⟨e, (launched_lt hlt thread job).trans he, hentered⟩
  · -- the new execution is still about to try
    rcases launched_cases he with he | rfl
    · exact ⟨e, he, hentered⟩
    · cases hentered

/-! ## The store -/

theorem serial_concat (w : World μ) (is : List Nat) (i : Nat) :
    w.serial (is ++ [i]) = (w.job? i).elim (w.serial is) fun j => (j.run (w.serial is)).2 :=
  List.foldl_append

theorem serial_congr {w' : World μ} {is : List Nat} (hjob : ∀ i ∈ is, w'.job? i = w.job? i) :
    w'.serial is = w.serial is :=
  List.foldl_ext _ _ _ fun store i hi => by rw [hjob i hi]

theorem job?_stepped (he : w.executions[i]? = some e) (k : Nat) :
    (w.stepped i e).job? k = w.job? k := by
  unfold job?
  by_cases hk : i = k
  · subst hk
    rw [stepped_self he, he]
    rfl
  · rw [stepped_ne hk]

/-- **The store follows the order of taking the flag.** While nobody holds it, the store is what the
critical sections make of it one after the other; the holder is somewhere in its own. -/
structure Serial (w : World μ) : Prop where
  free : w.shared.busy = false → w.shared.store = w.serial w.taken
  held : ∀ (i : Nat) (e : Execution μ) mind rest, w.executions[i]? = some e →
    e.phase = .inside mind rest →
    ∃ before through, w.taken = before ++ [i] ∧ e.job.accesses = through ++ rest ∧
      (mind, w.shared.store) = resume through (none, w.serial before)
  ran : ∀ (n i : Nat) (e : Execution μ) mind, w.taken[n]? = some i → w.executions[i]? = some e →
    e.phase = .ran mind → mind = (e.job.run (w.serial (w.taken.take n))).1

/-- A change that neither the store nor who took the flag has a part in. -/
theorem Serial.calm {w' : World μ} (h : w.Serial) (hbusy : w'.shared.busy = w.shared.busy)
    (hstore : w'.shared.store = w.shared.store) (htaken : w'.taken = w.taken)
    (hserial : ∀ is, (∀ i ∈ is, i ∈ w.taken) → w'.serial is = w.serial is)
    (hentered : ∀ (k : Nat) (f : Execution μ), w'.executions[k]? = some f → f.phase.entered = true →
      w.executions[k]? = some f) : w'.Serial := by
  refine ⟨fun hfree => ?_, fun i e mind rest he hp => ?_, fun n i e mind hn he hp => ?_⟩
  · rw [hstore, htaken, hserial _ fun i hi => hi]
    exact h.free (hbusy ▸ hfree)
  · obtain ⟨before, through, hlast, haccesses, hmind⟩ :=
      h.held i e mind rest (hentered i e he (by rw [hp]; rfl)) hp
    refine ⟨before, through, htaken.trans hlast, haccesses, ?_⟩
    rw [hstore, hserial before fun i hi => hlast ▸ List.mem_append_left _ hi]
    exact hmind
  · rw [htaken] at hn ⊢
    rw [hserial _ fun i hi => List.mem_of_mem_take hi]
    exact h.ran n i e mind hn (hentered i e he (by rw [hp]; rfl)) hp

/-- A step that does not take the flag, nor changes one who has, leaves them as they are. -/
theorem entered_of_stepped (he : w.executions[i]? = some e)
    (hsame : (w.next e).phase.entered = true → w.next e = e) (k : Nat) (f : Execution μ)
    (hf : (w.stepped i e).executions[k]? = some f) (hentered : f.phase.entered = true) :
    w.executions[k]? = some f := by
  rcases stepped_cases he hf with ⟨rfl, rfl⟩ | ⟨-, hf⟩
  · rw [hsame hentered]
    exact he
  · exact hf

theorem serial_stepped (he : w.executions[i]? = some e) (is : List Nat) :
    (w.stepped i e).serial is = w.serial is :=
  serial_congr fun k _ => job?_stepped he k

/-- A step adds to the record at its end, and only whoever takes it. -/
theorem taken_stepped {n : Nat} (hk : i ≠ k) (hn : (w.stepped i e).taken[n]? = some k) :
    w.taken[n]? = some k ∧ (w.stepped i e).taken.take n = w.taken.take n := by
  have htaken : (w.stepped i e).taken =
      if !e.phase.entered && (w.next e).phase.entered then w.taken ++ [i] else w.taken := rfl
  rw [htaken] at hn ⊢
  split at hn
  · have hlt : n < w.taken.length := by
      by_contra hge
      rw [List.getElem?_append_right (Nat.le_of_not_lt hge), List.getElem?_singleton] at hn
      split at hn
      · exact hk (Option.some.inj hn)
      · cases hn
    rw [List.getElem?_append_left hlt] at hn
    rw [if_pos ‹_›, List.take_append_of_le_length (Nat.le_of_lt hlt)]
    exact ⟨hn, rfl⟩
  · rw [if_neg ‹_›]
    exact ⟨hn, rfl⟩

/-- **A step of the holder's**, while it begins to be it, is it, or ends being it: nobody else is then,
and what is left to say is about itself. -/
theorem Serial.of_holder (h : w.Serial) (he : w.executions[i]? = some e)
    (hothers : ∀ (k : Nat) (f : Execution μ), i ≠ k → w.executions[k]? = some f →
      f.phase.holds = false)
    (hfree : (w.stepped i e).shared.busy = false →
      (w.stepped i e).shared.store = w.serial (w.stepped i e).taken)
    (hheld : ∀ mind rest, (w.next e).phase = .inside mind rest →
      ∃ before through, (w.stepped i e).taken = before ++ [i] ∧ e.job.accesses = through ++ rest ∧
        (mind, (w.stepped i e).shared.store) = resume through (none, w.serial before))
    (hran : ∀ n mind, (w.stepped i e).taken[n]? = some i → (w.next e).phase = .ran mind →
      mind = (e.job.run (w.serial ((w.stepped i e).taken.take n))).1) : (w.stepped i e).Serial := by
  refine ⟨fun hbusy => ?_, fun k f mind rest hf hp => ?_, fun n k f mind hn hf hp => ?_⟩
  · rw [serial_stepped he]
    exact hfree hbusy
  · rcases stepped_cases he hf with ⟨rfl, rfl⟩ | ⟨hk, hf⟩
    · obtain ⟨before, through, htaken, haccesses, hmind⟩ := hheld mind rest hp
      refine ⟨before, through, htaken, haccesses, ?_⟩
      rw [serial_stepped he]
      exact hmind
    · have hholds := hothers k f hk hf
      rw [hp] at hholds
      cases hholds
  · rw [serial_stepped he]
    rcases stepped_cases he hf with ⟨rfl, rfl⟩ | ⟨hk, hf⟩
    · exact hran n mind hn hp
    · obtain ⟨hn, htake⟩ := taken_stepped hk hn
      rw [htake]
      exact h.ran n k f mind hn hf hp

/-- Taking the flag: the critical section begins from the store that the others have left. -/
theorem Serial.enter (h : w.Serial) (hflag : w.Flagged) (he : w.executions[i]? = some e)
    (hfree : w.shared.busy = false) (hphase : (w.next e).phase = .inside none e.job.accesses)
    (hshared : (w.stepped i e).shared = { w.shared with busy := true })
    (htaken : (w.stepped i e).taken = w.taken ++ [i]) : (w.stepped i e).Serial := by
  refine h.of_holder he (fun k f _ hf => ?_) (fun hbusy => ?_) (fun mind rest hp => ?_)
    fun n mind _ hp => ?_
  · -- nobody held a flag that was free
    refine Bool.eq_false_iff.2 fun hholds => ?_
    cases hfree.symm.trans (hflag.busy hf hholds)
  · rw [hshared] at hbusy
    cases hbusy
  · obtain ⟨rfl, rfl⟩ := Phase.inside.inj (hphase.symm.trans hp)
    refine ⟨w.taken, [], htaken, rfl, ?_⟩
    rw [hshared, ← h.free hfree]
    rfl
  · cases hphase.symm.trans hp

/-- An access of the holder: one more of its own is through. -/
theorem Serial.access (h : w.Serial) (hflag : w.Flagged) (he : w.executions[i]? = some e)
    {mind : Option μ} {a : Access μ} {rest : List (Access μ)} (hp : e.phase = .inside mind (a :: rest))
    (hphase : (w.next e).phase = .inside (a (mind, w.shared.store)).1 rest)
    (hshared : (w.stepped i e).shared = { w.shared with store := (a (mind, w.shared.store)).2 })
    (htaken : (w.stepped i e).taken = w.taken) : (w.stepped i e).Serial := by
  have hholds : e.phase.holds = true := by rw [hp]; rfl
  obtain ⟨before, through, hlast, haccesses, hmind⟩ := h.held i e mind (a :: rest) he hp
  refine h.of_holder he (fun k f hk hf => ?_) (fun hbusy => ?_) (fun mind' rest' hq => ?_)
    fun n mind' _ hq => ?_
  · exact Bool.eq_false_iff.2 fun hholds' => hk (hflag.unique he hf hholds hholds')
  · rw [hshared] at hbusy
    cases (hflag.busy he hholds).symm.trans hbusy
  · obtain ⟨rfl, rfl⟩ := Phase.inside.inj (hphase.symm.trans hq)
    refine ⟨before, through ++ [a], htaken.trans hlast, ?_, ?_⟩
    · rw [List.append_assoc]
      exact haccesses
    · rw [resume_append, ← hmind, hshared]
      rfl
  · cases hphase.symm.trans hq

/-- Giving the flag back: the critical section is complete, and the last of the record. -/
theorem Serial.leave (h : w.Serial) (hflag : w.Flagged) (hord : w.Ordered)
    (he : w.executions[i]? = some e) {mind : Option μ} (hp : e.phase = .inside mind [])
    (hphase : (w.next e).phase = .ran mind)
    (hshared : (w.stepped i e).shared = { w.shared with busy := false })
    (htaken : (w.stepped i e).taken = w.taken) : (w.stepped i e).Serial := by
  have hholds : e.phase.holds = true := by rw [hp]; rfl
  obtain ⟨before, through, hlast, haccesses, hmind⟩ := h.held i e mind [] he hp
  rw [List.append_nil] at haccesses
  have hrun : (mind, w.shared.store) = e.job.run (w.serial before) := by
    rw [Job.run, haccesses]
    exact hmind
  refine h.of_holder he (fun k f hk hf => ?_) (fun _ => ?_) (fun mind' rest' hq => ?_)
    fun n mind' hn hq => ?_
  · exact Bool.eq_false_iff.2 fun hholds' => hk (hflag.unique he hf hholds hholds')
  · have hjob : w.job? i = some e.job := by rw [job?, he]; rfl
    rw [htaken, hlast, serial_concat, hjob, hshared]
    exact congrArg Prod.snd hrun
  · cases hphase.symm.trans hq
  · obtain rfl := Phase.ran.inj (hphase.symm.trans hq)
    -- it is in the record once, at the end
    rw [htaken] at hn ⊢
    have hend : w.taken[before.length]? = some i := by
      rw [hlast, List.getElem?_append_right (Nat.le_refl _), Nat.sub_self]
      rfl
    have hindex : n = before.length :=
      (List.getElem?_inj (List.getElem?_eq_some_iff.1 hn).1 hord.nodup).1 (hn.trans hend.symm)
    rw [hindex, hlast, List.take_left]
    exact congrArg Prod.fst hrun

theorem Serial.stepped (h : w.Serial) (hflag : w.Flagged) (hord : w.Ordered)
    (he : w.executions[i]? = some e) : (w.stepped i e).Serial := by
  have hdoes := e.job.step_does e.phase w.shared
  have htaken : (w.stepped i e).taken =
      if !e.phase.entered && (e.job.step e.phase w.shared).1.entered then w.taken ++ [i]
      else w.taken := rfl
  have hphase : (w.next e).phase = (e.job.step e.phase w.shared).1 := rfl
  have hshared : (w.stepped i e).shared = (e.job.step e.phase w.shared).2 := rfl
  generalize hp : e.phase = p at hdoes htaken hphase hshared
  generalize hsh : w.shared = sh at hdoes htaken hphase hshared
  generalize (e.job.step p sh).1 = q at hdoes htaken hphase
  generalize (e.job.step p sh).2 = sh' at hdoes hshared
  cases hdoes with
  | enter hfree => exact h.enter hflag he (hsh ▸ hfree) hphase (hsh ▸ hshared) htaken
  | access a rest =>
    subst hsh
    exact h.access hflag he hp hphase hshared htaken
  | leave => exact h.leave hflag hord he hp hphase (hsh ▸ hshared) htaken
  | turn _ _ | miss =>
    refine h.calm (by rw [hshared, hsh]) (by rw [hshared, hsh]) htaken
      (fun is _ => serial_stepped he is) (entered_of_stepped he fun hentered => ?_)
    rw [hphase] at hentered
    cases hentered
  | wait hcall hidle =>
    refine h.calm (by rw [hshared, hsh]) (by rw [hshared, hsh]) ?_
      (fun is _ => serial_stepped he is) (entered_of_stepped he fun _ => ?_)
    · rw [htaken, Bool.not_and_self]
      rfl
    · show { e with phase := (w.next e).phase } = e
      rw [hphase, ← hp]

theorem Serial.move (h : w.Serial) (hflag : w.Flagged) (hord : w.Ordered) (m : Move μ) :
    (w.move m).Serial := by
  refine move_kept h m (fun thread job => ?_) fun i e he => h.stepped hflag hord he
  refine h.calm rfl rfl rfl (fun is his => serial_congr fun i hi => ?_) fun k f hf hentered => ?_
  · exact congrArg (Option.map Execution.job) (launched_lt (hord.lt (his i hi)) thread job)
  · rcases launched_cases hf with hf | rfl
    · exact hf
    · cases hentered

/-! ## Every schedule -/

/-- What holds of every world that a schedule leads to. -/
structure Reached (w : World μ) : Prop where
  flagged : w.Flagged
  ordered : w.Ordered
  serial : w.Serial

theorem Reached.move (h : w.Reached) (m : Move μ) : (w.move m).Reached :=
  ⟨h.flagged.move m, h.ordered.move m, h.serial.move h.flagged h.ordered m⟩

theorem reached (moves : List (Move μ)) : (of moves).Reached := by
  induction moves using List.reverseRecOn with
  | nil =>
    have hempty : (of [] : World μ).Ordered := ⟨List.nodup_nil, fun i => by simp [of, after]⟩
    refine ⟨⟨rfl, rfl⟩, hempty, fun _ => rfl, fun i e mind rest he => ?_, fun n i e mind hn => ?_⟩
    · cases he
    · cases hn
  | append_singleton moves m ih =>
    rw [of_concat]
    exact ih.move m

end World

end StackSampler
