import StackSampler.Proofs.Sampling.Acts
import StackSampler.Proofs.Sampling.Lifecycle

/-!
# Where a store comes from

A start makes the store before it turns to the trigger. So it is the check of the configuration that
decides about a store, and a start that its trigger refuses leaves one all the same, sized by the
configuration of that moment.

* `AtRest.sizing`: what one act does where there is no store.
* `Session.sized_by_first_passed`: a store goes back to the first such start since the last reset.
* `Session.allocated_by_refused_start`: that start need not have been answered ok.
-/

namespace StackSampler

namespace Session

variable {s : Session} {a : Act} {acts before : List Act}

/-- Whether a start got past the check of the configuration, whatever its trigger said. -/
def Passes (s : Session) (a : Act) : Prop :=
  ∃ outcome, s.started a = some outcome ∧ ∀ e, outcome ≠ .error (.config e)

/-- In a run, the act after `before` is a start that got past the check, and no reset follows. -/
structure Passed (s : Session) (acts before : List Act) : Prop where
  split : ∃ a more, acts = before ++ a :: more ∧ (s.acted before).Passes a ∧ .call .reset ∉ more

/-- What has passed before one more act has passed after it, unless that is a reset. -/
theorem passed_concat :
    Passed s (acts ++ [a]) before ↔
      a ≠ .call .reset ∧ Passed s acts before ∨ before = acts ∧ (s.acted acts).Passes a := by
  refine ⟨fun h => ?_, fun h => ?_⟩
  · obtain ⟨first, more, hacts, hpasses, hmore⟩ := h.split
    rcases List.eq_nil_or_concat more with rfl | ⟨rest, last, rfl⟩
    · obtain ⟨rfl, ha⟩ := List.append_inj' hacts rfl
      exact .inr ⟨rfl, (List.cons.inj ha).1 ▸ hpasses⟩
    · rw [List.concat_eq_append] at hacts hmore
      rw [← List.cons_append, ← List.append_assoc] at hacts
      obtain ⟨rfl, ha⟩ := List.append_inj' hacts rfl
      obtain rfl := (List.cons.inj ha).1
      refine .inl ⟨fun hreset => hmore ?_, first, rest, rfl, hpasses, fun hmem => hmore ?_⟩
      · rw [hreset]
        exact List.mem_append_right _ List.mem_cons_self
      · exact List.mem_append_left _ hmem
  · rcases h with ⟨ha, h⟩ | ⟨rfl, hpasses⟩
    · obtain ⟨first, more, rfl, hpasses, hmore⟩ := h.split
      refine ⟨first, more ++ [a], by simp, hpasses, fun hmem => ?_⟩
      rcases List.mem_append.1 hmem with hmem | hmem
      · exact hmore hmem
      · exact ha (List.mem_singleton.1 hmem).symm
    · exact ⟨a, [], rfl, hpasses, List.not_mem_nil⟩

/-- Only starts are answered as starts. -/
theorem started_start {outcome : Except ProfilerError Unit} (h : s.started a = some outcome) :
    ∃ i, a.operation = .start i := by
  cases a with
  | call op => cases op <;> cases h; exact ⟨_, rfl⟩
  | start system i => exact ⟨i, rfl⟩
  | install | disarm | renew | others => cases h

theorem start_started {i : Span} (h : a.operation = .start i) :
    ∃ outcome, s.started a = some outcome := by
  cases a with
  | call op => cases op <;> cases h; exact ⟨_, rfl⟩
  | start system i => exact ⟨_, rfl⟩
  | install | disarm | renew | others => cases h

/-- **One act without a store** makes one just when it is a start that gets past the check. -/
theorem AtRest.sizing (h : s.AtRest) (a : Act) (hstore : s.shared.store = none) :
    s.Passes a ∧ (s.act a).2.shared.store = some (Store.new s.config) ∨
      ¬ s.Passes a ∧ (s.act a).2.shared.store = none := by
  obtain ⟨⟨answer, heffect, hanswer⟩, -⟩ := h.act_effect a
  show _ ∧ (s.act a).2.record.shared.store = _ ∨ _ ∧ (s.act a).2.record.shared.store = _
  generalize (s.act a).2.record = r at heffect
  by_cases hstart : ∃ i, a.operation = .start i
  · obtain ⟨i, hi⟩ := hstart
    obtain ⟨outcome, houtcome⟩ := start_started (s := s) hi
    obtain rfl := hanswer outcome houtcome
    rw [hi] at heffect
    have hpasses (hne : ∀ e, outcome ≠ .error (.config e)) : s.Passes a := ⟨outcome, houtcome, hne⟩
    cases heffect with
    | kept _ hstart => exact absurd rfl (hstart i)
    | ticked hticks => cases hticks
    | invalid _ _ =>
      refine .inr ⟨fun ⟨outcome', houtcome', hne⟩ => ?_, hstore⟩
      exact hne _ (Option.some.inj (houtcome'.symm.trans houtcome))
    | refused hready | begun hready =>
      exact .inl ⟨hpasses nofun, congrArg Shared.store (provision_none hstore hready).2⟩
  · refine .inr ⟨fun ⟨outcome, houtcome, _⟩ => hstart (started_start houtcome), ?_⟩
    exact heffect.unallocated (fun i hi => hstart ⟨i, hi⟩) hstore

theorem Fresh.acted_sound (h : s.Fresh) (acts : List Act) :
    (s.acted acts).AtRest ∧ (s.acted acts).Sound := by
  refine acted_invariant (P := fun s => s.AtRest ∧ s.Sound) (fun s a ⟨hrest, hsound⟩ => ?_)
    ⟨h.atRest, ?_⟩ acts
  · obtain ⟨⟨answer, heffect, -⟩, hrest'⟩ := hrest.act_effect a
    exact ⟨hrest', heffect.sound hsound⟩
  · intro st hst
    rw [h.shared] at hst
    cases hst

/-- The store after a run, if there is one, and the start that it goes back to. -/
def Sized (s : Session) (acts : List Act) : Option Store → Prop
  | none => ∀ before, ¬ Passed s acts before
  | some st => ∃ before, Passed s acts before ∧
    (∀ other, Passed s acts other → before.length ≤ other.length) ∧
    st.capacity = (s.acted before).config.slots ∧ st.depth = (s.acted before).config.depth

theorem Fresh.sized (h : s.Fresh) (acts : List Act) :
    Sized s acts (s.acted acts).shared.store := by
  induction acts using List.reverseRecOn with
  | nil =>
    show Sized s [] s.shared.store
    rw [h.shared]
    rintro before ⟨a, more, hsplit, -⟩
    simp at hsplit
  | append_singleton acts a ih =>
    obtain ⟨hrest, hsound⟩ := h.acted_sound acts
    rw [acted_concat]
    by_cases ha : a = .call .reset
    · subst ha
      have hreset : ((s.acted acts).act (.call .reset)).2.shared.store = none := by
        show (s.acted acts).reset.shared.store = none
        rw [hrest.reset_eq]
      rw [hreset]
      rintro before hpassed
      rcases passed_concat.1 hpassed with ⟨hne, -⟩ | ⟨-, outcome, houtcome, -⟩
      · exact hne rfl
      · cases houtcome
    cases hst : (s.acted acts).shared.store with
    | none =>
      rw [hst] at ih
      rcases hrest.sizing a hst with ⟨hpasses, hnew⟩ | ⟨hno, hnone⟩
      · -- the first one: nothing has passed before it
        rw [hnew]
        refine ⟨acts, passed_concat.2 (.inr ⟨rfl, hpasses⟩), fun other hother => ?_,
          (Store.Matches.new _).capacity, (Store.Matches.new _).depth⟩
        rcases passed_concat.1 hother with ⟨-, hother⟩ | ⟨rfl, -⟩
        · exact absurd hother (ih other)
        · exact Nat.le_refl _
      · rw [hnone]
        intro before hpassed
        rcases passed_concat.1 hpassed with ⟨-, hpassed⟩ | ⟨-, hpasses⟩
        · exact ih before hpassed
        · exact hno hpasses
    | some st =>
      rw [hst] at ih
      obtain ⟨before, hpassed, hfirst, hcapacity, hdepth⟩ := ih
      obtain ⟨answer, heffect, -⟩ := (hrest.act_effect a).1
      have hop : a.operation ≠ .reset := by
        intro hop
        cases a <;> cases hop
        exact ha rfl
      obtain ⟨n, hn, -⟩ := heffect.store hop hst
      have hgrown := ((hsound st hst).sampled (s.acted acts).stack n).2
      have hstore : ((s.acted acts).act a).2.shared.store =
          some (st.sampled (s.acted acts).stack n) := hn
      rw [hstore]
      refine ⟨before, passed_concat.2 (.inl ⟨ha, hpassed⟩), fun other hother => ?_,
        hgrown.capacity.trans hcapacity, hgrown.depth.trans hdepth⟩
      rcases passed_concat.1 hother with ⟨-, hother⟩ | ⟨rfl, -⟩
      · exact hfirst other hother
      · obtain ⟨first, more, hsplit, -⟩ := hpassed.split
        rw [hsplit, List.length_append]
        exact Nat.le_add_right ..

/-- **A store goes back to a start that got past the check of the configuration**, the first one since
the last reset: it has the sizes that were configured then. That start was answered ok, or its trigger
refused it. -/
theorem sized_by_first_passed (h : s.Fresh) (acts : List Act)
    (hallocated : (s.acted acts).isAllocated.1 = true) :
    ∃ before st, Passed s acts before ∧
      (∀ other, Passed s acts other → before.length ≤ other.length) ∧
      (s.acted acts).shared.store = some st ∧
      st.capacity = (s.acted before).config.slots ∧ st.depth = (s.acted before).config.depth := by
  rw [(h.acted_sound acts).1.isAllocated_eq] at hallocated
  obtain ⟨st, hst⟩ := Option.isSome_iff_exists.1 hallocated
  have hsized := h.sized acts
  rw [hst] at hsized
  obtain ⟨before, hpassed, hfirst, hcapacity, hdepth⟩ := hsized
  exact ⟨before, st, hpassed, hfirst, hst, hcapacity, hdepth⟩

/-- A reset, a start that finds no thread, and one that does under a new configuration. -/
theorem sized_after_refusal :
    let s : Session :=
      { config := ⟨2, 1⟩, trigger := .thread {}, stack := .new 4, clock := .epoch }
    let acts : List Act :=
      [.call (.start ⟨1, 0⟩), .call .reset, .call (.setConfig ⟨2, 4⟩),
        .start { spawn := .error "no thread" } ⟨1, 0⟩, .call (.setConfig ⟨3, 5⟩), .call (.start ⟨1, 0⟩),
        .call (.push ⟨7⟩), .call .elapse]
    s.Fresh ∧ (s.acted acts).isAllocated.1 = true ∧
      (s.acted acts).shared.store.map Store.capacity = some 4 ∧
      ∃ before st, Passed s acts before ∧
        (∀ other, Passed s acts other → before.length ≤ other.length) ∧
        (s.acted acts).shared.store = some st ∧
        st.capacity = (s.acted before).config.slots ∧ st.depth = (s.acted before).config.depth := by
  intro s acts
  have hfresh : s.Fresh := ⟨rfl, rfl, rfl, rfl, rfl, rfl⟩
  have hallocated : (s.acted acts).isAllocated.1 = true := by decide +kernel
  exact ⟨hfresh, hallocated, by decide +kernel, sized_by_first_passed hfresh acts hallocated⟩

/-- **A store without a start that was answered ok**, and one that the only such start did not size. -/
theorem allocated_by_refused_start :
    let s : Session := { config := ⟨2, 1⟩, stack := .new 4, clock := .epoch }
    let refused : List Operation := [.refuse true, .start ⟨1, 0⟩]
    let retried : List Operation := refused ++ [.refuse false, .setConfig ⟨2, 5⟩]
    s.Fresh ∧ (s.after refused).isAllocated.1 = true ∧ s.begun refused = [] ∧
      s.begun retried = [] ∧ (s.after retried).config.slots = 5 ∧
      s.begun (retried ++ [.start ⟨1, 0⟩]) = [(⟨1, 0⟩, .epoch)] ∧
      (s.after (retried ++ [.start ⟨1, 0⟩])).shared.store.map Store.capacity = some 1 := by
  intro s refused retried
  exact ⟨⟨rfl, rfl, rfl, rfl, rfl, rfl⟩, by decide +kernel, by decide +kernel, by decide +kernel,
    by decide +kernel, by decide +kernel, by decide +kernel⟩

end Session

end StackSampler
