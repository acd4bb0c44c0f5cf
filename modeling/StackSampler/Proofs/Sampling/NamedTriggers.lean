import StackSampler.Sampling.TriggerSet
import StackSampler.Proofs.Sampling.Ownership

/-!
# Named triggers as a population

The interval-timer triggers of a `TriggerSet` are a population by name, and whatever is done to the set
is a run of events there, so the law of ownership holds of them. Thread triggers have no part in it.

* `TriggerSet.Follows`: one set comes from another by events.
* `TriggerSet.Reached.population`: every set that can be made is the population of some history.
-/

namespace StackSampler

namespace TriggerSet

variable {p q r : TriggerSet} {name other : String}

/-- The interval-timer trigger of a name. -/
def timer (p : TriggerSet) (name : String) : Option ItimerTrigger :=
  match p.find name with
  | some (.itimer t) => some t
  | _ => none

/-- The interval-timer triggers, and their signal. -/
def population (p : TriggerSet) : Population String Counter :=
  { signal := p.signal, alive := p.timer }

/-! ## Names -/

theorem lookup_others (triggers : List (String × RealTrigger)) :
    (triggers.filter fun entry => entry.1 != name).lookup other =
      if other = name then none else triggers.lookup other := by
  induction triggers with
  | nil => simp
  | cons entry triggers ih =>
    obtain ⟨key, trigger⟩ := entry
    by_cases hkey : key = name
    · rw [List.filter_cons_of_neg (by simpa using hkey), ih]
      by_cases hother : other = name
      · rw [if_pos hother, if_pos hother]
      · have hne : (other == key) = false := beq_false_of_ne fun h => hother (h.trans hkey)
        rw [if_neg hother, if_neg hother, List.lookup_cons, hne]
    · rw [List.filter_cons_of_pos (by simpa using hkey), List.lookup_cons, List.lookup_cons, ih]
      by_cases hother : other = key
      · subst hother
        simp [hkey]
      · rw [beq_false_of_ne hother]

theorem find_put (p : TriggerSet) (trigger : RealTrigger) :
    (p.put name trigger).find other = if other = name then some trigger else p.find other := by
  have hput : (p.put name trigger).find other =
      ((p.triggers.filter fun entry => entry.1 != name).lookup other).or
        ([(name, trigger)].lookup other) := List.lookup_append
  rw [hput, lookup_others]
  by_cases hother : other = name
  · subst hother
    simp
  · have hlast : [(name, trigger)].lookup other = none := by
      rw [List.lookup_cons, beq_false_of_ne hother]
      rfl
    rw [if_neg hother, if_neg hother, hlast, Option.or_none, find]

theorem find_drop (p : TriggerSet) (name other : String) :
    (p.drop name).2.find other = if other = name then none else p.find other := by
  unfold drop
  split
  · next hfind =>
    by_cases hother : other = name
    · rw [if_pos hother, hother, hfind]
    · rw [if_neg hother]
  · exact lookup_others p.triggers

theorem timer_put_itimer (p : TriggerSet) (t : ItimerTrigger) :
    (p.put name (.itimer t)).timer = Function.update p.timer name (some t) := by
  funext other
  rw [timer, find_put]
  by_cases hother : other = name
  · subst hother
    simp
  · rw [if_neg hother, Function.update_of_ne hother, timer]

/-- A thread trigger in the place of what is no interval-timer trigger changes none. -/
theorem timer_put_thread (hnone : p.timer name = none) (t : ThreadTrigger Counter) :
    (p.put name (.thread t)).timer = p.timer := by
  funext other
  rw [timer, find_put]
  by_cases hother : other = name
  · subst hother
    simp [hnone]
  · rw [if_neg hother, timer]

theorem timer_drop (p : TriggerSet) (name : String) :
    (p.drop name).2.timer = Function.update p.timer name none := by
  funext other
  rw [timer, find_drop]
  by_cases hother : other = name
  · subst hother
    simp
  · rw [if_neg hother, Function.update_of_ne hother, timer]

theorem population_count (p : TriggerSet) (c : Option Counter) :
    (p.count c).population = p.population := by
  cases c with
  | none => rfl
  | some c => cases c <;> rfl

theorem population_settle (p : TriggerSet) (step : Option Counter × ProfSignal Counter) :
    (p.settle step).population = { p.population with signal := step.2 } :=
  population_count _ step.1

/-! ## What is done to the set -/

/-- `q` comes from `p` by events. -/
def Follows (p q : TriggerSet) : Prop :=
  ∃ es : List (Population.Event String Counter),
    q.population = es.foldl (fun p e => (p.step e).2) p.population

theorem Follows.of_eq (h : q.population = p.population) : p.Follows q := ⟨[], h⟩

theorem Follows.of_step (e : Population.Event String Counter)
    (h : q.population = (p.population.step e).2) : p.Follows q := ⟨[e], h⟩

theorem Follows.trans (h : p.Follows q) (h' : q.Follows r) : p.Follows r := by
  obtain ⟨es, hes⟩ := h
  obtain ⟨es', hes'⟩ := h'
  exact ⟨es ++ es', by rw [List.foldl_append, ← hes, hes']⟩

theorem population_drop (p : TriggerSet) (name : String) :
    (p.drop name).2.population = (p.population.step (.drop name)).2 := by
  rw [population, timer_drop]
  cases hfind : p.find name with
  | none =>
    have ht : p.timer name = none := by rw [timer, hfind]
    simp only [Population.step, population, drop, hfind, ht]
    rw [← ht, Function.update_eq_self]
  | some trigger =>
    cases trigger with
    | itimer t =>
      have ht : p.timer name = some t := by rw [timer, hfind]
      simp only [Population.step, population, drop, hfind, ht, Population.put]
    | thread t =>
      have ht : p.timer name = none := by rw [timer, hfind]
      simp only [Population.step, population, drop, hfind, ht]
      rw [← ht, Function.update_eq_self]

/-- What a new trigger replaces is dropped first. -/
theorem follows_create_timer (p : TriggerSet) (name : String) :
    p.Follows (p.create name (.itimer {})).2 := by
  have hnone : (p.drop name).2.population.alive name = none := by
    simp only [population, timer_drop, Function.update_self]
  have hdrop : p.Follows (p.drop name).2 := .of_step (.drop name) (population_drop p name)
  refine hdrop.trans (.of_step (.create name) ?_)
  have hcreate : (p.create name (.itimer {})).2.population =
      (p.drop name).2.population.put name (some {}) (p.drop name).2.signal := by
    rw [population, create, timer_put_itimer]
    rfl
  rw [hcreate, Population.step, hnone]
  rfl

theorem follows_create_thread (p : TriggerSet) (name : String) (t : ThreadTrigger Counter) :
    p.Follows (p.create name (.thread t)).2 := by
  refine .of_step (.drop name) ?_
  have hnone : (p.drop name).2.timer name = none := by
    rw [timer_drop, Function.update_self]
  rw [← population_drop, population, create, timer_put_thread hnone]
  rfl

theorem follows_install (p : TriggerSet) (name : String) (interval : Span) (tick : Counter) :
    p.Follows (p.install name interval tick).2 := by
  refine .of_step (.install name interval tick) ?_
  unfold install
  split
  · next hfind =>
    have ht : p.timer name = none := by rw [timer, hfind]
    simp only [Population.step, population, ht]
  · next t hfind =>
    have ht : p.timer name = some t := by rw [timer, hfind]
    rw [population_settle, population, timer_put_itimer]
    simp only [Population.step, population, ht, Population.put]
  · next t hfind =>
    have ht : p.timer name = none := by rw [timer, hfind]
    rw [population, timer_put_thread ht]
    simp only [Population.step, population, ht]
    rfl

theorem follows_disarm (p : TriggerSet) (name : String) : p.Follows (p.disarm name) := by
  refine .of_step (.disarm name) ?_
  unfold disarm
  split
  · next hfind =>
    have ht : p.timer name = none := by rw [timer, hfind]
    simp only [Population.step, population, ht]
  · next t hfind =>
    have ht : p.timer name = some t := by rw [timer, hfind]
    rw [population, timer_put_itimer]
    simp only [Population.step, population, ht, Population.put]
    rfl
  · next t hfind =>
    have ht : p.timer name = none := by rw [timer, hfind]
    rw [population, timer_put_thread ht]
    simp only [Population.step, population, ht]
    rfl

theorem follows_block (p : TriggerSet) (name : String) : p.Follows (p.block name) := by
  unfold block
  split
  · exact .of_step .block rfl
  · exact .of_eq rfl

theorem follows_unblock (p : TriggerSet) (name : String) : p.Follows (p.unblock name) := by
  unfold unblock
  split
  · exact .of_step .unblock (population_settle p _)
  · exact .of_eq rfl

theorem follows_raise (p : TriggerSet) : p.Follows p.raise.2 := by
  unfold raise
  split
  · exact .of_step .send (population_settle p _)
  · exact .of_eq rfl

theorem follows_raiseN (times : Nat) (p : TriggerSet) : p.Follows (raiseN times p).2 := by
  induction times generalizing p with
  | zero => exact .of_eq rfl
  | succ times ih => exact (follows_raise p).trans (ih p.raise.2)

theorem follows_elapse (p : TriggerSet) (name : String) : p.Follows (p.elapse name) := by
  unfold elapse
  split
  · exact .of_step .expire (population_settle p _)
  · exact .of_eq (population_count p _)
  · exact .of_eq rfl

theorem follows_elapses (p : TriggerSet) (name : String) (times : Nat) :
    p.Follows (Nat.repeat (elapse · name) times p) := by
  induction times with
  | zero => exact .of_eq rfl
  | succ times ih => exact ih.trans (follows_elapse _ name)

theorem follows_trial (p : TriggerSet) (name : String) (interval : Span) (n : Nat) :
    p.Follows (p.trial name interval n).2 := by
  have hreset : p.Follows { p with trialTicks := 0 } := .of_eq rfl
  have hinstall := hreset.trans (follows_install { p with trialTicks := 0 } name interval .trial)
  unfold trial
  split
  · next e q hq =>
    rw [hq] at hinstall
    exact hinstall
  · next q hq =>
    rw [hq] at hinstall
    have helapsed := hinstall.trans (follows_elapses q name n)
    exact (helapsed.trans (follows_disarm _ name)).trans (follows_elapse _ name)

/-! ## The law -/

/-- The sets that can be made. -/
inductive Reached : TriggerSet → Prop where
  | new : Reached {}
  | createTimer {p : TriggerSet} (name : String) : Reached p → Reached (p.create name (.itimer {})).2
  | createThread {p : TriggerSet} (name : String) : Reached p → Reached (p.create name (.thread {})).2
  | install {p : TriggerSet} (name : String) (interval : Span) (tick : Counter) :
    Reached p → Reached (p.install name interval tick).2
  | disarm {p : TriggerSet} (name : String) : Reached p → Reached (p.disarm name)
  | drop {p : TriggerSet} (name : String) : Reached p → Reached (p.drop name).2
  | block {p : TriggerSet} (name : String) : Reached p → Reached (p.block name)
  | unblock {p : TriggerSet} (name : String) : Reached p → Reached (p.unblock name)
  | raise {p : TriggerSet} (times : Nat) : Reached p → Reached (raiseN times p).2
  | elapse {p : TriggerSet} (name : String) : Reached p → Reached (p.elapse name)
  | trial {p : TriggerSet} (name : String) (interval : Span) (n : Nat) :
    Reached p → Reached (p.trial name interval n).2

/-- **A set of named triggers is a population of some history**, so that `Population.ownership` is about
its interval-timer triggers. -/
theorem Reached.population (h : p.Reached) : ∃ es, p.population = Population.of es := by
  suffices hfollows : ({} : TriggerSet).Follows p from hfollows
  induction h with
  | new => exact .of_eq rfl
  | createTimer name _ ih => exact ih.trans (follows_create_timer _ name)
  | createThread name _ ih => exact ih.trans (follows_create_thread _ name {})
  | install name interval tick _ ih => exact ih.trans (follows_install _ name interval tick)
  | disarm name _ ih => exact ih.trans (follows_disarm _ name)
  | drop name _ ih => exact ih.trans (.of_step (.drop name) (population_drop _ name))
  | block name _ ih => exact ih.trans (follows_block _ name)
  | unblock name _ ih => exact ih.trans (follows_unblock _ name)
  | raise times _ ih => exact ih.trans (follows_raiseN times _)
  | elapse name _ ih => exact ih.trans (follows_elapse _ name)
  | trial name interval n _ ih => exact ih.trans (follows_trial _ name interval n)

end TriggerSet

end StackSampler
