/-!
# Runs

A run feeds a list of inputs to a machine that answers yes or no, and keeps the answers.

* `runAll_invariant`: what every step keeps, a run keeps.
* `runAll_counts`: what grows by one with each yes counts the answers that are yes.
* `runAll_simulates`: machines that answer alike step by step, in states that stay related, answer
  alike over any run.

`exchange` is a run of a machine with answers of any kind, which may allow an input only in some of its
states (`Allows`); `exchange_simulates` is its simulation.
-/

namespace StackSampler

variable {σ τ ι : Type} {step : σ → ι → Bool × σ} {step' : τ → ι → Bool × τ}

/-- The answers to a list of inputs, one after the other, and the state behind the last. -/
def runAll (step : σ → ι → Bool × σ) : σ → List ι → List Bool × σ
  | s, [] => ([], s)
  | s, i :: is => ((step s i).1 :: (runAll step (step s i).2 is).1, (runAll step (step s i).2 is).2)

theorem runAll_append (s : σ) (is js : List ι) :
    runAll step s (is ++ js) =
      ((runAll step s is).1 ++ (runAll step (runAll step s is).2 js).1,
        (runAll step (runAll step s is).2 js).2) := by
  induction is generalizing s with
  | nil => rfl
  | cons i is ih => simp only [List.cons_append, runAll, ih]

theorem runAll_concat (s : σ) (is : List ι) (i : ι) :
    runAll step s (is ++ [i]) =
      ((runAll step s is).1 ++ [(step (runAll step s is).2 i).1], (step (runAll step s is).2 i).2) := by
  rw [runAll_append]
  rfl

/-- A machine that first translates its inputs runs like the machine on translated inputs. -/
theorem runAll_map {κ : Type} (f : κ → ι) (s : σ) (js : List κ) :
    runAll (fun s j => step s (f j)) s js = runAll step s (js.map f) := by
  induction js generalizing s with
  | nil => rfl
  | cons j js ih => simp only [List.map_cons, runAll, ih]

/-- There is one answer to each input. -/
theorem length_answers (s : σ) (is : List ι) : (runAll step s is).1.length = is.length := by
  induction is generalizing s with
  | nil => rfl
  | cons i is ih => simp only [runAll, List.length_cons, ih]

/-- **What every step keeps, a run keeps.** -/
theorem runAll_invariant {P : σ → Prop} (hstep : ∀ s i, P s → P (step s i).2) {s : σ} (hs : P s)
    (is : List ι) : P (runAll step s is).2 := by
  induction is generalizing s with
  | nil => exact hs
  | cons i is ih => exact ih (hstep s i hs)

/-- A measure that grows by one with each yes, and else stays, counts the answers that are yes. -/
theorem runAll_counts {m : σ → Nat} (hstep : ∀ s i, m (step s i).2 = m s + (step s i).1.toNat)
    (s : σ) (is : List ι) : m (runAll step s is).2 = m s + (runAll step s is).1.count true := by
  induction is generalizing s with
  | nil => rfl
  | cons i is ih =>
    have hfirst := hstep s i
    have hrest := ih (step s i).2
    simp only [runAll]
    rw [List.count_cons, hrest, hfirst]
    cases (step s i).1 with
    | false => simp
    | true =>
      simp
      omega

/-- **Simulation**: related states that answer alike and stay related do so over any run. -/
theorem runAll_simulates {R : σ → τ → Prop}
    (hstep : ∀ s t i, R s t → (step s i).1 = (step' t i).1 ∧ R (step s i).2 (step' t i).2)
    {s : σ} {t : τ} (h : R s t) (is : List ι) :
    (runAll step s is).1 = (runAll step' t is).1 ∧
      R (runAll step s is).2 (runAll step' t is).2 := by
  induction is generalizing s t with
  | nil => exact ⟨rfl, h⟩
  | cons i is ih =>
    obtain ⟨hanswer, hnext⟩ := hstep s t i h
    obtain ⟨hanswers, hlast⟩ := ih hnext
    exact ⟨by simp only [runAll, hanswer, hanswers], hlast⟩

/-! ## Answers of any kind -/

section Exchange

variable {α β : Type} {talk : σ → ι → α × σ} {talk' : τ → ι → β × τ} {allowed : σ → ι → Prop}

/-- The answers to a list of inputs, of whatever kind, and the state behind the last. -/
def exchange (talk : σ → ι → α × σ) : σ → List ι → List α × σ
  | s, [] => ([], s)
  | s, i :: is =>
    ((talk s i).1 :: (exchange talk (talk s i).2 is).1, (exchange talk (talk s i).2 is).2)

/-- Every input is allowed in the state that it comes to. -/
def Allows (allowed : σ → ι → Prop) (talk : σ → ι → α × σ) : σ → List ι → Prop
  | _, [] => True
  | s, i :: is => allowed s i ∧ Allows allowed talk (talk s i).2 is

/-- **Simulation, where inputs are allowed**: a machine that answers to each of them what the other
does, translated by `f`, does so over any run. -/
theorem exchange_simulates {R : σ → τ → Prop} (f : α → β)
    (hstep : ∀ s t i, R s t → allowed s i →
      (talk' t i).1 = f (talk s i).1 ∧ R (talk s i).2 (talk' t i).2)
    {s : σ} {t : τ} (h : R s t) {is : List ι} (his : Allows allowed talk s is) :
    (exchange talk' t is).1 = (exchange talk s is).1.map f ∧
      R (exchange talk s is).2 (exchange talk' t is).2 := by
  induction is generalizing s t with
  | nil => exact ⟨rfl, h⟩
  | cons i is ih =>
    obtain ⟨hanswer, hnext⟩ := hstep s t i h his.1
    obtain ⟨hanswers, hlast⟩ := ih hnext his.2
    refine ⟨?_, hlast⟩
    simp only [exchange, List.map_cons, hanswer, hanswers]

end Exchange

end StackSampler
