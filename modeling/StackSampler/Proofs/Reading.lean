/-!
# Readers

A reader takes from the front of its input and gives a result, or it stops at a fault. Ways to speak
about one:

* `run_bind`, `run_get` and the like step through a reader on an input where it is known what each
  part reads.
* `exists_of_run_bind` and `exists_of_bind_ok` take apart what succeeded.
* `Yields` is about every input: whatever a reader gives has a property.
-/

namespace StackSampler.Reading

variable {σ ε α β : Type} {r : StateT σ (Except ε) α} {f : α → StateT σ (Except ε) β} {s s' : σ}
  {a : α} {P Q : α → Prop} {R : β → Prop}

/-! ## One step -/

/-- What the first reader gives is handed on. -/
theorem run_bind (h : r.run s = .ok (a, s')) : (r >>= f).run s = (f a).run s' := by
  rw [StateT.run_bind, h]
  rfl

theorem run_bind_error {e : ε} (h : r.run s = .error e) : (r >>= f).run s = .error e := by
  rw [StateT.run_bind, h]
  rfl

theorem run_get : (get : StateT σ (Except ε) σ).run s = .ok (s, s) := rfl

theorem run_set : (set s' : StateT σ (Except ε) PUnit).run s = .ok (⟨⟩, s') := rfl

theorem run_modify (g : σ → σ) : (modify g : StateT σ (Except ε) PUnit).run s = .ok (⟨⟩, g s) := rfl

theorem run_pure : (pure a : StateT σ (Except ε) α).run s = .ok (a, s) := rfl

theorem run_map (g : α → β) (h : r.run s = .ok (a, s')) : (g <$> r).run s = .ok (g a, s') := by
  rw [StateT.run_map, h]
  rfl

/-- A reader that succeeds has read its first part. -/
theorem exists_of_run_bind {b : β} {s'' : σ} (h : (r >>= f).run s = .ok (b, s'')) :
    ∃ a s', r.run s = .ok (a, s') ∧ (f a).run s' = .ok (b, s'') := by
  cases hr : r.run s with
  | error e =>
    rw [run_bind_error hr] at h
    cases h
  | ok p =>
    obtain ⟨a, s'⟩ := p
    rw [run_bind hr] at h
    exact ⟨a, s', rfl, h⟩

/-! ## Results -/

/-- A result that is there was there for its first part. -/
theorem exists_of_bind_ok {x : Except ε α} {f : α → Except ε β} {b : β} (h : x >>= f = .ok b) :
    ∃ a, x = .ok a ∧ f a = .ok b := by
  cases x with
  | error e => cases h
  | ok a => exact ⟨a, rfl, h⟩

/-- A guard that was passed. -/
theorem of_guard_ok {c : Prop} [Decidable c] {e : ε} {f : α → Except ε β} {x : Except ε β} {b : β}
    (h : (if c then throw e >>= f else x) = .ok b) : ¬c ∧ x = .ok b := by
  by_cases hc : c
  · rw [if_pos hc] at h
    cases h
  · rw [if_neg hc] at h
    exact ⟨hc, h⟩

/-! ## All inputs -/

/-- **Whatever is read has a property.** -/
def Yields (r : StateT σ (Except ε) α) (P : α → Prop) : Prop :=
  ∀ s a s', r.run s = .ok (a, s') → P a

theorem Yields.bind (hr : Yields r P) (hf : ∀ a, P a → Yields (f a) R) : Yields (r >>= f) R := by
  intro s b s'' h
  obtain ⟨a, s', hfirst, hrest⟩ := exists_of_run_bind h
  exact hf a (hr s a s' hfirst) s' b s'' hrest

/-- Where nothing need be known of the first part. -/
theorem Yields.andThen (hf : ∀ a, Yields (f a) R) : Yields (r >>= f) R :=
  Yields.bind (P := fun _ => True) (fun _ _ _ _ => trivial) fun a _ => hf a

theorem Yields.pure (h : P a) : Yields (pure a : StateT σ (Except ε) α) P := by
  intro s b s' hb
  obtain ⟨rfl, -⟩ := Prod.mk.inj (Except.ok.inj hb)
  exact h

theorem Yields.throw (e : ε) : Yields (throw e : StateT σ (Except ε) α) P := by
  intro s b s' hb
  cases hb

theorem Yields.ite {c : Prop} [Decidable c] {r' : StateT σ (Except ε) α} (hr : c → Yields r P)
    (hr' : ¬c → Yields r' P) : Yields (if c then r else r') P := by
  by_cases h : c
  · rw [if_pos h]
    exact hr h
  · rw [if_neg h]
    exact hr' h

end StackSampler.Reading
