import StackSampler.Proofs.Sampling.Effect
import StackSampler.Proofs.Store.Refinement

/-!
# Stores that go on

As long as it is not given up, a session's store only ever counts more: `Store.Grown`. It was made
with slots, from a configuration that was valid then (`Session.Sound`), so it is a tally all the time
and its totals can be read off that (`Store.Matches.sampled`).
-/

namespace StackSampler

/-- A shadow stack as a source of stacks. -/
def ShadowStack.source (stack : ShadowStack) : Source where
  fill := stack.read
  length_fill buffer := by simp [read]

theorem Config.slots_pos {c : Config} (h : c.validate = .ok ()) : 0 < c.slots := by
  unfold validate at h
  split at h
  · simp at h
  · split at h
    · simp at h
    · omega

namespace Tally

variable {r r' r'' : Tally}

/-- No total is lower. -/
structure Grown (r r' : Tally) : Prop where
  total : r.total ≤ r'.total
  others : r.others ≤ r'.others
  evictions : r.evictions ≤ r'.evictions

theorem Grown.trans (h : Grown r r') (h' : Grown r' r'') : Grown r r'' :=
  ⟨h.total.trans h'.total, h.others.trans h'.others, h.evictions.trans h'.evictions⟩

theorem Grown.of_sample (limit : Nat) (r : Tally) (key : Backtrace) :
    Grown r (r.sample limit key).2 := by
  have hkept : Grown r r := ⟨Nat.le_refl _, Nat.le_refl _, Nat.le_refl _⟩
  unfold sample count
  split
  · split
    · exact ⟨Nat.le_succ _, hkept.others, hkept.evictions⟩
    · split
      · exact ⟨Nat.le_succ _, hkept.others, hkept.evictions⟩
      · exact ⟨Nat.le_succ _, Nat.le_add_right .., Nat.le_succ _⟩
  · exact hkept

end Tally

namespace Store

variable {st st' : Store} {c : Config} {r r' : Tally}

/-- The same store later: as large, and with no total lower. -/
structure Grown (st st' : Store) : Prop where
  capacity : st'.capacity = st.capacity
  depth : st'.depth = st.depth
  total : st.total ≤ st'.total
  others : st.others ≤ st'.others
  evictions : st.evictions ≤ st'.evictions

/-- Counting the present stack any number of times. -/
theorem Matches.sampled (h : st.Matches c r) (hpos : 0 < c.slots) (stack : ShadowStack) (n : Nat) :
    ∃ r', (st.sampled stack n).Matches c r' ∧ r.Grown r' := by
  induction n with
  | zero => exact ⟨r, h, Nat.le_refl _, Nat.le_refl _, Nat.le_refl _⟩
  | succ n ih =>
    obtain ⟨r', h', hgrown⟩ := ih
    have hnext := (h'.call hpos (.recordFrom stack.source)).2
    exact ⟨_, hnext, hgrown.trans (.of_sample ..)⟩

theorem Matches.grown (h : st.Matches c r) (h' : st'.Matches c r') (hgrown : r.Grown r') :
    st.Grown st' where
  capacity := h'.capacity.trans h.capacity.symm
  depth := h'.depth.trans h.depth.symm
  total := by rw [h.total, h'.total]; exact hgrown.total
  others := by rw [h.others, h'.others]; exact hgrown.others
  evictions := by rw [h.evictions, h'.evictions]; exact hgrown.evictions

/-- Made from a configuration with slots, and used for counting only. -/
def Sound (st : Store) : Prop := ∃ c r, 0 < c.slots ∧ st.Matches c r

theorem Sound.sampled (h : st.Sound) (stack : ShadowStack) (n : Nat) :
    (st.sampled stack n).Sound ∧ st.Grown (st.sampled stack n) := by
  obtain ⟨c, r, hpos, hmatch⟩ := h
  obtain ⟨r', hmatch', hgrown⟩ := hmatch.sampled hpos stack n
  exact ⟨⟨c, r', hpos, hmatch'⟩, hmatch.grown hmatch' hgrown⟩

end Store

namespace Session

variable {s : Session} {op : Operation} {a : Answer} {r : Record} {st : Store}

/-- The store of the session, if there is one, is sound. -/
def Sound (s : Session) : Prop := ∀ st ∈ s.shared.store, st.Sound

/-- With a store there is nothing to provide. -/
theorem provision_some (hst : s.shared.store = some st) : s.provision = s.shared := by
  unfold provision
  rw [hst]

theorem provision_none (hstore : s.shared.store = none) (hready : s.Ready) :
    s.config.validate = .ok () ∧ s.provision = { s.shared with store := some (Store.new s.config) } := by
  have hvalid : s.config.validate = .ok () := by
    rcases hready with hst | hvalid
    · simp [hstore] at hst
    · exact hvalid
  refine ⟨hvalid, ?_⟩
  unfold provision
  rw [hstore, hvalid]

/-- **A store goes on** through every operation but a reset, and only ticks count in it. -/
theorem Effect.store (h : Effect s op a r) (hreset : op ≠ .reset) (hst : s.shared.store = some st) :
    ∃ n, r.shared.store = some (st.sampled s.stack n) ∧ (op.ticks = false → n = 0) := by
  cases h with
  | kept _ _ => exact ⟨0, hst, fun _ => rfl⟩
  | @ticked _ _ n k hticks =>
    refine ⟨n, ?_, fun hno => ?_⟩
    · simp only [Shared.sampled, hst, Option.map_some]
    · rw [hno] at hticks
      cases hticks
  | reset => exact absurd rfl hreset
  | invalid hstore _ =>
    rw [hst] at hstore
    cases hstore
  | refused _ | begun _ =>
    rw [provision_some hst]
    exact ⟨0, hst, fun _ => rfl⟩

/-- **Where a store comes from**: it was there before, or it is new. -/
theorem Effect.origin (h : Effect s op a r) (hst : r.shared.store = some st) :
    (∃ st₀ n, s.shared.store = some st₀ ∧ st = st₀.sampled s.stack n) ∨
      s.config.validate = .ok () ∧ st = .new s.config := by
  have hkept (hsame : s.shared.store = some st) :
      ∃ st₀ n, s.shared.store = some st₀ ∧ st = st₀.sampled s.stack n := ⟨st, 0, hsame, rfl⟩
  cases h with
  | kept _ _ | invalid _ _ => exact .inl (hkept hst)
  | @ticked _ _ n _ _ =>
    obtain ⟨st₀, hst₀, rfl⟩ := Option.map_eq_some_iff.1 hst
    exact .inl ⟨st₀, n, hst₀, rfl⟩
  | reset => cases hst
  | refused hready | begun hready =>
    cases hstore : s.shared.store with
    | some st₀ =>
      rw [provision_some hstore] at hst
      rw [← hstore]
      exact .inl (hkept hst)
    | none =>
      obtain ⟨hvalid, hnew⟩ := provision_none hstore hready
      rw [hnew] at hst
      exact .inr ⟨hvalid, (Option.some.inj hst).symm⟩

theorem Effect.sound (h : Effect s op a r) (hs : s.Sound) : ∀ st ∈ r.shared.store, st.Sound := by
  intro st hst
  rcases h.origin hst with ⟨st₀, n, hst₀, rfl⟩ | ⟨hvalid, rfl⟩
  · exact ((hs st₀ hst₀).sampled s.stack n).1
  · exact ⟨s.config, {}, Config.slots_pos hvalid, .new s.config⟩

end Session

end StackSampler
