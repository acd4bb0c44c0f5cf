import Mathlib.Algebra.Group.Nat.Defs
import Mathlib.Data.List.TakeWhile
import StackSampler.Frame.Backtrace

/-!
# A changed frame shows in the hash

Every step of the hash can be undone, so nothing that goes in is lost on the way, and two backtraces that
part at one place have different hashes. The words are 64 bits wide: a shifted word that is folded in
leaves its top bits alone, an odd factor has an inverse, and a rotation moves bits without dropping
one.

* `mix_injective`: different words are mixed to different words.
* `combine_injective_left`, `combine_injective_right`: a step of the fold forgets neither what came
  before nor what comes in.
* `Backtrace.hash_tells_frames`: the law for backtraces.
-/

namespace StackSampler

/-! ## Words -/

section Words

variable {z w : UInt64}

/-- What a shift to the right leaves alone is zero. -/
theorem eq_zero_of_shiftRight_eq {k : UInt64} (hk : 0 < k.toNat % 64) (h : z = z >>> k) : z = 0 := by
  have hfixed := congrArg UInt64.toNat h
  rw [UInt64.toNat_shiftRight, Nat.shiftRight_eq_div_pow] at hfixed
  rcases Nat.eq_zero_or_pos z.toNat with hzero | hpos
  · exact UInt64.toNat_inj.1 hzero
  · have := Nat.div_lt_self hpos (Nat.one_lt_two_pow (Nat.ne_of_gt hk))
    omega

/-- **A shifted word folded in**: where two words differ, so do the results, at the topmost place
where the words do. -/
theorem xor_shiftRight_injective {k : UInt64} (hk : 0 < k.toNat % 64) :
    Function.Injective fun z : UInt64 => z ^^^ z >>> k := by
  intro z w h
  -- the difference of the words is folded as they are, and nothing is left of it
  have hswap : (z ^^^ w) ^^^ (z ^^^ w) >>> k = (z ^^^ z >>> k) ^^^ (w ^^^ w >>> k) := by
    rw [UInt64.shiftRight_xor]
    ac_rfl
  have hfixed : z ^^^ w = (z ^^^ w) >>> k := by
    rw [← UInt64.xor_eq_zero_iff, hswap, UInt64.xor_eq_zero_iff]
    exact h
  exact UInt64.xor_eq_zero_iff.1 (eq_zero_of_shiftRight_eq hk hfixed)

/-- **A factor with an inverse** can be divided out. -/
theorem mul_injective {c inverse : UInt64} (h : c * inverse = 1) :
    Function.Injective fun z : UInt64 => z * c := by
  intro z w heq
  have hback := congrArg (· * inverse) heq
  simpa only [UInt64.mul_assoc, h, UInt64.mul_one] using hback

/-- **Mixing loses nothing.** -/
theorem mix_injective : Function.Injective mix := by
  -- both factors have inverses modulo 2 ^ 64
  have hfirst : (0xbf58476d1ce4e5b9 : UInt64) * 0x96de1b173f119089 = 1 := by decide
  have hsecond : (0x94d049bb133111eb : UInt64) * 0x319642b2d24d8ec3 = 1 := by decide
  have hin := (mul_injective hfirst).comp (xor_shiftRight_injective (k := 30) (by decide))
  have hthrough := (mul_injective hsecond).comp (xor_shiftRight_injective (k := 27) (by decide))
  exact (xor_shiftRight_injective (k := 31) (by decide)).comp (hthrough.comp hin)

/-- The top four bits come in at the bottom. -/
theorem toNat_rotateFour (z : UInt64) :
    (rotateFour z).toNat = z.toNat % 2 ^ 60 * 2 ^ 4 + z.toNat / 2 ^ 60 := by
  have hlow : (z <<< 4).toNat = (z.toNat % 2 ^ 60) <<< 4 := by
    rw [UInt64.toNat_shiftLeft, Nat.shiftLeft_eq, Nat.shiftLeft_eq]
    exact Nat.mul_mod_mul_right (2 ^ 4) z.toNat (2 ^ 60)
  have hhigh : (z >>> 60).toNat = z.toNat / 2 ^ 60 := by
    rw [UInt64.toNat_shiftRight, Nat.shiftRight_eq_div_pow]
    rfl
  have hfits : z.toNat / 2 ^ 60 < 2 ^ 4 := Nat.div_lt_of_lt_mul z.toNat_lt
  rw [rotateFour, UInt64.toNat_or, hlow, hhigh, ← Nat.shiftLeft_add_eq_or_of_lt hfits,
    Nat.shiftLeft_eq]

theorem rotateFour_injective : Function.Injective rotateFour := by
  have hparts : ∀ a a' q q' : ℕ, q < 2 ^ 4 → q' < 2 ^ 4 → a * 2 ^ 4 + q = a' * 2 ^ 4 + q' →
      a = a' ∧ q = q' := by omega
  intro z w h
  have heq := congrArg UInt64.toNat h
  rw [toNat_rotateFour, toNat_rotateFour] at heq
  have hz : z.toNat / 2 ^ 60 < 2 ^ 4 := Nat.div_lt_of_lt_mul z.toNat_lt
  have hw : w.toNat / 2 ^ 60 < 2 ^ 4 := Nat.div_lt_of_lt_mul w.toNat_lt
  obtain ⟨hlow, hhigh⟩ := hparts _ _ _ _ hz hw heq
  refine UInt64.toNat_inj.1 ?_
  rw [← Nat.div_add_mod z.toNat (2 ^ 60), ← Nat.div_add_mod w.toNat (2 ^ 60), hlow, hhigh]

theorem combine_injective_left (h : UInt64) : Function.Injective fun acc => combine acc h :=
  fun _ _ heq => rotateFour_injective ((UInt64.add_left_inj h).1 heq)

theorem combine_injective_right (acc : UInt64) : Function.Injective (combine acc) :=
  fun _ _ heq => (UInt64.add_right_inj _).1 heq

end Words

theorem FrameId.hash_injective : Function.Injective FrameId.hash := by
  intro f g h
  obtain ⟨raw⟩ := f
  obtain ⟨raw'⟩ := g
  exact congrArg FrameId.mk (mix_injective h)

namespace Backtrace

variable {b other : Backtrace}

/-! ## Backtraces -/

/-- The frames of a backtrace added to what came before them. -/
def accumulate (acc : UInt64) (b : Backtrace) : UInt64 := b.foldl (fun acc f => combine acc f.hash) acc

theorem hash_eq (b : Backtrace) : b.hash = mix (accumulate 0 b) := rfl

/-- Frames further out do not hide what came before them. -/
theorem accumulate_injective (b : Backtrace) : Function.Injective fun acc => accumulate acc b := by
  induction b with
  | nil => exact Function.injective_id
  | cons f b ih => exact ih.comp (combine_injective_left f.hash)

/-- **Backtraces that part at one place** have the same hash only if they do not part there. -/
theorem hash_append_cons_inj (inner outer : Backtrace) {f g : FrameId} :
    hash (inner ++ f :: outer) = hash (inner ++ g :: outer) ↔ f = g := by
  refine ⟨fun h => ?_, fun h => h ▸ rfl⟩
  rw [hash_eq, hash_eq] at h
  -- undone from the end: the last mixing, the frames further out, the step of the frame itself
  have hsum := mix_injective h
  unfold accumulate at hsum
  rw [List.foldl_append, List.foldl_append, List.foldl_cons, List.foldl_cons] at hsum
  exact FrameId.hash_injective (combine_injective_right _ (accumulate_injective outer hsum))

/-- A frame that is replaced changes the hash, unless it is replaced by itself. -/
theorem hash_set_eq_iff {i : ℕ} {f : FrameId} (h : b[i]? = some f) (g : FrameId) :
    hash (b.set i g) = b.hash ↔ g = f := by
  obtain ⟨hi, hf⟩ := List.getElem?_eq_some_iff.1 h
  have hb : b = b.take i ++ f :: b.drop (i + 1) := by
    rw [← hf, ← List.drop_eq_getElem_cons, List.take_append_drop]
  have hset : b.set i g = b.take i ++ g :: b.drop (i + 1) := by
    rw [List.set_eq_take_append_cons_drop, if_pos hi]
  have hsame : b.hash = hash (b.take i ++ f :: b.drop (i + 1)) := congrArg hash hb
  rw [hset, hsame]
  exact hash_append_cons_inj _ _

/-- Of two backtraces that part at one place only, one is the other with a frame replaced. -/
theorem exists_set_of_parts (hlen : b.length = other.length) (h : ∃! i : ℕ, b[i]? ≠ other[i]?) :
    ∃ (i : ℕ) (f g : FrameId), b[i]? = some f ∧ g ≠ f ∧ other = b.set i g := by
  obtain ⟨i, hpart, honly⟩ := h
  have hi : i < b.length := by
    refine Nat.lt_of_not_le fun hout => hpart ?_
    rw [List.getElem?_eq_none hout, List.getElem?_eq_none (hlen ▸ hout)]
  obtain ⟨f, hf⟩ : ∃ f, b[i]? = some f := ⟨_, List.getElem?_eq_getElem hi⟩
  obtain ⟨g, hg⟩ : ∃ g, other[i]? = some g := ⟨_, List.getElem?_eq_getElem (hlen ▸ hi)⟩
  have hne : g ≠ f := fun heq => hpart (by rw [hf, hg, heq])
  refine ⟨i, f, g, hf, hne, List.ext_getElem? fun j => ?_⟩
  by_cases hij : i = j
  · rw [← hij, hg, List.getElem?_set_self hi]
  · rw [List.getElem?_set_ne hij]
    exact (not_ne_iff.1 fun hj => hij (honly j hj).symm).symm

/-- **Changing one frame changes the hash**, at whatever place it stands and whatever is put there; in
particular no hash is kept when a frame is blanked. -/
theorem hash_tells_frames :
    Function.Injective mix ∧ Function.Injective FrameId.hash ∧
      (∀ b other : Backtrace, b.length = other.length → (∃! i : ℕ, b[i]? ≠ other[i]?) →
        b.hash ≠ other.hash) ∧
      ∀ (b : Backtrace) (i : ℕ) (f : FrameId), b[i]? = some f → f ≠ FrameId.absent →
        hash (b.set i FrameId.absent) ≠ b.hash := by
  refine ⟨mix_injective, FrameId.hash_injective, fun b other hlen hpart heq => ?_, ?_⟩
  · obtain ⟨i, f, g, hf, hne, rfl⟩ := exists_set_of_parts hlen hpart
    exact hne ((hash_set_eq_iff hf g).1 heq.symm)
  · intro b i f hf hne heq
    exact hne ((hash_set_eq_iff hf _).1 heq).symm

/-- The largest identity in front, and one frame changed or blanked. -/
theorem hash_tells_frames_apart :
    let b : Backtrace := [⟨18446744073709551615⟩, ⟨1⟩, FrameId.absent]
    let other : Backtrace := [⟨18446744073709551615⟩, ⟨2⟩, FrameId.absent]
    b.length = other.length ∧ (∃! i : ℕ, b[i]? ≠ other[i]?) ∧ b.hash ≠ other.hash ∧
      b[0]? = some ⟨18446744073709551615⟩ ∧ hash (b.set 0 FrameId.absent) ≠ b.hash := by
  intro b other
  have hpart : ∃! i : ℕ, b[i]? ≠ other[i]? := by
    refine ⟨1, by decide, fun i hi => ?_⟩
    match i with
    | 0 | 2 => exact absurd rfl hi
    | 1 => rfl
    | _ + 3 => exact absurd rfl hi
  obtain ⟨-, -, hparts, hblank⟩ := hash_tells_frames
  exact ⟨rfl, hpart, hparts b other rfl hpart, rfl, hblank b 0 _ rfl (by decide)⟩

end Backtrace

end StackSampler
