import StackSampler.Store.Table
import StackSampler.Proofs.Store.Links
import Mathlib.Logic.Function.Basic

/-!
# How a table is laid out

`Layout t free chains loose` reads a table as lists: the free slots from the top of the free stack,
the slots of every bucket from the head of its chain, and at most one slot **in hand**, which is in
use but on no chain. Each operation on links is one change of these lists.

* `Layout.pop` takes the top free slot in hand, `Layout.link` puts the slot in hand on a chain.
* `Layout.unlink` takes a slot off its chain into the hand, `Layout.release` puts it on the free
  stack.
* `Layout.create` and `Layout.evict` are the two ways through: from the free stack to a chain and
  back.
-/

namespace StackSampler

namespace Table

variable {t : Table} {free : List Nat} {chains : Fin bucketCount → List Nat} {loose : Option Nat}
variable {i j v : Nat} {b b' : Fin bucketCount} {key : Backtrace}

/-- **The table as lists**: the free stack, the chain of each bucket, and the slot in hand. -/
structure Layout (t : Table) (free : List Nat) (chains : Fin bucketCount → List Nat)
    (loose : Option Nat) : Prop where
  free_path : t.pool.Path t.pool.freeHead free
  free_len : t.pool.freeLen = free.length
  free_prev : ∀ i ∈ free, ∃ next, t.pool.links i = some (none, next)
  mem_free : ∀ i, i ∈ free ↔ ∃ k n, t.pool.content i = some (false, k, n)
  chain_seg : ∀ b, t.pool.Segment none (t.head b) (chains b) none
  mem_chain : ∀ b i, i ∈ chains b ↔
    loose ≠ some i ∧ ∃ k n, t.pool.content i = some (true, k, n) ∧ k.bucket = b
  loose_used : ∀ i, loose = some i → ∃ k n, t.pool.content i = some (true, k, n)

namespace Layout

theorem nodup_free (h : t.Layout free chains loose) : free.Nodup := h.free_path.nodup

theorem nodup_chain (h : t.Layout free chains loose) (b : Fin bucketCount) : (chains b).Nodup :=
  (h.chain_seg b).path.nodup

theorem head_eq (h : t.Layout free chains loose) (b : Fin bucketCount) :
    t.head b = (chains b).head? := by
  rw [(h.chain_seg b).start_eq, Option.or_none]

/-- No slot is on two chains. -/
theorem not_mem_chain (h : t.Layout free chains loose) (hi : i ∈ chains b) (hb : b ≠ b') :
    i ∉ chains b' := by
  intro hi'
  obtain ⟨-, k, n, hc, rfl⟩ := (h.mem_chain b i).1 hi
  obtain ⟨-, k', n', hc', rfl⟩ := (h.mem_chain b' i).1 hi'
  rw [hc] at hc'
  simp at hc'
  exact hb (by rw [hc'.1])

/-- No free slot is on a chain. -/
theorem not_mem_chain_of_free (h : t.Layout free chains loose) (hi : i ∈ free) :
    i ∉ chains b := by
  intro hb
  obtain ⟨k, n, hc⟩ := (h.mem_free i).1 hi
  obtain ⟨-, k', n', hc', -⟩ := (h.mem_chain b i).1 hb
  rw [hc] at hc'
  simp at hc'

theorem loose_not_mem_chain (h : t.Layout free chains (some i)) : i ∉ chains b :=
  fun hi => ((h.mem_chain b i).1 hi).1 rfl

theorem loose_not_mem_free (h : t.Layout free chains (some i)) : i ∉ free := by
  intro hi
  obtain ⟨k, n, hc⟩ := (h.mem_free i).1 hi
  obtain ⟨k', n', hc'⟩ := h.loose_used i rfl
  rw [hc] at hc'
  simp at hc'

end Layout

/-! ## The new table -/

/-- In a new pool every slot leads to the one after it. -/
theorem path_new (N D : Nat) : ∀ m i, i + m = N →
    (Pool.new N D).Path (if m = 0 then none else some i) (List.range' i m) := by
  intro m
  induction m with
  | zero => intro i _; rfl
  | succ m ih =>
    intro i hi
    have hnext : (Pool.new N D).links i = some (none, if m = 0 then none else some (i + 1)) := by
      simp only [Pool.links, Pool.new]
      rw [Array.getElem?_ofFn, dif_pos (by omega)]
      by_cases hm : m = 0
      · simp [hm, show ¬ i + 1 < N by omega]
      · simp [hm, show i + 1 < N by omega]
    exact ⟨if_neg (Nat.succ_ne_zero m), none, _, hnext, ih (i + 1) (by omega)⟩

/-- **A new table** has every slot free, the lowest on top, and every chain empty. -/
theorem layout_new (N D : Nat) : (Table.new N D).Layout (List.range' 0 N) (fun _ => []) none := by
  have hcontent : ∀ i, (Table.new N D).pool.content i =
      if i < N then some (false, Backtrace.blank D, 0) else none := by
    intro i
    simp only [Table.new, Pool.content, Pool.new, Array.getElem?_ofFn]
    by_cases hi : i < N <;> simp [hi]
  refine
    { free_path := ?_, free_len := by simp [Table.new, Pool.new], free_prev := fun i hi => ?_,
      mem_free := fun i => ?_, chain_seg := fun b => ?_, mem_chain := fun b i => ?_,
      loose_used := fun i hi => by simp at hi }
  · exact path_new N D N 0 (Nat.zero_add N)
  · have hi' : i < N := by simpa [List.mem_range'_1] using hi
    simp only [Table.new, Pool.links, Pool.new]
    rw [Array.getElem?_ofFn, dif_pos hi']
    exact ⟨_, rfl⟩
  · rw [hcontent, List.mem_range'_1]
    by_cases hi : i < N <;> simp [hi]
  · simp [Pool.Segment, Table.new, head]
  · rw [hcontent]
    by_cases hi : i < N <;> simp [hi]

/-! ## What relinking leaves alone -/

/-- Only links and heads differ: contents, sizes, the free stack's head and all counters stay. -/
structure Relinks (t t' : Table) : Prop where
  content : ∀ j, t'.pool.content j = t.pool.content j
  capacity : t'.pool.capacity = t.pool.capacity
  depth : t'.pool.depth = t.pool.depth
  freeHead : t'.pool.freeHead = t.pool.freeHead
  freeLen : t'.pool.freeLen = t.pool.freeLen
  evictions : t'.evictions = t.evictions

theorem Relinks.refl (t : Table) : Relinks t t := ⟨fun _ => rfl, rfl, rfl, rfl, rfl, rfl⟩

theorem Relinks.trans {t t' t'' : Table} (h : Relinks t t') (h' : Relinks t' t'') :
    Relinks t t'' :=
  ⟨fun j => (h'.content j).trans (h.content j), h'.capacity.trans h.capacity,
    h'.depth.trans h.depth, h'.freeHead.trans h.freeHead, h'.freeLen.trans h.freeLen,
    h'.evictions.trans h.evictions⟩

theorem relinks_heads (t : Table) (heads : Vector (Option Nat) bucketCount) :
    Relinks t { t with heads := heads } := ⟨fun _ => rfl, rfl, rfl, rfl, rfl, rfl⟩

theorem relinks_update (t : Table) (i : Nat) {f : Slot → Slot}
    (hf : ∀ s, (f s).used = s.used ∧ (f s).backtrace = s.backtrace ∧ (f s).count = s.count) :
    Relinks t { t with pool := t.pool.update i f } :=
  ⟨Pool.content_update_of_keep hf, Pool.size_update .., rfl, rfl, rfl, rfl⟩

theorem relinks_pointBack (t : Table) (slot before : Option Nat) :
    Relinks t { t with pool := t.pool.pointBack slot before } := by
  cases slot with
  | none => exact Relinks.refl t
  | some i => exact relinks_update t i (by simp)

theorem relinks_lead (t : Table) (before : Option Nat) (b : Fin bucketCount) (x : Option Nat) :
    Relinks t (t.lead before b x) := by
  cases before with
  | none => exact relinks_heads t _
  | some i => exact relinks_update t i (by simp)

theorem relinks_link (t : Table) (i : Nat) (b : Fin bucketCount) : Relinks t (t.link i b) := by
  have h1 := relinks_pointBack t (t.head b) (some i)
  have h2 := relinks_update { t with pool := t.pool.pointBack (t.head b) (some i) } i
    (f := fun s => { s with prev := none, next := t.head b }) (by simp)
  exact (h1.trans h2).trans (relinks_heads _ _)

theorem relinks_unlink (t : Table) (v : Nat) : Relinks t (t.unlink v) := by
  unfold unlink
  cases t.pool.slots[v]? with
  | none => exact Relinks.refl t
  | some slot =>
    have h1 := relinks_lead t slot.prev slot.backtrace.bucket slot.next
    exact (h1.trans (relinks_pointBack _ slot.next slot.prev)).trans (relinks_update _ v (by simp))

theorem head_lead_none (t : Table) (b : Fin bucketCount) (x : Option Nat) :
    (t.lead none b x).head b = x := by
  simp [lead, head]

theorem head_lead_of_ne (t : Table) (before : Option Nat) (x : Option Nat) (h : b ≠ b') :
    (t.lead before b x).head b' = t.head b' := by
  cases before with
  | none => simp [lead, head, Fin.val_ne_of_ne h]
  | some i => rfl

theorem head_link_self (t : Table) (i : Nat) (b : Fin bucketCount) :
    (t.link i b).head b = some i := by
  simp [Table.link, head]

theorem head_link_of_ne (t : Table) (i : Nat) (h : b ≠ b') : (t.link i b).head b' = t.head b' := by
  simp [Table.link, head, Fin.val_ne_of_ne h]

theorem links_lead_of_ne {before : Option Nat} (h : before ≠ some j) (b : Fin bucketCount)
    (x : Option Nat) : (t.lead before b x).pool.links j = t.pool.links j := by
  cases before with
  | none => rfl
  | some i => exact Pool.links_update_ne (by simpa using h)

theorem links_link_of_ne (hi : i ≠ j) (hj : t.head b ≠ some j) :
    (t.link i b).pool.links j = t.pool.links j := by
  unfold link
  simp only
  rw [Pool.links_update_ne hi, Pool.links_pointBack_of_ne hj]

/-! ## The free stack -/

/-- Only the slot at `i` records something new, and that is `x`. -/
structure Writes (p p' : Pool) (i : Nat) (x : Bool × Backtrace × Nat) : Prop where
  here : p'.content i = some x
  there : ∀ j, j ≠ i → p'.content j = p.content j
  capacity : p'.capacity = p.capacity
  depth : p'.depth = p.depth

theorem Writes.trans {p p' p'' : Pool} {x y : Bool × Backtrace × Nat} (h : Writes p p' i x)
    (h' : Writes p' p'' i y) : Writes p p'' i y :=
  ⟨h'.here, fun j hj => (h'.there j hj).trans (h.there j hj), h'.capacity.trans h.capacity,
    h'.depth.trans h.depth⟩

namespace Layout

/-- A slot that changes sides between the free stack and the hand, and is on no chain, leaves all
chains as they are. -/
theorem restack (h : t.Layout free chains loose) {p : Pool} {u : Bool} {k : Backtrace} {n : Nat}
    {free' : List Nat} (hw : Writes t.pool p i (u, k, n))
    (hlinks : ∀ j, j ≠ i → p.links j = t.pool.links j) (hi : ∀ b, i ∉ chains b)
    (hloose : ∀ j, loose = some j → j = i) (hpath : p.Path p.freeHead free')
    (hlen : p.freeLen = free'.length) (hprev : ∀ j ∈ free', ∃ next, p.links j = some (none, next))
    (hmem : ∀ j, j ∈ free' ↔ if j = i then u = false else j ∈ free) :
    Layout { t with pool := p } free' chains (if u then some i else none) := by
  refine
    { free_path := hpath, free_len := hlen, free_prev := hprev, mem_free := fun j => ?_,
      chain_seg := fun b => ?_, mem_chain := fun b j => ?_, loose_used := fun j hj => ?_ }
  · rw [hmem j]
    by_cases hj : j = i
    · subst hj
      simp only [hw.here]
      simp
    · rw [if_neg hj, h.mem_free j]
      simp only [hw.there j hj]
  · exact (h.chain_seg b).frame fun j hj => hlinks j fun e => hi b (e ▸ hj)
  · by_cases hj : j = i
    · subst hj
      simp only [hw.here]
      cases u <;> simp [hi b]
    · simp only [hw.there j hj]
      rw [h.mem_chain b j]
      refine and_congr_left fun _ => ?_
      have hold : loose ≠ some j := fun e => hj (hloose j e)
      cases u <;> simp [hold, Ne.symm hj]
  · cases u with
    | false => simp at hj
    | true =>
      obtain rfl : i = j := by simpa using hj
      exact ⟨k, n, hw.here⟩

/-- **Taking the top free slot in hand.** -/
theorem pop (h : t.Layout (i :: free) chains none) :
    ∃ p k n, t.pool.pop = some (i, p) ∧ Writes t.pool p i (true, k, n) ∧
      Layout { t with pool := p } free chains (some i) := by
  obtain ⟨hhead, before, next, hnext, hpath⟩ := h.free_path
  obtain ⟨k, n, hi⟩ := (h.mem_free i).1 List.mem_cons_self
  obtain ⟨s, hs, -, rfl, rfl⟩ := Pool.slot_of_content hi
  have hnot := (List.nodup_cons.1 h.nodup_free).1
  set q := t.pool.update i (fun s => { s with used := true, next := none, prev := none }) with hq
  have hlinks : ∀ j, j ≠ i → q.links j = t.pool.links j := fun j hj =>
    Pool.links_update_ne (Ne.symm hj)
  have hfree : ∀ j ∈ free, q.links j = t.pool.links j := fun j hj =>
    hlinks j fun e => hnot (e ▸ hj)
  have hw : Writes t.pool { q with freeHead := next, freeLen := free.length } i
      (true, s.backtrace, s.count) := by
    refine ⟨?_, fun j hj => Pool.content_update_ne (Ne.symm hj), Pool.size_update .., rfl⟩
    show q.content i = _
    rw [hq, Pool.content_update_self, hs, Option.map_some]
  refine ⟨_, _, _, ?_, hw, ?_⟩
  · simp only [Pool.pop, hhead, h.free_len, Option.map_some, List.length_cons, Nat.add_sub_cancel,
      Pool.nextOf_of_links hnext, hq, Pool.update]
  refine h.restack hw hlinks (fun b => h.not_mem_chain_of_free List.mem_cons_self)
    (fun j hj => by simp at hj) (hpath.frame hfree) rfl (fun j hj => ?_) (fun j => ?_)
  · obtain ⟨x, hx⟩ := h.free_prev j (List.mem_cons_of_mem _ hj)
    exact ⟨x, (hfree j hj).trans hx⟩
  · by_cases hj : j = i
    · subst hj
      simp [hnot]
    · simp [hj]

/-- **Giving the slot in hand back** to the free stack. -/
theorem release (h : t.Layout free chains (some v)) :
    ∃ k n, Writes t.pool (t.pool.release v) v (false, k, n) ∧
      Layout { t with pool := t.pool.release v } (v :: free) chains none := by
  obtain ⟨k, n, hv⟩ := h.loose_used v rfl
  obtain ⟨s, hs, -, rfl, rfl⟩ := Pool.slot_of_content hv
  have hnot := h.loose_not_mem_free
  set q := t.pool.update v (fun s => { s with used := false, prev := none, next := t.pool.freeHead })
    with hq
  have hself : q.links v = some (none, t.pool.freeHead) := by
    rw [hq, Pool.links_update_self, hs, Option.map_some]
  have hlinks : ∀ j, j ≠ v → q.links j = t.pool.links j := fun j hj =>
    Pool.links_update_ne (Ne.symm hj)
  have hfree : ∀ j ∈ free, q.links j = t.pool.links j := fun j hj =>
    hlinks j fun e => hnot (e ▸ hj)
  have hw : Writes t.pool (t.pool.release v) v (false, s.backtrace, s.count) := by
    refine ⟨?_, fun j hj => Pool.content_update_ne (Ne.symm hj), Pool.size_update .., rfl⟩
    show q.content v = _
    rw [hq, Pool.content_update_self, hs, Option.map_some]
  refine ⟨_, _, hw, ?_⟩
  refine h.restack hw hlinks (fun b => h.loose_not_mem_chain)
    (fun j hj => (Option.some.inj hj).symm) ⟨rfl, none, _, hself, h.free_path.frame hfree⟩
    (congrArg (· + 1) h.free_len) (fun j hj => ?_) (fun j => ?_)
  · rcases List.mem_cons.1 hj with rfl | hj
    · exact ⟨_, hself⟩
    · obtain ⟨x, hx⟩ := h.free_prev j hj
      exact ⟨x, (hfree j hj).trans hx⟩
  · by_cases hj : j = v
    · subst hj
      simp
    · simp [hj]

end Layout

/-! ## The chains -/

/-- Cutting a chain behind a stretch: what the stretch leads to is replaced, whether its end is a
slot or, for the empty stretch, the bucket's head. -/
theorem segment_lead {l : List Nat} {after : Option Nat}
    (h : t.pool.Segment none (t.head b) l after) (hl : l.Nodup) (x : Option Nat) :
    (t.lead l.getLast? b x).pool.Segment none ((t.lead l.getLast? b x).head b) l x := by
  rcases List.eq_nil_or_concat l with rfl | ⟨l, i, hli⟩
  · exact head_lead_none t b x
  · rw [List.concat_eq_append] at hli
    subst hli
    have hi : i ∉ l := by
      intro hm
      exact (List.nodup_append.1 hl).2.2 i hm i (by simp) rfl
    rw [List.getLast?_concat]
    exact h.turn_last hi x

/-- What unlinking the slot between two stretches of a chain does. -/
theorem unlink_eq {s : Slot} {pre post : List Nat} (hs : t.pool.slots[v]? = some s)
    (hseg : t.pool.Segment none (t.head s.backtrace.bucket) (pre ++ v :: post) none) :
    t.unlink v =
      { t.lead pre.getLast? s.backtrace.bucket post.head? with
        pool := ((t.lead pre.getLast? s.backtrace.bucket post.head?).pool.pointBack post.head?
          pre.getLast?).update v fun s => { s with prev := none, next := none } } := by
  -- the slot's own links name its neighbours
  obtain ⟨s', hs', hprev, hnext⟩ := Pool.slot_of_links hseg.links_mid
  obtain rfl : s = s' := Option.some.inj (hs.symm.trans hs')
  rw [Option.or_none] at hprev
  simp only [unlink, hs, hprev, hnext]

theorem links_unlink_of_ne {s : Slot} {pre post : List Nat} (hs : t.pool.slots[v]? = some s)
    (hseg : t.pool.Segment none (t.head s.backtrace.bucket) (pre ++ v :: post) none)
    (hj : j ∉ pre ++ v :: post) : (t.unlink v).pool.links j = t.pool.links j := by
  simp only [List.mem_append, List.mem_cons, not_or] at hj
  rw [unlink_eq hs hseg]
  show (Pool.update _ v _).links j = _
  rw [Pool.links_update_ne (Ne.symm hj.2.1), Pool.links_pointBack_of_ne, links_lead_of_ne]
  · exact fun e => hj.1 (List.mem_of_getLast? e)
  · exact fun e => hj.2.2 (List.mem_of_mem_head? e)

/-- **A chain without one of its slots**, be it the head, in the middle or the end. -/
theorem segment_unlink {s : Slot} {pre post : List Nat} (hs : t.pool.slots[v]? = some s)
    (hseg : t.pool.Segment none (t.head s.backtrace.bucket) (pre ++ v :: post) none) :
    (t.unlink v).pool.Segment none ((t.unlink v).head s.backtrace.bucket) (pre ++ post) none := by
  have hnd := hseg.path.nodup
  obtain ⟨hpre, hvpost, hdis⟩ := List.nodup_append.1 hnd
  obtain ⟨hvp, hpost⟩ := List.nodup_cons.1 hvpost
  have hvpre : v ∉ pre := fun hm => hdis v hm v List.mem_cons_self rfl
  have hdis' : ∀ j ∈ pre, j ∉ post := fun j hj hj' => hdis j hj j (List.mem_cons_of_mem _ hj') rfl
  obtain ⟨mid, hleft, -, next, hvl, hright⟩ := Pool.segment_append.1 hseg
  rw [hright.start_eq, Option.or_none] at hright
  rw [unlink_eq hs hseg]
  -- the stretch in front leads to the one behind it
  have hleft := segment_lead hleft hpre post.head?
  refine Pool.segment_append.2 ⟨post.head?, hleft.frame fun j hj => ?_, ?_⟩
  · have hvj : v ≠ j := fun e => hvpre (e ▸ hj)
    show (Pool.update _ v _).links j = _
    rw [Pool.links_update_ne hvj, Pool.links_pointBack_of_ne]
    exact fun e => hdis' j hj (List.mem_of_mem_head? e)
  -- and the one behind comes from the one in front
  have hright : (t.lead pre.getLast? s.backtrace.bucket post.head?).pool.Segment (some v) post.head?
      post none := hright.frame fun j hj =>
    links_lead_of_ne (fun e => hdis' j (List.mem_of_getLast? e) hj) _ _
  rw [Option.or_none]
  exact (hright.turn_first hpost pre.getLast?).frame fun j hj =>
    Pool.links_update_ne fun e => hvp (e ▸ hj)

namespace Layout

/-- A change of links that moves one slot between its chain and the hand leaves the free stack and
all other chains as they are. -/
theorem rechain {t' : Table} {loose' : Option Nat} {l : List Nat}
    (h : t.Layout free chains loose) (hr : Relinks t t')
    (hhand : ∀ j, loose = some j ∨ loose' = some j →
      ∃ k n, t.pool.content j = some (true, k, n) ∧ k.bucket = b)
    (hlinks : ∀ j, loose ≠ some j → j ∉ chains b → t'.pool.links j = t.pool.links j)
    (hheads : ∀ b', b ≠ b' → t'.head b' = t.head b')
    (hseg : t'.pool.Segment none (t'.head b) l none)
    (hmem : ∀ j, j ∈ l ↔ loose' ≠ some j ∧ (loose = some j ∨ j ∈ chains b)) :
    t'.Layout free (Function.update chains b l) loose' := by
  have hfree : ∀ j ∈ free, t'.pool.links j = t.pool.links j := by
    intro j hj
    refine hlinks j ?_ (h.not_mem_chain_of_free hj)
    rintro rfl
    exact h.loose_not_mem_free hj
  refine
    { free_path := ?_, free_len := hr.freeLen.trans h.free_len, free_prev := fun j hj => ?_,
      mem_free := fun j => ?_, chain_seg := fun b' => ?_, mem_chain := fun b' j => ?_,
      loose_used := fun j hj => ?_ }
  · rw [hr.freeHead]
    exact h.free_path.frame hfree
  · rw [hfree j hj]
    exact h.free_prev j hj
  · rw [hr.content j]
    exact h.mem_free j
  · by_cases hb : b = b'
    · subst hb
      rw [Function.update_self]
      exact hseg
    · rw [Function.update_of_ne (Ne.symm hb), hheads b' hb]
      refine (h.chain_seg b').frame fun j hj => hlinks j ?_ (h.not_mem_chain hj (Ne.symm hb))
      rintro rfl
      exact h.loose_not_mem_chain hj
  · rw [hr.content j]
    by_cases hb : b = b'
    · subst hb
      rw [Function.update_self, hmem j]
      refine and_congr_right fun _ => ⟨?_, fun hc => ?_⟩
      · rintro (hj | hj)
        · exact hhand j (.inl hj)
        · exact ((h.mem_chain b j).1 hj).2
      · by_cases hj : loose = some j
        · exact .inl hj
        · exact .inr ((h.mem_chain b j).2 ⟨hj, hc⟩)
    · -- what is or was in hand belongs to the bucket `b`
      rw [Function.update_of_ne (Ne.symm hb), h.mem_chain b' j]
      refine and_congr_left fun ⟨k, n, hc, hk⟩ => ?_
      have hno : ¬ (loose = some j ∨ loose' = some j) := by
        intro hj
        obtain ⟨k', n', hc', rfl⟩ := hhand j hj
        rw [hc] at hc'
        simp at hc'
        exact hb (by rw [← hk, hc'.1])
      exact iff_of_true (fun e => hno (.inl e)) (fun e => hno (.inr e))
  · obtain ⟨k, n, hc, -⟩ := hhand j (.inr hj)
    exact ⟨k, n, (hr.content j).trans hc⟩

/-- **Putting the slot in hand at the head of its chain.** -/
theorem link (h : t.Layout free chains (some i)) {n : Nat}
    (hi : t.pool.content i = some (true, key, n)) :
    (t.link i key.bucket).Layout free
      (Function.update chains key.bucket (i :: chains key.bucket)) none := by
  have hhead := h.head_eq key.bucket
  have hnot : i ∉ chains key.bucket := h.loose_not_mem_chain
  refine h.rechain (relinks_link t i key.bucket) (fun j hj => ?_) (fun j hij hj => ?_)
    (fun b hb => head_link_of_ne t i hb) ?_ (fun j => ?_)
  · obtain rfl : i = j := by simpa using hj
    exact ⟨key, n, hi, rfl⟩
  · refine links_link_of_ne (by simpa using hij) fun e => hj ?_
    rw [hhead] at e
    exact List.mem_of_mem_head? e
  · -- the old head now comes from `i`, and `i` leads to it
    have hback := (h.chain_seg key.bucket).turn_first (h.nodup_chain key.bucket) (some i)
    rw [← hhead] at hback
    refine ⟨head_link_self t i key.bucket, t.head key.bucket, ?_, hback.frame fun j hj => ?_⟩
    · obtain ⟨s, hs, -⟩ := Pool.slot_of_content ((Pool.content_pointBack ..).trans hi)
      show (Pool.update _ i _).links i = _
      rw [Pool.links_update_self, hs, Option.map_some]
    · exact Pool.links_update_ne fun e => hnot (e ▸ hj)
  · simp [eq_comm]

/-- **Taking a slot off its chain into the hand.** -/
theorem unlink (h : t.Layout free chains none) {n : Nat}
    (hv : t.pool.content v = some (true, key, n)) :
    (t.unlink v).Layout free
      (Function.update chains key.bucket ((chains key.bucket).erase v)) (some v) := by
  obtain ⟨s, hs, -, rfl, -⟩ := Pool.slot_of_content hv
  have hvm : v ∈ chains s.backtrace.bucket := (h.mem_chain _ v).2 ⟨by simp, _, n, hv, rfl⟩
  have hnd := h.nodup_chain s.backtrace.bucket
  obtain ⟨pre, post, hsplit⟩ := List.append_of_mem hvm
  have herase : (chains s.backtrace.bucket).erase v = pre ++ post := by
    rw [hsplit] at hnd ⊢
    have hvpre : v ∉ pre := fun hm => (List.nodup_append.1 hnd).2.2 v hm v List.mem_cons_self rfl
    rw [List.erase_append_right _ hvpre, List.erase_cons_head]
  have hseg := h.chain_seg s.backtrace.bucket
  rw [hsplit] at hseg
  refine h.rechain (relinks_unlink t v) (fun j hj => ?_) (fun j _ hj => ?_) (fun b hb => ?_) ?_
    (fun j => ?_)
  · obtain rfl : v = j := by simpa using hj
    exact ⟨_, n, hv, rfl⟩
  · rw [hsplit] at hj
    exact links_unlink_of_ne hs hseg hj
  · rw [unlink_eq hs hseg]
    exact head_lead_of_ne t _ _ hb
  · rw [herase]
    exact segment_unlink hs hseg
  · rw [hnd.mem_erase_iff]
    simp [eq_comm]

/-- Rewriting what a slot records keeps the layout, as long as its links and its used flag stay, and
its backtrace too unless it is in hand. -/
theorem rewrite (h : t.Layout free chains loose) {f : Slot → Slot}
    (hl : ∀ s, (f s).prev = s.prev ∧ (f s).next = s.next) (hu : ∀ s, (f s).used = s.used)
    (hb : loose = some i ∨ ∀ s, (f s).backtrace = s.backtrace) :
    Layout { t with pool := t.pool.update i f } free chains loose := by
  have hlinks : ∀ j, (t.pool.update i f).links j = t.pool.links j := Pool.links_update_of_keep hl
  have hkind : ∀ j u, (∃ k n, (t.pool.update i f).content j = some (u, k, n)) ↔
      ∃ k n, t.pool.content j = some (u, k, n) := by
    intro j u
    by_cases hj : i = j
    · subst hj
      rw [Pool.content_update_self]
      unfold Pool.content
      cases t.pool.slots[i]? with
      | none => simp
      | some s => simp [hu]
    · rw [Pool.content_update_ne hj]
  refine
    { free_path := h.free_path.frame fun j _ => hlinks j, free_len := h.free_len,
      free_prev := fun j hj => ?_, mem_free := fun j => (h.mem_free j).trans (hkind j false).symm,
      chain_seg := fun b => (h.chain_seg b).frame fun j _ => hlinks j, mem_chain := fun b j => ?_,
      loose_used := fun j hj => (hkind j true).2 (h.loose_used j hj) }
  · obtain ⟨x, hx⟩ := h.free_prev j hj
    exact ⟨x, (hlinks j).trans hx⟩
  · rw [h.mem_chain b j]
    refine and_congr_right fun hj => ?_
    show _ ↔ ∃ k n, (t.pool.update i f).content j = some (true, k, n) ∧ k.bucket = b
    by_cases hij : i = j
    · subst hij
      rcases hb with hb | hb
      · exact absurd hb hj
      · rw [Pool.content_update_self]
        unfold Pool.content
        cases t.pool.slots[i]? with
        | none => simp
        | some s => simp [hu, hb]
    · rw [Pool.content_update_ne hij]

end Layout

/-! ## The ways through -/

theorem Writes.relink {p : Pool} {t t' : Table} {x : Bool × Backtrace × Nat}
    (h : Writes p t.pool i x) (hr : Relinks t t') : Writes p t'.pool i x :=
  ⟨(hr.content i).trans h.here, fun j hj => (hr.content j).trans (h.there j hj),
    hr.capacity.trans h.capacity, hr.depth.trans h.depth⟩

theorem writes_update {p : Pool} {x : Bool × Backtrace × Nat} {f : Slot → Slot}
    (hi : p.content i = some x) : ∃ s, p.slots[i]? = some s ∧
      Writes p (p.update i f) i ((f s).used, (f s).backtrace, (f s).count) := by
  obtain ⟨s, hs, -⟩ := Option.map_eq_some_iff.1 hi
  refine ⟨s, hs, ?_, fun j hj => Pool.content_update_ne (Ne.symm hj), Pool.size_update .., rfl⟩
  rw [Pool.content_update_self, hs, Option.map_some]

namespace Layout

/-- **Creating a slot**: the top free slot goes to the head of the chain of its new backtrace. -/
theorem create (h : t.Layout (i :: free) chains none) (key : Backtrace) :
    ∃ t', t.create key = some (i, t') ∧ Writes t.pool t'.pool i (true, key, 0) ∧
      t'.evictions = t.evictions ∧
      t'.Layout free (Function.update chains key.bucket (i :: chains key.bucket)) none := by
  obtain ⟨p, k, n, hpop, hw, hlay⟩ := h.pop
  have hassign := hlay.rewrite (i := i) (f := fun s => { s with backtrace := key, count := 0 })
    (by simp) (by simp) (.inl rfl)
  obtain ⟨s, hs, hw'⟩ := writes_update (f := fun s => { s with backtrace := key, count := 0 }) hw.here
  obtain ⟨s', hs', hused, -⟩ := Pool.slot_of_content hw.here
  obtain rfl : s = s' := Option.some.inj (hs.symm.trans hs')
  rw [hused] at hw'
  have hr := relinks_link { t with pool := p.update i fun s => { s with backtrace := key, count := 0 } }
    i key.bucket
  refine ⟨_, ?_, (hw.trans hw').relink hr, hr.evictions, hassign.link hw'.here⟩
  rw [Table.create, hpop]
  rfl

/-- **Evicting**: the least used slot leaves its chain for the top of the free stack. -/
theorem evict (h : t.Layout free chains none) (hv : t.pool.leastUsed = some v) {n : Nat}
    (hc : t.pool.content v = some (true, key, n)) :
    ∃ t' k' n', t.evict = some (t', n) ∧ Writes t.pool t'.pool v (false, k', n') ∧
      t'.evictions = t.evictions + 1 ∧
      t'.Layout (v :: free)
        (Function.update chains key.bucket ((chains key.bucket).erase v)) none := by
  have hr := relinks_unlink t v
  obtain ⟨k', n', hw, hlay⟩ := (h.unlink hc).release
  have hcount : t.countAt v = n := by
    obtain ⟨s, hs, -, -, hn⟩ := Pool.slot_of_content hc
    rw [countAt, hs, Option.map_some, Option.getD_some, hn]
  have hw₀ : Writes t.pool (t.unlink v).pool v (true, key, n) :=
    ⟨(hr.content v).trans hc, fun j _ => hr.content j, hr.capacity, hr.depth⟩
  refine ⟨{ t.unlink v with
    pool := (t.unlink v).pool.release v, evictions := (t.unlink v).evictions + 1 }, k', n', ?_,
    hw₀.trans hw, congrArg (· + 1) hr.evictions, ?_⟩
  · simp only [Table.evict, hv, Option.map_some, hcount]
  · exact ⟨hlay.free_path, hlay.free_len, hlay.free_prev, hlay.mem_free, hlay.chain_seg,
      hlay.mem_chain, hlay.loose_used⟩

/-- Counting keeps the layout. -/
theorem increment (h : t.Layout free chains none) (i : Nat) :
    (t.increment i).Layout free chains none :=
  h.rewrite (by simp) (by simp) (.inr (by simp))

end Layout

end Table

end StackSampler
