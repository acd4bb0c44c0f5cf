import StackSampler.Proofs.Store.FreeStack

/-!
# Links as words

A pool may keep its links in words of 32 bits, of which the largest stands for "no link". A slot that had
this index could not be told from none, so the pool has fewer slots than that. Then the words of a pool
go through every run of calls as the pool itself does, however near the capacity comes to the largest
word.

* `Pool.words`: a pool with its links in words; `WordPool.call` is one call on such a pool.
* `Stacked.words_call`: calls on a pool and on its words go together.
* `Pool.free_slots_stack`: the law of the free slots, over any run and in words too.
-/

namespace StackSampler

/-- A slot with its links in words. -/
structure WordSlot where
  backtrace : Backtrace
  count : Nat
  used : Bool
  next : UInt32
  prev : UInt32

/-- A pool with its links in words. -/
structure WordPool where
  slots : Array WordSlot
  freeHead : UInt32
  freeLen : Nat
  depth : Nat

namespace WordPool

/-- The word for no link. -/
def noLink : UInt32 := 4294967295

/-- The word of a link. -/
def link : Option Nat → UInt32
  | none => noLink
  | some i => .ofNat i

/-- `capacity` free slots, each under the one before it; the top is the first. -/
def new (capacity depth : Nat) : WordPool :=
  { slots := Array.ofFn fun i : Fin capacity =>
      { backtrace := .blank depth, count := 0, used := false
        next := if i.val + 1 < capacity then .ofNat (i.val + 1) else noLink
        prev := noLink }
    freeHead := 0
    freeLen := capacity
    depth := depth }

variable (p : WordPool)

def update (i : UInt32) (f : WordSlot → WordSlot) : WordPool :=
  { p with slots := p.slots.modify i.toNat f }

/-- Takes the top of the free stack into use, unless the head is no link. -/
def pop : Option UInt32 × WordPool :=
  if p.freeHead = noLink then (none, p)
  else
    let i := p.freeHead
    let next := (p.slots[i.toNat]?.map WordSlot.next).getD noLink
    let taken := p.update i fun s => { s with used := true, next := noLink, prev := noLink }
    (some i, { taken with freeHead := next, freeLen := p.freeLen - 1 })

def release (i : UInt32) : WordPool :=
  let given := p.update i fun s => { s with used := false, prev := noLink, next := p.freeHead }
  { given with freeHead := i, freeLen := p.freeLen + 1 }

/-- One call, and the slot that it hands out. -/
def call (p : WordPool) : PoolCall → Option UInt32 × WordPool
  | .pop => p.pop
  | .release i => (none, p.release (.ofNat i))
  | .write i backtrace count next prev =>
    (none, p.update (.ofNat i) fun s =>
      { s with backtrace, count, next := link next, prev := link prev })

end WordPool

def Slot.words (s : Slot) : WordSlot :=
  { backtrace := s.backtrace, count := s.count, used := s.used
    next := WordPool.link s.next, prev := WordPool.link s.prev }

namespace Pool

/-- A pool with its links in words. -/
def words (p : Pool) : WordPool :=
  { slots := p.slots.map Slot.words, freeHead := WordPool.link p.freeHead
    freeLen := p.freeLen, depth := p.depth }

variable {p : Pool} {N D i : Nat} {free : List Nat} {c : PoolCall} {calls : List PoolCall}

/-! ## The words of indices -/

/-- Below the largest word every index has a word of its own, which is not the one for no link. -/
theorem toNat_link (hi : i < WordPool.noLink.toNat) :
    (UInt32.ofNat i).toNat = i ∧ UInt32.ofNat i ≠ WordPool.noLink := by
  have hword : WordPool.noLink.toNat = 4294967295 := rfl
  have hsize : i < UInt32.size := by
    simp only [UInt32.size]
    omega
  have htoNat : (UInt32.ofNat i).toNat = i := UInt32.toNat_ofNat_of_lt' hsize
  refine ⟨htoNat, ?_⟩
  intro heq
  rw [heq] at htoNat
  omega

theorem map_modify_words (slots : Array Slot) (i : Nat) {f : Slot → Slot}
    {g : WordSlot → WordSlot} (hfg : ∀ s, (f s).words = g s.words) :
    (slots.modify i f).map Slot.words = (slots.map Slot.words).modify i g := by
  apply Array.ext_getElem?
  intro j
  simp only [Array.getElem?_map, Array.getElem?_modify]
  by_cases hij : i = j
  · simp [hij, Function.comp_def, hfg]
  · simp [hij]

/-- Changing a slot, in words. -/
theorem words_update (hi : i < WordPool.noLink.toNat) {f : Slot → Slot} {g : WordSlot → WordSlot}
    (hfg : ∀ s, (f s).words = g s.words) :
    (p.update i f).words = p.words.update (.ofNat i) g := by
  have htoNat := (toNat_link hi).1
  simp only [words, update, WordPool.update, htoNat, map_modify_words p.slots i hfg]

/-! ## Calls -/

theorem words_new (hpos : 1 ≤ N) : (Pool.new N D).words = WordPool.new N D := by
  have hslots : (Pool.new N D).slots.map Slot.words = (WordPool.new N D).slots := by
    simp only [Pool.new, WordPool.new, Array.map_ofFn]
    congr 1
    funext i
    by_cases hlast : i.val + 1 < N
    · simp [Slot.words, WordPool.link, hlast]
    · simp [Slot.words, WordPool.link, hlast]
  have hhead : (Pool.new N D).freeHead = some 0 := by
    simp only [Pool.new]
    rw [if_neg (by omega)]
  rw [words, hslots, hhead]
  rfl

namespace Stacked

theorem words_pop (h : p.Stacked N free) (hN : N < WordPool.noLink.toNat) :
    p.words.call .pop = ((p.call .pop).1.map .ofNat, (p.call .pop).2.words) := by
  cases free with
  | nil =>
    have hhead : p.freeHead = none := h.path
    have hword : p.words.freeHead = WordPool.noLink := by rw [words, hhead]; rfl
    simp only [WordPool.call, WordPool.pop, Pool.call, h.pop_nil, hword, if_true]
    rfl
  | cons i free =>
    have hlt := h.lt_of_mem (i := i) List.mem_cons_self
    obtain ⟨htoNat, hlink⟩ := toNat_link (i := i) (by omega)
    have hhead : p.freeHead = some i := h.path.1
    have hword : p.words.freeHead = .ofNat i := by rw [words, hhead]; rfl
    have hnext : (p.words.slots[i]?.map WordSlot.next).getD WordPool.noLink =
        WordPool.link (p.nextOf i) := by
      simp only [words, Array.getElem?_map, nextOf]
      cases p.slots[i]? with
      | none => rfl
      | some s => rfl
    have hupdate := words_update (p := p) (i := i) (by omega)
      (f := fun s => { s with used := true, next := none, prev := none })
      (g := fun s => { s with used := true, next := WordPool.noLink, prev := WordPool.noLink })
      fun _ => rfl
    simp only [WordPool.call, WordPool.pop, hword, if_neg hlink, htoNat, hnext, ← hupdate]
    simp only [Pool.call, Pool.pop, hhead]
    rfl

/-- **A call on a pool and on its words**: the answers are alike, and so is what is left. -/
theorem words_call (h : p.Stacked N free) (hN : N < WordPool.noLink.toNat) (hc : c.Allowed p) :
    p.words.call c = ((p.call c).1.map .ofNat, (p.call c).2.words) := by
  have hbelow : ∀ {i}, p.isUsed i = true → i < WordPool.noLink.toNat := by
    intro i hi
    have hlt := ((h.used i).1 hi).1
    omega
  cases c with
  | pop => exact h.words_pop hN
  | release i =>
    have hupdate := words_update (p := p) (hbelow hc)
      (f := fun s => { s with used := false, prev := none, next := p.freeHead })
      (g := fun s => { s with used := false, prev := WordPool.noLink, next := p.words.freeHead })
      fun _ => rfl
    simp only [WordPool.call, WordPool.release, ← hupdate]
    rfl
  | write i backtrace count next prev =>
    have hupdate := words_update (p := p) (hbelow hc)
      (f := fun s => { s with backtrace, count, next, prev })
      (g := fun s => { s with
        backtrace, count, next := WordPool.link next, prev := WordPool.link prev })
      fun _ => rfl
    simp only [WordPool.call, ← hupdate]
    rfl

/-- **A run of calls in words.** -/
theorem words_exchanged (h : p.Stacked N free) (hN : N < WordPool.noLink.toNat)
    (hcalls : Allows PoolCall.Allowed Pool.call p calls) :
    exchange WordPool.call p.words calls =
      ((exchange Pool.call p calls).1.map (Option.map .ofNat), (exchange Pool.call p calls).2.words) := by
  have hstep : ∀ (p : Pool) (w : WordPool) (c : PoolCall),
      ((∃ free, p.Stacked N free) ∧ w = p.words) → c.Allowed p →
        (w.call c).1 = (p.call c).1.map .ofNat ∧
          (∃ free, (p.call c).2.Stacked N free) ∧ (w.call c).2 = (p.call c).2.words := by
    rintro p w c ⟨⟨free, h⟩, rfl⟩ hc
    have hwords := h.words_call hN hc
    have hnext := (h.call hc).2
    rw [hwords]
    exact ⟨rfl, ⟨_, hnext⟩, rfl⟩
  obtain ⟨hanswers, -, hlast⟩ := exchange_simulates _ hstep ⟨⟨free, h⟩, rfl⟩ hcalls
  exact Prod.ext hanswers hlast

end Stacked

/-! ## The law -/

/-- **A pool of `N` slots with a stack of free ones**, `free`, after some calls. -/
structure Stands (N D : Nat) (calls : List PoolCall) (p : Pool) (free : List Nat) : Prop where
  /-- The thread through the free slots is the stack, holds no slot twice, and stays in the pool. -/
  thread : p.freeStack = free
  nodup : free.Nodup
  lt : ∀ i ∈ free, i < N
  freeLen : p.freeLen = free.length
  usedLen : p.usedLen = N - free.length
  isUsed : ∀ i, i < N → (p.isUsed i = true ↔ i ∉ free)
  /-- Only the holder of a slot has changed its record. -/
  recorded : ∀ i, i < N →
    p.recorded i = some (calls.foldl (fun r c => c.onRecord i r) (.blank D, 0))
  /-- The slots in use, in ascending order. -/
  used : p.used = ((List.range N).filter fun i => i ∉ free).filterMap fun i => p.slots[i]?

theorem recorded_new (hi : i < N) : (Pool.new N D).recorded i = some (.blank D, 0) := by
  simp [recorded, Pool.new, hi]

theorem stands_exchanged (hcalls : Allows PoolCall.Allowed Pool.call (Pool.new N D) calls) :
    Stands N D calls (exchange Pool.call (Pool.new N D) calls).2
      (exchange PoolCall.onStack (List.range N) calls).2 := by
  have hnew := stacked_new N D
  have hstacked := (hnew.exchanged hcalls).2
  refine
    { thread := hstacked.freeStack_eq, nodup := hstacked.nodup, lt := fun i => hstacked.lt_of_mem
      freeLen := hstacked.freeLen, usedLen := hstacked.usedLen_eq, isUsed := ?_, recorded := ?_
      used := hstacked.used_eq }
  · intro i hi
    rw [hstacked.used i]
    simp [hi]
  · intro i hi
    have hrecorded := hnew.recorded_exchange hcalls i
    rw [recorded_new hi] at hrecorded
    exact hrecorded

/-- **The free slots are a stack**, with 0 on top of 1 and so on at first. For every capacity whose
indices leave a word of 32 bits for "no link", and every run of calls: the pool answers what the stack
answers and stands as it does, no slot is handed out again before it is given back, and with its links in
words the pool does the same. -/
theorem free_slots_stack (hpos : 1 ≤ N) (hN : N < WordPool.noLink.toNat) (D : Nat)
    (calls : List PoolCall) (hcalls : Allows PoolCall.Allowed Pool.call (Pool.new N D) calls) :
    let run := exchange Pool.call (Pool.new N D) calls
    let stack := exchange PoolCall.onStack (List.range N) calls
    run.1 = stack.1 ∧ Stands N D calls run.2 stack.2 ∧
      (∀ (i a b : Nat), a < b → run.1[a]? = some (some i) → run.1[b]? = some (some i) →
        ∃ k, a < k ∧ k < b ∧ calls[k]? = some (PoolCall.release i)) ∧
      exchange WordPool.call (WordPool.new N D) calls = (run.1.map (Option.map .ofNat), run.2.words) := by
  intro run stack
  have hnew := stacked_new N D
  have hanswers := (hnew.exchanged hcalls).1
  have hwords := hnew.words_exchanged hN hcalls
  rw [words_new hpos] at hwords
  refine ⟨hanswers, stands_exchanged hcalls, ?_, hwords⟩
  intro i a b hab ha hb
  exact hnew.handed_anew hcalls hab ha hb

/-- Three slots: two are taken and written, the first is given back and taken again, and all are gone. -/
theorem free_slots_stack_three :
    let calls : List PoolCall :=
      [.pop, .pop, .write 1 [⟨7⟩] 5 (some 0) none, .write 0 [⟨8⟩] 2 none (some 1), .release 0, .pop,
        .pop, .pop]
    let run := exchange Pool.call (Pool.new 3 1) calls
    1 ≤ 3 ∧ 3 < WordPool.noLink.toNat ∧ Allows PoolCall.Allowed Pool.call (Pool.new 3 1) calls ∧
      run.1 = [some 0, some 1, none, none, none, some 0, some 2, none] ∧ Stands 3 1 calls run.2 [] ∧
      run.2.recorded 0 = some ([⟨8⟩], 2) := by
  intro calls run
  have hcalls : Allows PoolCall.Allowed Pool.call (Pool.new 3 1) calls :=
    ⟨trivial, trivial, rfl, rfl, rfl, trivial, trivial, trivial, trivial⟩
  obtain ⟨hanswers, hstands, -⟩ := free_slots_stack (by decide) (by decide) 1 calls hcalls
  exact ⟨by decide, by decide, hcalls, hanswers.trans rfl, hstands, hstands.recorded 0 (by decide)⟩

end Pool

end StackSampler
