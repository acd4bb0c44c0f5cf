import StackSampler.Proofs.Store.Cells

/-!
# Looking up and placing backtraces

What a table does about one backtrace, said of its slots alone: neither buckets nor links come into it.
`Holds` says what a slot is in use for, `Keeps` that a backtrace fares as before.

* `Shows.inserts`: a new backtrace takes a free slot, or else the place of one other backtrace, and no
  further backtrace notices.
* `Shows.answers`: lookup and placement of any backtrace, found or new.
* `answers_served`: so it is for every table that requests lead to, whatever collided or was evicted on
  the way.
-/

namespace StackSampler

namespace Table

/-- The slot at `i` is in use for `key`, and counts `n`. -/
def Holds (t : Table) (i : Nat) (key : Backtrace) (n : Nat) : Prop :=
  ∃ s, t.pool.slots[i]? = some s ∧ s.used = true ∧ s.backtrace = key ∧ s.count = n

/-- From `t` to `t'` a backtrace keeps its slot and its count, or still has none. -/
structure Keeps (t t' : Table) (k : Backtrace) : Prop where
  find : t'.find k = t.find k
  holds : ∀ i n, t'.Holds i k n ↔ t.Holds i k n

/-- **What placing a new backtrace does** in a table of `N` slots. -/
structure Inserts (t : Table) (N : Nat) (key : Backtrace) (p : Placement) : Prop where
  holds : p.table.Holds p.index key 0
  find : p.table.find key = some p.index
  /-- With a slot to spare, nothing happens to any other backtrace. -/
  room : t.pool.used.length ≠ N → p.spilled = 0 ∧ p.table.evictions = t.evictions ∧
    ∀ k, k ≠ key → t.Keeps p.table k
  /-- When all slots are in use, exactly one backtrace is lost: that of the first slot of least count.
  Its count is spilled. -/
  full : t.pool.used.length = N → p.table.evictions = t.evictions + 1 ∧
    Pool.FirstLeast t.pool.slots.toList p.index p.spilled ∧
    ∃ lost, t.Holds p.index lost p.spilled ∧ p.table.find lost = none ∧
      ∀ k, k ≠ key → k ≠ lost → t.Keeps p.table k

/-- **What a table of `N` slots answers** when a backtrace is looked up or placed. -/
structure Answers (t : Table) (N : Nat) (key : Backtrace) : Prop where
  /-- A lookup finds the used slot that has the backtrace. -/
  find_iff : ∀ i, t.find key = some i ↔ ∃ n, t.Holds i key n
  /-- There is no second one. -/
  one : ∀ i j m n, t.Holds i key m → t.Holds j key n → i = j
  /-- There always is a slot for it, which is the one that a lookup finds, if there is one, in the
  same table. -/
  place : ∃ p, t.place key = some p ∧ (∀ i, t.find key = some i → p = ⟨i, t, 0⟩) ∧
    (t.find key = none → t.Inserts N key p)

variable {t t' : Table} {cells cells' : Keyed} {i v n : Nat} {key k : Backtrace}

theorem holds_iff_content : t.Holds i key n ↔ t.pool.content i = some (true, key, n) := by
  constructor
  · rintro ⟨s, hs, hused, rfl, rfl⟩
    rw [Pool.content_of_slot hs, hused]
  · exact Pool.slot_of_content

/-! ## Cells -/

namespace Shows

theorem holds_iff (h : t.Shows cells) : t.Holds i k n ↔ cells[i]? = some (k, n) :=
  holds_iff_content.trans h.content_iff

theorem find_iff (h : t.Shows cells) : t.find k = some i ↔ ∃ n, t.Holds i k n := by
  constructor
  · intro hfind
    obtain ⟨chains, hlayout⟩ := h.layout
    obtain ⟨n, hcontent⟩ := hlayout.content_of_find hfind
    exact ⟨n, holds_iff_content.2 hcontent⟩
  · rintro ⟨n, hholds⟩
    exact h.find_of_cell (h.holds_iff.1 hholds)

theorem used_length (h : t.Shows cells) : t.pool.used.length = cells.length := by
  rw [← h.used_eq, List.length_map]

/-- A backtrace that has the same cells before and after. -/
theorem keeps (h : t.Shows cells) (h' : t'.Shows cells')
    (hsame : ∀ (i n : Nat), cells'[i]? = some (k, n) ↔ cells[i]? = some (k, n)) : t.Keeps t' k := by
  have hholds (i n : Nat) : t'.Holds i k n ↔ t.Holds i k n := by
    rw [h.holds_iff, h'.holds_iff, hsame]
  refine ⟨Option.ext fun i => ?_, hholds⟩
  rw [h.find_iff, h'.find_iff]
  exact exists_congr fun n => hholds i n

/-- The first cell of least count is the first slot of least count. -/
theorem firstLeast (h : t.Shows cells) (hv : cells.Victim v k n) :
    Pool.FirstLeast t.pool.slots.toList v n := by
  obtain ⟨s, hs, hused, hcell⟩ := h.slot_of_cell hv.here
  refine ⟨⟨s, hs, hused, congrArg Prod.snd hcell⟩, fun j x hx hxused => ?_,
    fun j x hx hxused hlt => ?_⟩
  · exact hv.least _ (List.mem_of_getElem? (h.cell_of_slot hx hxused))
  · exact hv.first j _ (h.cell_of_slot hx hxused) hlt

/-! ## Placing -/

/-- **A new backtrace** gets a free slot, or the first one of least count. -/
theorem inserts (h : t.Shows cells) (hcap : 0 < t.pool.capacity) (hk : key ∉ cells.keys) :
    ∃ p, t.place key = some p ∧ t.Inserts t.pool.capacity key p := by
  have hused := h.used_length
  have hle := h.le
  by_cases hroom : cells.length < t.pool.capacity
  · obtain ⟨t', hplace, hshows, -, hevictions⟩ := h.place_fresh hk hroom
    have hnew : t'.Holds cells.length key 0 :=
      hshows.holds_iff.2 (List.getElem?_concat_length ..)
    refine ⟨_, hplace, hnew, hshows.find_iff.2 ⟨0, hnew⟩, fun _ => ⟨rfl, hevictions, fun k hne => ?_⟩,
      fun hfull => by omega⟩
    -- the new cell is behind all others
    refine h.keeps hshows fun i n => ?_
    rw [List.getElem?_append]
    split
    · exact Iff.rfl
    · next hi =>
      rw [List.getElem?_eq_none (Nat.le_of_not_lt hi), List.getElem?_singleton]
      split <;> simp [Ne.symm hne]
  · have hnil : cells ≠ [] := by
      rintro rfl
      exact hroom hcap
    obtain ⟨t', v, lost, n, hplace, hvictim, hshows, -, hevictions⟩ :=
      h.place_full hk (Nat.le_of_not_lt hroom) hnil
    have hv := (List.getElem?_eq_some_iff.1 hvictim.here).1
    have hnew : t'.Holds v key 0 := hshows.holds_iff.2 (List.getElem?_set_self hv)
    refine ⟨_, hplace, hnew, hshows.find_iff.2 ⟨0, hnew⟩, fun hroom => by omega,
      fun _ => ⟨hevictions, h.firstLeast hvictim, lost, h.holds_iff.2 hvictim.here, ?_,
        fun k hne hlost => ?_⟩⟩
    · have hlost : key ≠ lost := by
        rintro rfl
        exact hk (Keyed.mem_keys_of_mem (List.mem_of_getElem? hvictim.here))
      exact hshows.find_of_notMem (Keyed.notMem_keys_set h.nodup hvictim.here hlost)
    · refine h.keeps hshows fun i n => ?_
      by_cases hvi : v = i
      · subst hvi
        rw [List.getElem?_set_self hv, hvictim.here]
        simp [Ne.symm hne, Ne.symm hlost]
      · rw [List.getElem?_set_ne hvi]

/-- **Lookup and placement** of any backtrace. -/
theorem answers (h : t.Shows cells) (hcap : 0 < t.pool.capacity) (key : Backtrace) :
    t.Answers t.pool.capacity key := by
  refine ⟨fun i => h.find_iff, fun i j m n hi hj => ?_, ?_⟩
  · exact Keyed.index_unique h.nodup (h.holds_iff.1 hi) (h.holds_iff.1 hj)
  · by_cases hk : key ∈ cells.keys
    · obtain ⟨i, n, hi⟩ := Keyed.exists_of_mem_keys hk
      have hfind := h.find_of_cell hi
      refine ⟨_, h.place_hit hi, fun j hj => ?_, fun hnone => ?_⟩
      · rw [Option.some.inj (hfind.symm.trans hj)]
      · rw [hfind] at hnone
        cases hnone
    · obtain ⟨p, hplace, hinserts⟩ := h.inserts hcap hk
      refine ⟨p, hplace, fun i hi => ?_, fun _ => hinserts⟩
      rw [h.find_of_notMem hk] at hi
      cases hi

end Shows

/-! ## Requests -/

/-- The calls that change a table. -/
inductive Request where
  | place (key : Backtrace)
  /-- Counts in a slot, be it in use or free. -/
  | increment (i : Nat)

/-- The table after a call. -/
def serve (t : Table) : Request → Table
  | .place key => (t.place key).elim t Placement.table
  | .increment i => t.increment i

/-- Counting in a free slot shows nowhere: its count is set anew when it is taken. -/
theorem Shows.increment_free (h : t.Shows cells) (hi : cells.length ≤ i) :
    (t.increment i).Shows cells := by
  obtain ⟨chains, hlayout⟩ := h.layout
  have hcapacity : (t.increment i).pool.capacity = t.pool.capacity := Pool.size_update ..
  refine ⟨hcapacity ▸ h.le, fun j c hj => ?_, ⟨chains, hcapacity ▸ hlayout.increment i⟩, h.nodup⟩
  have hlt := (List.getElem?_eq_some_iff.1 hj).1
  exact (Pool.content_update_ne (by omega)).trans (h.content j c hj)

/-- **One request** leads from cells to cells. -/
theorem Shows.serve (h : t.Shows cells) (hcap : 0 < t.pool.capacity) (r : Request) :
    (∃ cells', (t.serve r).Shows cells') ∧ (t.serve r).pool.capacity = t.pool.capacity := by
  cases r with
  | place key =>
    obtain ⟨p, cells', hplace, hshows, hcapacity, -⟩ := h.place hcap key
    rw [Table.serve, hplace]
    exact ⟨⟨cells', hshows⟩, hcapacity⟩
  | increment i =>
    refine ⟨?_, Pool.size_update ..⟩
    by_cases hi : i < cells.length
    · exact ⟨_, (h.increment (List.getElem?_eq_getElem hi)).1⟩
    · exact ⟨cells, h.increment_free (Nat.le_of_not_lt hi)⟩

theorem Shows.served (h : t.Shows cells) (hcap : 0 < t.pool.capacity) (rs : List Request) :
    (∃ cells', (rs.foldl Table.serve t).Shows cells') ∧
      (rs.foldl Table.serve t).pool.capacity = t.pool.capacity := by
  induction rs generalizing t cells with
  | nil => exact ⟨⟨cells, h⟩, rfl⟩
  | cons r rs ih =>
    obtain ⟨⟨cells', hnext⟩, hcapacity⟩ := h.serve hcap r
    obtain ⟨hlast, hcapacity'⟩ := ih hnext (hcapacity ▸ hcap)
    exact ⟨hlast, hcapacity'.trans hcapacity⟩

/-- **A table that served any requests** finds exactly the backtraces that its used slots have, finds a
slot for every other, and takes it away from one backtrace at most. -/
theorem answers_served {N : Nat} (hN : 0 < N) (D : Nat) (rs : List Request) (key : Backtrace) :
    (rs.foldl serve (Table.new N D)).Answers N key := by
  have hsize : (Table.new N D).pool.capacity = N := by simp [Table.new, Pool.new, Pool.capacity]
  obtain ⟨⟨cells, hshows⟩, hkept⟩ := (Shows.new N D).served (by rw [hsize]; exact hN) rs
  have hcapacity := hkept.trans hsize
  have hanswers := hshows.answers (by rw [hcapacity]; exact hN) key
  rwa [hcapacity] at hanswers

/-- Four backtraces of one bucket for three slots. The one in the middle of the chain counts nothing, so
it has to go; a count that was set down in its slot before is forgotten. -/
theorem answers_in_one_chain :
    let rs : List Request :=
      [.place [⟨5⟩], .increment 0, .increment 1, .place [⟨17⟩], .place [⟨149⟩], .increment 2]
    let t := rs.foldl serve (Table.new 3 1)
    0 < 3 ∧ t.chain (Backtrace.bucket [⟨196⟩]) = [2, 1, 0] ∧ t.find [⟨196⟩] = none ∧
      t.find [⟨17⟩] = some 1 ∧ t.countAt 1 = 0 ∧ t.Answers 3 [⟨196⟩] ∧ t.Answers 3 [⟨17⟩] := by
  refine ⟨by decide, by decide +kernel, by decide +kernel, by decide +kernel, by decide +kernel, ?_, ?_⟩
  · exact answers_served (by decide) 1 _ _
  · exact answers_served (by decide) 1 _ _

end Table

end StackSampler
