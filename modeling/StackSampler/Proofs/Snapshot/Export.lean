import StackSampler.Proofs.Store.Portion
import StackSampler.Snapshot.Export

/-!
# What a snapshot shows of a store

A store that counted captured backtraces is exported cell by cell, so everything in its snapshot can be
read off the backtraces: `Store.Matches.exported`.
-/

namespace StackSampler

/-! ## Cutting at the first absent frame -/

theorem Backtrace.isAbsent_iff {f : FrameId} : f.isAbsent = true ↔ f = FrameId.absent := by
  unfold FrameId.isAbsent
  exact beq_iff_eq

/-- What starts with a frame is not cut to nothing, and the other way around. -/
theorem Backtrace.starts_iff_named (b : Backtrace) : b.starts = true ↔ b.named ≠ [] := by
  cases b with
  | nil => simp [starts, named]
  | cons f b =>
    unfold starts named
    by_cases hf : f = FrameId.absent
    · simp [hf, isAbsent_iff.2]
    · have : f.isAbsent = false := by
        rw [← Bool.not_eq_true, isAbsent_iff]
        exact hf
      simp [hf, this]

/-- Padding is cut off again. -/
theorem Backtrace.named_fit {depth : Nat} {b : Backtrace} (h : b.length ≤ depth) :
    (b.fit depth).named = b.named := by
  unfold fit named
  rw [List.take_of_length_le h, List.takeWhile_append]
  split
  · next hall =>
    have hpad : (List.replicate (depth - b.length) FrameId.absent).takeWhile (fun f => !f.isAbsent) =
        [] := by
      cases depth - b.length with
      | zero => rfl
      | succ n => rfl
    rw [hpad, List.append_nil]
    exact (List.takeWhile_prefix _).eq_of_length hall |>.symm
  · rfl

theorem Backtrace.starts_fit {depth : Nat} {b : Backtrace} (h : b.length ≤ depth) :
    (b.fit depth).starts = b.starts := by
  rw [Bool.eq_iff_iff, starts_iff_named, starts_iff_named, named_fit h]

/-! ## Entries -/

/-- Frames that are all functions are not the mark of the overflow entry. -/
theorem Entry.isOverflow_functions {φ : Type} (names : List φ) (count : Nat) :
    (⟨names.map .function, count⟩ : Entry φ).isOverflow = false := by
  match names with
  | [] | [_] | _ :: _ :: _ => rfl

namespace Snapshot

variable {store : Option Store} {mode : Mode} {startTime : Option Instant} {stopTime : Instant}
  {interval : Option Span}

theorem overflowCount_ofStore :
    (ofStore store mode startTime stopTime interval).overflowCount = store.elim 0 Store.others := by
  cases store <;> rfl

theorem stackEntries_ofStore :
    (ofStore store mode startTime stopTime interval).stackEntries =
      (store.elim [] Store.used).map Slot.entry := by
  cases store with
  | none => rfl
  | some st =>
    have hstacks : (st.used.map Slot.entry).filter (fun e => !e.isOverflow) = st.used.map Slot.entry := by
      refine List.filter_eq_self.2 fun e he => ?_
      obtain ⟨slot, -, rfl⟩ := List.mem_map.1 he
      rw [Slot.entry, Entry.isOverflow_functions]
      rfl
    show (Entry.overflow st.others :: st.used.map Slot.entry).filter _ = _
    rw [List.filter_cons_of_neg (by simp [Entry.isOverflow, Entry.overflow]), hstacks]
    rfl

theorem samples_ofStore :
    (ofStore store mode startTime stopTime interval).samples = store.elim 0 Store.total := by
  cases store <;> rfl

end Snapshot

/-- The entry of a cell. -/
def Keyed.entry (c : Backtrace × Nat) : Entry FrameId := ⟨c.1.named.map .function, c.2⟩

/-- What the entries with the function frames `f` count. -/
def Snapshot.countOf (s : Snapshot FrameId) (f : List FrameId) : Nat :=
  total ((s.entries.filter fun e => e.frames = f.map .function).map Entry.count)

/-- **An entry of a stack**: function frames only, at least one and at most `depth` of them, and at
least one sample. -/
structure Entry.OfStack (depth : Nat) (e : Entry FrameId) : Prop where
  functions : ∃ f : List FrameId, e.frames = f.map .function
  nonempty : e.frames ≠ []
  short : e.frames.length ≤ depth
  counted : 1 ≤ e.count

/-- **What a snapshot shows** of backtraces that were captured. -/
structure Snapshot.Shows (depth : Nat) (seen : List Backtrace) (st : Store)
    (s : Snapshot FrameId) : Prop where
  samples : s.samples = seen.countP Backtrace.starts
  overflow : s.entries.head? = some (.overflow st.others)
  /-- Behind the overflow entry there is no other. -/
  rest : ∀ e ∈ s.entries.tail, e.isOverflow = false ∧ e.OfStack depth
  total : s.entriesTotal = s.samples
  countOf_le : ∀ f, f ≠ [] → s.countOf f ≤ seen.countP fun b => b.named = f
  /-- Without evictions nothing is missing. -/
  countOf_eq : st.evictions = 0 → ∀ f, f ≠ [] → s.countOf f = seen.countP fun b => b.named = f

theorem map_function_injective {f g : List FrameId} (h : f.map Frame.function = g.map .function) :
    f = g :=
  List.map_injective_iff.2 (fun _ _ h => Frame.function.inj h) h

namespace Store.Matches

variable {st : Store} {c : Config} {r : Tally}

theorem entries_eq (h : st.Matches c r) :
    exportedEntries (some st) = .overflow st.others :: r.cells.map Keyed.entry := by
  have hentry : st.used.map Slot.entry = r.cells.map Keyed.entry := by
    rw [← h.used_eq, List.map_map]
    rfl
  rw [exportedEntries, hentry]

theorem entry_ofStack (h : st.Matches c r) {cell : Backtrace × Nat} (hcell : cell ∈ r.cells)
    (hlen : cell.1.length = c.depth) :
    (Keyed.entry cell).isOverflow = false ∧ (Keyed.entry cell).OfStack c.depth := by
  have hnamed : cell.1.named ≠ [] := (Backtrace.starts_iff_named _).1 (h.ok.starts cell hcell)
  refine ⟨Entry.isOverflow_functions _ _, ⟨cell.1.named, rfl⟩, by simpa [Keyed.entry] using hnamed, ?_,
    h.ok.pos cell hcell⟩
  rw [Keyed.entry, List.length_map, ← hlen]
  exact (List.takeWhile_sublist _).length_le

theorem countOf_eq_massOf (h : st.Matches c r) {s : Snapshot FrameId}
    (hentries : s.entries = exportedEntries (some st)) {f : List FrameId} (hf : f ≠ []) :
    s.countOf f = r.cells.massOf fun b => b.named = f := by
  have hoverflow : ¬(Entry.overflow st.others : Entry FrameId).frames = f.map .function := by
    cases f with
    | nil => exact absurd rfl hf
    | cons x f => simp [Entry.overflow]
  have hentry (cell : Backtrace × Nat) :
      ((Keyed.entry cell).frames = f.map .function) = (cell.1.named = f) :=
    propext ⟨map_function_injective, fun heq => congrArg (List.map Frame.function) heq⟩
  rw [Snapshot.countOf, hentries, h.entries_eq, List.filter_cons_of_neg (by simpa using hoverflow),
    List.filter_map, List.map_map, Keyed.massOf, Keyed.mass]
  simp only [Function.comp_def, hentry]
  rfl

theorem total_entries (h : st.Matches c r) :
    StackSampler.total ((exportedEntries (some st)).map Entry.count) = st.total := by
  have hcounts : (r.cells.map Keyed.entry).map Entry.count = r.cells.map Prod.snd := by
    rw [List.map_map]
    rfl
  have hmass := h.ok.mass
  unfold Keyed.mass at hmass
  rw [h.entries_eq, List.map_cons, hcounts, total_cons, h.total, ← hmass, ← h.others, Nat.add_comm]
  rfl

/-- Samples of captured backtraces that show `f` are all counted. -/
theorem countP_accepted {depth : Nat} {seen : List Backtrace} (hseen : ∀ b ∈ seen, b.length ≤ depth)
    {f : List FrameId} (hf : f ≠ []) :
    (Tally.accepted (seen.map (Backtrace.fit depth))).countP (fun b => b.named = f) =
      seen.countP fun b => b.named = f := by
  rw [Tally.accepted, List.countP_filter, List.countP_map]
  refine List.countP_congr fun b hb => ?_
  rw [Function.comp_apply, Backtrace.named_fit (hseen b hb), Backtrace.starts_fit (hseen b hb),
    Bool.and_eq_true, decide_eq_true_eq, Backtrace.starts_iff_named]
  exact ⟨And.left, fun heq => ⟨heq, heq ▸ hf⟩⟩

/-- **The snapshot of a store** that counted captured backtraces. -/
theorem exported {seen : List Backtrace} (hpos : 0 < c.slots) (hseen : ∀ b ∈ seen, b.length ≤ c.depth)
    (h : st.Matches c (Tally.after c.slots (seen.map (Backtrace.fit c.depth)))) {s : Snapshot FrameId}
    (hsamples : s.samples = st.total) (hentries : s.entries = exportedEntries (some st)) :
    s.Shows c.depth seen st := by
  have htracks := Tally.after_tracks hpos (seen.map (Backtrace.fit c.depth))
  have hportion := fun f => Tally.after_massOf hpos (fun b => b.named = f)
    (seen.map (Backtrace.fit c.depth))
  have hcells := hentries.trans h.entries_eq
  refine ⟨?_, ?_, ?_, ?_, fun f hf => ?_, fun hkept f hf => ?_⟩
  · rw [hsamples, h.total, htracks.total, Tally.accepted, ← List.countP_eq_length_filter,
      List.countP_map]
    exact List.countP_congr fun b hb => by rw [Function.comp_apply, Backtrace.starts_fit (hseen b hb)]
  · rw [hcells, List.head?_cons]
  · rw [hcells, List.tail_cons]
    intro e he
    obtain ⟨cell, hcell, rfl⟩ := List.mem_map.1 he
    -- a cell holds a captured backtrace, which was padded
    have hheld := htracks.seen (List.mem_map_of_mem hcell)
    have hkey := List.mem_of_mem_filter hheld
    obtain ⟨b, -, hb⟩ := List.mem_map.1 hkey
    exact h.entry_ofStack hcell (hb ▸ Backtrace.length_fit c.depth b)
  · rw [Snapshot.entriesTotal, hentries, h.total_entries, hsamples]
  · rw [h.countOf_eq_massOf hentries hf, ← countP_accepted hseen hf]
    exact (hportion f).1
  · rw [h.countOf_eq_massOf hentries hf, ← countP_accepted hseen hf]
    rw [h.evictions] at hkept
    exact (hportion f).2 hkept

end Store.Matches

end StackSampler
