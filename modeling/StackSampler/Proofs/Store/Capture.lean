import StackSampler.Proofs.Store.Conservation

/-!
# What a call captures

A stack comes to a store in two ways: as a list of frames, or from a source that writes it into a buffer
which all calls share. What counts is the backtrace that is in the buffer when the call commits it
(`Call.key`), and every cell of that is written by the call itself: a shallow stack that follows a deep
one shows none of its frames.

* `Source.Overwrites.fill_blank`: a source that writes a list of frames over the start of the buffer
  captures what the list itself would.
* `Matches.call_false_iff`: which calls are discarded, and `Store.call_discarded` what they leave.
* `Store.capture_paths_agree`: both ways of capturing, in a store after any calls.
-/

namespace StackSampler

namespace Backtrace

variable {depth : Nat} {frames other : Backtrace}

theorem getElem?_blank {i : Nat} (hi : i < depth) : (blank depth)[i]? = some FrameId.absent :=
  List.getElem?_replicate_of_lt hi

/-- Nothing is captured past the depth. -/
theorem fit_congr (h : ∀ i, i < depth → other[i]?.getD FrameId.absent = frames[i]?.getD FrameId.absent) :
    other.fit depth = frames.fit depth := by
  refine List.ext_getElem? fun i => ?_
  by_cases hi : i < depth
  · rw [getElem?_fit other hi, getElem?_fit frames hi, h i hi]
  · rw [List.getElem?_eq_none (by rw [length_fit]; omega),
      List.getElem?_eq_none (by rw [length_fit]; omega)]

theorem fit_of_take_eq (h : other.take depth = frames.take depth) :
    other.fit depth = frames.fit depth := by
  refine fit_congr fun i hi => ?_
  have hcell := congrArg (·[i]?) h
  rw [List.getElem?_take_of_lt hi, List.getElem?_take_of_lt hi] at hcell
  rw [hcell]

/-- The padding of a stack may be written out. -/
theorem fit_append_blank (frames : Backtrace) (n : Nat) :
    (frames ++ blank n).fit depth = frames.fit depth := by
  refine fit_congr fun i _ => ?_
  by_cases hi : i < frames.length
  · rw [List.getElem?_append_left hi]
  · have hle : frames.length ≤ i := Nat.le_of_not_lt hi
    rw [List.getElem?_append_right hle, List.getElem?_eq_none hle, Option.getD_none]
    -- an absent frame of the padding, or nothing
    by_cases hn : i - frames.length < n
    · rw [getElem?_blank hn, Option.getD_some]
    · rw [List.getElem?_eq_none (by rw [blank, List.length_replicate]; omega), Option.getD_none]

theorem starts_eq_false_iff (key : Backtrace) :
    key.starts = false ↔ key.length = 0 ∨ key[0]? = some FrameId.absent := by
  cases key with
  | nil => exact iff_of_true rfl (.inl rfl)
  | cons f fs => simp [starts]

end Backtrace

namespace Source

variable {source : Source} {depth : Nat} {frames : Backtrace}

/-- **A source that writes `frames`** into a buffer of `depth` cells, as far as both reach, and touches
no other cell. -/
structure Overwrites (source : Source) (depth : Nat) (frames : Backtrace) : Prop where
  written : ∀ buffer : Backtrace, buffer.length = depth → ∀ i, i < min depth frames.length →
    (source.fill buffer)[i]? = frames[i]?
  kept : ∀ buffer : Backtrace, buffer.length = depth → ∀ i, min depth frames.length ≤ i →
    (source.fill buffer)[i]? = buffer[i]?

/-- **In a blanked buffer** such a source leaves the padded stack. -/
theorem Overwrites.fill_blank (h : source.Overwrites depth frames) :
    source.fill (Backtrace.blank depth) = frames.fit depth := by
  have hlen : (Backtrace.blank depth).length = depth := List.length_replicate
  refine List.ext_getElem? fun i => ?_
  by_cases hi : i < depth
  · rw [Backtrace.getElem?_fit frames hi]
    by_cases hwritten : i < frames.length
    · rw [h.written _ hlen i (by omega), List.getElem?_eq_getElem hwritten, Option.getD_some]
    · rw [h.kept _ hlen i (by omega), Backtrace.getElem?_blank hi,
        List.getElem?_eq_none (Nat.le_of_not_lt hwritten), Option.getD_none]
  · rw [List.getElem?_eq_none (by rw [source.length_fill, hlen]; omega),
      List.getElem?_eq_none (by rw [Backtrace.length_fit]; omega)]

/-- The source that writes `frames`. -/
def writing (frames : Backtrace) : Source where
  fill := frames.overlay
  length_fill buffer := by
    rw [Backtrace.overlay, List.length_append, List.length_take, List.length_drop]
    omega

theorem writing_overwrites (depth : Nat) (frames : Backtrace) :
    (writing frames).Overwrites depth frames where
  written buffer hlen i hi := by
    show (frames.take buffer.length ++ buffer.drop frames.length)[i]? = _
    rw [List.getElem?_append_left (by rw [List.length_take]; omega),
      List.getElem?_take_of_lt (by omega)]
  kept buffer hlen i hi := by
    show (frames.take buffer.length ++ buffer.drop frames.length)[i]? = _
    have htake : (frames.take buffer.length).length = min depth frames.length := by
      rw [List.length_take, hlen]
    rw [List.getElem?_append_right (by omega), htake, List.getElem?_drop]
    -- past the end of the buffer there is nothing, and before it nothing was skipped
    by_cases hend : i < depth
    · have : frames.length + (i - min depth frames.length) = i := by omega
      rw [this]
    · rw [List.getElem?_eq_none (by omega), List.getElem?_eq_none (by omega)]

end Source

theorem Tally.sample_answer (limit : Nat) (r : Tally) (key : Backtrace) :
    (r.sample limit key).1 = key.starts := by
  unfold sample
  cases key.starts <;> rfl

namespace Store

variable {s : Store} {c : Config} {r : Tally}

/-- Committing leaves the buffer alone. -/
theorem commit_scratch (s : Store) : s.commit.2.scratch = s.scratch := by
  unfold commit
  split
  · rfl
  · split <;> rfl

/-- A call leaves in the buffer what it captured. -/
theorem call_scratch (hlen : s.scratch.length = c.depth) (call : Call) :
    (s.call call).2.scratch = call.key c.depth := by
  rw [call_eq hlen, commit_scratch]

/-- Calls that capture the same backtrace are the same call. -/
theorem call_congr (hlen : s.scratch.length = c.depth) {call call' : Call}
    (hkey : call.key c.depth = call'.key c.depth) : s.call call = s.call call' := by
  rw [call_eq hlen, call_eq hlen, hkey]

/-- **Runs that capture the same backtraces are the same run.** -/
theorem runAll_congr (hlen : s.scratch.length = c.depth) {calls calls' : List Call}
    (hkeys : calls.map (Call.key c.depth) = calls'.map (Call.key c.depth)) :
    runAll Store.call s calls = runAll Store.call s calls' := by
  induction calls generalizing s calls' with
  | nil =>
    rw [List.map_nil, eq_comm, List.map_eq_nil_iff] at hkeys
    rw [hkeys]
  | cons call calls ih =>
    obtain ⟨call', rest, rfl, hkey, hrest⟩ := List.map_eq_cons_iff.1 hkeys.symm
    have hsame := call_congr hlen hkey
    have hnext : (s.call call).2.scratch.length = c.depth := by
      rw [call_scratch hlen, call.length_key]
    simp only [runAll, hsame, ih hnext hrest.symm]

/-- **What is left in the buffer does not matter** to the next call. -/
theorem call_recaptured (hlen : s.scratch.length = c.depth) {buffer : Backtrace}
    (hbuffer : buffer.length = c.depth) (call : Call) :
    ({ s with scratch := buffer } : Store).call call = s.call call := by
  rw [call_eq hlen, call_eq (s := { s with scratch := buffer }) hbuffer]

/-- A call that a store with slots discards captured no innermost frame. -/
theorem Matches.call_false_iff (h : s.Matches c r) (hpos : 0 < c.slots) (call : Call) :
    (s.call call).1 = false ↔ c.depth = 0 ∨ (call.key c.depth)[0]? = some FrameId.absent := by
  rw [(h.call hpos call).1, Tally.sample_answer, Backtrace.starts_eq_false_iff, call.length_key]

/-- **A discarded call** changes the buffer and nothing else. -/
theorem Matches.call_discarded (h : s.Matches c r) (hpos : 0 < c.slots) {call : Call}
    (hfalse : (s.call call).1 = false) :
    (s.call call).2 = { s with scratch := call.key c.depth } := by
  rw [(h.call hpos call).1, Tally.sample_answer] at hfalse
  have hblank : (call.key c.depth).isBlank = true := by
    rw [Backtrace.isBlank_eq, hfalse]
    rfl
  rw [call_eq h.buffer]
  unfold Store.commit
  exact congrArg Prod.snd (if_pos hblank)

/-- **How a store of depth `D` captures.** Stores that are equal have the same used slots, counts, totals
and evictions. -/
structure Captures (D : Nat) (s : Store) : Prop where
  /-- A source that writes frames into the buffer is as good as the frames. -/
  agree : ∀ (frames : Backtrace) (source : Source), source.Overwrites D frames →
    s.recordFrom source.fill = s.record frames
  /-- Frames past the depth do not matter. -/
  cut : ∀ frames other : Backtrace, other.take D = frames.take D → s.record other = s.record frames
  /-- Absent frames at the end do not matter. -/
  padded : ∀ (frames : Backtrace) (n : Nat), s.record (frames ++ Backtrace.blank n) = s.record frames
  /-- What is in the buffer does not matter. -/
  clean : ∀ (buffer : Backtrace) (call : Call), buffer.length = D →
    ({ s with scratch := buffer } : Store).call call = s.call call
  /-- Over any run of calls only the captured backtraces matter, not which way each of them came. -/
  runs : ∀ calls calls' : List Call, calls.map (Call.key D) = calls'.map (Call.key D) →
    runAll Store.call s calls = runAll Store.call s calls'
  /-- A call answers no just when its first captured frame is absent, or there is none. -/
  discards : ∀ call : Call,
    (s.call call).1 = false ↔ D = 0 ∨ (call.key D)[0]? = some FrameId.absent
  /-- Such a call leaves the table and the totals as they were. -/
  spares : ∀ call : Call, (s.call call).1 = false → (s.call call).2 = { s with scratch := call.key D }

/-- **Both ways of capturing agree, and leave no residue**, after any calls to a store with slots. -/
theorem capture_paths_agree (c : Config) (hpos : 0 < c.slots) (calls : List Call) :
    Captures c.depth (runAll Store.call (Store.new c) calls).2 := by
  have hmatch := (Matches.calls hpos calls).2
  generalize (runAll Store.call (Store.new c) calls).2 = s at hmatch ⊢
  have hlen := hmatch.buffer
  refine ⟨?_, ?_, ?_, fun _ call hbuffer => call_recaptured hlen hbuffer call,
    fun _ _ hkeys => runAll_congr hlen hkeys, hmatch.call_false_iff hpos,
    fun _ => hmatch.call_discarded hpos⟩
  · intro frames source hsource
    have hkey : (Call.recordFrom source).key c.depth = (Call.record frames).key c.depth :=
      hsource.fill_blank
    exact call_congr hlen hkey
  · intro frames other htake
    have hkey : (Call.record other).key c.depth = (Call.record frames).key c.depth :=
      Backtrace.fit_of_take_eq htake
    exact call_congr hlen hkey
  · intro frames n
    have hkey : (Call.record (frames ++ Backtrace.blank n)).key c.depth =
        (Call.record frames).key c.depth := Backtrace.fit_append_blank frames n
    exact call_congr hlen hkey

/-- A deep stack is in the buffer when a shallow one comes, from a source and as a list. -/
theorem captures_after_deep_stack :
    let c : Config := { depth := 3, slots := 2 }
    let calls : List Call :=
      [.record [⟨9⟩], .record [⟨4⟩], .recordFrom (.writing [⟨1⟩, ⟨2⟩, ⟨3⟩, ⟨7⟩])]
    let s := (runAll Store.call (Store.new c) calls).2
    let blank : Call := .record [⟨0⟩, ⟨4⟩]
    0 < c.slots ∧ s.scratch = [⟨1⟩, ⟨2⟩, ⟨3⟩] ∧ s.evictions = 1 ∧ Captures c.depth s ∧
      (s.record [⟨4⟩]).2.countOf [⟨4⟩, ⟨0⟩, ⟨0⟩] = some 2 ∧
      s.recordFrom (Source.writing [⟨4⟩]).fill = s.record [⟨4⟩] ∧
      (s.call blank).1 = false ∧ (s.call blank).2 = { s with scratch := blank.key c.depth } := by
  intro c calls s blank
  have hcaptures := capture_paths_agree c (by decide) calls
  have hdiscarded : (s.call blank).1 = false := by decide +kernel
  exact ⟨by decide, by decide +kernel, by decide +kernel, hcaptures, by decide +kernel,
    hcaptures.agree _ _ (Source.writing_overwrites 3 [⟨4⟩]), hdiscarded,
    hcaptures.spares blank hdiscarded⟩

end Store

end StackSampler
