import StackSampler.Proofs.Command.Validation
import StackSampler.Proofs.Sampling.Allocation
import StackSampler.Proofs.Sampling.Outcomes
import StackSampler.Proofs.Snapshot.Export
import StackSampler.Proofs.Snapshot.Names

/-!
# Recorded profiles

Whatever a profiler went through, its snapshot with names in it is a file that the checker accepts, and
that is read back as it was written if a text can name the times in it.

* `Snapshot.entriesTotal_ofStore`: what the entries of a snapshot add up to.
* `Session.Bounded`: runs with times that there are, and with fewer than 2⁶⁴ ticks.
  `Session.Bounded.valid` is that their numbers fit.
* `Session.recorded_profile`: the law.
-/

namespace StackSampler

/-! ## Entries -/

/-- A slot as an entry with names. -/
def Slot.named (symbols : SymbolTable) (slot : Slot) : Entry String :=
  ⟨slot.backtrace.named.map fun f => .function (symbols.display f), slot.count⟩

theorem Slot.map_entry (symbols : SymbolTable) (slot : Slot) :
    slot.entry.map symbols.display = slot.named symbols := by
  simp only [entry, named, Entry.map, List.map_map, Function.comp_def, Frame.map]

namespace Snapshot

variable {store : Option Store} {mode : Mode} {startTime : Option Instant} {stopTime : Instant}
  {interval : Option Span}

theorem entriesTotal_ofStore (h : ∀ st ∈ store, st.Sound) :
    (ofStore store mode startTime stopTime interval).entriesTotal = store.elim 0 Store.total := by
  cases store with
  | none => rfl
  | some st =>
    obtain ⟨c, r, -, hmatch⟩ := h st rfl
    exact hmatch.total_entries

end Snapshot

/-- Every used slot of a store holds a stack. -/
theorem Store.Sound.named_ne_nil {st : Store} (h : st.Sound) {slot : Slot} (hslot : slot ∈ st.used) :
    slot.backtrace.named ≠ [] := by
  obtain ⟨c, r, -, hmatch⟩ := h
  have hcell : (slot.backtrace, slot.count) ∈ r.cells := by
    rw [← hmatch.used_eq]
    exact List.mem_map_of_mem hslot
  exact (Backtrace.starts_iff_named _).1 (hmatch.ok.starts _ hcell)

/-! ## Runs -/

namespace Session

variable {s : Session} {acts : List Act}

/-- The times that a snapshot shows are of a kind, and its interval is one that there is. -/
structure Timed (time : Instant → Prop) (startTime : Option Instant) (interval : Option Span) :
    Prop where
  startTime : ∀ t ∈ startTime, time t
  interval : ∀ i ∈ interval, i.Valid

/-- Only a start writes them. -/
theorem Effect.timed {time : Instant → Prop} {op : Operation} {answer : Answer} {r : Record}
    (h : Effect s op answer r) (hs : Timed time s.startTime s.interval) (hclock : time s.clock)
    (hop : ∀ i, op = .start i → i.Valid) : Timed time r.startTime r.interval := by
  cases h with
  | kept _ _ | ticked _ | reset | invalid _ _ | refused _ => exact hs
  | @begun i _ =>
    refine ⟨fun t ht => ?_, fun i' hi => ?_⟩
    · obtain rfl := Option.some.inj ht
      exact hclock
    · obtain rfl := Option.some.inj hi
      exact hop i rfl

/-- **A run within bounds**: fewer than 2⁶⁴ ticks, at times that there are. -/
structure Bounded (s : Session) (acts : List Act) : Prop where
  ticks : (s.runOutcomes acts).length < 2 ^ 64
  clock : ∀ before, before <+: acts → (s.acted before).clock.Valid
  interval : ∀ a ∈ acts, ∀ i, a.operation = .start i → i.Valid

theorem Fresh.timed {time : Instant → Prop} (h : s.Fresh)
    (hclock : ∀ before, before <+: acts → time (s.acted before).clock)
    (hinterval : ∀ a ∈ acts, ∀ i, a.operation = .start i → i.Valid) :
    Timed time (s.acted acts).startTime (s.acted acts).interval := by
  induction acts using List.reverseRecOn with
  | nil =>
    show Timed time s.startTime s.interval
    rw [h.startTime, h.interval]
    exact ⟨nofun, nofun⟩
  | append_singleton acts a ih =>
    have hprefix : acts <+: acts ++ [a] := List.prefix_append acts [a]
    have hbefore := ih (fun before hb => hclock before (hb.trans hprefix))
      fun b hb => hinterval b (List.mem_append_left [a] hb)
    obtain ⟨⟨answer, heffect, -⟩, -⟩ := (h.acted_sound acts).1.act_effect a
    have hlast := hinterval a (List.mem_append_right acts List.mem_cons_self)
    rw [acted_concat]
    exact heffect.timed hbefore (hclock acts hprefix) hlast

/-- **Its numbers fit**: no total is larger than the number of ticks, and no count than the total. -/
theorem Bounded.valid (hrun : s.Bounded acts) (h : s.Fresh) : (s.acted acts).snapshot.1.Valid := by
  obtain ⟨hrest, hsound⟩ := h.acted_sound acts
  have htimed := h.timed hrun.clock hrun.interval
  have hnone : s.counted = 0 := by rw [counted, h.shared]; rfl
  have htotal : (s.acted acts).counted ≤ Decimal.largestWord := by
    have hle := h.atRest.run_counted_le acts
    have hticks := hrun.ticks
    unfold Decimal.largestWord
    omega
  rw [hrest.snapshot_eq]
  refine ⟨htimed.startTime, hrun.clock acts (List.prefix_refl acts), htimed.interval, ?_,
    fun e he => ?_⟩
  · rw [Snapshot.samples_ofStore]
    exact htotal
  · have hle := le_total (List.mem_map_of_mem (f := Entry.count) he)
    change e.count ≤ Snapshot.entriesTotal _ at hle
    rw [Snapshot.entriesTotal_ofStore hsound] at hle
    exact hle.trans htotal

/-- No start, no store. -/
theorem Fresh.acted_unallocated (h : s.Fresh) (hacts : ∀ a ∈ acts, ∀ i, a.operation ≠ .start i) :
    (s.acted acts).shared.store = none := by
  induction acts using List.reverseRecOn with
  | nil => exact congrArg Shared.store h.shared
  | append_singleton acts a ih =>
    have hbefore := ih fun b hb => hacts b (List.mem_append_left [a] hb)
    obtain ⟨⟨answer, heffect, -⟩, -⟩ := (h.acted_sound acts).1.act_effect a
    rw [acted_concat]
    exact heffect.unallocated (hacts a (List.mem_append_right acts List.mem_cons_self)) hbefore

/-! ## The law -/

/-- The profile of a session, with names. -/
def profile (s : Session) (symbols : SymbolTable) : Snapshot String := s.snapshot.1.resolve symbols

/-- **What a recorded profile is.** -/
structure Profiled (s : Session) (symbols : SymbolTable) : Prop where
  overflow : (s.profile symbols).overflowCount = s.shared.store.elim 0 Store.others
  /-- One entry for every slot in use, in storage order. -/
  slots : (s.profile symbols).stackEntries =
    (s.shared.store.elim [] Store.used).map (Slot.named symbols)
  nonempty : ∀ e ∈ (s.profile symbols).stackEntries, e.frames ≠ []
  total : (s.profile symbols).entriesTotal = s.counted
  /-- It is read back from its text as what that stands for, -/
  text : Snapshot.ofBytes (s.profile symbols).text.toUTF8 = .ok (s.profile symbols).settled
  /-- which is the profile just when a text can name its times. -/
  intact : (s.profile symbols).settled = s.profile symbols ↔
    (∀ t ∈ s.startTime, t.Nameable) ∧ s.clock.Nameable
  /-- Where a file can be written, it can; it is read back from there, and the checker accepts it. -/
  file : ∀ path t t₀ content, (Files.write path content).run.run t = (.ok (), t₀) →
    ∃ t', (Files.writeSnapshot path (s.profile symbols)).run.run t = (.ok (), t') ∧
      (Files.readSnapshot path).run.run t' = (.ok (s.profile symbols).settled, t') ∧
      ∀ lines, (Command.validate path).run.run ⟨t', lines⟩ =
        (.ok (), ⟨t', lines ++ Command.figures path (s.profile symbols)⟩)

/-- Without a store there is nothing but the overflow entry. -/
theorem AtRest.profile_unallocated (h : s.AtRest) (hstore : s.shared.store = none)
    (symbols : SymbolTable) : (s.profile symbols).entries = [.overflow 0] := by
  rw [profile, h.snapshot_eq, hstore]
  rfl

theorem AtRest.profiled (h : s.AtRest) (hsound : s.Sound) (hvalid : s.snapshot.1.Valid)
    (symbols : SymbolTable) : s.Profiled symbols := by
  have hsnapshot : s.snapshot.1 =
      Snapshot.ofStore s.shared.store s.mode s.startTime s.clock s.interval := by rw [h.snapshot_eq]
  have hstacks : (s.profile symbols).stackEntries =
      (s.shared.store.elim [] Store.used).map (Slot.named symbols) := by
    rw [profile, Snapshot.resolve, Snapshot.stackEntries_mapFrames, hsnapshot,
      Snapshot.stackEntries_ofStore, List.map_map]
    exact List.map_congr_left fun slot _ => slot.map_entry symbols
  have htotal : (s.profile symbols).entriesTotal = s.counted := by
    rw [profile, Snapshot.resolve, Snapshot.entriesTotal_mapFrames, hsnapshot,
      Snapshot.entriesTotal_ofStore hsound, counted]
  have hnamed : (s.profile symbols).Valid := hvalid.mapFrames symbols.display
  have hsamples : (s.profile symbols).samples = s.counted := by
    show s.snapshot.1.samples = _
    rw [hsnapshot, Snapshot.samples_ofStore, counted]
  have hform : Command.wellFormed (s.profile symbols) = .ok () := by
    have hfirst : (s.profile symbols).entries.head?.any Entry.isOverflow = true := by
      rw [profile, hsnapshot]
      cases s.shared.store <;> rfl
    have hconsistent : (s.profile symbols).isConsistent = true := by
      rw [Snapshot.isConsistent, htotal, hsamples]
      exact beq_self_eq_true _
    rw [Command.wellFormed, hfirst, hconsistent]
    rfl
  have hversion : (s.profile symbols).version = schemaVersion := by
    rw [profile, hsnapshot]
    rfl
  have hnote : Command.versionNote (s.profile symbols) = [] := if_neg (not_not_intro hversion)
  have htimes : (s.profile symbols).startTime = s.startTime ∧ (s.profile symbols).stopTime = s.clock := by
    rw [profile, hsnapshot]
    exact ⟨rfl, rfl⟩
  refine ⟨?_, hstacks, fun e he => ?_, htotal, Snapshot.ofBytes_text_settled hnamed, ?_,
    fun path t t₀ content hwritable => ?_⟩
  · rw [profile, Snapshot.resolve, Snapshot.overflowCount_mapFrames, hsnapshot,
      Snapshot.overflowCount_ofStore]
  · rw [hstacks] at he
    obtain ⟨slot, hslot, rfl⟩ := List.mem_map.1 he
    cases hst : s.shared.store with
    | none => simp [hst] at hslot
    | some st =>
      rw [hst] at hslot
      have hne := (hsound st hst).named_ne_nil hslot
      simpa [Slot.named] using hne
  · rw [Snapshot.settled_eq_self_iff hnamed, hnamed.nameable_iff, htimes.1, htimes.2]
  · obtain ⟨t', hwrite⟩ := Files.write_any hwritable (.ofText (s.profile symbols).text)
    have hread := Files.readSnapshot_run (Files.find_of_write hwrite)
      (Snapshot.ofBytes_text_settled hnamed)
    -- the checker does not look at the times
    have hform' : Command.wellFormed (s.profile symbols).settled = .ok () := hform
    have hfigures : Command.figures path (s.profile symbols).settled ++
        Command.versionNote (s.profile symbols).settled = Command.figures path (s.profile symbols) :=
      (congrArg (_ ++ ·) hnote).trans (List.append_nil _)
    refine ⟨t', hwrite, hread, fun lines => ?_⟩
    rw [Command.validate_run (d := ⟨t', lines⟩) hread hform', List.append_assoc, hfigures]

/-- **Every recorded profile is a valid file**, for every run of a profiler that was just made, with any
trigger, and every symbol table. It is read back as it is if the clock reads no time that a text cannot
name. -/
theorem recorded_profile (h : s.Fresh) (acts : List Act) (hrun : s.Bounded acts)
    (symbols : SymbolTable) :
    (s.acted acts).Profiled symbols ∧
      ((∀ before, before <+: acts → (s.acted before).clock.Nameable) →
        ((s.acted acts).profile symbols).settled = (s.acted acts).profile symbols) ∧
      ((∀ a ∈ acts, ∀ i, a.operation ≠ .start i) →
        ((s.acted acts).profile symbols).entries = [.overflow 0]) ∧
      ((s.acted (acts ++ [.call .reset])).profile symbols).entries = [.overflow 0] := by
  obtain ⟨hrest, hsound⟩ := h.acted_sound acts
  have hprofiled := hrest.profiled hsound (hrun.valid h) symbols
  refine ⟨hprofiled, fun hclock => ?_, fun hacts => ?_, ?_⟩
  · have hstart := (h.timed hclock hrun.interval).startTime
    exact hprofiled.intact.2 ⟨hstart, hclock acts (List.prefix_refl acts)⟩
  · exact hrest.profile_unallocated (h.acted_unallocated hacts) symbols
  · refine (h.acted_sound _).1.profile_unallocated ?_ symbols
    rw [acted_concat]
    exact hrest.act_reset rfl

/-- A profile after an eviction, with a name that has to be escaped and a frame that has none. -/
theorem recorded_profile_evicted :
    let s : Session := { config := ⟨2, 1⟩, stack := .new 4, clock := .epoch }
    let acts : List Act :=
      [.call (.start ⟨0, 5⟩), .call (.push ⟨1⟩), .call .fire, .call (.push ⟨9⟩), .call (.advance 7),
        .call .fire, .call .fire]
    let symbols : SymbolTable := .ofList ["\"größe\"\n"]
    let p := (s.acted acts).profile symbols
    s.Fresh ∧ s.Bounded acts ∧ p.overflowCount = 1 ∧ p.entriesTotal = 3 ∧
      p.stackEntries = [⟨[.function (FrameId.label ⟨9⟩), .function "\"größe\"\n"], 2⟩] ∧
      (∃ t, (Files.writeSnapshot "profile.json" p).run.run {} = (.ok (), t) ∧
        (Files.readSnapshot "profile.json").run.run t = (.ok p, t)) ∧
      ((s.acted (acts ++ [.call .reset])).profile symbols).entries = [.overflow 0] := by
  intro s acts symbols p
  have hfresh : s.Fresh := ⟨rfl, rfl, rfl, rfl, rfl, rfl⟩
  have hclock : ∀ before ∈ acts.inits, (s.acted before).clock.Nameable := by decide +kernel
  have hclock' (before : List Act) (hb : before <+: acts) : (s.acted before).clock.Nameable :=
    hclock before ((List.mem_inits _ _).2 hb)
  have hinterval : ∀ a ∈ acts, ∀ i, a.operation = .start i → i.Valid := by
    intro a ha i hi
    simp only [acts, List.mem_cons, List.not_mem_nil, or_false] at ha
    rcases ha with rfl | rfl | rfl | rfl | rfl | rfl | rfl <;> cases hi
    exact ⟨by decide, by decide⟩
  have hrun : s.Bounded acts :=
    ⟨by decide +kernel, fun before hb => (hclock' before hb).valid, hinterval⟩
  obtain ⟨hprofiled, hintact, -, hreset⟩ := recorded_profile hfresh acts hrun symbols
  have hempty : (Files.write "profile.json" (.ofText "")).run.run {} =
      (.ok (), ({} : Files.Tree).put ["home", "profile.json"] (.file (.ofText ""))) := rfl
  obtain ⟨t, hwrite, hread, -⟩ := hprofiled.file _ _ _ _ hempty
  rw [hintact hclock'] at hread
  refine ⟨hfresh, hrun, ?_, ?_, ?_, ⟨t, hwrite, hread⟩, hreset⟩
  · rw [hprofiled.overflow]
    decide +kernel
  · rw [hprofiled.total]
    decide +kernel
  · rw [hprofiled.slots]
    decide +kernel

/-- **A profile that ends in the middle of a leap second**, before the end of its minute, is read back as
one that ends in the second after it. -/
theorem leap_second_profile :
    let s : Session := { config := ⟨2, 1⟩, stack := .new 4, clock := ⟨4, 1333333333⟩ }
    let p := s.profile {}
    s.Fresh ∧ s.Bounded [] ∧ p.stopTime = ⟨4, 1333333333⟩ ∧
      Snapshot.ofBytes p.text.toUTF8 = .ok { p with stopTime := ⟨5, 333333333⟩ } ∧
      Snapshot.ofBytes p.text.toUTF8 ≠ .ok p := by
  intro s p
  have hfresh : s.Fresh := ⟨rfl, rfl, rfl, rfl, rfl, rfl⟩
  have hrun : s.Bounded [] :=
    ⟨by decide, fun before hb => by rw [List.prefix_nil.1 hb]; decide, nofun⟩
  have hvalid : p.Valid := (hrun.valid hfresh).mapFrames _
  have hread := Snapshot.ofBytes_text_settled hvalid
  have hmoved : p.settled = { p with stopTime := ⟨5, 333333333⟩ } := by decide +kernel
  have hother : ({ p with stopTime := ⟨5, 333333333⟩ } : Snapshot String) ≠ p := by decide +kernel
  rw [hread, hmoved]
  exact ⟨hfresh, hrun, by decide +kernel, rfl, fun hsame => hother (Except.ok.inj hsame)⟩

end Session

end StackSampler
