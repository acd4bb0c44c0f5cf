import StackSampler.Proofs.Sampling.Acts
import StackSampler.Proofs.Sampling.Growth
import StackSampler.Proofs.Sampling.Views
import Mathlib.Data.List.TakeWhile

/-!
# Stacks that look alike

A store tells backtraces apart over their full depth; a snapshot shows of each what is in front of its
first absent frame. So two entries may show one stack, if anonymous frames were on the shadow stack, and
this says which two do.

* `Backtrace.partBehind_iff`: different backtraces that look alike part behind their first absent frame.
* `Store.Counted`: the slots in use hold what was captured, each of them something else.
* `AtRest.act_stack`: what an act does to the shadow stack, with any trigger.
* `Fresh.stacks_told_apart`: the law, for every run.
* `anonymous_frame_splits`: a stack whose count is split over two entries.
-/

namespace StackSampler

/-! ## Backtraces -/

namespace Backtrace

variable {b c : Backtrace}

/-- **Parting out of sight**: up to the first absent frame and with it the two agree, and further out
they do not. -/
structure PartBehind (b c : Backtrace) : Prop where
  absent : b[b.named.length]? = some FrameId.absent
  alike : b.take (b.named.length + 1) = c.take (b.named.length + 1)
  part : b.drop (b.named.length + 1) ≠ c.drop (b.named.length + 1)

/-- A frame that is not absent is shown. -/
theorem named_cons {f : FrameId} (hf : f ≠ FrameId.absent) (b : Backtrace) :
    named (f :: b) = f :: b.named :=
  List.takeWhile_cons_of_pos (by rw [Bool.not_eq_true', ← Bool.not_eq_true, isAbsent_iff]; exact hf)

theorem take_named (b : Backtrace) : b.take b.named.length = b.named :=
  (List.prefix_iff_eq_take.1 (List.takeWhile_prefix _)).symm

/-- What is not shown begins with an absent frame. -/
theorem getElem?_named (h : b.named.length < b.length) :
    b[b.named.length]? = some FrameId.absent := by
  induction b with
  | nil => cases h
  | cons f b ih =>
    by_cases hf : f = FrameId.absent
    · subst hf
      rfl
    · rw [named_cons hf] at h ⊢
      rw [List.length_cons, List.getElem?_cons_succ]
      exact ih (Nat.lt_of_succ_lt_succ h)

/-- What stands behind an absent frame is not shown. -/
theorem named_append_absent {shown : Backtrace} (h : FrameId.absent ∉ shown) (rest : Backtrace) :
    named (shown ++ FrameId.absent :: rest) = shown := by
  induction shown with
  | nil => rfl
  | cons f shown ih =>
    obtain ⟨hf, hshown⟩ := not_or.1 (mt List.mem_cons.2 h)
    rw [List.cons_append, named_cons (Ne.symm hf), ih hshown]

theorem absent_notMem_named (b : Backtrace) : FrameId.absent ∉ b.named := fun h => by
  have hshown := List.mem_takeWhile_imp h
  simp [isAbsent_iff.2] at hshown

/-- **Looking alike**: of one length, shown as the same frames, and not the same. -/
theorem partBehind_iff (hlen : b.length = c.length) :
    b.PartBehind c ↔ b.named = c.named ∧ b ≠ c := by
  constructor
  · intro h
    have htake : b.take (b.named.length + 1) = b.named ++ [FrameId.absent] := by
      rw [List.take_add_one, take_named, h.absent]
      rfl
    have hc : c = b.named ++ FrameId.absent :: c.drop (b.named.length + 1) := by
      have hsplit := List.take_append_drop (b.named.length + 1) c
      rw [← h.alike, htake, List.append_assoc] at hsplit
      exact hsplit.symm
    refine ⟨?_, fun heq => h.part (by rw [heq])⟩
    conv_rhs => rw [hc]
    exact (named_append_absent b.absent_notMem_named _).symm
  · rintro ⟨hnamed, hne⟩
    have hle : b.named.length ≤ b.length := (List.takeWhile_sublist _).length_le
    -- if one were shown as a whole, so would be the other
    have hlt : b.named.length < b.length := by
      refine Nat.lt_of_le_of_ne hle fun hall => hne ?_
      have hb := take_named b
      have hc := take_named c
      rw [hall, List.take_length] at hb
      rw [← hnamed, hall, hlen, List.take_length] at hc
      exact hb.trans hc.symm
    have halike : b.take (b.named.length + 1) = c.take (b.named.length + 1) := by
      rw [List.take_add_one, List.take_add_one, getElem?_named hlt, take_named, hnamed, take_named,
        getElem?_named (by rw [← hnamed, ← hlen]; exact hlt)]
    refine ⟨getElem?_named hlt, halike, fun hrest => hne ?_⟩
    rw [← List.take_append_drop (b.named.length + 1) b, halike, hrest, List.take_append_drop]

/-- Nothing but padding is behind what is shown. -/
def Solid (b : Backtrace) : Prop := b.named.fit b.length = b

theorem Solid.not_partBehind (hb : b.Solid) (hc : c.Solid) (hlen : b.length = c.length) :
    ¬ b.PartBehind c := fun h => by
  obtain ⟨hnamed, hne⟩ := (partBehind_iff hlen).1 h
  have hfit : b.named.fit b.length = c.named.fit c.length := by rw [hnamed, hlen]
  exact hne (hb.symm.trans (hfit.trans hc))

/-- A stack that there is room for is seen as it is. -/
theorem view_eq_take {room depth : Nat} {frames : List FrameId} (h : frames.length ≤ room) :
    view room depth frames = frames.take depth := by
  refine List.ext_getElem? fun i => ?_
  rw [view, List.getElem?_mapIdx]
  cases hi : (frames.take depth)[i]? with
  | none => rfl
  | some f =>
    have hlt := (List.getElem?_eq_some_iff.1 hi).1
    rw [List.length_take] at hlt
    rw [Option.map_some, if_pos (by omega)]

/-- Of a deeper stack nothing is shown, as its innermost frame reads as absent. -/
theorem named_view_of_deep {room depth : Nat} {frames : List FrameId} (h : room < frames.length) :
    (view room depth frames).named = [] := by
  cases frames with
  | nil => cases h
  | cons f frames =>
    cases depth with
    | zero => rfl
    | succ depth =>
      have hfirst : ¬(f :: frames).length - 1 - 0 < room := by
        rw [List.length_cons] at h ⊢
        omega
      rw [view, List.take_succ_cons, List.mapIdx_cons, if_neg hfirst]
      rfl

/-- **Without anonymous frames** a captured backtrace is solid, if it is one that can be counted. -/
theorem solid_view {room depth : Nat} {frames : List FrameId} (hframes : FrameId.absent ∉ frames)
    (hstarts : ((view room depth frames).fit depth).starts = true) :
    ((view room depth frames).fit depth).Solid := by
  have hlen := length_view_le room depth frames
  rw [starts_fit hlen, starts_iff_named] at hstarts
  have hroom : frames.length ≤ room := Nat.le_of_not_lt fun hdeep => hstarts (named_view_of_deep hdeep)
  have hshown : (view room depth frames).named = view room depth frames := by
    rw [view_eq_take hroom]
    refine List.takeWhile_eq_self_iff.2 fun f hf => ?_
    rw [Bool.not_eq_true', ← Bool.not_eq_true, isAbsent_iff]
    rintro rfl
    exact hframes (List.mem_of_mem_take hf)
  unfold Solid
  rw [named_fit hlen, length_fit, hshown]

end Backtrace

/-! ## Stores -/

namespace Store

variable {P : Backtrace → Prop} {st : Store}

/-- **A store that counted backtraces of which `P` holds**, all of them of its depth. -/
def Counted (P : Backtrace → Prop) (st : Store) : Prop :=
  ∃ c keys, 0 < c.slots ∧ (∀ k ∈ keys, k.length = c.depth ∧ P k) ∧
    st.Matches c (Tally.after c.slots keys)

theorem Counted.new {c : Config} (hpos : 0 < c.slots) : (Store.new c).Counted P :=
  ⟨c, [], hpos, nofun, .new c⟩

/-- Counting the present stack any number of times. -/
theorem Counted.sampled (h : st.Counted P) {stack : ShadowStack}
    (hstack : ∀ depth, P (stack.read (Backtrace.blank depth))) (n : Nat) :
    (st.sampled stack n).Counted P := by
  induction n with
  | zero => exact h
  | succ n ih =>
    obtain ⟨c, keys, hpos, hkeys, hmatch⟩ := ih
    have hnext := (hmatch.call hpos (.recordFrom stack.source)).2
    rw [← Tally.after_concat] at hnext
    refine ⟨c, keys ++ [(Call.recordFrom stack.source).key c.depth], hpos, ?_, hnext⟩
    exact List.forall_mem_append.2 ⟨hkeys, List.forall_mem_singleton.2 ⟨Call.length_key .., hstack _⟩⟩

/-- **What the slots in use hold**: each another backtrace, of those that were counted. -/
theorem Counted.used (h : st.Counted P) :
    (st.used.map Slot.backtrace).Nodup ∧
      ∀ slot ∈ st.used, slot.backtrace.length = st.depth ∧ slot.backtrace.starts = true ∧
        P slot.backtrace := by
  obtain ⟨c, keys, hpos, hkeys, hmatch⟩ := h
  have hheld : st.used.map Slot.backtrace = (Tally.after c.slots keys).cells.keys := by
    rw [← hmatch.used_eq, Keyed.keys, List.map_map]
    rfl
  refine ⟨hheld ▸ hmatch.ok.nodup, fun slot hslot => ?_⟩
  have hkey : slot.backtrace ∈ (Tally.after c.slots keys).cells.keys :=
    hheld ▸ List.mem_map_of_mem hslot
  obtain ⟨hseen, hstarts⟩ := List.mem_filter.1 ((Tally.after_tracks hpos keys).seen hkey)
  obtain ⟨hlen, hP⟩ := hkeys _ hseen
  exact ⟨hlen.trans hmatch.depth.symm, hstarts, hP⟩

end Store

/-! ## Runs -/

namespace Session

variable {s : Session} {P : Backtrace → Prop} {acts : List Act}

/-- **What an act does to the shadow stack**: no more than its operation, with any trigger. -/
theorem AtRest.act_stack (h : s.AtRest) (a : Act) :
    (s.act a).2.stack = a.operation.onStack s.stack := by
  cases a with
  | call op => exact h.perform_stack op
  | start system i => exact h.startIn_stack system i
  | install system i => exact (h.rewired_installIn system i).1.stack
  | disarm => exact h.rewired_disarm.1.stack
  | renew => exact h.rewired_renew.1.stack
  | others signal => exact (h.rewired_others signal).1.stack

/-- A store that has counted backtraces of which `P` holds, if there is a store. -/
def Counted (P : Backtrace → Prop) (s : Session) : Prop := ∀ st ∈ s.shared.store, st.Counted P

/-- **One act** counts at most the present stack. -/
theorem AtRest.act_counted (h : s.AtRest) (hs : s.Counted P)
    (hstack : ∀ depth, P (s.stack.read (Backtrace.blank depth))) (a : Act) :
    (s.act a).2.Counted P := by
  obtain ⟨⟨answer, heffect, -⟩, -⟩ := h.act_effect a
  intro st hst
  rcases heffect.origin hst with ⟨st₀, n, hst₀, rfl⟩ | ⟨hvalid, rfl⟩
  · exact (hs st₀ hst₀).sampled hstack n
  · exact .new (Config.slots_pos hvalid)

/-- The shadow stack holds frames that are all named. -/
def Named (s : Session) : Prop := ∃ frames, s.stack.Holds frames ∧ FrameId.absent ∉ frames

theorem AtRest.act_named (h : s.AtRest) (hs : s.Named) {a : Act}
    (ha : a.operation ≠ .push FrameId.absent) : (s.act a).2.Named := by
  obtain ⟨frames, hholds, hnamed⟩ := hs
  refine ⟨a.operation.onFrames frames, h.act_stack a ▸ (hholds.onStack a.operation).1, ?_⟩
  cases hop : a.operation with
  | push f =>
    rintro hmem
    rcases List.mem_cons.1 hmem with rfl | hmem
    · exact ha hop
    · exact hnamed hmem
  | pop => exact fun hmem => hnamed (List.mem_of_mem_tail hmem)
  | _ => exact hnamed

/-- What is read of named frames is solid, if it can be counted. -/
theorem Named.read (h : s.Named) (depth : Nat)
    (hstarts : (s.stack.read (Backtrace.blank depth)).starts = true) :
    (s.stack.read (Backtrace.blank depth)).Solid := by
  obtain ⟨frames, hholds, hnamed⟩ := h
  rw [hholds.read] at hstarts ⊢
  exact Backtrace.solid_view hnamed hstarts

theorem Fresh.counted (h : s.Fresh) : s.Counted P := by
  intro st hst
  rw [h.shared] at hst
  cases hst

theorem Fresh.acted_counted (h : s.Fresh) (acts : List Act) :
    (s.acted acts).AtRest ∧ (s.acted acts).Counted fun _ => True :=
  acted_invariant (P := fun s => s.AtRest ∧ s.Counted fun _ => True)
    (fun _ a ⟨hrest, hs⟩ => ⟨(hrest.act_effect a).2, hrest.act_counted hs (fun _ => trivial) a⟩)
    ⟨h.atRest, h.counted⟩ acts

theorem Fresh.acted_solid (h : s.Fresh) (hs : s.Named)
    (hacts : ∀ a ∈ acts, a.operation ≠ .push FrameId.absent) :
    (s.acted acts).AtRest ∧ (s.acted acts).Named ∧
      (s.acted acts).Counted fun b => b.starts = true → b.Solid := by
  induction acts using List.reverseRecOn with
  | nil => exact ⟨h.atRest, hs, h.counted⟩
  | append_singleton acts a ih =>
    obtain ⟨hrest, hnamed, hcounted⟩ := ih fun b hb => hacts b (List.mem_append_left [a] hb)
    rw [acted_concat]
    exact ⟨(hrest.act_effect a).2,
      hrest.act_named hnamed (hacts a (List.mem_append_right acts List.mem_cons_self)),
      hrest.act_counted hcounted hnamed.read a⟩

/-! ## The law -/

/-- The slots in use. -/
def held (s : Session) : List Slot := s.shared.store.elim [] Store.used

theorem Counted.held (hs : s.Counted P) :
    (s.held.map Slot.backtrace).Nodup ∧
      ∃ depth, ∀ slot ∈ s.held, slot.backtrace.length = depth ∧ slot.backtrace.starts = true ∧
        P slot.backtrace := by
  unfold Session.held
  cases hst : s.shared.store with
  | none => exact ⟨List.nodup_nil, 0, nofun⟩
  | some st =>
    obtain ⟨hnodup, hused⟩ := (hs st hst).used
    exact ⟨hnodup, st.depth, hused⟩

/-- The frames of the entries of stacks. -/
def shown (s : Session) : List (List (Frame FrameId)) :=
  s.snapshot.1.stackEntries.map Entry.frames

/-- No two slots hold backtraces that part out of sight. -/
def Apart (s : Session) : Prop :=
  ∀ a ∈ s.held, ∀ b ∈ s.held, ¬ a.backtrace.PartBehind b.backtrace

/-- **How far the entries of stacks are told apart.** -/
structure ToldApart (s : Session) : Prop where
  /-- There is one entry for every slot in use, in storage order, -/
  entries : s.snapshot.1.stackEntries = s.held.map Slot.entry
  /-- and no backtrace has two. -/
  nodup : (s.held.map Slot.backtrace).Nodup
  /-- Two entries show the same frames exactly if their backtraces part out of sight. -/
  alike : ∀ a ∈ s.held, ∀ b ∈ s.held,
    (a ≠ b ∧ a.entry.frames = b.entry.frames ↔ a.backtrace.PartBehind b.backtrace)
  /-- Exactly if no two do, no stack is split over entries, -/
  whole : s.shown.Nodup ↔ s.Apart
  /-- and there are as many entries as different stacks. -/
  number : s.shown.length = s.shown.toFinset.card ↔ s.Apart

theorem AtRest.toldApart (h : s.AtRest) (hs : s.Counted P) : s.ToldApart := by
  have hentries : s.snapshot.1.stackEntries = s.held.map Slot.entry := by
    rw [h.snapshot_eq, Snapshot.stackEntries_ofStore, held]
  obtain ⟨hnodup, depth, hheld⟩ := hs.held
  have halike : ∀ a ∈ s.held, ∀ b ∈ s.held,
      (a ≠ b ∧ a.entry.frames = b.entry.frames ↔ a.backtrace.PartBehind b.backtrace) := by
    intro a ha b hb
    have hlen : a.backtrace.length = b.backtrace.length := (hheld a ha).1.trans (hheld b hb).1.symm
    have hframes : a.entry.frames = b.entry.frames ↔ a.backtrace.named = b.backtrace.named :=
      ⟨map_function_injective, fun heq => congrArg (List.map Frame.function) heq⟩
    have hsame : a ≠ b ↔ a.backtrace ≠ b.backtrace :=
      not_congr ⟨congrArg Slot.backtrace, List.inj_on_of_nodup_map hnodup ha hb⟩
    rw [Backtrace.partBehind_iff hlen, hframes, hsame, and_comm]
  have hwhole : s.shown.Nodup ↔ s.Apart := by
    have hshown : s.shown = s.held.map fun a => a.entry.frames := by
      rw [shown, hentries, List.map_map]
      rfl
    rw [hshown, List.nodup_map_iff_inj_on hnodup.of_map]
    constructor
    · intro hinj a ha b hb hpart
      obtain ⟨hne, hframes⟩ := (halike a ha b hb).2 hpart
      exact hne (hinj a ha b hb hframes)
    · intro hapart a ha b hb hframes
      by_contra hne
      exact hapart a ha b hb ((halike a ha b hb).1 ⟨hne, hframes⟩)
  refine ⟨hentries, hnodup, halike, hwhole, ?_⟩
  rw [← hwhole, ← Multiset.coe_nodup, ← Multiset.toFinset_card_eq_card_iff_nodup]
  exact eq_comm

/-- Where all that is held is solid, stacks are told apart. -/
theorem Counted.apart (hs : s.Counted fun b => b.starts = true → b.Solid) : s.Apart := by
  obtain ⟨-, depth, hheld⟩ := hs.held
  intro a ha b hb
  obtain ⟨hlen, hstarts, hsolid⟩ := hheld a ha
  obtain ⟨hlen', hstarts', hsolid'⟩ := hheld b hb
  exact (hsolid hstarts).not_partBehind (hsolid' hstarts') (hlen.trans hlen'.symm)

/-- **One entry per backtrace, and one per stack unless anonymous frames come in**, over every run of a
profiler that was just made, with any trigger. A run in which none of those is ever on the shadow stack shows
every stack in one entry. -/
theorem stacks_told_apart (h : s.Fresh) (acts : List Act) :
    (s.acted acts).ToldApart ∧
      (s.Named → (∀ a ∈ acts, a.operation ≠ .push FrameId.absent) →
        (s.acted acts).shown.Nodup ∧
          (s.acted acts).shown.length = (s.acted acts).shown.toFinset.card) := by
  obtain ⟨hrest, hcounted⟩ := h.acted_counted acts
  have htold := hrest.toldApart hcounted
  refine ⟨htold, fun hs hacts => ?_⟩
  have hapart := (h.acted_solid hs hacts).2.2.apart
  exact ⟨htold.whole.2 hapart, htold.number.2 hapart⟩

/-- Three stacks, the last of them deeper than a slot holds, and no anonymous frame. -/
theorem three_stacks_told_apart :
    let s : Session := { config := ⟨2, 4⟩, stack := .new 4, clock := .epoch }
    let acts : List Act :=
      [.call (.start ⟨1, 0⟩), .call (.push ⟨1⟩), .call .fire, .call (.push ⟨2⟩), .call .fire,
        .call (.push ⟨2⟩), .call .fire, .call .sampleNow]
    s.Fresh ∧ s.Named ∧ (∀ a ∈ acts, a.operation ≠ .push FrameId.absent) ∧ (s.acted acts).ToldApart ∧
      (s.acted acts).shown =
        [[.function ⟨1⟩], [.function ⟨2⟩, .function ⟨1⟩], [.function ⟨2⟩, .function ⟨2⟩]] ∧
      (s.acted acts).shown.Nodup ∧ (s.acted acts).shown.toFinset.card = 3 := by
  intro s acts
  have hfresh : s.Fresh := ⟨rfl, rfl, rfl, rfl, rfl, rfl⟩
  have hnamed : s.Named := ⟨[], ShadowStack.holds_new 4, List.not_mem_nil⟩
  have hacts : ∀ a ∈ acts, a.operation ≠ .push FrameId.absent := by
    intro a ha hpush
    simp only [acts, List.mem_cons, List.not_mem_nil, or_false] at ha
    rcases ha with rfl | rfl | rfl | rfl | rfl | rfl | rfl | rfl <;> cases hpush
  have hshown : (s.acted acts).shown =
      [[.function ⟨1⟩], [.function ⟨2⟩, .function ⟨1⟩], [.function ⟨2⟩, .function ⟨2⟩]] := by
    decide +kernel
  obtain ⟨htold, hwhole⟩ := stacks_told_apart hfresh acts
  obtain ⟨hnodup, hnumber⟩ := hwhole hnamed hacts
  rw [hshown] at hnumber
  exact ⟨hfresh, hnamed, hacts, htold, hshown, hnodup, hshown ▸ hnumber.symm⟩

/-- **An anonymous frame splits a stack.** Two backtraces that differ behind it only have a slot each, and
are shown as one stack twice, with a part of its count each. -/
theorem anonymous_frame_splits :
    let s : Session := { config := ⟨3, 4⟩, stack := .new 16, clock := .epoch }
    let acts : List Act :=
      [.call (.start ⟨1, 0⟩), .call (.push ⟨1⟩), .call (.push FrameId.absent), .call (.push ⟨3⟩),
        .call .fire, .call .pop, .call .pop, .call .pop, .call (.push ⟨2⟩),
        .call (.push FrameId.absent), .call (.push ⟨3⟩), .call .fire]
    s.Fresh ∧ (s.acted acts).snapshot.1.stackEntries = [⟨[.function ⟨3⟩], 1⟩, ⟨[.function ⟨3⟩], 1⟩] ∧
      ¬ (s.acted acts).shown.Nodup ∧ (s.acted acts).shown.toFinset.card = 1 := by
  intro s acts
  have hentries : (s.acted acts).snapshot.1.stackEntries =
      [⟨[.function ⟨3⟩], 1⟩, ⟨[.function ⟨3⟩], 1⟩] := by decide +kernel
  have hshown : (s.acted acts).shown = [[.function ⟨3⟩], [.function ⟨3⟩]] := by
    rw [shown, hentries]
    rfl
  refine ⟨⟨rfl, rfl, rfl, rfl, rfl, rfl⟩, hentries, ?_, ?_⟩
  · rw [hshown]
    decide
  · rw [hshown]
    rfl

end Session

end StackSampler
