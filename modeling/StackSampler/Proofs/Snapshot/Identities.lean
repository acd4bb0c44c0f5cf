import StackSampler.Proofs.Frame.Symbols
import StackSampler.Proofs.Snapshot.Names

/-!
# Identities settled once and for all

A snapshot that was given names can be given its identities back by asking the symbol table for each name
again, frame after frame, with the table passed on from one to the next: no call finds a new name, so
the table stays as it is and every frame gets the identity that it had.

* `Snapshot.mapFramesM`: changing frames by actions; `run_mapFramesM`: by actions that leave the state
  alone.
* `SymbolTable.identities_settled`: the law of identities and names.
-/

namespace StackSampler

/-! ## Frame after frame -/

section Maps

variable {φ ψ : Type} {m : Type → Type} [Monad m]

/-- Changes a function frame by an action. -/
def Frame.mapM (g : φ → m ψ) : Frame φ → m (Frame ψ)
  | .overflow => pure .overflow
  | .function f => .function <$> g f

def Entry.mapM (g : φ → m ψ) (e : Entry φ) : m (Entry ψ) :=
  (fun frames => ⟨frames, e.count⟩) <$> e.frames.mapM (Frame.mapM g)

/-- Changes the function frames by actions, in the order in which they stand, and nothing else. -/
def Snapshot.mapFramesM (g : φ → m ψ) (s : Snapshot φ) : m (Snapshot ψ) :=
  (fun entries =>
    { version := s.version, mode := s.mode, startTime := s.startTime, stopTime := s.stopTime
      interval := s.interval, samples := s.samples, entries }) <$> s.entries.mapM (Entry.mapM g)

end Maps

section States

variable {σ φ ψ : Type} {g : φ → StateM σ ψ} {h : φ → ψ} {t : σ}

theorem Entry.run_mapM {e : Entry φ} (hg : ∀ f ∈ e.functions, (g f).run t = (h f, t)) :
    (e.mapM g).run t = (e.map h, t) := by
  have hframes : (e.frames.mapM (Frame.mapM g)).run t = (e.frames.map (Frame.map h), t) := by
    refine run_mapM_eq_map fun frame hframe => ?_
    cases frame with
    | overflow => rfl
    | function f =>
      have hf := hg f (mem_functions.2 hframe)
      rw [Frame.mapM, StateT.run_map, hf]
      rfl
  rw [Entry.mapM, StateT.run_map, hframes]
  rfl

/-- **Actions that leave the state alone** change the frames as the function does that says what they
answer. -/
theorem Snapshot.run_mapFramesM {s : Snapshot φ}
    (hg : ∀ e ∈ s.entries, ∀ f ∈ e.functions, (g f).run t = (h f, t)) :
    (s.mapFramesM g).run t = (s.mapFrames h, t) := by
  have hentries : (s.entries.mapM (Entry.mapM g)).run t = (s.entries.map (Entry.map h), t) :=
    run_mapM_eq_map fun e he => Entry.run_mapM (hg e he)
  rw [mapFramesM, StateT.run_map, hentries]
  rfl

end States

section Inverse

variable {φ ψ : Type} {g : φ → ψ} {k : ψ → φ}

theorem map_eq_self {α : Type} {f : α → α} {l : List α} (h : ∀ a ∈ l, f a = a) : l.map f = l :=
  (List.map_congr_left h).trans (List.map_id' l)

/-- A change that is undone for every frame is undone. -/
theorem Snapshot.mapFrames_mapFrames_eq {s : Snapshot φ}
    (hk : ∀ e ∈ s.entries, ∀ f ∈ e.functions, k (g f) = f) : (s.mapFrames g).mapFrames k = s := by
  have hentry : ∀ e ∈ s.entries, (e.map g).map k = e := by
    intro e he
    have hframe : ∀ frame ∈ e.frames, (Frame.map k ∘ Frame.map g) frame = frame := by
      intro frame hframe
      cases frame with
      | overflow => rfl
      | function f => exact congrArg Frame.function (hk e he f (Entry.mem_functions.2 hframe))
    have hframes : (e.frames.map (Frame.map g)).map (Frame.map k) = e.frames := by
      rw [List.map_map]
      exact map_eq_self hframe
    exact congrArg (Entry.mk · e.count) hframes
  have hentries : (s.entries.map (Entry.map g)).map (Entry.map k) = s.entries := by
    rw [List.map_map]
    exact map_eq_self hentry
  exact congrArg (fun entries => { s with entries }) hentries

end Inverse

/-! ## The law -/

namespace SymbolTable

variable {t : SymbolTable} {calls : List String}

/-- **Resolving is undone by interning**, for frames whose identities have names. The table does not
change on the way. -/
theorem run_interning_resolve (hmirrored : t.Mirrored) {s : Snapshot FrameId}
    (hs : ∀ e ∈ s.entries, ∀ f ∈ e.functions, (t.resolve f).isSome) :
    ((s.resolve t).mapFramesM interning).run t = (s, t) := by
  have hback : ∀ e ∈ s.entries, ∀ f ∈ e.functions, t.intern (t.display f) = (f, t) := by
    intro e he f hf
    obtain ⟨name, hname⟩ := Option.isSome_iff_exists.1 (hs e he f hf)
    rw [display, hname, Option.getD_some]
    exact intern_of_resolve hmirrored hname
  have hnamed : ∀ e ∈ (s.resolve t).entries, ∀ name ∈ e.functions,
      (interning name).run t = ((t.intern name).1, t) := by
    intro e he name hname
    obtain ⟨entry, hentry, rfl⟩ := List.mem_map.1 he
    rw [Entry.functions_map] at hname
    obtain ⟨f, hf, rfl⟩ := List.mem_map.1 hname
    have hsame : (t.intern (t.display f)).2 = t := congrArg Prod.snd (hback entry hentry f hf)
    exact Prod.ext rfl hsame
  have hrestored : (s.resolve t).mapFrames (fun name => (t.intern name).1) = s :=
    Snapshot.mapFrames_mapFrames_eq fun e he f hf => congrArg Prod.fst (hback e he f hf)
  rw [Snapshot.run_mapFramesM hnamed, hrestored]

/-- **What a table says that was filled by calls**, from the empty table on. -/
structure Settled (calls : List String) : Prop where
  /-- Its names and its map mirror each other. -/
  mirrored : (ofList calls).Mirrored
  /-- There is one identity for every different name, -/
  size : (ofList calls).size = calls.toFinset.card
  /-- the calls answer 1, 2, 3, … up to that number, -/
  handed : ∀ f, f ∈ answers calls ↔ 1 ≤ f.toNat ∧ f.toNat ≤ (ofList calls).size
  /-- and never the absent frame. -/
  absent : FrameId.absent ∉ answers calls
  /-- A name that is interned again gets the identity that it got from each call, and nothing changes. -/
  again : answers calls = calls.map (fun name => ((ofList calls).intern name).1) ∧
    ∀ name ∈ calls, ((ofList calls).intern name).2 = ofList calls
  back : ∀ name ∈ calls, (ofList calls).resolve ((ofList calls).intern name).1 = some name
  apart : ∀ a ∈ calls, ∀ b ∈ calls,
    (((ofList calls).intern a).1 = ((ofList calls).intern b).1 ↔ a = b)
  resolves : ∀ f, ((ofList calls).resolve f).isSome ↔ 1 ≤ f.toNat ∧ f.toNat ≤ (ofList calls).size
  /-- Later calls give no name another identity, and no identity another name: all that they change is that
  identities get names that were not handed out before. -/
  kept : ∀ more,
    (∀ name ∈ calls, ((ofList (calls ++ more)).intern name).1 = ((ofList calls).intern name).1) ∧
      ∀ f, (ofList (calls ++ more)).resolve f = (ofList calls).resolve f ∨
        (ofList calls).size < f.toNat ∧ f.toNat ≤ (ofList (calls ++ more)).size
  /-- A snapshot of identities that were handed out is restored from its names. -/
  restored : ∀ s : Snapshot FrameId, (∀ e ∈ s.entries, ∀ f ∈ e.functions, f ∈ answers calls) →
    ((s.resolve (ofList calls)).mapFramesM interning).run (ofList calls) = (s, ofList calls)

/-- **Names and identities are settled when they are handed out**, whatever names are interned, in
whatever order and however often; and names and map stay inverse to each other. A table has fewer than 2⁶⁴ names, as it is kept in memory; of that
many one would be given the absent frame. -/
theorem identities_settled (calls : List String) (hfits : (ofList calls).size < 2 ^ 64) :
    Settled calls := by
  have hmirrored := mirrored_ofList calls
  have hhanded : ∀ f, f ∈ answers calls ↔ 1 ≤ f.toNat ∧ f.toNat ≤ (ofList calls).size := fun f =>
    (mem_answers_iff hfits).trans isSome_resolve_iff
  have hback : ∀ name ∈ calls, (ofList calls).resolve ((ofList calls).intern name).1 = some name :=
    fun name hmem => resolve_intern hmirrored hfits (mem_ofList.2 hmem)
  have hagain : ∀ name ∈ calls, ((ofList calls).intern name).2 = ofList calls :=
    fun name hmem => intern_snd_of_mem hmirrored (mem_ofList.2 hmem)
  have hgrows (more) : (ofList calls).names.toList <+: (ofList (calls ++ more)).names.toList := by
    rw [ofList_append]
    exact (internAll_grows hmirrored more).1
  refine ⟨hmirrored, size_ofList calls, hhanded, fun h => ?_, ⟨answers_eq calls, hagain⟩, hback,
    fun a ha b hb => ?_, fun f => isSome_resolve_iff,
    fun more => ⟨fun name hmem => ?_, resolve_kept (hgrows more)⟩, fun s hs => ?_⟩
  · have hpos := ((hhanded _).1 h).1
    exact absurd hpos (by decide)
  · refine ⟨fun heq => ?_, fun heq => heq ▸ rfl⟩
    have hname := hback a ha
    rw [heq, hback b hb] at hname
    exact (Option.some.inj hname).symm
  · exact intern_settled hmirrored (mirrored_ofList _) ((hagain name hmem).symm ▸ hgrows more)
  · exact run_interning_resolve hmirrored fun e he f hf =>
      (mem_answers_iff hfits).1 (hs e he f hf)

/-- A name that is called for twice, the empty name, and an entry with an overflow mark among its
frames. -/
theorem identities_settled_twice :
    let calls := ["eval", "", "eval", "größe"]
    let s : Snapshot FrameId :=
      { version := schemaVersion, mode := .sampling, startTime := none, stopTime := .epoch
        interval := none, samples := 6
        entries := [.overflow 2, ⟨[.function ⟨3⟩, .overflow, .function ⟨1⟩], 4⟩, ⟨[.function ⟨2⟩], 0⟩] }
    (ofList calls).size < 2 ^ 64 ∧ answers calls = [⟨1⟩, ⟨2⟩, ⟨1⟩, ⟨3⟩] ∧ (ofList calls).size = 3 ∧
      (ofList calls).resolve ((ofList calls).intern "eval").1 = some "eval" ∧
      (∀ e ∈ s.entries, ∀ f ∈ e.functions, f ∈ answers calls) ∧
      ((s.resolve (ofList calls)).mapFramesM interning).run (ofList calls) = (s, ofList calls) := by
  intro calls s
  have hfits : (ofList calls).size < 2 ^ 64 := by decide +kernel
  have hanswers : answers calls = [⟨1⟩, ⟨2⟩, ⟨1⟩, ⟨3⟩] := by decide +kernel
  have hs : ∀ e ∈ s.entries, ∀ f ∈ e.functions, f ∈ answers calls := by
    rw [hanswers]
    decide
  have hsettled := identities_settled calls hfits
  exact ⟨hfits, hanswers, hsettled.size, hsettled.back _ List.mem_cons_self, hs,
    hsettled.restored s hs⟩

end SymbolTable

end StackSampler
