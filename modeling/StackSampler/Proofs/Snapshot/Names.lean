import StackSampler.Proofs.Snapshot.RoundTrip

/-!
# Names for frames

Resolving a snapshot gives its function frames names. It changes nothing else, whatever the symbol table
makes of an identity: not the header, not a count, and no entry becomes the overflow entry or stops
being it.
-/

namespace StackSampler

variable {φ ψ : Type} {g : φ → ψ} {e : Entry φ} {s : Snapshot φ}

theorem Entry.count_map (g : φ → ψ) (e : Entry φ) : (e.map g).count = e.count := rfl

theorem Entry.isOverflow_map (g : φ → ψ) (e : Entry φ) : (e.map g).isOverflow = e.isOverflow := by
  obtain ⟨frames, count⟩ := e
  match frames with
  | [] | [.overflow] | [.function _] => rfl
  | .overflow :: _ :: _ | .function _ :: _ :: _ => rfl

theorem Entry.mem_functions {f : φ} : f ∈ e.functions ↔ .function f ∈ e.frames := by
  rw [functions, List.mem_filterMap]
  constructor
  · rintro ⟨frame, hframe, hf⟩
    cases frame with
    | overflow => cases hf
    | function f' =>
      cases hf
      exact hframe
  · exact fun hf => ⟨_, hf, rfl⟩

theorem Entry.functions_map (g : φ → ψ) (e : Entry φ) : (e.map g).functions = e.functions.map g := by
  rw [functions, map, List.filterMap_map, functions, List.map_filterMap]
  congr 1
  funext frame
  cases frame <;> rfl

namespace Snapshot

theorem entriesTotal_mapFrames (g : φ → ψ) (s : Snapshot φ) :
    (s.mapFrames g).entriesTotal = s.entriesTotal := by
  simp only [entriesTotal, mapFrames, List.map_map, Function.comp_def, Entry.count_map]

theorem stackEntries_mapFrames (g : φ → ψ) (s : Snapshot φ) :
    (s.mapFrames g).stackEntries = s.stackEntries.map (Entry.map g) := by
  simp only [stackEntries, mapFrames, List.filter_map, Function.comp_def, Entry.isOverflow_map]

theorem overflowCount_mapFrames (g : φ → ψ) (s : Snapshot φ) :
    (s.mapFrames g).overflowCount = s.overflowCount := by
  simp only [overflowCount, mapFrames, List.find?_map, Option.map_map, Function.comp_def,
    Entry.isOverflow_map, Entry.count_map]

theorem Sized.mapFrames {time : Instant → Prop} (h : s.Sized time) (g : φ → ψ) :
    (s.mapFrames g).Sized time := by
  refine ⟨h.startTime, h.stopTime, h.interval, h.samples, fun e he => ?_⟩
  obtain ⟨entry, hentry, rfl⟩ := List.mem_map.1 he
  exact h.counts entry hentry

end Snapshot

end StackSampler
