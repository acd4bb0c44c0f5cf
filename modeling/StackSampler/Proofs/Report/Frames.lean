import StackSampler.Proofs.Report.Collapsed
import StackSampler.Proofs.Text.Split

/-!
# Frames in a collapsed stack

A collapsed stack joins the names of its frames by semicolons. No name that is shown holds one, so parting
the text at its semicolons gives the frames back, each of them and no other, and the innermost one is
what is behind the last semicolon.

* `frameText_eq`: how a name is shown, and which characters it has then.
* `Collapsed.splitOn_join`, `Collapsed.leaf_join`: joining is undone.
* `Snapshot.frames_legible`: what can be read off the stack of an entry.
-/

namespace StackSampler

variable {last : String} {names : List String}

/-! ## Names -/

/-- **How a name is shown**: as it is, unless it would be taken apart or not be seen. -/
def shownName (name : String) : String :=
  if name = "" ∨ ';' ∈ name.toList ∨ ' ' ∈ name.toList then "[unnamed]" else name

theorem frameText_eq (name : String) : frameText name = shownName name := by
  simp [frameText, placeholder, shownName, or_assoc]

theorem semicolon_notMem_frameText (name : String) : ';' ∉ (frameText name).toList := by
  rw [frameText_eq, shownName]
  split
  · decide
  · next h => exact fun hmem => h (.inr (.inl hmem))

theorem blank_notMem_frameText (name : String) : ' ' ∉ (frameText name).toList := by
  rw [frameText_eq, shownName]
  split
  · decide
  · next h => exact fun hmem => h (.inr (.inr hmem))

namespace Collapsed

/-! ## Joined frames -/

theorem toList_join (names : List String) :
    (join names).toList = [';'].intercalate (names.map String.toList) := String.toList_intercalate

/-- **Frames are told apart** again where they were joined. -/
theorem splitOn_join (hnames : ∀ n ∈ names, ';' ∉ n.toList) (hne : names ≠ []) :
    (join names).toList.splitOn ';' = names.map String.toList := by
  rw [toList_join]
  exact List.splitOn_intercalate ';' (List.forall_mem_map.2 hnames) (mt List.map_eq_nil_iff.1 hne)

/-- **The innermost frame** is behind the last semicolon. -/
theorem leaf_join (hlast : ';' ∉ last.toList) (front : List String) (weight : ℕ) :
    leaf ⟨join (front ++ [last]), weight⟩ = last := by
  have hbehind : (join (front ++ [last])).toList.reverse.takeWhile (· != ';') = last.toList.reverse := by
    cases front with
    | nil =>
      -- a single frame is the whole text
      have hjoin : join ([] ++ [last]) = last := String.intercalate_singleton
      rw [hjoin]
      exact List.takeWhile_eq_self_iff.2 (Text.bne_of_mem_reverse hlast)
    | cons first front =>
      have hjoin : (join (first :: front ++ [last])).toList =
          (join (first :: front)).toList ++ ';' :: last.toList := by
        rw [join, String.intercalate_append_of_ne_nil (List.cons_ne_nil _ _) (List.cons_ne_nil _ _),
          String.intercalate_singleton, String.toList_append, String.toList_append, List.append_assoc]
        rfl
      rw [hjoin, Text.takeWhile_reverse_append_cons hlast]
  rw [leaf, hbehind, List.reverse_reverse, String.ofList_toList]

end Collapsed

/-! ## Entries -/

namespace Entry

variable {e : Entry String}

theorem stack_collapse (h : e.isOverflow = false) :
    e.collapse.stack = Collapsed.join (e.functions.reverse.map frameText) := by
  rw [collapse, h]
  rfl

/-- **What can be read off the stack** of an entry. -/
structure Legible (e : Entry String) (c : Collapsed) : Prop where
  weight : c.weight = e.count
  /-- Parted at its semicolons the stack is the names of the entry, the outermost first. -/
  frames : (c.stack.toList.splitOn ';').map String.ofList = e.functions.reverse.map shownName
  length : (c.stack.toList.splitOn ';').length = e.functions.length
  leaf : ∀ name, e.functions.head? = some name → c.leaf = shownName name

theorem legible_collapse (h : e.isOverflow = false) (hne : e.functions ≠ []) :
    e.Legible e.collapse := by
  have hshown : ∀ n ∈ e.functions.reverse.map frameText, ';' ∉ n.toList :=
    List.forall_mem_map.2 fun name _ => semicolon_notMem_frameText name
  have hsome : e.functions.reverse.map frameText ≠ [] := by
    rwa [Ne, List.map_eq_nil_iff, List.reverse_eq_nil_iff]
  have hparts := Collapsed.splitOn_join hshown hsome
  rw [← stack_collapse h] at hparts
  refine ⟨rfl, ?_, ?_, fun name hname => ?_⟩
  · rw [hparts, List.map_map, List.map_map]
    refine List.map_congr_left fun name _ => ?_
    show String.ofList (frameText name).toList = _
    rw [String.ofList_toList, frameText_eq]
  · rw [hparts, List.length_map, List.length_map, List.length_reverse]
  · obtain ⟨outer, hfunctions⟩ := List.head?_eq_some_iff.1 hname
    have hinner : e.functions.reverse.map frameText =
        outer.reverse.map frameText ++ [frameText name] := by
      rw [hfunctions, List.reverse_cons, List.map_append, List.map_singleton]
    rw [← frameText_eq, ← Collapsed.leaf_join (semicolon_notMem_frameText name) _ e.count, ← hinner,
      ← stack_collapse h]
    rfl

end Entry

namespace Snapshot

theorem mem_collapse_iff {s : Snapshot String} {c : Collapsed} :
    c ∈ s.collapse ↔ ∃ e ∈ s.entries, 0 < e.count ∧ e.collapse = c := by
  rw [s.collapse_perm.mem_iff, List.mem_map]
  simp only [sampled, List.mem_filter, decide_eq_true_eq, and_assoc]

/-- **Frames survive collapsing**: every entry of a stack that has samples and frames is found again,
with its frames in their order, whatever characters the names are made of. -/
theorem frames_legible (s : Snapshot String) (e : Entry String) (he : e ∈ s.entries)
    (hcount : 0 < e.count) (hstack : e.isOverflow = false) (hframes : e.functions ≠ []) :
    e.collapse ∈ s.collapse ∧ e.Legible e.collapse := by
  have hmem : e.collapse ∈ s.collapse := mem_collapse_iff.2 ⟨e, he, hcount, rfl⟩
  exact ⟨hmem, Entry.legible_collapse hstack hframes⟩

/-- Names with every separator, the empty name and a newline, around an overflow mark. -/
theorem frames_legible_odd :
    let e : Entry String :=
      ⟨[.function "a;b", .function "", .overflow, .function "x\ny", .function "größe", .function "c d"], 3⟩
    let s : Snapshot String :=
      { version := schemaVersion, mode := .sampling, startTime := none, stopTime := .epoch
        interval := none, samples := 4, entries := [.overflow 1, e] }
    e ∈ s.entries ∧ 0 < e.count ∧ e.isOverflow = false ∧ e.functions ≠ [] ∧
      ⟨"[unnamed];größe;x\ny;[unnamed];[unnamed]", 3⟩ ∈ s.collapse ∧ e.collapse.leaf = "[unnamed]" ∧
      (e.collapse.stack.toList.splitOn ';').length = 5 := by
  intro e s
  have he : e ∈ s.entries := List.mem_cons_of_mem _ List.mem_cons_self
  have hne : e.functions ≠ [] := by decide
  obtain ⟨hmem, hlegible⟩ := frames_legible s e he (by decide) rfl hne
  have hcollapse : e.collapse = ⟨"[unnamed];größe;x\ny;[unnamed];[unnamed]", 3⟩ := by decide +kernel
  have hleaf : shownName "a;b" = "[unnamed]" := by decide
  exact ⟨he, by decide, rfl, hne, hcollapse ▸ hmem, (hlegible.leaf _ rfl).trans hleaf, hlegible.length⟩

end Snapshot

end StackSampler
