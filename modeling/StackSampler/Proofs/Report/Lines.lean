import StackSampler.Proofs.Command.RecordedProfile
import StackSampler.Proofs.Frame.Symbols
import StackSampler.Proofs.Report.Frames

/-!
# Collapsed text read back

A text of collapsed stacks has three separators: newlines between lines, a blank in front of the weight,
and semicolons between frames. Names that hold a blank or a semicolon give way to a placeholder. Names
that hold a newline do not: such a name breaks its line in two, and as the names on the line have no
blank, the first half has no weight and cannot be read. Other texts are read back as they were written.

* `Collapsed.ofText?`: reading a text.
* `Collapsed.ofText?_text`, `ofText?_text_eq_none`: which texts are read back, and what becomes of the
  others.
* `Snapshot.newline_mem_collapse_iff`: which snapshots have a name that breaks a line.
* `Session.collapsed_read_back`: the law, for every run.
-/

namespace StackSampler

/-! ## All or none -/

section Options

variable {α β : Type} {f : α → Option β} {l : List α}

/-- What is read back piece by piece is read back. -/
theorem mapM_map_eq_some {g : β → α} {l : List β} (h : ∀ b ∈ l, f (g b) = some b) :
    (l.map g).mapM f = some l := by
  induction l with
  | nil => rfl
  | cons b l ih =>
    obtain ⟨hb, hl⟩ := List.forall_mem_cons.1 h
    rw [List.map_cons, List.mapM_cons, hb, ih hl]
    rfl

/-- One piece that cannot be read is enough. -/
theorem mapM_eq_none {a : α} (hmem : a ∈ l) (h : f a = none) : l.mapM f = none := by
  induction l with
  | nil => cases hmem
  | cons b l ih =>
    rw [List.mapM_cons]
    rcases List.mem_cons.1 hmem with rfl | hmem
    · rw [h]
      rfl
    · rw [ih hmem]
      cases f b <;> rfl

end Options

namespace Collapsed

variable {c : Collapsed} {collapsed : List Collapsed} {l : List Char}

/-! ## Reading -/

/-- A line, parted at its last blank: the stack, and a weight in decimal digits. -/
def ofLine? (line : List Char) : Option Collapsed :=
  let weight := (line.reverse.takeWhile (· != ' ')).reverse
  match line.reverse.dropWhile (· != ' ') with
  | [] => none
  | _ :: stack =>
    if !weight.isEmpty && weight.all Char.isDigit then
      some ⟨String.ofList stack.reverse, Decimal.value weight⟩
    else none

/-- The stacks of a text, one for each line of it. The empty text has none. -/
def ofText? (text : String) : Option (List Collapsed) :=
  if text = "" then some [] else (text.toList.splitOn '\n').mapM ofLine?

theorem toList_line (c : Collapsed) : c.line.toList = c.stack.toList ++ ' ' :: Decimal.digits c.weight :=
  String.toList_ofList

/-- **A line is read back.** The weight has no blank, so the last one is where the line was joined. -/
theorem ofLine?_line (c : Collapsed) : ofLine? c.line.toList = some c := by
  have hblank : ' ' ∉ Decimal.digits c.weight := Decimal.notMem_digits (by decide)
  have hweight : (!(Decimal.digits c.weight).isEmpty &&
      (Decimal.digits c.weight).all Char.isDigit) = true := by
    rw [Bool.and_eq_true, Bool.not_eq_true', List.isEmpty_eq_false_iff, List.all_eq_true]
    exact ⟨Decimal.digits_ne_nil _, fun d => Decimal.isDigit_of_mem_digits⟩
  rw [ofLine?, toList_line, Text.takeWhile_reverse_append_cons hblank,
    Text.dropWhile_reverse_append_cons hblank]
  simp only [List.reverse_reverse, if_pos hweight, Decimal.value_digits, String.ofList_toList]

theorem ofLine?_of_notMem (h : ' ' ∉ l) : ofLine? l = none := by
  have hall : l.reverse.dropWhile (· != ' ') = [] :=
    List.dropWhile_eq_nil_iff.2 (Text.bne_of_mem_reverse h)
  rw [ofLine?, hall]

/-! ## Texts -/

theorem toList_text (collapsed : List Collapsed) :
    (text collapsed).toList = ['\n'].intercalate (collapsed.map fun c => c.line.toList) := by
  rw [text, String.toList_intercalate, List.map_map]
  rfl

theorem splitOn_text (hne : collapsed ≠ []) :
    (text collapsed).toList.splitOn '\n' =
      collapsed.flatMap fun c => c.line.toList.splitOn '\n' := by
  rw [toList_text, Text.splitOn_intercalate_eq_flatMap '\n' (mt List.map_eq_nil_iff.1 hne),
    List.flatMap_map]

/-- Only without stacks there is no text. -/
theorem text_eq_empty_iff : text collapsed = "" ↔ collapsed = [] := by
  refine ⟨fun h => ?_, fun h => h ▸ rfl⟩
  by_contra hne
  obtain ⟨c, hc⟩ := List.exists_mem_of_ne_nil _ hne
  -- the blank of any line is in the text
  have hblank : ' ' ∈ (text collapsed).toList := by
    rw [toList_text, Text.mem_intercalate (by decide)]
    refine ⟨c.line.toList, List.mem_map_of_mem hc, ?_⟩
    rw [toList_line]
    exact List.mem_append_right _ List.mem_cons_self
  rw [h] at hblank
  exact absurd hblank List.not_mem_nil

theorem newline_mem_line_iff : '\n' ∈ c.line.toList ↔ '\n' ∈ c.stack.toList := by
  have hweight : '\n' ∉ ' ' :: Decimal.digits c.weight := by
    rw [List.mem_cons, not_or]
    exact ⟨by decide, Decimal.notMem_digits (by decide)⟩
  rw [toList_line, List.mem_append, or_iff_left hweight]

/-- Without newlines in the stacks the lines of the text are those that were written. -/
theorem splitOn_text_of_notMem (hne : collapsed ≠ []) (h : ∀ c ∈ collapsed, '\n' ∉ c.stack.toList) :
    (text collapsed).toList.splitOn '\n' = collapsed.map fun c => c.line.toList := by
  have hlines : ∀ l ∈ collapsed.map fun c => c.line.toList, '\n' ∉ l :=
    List.forall_mem_map.2 fun c hc => mt newline_mem_line_iff.1 (h c hc)
  rw [toList_text]
  exact List.splitOn_intercalate '\n' hlines (mt List.map_eq_nil_iff.1 hne)

/-- **Texts without newlines in the stacks** are read back. -/
theorem ofText?_text (h : ∀ c ∈ collapsed, '\n' ∉ c.stack.toList) :
    ofText? (text collapsed) = some collapsed := by
  unfold ofText?
  by_cases hne : collapsed = []
  · rw [hne]
    rfl
  · rw [if_neg (mt text_eq_empty_iff.1 hne), splitOn_text_of_notMem hne h]
    exact mapM_map_eq_some fun c _ => ofLine?_line c

/-- **A newline in a stack** leaves a line without a weight, and the text cannot be read. -/
theorem ofText?_text_eq_none (hc : c ∈ collapsed) (hnewline : '\n' ∈ c.stack.toList)
    (hblank : ' ' ∉ c.stack.toList) : ofText? (text collapsed) = none := by
  obtain ⟨first, rest, hstack, hfirst⟩ := List.eq_append_cons_of_mem hnewline
  have hne : collapsed ≠ [] := List.ne_nil_of_mem hc
  -- what stands in front of the newline is a line of its own
  have hmem : first ∈ (text collapsed).toList.splitOn '\n' := by
    rw [splitOn_text hne]
    refine List.mem_flatMap.2 ⟨c, hc, ?_⟩
    rw [toList_line, hstack, List.append_assoc, List.cons_append,
      List.splitOn_append_cons_self_of_not_mem hfirst]
    exact List.mem_cons_self
  have hshort : ' ' ∉ first := fun h => hblank (hstack ▸ List.mem_append_left _ h)
  rw [ofText?, if_neg (mt text_eq_empty_iff.1 hne)]
  exact mapM_eq_none hmem (ofLine?_of_notMem hshort)

/-! ## Files -/

/-- A text without the newline at its end, if it has one. -/
def withoutEnd (text : String) : String :=
  if text.toList.getLast? = some '\n' then String.ofList text.toList.dropLast else text

/-- The file holds the text, and an end for the last line. -/
theorem withoutEnd_collapsedFile (collapsed : List Collapsed) :
    withoutEnd (Files.collapsedFile collapsed) = text collapsed := by
  cases collapsed with
  | nil => rfl
  | cons c rest =>
    have hfile : (Files.collapsedFile (c :: rest)).toList = (text (c :: rest)).toList ++ ['\n'] :=
      String.toList_append
    rw [withoutEnd, hfile, List.getLast?_concat, if_pos rfl, List.dropLast_concat, String.ofList_toList]

/-- **A list of stacks that is read back** as it was written. -/
structure ReadsBack (collapsed : List Collapsed) : Prop where
  text : ofText? (text collapsed) = some collapsed
  /-- There is one line for each stack, and only the empty text has no stack. -/
  lines : collapsed ≠ [] → ((Collapsed.text collapsed).toList.splitOn '\n').length = collapsed.length
  /-- Where a file can be written, it can, and it is read back without its last newline. -/
  file : ∀ path t t₀ content, (Files.write path content).run.run t = (.ok (), t₀) →
    ∃ t' written, (Files.writeCollapsed path collapsed).run.run t = (.ok (), t') ∧
      t'.find path = .ok (.file (.ofText written)) ∧ ofText? (withoutEnd written) = some collapsed

/-- **What is read back**: stacks without newlines. -/
theorem readsBack_iff (hblank : ∀ c ∈ collapsed, ' ' ∉ c.stack.toList) :
    ReadsBack collapsed ↔ ∀ c ∈ collapsed, '\n' ∉ c.stack.toList := by
  constructor
  · intro h c hc hnewline
    have hnone := ofText?_text_eq_none hc hnewline (hblank c hc)
    rw [h.text] at hnone
    cases hnone
  · intro h
    refine ⟨ofText?_text h, fun hne => ?_, fun path t t₀ content hwritable => ?_⟩
    · rw [splitOn_text_of_notMem hne h, List.length_map]
    · obtain ⟨t', hwrite⟩ := Files.write_any hwritable (.ofText (Files.collapsedFile collapsed))
      refine ⟨t', _, hwrite, Files.find_of_write hwrite, ?_⟩
      rw [withoutEnd_collapsedFile, ofText?_text h]

end Collapsed

/-! ## Names -/

/-- **A name that breaks its line**: it holds a newline, and is shown as it is. -/
def BreaksLine (name : String) : Prop :=
  '\n' ∈ name.toList ∧ ';' ∉ name.toList ∧ ' ' ∉ name.toList

theorem newline_mem_frameText_iff (name : String) : '\n' ∈ (frameText name).toList ↔ BreaksLine name := by
  rw [frameText_eq, shownName]
  split
  · next h =>
    refine iff_of_false (by decide) fun hbreaks => ?_
    rcases h with rfl | h | h
    · exact absurd hbreaks.1 List.not_mem_nil
    · exact hbreaks.2.1 h
    · exact hbreaks.2.2 h
  · next h =>
    obtain ⟨-, hsemicolon, hblank⟩ := by simpa only [not_or] using h
    exact ⟨fun hmem => ⟨hmem, hsemicolon, hblank⟩, And.left⟩

namespace Entry

variable {e : Entry String} {c : Char}

theorem stack_collapse_overflow (h : e.isOverflow = true) : e.collapse.stack = overflowName := by
  rw [collapse, h]
  rfl

/-- What is in the stack of an entry, but for semicolons, comes from one of its names. -/
theorem mem_stack_collapse_iff (h : e.isOverflow = false) (hc : c ≠ ';') :
    c ∈ e.collapse.stack.toList ↔ ∃ name ∈ e.functions, c ∈ (frameText name).toList := by
  rw [stack_collapse h, Collapsed.toList_join, Text.mem_intercalate hc]
  simp only [List.mem_map, List.mem_reverse, exists_exists_and_eq_and]

theorem blank_notMem_collapse (e : Entry String) : ' ' ∉ e.collapse.stack.toList := by
  cases h : e.isOverflow with
  | true =>
    rw [stack_collapse_overflow h]
    decide
  | false =>
    rw [mem_stack_collapse_iff h (by decide)]
    rintro ⟨name, -, hmem⟩
    exact blank_notMem_frameText name hmem

theorem newline_mem_collapse_iff (e : Entry String) :
    '\n' ∈ e.collapse.stack.toList ↔ e.isOverflow = false ∧ ∃ name ∈ e.functions, BreaksLine name := by
  cases h : e.isOverflow with
  | true =>
    rw [stack_collapse_overflow h]
    exact iff_of_false (by decide) fun hbreaks => Bool.noConfusion hbreaks.1
  | false =>
    rw [mem_stack_collapse_iff h (by decide)]
    simp only [newline_mem_frameText_iff, true_and]

end Entry

namespace Snapshot

variable (s : Snapshot String)

/-- Whether a name that is shown breaks its line. -/
def Breaks : Prop :=
  ∃ e ∈ s.entries, 0 < e.count ∧ e.isOverflow = false ∧ ∃ name ∈ e.functions, BreaksLine name

theorem newline_mem_collapse_iff : (∃ c ∈ s.collapse, '\n' ∈ c.stack.toList) ↔ s.Breaks := by
  constructor
  · rintro ⟨c, hc, hnewline⟩
    obtain ⟨e, he, hcount, rfl⟩ := mem_collapse_iff.1 hc
    exact ⟨e, he, hcount, e.newline_mem_collapse_iff.1 hnewline⟩
  · rintro ⟨e, he, hcount, hbreaks⟩
    exact ⟨e.collapse, mem_collapse_iff.2 ⟨e, he, hcount, rfl⟩, e.newline_mem_collapse_iff.2 hbreaks⟩

theorem blank_notMem_collapse {c : Collapsed} (hc : c ∈ s.collapse) : ' ' ∉ c.stack.toList := by
  obtain ⟨e, -, -, rfl⟩ := mem_collapse_iff.1 hc
  exact e.blank_notMem_collapse

/-- **Which snapshots are read back** from their collapsed text, and what becomes of the others. -/
theorem readsBack_collapse_iff :
    (Collapsed.ReadsBack s.collapse ↔ ¬ s.Breaks) ∧
      (s.Breaks → Collapsed.ofText? (Collapsed.text s.collapse) = none) := by
  have hblank : ∀ c ∈ s.collapse, ' ' ∉ c.stack.toList := fun c => s.blank_notMem_collapse
  refine ⟨?_, fun h => ?_⟩
  · rw [Collapsed.readsBack_iff hblank, ← s.newline_mem_collapse_iff]
    push Not
    rfl
  · obtain ⟨c, hc, hnewline⟩ := s.newline_mem_collapse_iff.2 h
    exact Collapsed.ofText?_text_eq_none hc hnewline (hblank c hc)

end Snapshot

theorem newline_notMem_label (f : FrameId) : '\n' ∉ f.label.toList := by
  rw [FrameId.label, String.toList_append, Nat.toList_repr, List.mem_append, not_or]
  exact ⟨by decide, Decimal.notMem_digits (by decide)⟩

/-- What is shown for an identity is a name of the table or a label. -/
theorem newline_notMem_display {symbols : SymbolTable} (h : ∀ name ∈ symbols.names, '\n' ∉ name.toList)
    (f : FrameId) : '\n' ∉ (symbols.display f).toList := by
  rw [SymbolTable.display]
  cases hname : symbols.resolve f with
  | none => exact newline_notMem_label f
  | some name => exact h name (Array.mem_toList_iff.1 (SymbolTable.mem_of_resolve hname))

theorem Snapshot.not_breaks_resolve {symbols : SymbolTable}
    (h : ∀ name ∈ symbols.names, '\n' ∉ name.toList) (s : Snapshot FrameId) :
    ¬ (s.resolve symbols).Breaks := by
  rintro ⟨e, he, -, -, name, hname, hnewline, -⟩
  obtain ⟨entry, -, rfl⟩ := List.mem_map.1 he
  rw [Entry.functions_map] at hname
  obtain ⟨f, -, rfl⟩ := List.mem_map.1 hname
  exact newline_notMem_display h f hnewline

/-! ## The law -/

namespace Session

/-- **Collapsed profiles are read back** from their text and from their file, for every run and every
symbol table, exactly if no name that is shown breaks its line; otherwise nothing can be read. So they
are with all names that hold no newline, whatever else they hold. -/
theorem collapsed_read_back (s : Session) (acts : List Act) (symbols : SymbolTable) :
    (Collapsed.ReadsBack ((s.acted acts).profile symbols).collapse ↔
        ¬ ((s.acted acts).profile symbols).Breaks) ∧
      (((s.acted acts).profile symbols).Breaks →
        Collapsed.ofText? (Collapsed.text ((s.acted acts).profile symbols).collapse) = none) ∧
      ((∀ name ∈ symbols.names, '\n' ∉ name.toList) →
        Collapsed.ReadsBack ((s.acted acts).profile symbols).collapse) := by
  obtain ⟨hreads, hbreaks⟩ := ((s.acted acts).profile symbols).readsBack_collapse_iff
  exact ⟨hreads, hbreaks, fun h => hreads.2 (Snapshot.not_breaks_resolve h _)⟩

/-- Names with the other separators, with a carriage return, and without any character. -/
theorem collapsed_read_back_odd :
    let s : Session := { config := ⟨3, 2⟩, stack := .new 4, clock := .epoch }
    let acts : List Act :=
      [.call (.start ⟨0, 5⟩), .call (.push ⟨1⟩), .call .fire, .call (.push ⟨2⟩), .call (.push ⟨3⟩),
        .call .fire, .call .fire, .call (.push ⟨9⟩), .call .fire]
    let symbols : SymbolTable := .ofList ["main", "a;b c", "größe\r"]
    let p := (s.acted acts).profile symbols
    (∀ name ∈ symbols.names, '\n' ∉ name.toList) ∧
      p.collapse.Perm [⟨"[others]", 1⟩, ⟨"[unnamed];größe\r;#9", 1⟩, ⟨"main;[unnamed];größe\r", 2⟩] ∧
      Collapsed.ofText? (Collapsed.text p.collapse) = some p.collapse ∧
      Collapsed.ReadsBack p.collapse := by
  intro s acts symbols p
  have hnames : ∀ name ∈ symbols.names, '\n' ∉ name.toList := by decide
  have hstacks : p.sampled.map Entry.collapse =
      [⟨"[others]", 1⟩, ⟨"[unnamed];größe\r;#9", 1⟩, ⟨"main;[unnamed];größe\r", 2⟩] := by
    decide +kernel
  obtain ⟨-, -, hreads⟩ := collapsed_read_back s acts symbols
  exact ⟨hnames, hstacks ▸ p.collapse_perm, (hreads hnames).text, hreads hnames⟩

/-- **A newline that is not made to fit.** The line of a stack is broken in two, of which the first has no
weight. -/
theorem newline_breaks_line :
    let s : Session := { config := ⟨2, 1⟩, stack := .new 4, clock := .epoch }
    let acts : List Act :=
      [.call (.start ⟨0, 5⟩), .call (.push ⟨1⟩), .call (.push ⟨2⟩), .call .fire]
    let p := (s.acted acts).profile (.ofList ["main", "eval\nloop"])
    s.Fresh ∧ p.collapse = [⟨"main;eval\nloop", 1⟩] ∧
      (Collapsed.text p.collapse).toList.splitOn '\n' =
        ["main;eval".toList, "loop 1".toList] ∧
      Collapsed.ofText? (Collapsed.text p.collapse) ≠ some p.collapse := by
  intro s acts p
  have hcollapse : p.collapse = [⟨"main;eval\nloop", 1⟩] := by decide +kernel
  rw [hcollapse]
  exact ⟨⟨rfl, rfl, rfl, rfl, rfl, rfl⟩, rfl, by decide +kernel, by decide +kernel⟩

end Session

end StackSampler
