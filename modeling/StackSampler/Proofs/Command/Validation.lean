import StackSampler.Command.Inspect
import StackSampler.Proofs.Files.Output

/-!
# What the checker accepts

The checker looks at the first entry of a snapshot file and at the sum of all entries, and then tells
figures that the entries have by their marks. Sums are exact here, as they are for every file whose counts
add up to a number of 64 bits.

* `Command.validate_run`, `Command.exists_of_validate`: what is well formed is accepted, and nothing else
  is.
* `Snapshot.Accounted`: what that makes sure of, for any entries. The samples are those of the overflow
  entry, those of the stacks, and those of entries further behind that have the overflow mark again.
* `Command.validate_accepts_iff`: accepted files are the accounted ones.
* `Command.second_mark_accepted`: a file with two overflow entries, whose figures do not add up.
-/

namespace StackSampler

variable {φ : Type}

/-! ## Entries by their marks -/

theorem Entry.isOverflow_iff {e : Entry φ} : e.isOverflow = true ↔ e = .overflow e.count := by
  obtain ⟨frames, count⟩ := e
  match frames with
  | [] | [.function _] => simp [isOverflow, overflow]
  | [.overflow] => exact ⟨fun _ => rfl, fun _ => rfl⟩
  | .overflow :: _ :: _ | .function _ :: _ :: _ => simp [isOverflow, overflow]

namespace Snapshot

variable (s : Snapshot φ)

/-- Entries with the overflow mark that are not the first entry. -/
def laterMarks : List (Entry φ) := s.entries.tail.filter Entry.isOverflow

/-- What the entries of stacks count. -/
def stackTotal : Nat := total (s.stackEntries.map Entry.count)

/-- **What the checker makes sure of**: the overflow entry that is told about comes first, and every
sample is in it, in a stack, or under a later mark. -/
structure Accounted : Prop where
  first : s.entries.head? = some (.overflow s.overflowCount)
  sum : s.overflowCount + total (s.laterMarks.map Entry.count) + s.stackTotal = s.samples
  /-- What is told adds up exactly if no later mark counts anything. -/
  adds_up : s.overflowCount + s.stackTotal = s.samples ↔ ∀ e ∈ s.laterMarks, e.count = 0
  /-- With the mark on one entry only, there is no later one. -/
  single : s.entries.countP Entry.isOverflow = 1 ↔ s.laterMarks = []

variable {s}

/-- Behind an overflow entry, entries by their marks. -/
theorem marks_of_head (h : s.entries.head?.any Entry.isOverflow = true) :
    s.entries.head? = some (.overflow s.overflowCount) ∧
      s.overflowCount + total (s.laterMarks.map Entry.count) + s.stackTotal = s.entriesTotal ∧
      s.entries.countP Entry.isOverflow = s.laterMarks.length + 1 := by
  cases hentries : s.entries with
  | nil =>
    rw [hentries] at h
    cases h
  | cons e es =>
    rw [hentries] at h
    have hmark : e.isOverflow = true := h
    have hcount : s.overflowCount = e.count := by
      rw [overflowCount, hentries, List.find?_cons_of_pos hmark]
      rfl
    have hlater : s.laterMarks = es.filter Entry.isOverflow := by rw [laterMarks, hentries, List.tail_cons]
    have hstacks : s.stackTotal = total ((es.filter fun e => !e.isOverflow).map Entry.count) := by
      rw [stackTotal, stackEntries, hentries, List.filter_cons_of_neg (by simp [hmark])]
    refine ⟨?_, ?_, ?_⟩
    · rw [hcount]
      exact congrArg some (Entry.isOverflow_iff.1 hmark)
    · rw [hcount, hlater, hstacks, entriesTotal, hentries, List.map_cons, total_cons,
        total_filter Entry.isOverflow Entry.count es, Nat.add_assoc]
    · rw [List.countP_cons_of_pos hmark, hlater, List.countP_eq_length_filter]

/-- The two things that are looked at are enough. -/
theorem accounted_iff :
    s.Accounted ↔ s.entries.head?.any Entry.isOverflow = true ∧ s.isConsistent = true := by
  constructor
  · intro h
    have hhead : s.entries.head?.any Entry.isOverflow = true := by
      rw [h.first]
      rfl
    obtain ⟨-, hsum, -⟩ := marks_of_head hhead
    exact ⟨hhead, beq_iff_eq.2 (hsum.symm.trans h.sum)⟩
  · intro ⟨hhead, htotal⟩
    obtain ⟨hfirst, hmarks, hcount⟩ := marks_of_head hhead
    have hsum := hmarks.trans (beq_iff_eq.1 htotal)
    have hzero : total (s.laterMarks.map Entry.count) = 0 ↔ ∀ e ∈ s.laterMarks, e.count = 0 := by
      rw [total_eq_zero, List.forall_mem_map]
    refine ⟨hfirst, hsum, ?_, ?_⟩
    · rw [← hzero]
      omega
    · rw [hcount, ← List.length_eq_zero_iff]
      omega

end Snapshot

/-! ## The checker -/

namespace Command

variable {α : Type} {d d' : Desk} {path : String} {s : Snapshot String}

theorem say_run (line : String) (d : Desk) :
    (say line).run.run d = (.ok (), { d with lines := d.lines ++ [line] }) := rfl

theorem onFiles_run {act : Files.Action α} {wrap : Files.OutputError → CommandError} {a : α}
    {files : Files.Tree} (h : act.run.run d.files = (.ok a, files)) :
    (onFiles wrap act).run.run d = (.ok a, { d with files }) := by
  unfold onFiles
  rw [act_bind get_run, h]
  rfl

theorem exists_of_onFiles {act : Files.Action α} {wrap : Files.OutputError → CommandError} {a : α}
    (h : (onFiles wrap act).run.run d = (.ok a, d')) :
    ∃ files, act.run.run d.files = (.ok a, files) := by
  unfold onFiles at h
  rw [act_bind get_run] at h
  cases hact : act.run.run d.files with
  | mk result files =>
    rw [hact] at h
    cases result with
    | error e => cases h
    | ok b =>
      cases h
      exact ⟨files, rfl⟩

/-- What the checker tells about a file that it accepts. -/
def figures (path : String) (s : Snapshot String) : List String :=
  ["Validating snapshot: " ++ path, "✓ Valid snapshot JSON", "  Version: " ++ s.version,
    "  Mode: " ++ s.mode.text, "  Samples: " ++ Nat.repr s.samples,
    "  Overflow: " ++ Nat.repr s.overflowCount, "  Stacks: " ++ Nat.repr s.stackEntries.length]

/-- What it adds if the format is another one. -/
def versionNote (s : Snapshot String) : List String :=
  if s.version ≠ schemaVersion then
    ["  Note: schema v" ++ s.version ++ " differs from current v" ++ schemaVersion]
  else []

theorem wellFormed_iff :
    wellFormed s = .ok () ↔ s.entries.head?.any Entry.isOverflow = true ∧ s.isConsistent = true := by
  unfold wellFormed
  cases s.entries.head?.any Entry.isOverflow <;> cases s.isConsistent <;> simp

/-- **A well-formed file is accepted**, and nothing is changed by that. -/
theorem validate_run (hread : (Files.readSnapshot path).run.run d.files = (.ok s, d.files))
    (hform : wellFormed s = .ok ()) :
    (validate path).run.run d = (.ok (), { d with lines := d.lines ++ figures path s ++ versionNote s }) := by
  have hfile (lines : List String) :
      (onFiles (.notRead path) (Files.readSnapshot path)).run.run ⟨d.files, lines⟩ =
        (.ok s, ⟨d.files, lines⟩) := onFiles_run hread
  have hnote (d : Desk) : (if s.version ≠ schemaVersion then
      say ("  Note: schema v" ++ s.version ++ " differs from current v" ++ schemaVersion)
      else pure () : Job Unit).run.run d = (.ok (), { d with lines := d.lines ++ versionNote s }) := by
    unfold versionNote
    split
    · rfl
    · rw [List.append_nil]
      rfl
  unfold validate
  rw [act_bind (say_run _ d), act_bind (hfile _)]
  simp only [hform]
  rw [act_bind (say_run _ _), act_bind (say_run _ _), act_bind (say_run _ _),
    act_bind (say_run _ _), act_bind (say_run _ _), act_bind (say_run _ _), hnote]
  simp only [List.append_assoc, List.cons_append, List.nil_append, figures]

/-- What is accepted was read and is well formed. -/
theorem exists_of_validate (h : (validate path).run.run d = (.ok (), d')) :
    ∃ s, (Files.readSnapshot path).run.run d.files = (.ok s, d.files) ∧ wellFormed s = .ok () := by
  unfold validate at h
  rw [act_bind (say_run _ d)] at h
  obtain ⟨s, d₁, hfile, h⟩ := exists_of_act h
  obtain ⟨files, hread⟩ := exists_of_onFiles hfile
  obtain ⟨rfl, -⟩ := Files.exists_of_readSnapshot hread
  refine ⟨s, hread, ?_⟩
  cases hform : wellFormed s with
  | ok _ => rfl
  | error e =>
    simp only [hform] at h
    cases h

/-- **Accepted files** are those that hold a snapshot whose entries are accounted for. The checker tells
its figures and changes no file. -/
theorem validate_accepts_iff (path : String) (d d' : Desk) :
    (validate path).run.run d = (.ok (), d') ↔
      ∃ content s, d.files.find path = .ok (.file content) ∧
        Snapshot.ofBytes content.toBytes = .ok s ∧ s.Accounted ∧
        d' = { d with lines := d.lines ++ figures path s ++ versionNote s } := by
  constructor
  · intro h
    obtain ⟨s, hread, hform⟩ := exists_of_validate h
    obtain ⟨-, content, hfind, hbytes⟩ := Files.exists_of_readSnapshot hread
    rw [validate_run hread hform] at h
    exact ⟨content, s, hfind, hbytes, Snapshot.accounted_iff.2 (wellFormed_iff.1 hform), by cases h; rfl⟩
  · rintro ⟨content, s, hfind, hbytes, hs, rfl⟩
    exact validate_run (Files.readSnapshot_run hfind hbytes) (wellFormed_iff.2 (Snapshot.accounted_iff.1 hs))

/-- **A second overflow entry is accepted**: of seven samples, three are told to be in the overflow entry
and none in stacks. -/
theorem second_mark_accepted :
    let s : Snapshot String :=
      { version := schemaVersion, mode := .sampling, startTime := none, stopTime := .epoch
        interval := none, samples := 7, entries := [.overflow 3, .overflow 4] }
    let d : Desk := ⟨({} : Files.Tree).put ["home", "p.json"] (.file (.ofText s.text)), []⟩
    (∃ content, d.files.find "p.json" = .ok (.file content) ∧ Snapshot.ofBytes content.toBytes = .ok s) ∧
      (validate "p.json").run.run d = (.ok (), ⟨d.files,
        ["Validating snapshot: p.json", "✓ Valid snapshot JSON", "  Version: 1.0.0", "  Mode: sampling",
          "  Samples: 7", "  Overflow: 3", "  Stacks: 0"]⟩) ∧
      s.entries.countP Entry.isOverflow = 2 ∧ s.overflowCount + s.stackTotal ≠ s.samples := by
  intro s d
  have hnameable : s.Nameable := ⟨nofun, by decide, nofun, by decide, by decide⟩
  have hbytes := Snapshot.ofBytes_text hnameable
  have hfind : d.files.find "p.json" = .ok (.file (.ofText s.text)) := by
    clear_value s
    rfl
  have hform : wellFormed s = .ok () := rfl
  have hfigures : d.lines ++ figures "p.json" s ++ versionNote s =
      ["Validating snapshot: p.json", "✓ Valid snapshot JSON", "  Version: 1.0.0", "  Mode: sampling",
        "  Samples: 7", "  Overflow: 3", "  Stacks: 0"] := by decide +kernel
  have hrun := validate_run (d := d) (Files.readSnapshot_run hfind hbytes) hform
  rw [hfigures] at hrun
  exact ⟨⟨_, hfind, hbytes⟩, hrun, by decide, by decide⟩

end Command

end StackSampler
