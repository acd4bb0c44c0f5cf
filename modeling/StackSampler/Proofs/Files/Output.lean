import StackSampler.Files.Output
import StackSampler.Proofs.Files.Tree
import StackSampler.Proofs.Snapshot.RoundTrip

/-!
# Snapshots in files and back

Every snapshot is read back from its text, and from the file that it was written to, as what its text
stands for: the snapshot itself, but for leap seconds before the end of their minute
(`snapshot_round_trip`). What is read has no such times, so reading and printing a file that was read
gives the same snapshot for good.
-/

namespace StackSampler

/-! ## Actions

An action changes a state and may fail on the way; it succeeds if all its parts do. -/

section Actions

variable {ε σ α β : Type} {x : ExceptT ε (StateM σ) α} {f : α → ExceptT ε (StateM σ) β} {s s' : σ}

theorem act_bind {a : α} (h : x.run.run s = (.ok a, s')) :
    (x >>= f).run.run s = (f a).run.run s' := by
  rw [ExceptT.run_bind, StateT.run_bind, h]
  rfl

/-- An action that succeeds has succeeded in its first part. -/
theorem exists_of_act {b : β} {s'' : σ} (h : (x >>= f).run.run s = (.ok b, s'')) :
    ∃ a s', x.run.run s = (.ok a, s') ∧ (f a).run.run s' = (.ok b, s'') := by
  rw [ExceptT.run_bind, StateT.run_bind] at h
  cases hx : x.run.run s with
  | mk result s' =>
    rw [hx] at h
    cases result with
    | error e => cases h
    | ok a => exact ⟨a, s', rfl, h⟩

theorem get_run : (get : ExceptT ε (StateM σ) σ).run.run s = (.ok s, s) := rfl

end Actions

namespace Files

variable {t t' : Tree} {text : String} {content : Content}

/-! ## Snapshots -/

/-- **What was written is found under its path.** -/
theorem find_of_write (h : (write text content).run.run t = (.ok (), t')) :
    t'.find text = .ok (.file content) := by
  -- whatever directories were made on the way, the file is created last
  unfold write at h
  obtain ⟨-, t₁, -, h⟩ := exists_of_act h
  obtain ⟨-, t₂, -, h⟩ := exists_of_act h
  rw [act_bind get_run] at h
  cases hcreate : t₂.create text content with
  | error e =>
    rw [hcreate] at h
    cases h
  | ok made =>
    rw [hcreate] at h
    cases h
    exact Tree.find_of_create hcreate

/-- Where one file can be written, any other can. -/
theorem write_any (h : (write text content).run.run t = (.ok (), t')) (other : Content) :
    ∃ t'', (write text other).run.run t = (.ok (), t'') := by
  unfold write at h ⊢
  obtain ⟨_, t₁, hcheck, h⟩ := exists_of_act h
  obtain ⟨_, t₂, hparent, h⟩ := exists_of_act h
  rw [act_bind get_run] at h
  cases hcreate : t₂.create text content with
  | error e =>
    rw [hcreate] at h
    cases h
  | ok made =>
    obtain ⟨made', hmade⟩ := Tree.create_any hcreate other
    refine ⟨made', ?_⟩
    rw [act_bind hcheck, act_bind hparent, act_bind get_run, hmade]
    rfl

theorem readSnapshot_run {s : Snapshot String} (hfind : t.find text = .ok (.file content))
    (hread : Snapshot.ofBytes content.toBytes = .ok s) :
    (readSnapshot text).run.run t = (.ok s, t) := by
  unfold readSnapshot
  rw [act_bind get_run, hfind]
  simp only [hread]
  rfl

/-- Reading changes no file, and what is read stands in a file. -/
theorem exists_of_readSnapshot {s : Snapshot String} (h : (readSnapshot text).run.run t = (.ok s, t')) :
    t' = t ∧ ∃ content, t.find text = .ok (.file content) ∧
      Snapshot.ofBytes content.toBytes = .ok s := by
  unfold readSnapshot at h
  rw [act_bind get_run] at h
  cases hfind : t.find text with
  | error e =>
    rw [hfind] at h
    cases h
  | ok node =>
    rw [hfind] at h
    cases node with
    | directory => cases h
    | file content =>
      cases hread : Snapshot.ofBytes content.toBytes with
      | error e =>
        simp only [hread] at h
        cases h
      | ok s' =>
        simp only [hread] at h
        cases h
        exact ⟨rfl, content, rfl, hread⟩

/-- **Every snapshot comes back** from its text as what that stands for, and so it does from the file that
it was written to; likewise a snapshot of identities. It is the same snapshot just when a text can name
its times. What was accepted once is accepted again, with the same result, after it was printed. -/
theorem snapshot_round_trip :
    (∀ s : Snapshot String, s.Valid → Snapshot.ofBytes s.text.toUTF8 = .ok s.settled) ∧
      (∀ s : Snapshot FrameId, s.Valid → Snapshot.ofRawText s.rawText = .ok s.settled) ∧
      (∀ (s : Snapshot String) (text : String) (t t' : Tree), s.Valid →
        (writeSnapshot text s).run.run t = (.ok (), t') →
        (readSnapshot text).run.run t' = (.ok s.settled, t')) ∧
      (∀ (φ : Type) (s : Snapshot φ), s.Valid →
        (s.settled = s ↔ (∀ t ∈ s.startTime, t.Nameable) ∧ s.stopTime.Nameable)) ∧
      (∀ s : Snapshot String, Snapshot.ofBytes s.text.toUTF8 = .ok s ↔ s.Nameable) ∧
      (∀ s : Snapshot FrameId, Snapshot.ofRawText s.rawText = .ok s ↔ s.Nameable) ∧
      ∀ (b : ByteArray) (s : Snapshot String), Snapshot.ofBytes b = .ok s →
        Snapshot.ofBytes s.text.toUTF8 = .ok s := by
  refine ⟨fun s => Snapshot.ofBytes_text_settled, fun s => Snapshot.ofRawText_rawText_settled, ?_, ?_,
    fun s => ⟨Snapshot.nameable_of_ofCells, Snapshot.ofBytes_text⟩,
    fun s => ⟨Snapshot.nameable_of_ofCells, Snapshot.ofRawText_rawText⟩, ?_⟩
  · intro s text t t' hs hwrite
    exact readSnapshot_run (find_of_write hwrite) (Snapshot.ofBytes_text_settled hs)
  · intro φ s hs
    rw [Snapshot.settled_eq_self_iff hs, hs.nameable_iff]
  · intro b s hread
    exact Snapshot.ofBytes_text (Snapshot.nameable_of_ofCells hread)

/-- Numbers as large and times as far as there are, a leap second, names that have to be escaped, and an
overflow mark among functions. -/
theorem snapshot_round_trip_far :
    let s : Snapshot String :=
      { version := "\"1\\0\"\u0001\n", mode := .sampling
        startTime := some ⟨1483228799, 1500000000⟩
        stopTime := ⟨Instant.ofDate ⟨Instant.firstYear, 1, 1⟩ 0, 1⟩
        interval := some ⟨18446744073709551615, 999999999⟩, samples := 18446744073709551615
        entries := [⟨[.function "größe", .overflow, .function "\x7f"], 18446744073709551615⟩, ⟨[], 0⟩,
          ⟨[.overflow], 1⟩] }
    let raw : Snapshot FrameId := s.mapFrames fun _ => ⟨18446744073709551615⟩
    let written : Tree := ({} : Tree).put ["home", "far.json"] (.file (.ofText s.text))
    s.Valid ∧ raw.Valid ∧ (writeSnapshot "far.json" s).run.run {} = (.ok (), written) ∧
      Snapshot.ofBytes s.text.toUTF8 = .ok s ∧ Snapshot.ofRawText raw.rawText = .ok raw ∧
      (readSnapshot "far.json").run.run written = (.ok s, written) := by
  intro s raw written
  have hstart : ∀ t ∈ s.startTime, t.Nameable := Json.forall_mem_some (by decide)
  have hstop : s.stopTime.Nameable := by decide
  have hinterval : ∀ i ∈ s.interval, i.Valid := Json.forall_mem_some ⟨by decide, by decide⟩
  have hs : s.Valid :=
    ⟨fun t ht => (hstart t ht).valid, hstop.valid, hinterval, by decide, by decide⟩
  have hraw : raw.Valid :=
    ⟨fun t ht => (hstart t ht).valid, hstop.valid, hinterval, by decide, by decide⟩
  have hwrite : (writeSnapshot "far.json" s).run.run {} = (.ok (), written) := by
    clear_value s
    rfl
  obtain ⟨hnamed, hraws, hfiles, hintact, -, -, haccepted⟩ := snapshot_round_trip
  have hsame : s.settled = s := (hintact String s hs).2 ⟨hstart, hstop⟩
  have hsame' : raw.settled = raw := (hintact FrameId raw hraw).2 ⟨hstart, hstop⟩
  have hread := hnamed s hs
  have hread' := hraws raw hraw
  have hfile := hfiles s _ _ _ hs hwrite
  rw [hsame] at hread hfile
  rw [hsame'] at hread'
  exact ⟨hs, hraw, hwrite, haccepted _ s hread, hread', hfile⟩

/-- **A leap second before the end of its minute** has the text of the second after it, and that is what
comes back. -/
theorem leap_second_moves :
    let s : Snapshot String :=
      { version := schemaVersion, mode := .idle, startTime := none, stopTime := ⟨4, 1333333333⟩
        interval := none, samples := 0, entries := [.overflow 0] }
    s.Valid ∧ Snapshot.ofBytes s.text.toUTF8 = .ok { s with stopTime := ⟨5, 333333333⟩ } ∧
      Snapshot.ofBytes s.text.toUTF8 ≠ .ok s := by
  intro s
  have hs : s.Valid := ⟨nofun, by decide, nofun, by decide, by decide⟩
  have hread := Snapshot.ofBytes_text_settled hs
  have hmoved : s.settled = { s with stopTime := ⟨5, 333333333⟩ } := by decide
  have hother : ({ s with stopTime := ⟨5, 333333333⟩ } : Snapshot String) ≠ s := by decide
  rw [hread, hmoved]
  exact ⟨hs, rfl, fun hsame => hother (Except.ok.inj hsame)⟩

end Files

end StackSampler
