import StackSampler.Proofs.Json.Accepted
import StackSampler.Proofs.Json.RoundTrip
import StackSampler.Proofs.Time.Rfc3339
import StackSampler.Snapshot.Format

/-!
# Snapshots as text and back

A snapshot whose numbers are of the size that their types have (`Snapshot.Valid`) is read back from its
text, that of a file and that of identities, and nothing is lost but a leap second before the end of its
minute. So a snapshot comes back as it is if its times are such that a text can name them
(`Snapshot.Nameable`), and no other snapshot is ever read.

* `Snapshot.ofBytes_text`, `Snapshot.ofRawText_rawText`: a snapshot whose times a text can name.
* `Snapshot.ofBytes_text_settled`, `Snapshot.ofRawText_rawText_settled`: any.
* `Snapshot.nameable_of_ofCells`: what is read at all.
-/

namespace StackSampler

open Json Json.Reader Reading

variable {φ : Type} {l : Layout} {r : Reader φ} {f : φ → Value}

/-! ## Sizes -/

/-- Seconds of 64 bits, and less than a second of nanoseconds. -/
structure Span.Valid (s : Span) : Prop where
  secs : s.secs ≤ Decimal.largestWord
  nanos : s.nanos < Span.nanosPerSec

namespace Snapshot

/-- **Numbers of 64 bits**, spans that there are, and times of a kind. The text of names is of no
concern. -/
structure Sized (time : Instant → Prop) (s : Snapshot φ) : Prop where
  startTime : ∀ t ∈ s.startTime, time t
  stopTime : time s.stopTime
  interval : ∀ i ∈ s.interval, i.Valid
  samples : s.samples ≤ Decimal.largestWord
  counts : ∀ e ∈ s.entries, e.count ≤ Decimal.largestWord

/-- **The snapshots that there are.** -/
def Valid (s : Snapshot φ) : Prop := s.Sized Instant.Valid

/-- **Those with times that a text can name.** -/
def Nameable (s : Snapshot φ) : Prop := s.Sized Instant.Nameable

/-- What the text of a snapshot stands for. -/
def settled (s : Snapshot φ) : Snapshot φ :=
  { s with startTime := s.startTime.map Instant.settled, stopTime := s.stopTime.settled }

variable {s : Snapshot φ}

theorem Valid.settled (h : s.Valid) : s.settled.Nameable := by
  refine ⟨fun t ht => ?_, h.stopTime.settled, h.interval, h.samples, h.counts⟩
  obtain ⟨t', ht', rfl⟩ := Option.mem_map.1 ht
  exact (h.startTime t' ht').settled

theorem Valid.nameable_iff (h : s.Valid) :
    s.Nameable ↔ (∀ t ∈ s.startTime, t.Nameable) ∧ s.stopTime.Nameable :=
  ⟨fun hname => ⟨hname.startTime, hname.stopTime⟩,
    fun ⟨hstart, hstop⟩ => ⟨hstart, hstop, h.interval, h.samples, h.counts⟩⟩

/-- Nothing is settled but the times. -/
theorem settled_eq_self_iff (h : s.Valid) : s.settled = s ↔ s.Nameable := by
  rw [h.nameable_iff, ← Instant.settled_eq_self_iff h.stopTime]
  have hstart : s.startTime.map Instant.settled = s.startTime ↔ ∀ t ∈ s.startTime, t.Nameable := by
    cases hstart : s.startTime with
    | none => simp
    | some t => simp [Instant.settled_eq_self_iff (h.startTime t hstart)]
  rw [← hstart]
  constructor
  · intro hsame
    exact ⟨congrArg Snapshot.startTime hsame, congrArg Snapshot.stopTime hsame⟩
  · rintro ⟨hstart, hstop⟩
    rw [settled, hstart, hstop]

/-- A snapshot is written as what it is settled to. -/
theorem toValue_settled (f : φ → Value) (h : s.Valid) : s.settled.toValue f = s.toValue f := by
  have htime {t : Instant} (ht : t.Valid) : t.settled.toValue = t.toValue := by
    rw [Instant.toValue, Instant.text, Rfc3339.chars_settled ht]
    rfl
  have hstart : Value.ofOption Instant.toValue (s.startTime.map Instant.settled) =
      Value.ofOption Instant.toValue s.startTime := by
    cases hstart : s.startTime with
    | none => rfl
    | some t => exact htime (h.startTime t hstart)
  simp only [toValue, settled, hstart, htime h.stopTime]

end Snapshot

/-! ## Parts -/

theorem Mode.decodes (l : Layout) (m : Mode) : Decodes l Mode.reader (.string m.text) m := by
  cases m with
  | idle => exact decodes_bare (w := .plain Mode.idle.text .idle) rfl rfl
  | sampling => exact decodes_bare (w := .plain Mode.sampling.text .sampling) rfl rfl

theorem Instant.decodes (l : Layout) {t : Instant} (h : t.Nameable) :
    Decodes l Instant.reader t.toValue t := by
  have hread : Instant.read t.text = .ok t := by
    unfold Instant.read Instant.text
    rw [String.toList_ofList]
    exact Rfc3339.read_chars h
  refine decodes_bind (decodes_text _ t.text) fun cs => ?_
  rw [hread]
  exact run_pure

theorem Span.decodes (hl : l.Blanks) {s : Span} (h : s.Valid) :
    Decodes l Span.reader s.toValue s := by
  have hsecs := h.secs
  have hnanos := h.nanos
  unfold Span.nanosPerSec at hnanos
  refine decodes_record (s := (⟨some s.secs, some s.nanos⟩ : Span.Draft)) hl (List.cons_ne_nil _ _) ?_ ?_
  · refine ⟨_, _, rfl, rfl, decodes_field (decodes_natural hsecs hsecs _) _, ?_⟩
    refine ⟨_, _, rfl, rfl, decodes_field (decodes_natural ?_ ?_ _) _, rfl⟩
    · unfold largestNanos
      omega
    · unfold Decimal.largestWord
      omega
  · -- there is no whole second among the nanoseconds
    have hsmall : ¬Decimal.largestWord < s.secs := Nat.not_lt.2 hsecs
    show Span.Draft.finish ⟨some s.secs, some s.nanos⟩ = .ok s
    simp only [Span.Draft.finish, need, Span.nanosPerSec, bind, Except.bind,
      Nat.div_eq_of_lt hnanos, Nat.mod_eq_of_lt hnanos, Nat.add_zero, hsmall, if_false]
    rfl

theorem Frame.decodes (hl : l.Blanks) (hname : ∀ a, Decodes l r (f a) a) (x : Frame φ) :
    Decodes l (Frame.reader r) (x.toValue f) x := by
  cases x with
  | overflow => exact decodes_bare (w := .plain "overflow" .overflow) rfl rfl
  | function a =>
    exact decodes_carried hl (w := .carrying "function" (.function <$> r)) rfl (decodes_map (hname a) _)

theorem Entry.decodes (hl : l.Blanks) (hname : ∀ a, Decodes l r (f a) a) {e : Entry φ}
    (h : e.count ≤ Decimal.largestWord) : Decodes l (Entry.reader r) (e.toValue f) e := by
  have hframes : Decodes l (array (Frame.reader r)) (.array (e.frames.map (Frame.toValue f))) e.frames :=
    decodes_array hl fun x _ => x.decodes hl hname
  refine decodes_record (s := (⟨some e.frames, some e.count⟩ : Entry.Draft φ)) hl
    (List.cons_ne_nil _ _) ?_ rfl
  refine ⟨_, _, rfl, rfl, decodes_field hframes _, ?_⟩
  exact ⟨_, _, rfl, rfl, decodes_field (decodes_natural h h _) _, rfl⟩

/-- **A snapshot is decoded** field by field. -/
theorem Snapshot.decodes (hl : l.Blanks) (hname : ∀ a, Decodes l r (f a) a) {s : Snapshot φ}
    (h : s.Nameable) : Decodes l (Snapshot.reader r) (s.toValue f) s := by
  have hstart : Decodes l (Reader.optional Instant.reader) (.ofOption Instant.toValue s.startTime)
      s.startTime :=
    decodes_optional (fun t ht => Instant.decodes l (h.startTime t ht)) fun t depth => by
      rw [Instant.toValue, Value.write]
      intro h
      cases h
  have hinterval : Decodes l (Reader.optional Span.reader) (.ofOption Span.toValue s.interval)
      s.interval :=
    decodes_optional (fun i hi => Span.decodes hl (h.interval i hi)) fun i depth => by
      rw [Span.toValue, Value.write]
      intro h
      cases h
  have hentries : Decodes l (array (Entry.reader r)) (.array (s.entries.map (Entry.toValue f)))
      s.entries := decodes_array hl fun e he => Entry.decodes hl hname (h.counts e he)
  refine decodes_record
    (s := (⟨some s.version, some s.mode, some s.startTime, some s.stopTime, some s.interval,
      some s.samples, some s.entries⟩ : Snapshot.Draft φ)) hl (List.cons_ne_nil _ _) ?_ rfl
  refine ⟨_, _, rfl, rfl, decodes_field (decodes_text _ _) _, ?_⟩
  refine ⟨_, _, rfl, rfl, decodes_field (s.mode.decodes l) _, ?_⟩
  refine ⟨_, _, rfl, rfl, decodes_field hstart _, ?_⟩
  refine ⟨_, _, rfl, rfl, decodes_field (Instant.decodes l h.stopTime) _, ?_⟩
  refine ⟨_, _, rfl, rfl, decodes_field hinterval _, ?_⟩
  refine ⟨_, _, rfl, rfl, decodes_field (decodes_natural h.samples h.samples _) _, ?_⟩
  exact ⟨_, _, rfl, rfl, decodes_field hentries _, rfl⟩

/-! ## What is accepted -/

theorem Instant.yields_reader : Yields Instant.reader Instant.Nameable := by
  unfold Instant.reader
  refine Yields.andThen fun s => ?_
  split
  · next t ht => exact Yields.pure (Rfc3339.nameable_of_read ht)
  · exact yields_refuse _ _

theorem Span.yields_reader : Yields Span.reader Span.Valid := by
  refine yields_record (I := fun _ => True) trivial (fun _ _ _ _ _ _ _ _ => trivial) ?_
  intro d s _ h
  obtain ⟨secs, -, h⟩ := exists_of_need h
  obtain ⟨nanos, -, h⟩ := exists_of_need h
  obtain ⟨hsmall, h⟩ := of_guard_ok h
  obtain rfl := Except.ok.inj h
  exact ⟨Nat.le_of_not_lt hsmall, Nat.mod_lt _ (by decide)⟩

/-- The count of a draft, as far as it is there. -/
def Entry.Draft.Valid (d : Entry.Draft φ) : Prop := ∀ n ∈ d.count, n ≤ Decimal.largestWord

theorem Entry.yields_reader (r : Reader φ) :
    Yields (Entry.reader r) fun e => e.count ≤ Decimal.largestWord := by
  refine yields_record (I := Entry.Draft.Valid) nofun ?_ ?_
  · refine List.forall_mem_cons.2 ⟨yields_field_any fun d b h => h, ?_⟩
    exact List.forall_mem_singleton.2
      (yields_field (yields_natural _ _) fun d n _ hn => forall_mem_some hn)
  · intro d e hd h
    obtain ⟨frames, -, h⟩ := exists_of_need h
    obtain ⟨count, hcount, h⟩ := exists_of_need h
    obtain rfl := Except.ok.inj h
    exact hd count hcount

/-- The parts of a draft, as far as they are there. -/
structure Snapshot.Draft.Nameable (d : Snapshot.Draft φ) : Prop where
  startTime : ∀ o ∈ d.startTime, ∀ t ∈ o, t.Nameable
  stopTime : ∀ t ∈ d.stopTime, t.Nameable
  interval : ∀ o ∈ d.interval, ∀ i ∈ o, i.Valid
  samples : ∀ n ∈ d.samples, n ≤ Decimal.largestWord
  entries : ∀ es ∈ d.entries, ∀ e ∈ es, e.count ≤ Decimal.largestWord

/-- **Only snapshots with times that a text can name are accepted.** -/
theorem Snapshot.yields_reader (r : Reader φ) : Yields (Snapshot.reader r) Snapshot.Nameable := by
  refine yields_record (I := Snapshot.Draft.Nameable) ⟨nofun, nofun, nofun, nofun, nofun⟩ ?_ ?_
  · refine List.forall_mem_cons.2 ⟨yields_field_any fun d _ h => { h with }, ?_⟩
    refine List.forall_mem_cons.2 ⟨yields_field_any fun d _ h => { h with }, ?_⟩
    refine List.forall_mem_cons.2 ⟨yields_field (yields_optional Instant.yields_reader)
      fun d t h ht => { h with startTime := forall_mem_some ht }, ?_⟩
    refine List.forall_mem_cons.2 ⟨yields_field Instant.yields_reader
      fun d t h ht => { h with stopTime := forall_mem_some ht }, ?_⟩
    refine List.forall_mem_cons.2 ⟨yields_field (yields_optional Span.yields_reader)
      fun d i h hi => { h with interval := forall_mem_some hi }, ?_⟩
    refine List.forall_mem_cons.2 ⟨yields_field (yields_natural _ _)
      fun d n h hn => { h with samples := forall_mem_some hn }, ?_⟩
    exact List.forall_mem_singleton.2 (yields_field (yields_array (Entry.yields_reader r))
      fun d es h hes => { h with entries := forall_mem_some hes })
  · intro d s hd h
    obtain ⟨version, -, h⟩ := exists_of_need h
    obtain ⟨mode, -, h⟩ := exists_of_need h
    obtain ⟨stopTime, hstop, h⟩ := exists_of_need h
    obtain ⟨samples, hsamples, h⟩ := exists_of_need h
    obtain ⟨entries, hentries, h⟩ := exists_of_need h
    obtain rfl := Except.ok.inj h
    exact
      { startTime := fun t ht => hd.startTime _ (Option.join_eq_some_iff.1 ht) t rfl
        stopTime := hd.stopTime stopTime hstop
        interval := fun i hi => hd.interval _ (Option.join_eq_some_iff.1 hi) i rfl
        samples := hd.samples samples hsamples
        counts := hd.entries entries hentries }

/-! ## Files and identities -/

/-- Text as bytes is text again. -/
theorem cellsOfBytes_toUTF8 (s : String) : cellsOfBytes s.toUTF8 = cells s := by
  have hdecode : String.fromUTF8? s.toUTF8 = some s := by
    unfold String.fromUTF8?
    rw [String.toUTF8_eq_toByteArray, dif_pos s.isValidUTF8]
    rfl
  unfold cellsOfBytes
  rw [hdecode]

namespace Snapshot

theorem ofCells_write (hl : l.Blanks) (hname : ∀ a, Decodes l r (f a) a) {s : Snapshot φ}
    (h : s.Nameable) : ofCells r (((s.toValue f).write l 0).map some) = .ok s := by
  unfold ofCells
  rw [document_run (s.decodes hl hname h)]
  rfl

theorem nameable_of_ofCells {cs : List Cell} {s : Snapshot φ} (h : ofCells r cs = .ok s) :
    s.Nameable := by
  unfold ofCells at h
  cases hrun : (document (reader r)).run cs with
  | error e =>
    rw [hrun] at h
    cases h
  | ok p =>
    obtain ⟨a, rest⟩ := p
    rw [hrun] at h
    obtain rfl := Except.ok.inj h
    exact yields_document (yields_reader r) cs a rest hrun

theorem ofBytes_text {s : Snapshot String} (h : s.Nameable) : ofBytes s.text.toUTF8 = .ok s := by
  unfold ofBytes
  rw [cellsOfBytes_toUTF8, cells, text, Value.pretty, String.toList_ofList]
  exact ofCells_write Layout.blanks_pretty (fun n => decodes_text _ n) h

theorem ofRawText_rawText {s : Snapshot FrameId} (h : s.Nameable) : ofRawText s.rawText = .ok s := by
  unfold ofRawText
  rw [cells, rawText, Value.compact, String.toList_ofList]
  refine ofCells_write Layout.blanks_compact (fun a => ?_) h
  have hword : a.toNat ≤ Decimal.largestWord := Nat.le_of_lt_succ a.raw.toNat_lt
  have hid : FrameId.ofNat a.toNat = a := congrArg FrameId.mk (UInt64.ofNat_toNat)
  have hread := decodes_map (decodes_natural (l := Layout.compact) hword hword "u64") FrameId.ofNat
  rw [hid] at hread
  exact hread

/-- **Every snapshot is read back** as what its text stands for. -/
theorem ofBytes_text_settled {s : Snapshot String} (h : s.Valid) :
    ofBytes s.text.toUTF8 = .ok s.settled := by
  have hsettled := ofBytes_text h.settled
  rwa [text, toValue_settled _ h] at hsettled

theorem ofRawText_rawText_settled {s : Snapshot FrameId} (h : s.Valid) :
    ofRawText s.rawText = .ok s.settled := by
  have hsettled := ofRawText_rawText h.settled
  rwa [rawText, toValue_settled _ h] at hsettled

end Snapshot

end StackSampler
