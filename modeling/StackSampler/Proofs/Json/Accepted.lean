import StackSampler.Json.Decode
import StackSampler.Proofs.Reading

/-!
# What a document may hold

Whatever a reader gives has the size that it was asked for, on every input: `Yields` for the readers
that documents are read with, one lemma for each. For a record it is an invariant of what is known of
the record while its members come in, in any order (`yields_record`).
-/

namespace StackSampler.Json

open Reading Reader

variable {α β σ : Type} {r : Reader α} {P : α → Prop} {Q : β → Prop}

theorem forall_mem_some {a : α} (h : P a) : ∀ b ∈ some a, P b := by
  intro b hb
  obtain rfl := Option.some.inj hb
  exact h

theorem yields_fail (f : TextFault) (P : α → Prop) : Yields (fail f : Reader α) P := Yields.throw _

theorem yields_refuse (f : ValueFault) (P : α → Prop) : Yields (refuse f : Reader α) P := Yields.throw _

/-! ## Single values -/

/-- A value of another shape is never taken. -/
theorem yields_mismatch (expected : String) (P : α → Prop) :
    Yields (mismatch expected : Reader α) P := by
  have hrefuse : ∀ found, Yields (refuse (.wrongType found expected) : Reader α) P :=
    fun _ => yields_refuse _ P
  unfold mismatch
  refine Yields.andThen fun c => ?_
  simp only
  -- whatever is found is read as far as it is told in the refusal
  split
  case h_8 =>
    exact Yields.ite (fun _ => Yields.andThen fun _ => Yields.andThen hrefuse) fun _ =>
      Yields.andThen hrefuse
  all_goals repeat (first | exact Yields.andThen hrefuse | refine Yields.andThen fun _ => ?_)

theorem yields_natural (largest : Nat) (expected : String) :
    Yields (natural largest expected) (· ≤ largest) := by
  unfold natural
  refine Yields.andThen fun c => Yields.ite (fun _ => ?_) fun _ => yields_mismatch _ _
  -- the same numbers are taken with a sign in front and without
  refine Yields.ite (fun _ => Yields.andThen fun _ => Yields.andThen fun m => ?_)
    fun _ => Yields.andThen fun m => ?_
  all_goals
    cases m with
    | natural n => exact Yields.ite (fun _ => yields_refuse _ _) fun h => Yields.pure (Nat.le_of_not_lt h)
    | negative n => exact yields_refuse _ _
    | float x => exact yields_refuse _ _

theorem yields_optional (h : Yields r P) : Yields (Reader.optional r) fun o => ∀ a ∈ o, P a := by
  unfold Reader.optional
  refine Yields.andThen fun c => Yields.ite (fun _ => ?_) fun _ => ?_
  · exact Yields.andThen fun _ => Yields.andThen fun _ => Yields.pure nofun
  · exact Yields.bind h fun a ha => Yields.pure (forall_mem_some ha)

/-! ## Arrays -/

/-- By induction on the fuel, a cell of which every item takes. -/
theorem yields_itemsAt (h : Yields r P) (fuel : List Cell) (first : Bool) :
    Yields (itemsAt r fuel first) fun as => ∀ a ∈ as, P a := by
  induction fuel generalizing first with
  | nil => exact Yields.pure nofun
  | cons x fuel ih =>
    unfold itemsAt
    refine Yields.andThen fun more => Yields.ite (fun _ => ?_) fun _ => ?_
    · exact Yields.bind h fun a ha => Yields.bind (ih false) fun as has =>
        Yields.pure (List.forall_mem_cons.2 ⟨ha, has⟩)
    · exact Yields.andThen fun _ => Yields.pure nofun

theorem yields_array (h : Yields r P) : Yields (array r) fun as => ∀ a ∈ as, P a := by
  unfold array items
  refine Yields.andThen fun c => Yields.ite (fun _ => ?_) fun _ => yields_mismatch _ _
  exact Yields.andThen fun _ => Yields.andThen fun fuel => yields_itemsAt h fuel true

/-! ## Records -/

variable {shape : Shape σ α} {I : σ → Prop}

/-- Every field of a record keeps an invariant. -/
def Keeps (fields : List (Reader.Field σ)) (I : σ → Prop) : Prop :=
  ∀ f ∈ fields, ∀ s, I s → Yields (f.read s) I

theorem yields_field {name : String} {get : σ → Option β} {set : σ → β → σ} {r : Reader β}
    (hr : Yields r Q) (hset : ∀ s b, I s → Q b → I (set s b)) (s : σ) (hs : I s) :
    Yields ((Reader.Field.of name get set r).read s) I :=
  Yields.bind hr fun b hb => Yields.pure (hset s b hs hb)

/-- A field of whose value nothing need be known. -/
theorem yields_field_any {name : String} {get : σ → Option β} {set : σ → β → σ} {r : Reader β}
    (hset : ∀ s b, I s → I (set s b)) (s : σ) (hs : I s) :
    Yields ((Reader.Field.of name get set r).read s) I :=
  Yields.andThen fun b => Yields.pure (hset s b hs)

/-- A part that has to be there was there. -/
theorem exists_of_need {name : String} {o : Option β} {f : β → Except ValueFault α} {a : α}
    (h : need name o >>= f = .ok a) : ∃ b, o = some b ∧ f b = .ok a := by
  cases o with
  | none => cases h
  | some b => exact ⟨b, rfl, h⟩

/-- Members of known names are fields; members of other names change nothing. -/
theorem yields_membersAt (hkeeps : Keeps shape.fields I) (fuel : List Cell) (first : Bool) {s : σ}
    (hs : I s) : Yields (membersAt shape fuel first s) I := by
  induction fuel generalizing first s with
  | nil => exact Yields.pure hs
  | cons x fuel ih =>
    unfold membersAt
    refine Yields.andThen fun more => Yields.ite (fun _ => ?_) fun _ => Yields.pure hs
    refine Yields.andThen fun key => ?_
    -- whether the key is refused or not, only what comes behind the colon matters
    split
    · next f hfind =>
      have hread := hkeeps f (List.mem_of_find?_eq_some hfind) s hs
      have hrest : Yields (do colon; membersAt shape fuel false (← f.read s)) I :=
        Yields.andThen fun _ => Yields.bind hread fun t ht => ih false ht
      refine Yields.ite (fun _ => ?_) fun _ => hrest
      exact Yields.andThen fun _ => hrest
    · have hrest : Yields (do colon; skipValue; membersAt shape fuel false s) I :=
        Yields.andThen fun _ => Yields.andThen fun _ => ih false hs
      refine Yields.ite (fun _ => ?_) fun _ => hrest
      exact Yields.andThen fun _ => hrest

theorem yields_elements {fields : List (Reader.Field σ)} (hkeeps : Keeps fields I) (i : Nat) {s : σ}
    (hs : I s) : Yields (elements shape fields i s) I := by
  induction fields generalizing i s with
  | nil => exact Yields.pure hs
  | cons f fields ih =>
    obtain ⟨hfirst, hrest⟩ := List.forall_mem_cons.1 hkeeps
    unfold elements
    refine Yields.andThen fun more => Yields.ite (fun _ => ?_) fun _ => yields_refuse _ _
    exact Yields.bind (hfirst s hs) fun t ht => ih hrest (i + 1) ht

/-- **A record has what its parts have**: the invariant holds at the start, every field keeps it, and
the record that is made of them in the end has the property. -/
theorem yields_record (hstart : I shape.start) (hkeeps : Keeps shape.fields I)
    (hfinish : ∀ s a, I s → shape.finish s = .ok a → P a) : Yields (record shape) P := by
  have hfinished : ∀ s, I s → Yields (finished shape s) P := by
    intro s hs
    unfold finished
    split
    · next a ha => exact Yields.pure (hfinish s a hs ha)
    · exact yields_refuse _ _
  have hclosed : ∀ close : Reader Unit, ∀ s, I s →
      Yields (do let a ← finished shape s; close; return a) P := fun close s hs =>
    Yields.bind (hfinished s hs) fun a ha => Yields.andThen fun _ => Yields.pure ha
  unfold record
  refine Yields.andThen fun c => ?_
  -- an object, an array, or neither
  split
  · refine Yields.andThen fun _ => Yields.andThen fun fuel => ?_
    exact Yields.bind (yields_membersAt hkeeps fuel true hstart) (hclosed eat)
  · refine Yields.andThen fun _ => ?_
    exact Yields.bind (yields_elements hkeeps 0 hstart) (hclosed closeArray)
  · exact yields_mismatch _ _

/-! ## Documents -/

theorem yields_document (h : Yields r P) : Yields (document r) P := by
  unfold document
  refine Yields.bind h fun a ha => Yields.andThen fun _ => Yields.andThen fun rest => ?_
  exact Yields.ite (fun _ => Yields.pure ha) fun _ => yields_fail _ _

end StackSampler.Json
