import StackSampler.Proofs.Json.Tokens

/-!
# Reading what was written: values

A reader **decodes** a value if it reads the value's text, in any layout that puts blanks where blanks
may be, at any depth, behind any blanks and in front of anything that may follow: `Decodes`.

* `decodes_text`, `decodes_natural`, `decodes_optional`, `decodes_array`, and the two forms of a
  choice: the readers of single values.
* `decodes_record`: a record whose members are its fields, each of which is decoded (`Fills`).
* `document_run`: a decoded value is a document.
-/

namespace StackSampler.Json

open Decimal Reading Reader
open Value (write writeItems writeMembers)

variable {α β σ : Type} {l : Layout} {r : Reader α} {v : Value} {a : α} {gap : List Char}
  {rest : List Cell} {c : Char} {n : Nat}

/-- Only blanks between tokens. -/
structure Layout.Blanks (l : Layout) : Prop where
  gap : ∀ depth, Blank (l.gap depth)
  afterColon : Blank l.afterColon

theorem Layout.blanks_compact : Layout.compact.Blanks := ⟨fun _ => blank_nil, blank_nil⟩

theorem Layout.blanks_pretty : Layout.pretty.Blanks := by
  refine ⟨fun depth c hc => ?_, fun c hc => ?_⟩
  · rcases List.mem_cons.1 hc with rfl | hc
    · rfl
    · rw [List.eq_of_mem_replicate hc]
      rfl
  · obtain rfl := List.mem_singleton.1 hc
    rfl

/-- **A reader decodes a value.** -/
def Decodes (l : Layout) (r : Reader α) (v : Value) (a : α) : Prop :=
  ∀ depth gap rest, Blank gap → Ends rest →
    r.run (gap.map some ++ ((v.write l depth).map some ++ rest)) = .ok (a, rest)

theorem Decodes.here (h : Decodes l r v a) (depth : Nat) (hrest : Ends rest) :
    r.run ((v.write l depth).map some ++ rest) = .ok (a, rest) :=
  h depth [] rest blank_nil hrest

/-! ## The first character -/

/-- **A value opens** with a character that is neither a blank nor a closing bracket. -/
theorem exists_open (l : Layout) (depth : Nat) (v : Value) :
    ∃ c cs, v.write l depth = c :: cs ∧ isBlank (some c) = false ∧ c ≠ ']' := by
  cases v with
  | null => exact ⟨'n', _, by rw [write]; rfl, rfl, by decide⟩
  | number n =>
    cases hds : digits n with
    | nil => exact absurd hds (digits_ne_nil n)
    | cons c ds =>
      have hc : c.isDigit = true := isDigit_of_mem_digits (hds ▸ List.mem_cons_self)
      refine ⟨c, ds, by rw [write, hds], ?_, ?_⟩
      · have hrange := toNat_of_isDigit hc
        rw [isBlank, ← Bool.not_eq_true]
        simp only [Bool.or_eq_true, beq_iff_eq]
        rintro (((rfl | rfl) | rfl) | rfl) <;> cases hc
      · rintro rfl
        cases hc
  | string s => exact ⟨'"', _, by rw [write]; rfl, rfl, by decide⟩
  | array items =>
    cases items with
    | nil => exact ⟨'[', _, by rw [write], rfl, by decide⟩
    | cons v items => exact ⟨'[', _, by rw [write]; rfl, rfl, by decide⟩
  | object members =>
    cases members with
    | nil => exact ⟨'\x7b', _, by rw [write], rfl, by decide⟩
    | cons m members => exact ⟨'\x7b', _, by rw [write]; rfl, rfl, by decide⟩

theorem exists_open_cell (l : Layout) (depth : Nat) (v : Value) (rest : List Cell) :
    ∃ c cs, (v.write l depth).map some ++ rest = some c :: cs ∧ isBlank (some c) = false ∧ c ≠ ']' := by
  obtain ⟨c, cs, hwrite, hc, hclose⟩ := exists_open l depth v
  exact ⟨c, cs.map some ++ rest, by rw [hwrite, List.map_cons, List.cons_append], hc, hclose⟩

theorem ends_nil : Ends [] := nofun

theorem ends_blank (hgap : Blank gap) (hc : c ∈ [',', ']', '\x7d']) :
    Ends (gap.map some ++ some c :: rest) := by
  intro d hd
  cases gap with
  | nil =>
    obtain rfl := Option.some.inj hd
    exact .inr (by simpa using hc)
  | cons b gap =>
    obtain rfl := Option.some.inj hd
    exact .inl (hgap b List.mem_cons_self)

theorem ends_mark {c : Char} (hc : c ∈ [',', ']', '\x7d']) : Ends (some c :: rest) :=
  ends_blank blank_nil hc

/-! ## Single values -/

theorem decodes_map (h : Decodes l r v a) (g : α → β) : Decodes l (g <$> r) v (g a) :=
  fun depth gap rest hgap hrest => run_map g (h depth gap rest hgap hrest)

/-- A reader that goes on without reading. -/
theorem decodes_bind {f : α → Reader β} {b : β} (h : Decodes l r v a)
    (hf : ∀ cs, (f a).run cs = .ok (b, cs)) : Decodes l (r >>= f) v b := by
  intro depth gap rest hgap hrest
  rw [run_bind (h depth gap rest hgap hrest), hf]

theorem text_run (expected s : String) (hgap : Blank gap) :
    (text expected).run (gap.map some ++ ((quoted s).map some ++ rest)) = .ok (s, rest) := by
  unfold text
  rw [quoted_cells, run_bind (peek_run .endInValue hgap rfl)]
  simp only [if_true]
  rw [run_bind (eat_run _), string_run]

theorem decodes_text (expected s : String) : Decodes l (text expected) (.string s) s := by
  intro depth gap rest hgap _
  rw [write]
  exact text_run expected s hgap

theorem decodes_natural {largest : Nat} (h : n ≤ largest) (hword : n ≤ largestWord)
    (expected : String) : Decodes l (natural largest expected) (.number n) n := by
  intro depth gap rest hgap hrest
  rw [write]
  have hnumeral := numeral_run hword hrest
  cases hds : digits n with
  | nil => exact absurd hds (digits_ne_nil n)
  | cons d ds =>
    have hd : d.isDigit = true := isDigit_of_mem_digits (hds ▸ List.mem_cons_self)
    have hblank : isBlank (some d) = false := by
      obtain ⟨c, cs, hwrite, hc, -⟩ := exists_open l depth (.number n)
      rw [write, hds] at hwrite
      exact (List.cons.inj hwrite).1 ▸ hc
    have hdigit : Numeral.isDigit (some d) = true := hd
    have hminus : some d ≠ some '-' := by
      intro h
      obtain rfl := Option.some.inj h
      cases hd
    rw [hds, List.map_cons, List.cons_append] at hnumeral
    unfold natural
    rw [List.map_cons, List.cons_append, run_bind (peek_run .endInValue hgap hblank)]
    simp only [hdigit, hminus, or_true, if_true, if_false, decide_false]
    rw [run_bind hnumeral]
    simp only [Nat.not_lt.2 h, if_false]
    exact run_pure

theorem decodes_null (l : Layout) (r : Reader α) : Decodes l (Reader.optional r) .null none := by
  intro depth gap rest hgap _
  have htext : (Value.write l depth .null).map some ++ rest =
      some 'n' :: (("ull".toList).map some ++ rest) := by
    rw [write]
    rfl
  unfold Reader.optional
  rw [htext, run_bind (peek_run .endInValue hgap rfl)]
  simp only [if_true]
  rw [run_bind (eat_run _), run_bind (literal_run _)]
  exact run_pure

/-- A value that does not open like `null`. -/
theorem decodes_some (h : Decodes l r v a) (hopen : ∀ depth, (v.write l depth).head? ≠ some 'n') :
    Decodes l (Reader.optional r) v (some a) := by
  intro depth gap rest hgap hrest
  obtain ⟨c, cs, hwrite, hc, -⟩ := exists_open l depth v
  have hn : some c ≠ some 'n' := fun h => hopen depth (by rw [hwrite, List.head?_cons, h])
  have hread := h.here depth hrest
  rw [hwrite, List.map_cons, List.cons_append] at hread ⊢
  unfold Reader.optional
  rw [run_bind (peek_run .endInValue hgap hc)]
  simp only [hn, if_false]
  rw [run_bind hread]
  exact run_pure

/-- A value that may be missing, where no value opens like `null`. -/
theorem decodes_optional {g : α → Value} {o : Option α} (h : ∀ a ∈ o, Decodes l r (g a) a)
    (hopen : ∀ a depth, ((g a).write l depth).head? ≠ some 'n') :
    Decodes l (Reader.optional r) (.ofOption g o) o := by
  cases o with
  | none => exact decodes_null l r
  | some a => exact decodes_some (h a rfl) (hopen a)

/-! ## Arrays -/

theorem array_cells (l : Layout) (depth : Nat) (v : Value) (vs : List Value) (rest : List Cell) :
    (Value.write l depth (.array (v :: vs))).map some ++ rest =
      some '[' :: ((l.gap (depth + 1)).map some ++ ((v.write l (depth + 1)).map some ++
        ((writeItems l depth vs).map some ++ rest))) := by
  rw [write]
  simp only [List.map_cons, List.map_append, List.cons_append, List.append_assoc]

theorem items_cells_nil (l : Layout) (depth : Nat) (rest : List Cell) :
    (writeItems l depth []).map some ++ rest = (l.gap depth).map some ++ some ']' :: rest := by
  rw [writeItems]
  simp only [List.map_cons, List.map_append, List.map_nil, List.cons_append, List.append_assoc,
    List.nil_append]

theorem items_cells_cons (l : Layout) (depth : Nat) (v : Value) (vs : List Value) (rest : List Cell) :
    (writeItems l depth (v :: vs)).map some ++ rest =
      some ',' :: ((l.gap (depth + 1)).map some ++ ((v.write l (depth + 1)).map some ++
        ((writeItems l depth vs).map some ++ rest))) := by
  rw [writeItems]
  simp only [List.map_cons, List.map_append, List.cons_append, List.append_assoc]

theorem ends_writeItems (hl : l.Blanks) (depth : Nat) (vs : List Value) (rest : List Cell) :
    Ends ((writeItems l depth vs).map some ++ rest) := by
  cases vs with
  | nil =>
    rw [items_cells_nil]
    exact ends_blank (hl.gap depth) (by decide)
  | cons v vs =>
    rw [items_cells_cons]
    exact ends_mark (by decide)

theorem length_le_writeItems (l : Layout) (depth : Nat) (vs : List Value) :
    vs.length ≤ (writeItems l depth vs).length := by
  induction vs with
  | nil => exact Nat.zero_le _
  | cons v vs ih =>
    rw [writeItems]
    simp only [List.length_cons, List.length_append]
    omega

theorem nextItem_first {c : Char} (hgap : Blank gap) (hc : isBlank (some c) = false) (hclose : c ≠ ']') :
    (nextItem true).run (gap.map some ++ some c :: rest) = .ok (true, some c :: rest) := by
  unfold nextItem
  rw [run_bind (peek_run .endInList hgap hc)]
  split
  · next heq => exact absurd (Option.some.inj heq) hclose
  · exact run_pure
  · exact run_pure

theorem nextItem_comma {c : Char} (hgap : Blank gap) (hc : isBlank (some c) = false) (hclose : c ≠ ']') :
    (nextItem false).run (some ',' :: (gap.map some ++ some c :: rest)) = .ok (true, some c :: rest) := by
  unfold nextItem
  rw [run_bind (peek_here .endInList rfl)]
  simp only [Bool.false_eq_true, if_false]
  rw [run_bind (eat_run _), run_bind (peek_run .endInValue hgap hc)]
  split
  · next heq => exact absurd (Option.some.inj heq) hclose
  · exact run_pure

theorem nextItem_close (first : Bool) (hgap : Blank gap) :
    (nextItem first).run (gap.map some ++ some ']' :: rest) = .ok (false, some ']' :: rest) := by
  unfold nextItem
  rw [run_bind (peek_run .endInList hgap rfl)]
  exact run_pure

variable {item : Reader α} {f : α → Value} {as : List α}

/-- One item, for one cell of fuel. -/
theorem itemsAt_item {first : Bool} {cs rest' fuel : List Cell} (x : Cell) (depth : Nat)
    (hnext : ∀ c t, (v.write l depth).map some ++ rest = some c :: t → isBlank (some c) = false →
      c ≠ ']' → (nextItem first).run cs = .ok (true, some c :: t))
    (hitem : Decodes l item v a) (hrest : Ends rest)
    (hmore : (itemsAt item fuel false).run rest = .ok (as, rest')) :
    (itemsAt item (x :: fuel) first).run cs = .ok (a :: as, rest') := by
  obtain ⟨c, t, hcells, hc, hclose⟩ := exists_open_cell l depth v rest
  have hread := hitem.here depth hrest
  rw [hcells] at hread
  unfold itemsAt
  rw [run_bind (hnext c _ hcells hc hclose)]
  simp only [if_true]
  rw [run_bind hread, run_bind hmore]
  exact run_pure

/-- The items after the first one. -/
theorem itemsAt_rest (hl : l.Blanks) (depth : Nat) (hitems : ∀ a ∈ as, Decodes l item (f a) a)
    {fuel : List Cell} (hfuel : as.length < fuel.length) :
    (itemsAt item fuel false).run ((writeItems l depth (as.map f)).map some ++ rest) = .ok (as, rest) := by
  -- on the items: each takes one cell of fuel, and the closing bracket one more
  induction as generalizing fuel with
  | nil =>
    cases fuel with
    | nil => exact absurd hfuel (Nat.lt_irrefl 0)
    | cons x fuel =>
      unfold itemsAt
      rw [List.map_nil, items_cells_nil, run_bind (nextItem_close false (hl.gap depth))]
      simp only [Bool.false_eq_true, if_false]
      rw [run_bind (eat_run _)]
      exact run_pure
  | cons a as ih =>
    cases fuel with
    | nil => exact absurd hfuel (Nat.not_lt_zero _)
    | cons x fuel =>
      obtain ⟨ha, has⟩ := List.forall_mem_cons.1 hitems
      rw [List.map_cons, items_cells_cons]
      refine itemsAt_item x (depth + 1) (fun c t hcells hc hclose => ?_) ha (ends_writeItems hl depth _ rest)
        (ih has (Nat.lt_of_succ_lt_succ hfuel))
      rw [hcells]
      exact nextItem_comma (hl.gap (depth + 1)) hc hclose

theorem bound_run (cs : List Cell) : bound.run cs = .ok (none :: cs, cs) := rfl

/-- **An array is decoded** item by item. -/
theorem decodes_array (hl : l.Blanks) (hitems : ∀ a ∈ as, Decodes l item (f a) a) :
    Decodes l (array item) (.array (as.map f)) as := by
  intro depth gap rest hgap hrest
  unfold array items
  cases as with
  | nil =>
    have htext : (Value.write l depth (.array [])).map some ++ rest = some '[' :: some ']' :: rest := by
      rw [write]
      rfl
    rw [List.map_nil, htext, run_bind (peek_run .endInValue hgap rfl)]
    simp only [if_true]
    rw [run_bind (eat_run _), run_bind (bound_run _)]
    have hclose : (nextItem true).run (some ']' :: rest) = .ok (false, some ']' :: rest) :=
      nextItem_close true blank_nil
    unfold itemsAt
    rw [run_bind hclose]
    simp only [Bool.false_eq_true, if_false]
    rw [run_bind (eat_run _)]
    exact run_pure
  | cons a as =>
    obtain ⟨ha, has⟩ := List.forall_mem_cons.1 hitems
    rw [List.map_cons, array_cells, run_bind (peek_run .endInValue hgap rfl)]
    simp only [if_true]
    rw [run_bind (eat_run _), run_bind (bound_run _)]
    refine itemsAt_item none (depth + 1) (fun c t hcells hc hclose => ?_) ha (ends_writeItems hl depth _ rest)
      (itemsAt_rest hl depth has ?_)
    · rw [hcells]
      exact nextItem_first (hl.gap (depth + 1)) hc hclose
    · -- every item but the first has written a comma of its own
      have hle := length_le_writeItems l depth (as.map f)
      obtain ⟨c, t, hwrite, -, -⟩ := exists_open l (depth + 1) (f a)
      simp only [hwrite, List.length_append, List.length_map, List.length_cons] at hle ⊢
      omega

/-! ## Objects -/

theorem object_cells (l : Layout) (depth : Nat) (k : String) (v : Value) (ms : List (String × Value))
    (rest : List Cell) :
    (Value.write l depth (.object ((k, v) :: ms))).map some ++ rest =
      some '\x7b' :: ((l.gap (depth + 1)).map some ++ some '"' ::
        ((k.toList.flatMap escape).map some ++ some '"' :: some ':' :: (l.afterColon.map some ++
          ((v.write l (depth + 1)).map some ++ ((writeMembers l depth ms).map some ++ rest))))) := by
  rw [write]
  unfold quoted
  simp only [List.map_cons, List.map_append, List.cons_append, List.append_assoc,
    List.nil_append]

theorem members_cells_nil (l : Layout) (depth : Nat) (rest : List Cell) :
    (writeMembers l depth []).map some ++ rest = (l.gap depth).map some ++ some '\x7d' :: rest := by
  rw [writeMembers]
  simp only [List.map_cons, List.map_append, List.map_nil, List.cons_append, List.append_assoc,
    List.nil_append]

theorem members_cells_cons (l : Layout) (depth : Nat) (k : String) (v : Value)
    (ms : List (String × Value)) (rest : List Cell) :
    (writeMembers l depth ((k, v) :: ms)).map some ++ rest =
      some ',' :: ((l.gap (depth + 1)).map some ++ some '"' ::
        ((k.toList.flatMap escape).map some ++ some '"' :: some ':' :: (l.afterColon.map some ++
          ((v.write l (depth + 1)).map some ++ ((writeMembers l depth ms).map some ++ rest))))) := by
  rw [writeMembers]
  unfold quoted
  simp only [List.map_cons, List.map_append, List.cons_append, List.append_assoc,
    List.nil_append]

theorem ends_writeMembers (hl : l.Blanks) (depth : Nat) (ms : List (String × Value))
    (rest : List Cell) : Ends ((writeMembers l depth ms).map some ++ rest) := by
  cases ms with
  | nil =>
    rw [members_cells_nil]
    exact ends_blank (hl.gap depth) (by decide)
  | cons m ms =>
    rw [members_cells_cons]
    exact ends_mark (by decide)

theorem length_le_writeMembers (l : Layout) (depth : Nat) (ms : List (String × Value)) :
    ms.length ≤ (writeMembers l depth ms).length := by
  induction ms with
  | nil => exact Nat.zero_le _
  | cons m ms ih =>
    rw [writeMembers]
    simp only [List.length_cons, List.length_append]
    omega

theorem nextKey_first (hgap : Blank gap) :
    (nextKey true).run (gap.map some ++ some '"' :: rest) = .ok (true, rest) := by
  unfold nextKey
  rw [run_bind (peek_run .endInObject hgap rfl)]
  rfl

theorem nextKey_comma (hgap : Blank gap) :
    (nextKey false).run (some ',' :: (gap.map some ++ some '"' :: rest)) = .ok (true, rest) := by
  unfold nextKey
  rw [run_bind (peek_here .endInObject rfl)]
  refine (run_bind (eat_run _)).trans ?_
  rw [run_bind (peek_run .endInValue hgap rfl)]
  rfl

theorem nextKey_close (first : Bool) (hgap : Blank gap) :
    (nextKey first).run (gap.map some ++ some '\x7d' :: rest) = .ok (false, some '\x7d' :: rest) := by
  unfold nextKey
  rw [run_bind (peek_run .endInObject hgap rfl)]
  rfl

theorem colon_run : colon.run (some ':' :: rest) = .ok ((), rest) := rfl

/-! ## Records -/

variable {shape : Shape σ α} {s s' t : σ} {ms : List (String × Value)} {k : String}

/-- **Members that fill a record**: each is a field that was not read yet, and is decoded. -/
def Fills (l : Layout) (shape : Shape σ α) : List (String × Value) → σ → σ → Prop
  | [], s, s' => s = s'
  | (k, v) :: ms, s, s' =>
    ∃ f t, (shape.fields.find? fun f => f.name == k) = some f ∧ f.isSet s = false ∧
      Decodes l (f.read s) v t ∧ Fills l shape ms t s'

/-- One member, for one cell of fuel. -/
theorem membersAt_member (hl : l.Blanks) {first : Bool} {cs rest' fuel : List Cell} {b : σ} (x : Cell)
    (depth : Nat) {f : Reader.Field σ} (hfind : (shape.fields.find? fun f => f.name == k) = some f)
    (hset : f.isSet s = false) (hread : Decodes l (f.read s) v t) (hrest : Ends rest)
    (hnext : (nextKey first).run cs = .ok (true, (k.toList.flatMap escape).map some ++ some '"' ::
      some ':' :: (l.afterColon.map some ++ ((v.write l depth).map some ++ rest))))
    (hmore : (membersAt shape fuel false t).run rest = .ok (b, rest')) :
    (membersAt shape (x :: fuel) first s).run cs = .ok (b, rest') := by
  unfold membersAt
  rw [run_bind hnext]
  simp only [if_true]
  rw [run_bind (string_run k)]
  simp only [hfind, hset, Bool.false_eq_true, if_false]
  rw [run_bind colon_run, run_bind (hread depth _ rest hl.afterColon hrest), hmore]

/-- The members after the first one. -/
theorem membersAt_rest (hl : l.Blanks) (depth : Nat) (hfills : Fills l shape ms s s')
    {fuel : List Cell} (hfuel : ms.length < fuel.length) :
    (membersAt shape fuel false s).run ((writeMembers l depth ms).map some ++ rest) =
      .ok (s', some '\x7d' :: rest) := by
  -- on the members: what is known of the record grows by one field with each
  induction ms generalizing s fuel with
  | nil =>
    cases fuel with
    | nil => exact absurd hfuel (Nat.lt_irrefl 0)
    | cons x fuel =>
      obtain rfl : s = s' := hfills
      unfold membersAt
      rw [members_cells_nil, run_bind (nextKey_close false (hl.gap depth))]
      simp only [Bool.false_eq_true, if_false]
      exact run_pure
  | cons m ms ih =>
    cases fuel with
    | nil => exact absurd hfuel (Nat.not_lt_zero _)
    | cons x fuel =>
      obtain ⟨k, v⟩ := m
      obtain ⟨f, t, hfind, hset, hread, hfills⟩ := hfills
      rw [members_cells_cons]
      exact membersAt_member hl x (depth + 1) hfind hset hread (ends_writeMembers hl depth ms rest)
        (nextKey_comma (hl.gap (depth + 1))) (ih hfills (Nat.lt_of_succ_lt_succ hfuel))

/-- **A record is decoded** from an object of its fields. -/
theorem decodes_record (hl : l.Blanks) (hne : ms ≠ []) (hfills : Fills l shape ms shape.start s)
    (hfinish : shape.finish s = .ok a) : Decodes l (record shape) (.object ms) a := by
  intro depth gap rest hgap _
  cases ms with
  | nil => exact absurd rfl hne
  | cons m ms =>
    obtain ⟨k, v⟩ := m
    obtain ⟨f, t, hfind, hset, hread, hfills⟩ := hfills
    -- the first member has no comma in front, and there is a cell of fuel for each
    have hmembers : ∀ cs : List Cell, ms.length < cs.length →
        (membersAt shape (none :: cs) true shape.start).run ((l.gap (depth + 1)).map some ++ some '"' ::
          ((k.toList.flatMap escape).map some ++ some '"' :: some ':' :: (l.afterColon.map some ++
            ((v.write l (depth + 1)).map some ++ ((writeMembers l depth ms).map some ++ rest))))) =
          .ok (s, some '\x7d' :: rest) := fun cs hlen =>
      membersAt_member hl none (depth + 1) hfind hset hread (ends_writeMembers hl depth ms rest)
        (nextKey_first (hl.gap (depth + 1))) (membersAt_rest hl depth hfills hlen)
    have hfinished : (finished shape s).run (some '\x7d' :: rest) = .ok (a, some '\x7d' :: rest) := by
      unfold finished
      rw [hfinish]
      exact run_pure
    unfold record
    rw [object_cells, run_bind (peek_run .endInValue hgap rfl)]
    simp only
    rw [run_bind (eat_run _), run_bind (bound_run _), run_bind (hmembers _ ?_), run_bind hfinished,
      run_bind (eat_run _)]
    · exact run_pure
    · have hle := length_le_writeMembers l depth ms
      simp only [List.length_append, List.length_map, List.length_cons] at hle ⊢
      omega

/-- A field reads what its reader reads. -/
theorem decodes_field {β : Type} {name : String} {get : σ → Option β} {set : σ → β → σ} {r : Reader β}
    {b : β} (h : Decodes l r v b) (s : σ) : Decodes l ((Reader.Field.of name get set r).read s) v (set s b) :=
  decodes_bind h fun _ => rfl

/-! ## Names with values -/

variable {variants : List (Variant α)} {name : String} {w : Variant α}

theorem variantOf_run (hfind : (variants.find? fun v => v.name == name) = some w) (cs : List Cell) :
    (variantOf variants name).run cs = .ok (w, cs) := by
  unfold variantOf
  rw [hfind]
  exact run_pure

theorem decodes_bare (hfind : (variants.find? fun v => v.name == name) = some w)
    (hbare : w.bare = .ok a) : Decodes l (choice variants) (.string name) a := by
  intro depth gap rest hgap _
  rw [write, quoted_cells]
  unfold choice
  rw [run_bind (peek_run .endInValue hgap rfl)]
  simp only
  rw [run_bind (eat_run _), run_bind (string_run name), run_bind (variantOf_run hfind _), hbare]
  exact run_pure

theorem decodes_carried (hl : l.Blanks) (hfind : (variants.find? fun v => v.name == name) = some w)
    (hread : Decodes l w.read v a) : Decodes l (choice variants) (.object [(name, v)]) a := by
  intro depth gap rest hgap _
  have hname : ∀ cs : List Cell, (text "variant identifier").run
      ((l.gap (depth + 1)).map some ++ some '"' ::
        ((name.toList.flatMap escape).map some ++ some '"' :: cs)) = .ok (name, cs) := by
    intro cs
    rw [← quoted_cells]
    exact text_run "variant identifier" name (hl.gap (depth + 1))
  have hvalue := hread (depth + 1) _ _ hl.afterColon (ends_writeMembers hl depth [] rest)
  have hclose : closeMember.run ((l.gap depth).map some ++ some '\x7d' :: rest) = .ok ((), rest) := by
    unfold closeMember
    rw [run_bind (peek_run .endInObject (hl.gap depth) rfl)]
    exact eat_run _
  unfold choice
  rw [object_cells, run_bind (peek_run .endInValue hgap rfl)]
  simp only
  rw [run_bind (eat_run _), run_bind (hname _), run_bind (variantOf_run hfind _), run_bind colon_run,
    run_bind hvalue, members_cells_nil, run_bind hclose]
  exact run_pure

/-! ## Documents -/

/-- **A decoded value is a document.** -/
theorem document_run (h : Decodes l r v a) :
    (document r).run ((v.write l 0).map some) = .ok (a, []) := by
  have hread := h.here 0 ends_nil
  rw [List.append_nil] at hread
  unfold document
  rw [run_bind hread]
  rfl

end StackSampler.Json
