import Mathlib.Algebra.Group.Nat.Defs
import Mathlib.Data.Finset.Card
import Mathlib.Data.List.Nodup
import StackSampler.Frame.Symbols

/-!
# Names and identities

A symbol table keeps its names in their places and looks them up in a map, and the two mirror each other
(`SymbolTable.Mirrored`): the map has a name just if the names have it, and gives it its place, counted from
one. The names grow at their end only and hold none twice. So the identity of a name is settled when the
name is first seen, and later names do not move it: between the names that were seen and the identities that
were handed out there is a bijection that grows.

* `SymbolTable.Mirrored.intern`: every call keeps the names and the map inverse to each other.
* `SymbolTable.intern_fst`, `intern_grows`: what one call answers, and what it adds.
* `SymbolTable.resolve_intern`, `intern_of_resolve`: names and identities come back from each other.
* `SymbolTable.run_interning`: what each of many calls answers can be read off the table in the end.
-/

namespace StackSampler

namespace FrameId

theorem ofNat_toNat (f : FrameId) : ofNat f.toNat = f := by
  obtain ⟨raw⟩ := f
  exact congrArg FrameId.mk UInt64.ofNat_toNat

theorem toNat_ofNat {n : ℕ} (h : n < 2 ^ 64) : (ofNat n).toNat = n := UInt64.toNat_ofNat_of_lt' h

end FrameId

section States

variable {σ α β : Type} {g : α → StateM σ β}

theorem run_mapM_cons (a : α) (l : List α) (s : σ) :
    ((a :: l).mapM g).run s =
      Prod.map (((g a).run s).1 :: ·) id ((l.mapM g).run ((g a).run s).2) := by
  rw [List.mapM_cons]
  rfl

/-- Actions that leave the state alone answer one by one. -/
theorem run_mapM_eq_map {h : α → β} {s : σ} {l : List α} (hg : ∀ a ∈ l, (g a).run s = (h a, s)) :
    (l.mapM g).run s = (l.map h, s) := by
  induction l with
  | nil => rfl
  | cons a l ih =>
    obtain ⟨ha, hl⟩ := List.forall_mem_cons.1 hg
    rw [run_mapM_cons, ha, ih hl]
    rfl

end States

namespace SymbolTable

variable {t t' : SymbolTable} {f : FrameId} {name : String} {calls more : List String}

/-! ## Names and their map -/

/-- **The names and the map mirror each other.** -/
structure Mirrored (t : SymbolTable) : Prop where
  nodup : t.names.toList.Nodup
  /-- The map gives a name its place, counted from one, if it has a place, and knows no other name. -/
  lookup : ∀ name f, t.ids.lookup name = some f ↔ ∃ i, t.names[i]? = some name ∧ f = .ofNat (i + 1)
  /-- It has one entry for each. -/
  entries : t.ids.length = t.names.size

theorem mirrored_empty : ({} : SymbolTable).Mirrored := ⟨List.nodup_nil, by simp, rfl⟩

theorem Mirrored.lookup_of_mem (h : t.Mirrored) (hmem : name ∈ t.names.toList) :
    t.ids.lookup name = some (.ofNat (t.names.toList.idxOf name + 1)) := by
  have hidx := List.idxOf_lt_length_of_mem hmem
  refine (h.lookup name _).2 ⟨_, ?_, rfl⟩
  rw [← Array.getElem?_toList, List.getElem?_eq_getElem hidx, List.getElem_idxOf]

theorem Mirrored.lookup_of_notMem (h : t.Mirrored) (hnew : name ∉ t.names.toList) :
    t.ids.lookup name = none := by
  refine Option.eq_none_iff_forall_ne_some.2 fun f hf => hnew ?_
  obtain ⟨i, hi, -⟩ := (h.lookup name f).1 hf
  rw [← Array.getElem?_toList] at hi
  exact List.mem_of_getElem? hi

theorem intern_of_mem (h : t.Mirrored) (hmem : name ∈ t.names.toList) :
    t.intern name = (.ofNat (t.names.toList.idxOf name + 1), t) := by
  rw [intern, h.lookup_of_mem hmem]

theorem intern_of_notMem (h : t.Mirrored) (hnew : name ∉ t.names.toList) :
    t.intern name = (.ofNat (t.size + 1),
      { names := t.names.push name, ids := (name, .ofNat (t.size + 1)) :: t.ids }) := by
  rw [intern, h.lookup_of_notMem hnew]
  simp only [Array.size_push, size]

/-- **A call keeps the mirror**: what it puts at the end of the names it puts into the map too. -/
theorem Mirrored.intern (h : t.Mirrored) (name : String) : (t.intern name).2.Mirrored := by
  by_cases hmem : name ∈ t.names.toList
  · rwa [intern_of_mem h hmem]
  rw [intern_of_notMem h hmem]
  refine ⟨?_, fun n f => ?_, ?_⟩
  · rw [Array.toList_push, ← List.concat_eq_append]
    exact h.nodup.concat hmem
  · show List.lookup n ((name, _) :: t.ids) = some f ↔ _
    by_cases hn : n = name
    · -- the new name has the new place and, as it was not known, no other
      subst hn
      rw [List.lookup_cons_self, Option.some.injEq]
      constructor
      · rintro rfl
        exact ⟨t.size, Array.getElem?_push_size, rfl⟩
      · rintro ⟨i, hi, rfl⟩
        rw [Array.getElem?_push] at hi
        split at hi
        · next heq => rw [heq, SymbolTable.size]
        · rw [← Array.getElem?_toList] at hi
          exact absurd (List.mem_of_getElem? hi) hmem
    · have hother : (n == name) = false := beq_false_of_ne hn
      rw [List.lookup_cons, hother]
      refine (h.lookup n f).trans (exists_congr fun i => and_congr_left fun _ => ?_)
      rw [Array.getElem?_push]
      split
      · next heq =>
        rw [heq, Array.getElem?_size]
        exact iff_of_false nofun fun heq => hn (Option.some.inj heq).symm
      · rfl
  · simp only [List.length_cons, Array.size_push, h.entries]

/-! ## One call -/

/-- **The identity of a name** is its place, counted from one; a name that is not known goes to the
end. -/
theorem intern_fst (h : t.Mirrored) (name : String) :
    (t.intern name).1 = .ofNat (t.names.toList.idxOf name + 1) := by
  by_cases hmem : name ∈ t.names.toList
  · rw [intern_of_mem h hmem]
  · rw [intern_of_notMem h hmem, List.idxOf_of_notMem hmem]
    rfl

theorem intern_snd_of_mem (h : t.Mirrored) (hmem : name ∈ t.names.toList) : (t.intern name).2 = t := by
  rw [intern_of_mem h hmem]

theorem names_intern_of_notMem (h : t.Mirrored) (hnew : name ∉ t.names.toList) :
    (t.intern name).2.names.toList = t.names.toList ++ [name] := by
  rw [intern_of_notMem h hnew]
  exact Array.toList_push

/-- **What a call does to the names**: those that are there stay in their places, and its own is known. -/
theorem intern_grows (h : t.Mirrored) (name : String) :
    t.names.toList <+: (t.intern name).2.names.toList ∧
      ∀ n, n ∈ (t.intern name).2.names.toList ↔ n ∈ t.names.toList ∨ n = name := by
  by_cases hmem : name ∈ t.names.toList
  · rw [intern_snd_of_mem h hmem]
    exact ⟨List.prefix_rfl, fun n => ⟨.inl, fun hn => hn.elim id (· ▸ hmem)⟩⟩
  · rw [names_intern_of_notMem h hmem]
    refine ⟨List.prefix_append .., fun n => ?_⟩
    rw [List.mem_append, List.mem_singleton]

/-! ## Places do not change -/

/-- **A name keeps its identity** in every table that has grown since the name was seen. -/
theorem intern_settled (ht : t.Mirrored) (ht' : t'.Mirrored)
    (h : (t.intern name).2.names.toList <+: t'.names.toList) :
    (t'.intern name).1 = (t.intern name).1 := by
  rw [intern_fst ht, intern_fst ht']
  -- a known name is in the front part of the later table, a new one directly behind it
  by_cases hmem : name ∈ t.names.toList
  · rw [intern_snd_of_mem ht hmem] at h
    obtain ⟨added, hadded⟩ := h
    rw [← hadded, List.idxOf_append_of_mem hmem]
  · rw [names_intern_of_notMem ht hmem] at h
    obtain ⟨added, hadded⟩ := h
    rw [← hadded, List.append_assoc, List.idxOf_append_of_notMem hmem, List.idxOf_of_notMem hmem,
      List.singleton_append, List.idxOf_cons_self, Nat.add_zero]

theorem resolve_eq (t : SymbolTable) (f : FrameId) :
    t.resolve f = if f.toNat = 0 then none else t.names.toList[f.toNat - 1]? := by
  unfold resolve
  split
  · next h => rw [if_pos h]
  · next i h =>
    rw [if_neg (by omega), h, Array.getElem?_toList]
    rfl

/-- The identities that have a name. -/
theorem isSome_resolve_iff : (t.resolve f).isSome ↔ 1 ≤ f.toNat ∧ f.toNat ≤ t.size := by
  rw [resolve_eq]
  split
  · next h => simp [h]
  · next h =>
    rw [isSome_getElem?, Array.length_toList, size]
    omega

/-- A table that has grown gives an identity that had a name the same name. -/
theorem resolve_of_grown (h : t.names.toList <+: t'.names.toList) (hf : t.resolve f = some name) :
    t'.resolve f = some name := by
  rw [resolve_eq] at hf ⊢
  split at hf
  · cases hf
  · next hpos =>
    rw [if_neg hpos]
    obtain ⟨hi, hname⟩ := List.getElem?_eq_some_iff.1 hf
    exact List.prefix_iff_getElem?.1 h _ hi ▸ congrArg some hname

/-- **What may change when a table grows**: identities that were not handed out before get names. -/
theorem resolve_kept (h : t.names.toList <+: t'.names.toList) (f : FrameId) :
    t'.resolve f = t.resolve f ∨ t.size < f.toNat ∧ f.toNat ≤ t'.size := by
  cases hf : t.resolve f with
  | some name => exact .inl (resolve_of_grown h hf)
  | none =>
    cases hf' : t'.resolve f with
    | none => exact .inl rfl
    | some name =>
      have hout : ¬(1 ≤ f.toNat ∧ f.toNat ≤ t.size) := by
        rw [← isSome_resolve_iff, hf]
        exact Bool.false_ne_true
      have hin : 1 ≤ f.toNat ∧ f.toNat ≤ t'.size := by
        rw [← isSome_resolve_iff, hf']
        rfl
      exact .inr (by omega)

/-- **A name comes back from its identity**, as long as there are fewer names than identities. -/
theorem resolve_intern (h : t.Mirrored) (hfits : t.size < 2 ^ 64) (hmem : name ∈ t.names.toList) :
    t.resolve (t.intern name).1 = some name := by
  have hidx := List.idxOf_lt_length_of_mem hmem
  have hlen : t.names.toList.length = t.size := Array.length_toList
  rw [intern_fst h, resolve_eq, FrameId.toNat_ofNat (by omega), if_neg (by omega), Nat.add_sub_cancel,
    List.getElem?_eq_getElem hidx, List.getElem_idxOf]

theorem mem_of_resolve (hf : t.resolve f = some name) : name ∈ t.names.toList := by
  rw [resolve_eq] at hf
  split at hf
  · cases hf
  · exact List.mem_of_getElem? hf

/-- **An identity comes back from its name.** -/
theorem intern_of_resolve (h : t.Mirrored) (hf : t.resolve f = some name) :
    t.intern name = (f, t) := by
  rw [resolve_eq] at hf
  split at hf
  · cases hf
  · next hpos =>
    obtain ⟨hi, hname⟩ := List.getElem?_eq_some_iff.1 hf
    have hidx : t.names.toList.idxOf name = f.toNat - 1 := hname ▸ h.nodup.idxOf_getElem _ hi
    refine Prod.ext ?_ (intern_snd_of_mem h (hname ▸ List.getElem_mem hi))
    rw [intern_fst h, hidx, Nat.sub_add_cancel (Nat.pos_of_ne_zero hpos), FrameId.ofNat_toNat]

/-! ## Many calls -/

/-- A call as an action on the table. -/
def interning (name : String) : StateM SymbolTable FrameId := fun t => t.intern name

/-- The table after calls. -/
def internAll (t : SymbolTable) (calls : List String) : SymbolTable :=
  calls.foldl (fun t name => (t.intern name).2) t

theorem Mirrored.internAll (h : t.Mirrored) (calls : List String) : (t.internAll calls).Mirrored := by
  induction calls generalizing t with
  | nil => exact h
  | cons name calls ih => exact ih (h.intern name)

/-- Names in their places, and those of the calls known. -/
theorem internAll_grows (h : t.Mirrored) (calls : List String) :
    t.names.toList <+: (t.internAll calls).names.toList ∧
      ∀ n, n ∈ (t.internAll calls).names.toList ↔ n ∈ t.names.toList ∨ n ∈ calls := by
  induction calls generalizing t with
  | nil => exact ⟨List.prefix_rfl, fun n => by simp [SymbolTable.internAll]⟩
  | cons name calls ih =>
    obtain ⟨hfirst, hmem⟩ := intern_grows h name
    obtain ⟨hrest, hmems⟩ := ih (h.intern name)
    refine ⟨hfirst.trans hrest, fun n => ?_⟩
    rw [List.mem_cons, ← or_assoc, ← hmem]
    exact hmems n

/-- **What calls answer** is what the table answers once they are over: no later call changes what an
earlier one was told. -/
theorem run_interning (h : t.Mirrored) (calls : List String) :
    (calls.mapM interning).run t =
      (calls.map fun name => ((t.internAll calls).intern name).1, t.internAll calls) := by
  induction calls generalizing t with
  | nil => rfl
  | cons name calls ih =>
    -- the other calls make the table grow, and the identity is settled by then
    have hfirst : ((t.internAll (name :: calls)).intern name).1 = (t.intern name).1 :=
      intern_settled h (h.internAll (name :: calls)) (internAll_grows (h.intern name) calls).1
    rw [run_mapM_cons, List.map_cons, hfirst]
    exact congrArg (Prod.map ((t.intern name).1 :: ·) id) (ih (h.intern name))

/-! ## Tables from the empty one on -/

theorem ofList_append (calls more : List String) :
    ofList (calls ++ more) = (ofList calls).internAll more := List.foldl_append

theorem mirrored_ofList (calls : List String) : (ofList calls).Mirrored :=
  mirrored_empty.internAll calls

theorem mem_ofList : name ∈ (ofList calls).names.toList ↔ name ∈ calls :=
  ((internAll_grows mirrored_empty calls).2 name).trans (or_iff_right List.not_mem_nil)

/-- There are as many names as different ones among the calls. -/
theorem size_ofList (calls : List String) : (ofList calls).size = calls.toFinset.card := by
  have hsame : (ofList calls).names.toList.toFinset = calls.toFinset := by
    ext name
    rw [List.mem_toFinset, List.mem_toFinset, mem_ofList]
  rw [← hsame, List.toFinset_card_of_nodup (mirrored_ofList calls).nodup]
  exact Array.length_toList.symm

/-- What the calls answer, one after the other, when the table is empty at first. -/
def answers (calls : List String) : List FrameId := ((calls.mapM interning).run {}).1

theorem answers_eq (calls : List String) :
    answers calls = calls.map fun name => ((ofList calls).intern name).1 :=
  congrArg Prod.fst (run_interning mirrored_empty calls)

/-- **What was handed out** is what has a name. -/
theorem mem_answers_iff (hfits : (ofList calls).size < 2 ^ 64) :
    f ∈ answers calls ↔ ((ofList calls).resolve f).isSome := by
  rw [answers_eq, List.mem_map]
  constructor
  · rintro ⟨name, hmem, rfl⟩
    rw [resolve_intern (mirrored_ofList calls) hfits (mem_ofList.2 hmem)]
    rfl
  · intro h
    obtain ⟨name, hname⟩ := Option.isSome_iff_exists.1 h
    have hintern := intern_of_resolve (mirrored_ofList calls) hname
    exact ⟨name, mem_ofList.1 (mem_of_resolve hname), congrArg Prod.fst hintern⟩

end SymbolTable

end StackSampler
