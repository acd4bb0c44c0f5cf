import StackSampler.Files.Tree
import StackSampler.Proofs.Reading

/-!
# A file that was written is there

A path that was written to leads to what was written (`find_of_create`): the way to its directory does
not lead through the file, so the walk takes the same steps as before.
-/

namespace StackSampler

namespace Files.Tree

open Reading

variable {t t' : Tree} {place p q : Place} {node : Node} {content : Content} {text name : String}
  {path : Path}

/-! ## One node put -/

theorem lookup_filter_ne (nodes : List (Place × Node)) (h : q ≠ p) :
    (nodes.filter fun (p', _) => p' != p).lookup q = nodes.lookup q := by
  induction nodes with
  | nil => rfl
  | cons n nodes ih =>
    obtain ⟨p', node⟩ := n
    by_cases hp : p' = p
    · have hq : (q == p') = false := by simpa using fun hq => h (hq.trans hp)
      rw [List.filter_cons_of_neg (by simpa using hp), ih, List.lookup_cons, hq]
    · rw [List.filter_cons_of_pos (by simpa using hp), List.lookup_cons, List.lookup_cons, ih]

theorem lookup_filter_self (nodes : List (Place × Node)) (p : Place) :
    (nodes.filter fun (p', _) => p' != p).lookup p = none := by
  rw [List.lookup_eq_none_iff]
  intro n hn
  have hne := (List.mem_filter.1 hn).2
  simp only [bne_iff_ne] at hne
  simpa using Ne.symm hne

theorem node?_put_self (t : Tree) (hp : p ≠ []) (node : Node) :
    (t.put p node).node? p = some node := by
  unfold node? put
  rw [if_neg (by simpa using hp), List.lookup_append, lookup_filter_self, List.lookup_cons,
    beq_self_eq_true]
  rfl

theorem node?_put_of_ne (t : Tree) (node : Node) (h : q ≠ p) : (t.put p node).node? q = t.node? q := by
  unfold node? put
  by_cases hq : q = []
  · rw [hq]
    rfl
  · have hqp : (q == p) = false := by simpa using h
    rw [if_neg (by simpa using hq), if_neg (by simpa using hq), List.lookup_append,
      lookup_filter_ne _ h, List.lookup_cons, hqp, List.lookup_nil, Option.or_none]

theorem isDirectoryAt_put_of_ne (t : Tree) (node : Node) (h : q ≠ p) :
    (t.put p node).isDirectoryAt q = t.isDirectoryAt q := by
  unfold isDirectoryAt
  rw [node?_put_of_ne t node h]

/-! ## Walks -/

/-- A walk passes through directories, and those stay where they are. -/
theorem step_put {segment : String} (hp : p ≠ []) (hfile : t.isDirectoryAt p = false)
    (h : t.step q segment = .ok place) : (t.put p node).step q segment = .ok place := by
  cases hdir : t.isDirectoryAt q with
  | false =>
    rw [step, hdir] at h
    cases h
  | true =>
    -- the walk goes on from directories only, so it does not stand at the file
    have hne : q ≠ p := by
      rintro rfl
      exact Bool.false_ne_true (hfile.symm.trans hdir)
    have hthere : (t.node? (q ++ [segment])).isSome = true →
        ((t.put p node).node? (q ++ [segment])).isSome = true := by
      intro hsome
      by_cases heq : q ++ [segment] = p
      · rw [heq, node?_put_self t hp]
        rfl
      · rw [node?_put_of_ne t node heq]
        exact hsome
    unfold step at h ⊢
    rw [isDirectoryAt_put_of_ne t node hne]
    simp only [hdir, Bool.not_true, Bool.false_eq_true, if_false] at h ⊢
    split
    · next hdot => rwa [if_pos hdot] at h
    · next hdot =>
      rw [if_neg hdot] at h
      split
      · next hup => rwa [if_pos hup] at h
      · next hup =>
        rw [if_neg hup] at h
        split at h
        · cases h
        · next hlong =>
          split at h
          · next hsome => rwa [if_neg hlong, if_pos (hthere hsome)]
          · cases h

theorem walk_put {segments : List String} (hp : p ≠ []) (hfile : t.isDirectoryAt p = false)
    (h : segments.foldlM t.step q = .ok place) :
    segments.foldlM (t.put p node).step q = .ok place := by
  induction segments generalizing q with
  | nil => exact h
  | cons segment segments ih =>
    rw [List.foldlM_cons] at h ⊢
    obtain ⟨next, hstep, hrest⟩ := exists_of_bind_ok h
    rw [step_put hp hfile hstep]
    exact ih hrest

/-! ## Files -/

theorem of_approach (h : t.approach text = .ok (path, place, name)) :
    accept text = .ok path ∧ t.walk path path.segments.dropLast = .ok place ∧
      t.isDirectoryAt place = true ∧ path.segments.getLast?.getD "." = name := by
  unfold approach at h
  obtain ⟨path', haccept, h⟩ := exists_of_bind_ok h
  obtain ⟨place', hwalk, h⟩ := exists_of_bind_ok h
  obtain ⟨hdir, h⟩ := of_guard_ok h
  obtain ⟨rfl, hrest⟩ := Prod.mk.inj (Except.ok.inj h)
  obtain ⟨rfl, hname⟩ := Prod.mk.inj hrest
  exact ⟨haccept, hwalk, by simpa using hdir, hname⟩

/-- A dot stands for no last segment. -/
theorem segments_eq {segments : List String} (h : segments.getLast?.getD "." = name) (hdot : name ≠ ".") :
    segments = segments.dropLast ++ [name] := by
  cases hlast : segments.getLast? with
  | none =>
    rw [hlast] at h
    exact absurd h.symm hdot
  | some segment =>
    rw [hlast] at h
    obtain rfl : segment = name := h
    obtain ⟨front, hfront⟩ := List.getLast?_eq_some_iff.1 hlast
    rw [hfront, List.dropLast_concat]

/-- A file that was put into a directory is reached from there. -/
theorem step_put_self (hdir : t.isDirectoryAt place = true) (hdot : name ≠ ".") (hup : name ≠ "..")
    (hlong : ¬longestName < name.utf8ByteSize) :
    (t.put (place ++ [name]) node).step place name = .ok (place ++ [name]) := by
  have hne : place ≠ place ++ [name] := by
    intro heq
    have hlength := congrArg List.length heq
    simp only [List.length_append, List.length_cons, List.length_nil] at hlength
    omega
  have hnode := node?_put_self t (List.append_ne_nil_of_right_ne_nil place (List.cons_ne_nil name [])) node
  unfold step
  rw [isDirectoryAt_put_of_ne t node hne, hdir, if_neg hdot, if_neg hup, if_neg hlong, hnode]
  rfl

/-- **What was written is found under its path.** -/
theorem find_of_create (h : t.create text content = .ok t') : t'.find text = .ok (.file content) := by
  unfold create at h
  obtain ⟨⟨path, place, name⟩, happroach, h⟩ := exists_of_bind_ok h
  obtain ⟨hname, h⟩ := of_guard_ok h
  obtain ⟨hlong, h⟩ := of_guard_ok h
  obtain ⟨hfile, h⟩ := of_guard_ok h
  obtain rfl := Except.ok.inj h
  obtain ⟨haccept, hwalk, hdir, hlast⟩ := of_approach happroach
  simp only [Bool.or_eq_true, decide_eq_true_eq, not_or, Bool.not_eq_true] at hname hfile
  obtain ⟨⟨hslashed, hdot⟩, hup⟩ := hname
  have hp : place ++ [name] ≠ [] := List.append_ne_nil_of_right_ne_nil place (List.cons_ne_nil _ _)
  have hnode := node?_put_self t hp (.file content)
  have hfound : (t.put (place ++ [name]) (.file content)).walk path path.segments =
      .ok (place ++ [name]) := by
    have hway : (t.put (place ++ [name]) (.file content)).walk path path.segments.dropLast =
        .ok place := walk_put hp hfile hwalk
    unfold walk
    rw [segments_eq hlast hdot, List.foldlM_append]
    refine (congrArg (· >>= _) hway).trans ?_
    exact congrArg (· >>= pure) (step_put_self hdir hdot hup hlong)
  -- the path has no slash at its end, so a file may be there
  unfold find locate
  rw [haccept]
  simp only [bind, Except.bind, hfound, hslashed, Bool.false_and, Bool.false_eq_true, if_false, pure,
    Except.pure, hnode]

/-- Whether a file can be written does not depend on what is in it. -/
theorem create_any (h : t.create text content = .ok t') (other : Content) :
    ∃ t'', t.create text other = .ok t'' := by
  unfold create at h ⊢
  obtain ⟨⟨path, place, name⟩, happroach, h⟩ := exists_of_bind_ok h
  obtain ⟨hname, h⟩ := of_guard_ok h
  obtain ⟨hlong, h⟩ := of_guard_ok h
  obtain ⟨hfile, -⟩ := of_guard_ok h
  refine ⟨t.put (place ++ [name]) (.file other), ?_⟩
  rw [happroach]
  simp only [bind, Except.bind, pure, Except.pure, if_neg hname, if_neg hlong, if_neg hfile]

end Files.Tree

end StackSampler
