import StackSampler.Proofs.Sampling.Ownership

/-!
# Freeing a tick that a handler may hold

The handler of the profiling signal reaches its tick through one pointer of the process. It is called on
any number of threads and never waits. Who replaces the tick has to free the old one, and must not do so
while a call of the handler may still run it. A counter sees to that:

* a call counts itself **before** it loads the pointer, and until it is done with what it loaded;
* the owner swaps the pointer **before** it waits for the counter to read zero.

`Reclamation.State` is what the calls and the owner share and how far each of them has come; a schedule
is a list of `Reclamation.Move`s, each of them one atomic step. Boxed ticks are named by the order in
which they were made, so that a box at the address of a freed one is not taken for it. The counter is
not bounded.

* `Sound`: what every step keeps.
* `Reclamation.no_use_after_free`: the law, under every schedule.
* `ProfSignal.Served`: what one call and one replacement do, with nothing between their steps, is what
  `ProfSignal.handle`, `ItimerTrigger.install` and `ItimerTrigger.drop` say.
-/

namespace StackSampler

namespace Reclamation

/-! ## Steps -/

/-- How far a call of the handler has come. -/
inductive Call where
  /-- Nothing is done yet. -/
  | entered
  /-- It is counted. -/
  | counted
  /-- It has loaded the pointer. -/
  | loaded (target : Option Nat)
  /-- It has run the tick, if there was one. -/
  | ticked (target : Option Nat)
  | returned
  deriving DecidableEq

/-- Whether the counter has the call in it. -/
def Call.inFlight : Call → Bool
  | .counted | .loaded _ | .ticked _ => true
  | .entered | .returned => false

/-- The tick that a call has a pointer to. -/
def Call.held : Call → Option Nat
  | .loaded target | .ticked target => target
  | .entered | .counted | .returned => none

/-- How far the owner has come with a replacement. -/
inductive Owner where
  | idle
  /-- The pointer is swapped. It waits for the counter. -/
  | draining (old : Nat)
  /-- The counter has read zero. -/
  | freeing (old : Nat)
  deriving DecidableEq

/-- The tick that the owner has yet to free. -/
def Owner.old : Owner → Option Nat
  | .idle => none
  | .draining old | .freeing old => some old

/-- What has to be in order. -/
inductive Deed where
  /-- A call runs a tick. -/
  | tick (call target : Nat)
  | free (target : Nat)
  /-- A replacement returns. -/
  | replaced (old : Option Nat)
  deriving DecidableEq

/-- The calls of the handler, the owner, and what they share. -/
structure State (τ : Type) where
  /-- The ticks that were ever boxed. -/
  made : List τ := []
  /-- Where the pointer points to. -/
  target : Option Nat := none
  inFlight : Nat := 0
  calls : List Call := []
  owner : Owner := .idle
  /-- What was done, in order. No step looks at it. -/
  log : List Deed := []

inductive Move (τ : Type) where
  /-- A signal comes to some thread, whatever that is in the middle of. -/
  | signal
  /-- A call takes a step. -/
  | call (i : Nat)
  /-- The owner begins a replacement, unless it is at one. -/
  | replace (new : Option τ)
  /-- The owner takes a step. -/
  | owner

namespace State

variable {τ : Type} (w : State τ)

/-- One atomic step of call `i`, which has come as far as `c`. -/
def callStep (i : Nat) : Call → State τ
  | .entered => { w with inFlight := w.inFlight + 1, calls := w.calls.set i .counted }
  | .counted => { w with calls := w.calls.set i (.loaded w.target) }
  | .loaded target =>
    { w with calls := w.calls.set i (.ticked target), log := w.log ++ target.toList.map (.tick i) }
  | .ticked _ => { w with inFlight := w.inFlight - 1, calls := w.calls.set i .returned }
  | .returned => w

/-- Boxes the new tick, if there is one, and swaps the pointer. Where there was no tick, that is all. -/
def swap (new : Option τ) : State τ :=
  let made := w.made ++ new.toList
  let target := new.map fun _ => w.made.length
  match w.target with
  | none => { w with made, target, log := w.log ++ [.replaced none] }
  | some old => { w with made, target, owner := .draining old }

/-- One look at the counter, or the end of the replacement. -/
def ownerStep : State τ :=
  match w.owner with
  | .idle => w
  | .draining old => if w.inFlight = 0 then { w with owner := .freeing old } else w
  | .freeing old => { w with owner := .idle, log := w.log ++ [.free old, .replaced (some old)] }

def move : Move τ → State τ
  | .signal => { w with calls := w.calls ++ [.entered] }
  | .call i =>
    match w.calls[i]? with
    | some c => w.callStep i c
    | none => w
  | .replace new =>
    match w.owner with
    | .idle => w.swap new
    | _ => w
  | .owner => w.ownerStep

/-- What a schedule leaves. -/
def after (moves : List (Move τ)) : State τ := moves.foldl move w

/-- The tick that the pointer points to. -/
def current : Option τ := w.target.bind fun n => w.made[n]?

end State

/-- The state behind a schedule, from a new process on. -/
def of {τ : Type} (moves : List (Move τ)) : State τ := State.after {} moves

/-! ## What every step keeps -/

/-- Nothing is freed, or ticked, that was freed before. -/
def Deed.Before (d e : Deed) : Prop := ∀ n, d = .free n → e ≠ .free n ∧ ∀ i, e ≠ .tick i n

theorem ordered_concat {log : List Deed} {e : Deed} (h : log.Pairwise Deed.Before)
    (he : ∀ n, .free n ∈ log → e ≠ .free n ∧ ∀ i, e ≠ .tick i n) :
    (log ++ [e]).Pairwise Deed.Before := by
  refine List.pairwise_append.2 ⟨h, List.pairwise_singleton _ _, fun d hd e' he' => ?_⟩
  obtain rfl := List.mem_singleton.1 he'
  rintro n rfl
  exact he n hd

variable {τ : Type}

/-- **The calls and the owner together.** What a call holds is what the pointer points to, or what the
owner still waits to free. -/
structure Sound (w : State τ) : Prop where
  counted : w.inFlight = w.calls.countP Call.inFlight
  held : ∀ c ∈ w.calls, ∀ n, c.held = some n → w.target = some n ∨ w.owner = .draining n
  made : ∀ n, w.target = some n ∨ w.owner.old = some n → n < w.made.length
  unfreed : ∀ n, w.target = some n ∨ w.owner.old = some n → .free n ∉ w.log
  apart : ∀ n, w.owner.old = some n → w.target ≠ some n
  freed : ∀ n, .free n ∈ w.log → n < w.made.length
  ordered : w.log.Pairwise Deed.Before
  returned : ∀ n, .replaced (some n) ∈ w.log → .free n ∈ w.log

namespace Sound

variable {w : State τ} {i n : Nat} {c c' : Call}

theorem new : Sound ({} : State τ) :=
  ⟨rfl, nofun, by simp [Owner.old], by simp [Owner.old], nofun, nofun, .nil, nofun⟩

/-- What a call holds has not been freed. -/
theorem unfreed_held (h : Sound w) (hc : c ∈ w.calls) (hn : c.held = some n) : .free n ∉ w.log := by
  refine h.unfreed n ?_
  rcases h.held c hc n hn with htarget | howner
  · exact .inl htarget
  · right
    rw [howner]
    rfl

/-- When the counter reads zero, nobody holds anything. -/
theorem held_none (h : Sound w) (hzero : w.inFlight = 0) (hc : c ∈ w.calls) : c.held = none := by
  have hcount : w.calls.countP Call.inFlight = 0 := h.counted.symm.trans hzero
  have hno := List.countP_eq_zero.1 hcount c hc
  cases c with
  | entered | returned => rfl
  | counted | loaded _ | ticked _ => exact absurd rfl hno

/-! ### Calls -/

/-- A call goes on, and holds nothing but what may be held. -/
theorem advance (h : Sound w) (hi : w.calls[i]? = some c) {count : Nat}
    (hcount : count + c.inFlight.toNat = w.inFlight + c'.inFlight.toNat)
    (hheld : ∀ n, c'.held = some n → w.target = some n ∨ w.owner = .draining n) :
    Sound { w with inFlight := count, calls := w.calls.set i c' } := by
  obtain ⟨hlt, rfl⟩ := List.getElem?_eq_some_iff.1 hi
  refine ⟨?_, fun d hd n hn => ?_, h.made, h.unfreed, h.apart, h.freed, h.ordered, h.returned⟩
  · have hset := List.countP_set (p := Call.inFlight) (a := c') hlt
    have hcounted := h.counted
    show count = (w.calls.set i c').countP Call.inFlight
    cases hin : w.calls[i].inFlight with
    | false =>
      simp only [hin, Bool.toNat_false, Bool.false_eq_true, if_false] at hcount hset
      cases hin' : c'.inFlight <;> simp [hin'] at hcount hset <;> omega
    | true =>
      have hpos : 0 < w.calls.countP Call.inFlight :=
        List.countP_pos_iff.2 ⟨w.calls[i], List.getElem_mem hlt, hin⟩
      simp only [hin, Bool.toNat_true, if_true] at hcount hset
      cases hin' : c'.inFlight <;> simp [hin'] at hcount hset <;> omega
  · rcases List.mem_or_eq_of_mem_set hd with hold | rfl
    · exact h.held d hold n hn
    · exact hheld n hn

/-- A tick that has not been freed is run. -/
theorem tick (h : Sound w) (hn : .free n ∉ w.log) (i : Nat) :
    Sound { w with log := w.log ++ [.tick i n] } := by
  have hfree (m : Nat) : .free m ∈ w.log ++ [.tick i n] ↔ .free m ∈ w.log := by simp
  refine ⟨h.counted, h.held, h.made, fun m hm => ?_, h.apart, fun m hm => ?_, ?_, fun m hm => ?_⟩
  · rw [hfree]
    exact h.unfreed m hm
  · exact h.freed m ((hfree m).1 hm)
  · refine ordered_concat h.ordered fun m hm => ⟨nofun, fun j htick => hn ?_⟩
    obtain ⟨-, rfl⟩ := Deed.tick.inj htick
    exact hm
  · rw [hfree]
    exact h.returned m (by simpa using hm)

theorem callStep (h : Sound w) (hi : w.calls[i]? = some c) : Sound (w.callStep i c) := by
  have hmem : c ∈ w.calls := List.mem_of_getElem? hi
  cases c with
  | entered => exact h.advance hi (by simp [Call.inFlight]) nofun
  | counted => exact h.advance hi rfl fun n hn => .inl hn
  | loaded target =>
    have hheld := h.held _ hmem
    cases target with
    | none =>
      have hnext : Sound { w with calls := w.calls.set i (.ticked none) } := h.advance hi rfl hheld
      simpa [State.callStep] using hnext
    | some n => exact (h.tick (h.unfreed_held hmem rfl) i).advance hi rfl hheld
  | ticked target =>
    have hpos : 0 < w.inFlight := by
      rw [h.counted]
      exact List.countP_pos_iff.2 ⟨_, hmem, rfl⟩
    refine h.advance hi ?_ nofun
    simp only [Call.inFlight, Bool.toNat_true, Bool.toNat_false]
    omega
  | returned => exact h

theorem signal (h : Sound w) : Sound { w with calls := w.calls ++ [.entered] } := by
  refine ⟨?_, fun c hc n hn => ?_, h.made, h.unfreed, h.apart, h.freed, h.ordered, h.returned⟩
  · rw [List.countP_append]
    exact h.counted
  · rcases List.mem_append.1 hc with hold | hnew
    · exact h.held c hold n hn
    · obtain rfl := List.mem_singleton.1 hnew
      cases hn

/-! ### The owner -/

/-- A new tick has a name that nothing was done to yet. -/
theorem fresh (h : Sound w) (new : Option τ) (hn : (new.map fun _ => w.made.length) = some n) :
    n = w.made.length ∧ n < (w.made ++ new.toList).length ∧ .free n ∉ w.log := by
  obtain ⟨tick, rfl, rfl⟩ := Option.map_eq_some_iff.1 hn
  refine ⟨rfl, by simp, fun hmem => ?_⟩
  exact Nat.lt_irrefl _ (h.freed _ hmem)

theorem lt_made (new : Option τ) (hlt : n < w.made.length) : n < (w.made ++ new.toList).length := by
  rw [List.length_append]
  omega

/-- The first tick. -/
theorem swap_none (h : Sound w) (hidle : w.owner = .idle) (hold : w.target = none) (new : Option τ) :
    Sound { w with
      made := w.made ++ new.toList
      target := new.map fun _ => w.made.length
      log := w.log ++ [.replaced none] } := by
  have hfree (m : Nat) : .free m ∈ w.log ++ [.replaced none] ↔ .free m ∈ w.log := by simp
  have howner (m : Nat) : w.owner.old ≠ some m := by simp [hidle, Owner.old]
  refine ⟨h.counted, fun c hc n hn => ?_, fun n hn => ?_, fun n hn => ?_,
    fun n hn => absurd hn (howner n), fun n hn => ?_, ?_, fun n hn => ?_⟩
  · rcases h.held c hc n hn with htarget | hdraining
    · rw [hold] at htarget
      cases htarget
    · rw [hidle] at hdraining
      cases hdraining
  · exact (h.fresh new (hn.resolve_right (howner n))).2.1
  · rw [hfree]
    exact (h.fresh new (hn.resolve_right (howner n))).2.2
  · exact lt_made new (h.freed n ((hfree n).1 hn))
  · exact ordered_concat h.ordered fun n hn => ⟨nofun, fun i => nofun⟩
  · rw [hfree]
    exact h.returned n (by simpa using hn)

/-- What the pointer pointed to is now waited for. -/
theorem swap_some (h : Sound w) (hidle : w.owner = .idle) {old : Nat} (hold : w.target = some old)
    (new : Option τ) :
    Sound { w with
      made := w.made ++ new.toList
      target := new.map fun _ => w.made.length
      owner := .draining old } := by
  refine ⟨h.counted, fun c hc n hn => ?_, fun n hn => ?_, fun n hn => ?_, fun n hn => ?_,
    fun n hn => lt_made new (h.freed n hn), h.ordered, h.returned⟩
  · right
    rcases h.held c hc n hn with htarget | hdraining
    · obtain rfl := Option.some.inj (hold.symm.trans htarget)
      rfl
    · rw [hidle] at hdraining
      cases hdraining
  · rcases hn with hn | hn
    · exact (h.fresh new hn).2.1
    · obtain rfl := Option.some.inj hn
      exact lt_made new (h.made old (.inl hold))
  · rcases hn with hn | hn
    · exact (h.fresh new hn).2.2
    · obtain rfl := Option.some.inj hn
      exact h.unfreed old (.inl hold)
  · obtain rfl := Option.some.inj hn
    intro hsame
    have hnew := (h.fresh new hsame).1
    have hlt := h.made old (.inl hold)
    omega

theorem swap (h : Sound w) (hidle : w.owner = .idle) (new : Option τ) : Sound (w.swap new) := by
  unfold State.swap
  split
  · next hold => exact h.swap_none hidle hold new
  · next old hold => exact h.swap_some hidle hold new

/-- **The counter has read zero**: nobody holds the old tick, and nobody can load it any more. -/
theorem drained (h : Sound w) {old : Nat} (howner : w.owner = .draining old) (hzero : w.inFlight = 0) :
    Sound { w with owner := .freeing old } := by
  have hold : w.owner.old = some old := by rw [howner, Owner.old]
  refine ⟨h.counted, fun c hc n hn => ?_, ?_, ?_, ?_, h.freed, h.ordered, h.returned⟩
  · rw [h.held_none hzero hc] at hn
    cases hn
  · exact fun n hn => h.made n (by rwa [hold])
  · exact fun n hn => h.unfreed n (by rwa [hold])
  · exact fun n hn => h.apart n (by rwa [hold])

/-- The old tick is freed. -/
theorem free (h : Sound w) {old : Nat} (howner : w.owner = .freeing old) :
    Sound { w with owner := .idle, log := w.log ++ [.free old, .replaced (some old)] } := by
  have hold : w.owner.old = some old := by rw [howner, Owner.old]
  have hfree (m : Nat) :
      .free m ∈ w.log ++ [.free old, .replaced (some old)] ↔ .free m ∈ w.log ∨ m = old := by simp
  refine ⟨h.counted, fun c hc n hn => ?_, fun n hn => ?_, fun n hn => ?_, nofun, fun n hn => ?_, ?_,
    fun n hn => ?_⟩
  · rcases h.held c hc n hn with htarget | hdraining
    · exact .inl htarget
    · rw [howner] at hdraining
      cases hdraining
  · rcases hn with hn | hn
    · exact h.made n (.inl hn)
    · cases hn
  · rcases hn with hn | hn
    · rw [hfree]
      rintro (hlog | rfl)
      · exact h.unfreed n (.inl hn) hlog
      · exact h.apart n hold hn
    · cases hn
  · rcases (hfree n).1 hn with hlog | rfl
    · exact h.freed n hlog
    · exact h.made n (.inr hold)
  · have hfreed : (w.log ++ [Deed.free old]).Pairwise Deed.Before := by
      refine ordered_concat h.ordered fun n hn => ⟨fun hsame => ?_, fun i => nofun⟩
      obtain rfl := Deed.free.inj hsame
      exact h.unfreed old (.inr hold) hn
    have hreplaced := ordered_concat (e := .replaced (some old)) hfreed fun n hn =>
      ⟨nofun, fun i => nofun⟩
    rwa [List.append_assoc] at hreplaced
  · rw [hfree]
    have hn' : .replaced (some n) ∈ w.log ∨ n = old := by simpa using hn
    exact hn'.imp_left (h.returned n)

theorem ownerStep (h : Sound w) : Sound w.ownerStep := by
  unfold State.ownerStep
  split
  · exact h
  · next old howner =>
    split
    · next hzero => exact h.drained howner hzero
    · exact h
  · next old howner => exact h.free howner

/-- **One step** of anybody. -/
theorem move (h : Sound w) (m : Move τ) : Sound (w.move m) := by
  cases m with
  | signal => exact h.signal
  | call i =>
    simp only [State.move]
    split
    · next c hi => exact h.callStep hi
    · exact h
  | replace new =>
    simp only [State.move]
    split
    · next hidle => exact h.swap hidle new
    · exact h
  | owner => exact h.ownerStep

theorem after (h : Sound w) (moves : List (Move τ)) : Sound (w.after moves) := by
  induction moves generalizing w with
  | nil => exact h
  | cons m moves ih => exact ih (h.move m)

end Sound

/-! ## The law -/

/-- **What holds behind a schedule.** -/
structure Safe (w : State τ) : Prop where
  /-- No call runs a tick that was freed before. -/
  ticked : ∀ before later i n, w.log = before ++ .tick i n :: later → .free n ∉ before
  /-- No tick is freed twice. -/
  once : ∀ before later n, w.log = before ++ .free n :: later → .free n ∉ before
  /-- From the load on, and until it leaves, nothing that a call holds is freed. -/
  held : ∀ c ∈ w.calls, ∀ n, c.held = some n → .free n ∉ w.log
  /-- When a replacement has returned, the old tick is freed and no call holds it. -/
  returned : ∀ n, .replaced (some n) ∈ w.log → .free n ∈ w.log ∧ ∀ c ∈ w.calls, c.held ≠ some n

/-- **A handler never runs a freed tick**, however the steps of its calls and of the owner's
replacements fall. -/
theorem no_use_after_free (moves : List (Move τ)) : Safe (of moves) := by
  have h : Sound (of moves) := Sound.new.after moves
  have hbefore : ∀ before d later, (of moves).log = before ++ d :: later →
      ∀ n, .free n ∈ before → d ≠ .free n ∧ ∀ i, d ≠ .tick i n := by
    intro before d later hlog n hn
    have hordered := h.ordered
    rw [hlog] at hordered
    exact (List.pairwise_append.1 hordered).2.2 _ hn d List.mem_cons_self n rfl
  refine ⟨fun before later i n hlog hn => ?_, fun before later n hlog hn => ?_,
    fun c hc n hn => h.unfreed_held hc hn, fun n hn => ⟨h.returned n hn, fun c hc hheld => ?_⟩⟩
  · exact (hbefore _ _ _ hlog n hn).2 i rfl
  · exact (hbefore _ _ _ hlog n hn).1 rfl
  · exact h.unfreed_held hc hheld (h.returned n hn)

/-- A call that was counted before the swap, and loads the pointer behind it, gets the new tick; one
that had loaded the old tick keeps the owner waiting. -/
example :
    let w : State Unit :=
      of [.replace (some ()), .signal, .signal, .call 0, .call 0, .call 1, .replace (some ()), .owner,
        .call 1, .owner, .call 0, .call 0, .owner]
    w.calls = [.returned, .loaded (some 1)] ∧ w.owner = .draining 0 ∧
      w.log = [.replaced none, .tick 0 0] := by decide

/-! ## One call, one replacement -/

/-- The moves of call `i` of the handler, that nothing interrupts. -/
def soloCall (i : Nat) : List (Move τ) := [.signal, .call i, .call i, .call i, .call i]

/-- The moves of a replacement, that nothing interrupts. -/
def soloReplace (new : Option τ) : List (Move τ) := [.replace new, .owner, .owner]

/-- A call runs what the pointer points to. -/
theorem after_soloCall (w : State τ) :
    w.after (soloCall w.calls.length) =
      { w with
        calls := w.calls ++ [.returned]
        log := w.log ++ w.target.toList.map (.tick w.calls.length) } := by
  have hget (c : Call) : (w.calls ++ [c])[w.calls.length]? = some c := by simp
  have hset (c c' : Call) : (w.calls ++ [c]).set w.calls.length c' = w.calls ++ [c'] := by simp
  simp only [State.after, soloCall, List.foldl_cons, List.foldl_nil, State.move, hget, State.callStep,
    hset, Nat.add_sub_cancel]

/-- With no call under way, a replacement frees the old tick and returns. -/
theorem after_soloReplace {w : State τ} (hidle : w.owner = .idle) (hquiet : w.inFlight = 0)
    (new : Option τ) :
    w.after (soloReplace new) =
      { w with
        made := w.made ++ new.toList
        target := new.map fun _ => w.made.length
        log := w.log ++ w.target.toList.map .free ++ [.replaced w.target] } := by
  simp only [State.after, soloReplace, List.foldl_cons, List.foldl_nil, State.move, hidle, State.swap]
  cases hold : w.target with
  | none => simp [State.ownerStep]
  | some old => simp [State.ownerStep, hquiet]

end Reclamation

/-! ## The triggers -/

open Reclamation

variable {τ : Type} {t : ItimerTrigger} {s s' : ProfSignal τ} {w : State τ}

/-- The pointer behind the profiling signal, when neither a call nor a replacement is under way. -/
structure ProfSignal.Served (s : ProfSignal τ) (w : State τ) : Prop where
  sound : Sound w
  target : s.target = w.current
  idle : w.owner = .idle
  quiet : w.inFlight = 0

namespace ProfSignal.Served

/-- A signal that is handled runs the tick that `handle` says. -/
theorem call (h : s.Served w) (hhandler : s.disposition = .sampling) :
    s.Served (w.after (soloCall w.calls.length)) ∧
      ∃ ran : Option Nat,
        (w.after (soloCall w.calls.length)).log = w.log ++ ran.toList.map (.tick w.calls.length) ∧
          (ran.bind fun n => w.made[n]?) = s.handle := by
  have hcall := after_soloCall w
  have hsound := h.sound.after (soloCall w.calls.length)
  rw [hcall] at hsound ⊢
  refine ⟨⟨hsound, h.target, h.idle, h.quiet⟩, w.target, rfl, ?_⟩
  rw [handle, if_pos hhandler, h.target, State.current]

theorem replace (h : s.Served w) {new : Option τ} (hnew : s'.target = new) :
    s'.Served (w.after (soloReplace new)) := by
  have hreplace := after_soloReplace h.idle h.quiet new
  have hsound := h.sound.after (soloReplace new)
  rw [hreplace] at hsound ⊢
  refine ⟨hsound, ?_, h.idle, h.quiet⟩
  rw [hnew, State.current]
  cases new <;> simp

/-- An install that is not turned away replaces the tick. -/
theorem install (h : s.Served w) (hfree : t.lockedOut s = false) (interval : Span) (tick : τ) :
    (t.install s interval tick).signal.Served (w.after (soloReplace (some tick))) :=
  h.replace (ItimerTrigger.takes_install hfree interval tick).target

/-- The owner's end takes the tick away. -/
theorem drop (h : s.Served w) (howns : t.ownsSignal = true) :
    (t.drop s).Served (w.after (soloReplace none)) := by
  refine h.replace ?_
  simp [ItimerTrigger.drop, ItimerTrigger.disarm, howns, block, unblock]

end ProfSignal.Served

end StackSampler
