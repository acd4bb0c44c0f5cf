import StackSampler.Sampling.ProfSignal
import Mathlib.Data.List.Induction
import Mathlib.Logic.Function.Basic

/-!
# Who owns the profiling signal

Any number of interval-timer triggers live in one process. They are made, installed, disarmed and
dropped in any order, and signals come in between. What the process says about the signal, and what each
trigger says about itself, agree all the time: there is one owner or none, and the handler runs the tick
of the owner's latest install.

* `ItimerTrigger.install_busy`, `ItimerTrigger.takes_install`: all that an install can do.
* `Account`: the process and its triggers, as they are for a given owner. `Account.owns_install` makes an
  owner; `Account.step` is one event, `Population.account` a history.
* `Population.ownership`: the law.
-/

namespace StackSampler

/-! ## One install -/

/-- What an install leaves that was not turned away as busy. -/
structure Installed.Takes {τ : Type} (done : Installed τ) (t : ItimerTrigger) (s : ProfSignal τ)
    (tick : τ) : Prop where
  result : done.result ≠ .error .busy
  owns : done.trigger.ownsSignal = true
  previous : done.trigger.previous = t.previous.or (some s.disposition)
  owned : done.signal.owned = true
  target : done.signal.target = some tick
  disposition : done.signal.disposition = .sampling
  /-- A signal that had waited for the mask runs the new tick. -/
  delivered : done.delivered = if s.pending then some tick else none

namespace ItimerTrigger

variable {τ : Type} {t : ItimerTrigger} {s : ProfSignal τ}

/-- Whether an install finds the signal owned by another trigger. -/
def lockedOut (t : ItimerTrigger) (s : ProfSignal τ) : Bool := !t.ownsSignal && s.owned

theorem install_busy (h : t.lockedOut s = true) (interval : Span) (tick : τ) :
    t.install s interval tick = { result := .error .busy, trigger := t, signal := s } := by
  unfold lockedOut at h
  rw [install, if_pos h]

theorem takes_install (h : t.lockedOut s = false) (interval : Span) (tick : τ) :
    (t.install s interval tick).Takes t s tick := by
  unfold lockedOut at h
  have hno : ¬(!t.ownsSignal && s.owned) = true := by simp [h]
  rw [install, if_neg hno]
  -- the interval is looked at last, when the handler has the tick
  simp only [ProfSignal.block, ProfSignal.unblock, ProfSignal.handle, if_true]
  unfold ProfSignal.timerSetting
  split
  · next e he =>
    refine ⟨?_, rfl, rfl, rfl, rfl, rfl, rfl⟩
    intro hbusy
    have hinvalid : e = .invalidInterval interval := by
      split at he
      · exact (Except.error.inj he).symm
      · split at he <;> cases he
    rw [hinvalid] at hbusy
    cases hbusy
  · exact ⟨nofun, rfl, rfl, rfl, rfl, rfl, rfl⟩

theorem install_busy_iff (t : ItimerTrigger) (s : ProfSignal τ) (interval : Span) (tick : τ) :
    (t.install s interval tick).result = .error .busy ↔ t.lockedOut s = true := by
  constructor
  · intro hbusy
    by_contra hfree
    exact (takes_install (Bool.eq_false_iff.2 hfree) interval tick).result hbusy
  · intro hlocked
    rw [install_busy hlocked]

/-- How trigger `i` looks, for a given owner. -/
structure Fits {ι : Type} [DecidableEq ι] (t : ItimerTrigger) (owner : Option ι) (i : ι) : Prop where
  owns : t.ownsSignal = true ↔ owner = some i
  previous : t.previous = if owner = some i then some .inherited else none
  armed : t.armed = true → owner = some i

/-- To another trigger it is all the same who the owner is. -/
theorem Fits.congr {ι : Type} [DecidableEq ι] {owner owner' : Option ι} {i : ι}
    (h : t.Fits owner i) (hsame : owner' = some i ↔ owner = some i) : t.Fits owner' i := by
  refine ⟨h.owns.trans hsame.symm, ?_, fun harmed => hsame.2 (h.armed harmed)⟩
  rw [h.previous]
  simp only [hsame]

end ItimerTrigger

/-- The same owner's signal, with the same tick and the same effect. Masks and the timer may differ. -/
structure ProfSignal.Alike {τ : Type} (s s' : ProfSignal τ) : Prop where
  owned : s'.owned = s.owned
  target : s'.target = s.target
  disposition : s'.disposition = s.disposition

theorem ProfSignal.fst_send {τ : Type} (s : ProfSignal τ) :
    s.send.1 = if !s.blocked then s.handle else none := by
  unfold send
  cases s.blocked <;> rfl

theorem ProfSignal.fst_expire {τ : Type} (s : ProfSignal τ) :
    s.expire.1 = if s.timer.isSome && !s.blocked then s.handle else none := by
  unfold expire
  cases htimer : s.timer.isSome with
  | false => rfl
  | true => simpa using s.fst_send

theorem ProfSignal.alike_send {τ : Type} (s : ProfSignal τ) : s.Alike s.send.2 := by
  unfold send
  split
  · exact ⟨rfl, rfl, rfl⟩
  · exact ⟨rfl, rfl, rfl⟩

theorem ProfSignal.alike_expire {τ : Type} (s : ProfSignal τ) : s.Alike s.expire.2 := by
  unfold expire
  split
  · exact s.alike_send
  · exact ⟨rfl, rfl, rfl⟩

/-! ## A process -/

/-- The interval-timer triggers that are alive in a process, by identity, and the signal that they
share. -/
structure Population (ι τ : Type) where
  signal : ProfSignal τ := {}
  alive : ι → Option ItimerTrigger := fun _ => none

/-- What happens to triggers, and signals that come. -/
inductive Population.Event (ι τ : Type) where
  | create (i : ι)
  | install (i : ι) (interval : Span) (tick : τ)
  | disarm (i : ι)
  | drop (i : ι)
  /-- The thread that uses the triggers holds the signal back. -/
  | block
  | unblock
  /-- A signal to that thread. -/
  | send
  /-- A signal to another thread, which does not hold it back. -/
  | sendOther
  /-- The timer runs down once. -/
  | expire

namespace Population

variable {ι τ : Type} [DecidableEq ι]

/-- The process with `t` in the place of trigger `i`. -/
def put (p : Population ι τ) (i : ι) (t : Option ItimerTrigger) (signal : ProfSignal τ) :
    Population ι τ :=
  { signal, alive := Function.update p.alive i t }

/-- One event: the tick that it runs, if it brings a signal that is handled, and the process behind it.
Nothing is done to a trigger that is not alive, and none is made in the place of one that is. -/
def step (p : Population ι τ) : Event ι τ → Option τ × Population ι τ
  | .create i => (none, if (p.alive i).isSome then p else p.put i (some {}) p.signal)
  | .install i interval tick =>
    match p.alive i with
    | none => (none, p)
    | some t =>
      let done := t.install p.signal interval tick
      (done.delivered, p.put i (some done.trigger) done.signal)
  | .disarm i =>
    match p.alive i with
    | none => (none, p)
    | some t => (none, p.put i (some (t.disarm p.signal).1) (t.disarm p.signal).2)
  | .drop i =>
    match p.alive i with
    | none => (none, p)
    | some t => (none, p.put i none (t.drop p.signal))
  | .block => (none, { p with signal := p.signal.block })
  | .unblock => (p.signal.unblock.1, { p with signal := p.signal.unblock.2 })
  | .send => (p.signal.send.1, { p with signal := p.signal.send.2 })
  | .sendOther => (p.signal.handle, p)
  | .expire => (p.signal.expire.1, { p with signal := p.signal.expire.2 })

/-- Whether a signal gets through in an event: the thread does not hold it back, or lifts the mask that
it waited for. Every install lifts the mask but one that is busy, and so does the owner's end. -/
def delivers (p : Population ι τ) : Event ι τ → Bool
  | .install i _ _ => p.signal.pending && (p.alive i).any fun t => !t.lockedOut p.signal
  | .drop i => p.signal.pending && (p.alive i).any ItimerTrigger.ownsSignal
  | .unblock => p.signal.pending
  | .send => !p.signal.blocked
  | .sendOther => true
  | .expire => p.signal.timer.isSome && !p.signal.blocked
  | .create _ | .disarm _ | .block => false

/-- The process after a history. -/
def of (es : List (Event ι τ)) : Population ι τ := es.foldl (fun p e => (p.step e).2) {}

/-- Trigger `i` is alive and says that the signal is its own. -/
def Owns (p : Population ι τ) (i : ι) : Prop := ∃ t, p.alive i = some t ∧ t.ownsSignal = true

/-- The tick that an event hands to trigger `i`. -/
def Event.hands (i : ι) : Event ι τ → Option τ
  | .install k _ tick => if k = i then some tick else none
  | _ => none

/-- The tick of a trigger's latest install. -/
def latest (es : List (Event ι τ)) (i : ι) : Option τ := es.reverse.findSome? (Event.hands i)

variable {p : Population ι τ} {es : List (Event ι τ)} {e : Event ι τ} {i k : ι}

theorem of_concat (es : List (Event ι τ)) (e : Event ι τ) : of (es ++ [e]) = ((of es).step e).2 :=
  List.foldl_append

theorem latest_concat (es : List (Event ι τ)) (e : Event ι τ) (i : ι) :
    latest (es ++ [e]) i = (e.hands i).or (latest es i) := by
  unfold latest
  rw [List.reverse_append, List.reverse_singleton, List.singleton_append, List.findSome?_cons]
  cases e.hands i <;> rfl

/-! ## The owner -/

/-- **The process and its triggers agree on the owner**, and the handler has the tick that `last` gives
for it. -/
structure Account (last : ι → Option τ) (owner : Option ι) (p : Population ι τ) : Prop where
  owned : p.signal.owned = owner.isSome
  disposition : p.signal.disposition = if owner.isSome then .sampling else .inherited
  target : p.signal.target = owner.bind last
  handed : ∀ i ∈ owner, (last i).isSome
  alive : ∀ i ∈ owner, (p.alive i).isSome
  fits : ∀ i t, p.alive i = some t → t.Fits owner i

/-- An install that is turned away changes nothing. -/
theorem step_install_busy {t : ItimerTrigger} (ht : p.alive i = some t)
    (hlocked : t.lockedOut p.signal = true) (interval : Span) (tick : τ) :
    p.step (.install i interval tick) = (none, p) := by
  simp only [step, ht, ItimerTrigger.install_busy hlocked, put]
  rw [← ht, Function.update_eq_self]

namespace Account

variable {last last' : ι → Option τ} {owner : Option ι} {t : ItimerTrigger}

theorem owns_iff (h : Account last owner p) : p.Owns i ↔ owner = some i := by
  constructor
  · rintro ⟨t, ht, howns⟩
    exact (h.fits i t ht).owns.1 howns
  · intro howner
    obtain ⟨t, ht⟩ := Option.isSome_iff_exists.1 (h.alive i howner)
    exact ⟨t, ht, (h.fits i t ht).owns.2 howner⟩

theorem exists_owner (h : Account last owner p) : (∃ i, p.Owns i) ↔ owner.isSome = true := by
  simp only [h.owns_iff, Option.isSome_iff_exists]

theorem one_owner (h : Account last owner p) (hi : p.Owns i) (hk : p.Owns k) : i = k := by
  rw [h.owns_iff] at hi hk
  exact Option.some.inj (hi.symm.trans hk)

/-- Whoever handles a signal runs the owner's tick; without an owner nobody does. -/
theorem handle_eq (h : Account last owner p) : p.signal.handle = owner.bind last := by
  rw [ProfSignal.handle, h.disposition, h.target]
  cases owner <;> simp

/-- Only what the owner was given matters. -/
theorem relate (h : Account last owner p) (hlast : ∀ i ∈ owner, last' i = last i) :
    Account last' owner p := by
  refine ⟨h.owned, h.disposition, ?_, fun i hi => ?_, h.alive, h.fits⟩
  · rw [h.target]
    cases owner with
    | none => rfl
    | some i => exact (hlast i rfl).symm
  · rw [hlast i hi]
    exact h.handed i hi

/-- A change of masks or of the timer. -/
theorem calm (h : Account last owner p) {s : ProfSignal τ} (hs : p.signal.Alike s) :
    Account last owner { p with signal := s } :=
  ⟨hs.owned.trans h.owned, hs.disposition.trans h.disposition, hs.target.trans h.target, h.handed,
    h.alive, h.fits⟩

/-- A trigger is put in the place of another, or its place is left, and the owner is the same. -/
theorem replaced (h : Account last owner p) {s : ProfSignal τ} (hs : p.signal.Alike s)
    {t : Option ItimerTrigger} (halive : owner = some i → t.isSome)
    (hfits : ∀ t' ∈ t, t'.Fits owner i) : Account last owner (p.put i t s) := by
  obtain ⟨howned, hdisposition, htarget, -, -, -⟩ := h.calm hs
  refine ⟨howned, hdisposition, htarget, h.handed, fun k hk => ?_, fun k t' ht' => ?_⟩
  · by_cases hki : k = i
    · subst hki
      simpa [put] using halive hk
    · simp only [put, Function.update_of_ne hki]
      exact h.alive k hk
  · by_cases hki : k = i
    · subst hki
      exact hfits t' (by simpa [put] using ht')
    · simp only [put, Function.update_of_ne hki] at ht'
      exact h.fits k t' ht'

/-- Who is not alive does not own the signal. -/
theorem ne_owner (h : Account last owner p) (hfree : (p.alive i).isSome = false) :
    owner ≠ some i := by
  intro howner
  have halive := h.alive i howner
  rw [hfree] at halive
  cases halive

/-- An install finds the signal owned by another trigger just when it does not own it itself and
somebody does. -/
theorem lockedOut_eq (h : Account last owner p) (ht : p.alive i = some t) :
    t.lockedOut p.signal = true ↔ ∃ k, owner = some k ∧ k ≠ i := by
  have howns := (h.fits i t ht).owns
  have howned := h.owned
  unfold ItimerTrigger.lockedOut
  cases howner : owner with
  | none => simp_all
  | some k => by_cases hk : k = i <;> simp_all

theorem lockedOut_iff (h : Account last owner p) (ht : p.alive i = some t) :
    t.lockedOut p.signal = true ↔ ∃ k, k ≠ i ∧ p.Owns k := by
  rw [h.lockedOut_eq ht]
  simp only [h.owns_iff, and_comm]

/-! ### Events -/

theorem create (h : Account last owner p) (hfree : (p.alive i).isSome = false) :
    Account last owner (p.put i (some {}) p.signal) := by
  have hne := h.ne_owner hfree
  refine h.replaced ⟨rfl, rfl, rfl⟩ (fun _ => rfl) fun t ht => ?_
  obtain rfl := Option.some.inj ht
  exact ⟨by simp [hne], by simp [hne], nofun⟩

/-- An install that is not turned away makes its trigger the owner, if it was not that before. -/
theorem install (h : Account last owner p) (ht : p.alive i = some t)
    (hfree : t.lockedOut p.signal = false) {done : Installed τ} {tick : τ}
    (hdone : done.Takes t p.signal tick) (hlast : last' i = some tick) :
    Account last' (some i) (p.put i (some done.trigger) done.signal) := by
  have hfits := h.fits i t ht
  have howner : owner = none ∨ owner = some i := by
    have hno : ¬ ∃ k, owner = some k ∧ k ≠ i := by
      rw [← h.lockedOut_eq ht, hfree]
      exact Bool.false_ne_true
    cases owner with
    | none => exact .inl rfl
    | some k =>
      by_cases hk : k = i
      · exact .inr (congrArg some hk)
      · exact absurd ⟨k, rfl, hk⟩ hno
  refine ⟨hdone.owned, hdone.disposition, ?_, ?_, ?_, fun k t' ht' => ?_⟩
  · rw [put, hdone.target]
    exact hlast.symm
  · rintro k hk
    obtain rfl := Option.some.inj hk
    rw [hlast]
    rfl
  · rintro k hk
    obtain rfl := Option.some.inj hk
    simp [put]
  · by_cases hki : k = i
    · subst hki
      obtain rfl : done.trigger = t' := by simpa [put] using ht'
      refine ⟨by simp [hdone.owns], ?_, fun _ => rfl⟩
      -- what was in force before the first install is kept by the later ones
      rw [hdone.previous, hfits.previous, h.disposition]
      rcases howner with rfl | rfl <;> simp
    · simp only [put, Function.update_of_ne hki] at ht'
      have hik : i ≠ k := Ne.symm hki
      refine (h.fits k t' ht').congr ?_
      rcases howner with rfl | rfl <;> simp [hik]

/-- Whoever is not locked out owns the signal behind its install. -/
theorem owns_install (h : Account last owner p) (ht : p.alive i = some t)
    (hfree : t.lockedOut p.signal = false) (interval : Span) (tick : τ) :
    (p.step (.install i interval tick)).2.Owns i := by
  have hdone := ItimerTrigger.takes_install hfree interval tick
  let done := t.install p.signal interval tick
  have hinstalled : Account (fun _ => some tick) (some i) (p.put i (some done.trigger) done.signal) :=
    h.install ht hfree hdone rfl
  simp only [Population.step, ht]
  exact hinstalled.owns_iff.2 rfl

theorem disarm (h : Account last owner p) (ht : p.alive i = some t) :
    Account last owner (p.put i (some (t.disarm p.signal).1) (t.disarm p.signal).2) := by
  have hfits := h.fits i t ht
  have hsignal : p.signal.Alike (t.disarm p.signal).2 := by
    unfold ItimerTrigger.disarm
    split <;> exact ⟨rfl, rfl, rfl⟩
  have hfits' : (t.disarm p.signal).1.Fits owner i := by
    unfold ItimerTrigger.disarm
    split
    · exact ⟨hfits.owns, hfits.previous, nofun⟩
    · exact hfits
  refine h.replaced hsignal (fun _ => rfl) fun t' ht' => ?_
  obtain rfl := Option.some.inj ht'
  exact hfits'

/-- With its owner the signal loses its handler. -/
theorem drop_owner (h : Account last (some i) p) (ht : p.alive i = some t) :
    Account last none (p.put i none (t.drop p.signal)) := by
  have hfits := h.fits i t ht
  have howns : t.ownsSignal = true := hfits.owns.2 rfl
  have hprevious : t.previous = some .inherited := by simpa using hfits.previous
  refine ⟨?_, ?_, ?_, nofun, nofun, fun k t' ht' => ?_⟩
  · simp [put, ItimerTrigger.drop, howns]
  · simp [put, ItimerTrigger.drop, ItimerTrigger.disarm, howns, hprevious, ProfSignal.block,
      ProfSignal.unblock]
  · simp [put, ItimerTrigger.drop, ItimerTrigger.disarm, howns, ProfSignal.block, ProfSignal.unblock]
  · have hki : k ≠ i := by
      rintro rfl
      simp [put] at ht'
    simp only [put, Function.update_of_ne hki] at ht'
    have hik : i ≠ k := Ne.symm hki
    exact (h.fits k t' ht').congr (by simp [hik])

/-- Nobody else's end changes anything about the signal. -/
theorem drop_other (h : Account last owner p) (ht : p.alive i = some t) (hne : owner ≠ some i) :
    Account last owner (p.put i none (t.drop p.signal)) := by
  have hno : t.ownsSignal = false := by
    have hiff := (h.fits i t ht).owns
    simpa [hne] using hiff
  have hsame : t.drop p.signal = p.signal := by simp [ItimerTrigger.drop, hno]
  rw [hsame]
  exact h.replaced ⟨rfl, rfl, rfl⟩ (fun howner => absurd howner hne) nofun

/-- **One event**: there is again one owner or none, and a signal that gets through runs the owner's
tick. -/
theorem step (h : Account last owner p) (e : Event ι τ) :
    ∃ owner', Account (fun i => (e.hands i).or (last i)) owner' (p.step e).2 ∧
      (p.step e).1 = if p.delivers e then owner'.bind fun i => (e.hands i).or (last i) else none := by
  cases e with
  | create i =>
    refine ⟨owner, ?_, rfl⟩
    simp only [Population.step]
    split
    · exact h
    · next hfree => exact h.create (Bool.eq_false_iff.2 hfree)
  | install i interval tick =>
    cases ht : p.alive i with
    | none =>
      have hne : ∀ k ∈ owner, i ≠ k := by
        rintro k hk rfl
        exact h.ne_owner (by rw [ht]; rfl) hk
      refine ⟨owner, ?_, by simp [Population.step, delivers, ht]⟩
      simp only [Population.step, ht]
      refine h.relate fun k hk => ?_
      simp [Event.hands, hne k hk]
    | some t =>
      cases hlocked : t.lockedOut p.signal with
      | true =>
        rw [step_install_busy ht hlocked]
        obtain ⟨k, hk, hki⟩ := (h.lockedOut_eq ht).1 hlocked
        refine ⟨owner, h.relate fun j hj => ?_, by simp [delivers, ht, hlocked]⟩
        have hij : i ≠ j := by
          rintro rfl
          exact hki (Option.some.inj (hk.symm.trans hj))
        simp [Event.hands, hij]
      | false =>
        have hdone := ItimerTrigger.takes_install hlocked interval tick
        have hlast : ((Event.install i interval tick).hands i).or (last i) = some tick := by
          simp [Event.hands]
        simp only [Population.step, ht]
        refine ⟨some i, h.install ht hlocked hdone hlast, ?_⟩
        rw [hdone.delivered, Option.bind_some, hlast]
        simp [delivers, ht, hlocked]
  | disarm i =>
    refine ⟨owner, ?_, ?_⟩
    · simp only [Population.step]
      split
      · exact h
      · next t ht => exact h.disarm ht
    · simp only [Population.step, delivers]
      split <;> rfl
  | drop i =>
    cases ht : p.alive i with
    | none =>
      simp only [Population.step, ht]
      exact ⟨owner, h, by simp [delivers, ht]⟩
    | some t =>
      simp only [Population.step, ht]
      by_cases howner : owner = some i
      · subst howner
        exact ⟨none, h.drop_owner ht, by simp⟩
      · have hno : t.ownsSignal = false := by
          have hiff := (h.fits i t ht).owns
          simpa [howner] using hiff
        exact ⟨owner, h.drop_other ht howner, by simp [delivers, ht, hno]⟩
  | block => exact ⟨owner, h.calm ⟨rfl, rfl, rfl⟩, rfl⟩
  | unblock =>
    refine ⟨owner, h.calm ⟨rfl, rfl, rfl⟩, ?_⟩
    have hhandle := h.handle_eq
    simp only [Population.step, ProfSignal.unblock, delivers, hhandle]
    rfl
  | send =>
    refine ⟨owner, h.calm p.signal.alike_send, ?_⟩
    simp only [Population.step, p.signal.fst_send, h.handle_eq]
    rfl
  | sendOther => exact ⟨owner, h, h.handle_eq⟩
  | expire =>
    refine ⟨owner, h.calm p.signal.alike_expire, ?_⟩
    simp only [Population.step, p.signal.fst_expire, h.handle_eq]
    rfl

end Account

/-- **A history** leaves one owner or none. -/
theorem account (es : List (Event ι τ)) : ∃ owner, Account (latest es) owner (of es) := by
  induction es using List.reverseRecOn with
  | nil => exact ⟨none, rfl, rfl, rfl, nofun, nofun, nofun⟩
  | append_singleton es e ih =>
    obtain ⟨owner, h⟩ := ih
    obtain ⟨owner', h', -⟩ := h.step e
    rw [of_concat]
    exact ⟨owner', h'.relate fun i _ => latest_concat es e i⟩

/-! ## The law -/

/-- **What holds after a history** of triggers in one process. -/
structure Ownership (es : List (Event ι τ)) : Prop where
  owned : (of es).signal.owned = true ↔ ∃! i, (of es).Owns i
  one : ∀ i k, (of es).Owns i → (of es).Owns k → i = k
  /-- An install is busy just when another trigger owns the signal, and then nothing changes. -/
  busy : ∀ i t, (of es).alive i = some t → ∀ interval tick,
    ((t.install (of es).signal interval tick).result = .error .busy ↔ ∃ k, k ≠ i ∧ (of es).Owns k) ∧
      ((∃ k, k ≠ i ∧ (of es).Owns k) → (of es).step (.install i interval tick) = (none, of es))
  /-- Every other install makes its trigger the owner, with the new tick, an invalid interval or not. -/
  takes : ∀ i t, (of es).alive i = some t → (¬ ∃ k, k ≠ i ∧ (of es).Owns k) → ∀ interval tick,
    (t.install (of es).signal interval tick).Takes t (of es).signal tick ∧
      (of (es ++ [.install i interval tick])).Owns i ∧
      latest (es ++ [.install i interval tick]) i = some tick
  target : (of es).signal.target.isSome ↔ ∃ i, (of es).Owns i
  handler : (of es).signal.disposition = .sampling ↔ ∃ i, (of es).Owns i
  /-- Without an owner a signal does what it did before the first install. -/
  restored : (¬ ∃ i, (of es).Owns i) → (of es).signal.disposition = .inherited
  armed : ∀ i t, (of es).alive i = some t → t.armed = true → (of es).Owns i
  /-- A signal that gets through runs one tick, that of the owner's latest install. -/
  delivered : ∀ e i, (of es).delivers e = true → (of (es ++ [e])).Owns i →
    ∃ tick, latest (es ++ [e]) i = some tick ∧ ((of es).step e).1 = some tick
  /-- Nothing else runs a tick. -/
  silent : ∀ e, (of es).delivers e = false ∨ (¬ ∃ i, (of (es ++ [e])).Owns i) →
    ((of es).step e).1 = none

/-- **The profiling signal has one owner or none**, whatever triggers are made, installed, disarmed and
dropped, with whatever ticks and intervals, and the owner's latest tick is the one that runs. -/
theorem ownership (es : List (Event ι τ)) : Ownership es := by
  obtain ⟨owner, h⟩ := account es
  have hsome := h.exists_owner
  refine ⟨?_, fun i k hi hk => h.one_owner hi hk, fun i t ht interval tick => ?_,
    fun i t ht hno interval tick => ?_, ?_, ?_, fun hno => ?_, fun i t ht harmed => ?_, fun e i hdelivers hi => ?_, fun e hno => ?_⟩
  · rw [h.owned, ← hsome]
    exact ⟨fun ⟨i, hi⟩ => ⟨i, hi, fun k hk => h.one_owner hk hi⟩, fun ⟨i, hi, _⟩ => ⟨i, hi⟩⟩
  · rw [t.install_busy_iff, ← h.lockedOut_iff ht]
    exact ⟨Iff.rfl, fun hlocked => step_install_busy ht hlocked interval tick⟩
  · have hfree : t.lockedOut (of es).signal = false := by
      rw [← h.lockedOut_iff ht] at hno
      exact Bool.eq_false_iff.2 hno
    refine ⟨ItimerTrigger.takes_install hfree interval tick, ?_, ?_⟩
    · rw [of_concat]
      exact h.owns_install ht hfree interval tick
    · rw [latest_concat]
      simp [Event.hands]
  · rw [hsome, h.target]
    cases owner with
    | none => rfl
    | some i => simpa using h.handed i rfl
  · rw [hsome, h.disposition]
    cases owner <;> simp
  · rw [h.disposition, if_neg fun howned => hno (hsome.2 howned)]
  · rw [h.owns_iff]
    exact (h.fits i t ht).armed harmed
  · obtain ⟨owner', h', htick⟩ := h.step e
    have howner : owner' = some i := by
      rw [of_concat] at hi
      exact h'.owns_iff.1 hi
    rw [howner, hdelivers] at htick
    rw [latest_concat]
    obtain ⟨tick, hlatest⟩ := Option.isSome_iff_exists.1 (h'.handed i howner)
    exact ⟨tick, hlatest, htick.trans hlatest⟩
  · obtain ⟨owner', h', htick⟩ := h.step e
    rw [htick]
    rcases hno with hno | hno
    · rw [hno]
      rfl
    · have hnone : owner' = none := by
        rw [of_concat] at hno
        simp only [h'.owns_iff, ← Option.isSome_iff_exists] at hno
        simpa using hno
      rw [hnone]
      simp

end Population

end StackSampler
