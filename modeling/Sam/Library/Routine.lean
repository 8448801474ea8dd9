import Mathlib.Data.Nat.Init
import Mathlib.Order.Lattice.Nat

/-!
# Routines that share a machine with others

A routine looks at a machine, makes it take steps, reads the clock and sleeps, while others make
the machine take steps of their own.  What the others do and how time passes between two actions
of the routine is an endless sequence of moments; a routine may loop, so it is run with fuel for
its loops, and more fuel does not change a result.

* `Routine` — a monad; `look`, `act`, `clock`, `sleep`, `loop`, `waitUntil` are what it is built of.
* `Triple` — pre- and postconditions under a rely condition on the steps of the others, with one
  rule for each construct.
* `Returns` — with enough fuel there is a result, with a postcondition; a wait with a deadline
  returns once the clock has passed it.
-/

/-- The steps the others take between two actions of a routine, and the time it is then. -/
structure Moment (ι : Type*) where
  steps : List ι
  now : Nat

/-- All the steps of the machine so far, the time, and how many moments have passed. -/
structure Past (ι : Type*) where
  steps : List ι
  now : Nat
  passed : Nat

variable {ι : Type*} {α β ε : Type}

/-- The next moment passes. -/
def Past.next (env : Nat → Moment ι) (p : Past ι) : Past ι :=
  ⟨p.steps ++ (env p.passed).steps, (env p.passed).now, p.passed + 1⟩

structure Routine (ι : Type*) (α : Type) where
  run : Nat → (Nat → Moment ι) → Past ι → Option (α × Past ι)
  mono : ∀ {n n' : Nat} {env p r}, n ≤ n' → run n env p = some r → run n' env p = some r
  passes : ∀ {n env p a p'}, run n env p = some (a, p') → p.passed ≤ p'.passed

namespace Routine

/-! ## Constructs -/

instance : Monad (Routine ι) where
  pure a := ⟨fun _ _ p => some (a, p), fun _ h => h, fun h => by cases h; exact le_rfl⟩
  bind t f :=
    { run := fun n env p =>
        match t.run n env p with
        | none => none
        | some (a, p') => (f a).run n env p'
      mono := by
        intro n n' env p r hn h
        cases ht : t.run n env p with
        | none =>
          rw [ht] at h
          cases h
        | some x =>
          rw [ht] at h
          rw [t.mono hn ht]
          exact (f x.1).mono hn h
      passes := by
        intro n env p a p' h
        cases ht : t.run n env p with
        | none =>
          rw [ht] at h
          cases h
        | some x =>
          rw [ht] at h
          exact (t.passes ht).trans ((f x.1).passes h) }

/-- The routine looks at the machine. -/
def look (f : List ι → α) : Routine ι α where
  run _ env p := some (f (p.next env).steps, p.next env)
  mono _ h := h
  passes h := by cases h; exact Nat.le_succ _

/-- The routine makes the machine take step `i`, with an answer that depends on what was before. -/
def act (i : ι) (f : List ι → α) : Routine ι α where
  run _ env p := some (f (p.next env).steps, { p.next env with steps := (p.next env).steps ++ [i] })
  mono _ h := h
  passes h := by cases h; exact Nat.le_succ _

/-- The routine reads the clock. -/
def clock : Routine ι Nat where
  run _ env p := some ((p.next env).now, p.next env)
  mono _ h := h
  passes h := by cases h; exact Nat.le_succ _

/-- At most `k` rounds of a loop, which goes on as long as its body returns nothing. -/
def rounds (body : Routine ι (Option α)) (n : Nat) (env : Nat → Moment ι) :
    Nat → Past ι → Option (α × Past ι)
  | 0, _ => none
  | k + 1, p =>
    match body.run n env p with
    | none => none
    | some (some a, p') => some (a, p')
    | some (none, p') => rounds body n env k p'

/-- One round of a loop. -/
inductive Round (body : Routine ι (Option α)) (n : Nat) (env : Nat → Moment ι) (k : Nat)
    (p : Past ι) (r : α × Past ι) : Prop
  | done (h : body.run n env p = some (some r.1, r.2))
  | again (p' : Past ι) (h : body.run n env p = some (none, p'))
      (hr : rounds body n env k p' = some r)

theorem rounds_succ {body : Routine ι (Option α)} {n k : Nat} {env : Nat → Moment ι} {p : Past ι}
    {r : α × Past ι} : rounds body n env (k + 1) p = some r ↔ Round body n env k p r := by
  constructor
  · intro h
    rw [rounds] at h
    split at h
    · cases h
    · rename_i a p' hb
      cases h
      exact .done hb
    · rename_i p' hb
      exact .again p' hb h
  · rintro (h | ⟨p', h, hr⟩)
    · rw [rounds, h]
    · rw [rounds, h]
      exact hr

theorem rounds_mono {body : Routine ι (Option α)} {n n' k k' : Nat} {env : Nat → Moment ι}
    {p : Past ι} {r : α × Past ι} (hn : n ≤ n') (hk : k ≤ k') (h : rounds body n env k p = some r) :
    rounds body n' env k' p = some r := by
  induction k generalizing k' p with
  | zero => cases h
  | succ k ih =>
    obtain ⟨k', rfl⟩ : ∃ j, k' = j + 1 := ⟨k' - 1, by omega⟩
    rw [rounds_succ] at h ⊢
    rcases h with h | ⟨p', h, hr⟩
    · exact .done (body.mono hn h)
    · exact .again p' (body.mono hn h) (ih (by omega) hr)

/-- The body is repeated until it returns something. -/
def loop (body : Routine ι (Option α)) : Routine ι α where
  run n env p := rounds body n env n p
  mono hn h := rounds_mono hn hn h
  passes := by
    have hpasses : ∀ {n env k p a p'}, rounds body n env k p = some (a, p') →
        p.passed ≤ p'.passed := by
      intro n env k p a p' h
      induction k generalizing p with
      | zero => cases h
      | succ k ih =>
        rcases rounds_succ.mp h with h | ⟨q, h, hr⟩
        · exact body.passes h
        · exact (body.passes h).trans (ih hr)
    intro n env p a p' h
    exact hpasses h

/-- The routine sleeps for a time. -/
def sleep (duration : Nat) : Routine ι Unit := do
  let start ← clock
  loop do
    let now ← clock
    return if start + duration ≤ now then some () else none

/-- `check` is repeated at intervals until it succeeds, or fails at the deadline or later. -/
def waitUntil (deadline interval : Nat) (check : Routine ι (Except ε α)) : Routine ι (Except ε α) :=
  loop do
    match ← check with
    | .ok a => return some (.ok a)
    | .error e =>
      if deadline ≤ (← clock) then return some (.error e)
      sleep interval
      return none

/-! ## Pre- and postconditions -/

/-- The others keep to `rely`, and time does not run backwards. -/
structure Steady (rely : ι → Prop) (env : Nat → Moment ι) : Prop where
  rely : ∀ n, ∀ i ∈ (env n).steps, rely i
  mono : ∀ n, (env n).now ≤ (env (n + 1)).now

/-- From `p` to `p'` only the others have acted. -/
structure Later (rely : ι → Prop) (p p' : Past ι) : Prop where
  steps : ∃ l, p'.steps = p.steps ++ l ∧ ∀ i ∈ l, rely i
  now : p.now ≤ p'.now

/-- What the others cannot make false. -/
def Stable (rely : ι → Prop) (P : Past ι → Prop) : Prop := ∀ p p', Later rely p p' → P p → P p'

/-- If the routine starts in `P` and returns, then in `Q`. -/
def Triple (rely : ι → Prop) (P : Past ι → Prop) (t : Routine ι α) (Q : α → Past ι → Prop) : Prop :=
  ∀ n env p, Steady rely env → p.now ≤ (env p.passed).now → P p →
    ∀ a p', t.run n env p = some (a, p') → p'.now ≤ (env p'.passed).now ∧ Q a p'

section Triple

variable {rely : ι → Prop} {P P' I : Past ι → Prop} {t : Routine ι α} {Q Q' : α → Past ι → Prop}

theorem Stable.and (hP : Stable rely P) (hI : Stable rely I) : Stable rely fun p => P p ∧ I p :=
  fun p p' hl h => ⟨hP p p' hl h.1, hI p p' hl h.2⟩

theorem Stable.const (c : Prop) : Stable rely fun _ : Past ι => c := fun _ _ _ h => h

theorem Steady.next {env : Nat → Moment ι} (h : Steady rely env) {p : Past ι}
    (hp : p.now ≤ (env p.passed).now) :
    Later rely p (p.next env) ∧ (p.next env).now ≤ (env (p.next env).passed).now :=
  ⟨⟨⟨_, rfl, h.rely _⟩, hp⟩, h.mono _⟩

theorem Triple.imp (h : Triple rely P t Q) (hP : ∀ p, P' p → P p) (hQ : ∀ a p, Q a p → Q' a p) :
    Triple rely P' t Q' := by
  intro n env p henv hp hpre a p' hrun
  obtain ⟨hp', hpost⟩ := h n env p henv hp (hP p hpre) a p' hrun
  exact ⟨hp', hQ a p' hpost⟩

theorem triple_const {c : Prop} (h : c → Triple rely P t Q) : Triple rely (fun p => c ∧ P p) t Q :=
  fun n env p henv hp hpre => h hpre.1 n env p henv hp hpre.2

theorem triple_pure {a : α} (h : ∀ p, P p → Q a p) : Triple rely P (pure a : Routine ι α) Q := by
  intro n env p henv hp hpre a' p' hrun
  cases hrun
  exact ⟨hp, h p hpre⟩

theorem triple_bind {R : α → Past ι → Prop} {f : α → Routine ι β} {Q : β → Past ι → Prop}
    (ht : Triple rely P t R) (hf : ∀ a, Triple rely (R a) (f a) Q) : Triple rely P (t >>= f) Q := by
  intro n env p henv hp hpre b p' hrun
  change (match t.run n env p with
    | none => none
    | some (a, p') => (f a).run n env p') = some (b, p') at hrun
  split at hrun
  · cases hrun
  · rename_i a q hq
    obtain ⟨hqnow, hmid⟩ := ht n env p henv hp hpre a q hq
    exact hf a n env q henv hqnow hmid b p' hrun

theorem triple_look {f : List ι → α} (h : ∀ p p', Later rely p p' → P p → Q (f p'.steps) p') :
    Triple rely P (look f) Q := by
  intro n env p henv hp hpre a p' hrun
  obtain ⟨hlater, hnow⟩ := henv.next hp
  cases hrun
  exact ⟨hnow, h p _ hlater hpre⟩

theorem triple_act {i : ι} {f : List ι → α}
    (h : ∀ p p', Later rely p p' → P p → Q (f p'.steps) { p' with steps := p'.steps ++ [i] }) :
    Triple rely P (act i f) Q := by
  intro n env p henv hp hpre a p' hrun
  obtain ⟨hlater, hnow⟩ := henv.next hp
  cases hrun
  exact ⟨hnow, h p _ hlater hpre⟩

theorem triple_clock {Q : Nat → Past ι → Prop} (h : ∀ p p', Later rely p p' → P p → Q p'.now p') :
    Triple rely P clock Q := by
  intro n env p henv hp hpre a p' hrun
  obtain ⟨hlater, hnow⟩ := henv.next hp
  cases hrun
  exact ⟨hnow, h p _ hlater hpre⟩

/-- **The rule of the loop**: what holds before each round. -/
theorem triple_loop {body : Routine ι (Option α)}
    (h : Triple rely I body fun r p => r.elim (I p) (Q · p)) : Triple rely I (loop body) Q := by
  have hrounds : ∀ n env k p, Steady rely env → p.now ≤ (env p.passed).now → I p →
      ∀ a p', rounds body n env k p = some (a, p') → p'.now ≤ (env p'.passed).now ∧ Q a p' := by
    intro n env k
    induction k with
    | zero =>
      intro p _ _ _ a p' hrun
      cases hrun
    | succ k ih =>
      intro p henv hp hpre a p' hrun
      rcases rounds_succ.mp hrun with hdone | ⟨q, hagain, hrest⟩
      · exact h n env p henv hp hpre _ _ hdone
      · obtain ⟨hq, hinv⟩ := h n env p henv hp hpre _ _ hagain
        exact ih q henv hq hinv a p' hrest
  intro n env p
  exact hrounds n env n p

theorem triple_sleep (duration : Nat) (hP : Stable rely P) :
    Triple rely P (sleep duration) fun _ => P := by
  unfold sleep
  refine triple_bind (R := fun _ => P) (triple_clock hP) fun start => ?_
  refine triple_loop (triple_bind (R := fun _ => P) (triple_clock hP) fun now => triple_pure ?_)
  intro p hp
  split <;> exact hp

/-- **The rule of waiting.**  `J e` is what a check that fails with `e` says, and goes on
    to hold. -/
theorem triple_waitUntil {check : Routine ι (Except ε α)} {deadline interval : Nat}
    {J : ε → Past ι → Prop} {Q : Except ε α → Past ι → Prop} (hJ : ∀ e, Stable rely (J e))
    (hcheck : Triple rely I check fun r p =>
      match r with
      | .ok a => Q (.ok a) p
      | .error e => J e p)
    (hagain : ∀ e p, J e p → I p) (hlate : ∀ e p, J e p → deadline ≤ p.now → Q (.error e) p) :
    Triple rely I (waitUntil deadline interval check) Q := by
  unfold waitUntil
  refine triple_loop (triple_bind hcheck fun r => ?_)
  cases r with
  | ok a => exact triple_pure fun p h => h
  | error e =>
    refine triple_bind (R := fun now p => J e p ∧ now ≤ p.now) (triple_clock fun p p' hl h => ?_)
      fun now => ?_
    · exact ⟨hJ e p p' hl h, le_rfl⟩
    · split
      · rename_i hdeadline
        exact triple_pure fun p h => hlate e p h.1 (hdeadline.trans h.2)
      · refine triple_bind (R := fun _ => J e) ?_ fun _ => triple_pure (hagain e)
        exact (triple_sleep interval (hJ e)).imp (fun p h => h.1) fun _ p h => h

/-! ### Routines that may fail -/

variable {R : α → Past ι → Prop}

theorem triple_bindE {t : ExceptT ε (Routine ι) α} {f : α → ExceptT ε (Routine ι) β}
    {Q : Except ε β → Past ι → Prop}
    (ht : Triple rely P t.run fun r p =>
      match r with
      | .ok a => R a p
      | .error e => Q (.error e) p)
    (hf : ∀ a, Triple rely (R a) (f a).run Q) : Triple rely P (t >>= f).run Q := by
  refine triple_bind ht fun r => ?_
  cases r with
  | ok a => exact hf a
  | error e => exact triple_pure fun p h => h

theorem triple_lift {Q : Except ε α → Past ι → Prop} (h : Triple rely P t fun a => Q (.ok a)) :
    Triple rely P (ExceptT.lift t : ExceptT ε (Routine ι) α).run Q :=
  triple_bind h fun _ => triple_pure fun _ hp => hp

end Triple

/-! ## Returning -/

/-- With enough fuel there is a result, and it is as `Q` says. -/
def Returns (env : Nat → Moment ι) (t : Routine ι α) (Q : α → Past ι → Prop) : Prop :=
  ∀ p, ∃ n a p', t.run n env p = some (a, p') ∧ Q a p'

section Returns

variable {env : Nat → Moment ι} {t : Routine ι α} {Q Q' : α → Past ι → Prop}

theorem Returns.imp (h : Returns env t Q) (hQ : ∀ a p, Q a p → Q' a p) : Returns env t Q' := by
  intro p
  obtain ⟨n, a, p', hrun, hpost⟩ := h p
  exact ⟨n, a, p', hrun, hQ a p' hpost⟩

theorem returns_pure {a : α} (h : ∀ p, Q a p) : Returns env (pure a : Routine ι α) Q :=
  fun p => ⟨0, a, p, rfl, h p⟩

theorem returns_look {f : List ι → α} (h : ∀ p, Q (f p.steps) p) : Returns env (look f) Q :=
  fun p => ⟨0, _, _, rfl, h (p.next env)⟩

theorem returns_act {i : ι} {f : List ι → α} (h : ∀ steps p, Q (f steps) p) :
    Returns env (act i f) Q :=
  fun _ => ⟨0, _, _, rfl, h _ _⟩

theorem returns_clock {Q : Nat → Past ι → Prop} (h : ∀ p, Q p.now p) : Returns env clock Q :=
  fun p => ⟨0, _, _, rfl, h (p.next env)⟩

theorem bind_run {f : α → Routine ι β} {n : Nat} {p p' : Past ι} {a : α}
    (h : t.run n env p = some (a, p')) : (t >>= f).run n env p = (f a).run n env p' := by
  change (match t.run n env p with
    | none => none
    | some (a, p') => (f a).run n env p') = _
  rw [h]

theorem returns_bind {f : α → Routine ι β} {R : β → Past ι → Prop} (ht : Returns env t Q)
    (hf : ∀ a, Returns env (f a) R) : Returns env (t >>= f) R := by
  intro p
  obtain ⟨n, a, q, ha, -⟩ := ht p
  obtain ⟨k, b, p', hb, hpost⟩ := hf a q
  refine ⟨max n k, b, p', ?_, hpost⟩
  rw [bind_run (t.mono (le_max_left n k) ha)]
  exact (f a).mono (le_max_right n k) hb

/-- A loop whose rounds return, and do not go on from moment `N` on, returns. -/
theorem returns_loop {body : Routine ι (Option α)} (hbody : Returns env body fun _ _ => True)
    (N : Nat)
    (h : ∀ n p p', body.run n env p = some (none, p') → p.passed < p'.passed ∧ p.passed < N) :
    Returns env (loop body) fun _ _ => True := by
  intro p
  obtain ⟨d, hd⟩ : ∃ d, N - p.passed = d := ⟨_, rfl⟩
  induction d using Nat.strong_induction_on generalizing p with
  | _ d ih =>
    obtain ⟨n, r, q, hr, -⟩ := hbody p
    cases r with
    | some a =>
      exact ⟨n + 1, a, q, rounds_succ.mpr (.done (body.mono (Nat.le_succ n) hr)), trivial⟩
    | none =>
      obtain ⟨hlt, hN⟩ := h n p q hr
      obtain ⟨k, a, p', hrest, -⟩ := ih (N - q.passed) (by omega) q rfl
      refine ⟨max n k + 1, a, p', rounds_succ.mpr (.again q (body.mono (by omega) hr) ?_), trivial⟩
      exact rounds_mono (by omega) (by omega) hrest

/-- Time does not run backwards, and does not stop. -/
structure Onward (env : Nat → Moment ι) : Prop where
  mono : ∀ n, (env n).now ≤ (env (n + 1)).now
  unbounded : ∀ time, ∃ n, time ≤ (env n).now

/-- From some moment on it is late. -/
theorem Onward.late (h : Onward env) (time : Nat) : ∃ N, ∀ n, N ≤ n → time ≤ (env n).now := by
  obtain ⟨N, hN⟩ := h.unbounded time
  refine ⟨N, fun n hn => ?_⟩
  induction n, hn using Nat.le_induction with
  | base => exact hN
  | succ n _ ih => exact ih.trans (h.mono n)

theorem clock_run {n : Nat} {p p' : Past ι} {now : Nat} (h : clock.run n env p = some (now, p')) :
    now = (env p.passed).now ∧ p' = p.next env := by
  cases h
  exact ⟨rfl, rfl⟩

/-- What a sequence of two has done. -/
theorem bind_run_some {f : α → Routine ι β} {n : Nat} {p : Past ι} {r : β × Past ι}
    (h : (t >>= f).run n env p = some r) :
    ∃ a q, t.run n env p = some (a, q) ∧ (f a).run n env q = some r := by
  change (match t.run n env p with
    | none => none
    | some (a, p') => (f a).run n env p') = some r at h
  split at h
  · cases h
  · rename_i a q hq
    exact ⟨a, q, hq, h⟩

theorem returns_sleep (henv : Onward env) (duration : Nat) :
    Returns env (sleep duration : Routine ι Unit) fun _ _ => True := by
  have hclock : Returns env (clock : Routine ι Nat) fun _ _ => True :=
    returns_clock fun _ => trivial
  unfold sleep
  refine returns_bind hclock fun start => ?_
  obtain ⟨N, hN⟩ := henv.late (start + duration)
  refine returns_loop (returns_bind hclock fun now => returns_pure fun _ => trivial) N
    fun n p p' hrun => ?_
  obtain ⟨now, q, hq, hr⟩ := bind_run_some hrun
  obtain ⟨rfl, rfl⟩ := clock_run hq
  by_cases hlate : start + duration ≤ (env p.passed).now
  · rw [if_pos hlate] at hr
    cases hr
  · rw [if_neg hlate] at hr
    cases hr
    exact ⟨Nat.lt_succ_self _, Nat.lt_of_not_le fun hle => hlate (hN _ hle)⟩

/-- **A wait with a deadline returns**, whatever is waited for. -/
theorem returns_waitUntil (henv : Onward env) {check : Routine ι (Except ε α)}
    (hcheck : Returns env check fun _ _ => True) (deadline interval : Nat) :
    Returns env (waitUntil deadline interval check) fun _ _ => True := by
  have hclock : Returns env (clock : Routine ι Nat) fun _ _ => True :=
    returns_clock fun _ => trivial
  unfold waitUntil
  obtain ⟨N, hN⟩ := henv.late deadline
  refine returns_loop (returns_bind hcheck fun r => ?_) N fun n p p' hrun => ?_
  · cases r with
    | ok a => exact returns_pure fun _ => trivial
    | error e =>
      refine returns_bind hclock fun now => ?_
      split
      · exact returns_pure fun _ => trivial
      · exact returns_bind (returns_sleep henv interval) fun _ => returns_pure fun _ => trivial
  · obtain ⟨r, q, hq, hr⟩ := bind_run_some hrun
    have hpq : p.passed ≤ q.passed := check.passes hq
    cases r with
    | ok a => cases hr
    | error e =>
      obtain ⟨now, q', hnow, hrest⟩ := bind_run_some hr
      obtain ⟨rfl, rfl⟩ := clock_run hnow
      by_cases hlate : deadline ≤ (env q.passed).now
      · rw [if_pos hlate] at hrest
        cases hrest
      · rw [if_neg hlate] at hrest
        obtain ⟨u, q₂, hsleep, hpure⟩ := bind_run_some hrest
        cases hpure
        have hnext : q.passed + 1 ≤ p'.passed := (sleep interval).passes hsleep
        exact ⟨by omega, hpq.trans_lt (Nat.lt_of_not_le fun hle => hlate (hN _ hle))⟩

theorem returns_bindE {t : ExceptT ε (Routine ι) α} {f : α → ExceptT ε (Routine ι) β}
    {R : Except ε β → Past ι → Prop}
    (ht : Returns env t.run fun r p => ∀ e, r = .error e → R (.error e) p)
    (hf : ∀ a, Returns env (f a).run R) : Returns env (t >>= f).run R := by
  intro p
  obtain ⟨n, r, q, hr, hpost⟩ := ht p
  cases r with
  | ok a =>
    obtain ⟨k, b, p', hb, hpost'⟩ := hf a q
    refine ⟨max n k, b, p', ?_, hpost'⟩
    refine (bind_run (t := t.run) (t.run.mono (le_max_left n k) hr)).trans ?_
    exact (f a).run.mono (le_max_right n k) hb
  | error e => exact ⟨n, .error e, q, bind_run (t := t.run) hr, hpost e rfl⟩

theorem returns_lift {R : Except ε α → Past ι → Prop} (ht : Returns env t fun _ _ => True)
    (h : ∀ a p, R (.ok a) p) : Returns env (ExceptT.lift t : ExceptT ε (Routine ι) α).run R :=
  returns_bind ht fun a => returns_pure (h a)

end Returns

end Routine
