import Mathlib.Data.Nat.Init
import Mathlib.Order.Lattice.Nat
import Sam.Library.Machine

/-!
# Infinite runs and what comes of waiting

A run that goes on for ever is a sequence of inputs; liveness is a statement about it.

* `orbit` — the state after the first `n` inputs; `orbit_eq_run` makes it the end of a finite run.
* `LeadsTo` — whenever `p` holds, `q` holds then or later; `LeadsTo.trans`.
* `leadsTo_of_rank` — who never falls back and is served again and again gets to the front;
  `leadsTo_queue` — an element of a queue is taken.
* `eventually_of_descent` — a natural number cannot be lowered for ever.
-/

namespace Machine

variable {σ ι α : Type*} (step : σ → ι → σ) (s : σ) (inputs : Nat → ι)

/-- The state after the first `n` inputs of a sequence. -/
def orbit : Nat → σ
  | 0 => s
  | n + 1 => step (orbit n) (inputs n)

@[simp] theorem orbit_zero : orbit step s inputs 0 = s := rfl

theorem orbit_succ (n : Nat) :
    orbit step s inputs (n + 1) = step (orbit step s inputs n) (inputs n) := rfl

/-- Each state is reached by a finite run. -/
theorem orbit_eq_run (n : Nat) :
    orbit step s inputs n = run step s ((List.range n).map inputs) := by
  induction n with
  | zero => rfl
  | succ n ih => rw [orbit_succ, ih, List.range_succ, List.map_append, List.map_singleton,
    run_concat]

/-- The steps of a sequence are those of its finite runs. -/
theorem always_orbit {step : σ → ι → σ} {s : σ} {inputs : Nat → ι} {C : σ → ι → Prop} {n : Nat} :
    Always step C s ((List.range n).map inputs) ↔
      ∀ m < n, C (orbit step s inputs m) (inputs m) := by
  induction n with
  | zero => exact ⟨fun _ m hm => absurd hm (Nat.not_lt_zero m), fun _ => trivial⟩
  | succ n ih =>
    rw [List.range_succ, List.map_append, List.map_singleton, always_concat, ih, ← orbit_eq_run]
    constructor
    · rintro ⟨hbefore, hlast⟩ m hm
      rcases Nat.lt_succ_iff_lt_or_eq.mp hm with hm | rfl
      · exact hbefore m hm
      · exact hlast
    · exact fun h => ⟨fun m hm => h m (by omega), h n (by omega)⟩

/-- A state that every later input leaves alone is never left. -/
theorem orbit_rest {step : σ → ι → σ} {s : σ} {inputs : Nat → ι} {n : Nat}
    (h : ∀ m, n ≤ m → step (orbit step s inputs n) (inputs m) = orbit step s inputs n) {m : Nat}
    (hm : n ≤ m) : orbit step s inputs m = orbit step s inputs n := by
  induction m, hm using Nat.le_induction with
  | base => rfl
  | succ m hm ih => rw [orbit_succ, ih, h m hm]

end Machine

namespace Fair

variable {σ α : Type*} {state : Nat → σ} {p q r : σ → Prop}

/-- Whenever `p` holds, `q` holds then or later. -/
def LeadsTo (state : Nat → σ) (p q : σ → Prop) : Prop := ∀ n, p (state n) → ∃ m, n ≤ m ∧ q (state m)

theorem LeadsTo.trans (hpq : LeadsTo state p q) (hqr : LeadsTo state q r) : LeadsTo state p r := by
  intro n hp
  obtain ⟨m, hnm, hq⟩ := hpq n hp
  obtain ⟨l, hml, hr⟩ := hqr m hq
  exact ⟨l, hnm.trans hml, hr⟩

theorem LeadsTo.or (hp : LeadsTo state p r) (hq : LeadsTo state q r) :
    LeadsTo state (fun s => p s ∨ q s) r :=
  fun n h => h.elim (hp n) (hq n)

theorem LeadsTo.of_imp (h : ∀ s, p s → q s) : LeadsTo state p q := fun n hp => ⟨n, le_rfl, h _ hp⟩

/-- What every step keeps until `q` holds is kept up to any later time. -/
theorem kept_until (hkeep : ∀ n, p (state n) → q (state (n + 1)) ∨ p (state (n + 1))) {n m : Nat}
    (hnm : n ≤ m) (hp : p (state n)) : (∃ l, n ≤ l ∧ q (state l)) ∨ p (state m) := by
  induction m, hnm using Nat.le_induction with
  | base => exact .inr hp
  | succ m hnm ih =>
    rcases ih with hq | hm
    · exact .inl hq
    · rcases hkeep m hm with hq | hp'
      · exact .inl ⟨m + 1, by omega, hq⟩
      · exact .inr hp'

/-- **Waiting for one's turn.**  A place `i` is never lost before `q` holds, and time and again
    there comes a step that improves on it or makes `q` hold. -/
theorem leadsTo_of_rank (place : Nat → σ → Prop)
    (hkeep : ∀ i n, place i (state n) → q (state (n + 1)) ∨ place i (state (n + 1)))
    (hserve : ∀ i n, place i (state n) → ∃ m, n ≤ m ∧ (place i (state m) →
      q (state (m + 1)) ∨ ∃ j < i, place j (state (m + 1)))) (i : Nat) :
    LeadsTo state (place i) q := by
  induction i using Nat.strong_induction_on with
  | _ i ih =>
    intro n hp
    obtain ⟨m, hnm, hstep⟩ := hserve i n hp
    rcases kept_until (hkeep i) hnm hp with hq | hm
    · exact hq
    · rcases hstep hm with hq | ⟨j, hj, hplace⟩
      · exact ⟨m + 1, by omega, hq⟩
      · obtain ⟨l, hml, hq⟩ := ih j hj (m + 1) hplace
        exact ⟨l, by omega, hq⟩

/-- The head of a queue is taken, which is not `x`, and others may join. -/
def Shifts (x : α) (l l' : List α) : Prop :=
  ∃ y rest new, l = y :: rest ∧ l' = rest ++ new ∧ y ≠ x

/-- At most `i` elements of the queue are before `x`. -/
def Within (x : α) (i : Nat) (l : List α) : Prop := ∃ A B, l = A ++ x :: B ∧ A.length ≤ i

theorem Within.grow {x : α} {i : Nat} {l l' : List α} (h : Within x i l) (hl : l <+: l') :
    Within x i l' := by
  obtain ⟨A, B, rfl, hi⟩ := h
  obtain ⟨new, rfl⟩ := hl
  exact ⟨A, B ++ new, by simp, hi⟩

theorem Within.shift {x : α} {i : Nat} {l l' : List α} (h : Within x i l) (hl : Shifts x l l') :
    ∃ j < i, Within x j l' := by
  obtain ⟨A, B, rfl, hi⟩ := h
  obtain ⟨y, rest, new, hy, rfl, hne⟩ := hl
  cases A with
  | nil => exact absurd (List.cons.inj hy).1.symm hne
  | cons z A =>
    rw [List.cons_append, List.cons.injEq] at hy
    obtain ⟨-, rfl⟩ := hy
    rw [List.length_cons] at hi
    exact ⟨A.length, hi, A, B ++ new, by simp, le_rfl⟩

/-- **An element of a queue is taken.**  Until `q` holds, the queue only grows at its end or loses a
    head other than `x`, and time and again it does get shorter. -/
theorem leadsTo_queue (queue : σ → List α) (x : α)
    (hstep : ∀ n, p (state n) → q (state (n + 1)) ∨ p (state (n + 1)) ∧
      (queue (state n) <+: queue (state (n + 1)) ∨
        Shifts x (queue (state n)) (queue (state (n + 1)))))
    (hserve : ∀ n, p (state n) → ∃ m, n ≤ m ∧ (p (state m) → queue (state m) ≠ [] →
      (queue (state (m + 1))).length < (queue (state m)).length)) :
    LeadsTo state (fun s => p s ∧ x ∈ queue s) q := by
  intro n ⟨hp, hx⟩
  obtain ⟨A, B, hAB⟩ := List.append_of_mem hx
  refine leadsTo_of_rank (q := q) (fun i s => p s ∧ Within x i (queue s)) ?_ ?_ A.length n
    ⟨hp, A, B, hAB, le_rfl⟩
  · rintro i n ⟨hp, hi⟩
    refine (hstep n hp).imp_right fun ⟨hp', hmove⟩ => ⟨hp', ?_⟩
    rcases hmove with hgrow | hshift
    · exact hi.grow hgrow
    · obtain ⟨j, hj, A, B, hAB, hA⟩ := hi.shift hshift
      exact ⟨A, B, hAB, by omega⟩
  · rintro i n ⟨hp, -⟩
    obtain ⟨m, hnm, hm⟩ := hserve n hp
    refine ⟨m, hnm, fun ⟨hp, hi⟩ => (hstep m hp).imp_right fun ⟨hp', hmove⟩ => ?_⟩
    have hne : queue (state m) ≠ [] := by
      obtain ⟨A, B, hAB, -⟩ := hi
      rw [hAB]
      exact List.append_ne_nil_of_right_ne_nil _ (List.cons_ne_nil _ _)
    -- a queue that gets shorter loses its head
    rcases hmove with hgrow | hshift
    · exact absurd hgrow.length_le (by have := hm hp hne; omega)
    · obtain ⟨j, hj, hplace⟩ := hi.shift hshift
      exact ⟨j, hj, hp', hplace⟩

/-- **Descent.**  What is lowered again and again, as long as the goal is not reached, brings it
    about. -/
theorem eventually_of_descent (goal : σ → Prop) (rank : σ → Nat)
    (h : ∀ n, ¬ goal (state n) →
      ∃ m, n ≤ m ∧ (goal (state m) ∨ rank (state m) < rank (state n))) (n : Nat) :
    ∃ m, n ≤ m ∧ goal (state m) := by
  generalize hr : rank (state n) = r
  induction r using Nat.strong_induction_on generalizing n with
  | _ r ih =>
    by_cases hg : goal (state n)
    · exact ⟨n, le_rfl, hg⟩
    · obtain ⟨m, hnm, hgoal | hlt⟩ := h n hg
      · exact ⟨m, hnm, hgoal⟩
      · obtain ⟨l, hml, hgoal⟩ := ih (rank (state m)) (by omega) m rfl
        exact ⟨l, hnm.trans hml, hgoal⟩

end Fair
