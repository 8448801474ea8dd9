import Mathlib.Data.List.Infix
import Mathlib.Order.Lattice.Nat

/-!
# Journals

A journal grows by at most one entry at a time: everything ever written to a queue, say.  Each
entry was written at one time.

* `Grows` — a journal over time; entries stay where they are (`Grows.mono`).
* `stamp` — the first time an entry is there: it has just been written (`Grows.stamp_spec`), and
  later entries have later stamps (`stamp_mono`).
-/

namespace Journal

variable {α : Type*} {x : Nat → List α} {i j t t' : Nat}

/-- A list over time that is empty at first and grows by at most one entry at a time. -/
structure Grows (x : Nat → List α) : Prop where
  empty : x 0 = []
  step : ∀ t, x (t + 1) = x t ∨ ∃ m, x (t + 1) = x t ++ [m]

/-- The first time at which entry `i` is there. -/
noncomputable def stamp (x : Nat → List α) (i : Nat) : Nat := sInf {t | i < (x t).length}

theorem Grows.mono (h : Grows x) (ht : t ≤ t') : x t <+: x t' := by
  induction t', ht using Nat.le_induction with
  | base => exact List.prefix_rfl
  | succ t' _ ih =>
    refine ih.trans ?_
    rcases h.step t' with hs | ⟨m, hs⟩
    · rw [hs]
    · rw [hs]
      exact List.prefix_append _ _

/-- An entry that is there has been stamped. -/
theorem stamp_le (hi : i < (x t).length) : stamp x i ≤ t := Nat.sInf_le hi

/-- An entry that is not there yet is stamped later. -/
theorem Grows.lt_stamp (h : Grows x) (ht : (x t).length ≤ i) (hi : i < (x t').length) :
    t < stamp x i := by
  by_contra hlt
  have hmem : i < (x (stamp x i)).length := Nat.sInf_mem (s := {t | i < (x t).length}) ⟨t', hi⟩
  have hle := (h.mono (not_lt.mp hlt)).length_le
  omega

/-- **At its stamp an entry has just been written.** -/
theorem Grows.stamp_spec (h : Grows x) {m : α} (hi : (x t)[i]? = some m) :
    ∃ u, stamp x i = u + 1 ∧ (x u).length = i ∧ x (u + 1) = x u ++ [m] := by
  obtain ⟨hlt, hm⟩ := List.getElem?_eq_some_iff.mp hi
  have hmem : i < (x (stamp x i)).length := Nat.sInf_mem (s := {t | i < (x t).length}) ⟨t, hlt⟩
  cases hs : stamp x i with
  | zero =>
    rw [hs, h.empty] at hmem
    cases hmem
  | succ u =>
    have hbefore : ¬ i < (x u).length :=
      Nat.notMem_of_lt_sInf (s := {t | i < (x t).length}) (by
        show u < stamp x i
        omega)
    rw [hs] at hmem
    rcases h.step u with hstep | ⟨m', hstep⟩
    · rw [hstep] at hmem
      exact absurd hmem hbefore
    · have hlen : (x u).length = i := by
        rw [hstep, List.length_append, List.length_singleton] at hmem
        omega
      refine ⟨u, rfl, hlen, ?_⟩
      -- both lists have entry `i`, and one is a prefix of the other
      have hle : u + 1 ≤ t := by
        rw [← hs]
        exact stamp_le hlt
      have hget : (x (u + 1))[i]? = some m' := by
        rw [hstep, ← hlen, List.getElem?_append_right (le_refl _), Nat.sub_self]
        rfl
      obtain ⟨rest, hrest⟩ := h.mono hle
      rw [← hrest, List.getElem?_append_left (by rw [hstep]; simp [hlen]), hget] at hi
      rw [hstep, Option.some.inj hi]

/-- Entries are stamped in order. -/
theorem stamp_mono (hij : i ≤ j) (hj : j < (x t).length) : stamp x i ≤ stamp x j := by
  have hmem : j < (x (stamp x j)).length := Nat.sInf_mem (s := {t | j < (x t).length}) ⟨t, hj⟩
  exact stamp_le (hij.trans_lt hmem)

end Journal
