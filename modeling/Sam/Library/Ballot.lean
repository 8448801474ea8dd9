import Mathlib.Data.Finset.Basic
import Mathlib.Data.Finset.Dedup
import Mathlib.Data.Finset.SDiff

/-!
# Unanimous ballots

A ballot has a fixed electorate and records who has voted, in order.  Nobody outside the
electorate votes and nobody votes twice; both are fields of the structure, so `waiting` and
`voted` always partition the electorate (`waiting_union_voted`, `disjoint_waiting_voted`) and
the ballot is unanimous exactly when nobody is waited for.
-/

/-- The votes cast so far in a ballot of `electorate`, oldest first. -/
structure Ballot {α : Type*} (electorate : Finset α) where
  votes : List α
  nodup : votes.Nodup
  subset : ∀ v ∈ votes, v ∈ electorate

namespace Ballot

variable {α : Type*} [DecidableEq α] {P : Finset α}

/-- Nobody has voted. -/
def empty : Ballot P := ⟨[], List.nodup_nil, fun _ h => by cases h⟩

/-- Those who have voted. -/
def voted (b : Ballot P) : Finset α := b.votes.toFinset

/-- Those who have not. -/
def waiting (b : Ballot P) : Finset α := P \ b.voted

/-- Everybody has voted. -/
def Unanimous (b : Ballot P) : Prop := b.waiting = ∅

instance (b : Ballot P) : Decidable b.Unanimous := inferInstanceAs (Decidable (b.waiting = ∅))

theorem mem_voted {b : Ballot P} {v : α} : v ∈ b.voted ↔ v ∈ b.votes := List.mem_toFinset

theorem mem_waiting {b : Ballot P} {v : α} : v ∈ b.waiting ↔ v ∈ P ∧ v ∉ b.votes := by
  rw [waiting, Finset.mem_sdiff, mem_voted]

theorem voted_subset (b : Ballot P) : b.voted ⊆ P := fun _ h => b.subset _ (mem_voted.mp h)

theorem waiting_subset (b : Ballot P) : b.waiting ⊆ P := Finset.sdiff_subset

theorem disjoint_waiting_voted (b : Ballot P) : Disjoint b.waiting b.voted :=
  Finset.sdiff_disjoint

theorem waiting_union_voted (b : Ballot P) : b.waiting ∪ b.voted = P :=
  Finset.sdiff_union_of_subset b.voted_subset

theorem unanimous_iff {b : Ballot P} : b.Unanimous ↔ b.voted = P := by
  rw [Unanimous, waiting, Finset.sdiff_eq_empty_iff_subset]
  exact ⟨fun h => b.voted_subset.antisymm h, fun h => h.ge⟩

omit [DecidableEq α] in
@[simp] theorem votes_empty : (empty : Ballot P).votes = [] := rfl

@[simp] theorem voted_empty : (empty : Ballot P).voted = ∅ := rfl

@[simp] theorem waiting_empty : (empty : Ballot P).waiting = P := Finset.sdiff_empty

theorem not_unanimous_empty (h : P.Nonempty) : ¬ (empty : Ballot P).Unanimous := by
  rw [Unanimous, waiting_empty]; exact h.ne_empty

/-- One more vote, of somebody waited for. -/
def cast (b : Ballot P) (v : α) (h : v ∈ b.waiting) : Ballot P where
  votes := b.votes ++ [v]
  nodup := List.nodup_append.mpr ⟨b.nodup, List.nodup_singleton v, fun x hx y hy hxy => by
    rw [List.mem_singleton] at hy; subst hxy hy; exact (mem_waiting.mp h).2 hx⟩
  subset := fun x hx => by
    rcases List.mem_append.mp hx with hx | hx
    · exact b.subset x hx
    · rw [List.mem_singleton] at hx; subst hx; exact (mem_waiting.mp h).1

@[simp] theorem votes_cast (b : Ballot P) (v : α) (h : v ∈ b.waiting) :
    (b.cast v h).votes = b.votes ++ [v] := rfl

@[simp] theorem voted_cast (b : Ballot P) (v : α) (h : v ∈ b.waiting) :
    (b.cast v h).voted = insert v b.voted := by
  ext x; simp [mem_voted, or_comm]

@[simp] theorem waiting_cast (b : Ballot P) (v : α) (h : v ∈ b.waiting) :
    (b.cast v h).waiting = b.waiting.erase v := by
  ext x; simp only [mem_waiting, votes_cast, Finset.mem_erase, List.mem_append,
    List.mem_singleton, not_or]; tauto

/-- When nobody but `v` is waited for, everybody else has voted. -/
theorem mem_votes_or_last {b : Ballot P} {v x : α} (hlast : b.waiting.erase v = ∅) (hx : x ∈ P) :
    x ∈ b.votes ∨ x = v := by
  by_cases hv : x ∈ b.votes
  · exact .inl hv
  · right
    by_contra hne
    have hwait : x ∈ b.waiting.erase v := Finset.mem_erase.mpr ⟨hne, mem_waiting.mpr ⟨hx, hv⟩⟩
    rw [hlast] at hwait
    exact Finset.notMem_empty x hwait

end Ballot
