import Mathlib.Data.Finset.Basic
import Mathlib.Data.List.Infix
import Mathlib.Data.Nat.Find
import Sam.Library.Machine

/-!
# Roll calls

A roll call waits until everybody of a set `P` has been heard.  Entries come in any order, repeat
and are mixed with others; `name p` is the entry by which `p` is heard.

* `missing` — who has not been heard in a list of entries.
* `LastMissing` — the position at which the last of them is heard.  There is exactly one when `P`
  is not empty and everybody is heard (`exists_lastMissing`, `LastMissing.missing_eq_empty_iff`).
* `Collects` — a machine that holds a roll call: it waits for a set, takes the expected off it,
  ignores the rest, and moves on with the last.  `Collects.trace_waiting`, `Collects.trace_done`,
  `Collects.exactly_once`: in every run it moves on at that position, once.
-/

namespace RollCall

variable {α γ : Type*} [DecidableEq α] [DecidableEq γ] {P : Finset α} {name : α → γ}
  {l pre : List γ} {p : α} {c : γ} {k n : Nat}

/-- The members of `P` that are not heard in `l`. -/
def missing (P : Finset α) (name : α → γ) (l : List γ) : Finset α := P.filter fun p => name p ∉ l

omit [DecidableEq α] in
theorem mem_missing : p ∈ missing P name l ↔ p ∈ P ∧ name p ∉ l := Finset.mem_filter

omit [DecidableEq α] in
theorem missing_subset : missing P name l ⊆ P := Finset.filter_subset _ _

omit [DecidableEq α] in
@[simp] theorem missing_nil : missing P name [] = P :=
  Finset.filter_true_of_mem fun _ _ => List.not_mem_nil

omit [DecidableEq α] in
/-- Nobody is missing exactly when everybody has been heard. -/
theorem missing_eq_empty : missing P name l = ∅ ↔ ∀ p ∈ P, name p ∈ l := by
  rw [missing, Finset.filter_eq_empty_iff]
  exact forall₂_congr fun _ _ => not_not

/-- One more is heard. -/
theorem missing_name (hname : Function.Injective name) :
    missing P name (l ++ [name p]) = (missing P name l).erase p := by
  ext q
  simp only [mem_missing, Finset.mem_erase, List.mem_append, List.mem_singleton, hname.eq_iff]
  tauto

omit [DecidableEq α] in
/-- An entry nobody is waited for by. -/
theorem missing_other (h : ∀ p ∈ missing P name l, c ≠ name p) :
    missing P name (l ++ [c]) = missing P name l := by
  ext q
  simp only [mem_missing, List.mem_append, List.mem_singleton, not_or]
  refine ⟨fun hq => ⟨hq.1, hq.2.1⟩, fun hq => ⟨hq.1, hq.2, fun heq => ?_⟩⟩
  exact h q (mem_missing.mpr hq) heq.symm

omit [DecidableEq α] in
theorem missing_antitone (h : pre <+: l) : missing P name l ⊆ missing P name pre := by
  intro p hp
  obtain ⟨hP, hl⟩ := mem_missing.mp hp
  exact mem_missing.mpr ⟨hP, fun hpre => hl (h.mem hpre)⟩

/-! ## The last to be heard -/

/-- At position `n` the only one of `P` still missing is heard. -/
def LastMissing (P : Finset α) (name : α → γ) (l : List γ) (n : Nat) : Prop :=
  ∃ p ∈ P, l[n]? = some (name p) ∧ missing P name (l.take n) = {p}

omit [DecidableEq α] in
theorem LastMissing.lt_length (h : LastMissing P name l n) : n < l.length := by
  obtain ⟨p, -, hn, -⟩ := h
  exact (List.getElem?_eq_some_iff.mp hn).1

omit [DecidableEq α] in
/-- The roll call is complete after position `n`, and not before. -/
theorem LastMissing.missing_eq_empty_iff (h : LastMissing P name l n) :
    missing P name (l.take k) = ∅ ↔ n < k := by
  obtain ⟨p, hp, hn, hlast⟩ := h
  constructor
  · intro hk
    by_contra hle
    have hsub : missing P name (l.take n) ⊆ missing P name (l.take k) :=
      missing_antitone (List.take_prefix_take_left (not_lt.mp hle))
    rw [hk, hlast] at hsub
    exact Finset.singleton_ne_empty p (Finset.subset_empty.mp hsub)
  · intro hlt
    rw [missing_eq_empty]
    intro q hq
    have hin : l.take (n + 1) <+: l.take k := List.take_prefix_take_left hlt
    refine hin.mem ?_
    rw [List.take_add_one, hn, Option.toList_some, List.mem_append, List.mem_singleton]
    by_cases hqp : q = p
    · exact .inr (congrArg name hqp)
    · left
      by_contra hmiss
      have hmem : q ∈ missing P name (l.take n) := mem_missing.mpr ⟨hq, hmiss⟩
      rw [hlast, Finset.mem_singleton] at hmem
      exact hqp hmem

/-- Somebody is the last. -/
theorem exists_lastMissing (hname : Function.Injective name) (hP : P.Nonempty)
    (hall : ∀ p ∈ P, name p ∈ l) : ∃ n, LastMissing P name l n := by
  have hex : ∃ k, missing P name (l.take k) = ∅ :=
    ⟨l.length, by rw [List.take_length]; exact missing_eq_empty.mpr hall⟩
  -- the roll call is not complete before the first entry
  obtain ⟨n, hfirst⟩ : ∃ n, Nat.find hex = n + 1 := by
    refine Nat.exists_eq_succ_of_ne_zero fun h0 => ?_
    have hnone := Nat.find_spec hex
    rw [h0, List.take_zero, missing_nil] at hnone
    exact hP.ne_empty hnone
  have hbefore : missing P name (l.take n) ≠ ∅ := Nat.find_min hex (by omega)
  have hafter : missing P name (l.take (n + 1)) = ∅ := by
    rw [← hfirst]
    exact Nat.find_spec hex
  rw [List.take_add_one] at hafter
  cases hc : l[n]? with
  | none =>
    rw [hc, Option.toList_none, List.append_nil] at hafter
    exact absurd hafter hbefore
  | some c =>
    rw [hc, Option.toList_some] at hafter
    by_cases hother : ∀ p ∈ missing P name (l.take n), c ≠ name p
    · rw [missing_other hother] at hafter
      exact absurd hafter hbefore
    · push Not at hother
      obtain ⟨p, hp, rfl⟩ := hother
      rw [missing_name hname, Finset.erase_eq_empty_iff] at hafter
      exact ⟨n, p, (mem_missing.mp hp).1, hc, hafter.resolve_left hbefore⟩

/-! ## Machines that hold a roll call -/

variable {σ β : Type*} {call : σ → γ → β × σ} {waiting : Finset α → σ} {harmless : γ → Prop}
  {silent : β → Prop} {answer : β} {done : σ}

/-- In state `waiting W` the machine waits for `W`.  Whoever it waits for is taken off, `silent`ly
    until the last of them, who is given the `answer`; other `harmless` entries change nothing. -/
structure Collects (call : σ → γ → β × σ) (name : α → γ) (P : Finset α) (waiting : Finset α → σ)
    (harmless : γ → Prop) (silent : β → Prop) (answer : β) (done : σ) : Prop where
  injective : Function.Injective name
  expected : ∀ {W p}, W ⊆ P → p ∈ W → W.erase p ≠ ∅ →
    silent (call (waiting W) (name p)).1 ∧ (call (waiting W) (name p)).2 = waiting (W.erase p)
  last : ∀ {p}, p ∈ P → call (waiting {p}) (name p) = (answer, done)
  other : ∀ {W c}, W ⊆ P → harmless c → (∀ p ∈ W, c ≠ name p) →
    silent (call (waiting W) c).1 ∧ (call (waiting W) c).2 = waiting W

namespace Collects

/-- **One entry** that does not complete the roll call. -/
theorem step (h : Collects call name P waiting harmless silent answer done) (hc : harmless c)
    (hafter : missing P name (l ++ [c]) ≠ ∅) :
    silent (call (waiting (missing P name l)) c).1 ∧
      (call (waiting (missing P name l)) c).2 = waiting (missing P name (l ++ [c])) := by
  by_cases hother : ∀ p ∈ missing P name l, c ≠ name p
  · rw [missing_other hother]
    exact h.other missing_subset hc hother
  · push Not at hother
    obtain ⟨p, hp, rfl⟩ := hother
    rw [missing_name h.injective] at hafter ⊢
    exact h.expected missing_subset hp hafter

/-- **Any entries, in any order**: up to the last position the machine waits for the missing. -/
theorem trace_waiting (h : Collects call name P waiting harmless silent answer done)
    (hlast : LastMissing P name l n) (hharmless : ∀ c ∈ l.take n, harmless c) (hk : k ≤ n) :
    Machine.trace (fun s c => (call s c).2) (waiting P) l k =
      waiting (missing P name (l.take k)) := by
  induction k with
  | zero => rw [List.take_zero, missing_nil]; rfl
  | succ k ih =>
    have hlen := hlast.lt_length
    have hc : l[k]? = some l[k] := List.getElem?_eq_getElem (by omega)
    have hin : l[k] ∈ l.take n := List.mem_take_iff_getElem.mpr ⟨k, by omega, rfl⟩
    have hafter : missing P name (l.take k ++ [l[k]]) ≠ ∅ := by
      rw [List.take_append_getElem (by omega)]
      exact fun he => absurd (hlast.missing_eq_empty_iff.mp he) (by omega)
    rw [Machine.trace_succ _ hc, ih (by omega), (h.step (hharmless _ hin) hafter).2,
      List.take_append_getElem (by omega)]

/-- Before the last position every answer is silent. -/
theorem answers_before (h : Collects call name P waiting harmless silent answer done)
    (hlast : LastMissing P name l n) (hharmless : ∀ c ∈ l.take n, harmless c) (hk : k < n)
    (hc : l[k]? = some c) :
    silent (call (Machine.trace (fun s c => (call s c).2) (waiting P) l k) c).1 := by
  obtain ⟨hlen, rfl⟩ := List.getElem?_eq_some_iff.mp hc
  have hin : l[k] ∈ l.take n := List.mem_take_iff_getElem.mpr ⟨k, by omega, rfl⟩
  rw [h.trace_waiting hlast hharmless hk.le]
  refine (h.step (hharmless _ hin) ?_).1
  rw [List.take_append_getElem hlen]
  exact fun he => absurd (hlast.missing_eq_empty_iff.mp he) (by omega)

/-- At the last position the machine moves on. -/
theorem last_answer (h : Collects call name P waiting harmless silent answer done)
    (hlast : LastMissing P name l n) (hharmless : ∀ c ∈ l.take n, harmless c)
    (hc : l[n]? = some c) :
    call (Machine.trace (fun s c => (call s c).2) (waiting P) l n) c = (answer, done) := by
  obtain ⟨p, hp, hn, hmissing⟩ := id hlast
  obtain rfl := Option.some.inj (hc.symm.trans hn)
  rw [h.trace_waiting hlast hharmless (le_refl n), hmissing]
  exact h.last hp

theorem trace_done (h : Collects call name P waiting harmless silent answer done)
    (hlast : LastMissing P name l n) (hharmless : ∀ c ∈ l.take n, harmless c) :
    Machine.trace (fun s c => (call s c).2) (waiting P) l (n + 1) = done := by
  obtain ⟨p, -, hn, -⟩ := id hlast
  rw [Machine.trace_succ _ hn, h.last_answer hlast hharmless hn]

/-- **Exactly once**: of the answers of a run only that at the last position is `decisive`, if
    silent answers are not, and neither are those given once the roll call is done. -/
theorem exactly_once (h : Collects call name P waiting harmless silent answer done)
    (hlast : LastMissing P name l n) (hharmless : ∀ c ∈ l.take n, harmless c)
    (decisive : β → Prop) (hsilent : ∀ b, silent b → ¬ decisive b) (closed : σ → Prop)
    (hdone : closed done)
    (hclosed : ∀ s c, closed s → closed (call s c).2 ∧ ¬ decisive (call s c).1) :
    (∃ c, l[k]? = some c ∧
      decisive (call (Machine.trace (fun s c => (call s c).2) (waiting P) l k) c).1) ↔
      k = n ∧ decisive answer := by
  constructor
  · rintro ⟨c, hc, hdec⟩
    rcases lt_trichotomy k n with hlt | rfl | hgt
    · exact absurd hdec (hsilent _ (h.answers_before hlast hharmless hlt hc))
    · rw [h.last_answer hlast hharmless hc] at hdec
      exact ⟨rfl, hdec⟩
    · have hlater : closed (Machine.trace (fun s c => (call s c).2) (waiting P) l k) := by
        refine Machine.trace_invariant _ (fun s c hs => (hclosed s c hs).1) ?_ hgt
        rw [h.trace_done hlast hharmless]
        exact hdone
      exact absurd hdec (hclosed _ c hlater).2
  · rintro ⟨rfl, hdec⟩
    obtain ⟨p, -, hn, -⟩ := id hlast
    refine ⟨name p, hn, ?_⟩
    rw [h.last_answer hlast hharmless hn]
    exact hdec

end Collects

end RollCall
