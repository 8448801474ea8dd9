import Mathlib.Data.List.Induction

/-!
# Runs of deterministic machines

A machine is a transition function `step : σ → ι → σ`; everything the environment decides
(who acts next, what it sends, how a callback answers) is part of the input, so a list of
inputs is a run and the quantifier over all runs is a quantifier over all lists.

* `run` — the state after a list of inputs, `trace` — the states on the way, `log` — the events
  emitted.
* `trace_invariant` — what every step keeps holds from then on.
* `log_split` — an event in a log happened at one position of the run, and the rest of the
  log is the log of the rest of the run.
* `Always` — every step of a run meets a condition on the state before it and the input.
* `run_invariant`, `run_simulates`, `history_invariant` — the induction rules the developments
  above use: for predicates of the state, for relations to the state of another machine, and for
  relations between the whole past and the state.
-/

namespace Machine

variable {σ ι ε τ κ : Type*} (step : σ → ι → σ)

/-- The state after a list of inputs. -/
def run (s : σ) (is : List ι) : σ := is.foldl step s

@[simp] theorem run_nil (s : σ) : run step s [] = s := rfl

@[simp] theorem run_cons (s : σ) (i : ι) (is : List ι) :
    run step s (i :: is) = run step (step s i) is := rfl

theorem run_append (s : σ) (is js : List ι) :
    run step s (is ++ js) = run step (run step s is) js := List.foldl_append

@[simp] theorem run_concat (s : σ) (is : List ι) (i : ι) :
    run step s (is ++ [i]) = step (run step s is) i := by
  rw [run_append]; rfl

/-! ## The state over time -/

section Trace

variable {is js : List ι} {i : ι} {t : Nat} {s : σ}

/-- The state after the first `t` inputs of a run. -/
def trace (s : σ) (is : List ι) (t : Nat) : σ := run step s (is.take t)

theorem trace_succ (h : is[t]? = some i) :
    trace step s is (t + 1) = step (trace step s is t) i := by
  unfold trace
  rw [List.take_add_one, h]
  exact run_concat step s _ i

/-- Nothing happens once the inputs are used up. -/
theorem trace_done (h : is.length ≤ t) : trace step s is t = run step s is := by
  unfold trace
  rw [List.take_of_length_le h]

/-- What every step keeps holds from then on. -/
theorem trace_invariant {I : σ → Prop} (hstep : ∀ s i, I s → I (step s i)) {t' : Nat}
    (h : I (trace step s is t)) (hle : t ≤ t') : I (trace step s is t') := by
  induction hle with
  | refl => exact h
  | @step t' _ ih =>
    cases hi : is[t']? with
    | none =>
      have hlen : is.length ≤ t' := List.getElem?_eq_none_iff.mp hi
      rw [trace_done _ (Nat.le_succ_of_le hlen), ← trace_done step hlen]
      exact ih
    | some i =>
      rw [trace_succ _ hi]
      exact hstep _ i ih

theorem trace_append :
    trace step s (is ++ js) (is.length + t) = trace step (run step s is) js t := by
  unfold trace
  rw [List.take_length_add_append, run_append]

end Trace

/-! ## Logs -/

/-- The events emitted along a run, oldest first. -/
def log (emit : σ → ι → List ε) : σ → List ι → List ε
  | _, [] => []
  | s, i :: is => emit s i ++ log emit (step s i) is

variable {step} {emit : σ → ι → List ε}

@[simp] theorem log_nil (s : σ) : log step emit s [] = [] := rfl

@[simp] theorem log_cons (s : σ) (i : ι) (is : List ι) :
    log step emit s (i :: is) = emit s i ++ log step emit (step s i) is := rfl

theorem log_append (s : σ) (is js : List ι) :
    log step emit s (is ++ js) = log step emit s is ++ log step emit (run step s is) js := by
  induction is generalizing s with
  | nil => rfl
  | cons i is ih => rw [List.cons_append, log_cons, ih, log_cons, List.append_assoc, run_cons]

theorem log_concat (s : σ) (is : List ι) (i : ι) :
    log step emit s (is ++ [i]) = log step emit s is ++ emit (run step s is) i := by
  rw [log_append, log_cons, log_nil, List.append_nil]

theorem mem_log {s : σ} {is : List ι} {e : ε} :
    e ∈ log step emit s is ↔ ∃ pre i post, is = pre ++ i :: post ∧ e ∈ emit (run step s pre) i := by
  constructor
  · induction is generalizing s with
    | nil => intro h; cases h
    | cons i is ih =>
      intro h
      rcases List.mem_append.mp h with h | h
      · exact ⟨[], i, is, rfl, h⟩
      · obtain ⟨pre, j, post, rfl, hj⟩ := ih h
        exact ⟨i :: pre, j, post, rfl, hj⟩
  · rintro ⟨pre, i, post, rfl, h⟩
    rw [log_append, log_cons]
    exact List.mem_append_right _ (List.mem_append_left _ h)

/-- **An event has its place in the run.**  When every step emits at most one event, a log cut
    at an event is the run cut at the step that emitted it. -/
theorem log_split {emit : σ → ι → Option ε} {s : σ} {is : List ι} {A B : List ε} {e : ε}
    (h : log step (fun s i => (emit s i).toList) s is = A ++ e :: B) :
    ∃ pre i post, is = pre ++ i :: post ∧
      log step (fun s i => (emit s i).toList) s pre = A ∧ emit (run step s pre) i = some e ∧
      log step (fun s i => (emit s i).toList) (step (run step s pre) i) post = B := by
  induction is generalizing s A with
  | nil => simp at h
  | cons i is ih =>
    rw [log_cons] at h
    cases he : emit s i with
    | none =>
      rw [he, Option.toList_none, List.nil_append] at h
      obtain ⟨pre, j, post, rfl, hA, hj, hB⟩ := ih h
      exact ⟨i :: pre, j, post, rfl, by simpa [he] using hA, hj, hB⟩
    | some e' =>
      rw [he, Option.toList_some, List.singleton_append] at h
      cases A with
      | nil =>
        obtain ⟨rfl, hB⟩ := List.cons.inj h
        exact ⟨[], i, is, rfl, rfl, he, hB⟩
      | cons a A =>
        obtain ⟨rfl, hA⟩ := List.cons.inj h
        obtain ⟨pre, j, post, rfl, hA, hj, hB⟩ := ih hA
        exact ⟨i :: pre, j, post, rfl, by simp [he, hA], hj, hB⟩

/-! ## Conditions on the steps of a run -/

variable (step) in
/-- Every step of the run meets `C`, which speaks of the state before the step and its input. -/
def Always (C : σ → ι → Prop) : σ → List ι → Prop
  | _, [] => True
  | s, i :: is => C s i ∧ Always C (step s i) is

instance Always.decidable {C : σ → ι → Prop} [∀ s i, Decidable (C s i)] :
    ∀ (s : σ) (is : List ι), Decidable (Always step C s is)
  | _, [] => inferInstanceAs (Decidable True)
  | s, i :: is => @instDecidableAnd _ _ _ (Always.decidable (step s i) is)

variable {C : σ → ι → Prop}

theorem always_append {s : σ} {is js : List ι} :
    Always step C s (is ++ js) ↔ Always step C s is ∧ Always step C (run step s is) js := by
  induction is generalizing s with
  | nil => simp [Always]
  | cons i is ih => simp [Always, ih, and_assoc]

theorem always_concat {s : σ} {is : List ι} {i : ι} :
    Always step C s (is ++ [i]) ↔ Always step C s is ∧ C (run step s is) i := by
  rw [always_append]; simp [Always]

/-- A condition of the whole run is a condition of each of its positions. -/
theorem always_iff {s : σ} {is : List ι} :
    Always step C s is ↔ ∀ pre i post, is = pre ++ i :: post → C (run step s pre) i := by
  constructor
  · rintro h pre i post rfl
    exact (always_append.mp h).2.1
  · induction is generalizing s with
    | nil => intro _; trivial
    | cons i is ih =>
      intro h
      exact ⟨h [] i is rfl, ih fun pre j post hj => h (i :: pre) j post (by rw [hj]; rfl)⟩

variable {D : σ → ι → Prop}

theorem Always.imp (h : ∀ s i, C s i → D s i) {s : σ} {is : List ι} (hC : Always step C s is) :
    Always step D s is := by
  induction is generalizing s with
  | nil => trivial
  | cons i is ih => exact ⟨h s i hC.1, ih hC.2⟩

/-- What holds of a whole log holds of what each step emits. -/
theorem always_of_log {p : ε → Prop} {s : σ} {is : List ι} (h : ∀ e ∈ log step emit s is, p e) :
    Always step (fun s i => ∀ e ∈ emit s i, p e) s is := by
  induction is generalizing s with
  | nil => trivial
  | cons i is ih =>
    exact ⟨fun e he => h e (List.mem_append_left _ he),
      ih fun e he => h e (List.mem_append_right _ he)⟩

/-! ## Induction rules -/

/-- **Invariants of conditional runs.** -/
theorem run_invariant {I : σ → Prop} (hstep : ∀ s i, I s → C s i → I (step s i)) {s : σ}
    {is : List ι} (h0 : I s) (hC : Always step C s is) : I (run step s is) := by
  induction is generalizing s with
  | nil => exact h0
  | cons i is ih => exact ih (hstep s i h0 hC.1) hC.2

/-- **Simulations.**  When each step of a machine is matched by a run of another whose steps meet a
    condition of their own, so is each of its runs. -/
theorem run_simulates {step' : τ → κ → τ} {C' : τ → κ → Prop} {R : σ → τ → Prop}
    (hstep : ∀ s t i, R s t → C s i → ∃ js, Always step' C' t js ∧ R (step s i) (run step' t js))
    {s : σ} {t : τ} {is : List ι} (h0 : R s t) (hC : Always step C s is) :
    ∃ js, Always step' C' t js ∧ R (run step s is) (run step' t js) := by
  induction is generalizing s t with
  | nil => exact ⟨[], trivial, h0⟩
  | cons i is ih =>
    obtain ⟨js, hjs, hR⟩ := hstep s t i h0 hC.1
    obtain ⟨ks, hks, hR'⟩ := ih hR hC.2
    refine ⟨js ++ ks, always_append.mpr ⟨hjs, hks⟩, ?_⟩
    rw [run_append]
    exact hR'

/-- **Invariants that remember the past**: the relation `R` may speak of the whole list of
    inputs that led to the state. -/
theorem history_invariant {s : σ} {R : List ι → σ → Prop} (h0 : R [] s)
    (hstep : ∀ is i, R is (run step s is) → R (is ++ [i]) (step (run step s is) i)) :
    ∀ is, R is (run step s is) := by
  intro is
  induction is using List.reverseRecOn with
  | nil => exact h0
  | append_singleton is i ih => rw [run_concat]; exact hstep is i ih

end Machine
