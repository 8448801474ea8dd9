import Mathlib.Data.List.Nodup
import Sam.Library.Ballot

/-!
# Histories of two-phase transitions

The abstract account of a coordinator that moves a system between modes by prepare and commit
rounds, over arbitrary identifiers `ι`, participants `α` and modes `μ`.

* `Round` — one transition: the participants of the request, the ballot on preparing it and
  the decision, which is a commit exactly when the first ballot is unanimous (`coherent`) and
  then carries the ballot on having committed it.
* `Round.start`, `approve`, `reject`, `confirm` — the only ways a round begins and grows.
* `events`, `orders` — what a list of rounds amounts to: the votes the coordinator counted and
  the orders it gave, in order.
* `commit_unanimous`, `abort_excludes_commit`, `order_target` — what the orders of a history
  with distinct ids can say about one id.

Nothing here mentions connections, messages in flight or time.
-/

namespace TwoPhase

variable {ι α μ : Type*} [DecidableEq α]

/-- What became of a round: nothing yet, an abort, or a commit being confirmed. -/
inductive Decision (P : Finset α) where
  | pending
  | abort (rejecter : α) (mem : rejecter ∈ P)
  | commit (confirmed : Ballot P)

/-- Nothing is awaited any more. -/
def Decision.Settled {P : Finset α} : Decision P → Prop
  | .pending => False
  | .abort _ _ => True
  | .commit confirmed => confirmed.Unanimous

/-- What the coordinator counts. -/
inductive Event (ι α μ : Type*) where
  | requested (id : ι) (target : μ) (participants : Finset α)
  | ready (voter : α) (id : ι)
  | rejected (voter : α) (id : ι)
  | committed (voter : α) (id : ι) (mode : μ)
  deriving DecidableEq

/-- The event is a request. -/
def Event.isRequest : Event ι α μ → Bool
  | .requested _ _ _ => true
  | _ => false

/-- What the coordinator orders. -/
inductive Order (ι μ : Type*) where
  | prepare (id : ι) (target : μ)
  | commit (id : ι) (target : μ)
  | abort (id : ι)
  deriving DecidableEq

/-- The transition an order belongs to. -/
def Order.id : Order ι μ → ι
  | .prepare id _ => id
  | .commit id _ => id
  | .abort id => id

/-- The order decides its transition. -/
def Order.isDecision : Order ι μ → Bool
  | .prepare _ _ => false
  | _ => true

/-- An order of an earlier transition, or the preparation of the one decided. -/
def Order.Before (lt : ι → ι → Prop) (x y : Order ι μ) : Prop :=
  lt x.id y.id ∨ x.id = y.id ∧ x.isDecision = false ∧ y.isDecision = true

variable (ι α μ) in
/-- One transition, from its request on. -/
structure Round where
  id : ι
  target : μ
  participants : Finset α
  nonempty : participants.Nonempty
  ready : Ballot participants
  decision : Decision participants
  coherent : ready.Unanimous ↔ ∃ confirmed, decision = .commit confirmed

namespace Round

/-- A round just requested. -/
def start (id : ι) (target : μ) (P : Finset α) (h : P.Nonempty) : Round ι α μ where
  id := id
  target := target
  participants := P
  nonempty := h
  ready := Ballot.empty
  decision := .pending
  coherent := by simp [Ballot.not_unanimous_empty h]

/-- One more participant is ready; the last one decides the commit. -/
def approve (r : Round ι α μ) (_hp : r.decision = .pending) (v : α) (hv : v ∈ r.ready.waiting) :
    Round ι α μ :=
  { r with
    ready := r.ready.cast v hv
    decision := if (r.ready.cast v hv).Unanimous then .commit Ballot.empty else .pending
    coherent := by by_cases h : (r.ready.cast v hv).Unanimous <;> simp [h] }

/-- A participant rejects the round. -/
def reject (r : Round ι α μ) (hp : r.decision = .pending) (v : α) (hv : v ∈ r.participants) :
    Round ι α μ :=
  { r with
    decision := .abort v hv
    coherent := by rw [r.coherent, hp]; simp }

/-- One more participant has committed. -/
def confirm (r : Round ι α μ) (c : Ballot r.participants) (hc : r.decision = .commit c) (v : α)
    (hv : v ∈ c.waiting) : Round ι α μ :=
  { r with
    decision := .commit (c.cast v hv)
    coherent := by rw [r.coherent, hc]; simp }

/-- The round awaits nobody. -/
def Settled (r : Round ι α μ) : Prop := r.decision.Settled

/-- Every participant has committed. -/
def Completed (r : Round ι α μ) : Prop :=
  match r.decision with
  | .commit confirmed => confirmed.Unanimous
  | _ => False

instance (r : Round ι α μ) : Decidable r.Completed := by
  unfold Completed; split <;> infer_instance

/-- The votes counted in a round after its request, in order. -/
def answers (r : Round ι α μ) : List (Event ι α μ) :=
  r.ready.votes.map (.ready · r.id) ++
    match r.decision with
    | .pending => []
    | .abort v _ => [.rejected v r.id]
    | .commit c => c.votes.map (.committed · r.id r.target)

/-- What happened in a round, in order. -/
def events (r : Round ι α μ) : List (Event ι α μ) :=
  .requested r.id r.target r.participants :: r.answers

/-- The orders given in a round, in order. -/
def orders (r : Round ι α μ) : List (Order ι μ) :=
  .prepare r.id r.target ::
    match r.decision with
    | .pending => []
    | .abort _ _ => [.abort r.id]
    | .commit _ => [.commit r.id r.target]

/-! ## How a round grows -/

variable {r : Round ι α μ}

theorem events_start (id : ι) (target : μ) (P : Finset α) (h : P.Nonempty) :
    (start id target P h).events = [.requested id target P] := rfl

theorem orders_start (id : ι) (target : μ) (P : Finset α) (h : P.Nonempty) :
    (start id target P h).orders = [.prepare id target] := rfl

theorem events_approve (hp : r.decision = .pending) (v : α) (hv : v ∈ r.ready.waiting) :
    (r.approve hp v hv).events = r.events ++ [.ready v r.id] := by
  by_cases h : (r.ready.cast v hv).Unanimous <;> simp [events, answers, approve, hp, h]

theorem orders_approve (hp : r.decision = .pending) (v : α) (hv : v ∈ r.ready.waiting) :
    (r.approve hp v hv).orders =
      r.orders ++ if r.ready.waiting.erase v = ∅ then [.commit r.id r.target] else [] := by
  rw [← Ballot.waiting_cast _ v hv]
  by_cases h : (r.ready.cast v hv).Unanimous
  · rw [if_pos (show (r.ready.cast v hv).waiting = ∅ from h)]; simp [orders, approve, hp, h]
  · rw [if_neg (show ¬ (r.ready.cast v hv).waiting = ∅ from h)]; simp [orders, approve, hp, h]

theorem events_reject (hp : r.decision = .pending) (v : α) (hv : v ∈ r.participants) :
    (r.reject hp v hv).events = r.events ++ [.rejected v r.id] := by
  simp [events, answers, reject, hp]

theorem orders_reject (hp : r.decision = .pending) (v : α) (hv : v ∈ r.participants) :
    (r.reject hp v hv).orders = r.orders ++ [.abort r.id] := by
  simp [orders, reject, hp]

theorem events_confirm {c : Ballot r.participants} (hc : r.decision = .commit c) (v : α)
    (hv : v ∈ c.waiting) :
    (r.confirm c hc v hv).events = r.events ++ [.committed v r.id r.target] := by
  simp [events, answers, confirm, hc]

theorem orders_confirm {c : Ballot r.participants} (hc : r.decision = .commit c) (v : α)
    (hv : v ∈ c.waiting) : (r.confirm c hc v hv).orders = r.orders := by
  simp [orders, confirm, hc]

theorem waiting_start (id : ι) (target : μ) (P : Finset α) (h : P.Nonempty) :
    (start id target P h).ready.waiting = P := Ballot.waiting_empty

theorem waiting_approve (hp : r.decision = .pending) (v : α) (hv : v ∈ r.ready.waiting) :
    (r.approve hp v hv).ready.waiting = r.ready.waiting.erase v :=
  Ballot.waiting_cast r.ready v hv

theorem voted_approve (hp : r.decision = .pending) (v : α) (hv : v ∈ r.ready.waiting) :
    (r.approve hp v hv).ready.voted = insert v r.ready.voted :=
  Ballot.voted_cast r.ready v hv

/-- The round stays pending while somebody is waited for. -/
theorem decision_approve_ne (hp : r.decision = .pending) (v : α) (hv : v ∈ r.ready.waiting)
    (hW : r.ready.waiting.erase v ≠ ∅) : (r.approve hp v hv).decision = .pending :=
  if_neg fun hu => hW (by rw [← Ballot.waiting_cast _ v hv]; exact hu)

/-- The last approval decides the commit. -/
theorem decision_approve_last (hp : r.decision = .pending) (v : α) (hv : v ∈ r.ready.waiting)
    (hW : r.ready.waiting.erase v = ∅) : (r.approve hp v hv).decision = .commit Ballot.empty :=
  if_pos (by rw [← Ballot.waiting_cast _ v hv] at hW; exact hW)

/-- A pending round has not heard from everybody. -/
theorem not_unanimous_of_pending (hp : r.decision = .pending) : ¬ r.ready.Unanimous := by
  rw [r.coherent, hp]; simp

theorem unanimous_of_commit {c : Ballot r.participants} (hc : r.decision = .commit c) :
    r.ready.Unanimous := r.coherent.mpr ⟨c, hc⟩

theorem completed_commit {c : Ballot r.participants} (hc : r.decision = .commit c) :
    r.Completed ↔ c.Unanimous := by
  unfold Completed; rw [hc]

theorem settled_commit {c : Ballot r.participants} (hc : r.decision = .commit c) :
    r.Settled ↔ c.Unanimous := by
  unfold Settled; rw [hc]; exact Iff.rfl

theorem settled_reject (hp : r.decision = .pending) (v : α) (hv : v ∈ r.participants) :
    (r.reject hp v hv).Settled := trivial

theorem not_completed_of_pending (hp : r.decision = .pending) : ¬ r.Completed := by
  unfold Completed; rw [hp]; exact not_false

theorem not_completed_reject (hp : r.decision = .pending) (v : α) (hv : v ∈ r.participants) :
    ¬ (r.reject hp v hv).Completed := not_false

/-- The answers in a committed round: everybody ready, then those who have committed. -/
theorem answers_commit {c : Ballot r.participants} (hc : r.decision = .commit c) :
    r.answers = r.ready.votes.map (.ready · r.id) ++ c.votes.map (.committed · r.id r.target) := by
  simp [answers, hc]

/-- No answer is a request. -/
theorem not_isRequest_answers {e : Event ι α μ} (he : e ∈ r.answers) : e.isRequest = false := by
  unfold answers at he
  rcases List.mem_append.mp he with he | he
  · obtain ⟨v, _, rfl⟩ := List.mem_map.mp he; rfl
  · cases hd : r.decision with
    | pending => rw [hd] at he; cases he
    | abort v hv => rw [hd] at he; rw [List.mem_singleton.mp he]; rfl
    | commit c =>
      rw [hd] at he
      obtain ⟨v, _, rfl⟩ := List.mem_map.mp he; rfl

theorem id_of_mem_orders {o : Order ι μ} (ho : o ∈ r.orders) : o.id = r.id := by
  unfold orders at ho
  rcases List.mem_cons.mp ho with rfl | ho
  · rfl
  · cases hd : r.decision with
    | pending => rw [hd] at ho; cases ho
    | abort v hv => rw [hd] at ho; rw [List.mem_singleton.mp ho]; rfl
    | commit c => rw [hd] at ho; rw [List.mem_singleton.mp ho]; rfl

theorem orders_pairwise (r : Round ι α μ) (lt : ι → ι → Prop) :
    r.orders.Pairwise (Order.Before lt) := by
  unfold orders
  cases r.decision with
  | pending => exact List.pairwise_singleton _ _
  | abort v hv => exact List.pairwise_pair.mpr (.inr ⟨rfl, rfl, rfl⟩)
  | commit c => exact List.pairwise_pair.mpr (.inr ⟨rfl, rfl, rfl⟩)

theorem requests_events (r : Round ι α μ) : r.events.countP Event.isRequest = 1 := by
  unfold events
  rw [List.countP_cons_of_pos rfl, List.countP_eq_zero.mpr]
  intro e he
  simp [not_isRequest_answers he]

end Round

/-! ## Histories -/

variable {H : List (Round ι α μ)}

/-- The votes counted in a history. -/
def events (H : List (Round ι α μ)) : List (Event ι α μ) := H.flatMap Round.events

/-- The orders given in a history. -/
def orders (H : List (Round ι α μ)) : List (Order ι μ) := H.flatMap Round.orders

@[simp] theorem events_concat (H : List (Round ι α μ)) (r : Round ι α μ) :
    events (H ++ [r]) = events H ++ r.events := by simp [events]

@[simp] theorem orders_concat (H : List (Round ι α μ)) (r : Round ι α μ) :
    orders (H ++ [r]) = orders H ++ r.orders := by simp [orders]

/-- The mode after a history: the target of the last completed round. -/
def mode (initial : μ) (H : List (Round ι α μ)) : μ :=
  H.foldl (fun m r => if r.Completed then r.target else m) initial

@[simp] theorem mode_concat (initial : μ) (H : List (Round ι α μ)) (r : Round ι α μ) :
    mode initial (H ++ [r]) = if r.Completed then r.target else mode initial H := by
  simp [mode]

/-- The mode is the same whichever uncompleted round comes last. -/
theorem mode_concat_congr (initial : μ) (H : List (Round ι α μ)) {r q : Round ι α μ}
    (hr : ¬ r.Completed) (hq : ¬ q.Completed) :
    mode initial (H ++ [r]) = mode initial (H ++ [q]) := by
  rw [mode_concat, mode_concat, if_neg hr, if_neg hq]

/-- A history has one request for each round. -/
theorem requests_eq_length (H : List (Round ι α μ)) :
    (events H).countP Event.isRequest = H.length := by
  induction H with
  | nil => rfl
  | cons r H ih =>
    unfold events at ih ⊢
    rw [List.flatMap_cons, List.countP_append, ih, Round.requests_events, List.length_cons,
      Nat.add_comm]

theorem requested_mem {id : ι} {t : μ} {P : Finset α} :
    .requested id t P ∈ events H ↔ ∃ r ∈ H, r.id = id ∧ r.target = t ∧ r.participants = P := by
  simp only [events, List.mem_flatMap, Round.events, Round.answers]
  refine exists_congr fun r => and_congr_right fun _ => ?_
  cases r.decision <;> simp [eq_comm]

theorem ready_mem {v : α} {id : ι} :
    .ready v id ∈ events H ↔ ∃ r ∈ H, r.id = id ∧ v ∈ r.ready.votes := by
  simp only [events, List.mem_flatMap, Round.events, Round.answers]
  refine exists_congr fun r => and_congr_right fun _ => ?_
  cases r.decision <;> simp [and_comm]

theorem rejected_mem {v : α} {id : ι} :
    .rejected v id ∈ events H ↔ ∃ r ∈ H, r.id = id ∧ ∃ h, r.decision = .abort v h := by
  simp only [events, List.mem_flatMap, Round.events, Round.answers]
  refine exists_congr fun r => and_congr_right fun _ => ?_
  cases hd : r.decision with
  | pending => simp
  | commit c => simp
  | abort w hw =>
    simp only [List.mem_cons, reduceCtorEq, List.mem_append, List.mem_map,
      and_false, exists_false, Event.rejected.injEq, List.not_mem_nil, or_false, false_or,
      Decision.abort.injEq, exists_prop]
    constructor
    · rintro ⟨rfl, rfl⟩; exact ⟨rfl, hw, rfl⟩
    · rintro ⟨rfl, _, rfl⟩; exact ⟨rfl, rfl⟩

theorem committed_mem {v : α} {id : ι} {m : μ} :
    .committed v id m ∈ events H ↔
      ∃ r ∈ H, r.id = id ∧ r.target = m ∧ ∃ c, r.decision = .commit c ∧ v ∈ c.votes := by
  simp only [events, List.mem_flatMap, Round.events, Round.answers]
  refine exists_congr fun r => and_congr_right fun _ => ?_
  cases hd : r.decision <;> simp
  tauto

theorem prepare_mem {id : ι} {t : μ} :
    .prepare id t ∈ orders H ↔ ∃ r ∈ H, r.id = id ∧ r.target = t := by
  simp only [orders, List.mem_flatMap, Round.orders]
  refine exists_congr fun r => and_congr_right fun _ => ?_
  cases r.decision <;> simp [eq_comm]

theorem commit_mem {id : ι} {t : μ} :
    .commit id t ∈ orders H ↔ ∃ r ∈ H, r.id = id ∧ r.target = t ∧ r.ready.Unanimous := by
  simp only [orders, List.mem_flatMap, Round.orders]
  refine exists_congr fun r => and_congr_right fun _ => ?_
  rw [r.coherent]
  cases hd : r.decision <;> simp [eq_comm]

theorem abort_mem {id : ι} :
    (.abort id : Order ι μ) ∈ orders H ↔ ∃ r ∈ H, r.id = id ∧ ∃ v h, r.decision = .abort v h := by
  simp only [orders, List.mem_flatMap, Round.orders]
  refine exists_congr fun r => and_congr_right fun _ => ?_
  cases hd : r.decision <;> simp [eq_comm]
  rintro rfl; assumption

/-- With distinct ids, an id names one round. -/
theorem round_unique (hH : (H.map (·.id)).Nodup) {r r' : Round ι α μ} (hr : r ∈ H) (hr' : r' ∈ H)
    (h : r.id = r'.id) : r = r' := List.inj_on_of_nodup_map hH hr hr' h

/-- With distinct ids, an id was requested once. -/
theorem request_unique (hH : (H.map (·.id)).Nodup) {id : ι} {t t' : μ} {P P' : Finset α}
    (h : .requested id t P ∈ events H) (h' : .requested id t' P' ∈ events H) : t' = t ∧ P' = P := by
  obtain ⟨r, hr, rfl, rfl, rfl⟩ := requested_mem.mp h
  obtain ⟨r', hr', hid, rfl, rfl⟩ := requested_mem.mp h'
  rw [round_unique hH hr' hr hid]
  exact ⟨rfl, rfl⟩

/-- **All orders of one id speak of the mode that was requested under it.** -/
theorem order_target (hH : (H.map (·.id)).Nodup) {id : ι} {t t' : μ} {P : Finset α}
    (hr : .requested id t P ∈ events H)
    (ho : .prepare id t' ∈ orders H ∨ .commit id t' ∈ orders H) : t' = t := by
  obtain ⟨r, hrm, rfl, rfl, rfl⟩ := requested_mem.mp hr
  rcases ho with ho | ho
  · obtain ⟨r', hr', hid, rfl⟩ := prepare_mem.mp ho
    rw [round_unique hH hr' hrm hid]
  · obtain ⟨r', hr', hid, rfl, _⟩ := commit_mem.mp ho
    rw [round_unique hH hr' hrm hid]

/-- **A commit is ordered only when every participant was counted ready.** -/
theorem commit_unanimous (hH : (H.map (·.id)).Nodup) {id : ι} {t t' : μ} {P : Finset α}
    (hr : .requested id t P ∈ events H) (hc : .commit id t' ∈ orders H) :
    ∀ p ∈ P, .ready p id ∈ events H := by
  obtain ⟨r, hrm, rfl, rfl, rfl⟩ := requested_mem.mp hr
  obtain ⟨r', hr', hid, _, hu⟩ := commit_mem.mp hc
  obtain rfl := round_unique hH hr' hrm hid
  intro p hp
  rw [← Ballot.unanimous_iff.mp hu, Ballot.mem_voted] at hp
  exact ready_mem.mpr ⟨r', hrm, rfl, hp⟩

/-- **No id is both committed and rejected.** -/
theorem abort_excludes_commit (hH : (H.map (·.id)).Nodup) {id : ι} {t : μ} {v : α}
    (hr : .rejected v id ∈ events H) : .commit id t ∉ orders H := by
  intro hc
  obtain ⟨r, hrm, rfl, _, hd⟩ := rejected_mem.mp hr
  obtain ⟨r', hr', hid, _, hu⟩ := commit_mem.mp hc
  obtain rfl := round_unique hH hr' hrm hid
  obtain ⟨c, hc⟩ := r'.coherent.mp hu
  rw [hd] at hc; cases hc

/-- **Who rejects is a participant.** -/
theorem rejected_participant (hH : (H.map (·.id)).Nodup) {id : ι} {t : μ} {P : Finset α} {v : α}
    (hr : .requested id t P ∈ events H) (h : .rejected v id ∈ events H) : v ∈ P := by
  obtain ⟨r, hrm, rfl, rfl, rfl⟩ := requested_mem.mp hr
  obtain ⟨r', hr', hid, hv, -⟩ := rejected_mem.mp h
  obtain rfl := round_unique hH hr' hrm hid
  exact hv

/-- The modes ordered under one id, to be prepared or committed, are the same. -/
theorem orders_agree (hH : (H.map (·.id)).Nodup) {id : ι} {t t' : μ}
    (hc : .commit id t ∈ orders H) (ho : .prepare id t' ∈ orders H ∨ .commit id t' ∈ orders H) :
    t' = t := by
  obtain ⟨r, hr, rfl, rfl, _⟩ := commit_mem.mp hc
  rcases ho with ho | ho
  · obtain ⟨r', hr', hid, rfl⟩ := prepare_mem.mp ho
    rw [round_unique hH hr' hr hid]
  · obtain ⟨r', hr', hid, rfl, _⟩ := commit_mem.mp ho
    rw [round_unique hH hr' hr hid]

/-- **No id is ordered both to commit and to abort.** -/
theorem commit_excludes_abort (hH : (H.map (·.id)).Nodup) {id : ι} {t : μ}
    (hc : .commit id t ∈ orders H) : (.abort id : Order ι μ) ∉ orders H := by
  intro ha
  obtain ⟨r, hr, rfl, v, hv, hd⟩ := abort_mem.mp ha
  obtain ⟨r', hr', hid, _, hu⟩ := commit_mem.mp hc
  obtain rfl := round_unique hH hr' hr hid
  obtain ⟨c, hc⟩ := r'.coherent.mp hu
  rw [hd] at hc; cases hc

/-- **Orders are given in order**: when ids increase, every order precedes those of later
    transitions, and a preparation precedes its decision. -/
theorem orders_pairwise {lt : ι → ι → Prop} (hH : (H.map (·.id)).Pairwise lt) :
    (orders H).Pairwise (Order.Before lt) := by
  unfold orders
  rw [List.pairwise_flatMap]
  refine ⟨fun r _ => r.orders_pairwise lt, (List.pairwise_map.mp hH).imp fun h x hx y hy => .inl ?_⟩
  rw [Round.id_of_mem_orders hx, Round.id_of_mem_orders hy]; exact h

end TwoPhase
