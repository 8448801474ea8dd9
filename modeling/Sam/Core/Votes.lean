import Mathlib.Data.Finset.SDiff
import Sam.Core.Mode
import Sam.Library.RollCall

/-!
# The order of the votes

Between two requests the mode manager is called with responses only: `application_ready`,
`application_rejected` and `application_committed`, of anybody, for any transition, any number of
times and in any order.

* `Response`, `respond` — a response and what the manager makes of it.
* `preparing_collects`, `committing_collects` — each phase is a roll call of the participants.
* `votes_order_independent` — so the transition is decided when the last participant becomes ready,
  in a state that does not depend on the responses, and completes when the last one has committed.
-/

namespace Sam

/-- A call of `application_ready`, `application_rejected` or `application_committed`. -/
inductive Response where
  | ready (application : ApplicationId) (responseId : TransitionId)
  | rejected (application : ApplicationId) (responseId : TransitionId) (reason : String)
  | committed (application : ApplicationId) (responseId : TransitionId) (committedMode : SystemMode)
  deriving DecidableEq, Repr

/-- `p` rejects transition `id`. -/
def Response.rejects (p : ApplicationId) (id : TransitionId) : Response → Bool
  | .rejected application responseId _ => application = p && responseId = id
  | _ => false

namespace ModeManager

/-- A response, with what the method returns and the manager it leaves behind. -/
def respond (m : ModeManager) : Response → Except ModeError (Option ModeEvent) × ModeManager
  | .ready application responseId => m.applicationReady application responseId
  | .rejected application responseId reason =>
    let (result, m) := m.applicationRejected application responseId reason
    (result.map some, m)
  | .committed application responseId committedMode =>
    m.applicationCommitted application responseId committedMode

/-- The manager after the first `k` responses. -/
def after (m : ModeManager) (responses : List Response) (k : Nat) : ModeManager :=
  Machine.trace (fun m response => (m.respond response).2) m responses k

/-- Response `k` returns the event. -/
def Returns (m : ModeManager) (responses : List Response) (k : Nat) (event : ModeEvent) : Prop :=
  ∃ response, responses[k]? = some response ∧
    ((m.after responses k).respond response).1 = .ok (some event)

variable {m : ModeManager} {P : Finset ApplicationId} {id : TransitionId}
  {current target : SystemMode} {next : UInt64}

/-! ## The phases as roll calls -/

/-- A result without an event. -/
def NoEvent (result : Except ModeError (Option ModeEvent)) : Prop :=
  ∀ event, result ≠ .ok (some event)

/-- Not a rejection of the transition by a participant. -/
def NoRejection (P : Finset ApplicationId) (id : TransitionId) (response : Response) : Prop :=
  ∀ p ∈ P, ¬ response.rejects p id

/-- The manager while it waits for `W` to become ready. -/
def preparing (id : TransitionId) (current target : SystemMode) (next : UInt64)
    (P W : Finset ApplicationId) : ModeManager := ⟨.preparing id current target W (P \ W), next⟩

/-- The manager while it waits for `W` to commit. -/
def committing (id : TransitionId) (current target : SystemMode) (next : UInt64)
    (P W : Finset ApplicationId) : ModeManager := ⟨.committing id current target W (P \ W), next⟩

theorem ready_injective : Function.Injective (Response.ready · id) := fun p q h => by
  cases h; rfl

theorem committed_injective : Function.Injective (Response.committed · id target) := fun p q h => by
  cases h; rfl

/-- **Preparation is a roll call** that a participant's rejection would break off. -/
theorem preparing_collects (P : Finset ApplicationId) (id : TransitionId)
    (current target : SystemMode) (next : UInt64) :
    RollCall.Collects respond (Response.ready · id) P (preparing id current target next P)
      (NoRejection P id) NoEvent (.ok (some (.preparationComplete id target)))
      (committing id current target next P P) where
  injective := ready_injective
  expected := by
    intro W p hW hp hne
    have hready : (preparing id current target next P W).respond (.ready p id) =
        (.ok none, preparing id current target next P (W.erase p)) := by
      simp only [respond, preparing, applicationReady, hp, hne, ne_eq, not_true_eq_false, if_false,
        Finset.sdiff_erase (hW hp)]
    rw [hready]
    exact ⟨nofun, rfl⟩
  last := by
    intro p hp
    simp [respond, preparing, committing, applicationReady, Finset.sdiff_singleton_eq_erase,
      Finset.insert_erase hp]
  other := by
    intro W response hW hno hother
    cases response with
    | ready a i =>
      rcases applicationReady_cases (preparing id current target next P W) a i with
        ⟨e, -, he⟩ | ⟨_, _, _, _, hs, ha, -⟩
      · simp only [respond, he]
        exact ⟨nofun, trivial⟩
      · cases hs
        exact absurd rfl (hother a ha)
    | rejected a i reason =>
      rcases applicationRejected_cases (preparing id current target next P W) a i reason with
        ⟨e, -, he⟩ | ⟨_, _, _, _, hs, ha, -⟩
      · simp only [respond, he]
        exact ⟨nofun, trivial⟩
      · cases hs
        have hP : a ∈ P := ha.elim (fun h => hW h) fun h => (Finset.mem_sdiff.mp h).1
        exact absurd (by simp [Response.rejects]) (hno a hP)
    | committed a i mode => exact ⟨nofun, rfl⟩

/-- **So is commitment**, and nothing breaks it off. -/
theorem committing_collects (P : Finset ApplicationId) (id : TransitionId)
    (current target : SystemMode) (next : UInt64) :
    RollCall.Collects respond (Response.committed · id target) P
      (committing id current target next P) (fun _ => True) NoEvent
      (.ok (some (.transitionComplete id target))) ⟨.stable target, next⟩ where
  injective := committed_injective
  expected := by
    intro W p hW hp hne
    have hcommitted : (committing id current target next P W).respond (.committed p id target) =
        (.ok none, committing id current target next P (W.erase p)) := by
      simp only [respond, committing, applicationCommitted, hp, hne, ne_eq, not_true_eq_false,
        if_false, Finset.sdiff_erase (hW hp)]
    rw [hcommitted]
    exact ⟨nofun, rfl⟩
  last := by
    intro p _
    simp [respond, committing, applicationCommitted]
  other := by
    intro W response _ _ hother
    cases response with
    | ready a i => exact ⟨nofun, rfl⟩
    | rejected a i reason => exact ⟨nofun, rfl⟩
    | committed a i mode =>
      rcases applicationCommitted_cases (committing id current target next P W) a i mode with
        ⟨e, -, he⟩ | ⟨_, _, _, hs, ha, -⟩
      · simp only [respond, he]
        exact ⟨nofun, trivial⟩
      · cases hs
        exact absurd rfl (hother a ha)

/-! ## After the decision -/

/-- The manager is not waiting for anybody to become ready. -/
def NotPreparing (m : ModeManager) : Prop :=
  ∀ id current target W R, m.state ≠ .preparing id current target W R

/-- Without a request preparation does not begin again, and so does not end again. -/
theorem NotPreparing.respond (h : m.NotPreparing) (response : Response) :
    (m.respond response).2.NotPreparing ∧
      ∀ id target, (m.respond response).1 ≠ .ok (some (.preparationComplete id target)) := by
  cases response with
  | ready a i =>
    rcases applicationReady_cases m a i with ⟨e, -, he⟩ | ⟨_, _, _, _, hs, -⟩
    · simp only [ModeManager.respond, he]
      exact ⟨h, nofun⟩
    · exact absurd hs (h _ _ _ _ _)
  | rejected a i reason =>
    rcases applicationRejected_cases m a i reason with ⟨e, -, he⟩ | ⟨_, _, _, _, hs, -⟩
    · simp only [ModeManager.respond, he]
      exact ⟨h, nofun⟩
    · exact absurd hs (h _ _ _ _ _)
  | committed a i mode =>
    rcases applicationCommitted_cases m a i mode with
      ⟨e, -, he⟩ | ⟨_, _, _, -, -, ⟨-, he⟩ | ⟨-, he⟩⟩
    · simp only [ModeManager.respond, he]
      exact ⟨h, nofun⟩
    · simp only [ModeManager.respond, he]
      exact ⟨nofun, nofun⟩
    · simp only [ModeManager.respond, he]
      exact ⟨nofun, nofun⟩

/-- A stable manager answers every response with an error. -/
theorem respond_stable {mode : SystemMode} (response : Response) :
    respond ⟨.stable mode, next⟩ response = (.error .invalidPhase, ⟨.stable mode, next⟩) := by
  cases response <;> rfl

/-! ## Any responses, in any order -/

variable {responses : List Response} {n : Nat}

/-- Preparation ends once, when the last participant becomes ready. -/
theorem preparation_ends (hlast : RollCall.LastMissing P (Response.ready · id) responses n)
    (hno : ∀ response ∈ responses.take n, NoRejection P id response) :
    (preparing id current target next P P).after responses (n + 1) =
        committing id current target next P P ∧
      ∀ k i t, (preparing id current target next P P).Returns responses k
        (.preparationComplete i t) ↔
        k = n ∧ i = id ∧ t = target := by
  refine ⟨(preparing_collects ..).trace_done hlast hno, fun k i t => ?_⟩
  refine ((preparing_collects ..).exactly_once hlast hno (· = .ok (some (.preparationComplete i t)))
    (fun _ hb => hb _) NotPreparing nofun fun m response hm => ?_).trans ?_
  · exact ⟨(hm.respond response).1, (hm.respond response).2 i t⟩
  · exact and_congr_right fun _ =>
      ⟨fun h => by cases h; exact ⟨rfl, rfl⟩, fun ⟨hi, ht⟩ => by rw [hi, ht]⟩

/-- Commitment ends once, when the last participant has committed, and with it the transition. -/
theorem commitment_ends
    (hlast : RollCall.LastMissing P (Response.committed · id target) responses n) :
    ((committing id current target next P P).after responses responses.length).state =
        .stable target ∧
      ∀ k i t, (committing id current target next P P).Returns responses k
        (.transitionComplete i t) ↔
        k = n ∧ i = id ∧ t = target := by
  have hcollects := committing_collects P id current target next
  have hall : ∀ response ∈ responses.take n, True := fun _ _ => trivial
  constructor
  · have hend : (committing id current target next P P).after responses responses.length =
        ⟨.stable target, next⟩ := by
      refine Machine.trace_invariant _ (I := (· = (⟨.stable target, next⟩ : ModeManager))) ?_
        (hcollects.trace_done hlast hall) hlast.lt_length
      intro m response hm
      rw [hm, respond_stable]
    rw [hend]
  · intro k i t
    refine (hcollects.exactly_once hlast hall (· = .ok (some (.transitionComplete i t)))
      (fun _ hb => hb _) (· = ⟨.stable target, next⟩) rfl fun m response hm => ?_).trans ?_
    · rw [hm, respond_stable]
      exact ⟨rfl, nofun⟩
    · exact and_congr_right fun _ =>
        ⟨fun h => by cases h; exact ⟨rfl, rfl⟩, fun ⟨hi, ht⟩ => by rw [hi, ht]⟩

/-- A participant rejects the transition only when everybody is ready. -/
def RejectedLate (participants : List ApplicationId) (id : TransitionId)
    (responses : List Response) : Prop :=
  ∀ k (_ : k < responses.length), ∀ p ∈ participants, responses[k].rejects p id →
    ∀ q ∈ participants, .ready q id ∈ responses.take k

instance {participants : List ApplicationId} {responses : List Response} :
    Decidable (RejectedLate participants id responses) :=
  inferInstanceAs (Decidable (∀ k (_ : k < responses.length), ∀ p ∈ participants,
    responses[k].rejects p id → ∀ q ∈ participants, .ready q id ∈ responses.take k))

/-- What comes before the last participant is ready contains no rejection. -/
theorem RejectedLate.noRejection {participants : List ApplicationId}
    (h : RejectedLate participants id responses)
    (hlast : RollCall.LastMissing participants.toFinset (Response.ready · id) responses n) :
    ∀ response ∈ responses.take n, NoRejection participants.toFinset id response := by
  intro response hmem p hp hrej
  obtain ⟨k, hk, rfl⟩ := List.mem_take_iff_getElem.mp hmem
  have hready : RollCall.missing participants.toFinset (Response.ready · id) (responses.take k) =
      ∅ :=
    RollCall.missing_eq_empty.mpr fun q hq =>
      h k (by omega) p (List.mem_toFinset.mp hp) hrej q (List.mem_toFinset.mp hq)
  have hlt := hlast.missing_eq_empty_iff.mp hready
  omega

/-- **Votes are order-independent.**  From an accepted request on, whatever the responses and their
    order: if every participant becomes ready, and none rejects before, preparation ends once, with
    the last of them, in the state `decided`; and from there, if every participant commits, the
    transition completes once, with the last of them, and for good. -/
theorem votes_order_independent (m : ModeManager) (target : SystemMode)
    (participants : List ApplicationId) (id : TransitionId) (m₀ : ModeManager)
    (hreq : m.requestTransition target participants = (.ok id, m₀)) :
    let P := participants.toFinset
    let decided : ModeManager := ⟨.committing id m.currentMode target P ∅, m₀.nextTransitionId⟩
    (∀ responses, (∀ p ∈ participants, .ready p id ∈ responses) →
      RejectedLate participants id responses →
      ∃ n, RollCall.LastMissing P (Response.ready · id) responses n ∧
        m₀.after responses (n + 1) = decided ∧
        ∀ k i t, m₀.Returns responses k (.preparationComplete i t) ↔
          k = n ∧ i = id ∧ t = target) ∧
    ∀ responses, (∀ p ∈ participants, .committed p id target ∈ responses) →
      ∃ n, RollCall.LastMissing P (Response.committed · id target) responses n ∧
        (∀ k i t, decided.Returns responses k (.transitionComplete i t) ↔
          k = n ∧ i = id ∧ t = target) ∧
        (decided.after responses responses.length).state = .stable target := by
  intro P decided
  have hdecided : decided = committing id m.currentMode target m₀.nextTransitionId P P := by
    show (⟨_, _⟩ : ModeManager) = ⟨_, _⟩
    rw [Finset.sdiff_self]
  obtain ⟨hP, hm₀⟩ : P.Nonempty ∧
      m₀ = preparing id m.currentMode target m₀.nextTransitionId P P := by
    rcases requestTransition_cases m target participants with ⟨e, he⟩ | ⟨current, hs, -, hP, he⟩
    · rw [he] at hreq
      cases hreq
    · rw [he] at hreq
      cases hreq
      refine ⟨hP, ?_⟩
      unfold preparing currentMode
      rw [hs, Finset.sdiff_self]
  refine ⟨fun responses hready hlate => ?_, fun responses hcommitted => ?_⟩
  · obtain ⟨n, hlast⟩ := RollCall.exists_lastMissing ready_injective hP
      fun p hp => hready p (List.mem_toFinset.mp hp)
    rw [hm₀, hdecided]
    exact ⟨n, hlast, preparation_ends hlast (hlate.noRejection hlast)⟩
  · obtain ⟨n, hlast⟩ := RollCall.exists_lastMissing committed_injective hP
      fun p hp => hcommitted p (List.mem_toFinset.mp hp)
    rw [hdecided]
    exact ⟨n, hlast, (commitment_ends hlast).2, (commitment_ends hlast).1⟩

/-- Premature, repeated, foreign and stale responses, and a rejection that comes too late. -/
theorem votes_order_independent_demo :
    let navigation : ApplicationId := ⟨"navigation"⟩
    let guidance : ApplicationId := ⟨"guidance"⟩
    let telemetry : ApplicationId := ⟨"telemetry"⟩
    let P : Finset ApplicationId := [navigation, guidance, navigation].toFinset
    let requested : ModeManager := ⟨.preparing ⟨1⟩ .startup .standby P ∅, 2⟩
    let decided : ModeManager := ⟨.committing ⟨1⟩ .startup .standby P ∅, 2⟩
    let prepare : List Response := [.committed guidance ⟨1⟩ .standby, .ready guidance ⟨1⟩,
      .rejected navigation ⟨7⟩ "stale", .rejected telemetry ⟨1⟩ "foreign", .ready guidance ⟨1⟩,
      .ready navigation ⟨1⟩, .rejected guidance ⟨1⟩ "late"]
    let commit : List Response := [.committed navigation ⟨1⟩ .working,
      .committed navigation ⟨1⟩ .standby, .rejected guidance ⟨1⟩ "late",
      .committed guidance ⟨1⟩ .standby, .committed guidance ⟨1⟩ .standby]
    (∃ n, RollCall.LastMissing P (Response.ready · ⟨1⟩) prepare n ∧
        requested.after prepare (n + 1) = decided ∧
        ∀ k i t, requested.Returns prepare k (.preparationComplete i t) ↔
          k = n ∧ i = ⟨1⟩ ∧ t = .standby) ∧
      ∃ n, RollCall.LastMissing P (Response.committed · ⟨1⟩ .standby) commit n ∧
        (∀ k i t, decided.Returns commit k (.transitionComplete i t) ↔
          k = n ∧ i = ⟨1⟩ ∧ t = .standby) ∧
        (decided.after commit commit.length).state = .stable .standby := by
  intro navigation guidance telemetry P requested decided prepare commit
  obtain ⟨hprepare, hcommit⟩ := votes_order_independent (.new .startup) .standby
    [navigation, guidance, navigation] ⟨1⟩ requested (by decide)
  exact ⟨hprepare prepare (by decide) (by decide), hcommit commit (by decide)⟩

end ModeManager

end Sam
