import Mathlib.Data.Finset.Card
import Sam.Service.Participants
import Sam.Service.Stream

/-!
# What a transition is waiting for

While a transition is in progress the manager waits for answers, and every answer it takes brings
the end of the transition nearer.

* `question?`, `waitingFor` — what the participants have been asked, and who has not answered yet;
  `AnsweredBy` — the answers.
* `awaited` — how many answers the transition still needs, confirmations of a commit that has not
  been ordered yet included.
* `awaited_step` — a transition in progress is left alone or comes nearer to its end.
* `answer_counts` — an answer that is waited for is never overlooked.
* `question_origin` — a question that is open has just been broadcast, or was open before.
-/

namespace Sam

open SamService

/-- A message answers a question put to `a`. -/
def SamToApplication.AnsweredBy (a : ApplicationId) : SamToApplication → ApplicationToSam → Prop
  | .prepareMode id _, .modeReady b id' => b = a ∧ id' = id
  | .prepareMode id _, .modeRejected b id' _ => b = a ∧ id' = id
  | .commitMode id mode, .modeCommitted b id' mode' => b = a ∧ id' = id ∧ mode' = mode
  | _, _ => False

/-- A refusal to prepare. -/
def ApplicationToSam.IsRejection : ApplicationToSam → Prop
  | .modeRejected _ _ _ => True
  | _ => False

/-- The operations that put a question. -/
def Operation.Asks : Operation → Prop
  | .handleMessage _ _ _ _ | .requestMode _ => True
  | _ => False

namespace ModeManagerState

/-- What the participants of the transition in progress have been asked. -/
def question? : ModeManagerState → Option SamToApplication
  | .stable _ => none
  | .preparing id _ target _ _ => some (.prepareMode id target)
  | .committing id _ target _ _ => some (.commitMode id target)

/-- The participants who have not answered yet. -/
def waitingFor : ModeManagerState → Finset ApplicationId
  | .stable _ => ∅
  | .preparing _ _ _ waitingFor _ => waitingFor
  | .committing _ _ _ waitingFor _ => waitingFor

/-- The mode the transition in progress leads to. -/
def target? : ModeManagerState → Option SystemMode
  | .stable _ => none
  | .preparing _ _ target _ _ => some target
  | .committing _ _ target _ _ => some target

/-- How many answers the transition in progress still needs. -/
def awaited : ModeManagerState → Nat
  | .stable _ => 0
  | .preparing _ _ _ waitingFor ready => 2 * waitingFor.card + ready.card
  | .committing _ _ _ waitingFor _ => waitingFor.card

theorem waitingFor_subset (phase : ModeManagerState) : phase.waitingFor ⊆ phase.participants := by
  cases phase with
  | stable => exact Finset.empty_subset _
  | preparing | committing => exact Finset.subset_union_left

end ModeManagerState

/-! ## The manager takes an answer it waits for -/

namespace ModeManager

variable {m : ModeManager} {a : ApplicationId} {id : TransitionId} {W R : Finset ApplicationId}

theorem applicationReady_ok {current target : SystemMode}
    (hs : m.state = .preparing id current target W R) (ha : a ∈ W) :
    ∃ event, (m.applicationReady a id).1 = .ok event := by
  unfold applicationReady
  rw [hs]
  dsimp only
  rw [if_neg (not_not.mpr rfl), if_neg (not_not.mpr ha)]
  split
  · exact ⟨_, rfl⟩
  · exact ⟨_, rfl⟩

theorem applicationRejected_ok {current target : SystemMode}
    (hs : m.state = .preparing id current target W R) (ha : a ∈ W) (reason : String) :
    ∃ event, (m.applicationRejected a id reason).1 = .ok event := by
  unfold applicationRejected
  rw [hs]
  dsimp only
  rw [if_neg (not_not.mpr rfl), if_neg (not_not.mpr (.inl ha))]
  exact ⟨_, rfl⟩

theorem applicationCommitted_ok {previous target : SystemMode}
    (hs : m.state = .committing id previous target W R) (ha : a ∈ W) :
    ∃ event, (m.applicationCommitted a id target).1 = .ok event := by
  unfold applicationCommitted
  rw [hs]
  dsimp only
  rw [if_neg (not_not.mpr rfl), if_neg (not_not.mpr rfl), if_neg (not_not.mpr ha)]
  split
  · exact ⟨_, rfl⟩
  · exact ⟨_, rfl⟩

end ModeManager

namespace SamService

variable {s s' : SamService} {op : Operation} {e : Option ProtocolEvent} {a : ApplicationId}
  {conn : ConnectionId} {tx : Sender} {now : Instant}

theorem question_of_inProgress (h : s.transitionInProgress = true) :
    ∃ q, s.inner.modes.state.question? = some q := by
  unfold transitionInProgress at h
  cases hs : s.inner.modes.state with
  | stable mode =>
    rw [hs] at h
    cases h
  | preparing id current target W R => exact ⟨_, rfl⟩
  | committing id previous target W C => exact ⟨_, rfl⟩

theorem inProgress_of_question {q : SamToApplication}
    (h : s.inner.modes.state.question? = some q) : s.transitionInProgress = true := by
  unfold transitionInProgress
  cases hs : s.inner.modes.state with
  | stable mode =>
    rw [hs] at h
    cases h
  | preparing | committing => rfl

/-- An answer taken brings the end nearer. -/
theorem awaited_vote {v : ProtocolEvent} (hk : Known s.inner) (he : Effect s op (some v) s')
    (hp : s.transitionInProgress = true) :
    s'.inner.modes.state.awaited < s.inner.modes.state.awaited := by
  cases he with
  | ready a conn tx id now hc current target W R hm ha =>
    rw [hm]
    have hleft := Finset.card_erase_add_one ha
    have hready := Finset.card_insert_le a R
    show 2 * (W.erase a).card + (insert a R).card < 2 * W.card + R.card
    omega
  | prepared a conn tx id now hc current target W R hm ha =>
    rw [hm]
    have hpos := Finset.card_pos.mpr ⟨a, ha⟩
    have hready := Finset.card_insert_le a R
    show (insert a R).card < 2 * W.card + R.card
    omega
  | rejected a conn tx id reason now hc current target W R hm ha =>
    rw [hm]
    show 0 < 2 * W.card + R.card
    rcases ha with ha | ha
    · have hpos := Finset.card_pos.mpr ⟨a, ha⟩
      omega
    · have hpos := Finset.card_pos.mpr ⟨a, ha⟩
      omega
  | committed a conn tx id mode now hc previous W C hm ha =>
    rw [hm]
    exact Finset.card_erase_lt_of_mem ha
  | completed a conn tx id mode now hc previous W C hm ha =>
    rw [hm]
    exact Finset.card_pos.mpr ⟨a, ha⟩
  | unrecorded a conn tx id mode now phase hc hr => exact absurd hr (hk.recorded hc)
  | requested target current hm =>
    unfold transitionInProgress at hp
    rw [hm] at hp
    cases hp

/-- **A transition in progress is left alone or comes nearer to its end.** -/
theorem awaited_step (hk : Known s.inner) (he : Effect s op e s')
    (hp : s.transitionInProgress = true) :
    s'.inner.modes.state = s.inner.modes.state ∨
      s'.inner.modes.state.awaited < s.inner.modes.state.awaited := by
  cases e with
  | none => exact .inl (congrArg ModeManager.state (none_frame he).1)
  | some v => exact .inr (awaited_vote hk he hp)

/-- An answer that is waited for is a vote. -/
theorem answer_event (now : Instant) {q : SamToApplication} {x : ApplicationToSam}
    (hc : s.inner.clients.lookup a = some ⟨conn, tx⟩)
    (hq : s.inner.modes.state.question? = some q) (ha : a ∈ s.inner.modes.state.waitingFor)
    (hx : q.AnsweredBy a x) : ∃ v, s.event (.handleMessage a conn x now) = some v := by
  unfold event
  simp only [verifyConnection_ok.mpr ⟨tx, hc⟩]
  cases hs : s.inner.modes.state with
  | stable mode =>
    rw [hs] at hq
    cases hq
  | preparing id current target W R =>
    rw [hs] at hq ha
    change a ∈ W at ha
    cases hq
    cases x with
    | modeReady b id' =>
      obtain ⟨rfl, rfl⟩ := hx
      obtain ⟨event, hok⟩ := ModeManager.applicationReady_ok hs ha
      exact ⟨.ready b id', by simp only [vote, verifyApplication_ok.mpr rfl, hok]⟩
    | modeRejected b id' reason =>
      obtain ⟨rfl, rfl⟩ := hx
      obtain ⟨event, hok⟩ := ModeManager.applicationRejected_ok hs ha reason
      exact ⟨.rejected b id', by simp only [vote, verifyApplication_ok.mpr rfl, hok]⟩
    | register | heartbeat | modeCommitted => cases hx
  | committing id previous target W C =>
    rw [hs] at hq ha
    change a ∈ W at ha
    cases hq
    cases x with
    | modeCommitted b id' mode =>
      obtain ⟨rfl, rfl, rfl⟩ := hx
      obtain ⟨event, hok⟩ := ModeManager.applicationCommitted_ok hs ha
      exact ⟨.committed b id' mode, by simp only [vote, verifyApplication_ok.mpr rfl, hok]⟩
    | register | heartbeat | modeReady | modeRejected => cases hx

/-- **An answer that is waited for counts**, when it comes from the current connection. -/
theorem answer_counts (now : Instant) {q : SamToApplication} {x : ApplicationToSam}
    (hk : Known s.inner)
    (hc : s.inner.clients.lookup a = some ⟨conn, tx⟩)
    (hq : s.inner.modes.state.question? = some q) (ha : a ∈ s.inner.modes.state.waitingFor)
    (hx : q.AnsweredBy a x) :
    (s.step (.handleMessage a conn x now)).inner.modes.state.awaited <
      s.inner.modes.state.awaited := by
  have he := step_effect s (.handleMessage a conn x now)
  obtain ⟨v, hv⟩ := answer_event now hc hq ha hx
  rw [hv] at he
  exact awaited_vote hk he (inProgress_of_question hq)

/-- Nobody is asked again for the answer just taken. -/
theorem answer_taken {q : SamToApplication} {x : ApplicationToSam} (hk : Known s.inner)
    (hc : s.inner.clients.lookup a = some ⟨conn, tx⟩)
    (hq : s.inner.modes.state.question? = some q) (ha : a ∈ s.inner.modes.state.waitingFor)
    (hx : q.AnsweredBy a x)
    (hq' : (s.step (.handleMessage a conn x now)).inner.modes.state.question? = some q) :
    a ∉ (s.step (.handleMessage a conn x now)).inner.modes.state.waitingFor := by
  have he := step_effect s (.handleMessage a conn x now)
  obtain ⟨v, hv⟩ := answer_event now hc hq ha hx
  rw [hv] at he
  generalize s.step (.handleMessage a conn x now) = s' at he hq'
  cases he with
  | ready | committed => exact Finset.notMem_erase _ _
  | prepared _ _ tx id _ _ current target W R hm =>
    rw [hm] at hq
    cases hq
    cases hq'
  | rejected | completed => cases hq'
  | unrecorded _ _ _ _ _ _ _ hlook hr => exact absurd hr (hk.recorded hlook)

/-- **Where a question comes from.**  It was open before, or this step has broadcast it. -/
theorem question_origin {q : SamToApplication} (hk : Known s.inner) (he : Effect s op e s')
    (hq : s'.inner.modes.state.question? = some q) (ha : a ∈ s'.inner.modes.state.waitingFor) :
    (s.inner.modes.state.question? = some q ∧ a ∈ s.inner.modes.state.waitingFor) ∨
      (op.Asks ∧ s'.broadcasts = s.broadcasts ++ [q]) := by
  cases he with
  | idle | registered | unregistered | disconnected | received | receiverDropped =>
    exact .inl ⟨hq, ha⟩
  | heartbeat | refreshed =>
    rw [announce_inner] at hq ha
    exact .inl ⟨hq, ha⟩
  | ready b conn tx id now hc current target W R hm =>
    rw [hm]
    exact .inl ⟨hq, Finset.mem_of_mem_erase ha⟩
  | prepared =>
    cases hq
    exact .inr ⟨trivial, rfl⟩
  | rejected | completed => cases hq
  | committed b conn tx id mode now hc previous W C hm =>
    rw [hm]
    exact .inl ⟨hq, Finset.mem_of_mem_erase ha⟩
  | unrecorded b conn tx id mode now phase hc hr => exact absurd hr (hk.recorded hc)
  | requested =>
    cases hq
    exact .inr ⟨trivial, rfl⟩

/-- A question that has just been broadcast is in the queue of each client with room. -/
theorem asked_queue {q : SamToApplication} (hown : Own s) (hop : op.Asks)
    (hb : (s.step op).broadcasts = s.broadcasts ++ [q])
    (hold : s.inner.clients.lookup a = some ⟨conn, tx⟩)
    (hc : (s.step op).inner.clients.lookup a = some ⟨conn, tx⟩) (hroom : (s.channels tx).HasRoom) :
    q ∈ ((s.step op).channels tx).queue := by
  have hfresh : s.Fresh op := by
    cases op with
    | handleMessage | requestMode => trivial
    | register | disconnect | refreshHealth | receive | dropReceiver => cases hop
  have hreceive : op ≠ .receive tx := by
    rintro rfl
    cases hop
  have hsent := (stream_step hown hfresh (hown.used a _ hold)).1
  have htold : s.told op = [q] := List.append_cancel_left ((told_spec s op).symm.trans hb)
  unfold kept at hsent
  rw [if_pos ⟨mem_outbounds.mpr ⟨a, conn, hc⟩, hroom⟩, htold] at hsent
  unfold Channel.sent at hsent
  rw [delivered_step hreceive, List.append_assoc] at hsent
  rw [List.append_cancel_left hsent]
  exact List.mem_append_right _ (List.mem_singleton_self q)

/-- Who takes part took part before, or is a client. -/
theorem participants_origin (hk : Known s.inner) (he : Effect s op e s')
    (ha : a ∈ s'.inner.modes.state.participants) :
    a ∈ s.inner.modes.state.participants ∨ a ∈ s.inner.clients.keys := by
  by_cases hreq : ∀ ev ∈ e.toList, ev.isRequest = false
  · rw [participants_step hk he hreq ha] at ha
    exact .inl ha
  · cases he with
    | requested =>
      refine .inr (List.mem_toFinset.mp ?_)
      exact (Finset.union_empty _).subset ha
    | idle | registered | unregistered | disconnected | heartbeat | refreshed | received
    | receiverDropped => exact absurd (fun _ h => by cases h) hreq
    | ready | prepared | rejected | committed | completed | unrecorded =>
      refine absurd (fun ev h => ?_) hreq
      rw [List.mem_singleton.mp h]
      rfl

/-- Without a rejection, a transition in progress stays in progress or arrives. -/
theorem target_step {m : SystemMode} (hk : Known s.inner) (he : Effect s op e s')
    (hop : ∀ a conn x now, op = .handleMessage a conn x now → ¬ x.IsRejection)
    (hm : s.inner.modes.state.target? = some m) :
    s'.inner.modes.state.target? = some m ∨ s'.inner.modes.state = .stable m := by
  cases he with
  | idle | registered | unregistered | disconnected | received | receiverDropped => exact .inl hm
  | heartbeat | refreshed =>
    rw [announce_inner]
    exact .inl hm
  | ready _ _ _ _ _ _ _ _ _ _ hs | prepared _ _ _ _ _ _ _ _ _ _ hs
  | committed _ _ _ _ _ _ _ _ _ _ hs =>
    rw [hs] at hm
    exact .inl hm
  | completed _ _ _ _ _ _ _ _ _ _ hs =>
    rw [hs] at hm
    cases hm
    exact .inr rfl
  | rejected a conn tx id reason now => exact absurd trivial (hop a conn _ now rfl)
  | unrecorded a conn tx id mode now phase hc hr => exact absurd hr (hk.recorded hc)
  | requested target current hs =>
    rw [hs] at hm
    cases hm

end SamService

end Sam
