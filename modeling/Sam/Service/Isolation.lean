import Sam.Service.Generations
import Sam.Service.Recompute

/-!
# A connection speaks only for itself

* `OwnMove` — what one application can do to the manager.
* `speaks_effect` — a message handled under `a` touches only `a`'s registry entry and the manager,
  by an own move of `a`.
* `Alike` — two services that differ only in `a`'s entry, the stored health and the channels.
* `Differ` — two runs that differ only in the contents of messages of `a` that are no accepted
  votes; `alike_run`: they stay alike as long as registrations are answered alike, which they are
  when each brings a channel of its own (`answered_of_fresh`).
* `reply_tells_apart` — a registration on a channel already in use is not answered alike.
-/

namespace Sam

/-- Everything `a` can do to the phase of the manager: approve, as the last one awaited or not,
    abort a transition it participates in, confirm, as the last one or not. -/
inductive OwnMove (a : ApplicationId) : ModeManagerState → ModeManagerState → Prop where
  | ready {id : TransitionId} {current target : SystemMode} {W R : Finset ApplicationId}
      (ha : a ∈ W) (hW : W.erase a ≠ ∅) :
      OwnMove a (.preparing id current target W R)
        (.preparing id current target (W.erase a) (insert a R))
  | prepared {id : TransitionId} {current target : SystemMode} {W R : Finset ApplicationId}
      (ha : a ∈ W) (hW : W.erase a = ∅) :
      OwnMove a (.preparing id current target W R) (.committing id current target (insert a R) ∅)
  | rejected {id : TransitionId} {current target : SystemMode} {W R : Finset ApplicationId}
      (ha : a ∈ W ∨ a ∈ R) :
      OwnMove a (.preparing id current target W R) (.stable current)
  | committed {id : TransitionId} {previous target : SystemMode} {W C : Finset ApplicationId}
      (ha : a ∈ W) (hW : W.erase a ≠ ∅) :
      OwnMove a (.committing id previous target W C)
        (.committing id previous target (W.erase a) (insert a C))
  | completed {id : TransitionId} {previous target : SystemMode} {W C : Finset ApplicationId}
      (ha : a ∈ W) (hW : W.erase a = ∅) :
      OwnMove a (.committing id previous target W C) (.stable target)

namespace SamService

/-- From `s` to `s'` nothing has changed but `a`'s entry and `a`'s part in the transition, and what
    follows from these: the mode, the health and what is queued. -/
structure Speaks (a : ApplicationId) (s s' : SamService) : Prop where
  registry : ∀ b, b ≠ a → s'.inner.applications.get b = s.inner.applications.get b
  clients : s'.inner.clients = s.inner.clients
  connectionIds : s'.inner.nextConnectionId = s.inner.nextConnectionId
  transitionIds : s'.inner.modes.nextTransitionId = s.inner.modes.nextTransitionId
  manager : s'.inner.modes.state = s.inner.modes.state ∨
    OwnMove a s.inner.modes.state s'.inner.modes.state

variable {s s' t : SamService} {a b : ApplicationId} {conn : ConnectionId}
  {message message' : ApplicationToSam} {now : Instant}

theorem get_modify_ne {r : ApplicationRegistry} (f : ApplicationStatus → ApplicationStatus)
    (h : b ≠ a) : (r.modify a f).2.get b = r.get b := by
  rw [ApplicationRegistry.get_modify, if_neg h]

/-- **A message handled under `a` speaks for `a` alone**, whatever it contains. -/
theorem speaks_effect (hk : Known s.inner) {e : Option ProtocolEvent}
    (he : Effect s (.handleMessage a conn message now) e s') : Speaks a s s' := by
  cases he with
  | idle => exact ⟨fun _ _ => rfl, rfl, rfl, rfl, .inl rfl⟩
  | heartbeat =>
    constructor
    all_goals rw [announce_inner]
    · exact fun b hb => get_modify_ne _ hb
    · rfl
    · rfl
    · rfl
    · exact .inl rfl
  | ready _ _ tx id _ hc current target W R hm ha hW =>
    refine ⟨fun _ _ => rfl, rfl, rfl, rfl, .inr ?_⟩
    rw [hm]
    exact .ready ha hW
  | prepared _ _ tx id _ hc current target W R hm ha hW =>
    refine ⟨fun _ _ => rfl, rfl, rfl, rfl, .inr ?_⟩
    rw [hm]
    exact .prepared ha hW
  | rejected _ _ tx id reason _ hc current target W R hm ha =>
    refine ⟨fun _ _ => rfl, rfl, rfl, rfl, .inr ?_⟩
    rw [hm]
    exact .rejected ha
  | committed _ _ tx id mode _ hc previous W C hm ha hW =>
    refine ⟨fun b hb => get_modify_ne _ hb, rfl, rfl, rfl, .inr ?_⟩
    rw [hm]
    exact .committed ha hW
  | completed _ _ tx id mode _ hc previous W C hm ha hW =>
    refine ⟨fun b hb => get_modify_ne _ hb, rfl, rfl, rfl, .inr ?_⟩
    rw [hm]
    exact .completed ha hW
  | unrecorded _ _ tx id mode _ phase hc hr =>
    exact absurd hr (hk.recorded hc)

/-! ## Two runs -/

/-- The two services differ at most in `a`'s entry, the mode and health stored, and the channels. -/
structure Alike (a : ApplicationId) (s t : SamService) : Prop where
  known : Known s.inner
  known' : Known t.inner
  registry : ∀ b, b ≠ a → t.inner.applications.get b = s.inner.applications.get b
  clients : t.inner.clients = s.inner.clients
  connectionIds : t.inner.nextConnectionId = s.inner.nextConnectionId
  modes : t.inner.modes = s.inner.modes

/-- A message of `a` that is no accepted vote leaves the service as it was, for everybody else. -/
theorem alike_silent (h : Alike a s t) (he : s.event (.handleMessage a conn message now) = none)
    (he' : t.event (.handleMessage a conn message' now) = none) :
    Alike a (s.step (.handleMessage a conn message now))
      (t.step (.handleMessage a conn message' now)) := by
  have hs := step_effect s (.handleMessage a conn message now)
  have ht := step_effect t (.handleMessage a conn message' now)
  have hspeaks := speaks_effect h.known hs
  have hspeaks' := speaks_effect h.known' ht
  refine ⟨known_step h.known hs, known_step h.known' ht, fun b hb => ?_, ?_, ?_, ?_⟩
  · rw [hspeaks'.registry b hb, hspeaks.registry b hb, h.registry b hb]
  · rw [hspeaks'.clients, hspeaks.clients, h.clients]
  · rw [hspeaks'.connectionIds, hspeaks.connectionIds, h.connectionIds]
  · rw [he] at hs
    rw [he'] at ht
    rw [(none_frame hs).1, (none_frame ht).1, h.modes]

/-- An update of the same entry in both registries. -/
theorem alike_modify {r r' : ApplicationRegistry} {c : ApplicationId}
    (h : ∀ b, b ≠ a → r'.get b = r.get b) (f : ApplicationStatus → ApplicationStatus) :
    ∀ b, b ≠ a → (r'.modify c f).2.get b = (r.modify c f).2.get b := by
  intro b hb
  rw [ApplicationRegistry.get_modify, ApplicationRegistry.get_modify]
  split
  · rename_i hbc
    rw [← hbc, h b hb]
  · exact h b hb

theorem Alike.verify (h : Alike a s t) (b : ApplicationId) (conn : ConnectionId) :
    verifyConnection t.inner b conn = verifyConnection s.inner b conn := by
  unfold verifyConnection
  rw [h.clients]

/-- The two services accept the same votes. -/
theorem Alike.event (h : Alike a s t) (b : ApplicationId) (conn : ConnectionId)
    (message : ApplicationToSam) (now : Instant) :
    t.event (.handleMessage b conn message now) = s.event (.handleMessage b conn message now) := by
  unfold SamService.event vote
  simp only [h.verify, h.modes]

/-- What a heartbeat on the current connection leaves. -/
theorem heartbeat_inner (hk : Known s.inner) {tx : Sender}
    (hc : s.inner.clients.lookup a = some ⟨conn, tx⟩) (health : HealthState) (mode : SystemMode)
    (now : Instant) :
    (s.step (.handleMessage a conn (.heartbeat a health mode) now)).inner =
      recalculateHealth
        { s.inner with
          applications := (s.inner.applications.updateHeartbeat a health mode now).2 } now := by
  obtain ⟨status, hr⟩ := hk a _ hc
  rcases heartbeat_cases now hc (b := a) health mode with ⟨e, h⟩ | ⟨-, -, -, h⟩
  · have hok : (s.handleMessage a conn (.heartbeat a health mode) now).1 = .ok () :=
      heartbeat_ok hc hr health mode
    rw [h] at hok
    cases hok
  · rw [step_handleMessage, h]
    exact announce_inner _ _

/-- A message that is no heartbeat and no accepted vote changes nothing at all. -/
theorem unchanged_of_silent (he : Effect s (.handleMessage b conn message now) none s')
    (hm : ∀ c health mode, message ≠ .heartbeat c health mode) : s' = s := by
  cases he with
  | idle => rfl
  | heartbeat => exact absurd rfl (hm _ _ _)

theorem alike_heartbeat (h : Alike a s t) (b c : ApplicationId) (conn : ConnectionId)
    (health : HealthState) (mode : SystemMode) (now : Instant) :
    Alike a (s.step (.handleMessage b conn (.heartbeat c health mode) now))
      (t.step (.handleMessage b conn (.heartbeat c health mode) now)) := by
  have hs := step_effect s (.handleMessage b conn (.heartbeat c health mode) now)
  have ht := step_effect t (.handleMessage b conn (.heartbeat c health mode) now)
  have hks := known_step h.known hs
  have hkt := known_step h.known' ht
  cases hv : verifyConnection s.inner b conn with
  | error e =>
    rw [step_handleMessage, step_handleMessage, handleMessage_unverified_eq hv,
      handleMessage_unverified_eq ((h.verify b conn).trans hv)]
    exact h
  | ok =>
    obtain ⟨tx, hc⟩ := verifyConnection_ok.mp hv
    have hc' : t.inner.clients.lookup b = some ⟨conn, tx⟩ := by rw [h.clients]; exact hc
    by_cases hcb : c = b
    · subst hcb
      have hi := heartbeat_inner h.known hc health mode now
      have hi' := heartbeat_inner h.known' hc' health mode now
      refine ⟨hks, hkt, ?_, ?_, ?_, ?_⟩
      all_goals rw [hi, hi']
      · exact alike_modify h.registry _
      · exact h.clients
      · exact h.connectionIds
      · exact h.modes
    · -- under another name it is refused in both
      rcases heartbeat_cases now hc (b := c) health mode with ⟨e, he⟩ | ⟨-, hcb', -, -⟩
      · rcases heartbeat_cases now hc' (b := c) health mode with
          ⟨e', he'⟩ | ⟨-, hcb', -, -⟩
        · rw [step_handleMessage, step_handleMessage, he, he']
          exact h
        · exact absurd hcb' hcb
      · exact absurd hcb' hcb

/-- An accepted vote moves both managers alike. -/
theorem alike_vote (h : Alike a s t) {b : ApplicationId} {e : ProtocolEvent} {t' : SamService}
    (hs : Effect s (.handleMessage b conn message now) (some e) s')
    (ht : Effect t (.handleMessage b conn message now) (some e) t') : Alike a s' t' := by
  have hks := known_step h.known hs
  have hkt := known_step h.known' ht
  have hmodes := h.modes
  cases hs with
  | ready _ _ tx id _ hc current target W R hm ha hW =>
    cases ht with
    | ready _ _ tx' _ _ hc' current' target' W' R' hm' ha' hW' =>
      rw [hmodes, hm] at hm'
      cases hm'
      refine ⟨hks, hkt, h.registry, h.clients, h.connectionIds, ?_⟩
      rw [setPhase_inner, setPhase_inner, hmodes]
    | prepared _ _ tx' _ _ hc' current' target' W' R' hm' ha' hW' =>
      rw [hmodes, hm] at hm'
      cases hm'
      exact absurd hW' hW
  | prepared _ _ tx id _ hc current target W R hm ha hW =>
    cases ht with
    | ready _ _ tx' _ _ hc' current' target' W' R' hm' ha' hW' =>
      rw [hmodes, hm] at hm'
      cases hm'
      exact absurd hW hW'
    | prepared _ _ tx' _ _ hc' current' target' W' R' hm' ha' hW' =>
      rw [hmodes, hm] at hm'
      cases hm'
      refine ⟨hks, hkt, h.registry, h.clients, h.connectionIds, ?_⟩
      rw [broadcast_inner, broadcast_inner, setPhase_inner, setPhase_inner, hmodes]
  | rejected _ _ tx id reason _ hc current target W R hm ha =>
    cases ht with
    | rejected _ _ tx' _ _ _ hc' current' target' W' R' hm' ha' =>
      rw [hmodes, hm] at hm'
      cases hm'
      refine ⟨hks, hkt, h.registry, h.clients, h.connectionIds, ?_⟩
      rw [broadcast_inner, broadcast_inner, setPhase_inner, setPhase_inner, hmodes]
  | committed _ _ tx id mode _ hc previous W C hm ha hW =>
    cases ht with
    | committed _ _ tx' _ _ _ hc' previous' W' C' hm' ha' hW' =>
      rw [hmodes, hm] at hm'
      cases hm'
      refine ⟨hks, hkt, alike_modify h.registry _, h.clients, h.connectionIds, ?_⟩
      rw [setInner_inner, setInner_inner, hmodes]
    | completed _ _ tx' _ _ _ hc' previous' W' C' hm' ha' hW' =>
      rw [hmodes, hm] at hm'
      cases hm'
      exact absurd hW' hW
    | unrecorded _ _ tx' _ _ _ phase hc' hr' =>
      exact absurd hr' (h.known'.recorded hc')
  | completed _ _ tx id mode _ hc previous W C hm ha hW =>
    cases ht with
    | committed _ _ tx' _ _ _ hc' previous' W' C' hm' ha' hW' =>
      rw [hmodes, hm] at hm'
      cases hm'
      exact absurd hW hW'
    | completed _ _ tx' _ _ _ hc' previous' W' C' hm' ha' hW' =>
      rw [hmodes, hm] at hm'
      cases hm'
      refine ⟨hks, hkt, alike_modify h.registry _, h.clients, h.connectionIds, ?_⟩
      rw [broadcastState_inner, broadcastState_inner, setInner_inner, setInner_inner,
        recalculateHealth_modes, recalculateHealth_modes, hmodes]
    | unrecorded _ _ tx' _ _ _ phase hc' hr' =>
      exact absurd hr' (h.known'.recorded hc')
  | unrecorded _ _ tx id mode _ phase hc hr =>
    exact absurd hr (h.known.recorded hc)

/-- The same message of anyone, `a` included. -/
theorem alike_message (h : Alike a s t) (b : ApplicationId) (conn : ConnectionId)
    (message : ApplicationToSam) (now : Instant) :
    Alike a (s.step (.handleMessage b conn message now))
      (t.step (.handleMessage b conn message now)) := by
  by_cases hm : ∃ c health mode, message = .heartbeat c health mode
  · obtain ⟨c, health, mode, rfl⟩ := hm
    exact alike_heartbeat h b c conn health mode now
  · have hs := step_effect s (.handleMessage b conn message now)
    have ht := step_effect t (.handleMessage b conn message now)
    rw [h.event] at ht
    cases he : s.event (.handleMessage b conn message now) with
    | none =>
      rw [he] at hs ht
      have hm' : ∀ c health mode, message ≠ .heartbeat c health mode :=
        fun c health mode hmsg => hm ⟨c, health, mode, hmsg⟩
      rw [unchanged_of_silent hs hm', unchanged_of_silent ht hm']
      exact h
    | some e =>
      rw [he] at hs ht
      exact alike_vote h hs ht

/-- Registrations answered alike found room in both or in neither. -/
theorem room_iff_of_answer {b : ApplicationId} {tx : Sender}
    (hr : (t.register b tx now).1 = (s.register b tx now).1) :
    (t.channels tx).HasRoom ↔ (s.channels tx).HasRoom := by
  rw [register_answer, register_answer] at hr
  constructor
  · intro hroom
    by_contra hno
    rw [if_pos hroom, if_neg hno] at hr
    cases hr
  · intro hroom
    by_contra hno
    rw [if_pos hroom, if_neg hno] at hr
    cases hr

theorem alike_register (h : Alike a s t) (b : ApplicationId) (tx : Sender) (now : Instant)
    (hr : (t.register b tx now).1 = (s.register b tx now).1) :
    Alike a (s.step (.register b tx now)) (t.step (.register b tx now)) := by
  have hs := step_effect s (.register b tx now)
  have ht := step_effect t (.register b tx now)
  have hks := known_step h.known hs
  have hkt := known_step h.known' ht
  have hregistry : ∀ c, c ≠ a → (t.inner.enroll b now).applications.get c =
      (s.inner.enroll b now).applications.get c := by
    intro c hc
    unfold ServiceState.enroll
    rw [recalculateHealth_applications, recalculateHealth_applications,
      ApplicationRegistry.get_register, ApplicationRegistry.get_register, h.registry c hc]
  have hids : (t.inner.enroll b now).nextConnectionId =
      (s.inner.enroll b now).nextConnectionId := by
    show t.inner.nextConnectionId + 1 = s.inner.nextConnectionId + 1
    rw [h.connectionIds]
  generalize s.step (.register b tx now) = s', t.step (.register b tx now) = t' at hs ht hks hkt ⊢
  cases hs with
  | idle _ hop => cases hop
  | registered _ _ _ hroom =>
    cases ht with
    | idle _ hop => cases hop
    | registered =>
      refine ⟨hks, hkt, hregistry, ?_, hids, h.modes⟩
      show t.inner.clients.insert b _ = s.inner.clients.insert b _
      rw [h.clients, h.connectionIds]
    | unregistered _ _ _ hno => exact absurd ((room_iff_of_answer hr).mpr hroom) hno
  | unregistered _ _ _ hno =>
    cases ht with
    | idle _ hop => cases hop
    | registered _ _ _ hroom => exact absurd ((room_iff_of_answer hr).mp hroom) hno
    | unregistered => exact ⟨hks, hkt, hregistry, h.clients, hids, h.modes⟩

theorem alike_requestMode (h : Alike a s t) (target : SystemMode) :
    Alike a (s.step (.requestMode target)) (t.step (.requestMode target)) := by
  have hks := known_step h.known (step_effect s (.requestMode target))
  have hkt := known_step h.known' (step_effect t (.requestMode target))
  have hm := s.inner.modes.requestTransition_cases target s.inner.clients.keys
  unfold step requestMode at hks hkt ⊢
  rw [h.modes, h.clients] at hkt ⊢
  rcases hm with ⟨e, hm⟩ | ⟨current, -, -, -, hm⟩
  · simp only [hm] at hks hkt ⊢
    exact ⟨hks, hkt, h.registry, h.clients, h.connectionIds, rfl⟩
  · simp only [hm] at hks hkt ⊢
    exact ⟨hks, hkt, h.registry, h.clients, h.connectionIds, rfl⟩

theorem alike_refresh (h : Alike a s t) (now : Instant) :
    Alike a (s.step (.refreshHealth now)) (t.step (.refreshHealth now)) := by
  have hinner : ∀ u : SamService, (u.step (.refreshHealth now)).inner =
      recalculateHealth u.inner now := by
    intro u
    unfold step refreshHealth
    dsimp only
    split
    · rfl
    · rfl
  have hks := known_step h.known (step_effect s (.refreshHealth now))
  have hkt := known_step h.known' (step_effect t (.refreshHealth now))
  refine ⟨hks, hkt, ?_, ?_, ?_, ?_⟩
  all_goals rw [hinner, hinner]
  · exact h.registry
  · exact h.clients
  · exact h.connectionIds
  · exact h.modes

/-- The same operation, registrations being answered alike. -/
theorem alike_step (h : Alike a s t) (op : Operation)
    (hr : ∀ b tx now, op = .register b tx now →
      (t.register b tx now).1 = (s.register b tx now).1) :
    Alike a (s.step op) (t.step op) := by
  have hks := known_step h.known (step_effect s op)
  have hkt := known_step h.known' (step_effect t op)
  cases op with
  | register b tx now => exact alike_register h b tx now (hr b tx now rfl)
  | handleMessage b conn message now => exact alike_message h b conn message now
  | disconnect b conn now =>
    cases hv : verifyConnection s.inner b conn with
    | error e =>
      have hv' := (h.verify b conn).trans hv
      have hs : s.step (.disconnect b conn now) = s := congrArg Prod.snd (disconnect_stale hv now)
      have ht : t.step (.disconnect b conn now) = t := congrArg Prod.snd (disconnect_stale hv' now)
      rw [hs, ht]
      exact h
    | ok =>
      obtain ⟨tx, hc⟩ := verifyConnection_ok.mp hv
      have hc' : t.inner.clients.lookup b = some ⟨conn, tx⟩ := by rw [h.clients]; exact hc
      rw [disconnect_step hc, disconnect_step hc'] at *
      refine ⟨hks, hkt, alike_modify h.registry _, ?_, h.connectionIds, h.modes⟩
      show t.inner.clients.erase b = s.inner.clients.erase b
      rw [h.clients]
  | requestMode target => exact alike_requestMode h target
  | refreshHealth now => exact alike_refresh h now
  | receive tx => exact ⟨hks, hkt, h.registry, h.clients, h.connectionIds, h.modes⟩
  | dropReceiver tx => exact ⟨hks, hkt, h.registry, h.clients, h.connectionIds, h.modes⟩

/-! ## Runs -/

/-- Two runs, from `s` and from `t`, that differ only in the contents of messages of `a` that are no
    accepted votes. -/
inductive Differ (a : ApplicationId) :
    SamService → SamService → List Operation → List Operation → Prop where
  | nil (s t : SamService) : Differ a s t [] []
  | same {s t : SamService} {ops ops' : List Operation} (op : Operation)
      (h : Differ a (s.step op) (t.step op) ops ops') : Differ a s t (op :: ops) (op :: ops')
  | contents {s t : SamService} {ops ops' : List Operation} (conn : ConnectionId)
      (message message' : ApplicationToSam) (now : Instant)
      (he : s.event (.handleMessage a conn message now) = none)
      (he' : t.event (.handleMessage a conn message' now) = none)
      (h : Differ a (s.step (.handleMessage a conn message now))
        (t.step (.handleMessage a conn message' now)) ops ops') :
      Differ a s t (.handleMessage a conn message now :: ops)
        (.handleMessage a conn message' now :: ops')

/-- The registrations at the same positions of the two runs are answered alike. -/
def AnsweredAlike : SamService → SamService → List Operation → List Operation → Prop
  | s, t, op :: ops, op' :: ops' =>
    (∀ b tx now, op = .register b tx now → op' = .register b tx now →
      (t.register b tx now).1 = (s.register b tx now).1) ∧
    AnsweredAlike (s.step op) (t.step op') ops ops'
  | _, _, _, _ => True

theorem alike_run {ops ops' : List Operation} (hd : Differ a s t ops ops')
    (ha : AnsweredAlike s t ops ops') (h : Alike a s t) : Alike a (s.run ops) (t.run ops') := by
  induction hd with
  | nil => exact h
  | same op _ ih => exact ih ha.2 (alike_step h op fun b tx now hop => ha.1 b tx now hop hop)
  | contents conn message message' now he he' _ ih => exact ih ha.2 (alike_silent h he he')

/-! ## Channels of their own -/

/-- Every channel has the same capacity in both services, and its receiver is alive in both or in
    neither. -/
def SameEnds (s t : SamService) : Prop :=
  ∀ c, (t.channels c).capacity = (s.channels c).capacity ∧
    (t.channels c).receiverAlive = (s.channels c).receiverAlive

theorem ends_trySend (ch : Channel) (message : SamToApplication) :
    (ch.trySend message).2.capacity = ch.capacity ∧
      (ch.trySend message).2.receiverAlive = ch.receiverAlive := by
  by_cases hroom : ch.HasRoom
  · rw [Channel.trySend_room hroom]
    exact ⟨rfl, rfl⟩
  · obtain ⟨e, he⟩ := Channel.trySend_noRoom hroom message
    rw [he]
    exact ⟨rfl, rfl⟩

theorem ends_channels_trySend (channels : Channels) (tx c : Sender) (message : SamToApplication) :
    ((channels.trySend tx message).2 c).capacity = (channels c).capacity ∧
      ((channels.trySend tx message).2 c).receiverAlive = (channels c).receiverAlive := by
  by_cases h : c = tx
  · subst h
    rw [Channels.trySend_self]
    exact ends_trySend _ _
  · rw [Channels.trySend_ne h]
    exact ⟨rfl, rfl⟩

theorem ends_broadcastOn (channels : Channels) (txs : List Sender) (c : Sender)
    (message : SamToApplication) :
    ((channels.broadcastOn txs message) c).capacity = (channels c).capacity ∧
      ((channels.broadcastOn txs message) c).receiverAlive = (channels c).receiverAlive := by
  induction txs generalizing channels with
  | nil => exact ⟨rfl, rfl⟩
  | cons tx txs ih =>
    rw [Channels.broadcastOn_cons]
    obtain ⟨hc, ha⟩ := ends_channels_trySend channels tx c message
    exact ⟨(ih _).1.trans hc, (ih _).2.trans ha⟩

/-- Only the receiver itself changes an end of a channel, by going away. -/
theorem ends_step (s : SamService) (op : Operation) (c : Sender) :
    ((s.step op).channels c).capacity = (s.channels c).capacity ∧
      ((s.step op).channels c).receiverAlive =
        if op = .dropReceiver c then false else (s.channels c).receiverAlive := by
  by_cases hd : op = .dropReceiver c
  · subst hd
    rw [if_pos rfl]
    unfold step
    simp only [Function.update_self]
    exact ⟨rfl, rfl⟩
  rw [if_neg hd]
  cases step_traffic s op with
  | quiet _ _ hc =>
    rw [hc]
    exact ⟨rfl, rfl⟩
  | reply b tx now _ hc =>
    rw [hc]
    exact ends_channels_trySend _ _ _ _
  | broadcast _ _ message hop hm hc =>
    rw [hc]
    exact ends_broadcastOn _ _ _ _
  | receiver _ _ tx f hf hc hb hs hact =>
    rw [hc]
    by_cases h : c = tx
    · subst h
      rcases hact with ⟨-, rfl⟩ | ⟨rfl, -⟩
      · rw [Function.update_self]
        unfold Channel.recv
        split
        · exact ⟨rfl, rfl⟩
        · exact ⟨rfl, rfl⟩
      · exact absurd rfl hd
    · rw [Function.update_of_ne h]
      exact ⟨rfl, rfl⟩

theorem sameEnds_step (h : SameEnds s t) {op op' : Operation}
    (hd : ∀ c, op = .dropReceiver c ↔ op' = .dropReceiver c) :
    SameEnds (s.step op) (t.step op') := by
  intro c
  obtain ⟨hs, hs'⟩ := ends_step s op c
  obtain ⟨ht, ht'⟩ := ends_step t op' c
  rw [hs, hs', ht, ht', (h c).1, (h c).2]
  refine ⟨rfl, ?_⟩
  by_cases hop : op = .dropReceiver c
  · rw [if_pos hop, if_pos ((hd c).mp hop)]
  · rw [if_neg hop, if_neg (mt (hd c).mpr hop)]

/-- On a channel nobody has used a registration is answered alike. -/
theorem answer_of_fresh (h : Alike a s t) (hends : SameEnds s t) {b : ApplicationId} {tx : Sender}
    (hf : s.Fresh (.register b tx now)) (hf' : t.Fresh (.register b tx now)) :
    (t.register b tx now).1 = (s.register b tx now).1 := by
  have hqueue : ∀ ch : Channel, ch.sent = [] → ch.queue = [] := by
    intro ch hch
    exact (List.append_eq_nil_iff.mp hch).2
  have hroom : (t.channels tx).HasRoom ↔ (s.channels tx).HasRoom := by
    unfold Channel.HasRoom
    rw [hqueue _ hf.1, hqueue _ hf'.1, (hends tx).1, (hends tx).2]
  rw [register_answer, register_answer, h.connectionIds]
  by_cases hs : (s.channels tx).HasRoom
  · rw [if_pos hs, if_pos (hroom.mpr hs)]
  · rw [if_neg hs, if_neg (mt hroom.mp hs)]

/-- **Registrations that bring channels of their own are answered alike.** -/
theorem answered_of_fresh {ops ops' : List Operation} (hd : Differ a s t ops ops')
    (hf : Machine.Always step Fresh s ops) (hf' : Machine.Always step Fresh t ops')
    (h : Alike a s t) (hends : SameEnds s t) : AnsweredAlike s t ops ops' := by
  induction hd with
  | nil => trivial
  | @same s t ops ops' op _ ih =>
    have hanswer : ∀ b tx now, op = .register b tx now →
        (t.register b tx now).1 = (s.register b tx now).1 := by
      rintro b tx now rfl
      exact answer_of_fresh h hends hf.1 hf'.1
    refine ⟨fun b tx now hop _ => hanswer b tx now hop, ?_⟩
    exact ih hf.2 hf'.2 (alike_step h op hanswer) (sameEnds_step hends fun _ => Iff.rfl)
  | contents conn message message' now he he' _ ih =>
    refine ⟨fun _ _ _ hop => (by cases hop), ih hf.2 hf'.2 (alike_silent h he he') ?_⟩
    exact sameEnds_step hends fun c => ⟨fun hop => (by cases hop), fun hop => (by cases hop)⟩

/-- What a connection of `a` can do in the state `s`, and what later runs can show of it. -/
structure OwnVoice (s : SamService) (a : ApplicationId) : Prop where
  speaks : ∀ conn message now, Speaks a s (s.handleMessage a conn message now).2
  unseen : ∀ ops ops', Differ a s s ops ops' → AnsweredAlike s s ops ops' →
    (∀ b, b ≠ a → (s.run ops').inner.applications.get b = (s.run ops).inner.applications.get b) ∧
      (s.run ops').inner.modes = (s.run ops).inner.modes
  answered : ∀ ops ops', Differ a s s ops ops' → Machine.Always step Fresh s ops →
    Machine.Always step Fresh s ops' → AnsweredAlike s s ops ops'

end SamService

open SamService

/-- **A connection speaks only for itself**, in every reachable state: its messages reach nobody
    else's entry, and two runs that differ in them agree on everybody else and on the manager, as
    long as registrations are answered alike. -/
theorem own_voice (timeout : Duration) (channels : Channels) (ops : List Operation)
    (a : ApplicationId) : OwnVoice ((SamService.new timeout channels).run ops) a := by
  have hk := (service_refines timeout channels ops).1
  have halike : Alike a ((SamService.new timeout channels).run ops)
      ((SamService.new timeout channels).run ops) :=
    ⟨hk, hk, fun _ _ => rfl, rfl, rfl, rfl⟩
  refine ⟨fun conn message now => ?_, fun ops₁ ops₂ hd ha => ?_, fun ops₁ ops₂ hd hf hf' => ?_⟩
  · exact speaks_effect hk (step_effect _ (.handleMessage a conn message now))
  · have hrun := alike_run hd ha halike
    exact ⟨hrun.registry, hrun.modes⟩
  · exact answered_of_fresh hd hf hf' halike fun _ => ⟨rfl, rfl⟩

/-- Navigation says `Failed` in one run and nothing wrong in the other; guidance, which registers
    meanwhile on a new channel, has the same entry in both. -/
theorem own_voice_demo :
    let said (health : HealthState) : List Operation :=
      [.handleMessage Demo.navigation ⟨1⟩ (.heartbeat Demo.navigation health .startup) 1,
        .register Demo.guidance ⟨1⟩ 2]
    let s := Demo.service.run [.register Demo.navigation ⟨0⟩ 0]
    (s.run (said .failed)).inner.applications.get Demo.navigation ≠
        (s.run (said .healthy)).inner.applications.get Demo.navigation ∧
      (s.run (said .healthy)).inner.applications.get Demo.guidance =
        (s.run (said .failed)).inner.applications.get Demo.guidance := by
  intro said s
  have hvoice := own_voice 2000000000 (fun _ => Channel.new OUTBOUND_QUEUE_DEPTH)
    [.register Demo.navigation ⟨0⟩ 0] Demo.navigation
  have hdiffer : Differ Demo.navigation s s (said .failed) (said .healthy) :=
    .contents ⟨1⟩ _ _ 1 (by decide) (by decide) (.same _ (.nil _ _))
  have halike := hvoice.answered (said .failed) (said .healthy) hdiffer (by decide) (by decide)
  exact ⟨by decide, (hvoice.unseen _ _ hdiffer halike).1 Demo.guidance (by decide)⟩

/-- **A registration on a channel already in use tells two runs apart**: the broadcast of one
    application's failure fills the channel of another, whose new registration then fails, so that
    its old connection goes on. -/
theorem reply_tells_apart :
    ¬ ∀ (timeout : Duration) (channels : Channels) (ops : List Operation) (a : ApplicationId)
      (ops₁ ops₂ : List Operation),
      let s := (SamService.new timeout channels).run ops
      Differ a s s ops₁ ops₂ → ∀ b, b ≠ a →
        (s.run ops₂).inner.applications.get b = (s.run ops₁).inner.applications.get b := by
  intro h
  have hsame := h 2000000000 (fun _ => Channel.new 2)
    [.register Demo.navigation ⟨0⟩ 0, .register Demo.guidance ⟨1⟩ 0] Demo.navigation
    [.handleMessage Demo.navigation ⟨1⟩ (.heartbeat Demo.navigation .failed .startup) 1,
      .register Demo.guidance ⟨1⟩ 2,
      .handleMessage Demo.guidance ⟨2⟩ (.heartbeat Demo.guidance .degraded .startup) 3]
    [.handleMessage Demo.navigation ⟨1⟩ (.heartbeat Demo.navigation .healthy .startup) 1,
      .register Demo.guidance ⟨1⟩ 2,
      .handleMessage Demo.guidance ⟨2⟩ (.heartbeat Demo.guidance .degraded .startup) 3]
    (.contents ⟨1⟩ _ _ 1 (by decide) (by decide) (.same _ (.same _ (.nil _ _))))
    Demo.guidance (by decide)
  exact absurd hsame (by decide)

end Sam
