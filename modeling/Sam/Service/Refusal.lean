import Sam.Service.History

/-!
# Refused messages and requests

* `refusal` — the error with which the manager refuses the vote a message carries.
* `heartbeat_cases`, `modeCommitted_cases` — everything these two handlers can do, with the answer.
* `handleMessage_settled` — where every client is known, a message that changes anything was
  answered `Ok` and its vote, if it is one, accepted; so nothing is left half-recorded by a later
  check of the same handler.
* `refused_unchanged` — in every reachable state, refused messages and requests change nothing.
-/

namespace Sam

namespace SamService

/-- The error of a call. -/
def errorOf {ε α : Type} : Except ε α → Option ε
  | .error e => some e
  | .ok _ => none

/-- The error with which the manager refuses the vote a message carries, if it does. -/
def refusal (s : SamService) : ApplicationToSam → Option ModeError
  | .modeReady application id => errorOf (s.inner.modes.applicationReady application id).1
  | .modeRejected application id reason =>
    errorOf (s.inner.modes.applicationRejected application id reason).1
  | .modeCommitted application id mode =>
    errorOf (s.inner.modes.applicationCommitted application id mode).1
  | .register _ _ | .heartbeat _ _ _ => none

/-- A call answered with an error, or a vote refused by the manager. -/
def Refused (s : SamService) (registered : ApplicationId) (connectionId : ConnectionId)
    (message : ApplicationToSam) (now : Instant) : Prop :=
  (∃ e, (s.handleMessage registered connectionId message now).1 = .error e) ∨
    ∃ e, s.refusal message = some e

variable {s : SamService} {a b : ApplicationId} {conn : ConnectionId} {now : Instant}

/-- The state is unchanged, or the call succeeded and the manager took the vote. -/
def Settled (s : SamService) (message : ApplicationToSam)
    (r : Except ServiceError Unit × SamService) : Prop :=
  r.2 = s ∨ r.1 = .ok () ∧ s.refusal message = none

theorem step_handleMessage (message : ApplicationToSam) :
    s.step (.handleMessage a conn message now) = (s.handleMessage a conn message now).2 := rfl

/-- A message on another connection than the current one is refused at once. -/
theorem handleMessage_unverified_eq {e : ServiceError}
    (hv : verifyConnection s.inner a conn = .error e)
    (message : ApplicationToSam) : s.handleMessage a conn message now = (.error e, s) :=
  (handleMessage_unverified s hv message now).1

variable {tx : Sender} (hc : s.inner.clients.lookup a = some ⟨conn, tx⟩)

include hc

variable (now) in
/-- Everything a heartbeat on the current connection can do. -/
theorem heartbeat_cases (health : HealthState) (mode : SystemMode) :
    (∃ e, s.handleMessage a conn (.heartbeat b health mode) now = (.error e, s)) ∨
    ∃ status, b = a ∧ s.inner.applications.get a = some status ∧
      s.handleMessage a conn (.heartbeat b health mode) now =
        (.ok (), (s.setInner (recalculateHealth
          { s.inner with
            applications := (s.inner.applications.updateHeartbeat a health mode now).2 }
          now)).announce s.inner.system.health) := by
  by_cases hab : b = a
  · subst hab
    unfold handleMessage
    simp only [verifyConnection_ok.mpr ⟨tx, hc⟩, verifyApplication_ok.mpr rfl]
    cases hr : s.inner.applications.get b with
    | none =>
      simp only [ApplicationRegistry.updateHeartbeat, ApplicationRegistry.modify_none hr]
      exact .inl ⟨_, rfl⟩
    | some status =>
      simp only [ApplicationRegistry.updateHeartbeat, ApplicationRegistry.modify_some hr,
        announce, setInner_inner]
      refine .inr ⟨status, trivial, rfl, ?_⟩
      split
      · rfl
      · rfl
  · exact .inl (handleMessage_foreign s (.heartbeat b health mode) hab conn now).1

/-- A heartbeat of a known client is accepted. -/
theorem heartbeat_ok {status : ApplicationStatus} (hr : s.inner.applications.get a = some status)
    (health : HealthState) (mode : SystemMode) :
    (s.handleMessage a conn (.heartbeat a health mode) now).1 = .ok () := by
  unfold handleMessage
  simp only [verifyConnection_ok.mpr ⟨tx, hc⟩, verifyApplication_ok.mpr rfl,
    ApplicationRegistry.updateHeartbeat, ApplicationRegistry.modify_some hr]
  split
  · rfl
  · rfl

theorem heartbeat_settled (health : HealthState) (mode : SystemMode) :
    s.Settled (.heartbeat b health mode)
      (s.handleMessage a conn (.heartbeat b health mode) now) := by
  rcases heartbeat_cases now hc (b := b) health mode with ⟨e, h⟩ | ⟨status, -, -, h⟩
  · rw [h]
    exact .inl rfl
  · rw [h]
    exact .inr ⟨rfl, rfl⟩

theorem modeReady_settled (id : TransitionId) :
    s.Settled (.modeReady a id) (s.handleMessage a conn (.modeReady a id) now) := by
  unfold handleMessage
  simp only [verifyConnection_ok.mpr ⟨tx, hc⟩, verifyApplication_ok.mpr rfl]
  rcases s.inner.modes.applicationReady_cases a id with
    ⟨e, -, h⟩ | ⟨current, target, W, R, -, -, ⟨-, h⟩ | ⟨-, h⟩⟩
  · -- an error of the manager leaves the manager as it was
    simp only [h]
    split
    · exact .inl rfl
    · exact .inl rfl
  · simp only [h]
    exact .inr ⟨rfl, by rw [refusal, h]; rfl⟩
  · simp only [h]
    exact .inr ⟨rfl, by rw [refusal, h]; rfl⟩

theorem modeRejected_settled (id : TransitionId) (reason : String) :
    s.Settled (.modeRejected a id reason)
      (s.handleMessage a conn (.modeRejected a id reason) now) := by
  unfold handleMessage
  simp only [verifyConnection_ok.mpr ⟨tx, hc⟩, verifyApplication_ok.mpr rfl]
  rcases s.inner.modes.applicationRejected_cases a id reason with
    ⟨e, -, h⟩ | ⟨current, target, W, R, -, -, h⟩
  · simp only [h]
    split
    · exact .inl rfl
    · exact .inl rfl
  · simp only [h]
    exact .inr ⟨rfl, by rw [refusal, h]; rfl⟩

variable (now) in
/-- Everything a `ModeCommitted` on the current connection of a known client can do: it is refused,
    or late, or a commit before the last one, or the last one. -/
theorem modeCommitted_cases (hk : Known s.inner) (id : TransitionId) (mode : SystemMode) :
    (∃ e, s.handleMessage a conn (.modeCommitted b id mode) now = (.error e, s)) ∨
    (b = a ∧ (∃ e, (s.inner.modes.applicationCommitted a id mode).1 = .error e) ∧
      s.handleMessage a conn (.modeCommitted b id mode) now = (.ok (), s)) ∨
    ∃ status previous W C, b = a ∧ s.inner.applications.get a = some status ∧
      s.inner.modes.state = .committing id previous mode W C ∧ a ∈ W ∧
      (W.erase a ≠ ∅ ∧ (s.inner.modes.applicationCommitted a id mode).1 = .ok none ∧
          s.handleMessage a conn (.modeCommitted b id mode) now =
            (.ok (), s.setInner
              { s.inner with
                modes := { s.inner.modes with
                  state := .committing id previous mode (W.erase a) (insert a C) }
                applications := (s.inner.applications.setMode a mode).2 }) ∨
        W.erase a = ∅ ∧
          (s.inner.modes.applicationCommitted a id mode).1 = .ok
            (some (.transitionComplete id mode)) ∧
          s.handleMessage a conn (.modeCommitted b id mode) now =
            (.ok (), (s.setInner (recalculateHealth
              { s.inner with
                modes := { s.inner.modes with state := .stable mode }
                applications := (s.inner.applications.setMode a mode).2
                system := { s.inner.system with mode := mode } } now)).broadcastState)) := by
  by_cases hab : b = a
  · subst hab
    unfold handleMessage
    -- the fallible step after the manager's cannot fail, as a client is known
    obtain ⟨status, hr⟩ := hk b _ hc
    simp only [verifyConnection_ok.mpr ⟨tx, hc⟩, verifyApplication_ok.mpr rfl]
    rcases s.inner.modes.applicationCommitted_cases b id mode with
      ⟨e, -, h⟩ | ⟨previous, W, C, hm, ha, ⟨hW, h⟩ | ⟨hW, h⟩⟩
    · simp only [h]
      split
      · exact .inr (.inl ⟨trivial, ⟨e, rfl⟩, rfl⟩)
      · exact .inl ⟨_, rfl⟩
    · simp only [h, ApplicationRegistry.setMode, ApplicationRegistry.modify_some hr]
      exact .inr (.inr ⟨status, previous, W, C, trivial, hr, hm, ha, .inr ⟨hW, trivial, rfl⟩⟩)
    · simp only [h, ApplicationRegistry.setMode, ApplicationRegistry.modify_some hr]
      exact .inr (.inr ⟨status, previous, W, C, trivial, hr, hm, ha, .inl ⟨hW, trivial, rfl⟩⟩)
  · exact .inl (handleMessage_foreign s (.modeCommitted b id mode) hab conn now).1

theorem modeCommitted_settled (hk : Known s.inner) (id : TransitionId) (mode : SystemMode) :
    s.Settled (.modeCommitted b id mode)
      (s.handleMessage a conn (.modeCommitted b id mode) now) := by
  rcases modeCommitted_cases now hc (b := b) hk id mode with
    ⟨e, h⟩ | ⟨-, -, h⟩ | ⟨status, previous, W, C, rfl, -, -, -, ⟨-, hok, h⟩ | ⟨-, hok, h⟩⟩
  · rw [h]
    exact .inl rfl
  · rw [h]
    exact .inl rfl
  · rw [h]
    exact .inr ⟨rfl, by rw [refusal, hok]; rfl⟩
  · rw [h]
    exact .inr ⟨rfl, by rw [refusal, hok]; rfl⟩

omit hc

/-- **A message either changes nothing or is accepted in full.** -/
theorem handleMessage_settled (hk : Known s.inner) (message : ApplicationToSam) :
    s.Settled message (s.handleMessage a conn message now) := by
  cases hv : verifyConnection s.inner a conn with
  | error e =>
    rw [handleMessage_unverified_eq hv]
    exact .inl rfl
  | ok =>
    obtain ⟨tx, hc⟩ := verifyConnection_ok.mp hv
    by_cases hown : message.application = a
    · subst hown
      cases message with
      | register b version =>
        obtain ⟨⟨e, he⟩, -⟩ := handleMessage_register s b b conn version now
        exact .inl (congrArg Prod.snd he)
      | heartbeat b health mode => exact heartbeat_settled hc health mode
      | modeReady b id => exact modeReady_settled hc id
      | modeRejected b id reason => exact modeRejected_settled hc id reason
      | modeCommitted b id mode => exact modeCommitted_settled hc hk id mode
    · obtain ⟨⟨e, he⟩, -⟩ := handleMessage_foreign s message hown conn now
      exact .inl (congrArg Prod.snd he)

theorem handleMessage_refused (hk : Known s.inner) {message : ApplicationToSam}
    (h : s.Refused a conn message now) : (s.handleMessage a conn message now).2 = s := by
  have hsettled : s.Settled message (s.handleMessage a conn message now) :=
    handleMessage_settled hk message
  rcases hsettled with hs | ⟨hok, hnone⟩
  · exact hs
  · rcases h with ⟨e, he⟩ | ⟨e, he⟩
    · rw [hok] at he
      cases he
    · rw [hnone] at he
      cases he

theorem requestMode_refused {target : SystemMode} {e : ServiceError}
    (h : (s.requestMode target).1 = .error e) : (s.requestMode target).2 = s := by
  unfold requestMode at h ⊢
  rcases s.inner.modes.requestTransition_cases target s.inner.clients.keys with
    ⟨e', hm⟩ | ⟨current, -, -, -, hm⟩
  · simp only [hm]
  · simp only [hm] at h
    cases h

end SamService

open SamService

/-- **Refused messages and requests are no-ops**: in every reachable state the service, its
    manager, its registry and every outbound queue are left exactly as they were. -/
theorem refused_unchanged (timeout : Duration) (channels : Channels) (ops : List Operation) :
    let s := (SamService.new timeout channels).run ops
    (∀ a conn message now, s.Refused a conn message now →
      (s.handleMessage a conn message now).2 = s) ∧
    ∀ target, (∃ e, (s.requestMode target).1 = .error e) → (s.requestMode target).2 = s := by
  intro s
  have hk := (service_refines timeout channels ops).1
  exact ⟨fun a conn message now h => handleMessage_refused hk h,
    fun target ⟨e, he⟩ => requestMode_refused he⟩

/-- A vote on a transition that is over is answered `Ok`, a request during another is not: neither
    changes anything. -/
theorem refused_unchanged_demo :
    let s := Demo.service.run [.register Demo.navigation ⟨0⟩ 0, .requestMode .standby,
      .handleMessage Demo.navigation ⟨1⟩ (.modeRejected Demo.navigation ⟨1⟩ "busy") 1,
      .requestMode .standby]
    let late := s.handleMessage Demo.navigation ⟨1⟩ (.modeReady Demo.navigation ⟨1⟩) 2
    late.1 = .ok () ∧ late.2 = s ∧ (s.requestMode .working).2 = s := by
  intro s late
  obtain ⟨hmessage, hrequest⟩ :=
    refused_unchanged 2000000000 (fun _ => Channel.new OUTBOUND_QUEUE_DEPTH)
      [.register Demo.navigation ⟨0⟩ 0, .requestMode .standby,
        .handleMessage Demo.navigation ⟨1⟩ (.modeRejected Demo.navigation ⟨1⟩ "busy") 1,
        .requestMode .standby]
  refine ⟨by decide, hmessage _ _ _ _ (.inr ⟨.staleTransition, by decide⟩), ?_⟩
  exact hrequest .working ⟨.mode "a mode transition is already in progress", by decide⟩

end Sam
