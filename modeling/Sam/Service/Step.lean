import Sam.Library.Machine
import Sam.Library.TwoPhase
import Sam.Service.Service

/-!
# Runs of `SamService`

* `Operation` — everything that can happen to the service: its own methods, with arbitrary
  arguments, and the two things a receiver does to a channel (take a message, go away).
* `step`, `run`, `event` — the state after an operation, after a list of them, and the protocol
  event the operation makes happen: a request that succeeds or a vote the manager accepts.
* `Effect` — the complete list of what an operation can do (`step_effect`); every invariant
  below is a case analysis of it and unfolds no method.
-/

namespace Sam

/-- One thing that happens to a service. -/
inductive Operation where
  | register (application : ApplicationId) (outbound : Sender) (now : Instant)
  | disconnect (application : ApplicationId) (connectionId : ConnectionId) (now : Instant)
  | handleMessage (registered : ApplicationId) (connectionId : ConnectionId)
      (message : ApplicationToSam) (now : Instant)
  | requestMode (target : SystemMode)
  | refreshHealth (now : Instant)
  | receive (outbound : Sender)
  | dropReceiver (outbound : Sender)
  deriving DecidableEq

/-- The operation is a registration. -/
def Operation.isRegister : Operation → Bool
  | .register _ _ _ => true
  | _ => false

abbrev ProtocolEvent := TwoPhase.Event TransitionId ApplicationId SystemMode

/-- The state after the first steps of `register`, before the reply is queued. -/
def ServiceState.enroll (state : ServiceState) (application : ApplicationId) (now : Instant) :
    ServiceState :=
  recalculateHealth
    { state with
      nextConnectionId := state.nextConnectionId + 1
      applications := state.applications.register application now } now

/-- The reply to a registration. -/
def ServiceState.welcome (state : ServiceState) : SamToApplication :=
  .registerAccepted PROTOCOL_VERSION state.system.mode state.system.health

namespace SamService

/-- The state after an operation. -/
def step (s : SamService) : Operation → SamService
  | .register application outbound now => (s.register application outbound now).2
  | .disconnect application connectionId now => (s.disconnect application connectionId now).2
  | .handleMessage registered connectionId message now =>
    (s.handleMessage registered connectionId message now).2
  | .requestMode target => (s.requestMode target).2
  | .refreshHealth now => (s.refreshHealth now).2
  | .receive tx => { s with channels := Function.update s.channels tx (s.channels tx).recv }
  | .dropReceiver tx =>
    { s with channels := Function.update s.channels tx (s.channels tx).dropReceiver }

/-- The state after a list of operations. -/
abbrev run (s : SamService) (ops : List Operation) : SamService := Machine.run step s ops

/-- The vote the manager accepts when `message` comes from the current connection of the
    application it names. -/
def vote (s : SamService) (registered : ApplicationId) : ApplicationToSam → Option ProtocolEvent
  | .modeReady application id =>
    match verifyApplication registered application,
      (s.inner.modes.applicationReady application id).1 with
    | .ok (), .ok _ => some (.ready application id)
    | _, _ => none
  | .modeRejected application id reason =>
    match verifyApplication registered application,
      (s.inner.modes.applicationRejected application id reason).1 with
    | .ok (), .ok _ => some (.rejected application id)
    | _, _ => none
  | .modeCommitted application id mode =>
    match verifyApplication registered application,
      (s.inner.modes.applicationCommitted application id mode).1 with
    | .ok (), .ok _ => some (.committed application id mode)
    | _, _ => none
  | _ => none

/-- The protocol event an operation makes happen: a successful request, with the applications
    connected at that moment, or an accepted vote. -/
def event (s : SamService) : Operation → Option ProtocolEvent
  | .requestMode target =>
    match (s.requestMode target).1 with
    | .ok id => some (.requested id target s.inner.clients.keys.toFinset)
    | .error _ => none
  | .handleMessage registered connectionId message _ =>
    match verifyConnection s.inner registered connectionId with
    | .ok () => s.vote registered message
    | .error _ => none
  | _ => none

/-- The protocol events of a run, in order. -/
abbrev eventLog (s : SamService) (ops : List Operation) : List ProtocolEvent :=
  Machine.log step (fun s op => (s.event op).toList) s ops

section Runs

variable (s : SamService) (ops ops' : List Operation) (op : Operation)

theorem run_cons : s.run (op :: ops) = (s.step op).run ops := rfl

theorem run_append : s.run (ops ++ ops') = (s.run ops).run ops' := Machine.run_append ..

theorem run_concat : s.run (ops ++ [op]) = (s.run ops).step op := Machine.run_concat ..

theorem eventLog_append : s.eventLog (ops ++ ops') = s.eventLog ops ++ (s.run ops).eventLog ops' :=
  Machine.log_append ..

theorem eventLog_concat :
    s.eventLog (ops ++ [op]) = s.eventLog ops ++ ((s.run ops).event op).toList :=
  Machine.log_concat ..

end Runs

/-- `broadcast_state` if the health is no longer `previous`. -/
def announce (s : SamService) (previous : HealthState) : SamService :=
  if previous ≠ s.inner.system.health then s.broadcastState else s

@[simp] theorem announce_inner (s : SamService) (previous : HealthState) :
    (s.announce previous).inner = s.inner := by unfold announce; split <;> rfl

/-- The service with another inner state. -/
def setInner (s : SamService) (state : ServiceState) : SamService := { s with inner := state }

/-- The service with the manager in another phase. -/
def setPhase (s : SamService) (phase : ModeManagerState) : SamService :=
  s.setInner { s.inner with modes := { s.inner.modes with state := phase } }

@[simp] theorem setInner_inner (s : SamService) (state : ServiceState) :
    (s.setInner state).inner = state := rfl

@[simp] theorem setInner_channels (s : SamService) (state : ServiceState) :
    (s.setInner state).channels = s.channels := rfl

@[simp] theorem setInner_broadcasts (s : SamService) (state : ServiceState) :
    (s.setInner state).broadcasts = s.broadcasts := rfl

@[simp] theorem setPhase_inner (s : SamService) (phase : ModeManagerState) :
    (s.setPhase phase).inner = { s.inner with modes := { s.inner.modes with state := phase } } :=
  rfl

@[simp] theorem setPhase_channels (s : SamService) (phase : ModeManagerState) :
    (s.setPhase phase).channels = s.channels := rfl

@[simp] theorem setPhase_broadcasts (s : SamService) (phase : ModeManagerState) :
    (s.setPhase phase).broadcasts = s.broadcasts := rfl

/-- **Everything an operation can do**: the operation, the event it makes happen and the state
    it leaves. -/
inductive Effect (s : SamService) : Operation → Option ProtocolEvent → SamService → Prop where
  | idle (op : Operation) (hop : op.isRegister = false) : Effect s op none s
  | registered (a : ApplicationId) (tx : Sender) (now : Instant)
      (hroom : (s.channels tx).HasRoom) :
      Effect s (.register a tx now) none
        { s with
          inner :=
            { s.inner.enroll a now with
              clients := s.inner.clients.insert a ⟨⟨s.inner.nextConnectionId⟩, tx⟩ }
          channels := (s.channels.trySend tx (s.inner.enroll a now).welcome).2 }
  | unregistered (a : ApplicationId) (tx : Sender) (now : Instant)
      (hroom : ¬ (s.channels tx).HasRoom) :
      Effect s (.register a tx now) none
        { s with
          inner := s.inner.enroll a now
          channels := (s.channels.trySend tx (s.inner.enroll a now).welcome).2 }
  | disconnected (a : ApplicationId) (conn : ConnectionId) (tx : Sender) (now : Instant)
      (hc : s.inner.clients.lookup a = some ⟨conn, tx⟩) :
      Effect s (.disconnect a conn now) none
        (s.setInner (recalculateHealth
          { s.inner with
            clients := s.inner.clients.erase a
            applications := (s.inner.applications.markDisconnected a).2 } now)).broadcastState
  | heartbeat (a : ApplicationId) (conn : ConnectionId) (tx : Sender) (health : HealthState)
      (mode : SystemMode) (now : Instant) (hc : s.inner.clients.lookup a = some ⟨conn, tx⟩)
      (status : ApplicationStatus) (hr : s.inner.applications.get a = some status) :
      Effect s (.handleMessage a conn (.heartbeat a health mode) now) none
        ((s.setInner (recalculateHealth
          { s.inner with
            applications := (s.inner.applications.updateHeartbeat a health mode now).2 }
          now)).announce s.inner.system.health)
  | ready (a : ApplicationId) (conn : ConnectionId) (tx : Sender) (id : TransitionId)
      (now : Instant) (hc : s.inner.clients.lookup a = some ⟨conn, tx⟩)
      (current target : SystemMode) (W R : Finset ApplicationId)
      (hm : s.inner.modes.state = .preparing id current target W R) (ha : a ∈ W)
      (hW : W.erase a ≠ ∅) :
      Effect s (.handleMessage a conn (.modeReady a id) now) (some (.ready a id))
        (s.setPhase (.preparing id current target (W.erase a) (insert a R)))
  | prepared (a : ApplicationId) (conn : ConnectionId) (tx : Sender) (id : TransitionId)
      (now : Instant) (hc : s.inner.clients.lookup a = some ⟨conn, tx⟩)
      (current target : SystemMode) (W R : Finset ApplicationId)
      (hm : s.inner.modes.state = .preparing id current target W R) (ha : a ∈ W)
      (hW : W.erase a = ∅) :
      Effect s (.handleMessage a conn (.modeReady a id) now) (some (.ready a id))
        ((s.setPhase (.committing id current target (insert a R) ∅)).broadcast
          (.commitMode id target))
  | rejected (a : ApplicationId) (conn : ConnectionId) (tx : Sender) (id : TransitionId)
      (reason : String) (now : Instant) (hc : s.inner.clients.lookup a = some ⟨conn, tx⟩)
      (current target : SystemMode) (W R : Finset ApplicationId)
      (hm : s.inner.modes.state = .preparing id current target W R) (ha : a ∈ W ∨ a ∈ R) :
      Effect s (.handleMessage a conn (.modeRejected a id reason) now) (some (.rejected a id))
        ((s.setPhase (.stable current)).broadcast (.abortMode id))
  | committed (a : ApplicationId) (conn : ConnectionId) (tx : Sender) (id : TransitionId)
      (mode : SystemMode) (now : Instant) (hc : s.inner.clients.lookup a = some ⟨conn, tx⟩)
      (previous : SystemMode) (W C : Finset ApplicationId)
      (hm : s.inner.modes.state = .committing id previous mode W C) (ha : a ∈ W)
      (hW : W.erase a ≠ ∅) (status : ApplicationStatus)
      (hr : s.inner.applications.get a = some status) :
      Effect s (.handleMessage a conn (.modeCommitted a id mode) now) (some (.committed a id mode))
        (s.setInner
          { s.inner with
            modes := { s.inner.modes with
              state := .committing id previous mode (W.erase a) (insert a C) }
            applications := (s.inner.applications.setMode a mode).2 })
  | completed (a : ApplicationId) (conn : ConnectionId) (tx : Sender) (id : TransitionId)
      (mode : SystemMode) (now : Instant) (hc : s.inner.clients.lookup a = some ⟨conn, tx⟩)
      (previous : SystemMode) (W C : Finset ApplicationId)
      (hm : s.inner.modes.state = .committing id previous mode W C) (ha : a ∈ W)
      (hW : W.erase a = ∅) (status : ApplicationStatus)
      (hr : s.inner.applications.get a = some status) :
      Effect s (.handleMessage a conn (.modeCommitted a id mode) now) (some (.committed a id mode))
        (s.setInner (recalculateHealth
          { s.inner with
            modes := { s.inner.modes with state := .stable mode }
            applications := (s.inner.applications.setMode a mode).2
            system := { s.inner.system with mode := mode } } now)).broadcastState
  | unrecorded (a : ApplicationId) (conn : ConnectionId) (tx : Sender) (id : TransitionId)
      (mode : SystemMode) (now : Instant) (phase : ModeManagerState)
      (hc : s.inner.clients.lookup a = some ⟨conn, tx⟩) (hr : s.inner.applications.get a = none) :
      Effect s (.handleMessage a conn (.modeCommitted a id mode) now) (some (.committed a id mode))
        (s.setPhase phase)
  | requested (target current : SystemMode) (hm : s.inner.modes.state = .stable current)
      (hne : current ≠ target) (hP : s.inner.clients.keys.toFinset.Nonempty) :
      Effect s (.requestMode target)
        (some (.requested ⟨s.inner.modes.nextTransitionId⟩ target s.inner.clients.keys.toFinset))
        ((s.setInner
          { s.inner with
            modes :=
              ⟨.preparing ⟨s.inner.modes.nextTransitionId⟩ current target
                s.inner.clients.keys.toFinset ∅, s.inner.modes.nextTransitionId + 1⟩ }).broadcast
          (.prepareMode ⟨s.inner.modes.nextTransitionId⟩ target))
  | refreshed (now : Instant) :
      Effect s (.refreshHealth now) none
        ((s.setInner (recalculateHealth s.inner now)).announce s.inner.system.health)
  | received (tx : Sender) :
      Effect s (.receive tx) none
        { s with channels := Function.update s.channels tx (s.channels tx).recv }
  | receiverDropped (tx : Sender) :
      Effect s (.dropReceiver tx) none
        { s with channels := Function.update s.channels tx (s.channels tx).dropReceiver }

/-! ## Each method has its effects -/

variable (s : SamService)

theorem register_effect (a : ApplicationId) (tx : Sender) (now : Instant) :
    Effect s (.register a tx now) none (s.register a tx now).2 := by
  by_cases hroom : (s.channels tx).HasRoom
  · have h := Effect.registered (s := s) a tx now hroom
    simp only [Channels.trySend, Channel.trySend_room hroom] at h
    unfold register
    simp only [Channels.trySend, Channel.trySend_room hroom]
    exact h
  · have h := Effect.unregistered (s := s) a tx now hroom
    obtain ⟨e, he⟩ := Channel.trySend_noRoom hroom (s.inner.enroll a now).welcome
    simp only [Channels.trySend, he] at h
    unfold ServiceState.enroll ServiceState.welcome at he
    unfold register
    simp only [Channels.trySend, he]
    exact h

theorem disconnect_effect (a : ApplicationId) (conn : ConnectionId) (now : Instant) :
    Effect s (.disconnect a conn now) none (s.disconnect a conn now).2 := by
  unfold disconnect
  cases hl : s.inner.clients.lookup a with
  | none => exact .idle _ rfl
  | some client =>
    obtain ⟨id, tx⟩ := client
    by_cases hid : id = conn
    · subst hid
      simp only [Option.any_some, decide_true, Bool.not_true, Bool.false_eq_true, if_false]
      exact .disconnected a id tx now hl
    · simp only [Option.any_some, hid, decide_false, Bool.not_false, if_true]
      exact .idle _ rfl

theorem refreshHealth_effect (now : Instant) :
    Effect s (.refreshHealth now) none (s.refreshHealth now).2 := by
  have h := Effect.refreshed (s := s) now
  unfold announce at h
  unfold refreshHealth
  by_cases hp : s.inner.system.health ≠ (recalculateHealth s.inner now).system.health
  · rw [setInner_inner, if_pos hp] at h
    simp only [if_pos hp]
    exact h
  · rw [setInner_inner, if_neg hp] at h
    simp only [if_neg hp]
    exact h

theorem requestMode_effect (target : SystemMode) :
    Effect s (.requestMode target) (s.event (.requestMode target)) (s.requestMode target).2 := by
  unfold event requestMode
  rcases s.inner.modes.requestTransition_cases target s.inner.clients.keys with
    ⟨e, h⟩ | ⟨current, hm, hne, hP, h⟩
  · simp only [h]; exact .idle _ rfl
  · simp only [h]; exact .requested target current hm hne hP

/-- A message from a connection that is not the current one changes nothing and makes no event
    happen, -/
theorem handleMessage_unverified {a : ApplicationId} {conn : ConnectionId} {e : ServiceError}
    (h : verifyConnection s.inner a conn = .error e) (message : ApplicationToSam) (now : Instant) :
    s.handleMessage a conn message now = (.error e, s) ∧
      s.event (.handleMessage a conn message now) = none := by
  unfold event handleMessage
  simp only [h]
  exact ⟨trivial, trivial⟩

/-- nor does a second registration, -/
theorem handleMessage_register (a b : ApplicationId) (conn : ConnectionId) (version : UInt16)
    (now : Instant) :
    (∃ e, s.handleMessage a conn (.register b version) now = (.error e, s)) ∧
      s.event (.handleMessage a conn (.register b version) now) = none := by
  unfold event handleMessage
  cases hv : verifyConnection s.inner a conn with
  | error e =>
    simp only [hv]
    exact ⟨⟨e, rfl⟩, trivial⟩
  | ok =>
    simp only [hv]
    exact ⟨⟨_, rfl⟩, rfl⟩

/-- nor a message that names another application. -/
theorem handleMessage_foreign {a : ApplicationId} (message : ApplicationToSam)
    (h : message.application ≠ a) (conn : ConnectionId) (now : Instant) :
    (∃ e, s.handleMessage a conn message now = (.error e, s)) ∧
      s.event (.handleMessage a conn message now) = none := by
  have hforeign : verifyApplication a message.application =
      .error (.applicationMismatch a message.application) := if_neg (Ne.symm h)
  cases message with
  | register b version => exact handleMessage_register s a b conn version now
  | heartbeat | modeReady | modeRejected | modeCommitted =>
    unfold ApplicationToSam.application at hforeign
    unfold event handleMessage
    cases hv : verifyConnection s.inner a conn with
    | error e =>
      simp only [hv]
      exact ⟨⟨e, rfl⟩, trivial⟩
    | ok =>
      simp only [hv, vote, hforeign]
      exact ⟨⟨_, rfl⟩, trivial⟩

variable {s} {a : ApplicationId} {conn : ConnectionId} {tx : Sender} {now : Instant}

theorem refused_effect {message : ApplicationToSam}
    (h : (∃ e, s.handleMessage a conn message now = (.error e, s)) ∧
      s.event (.handleMessage a conn message now) = none) :
    Effect s (.handleMessage a conn message now) (s.event (.handleMessage a conn message now))
      (s.handleMessage a conn message now).2 := by
  obtain ⟨⟨e, he⟩, hevent⟩ := h
  rw [hevent, he]
  exact .idle _ rfl

theorem heartbeat_effect (hc : s.inner.clients.lookup a = some ⟨conn, tx⟩) (health : HealthState)
    (mode : SystemMode) :
    Effect s (.handleMessage a conn (.heartbeat a health mode) now)
      (s.event (.handleMessage a conn (.heartbeat a health mode) now))
      (s.handleMessage a conn (.heartbeat a health mode) now).2 := by
  have hv := verifyConnection_ok.mpr ⟨tx, hc⟩
  unfold event handleMessage
  simp only [hv, vote, verifyApplication_ok.mpr rfl]
  cases hr : s.inner.applications.get a with
  | none =>
    simp only [ApplicationRegistry.updateHeartbeat, ApplicationRegistry.modify_none hr]
    exact .idle _ rfl
  | some status =>
    have h := Effect.heartbeat (s := s) a conn tx health mode now hc status hr
    simp only [ApplicationRegistry.updateHeartbeat, ApplicationRegistry.modify_some hr,
      announce, setInner_inner] at h ⊢
    split at h <;> rename_i hp
    · rw [if_pos hp]; exact h
    · rw [if_neg hp]; exact h

theorem modeReady_effect (hc : s.inner.clients.lookup a = some ⟨conn, tx⟩) (id : TransitionId) :
    Effect s (.handleMessage a conn (.modeReady a id) now)
      (s.event (.handleMessage a conn (.modeReady a id) now))
      (s.handleMessage a conn (.modeReady a id) now).2 := by
  have hv := verifyConnection_ok.mpr ⟨tx, hc⟩
  unfold event handleMessage
  simp only [hv, vote, verifyApplication_ok.mpr rfl]
  rcases s.inner.modes.applicationReady_cases a id with
    ⟨e, he, h⟩ | ⟨current, target, W, R, hm, ha, ⟨hW, h⟩ | ⟨hW, h⟩⟩
  · have hlate : isLateTransitionResponse e = true := by rcases he with rfl | rfl | rfl <;> rfl
    simp only [h, hlate, if_true]; exact .idle _ rfl
  · simp only [h]; exact .prepared a conn tx id now hc current target W R hm ha hW
  · simp only [h]; exact .ready a conn tx id now hc current target W R hm ha hW

theorem modeRejected_effect (hc : s.inner.clients.lookup a = some ⟨conn, tx⟩) (id : TransitionId)
    (reason : String) :
    Effect s (.handleMessage a conn (.modeRejected a id reason) now)
      (s.event (.handleMessage a conn (.modeRejected a id reason) now))
      (s.handleMessage a conn (.modeRejected a id reason) now).2 := by
  have hv := verifyConnection_ok.mpr ⟨tx, hc⟩
  unfold event handleMessage
  simp only [hv, vote, verifyApplication_ok.mpr rfl]
  rcases s.inner.modes.applicationRejected_cases a id reason with
    ⟨e, he, h⟩ | ⟨current, target, W, R, hm, ha, h⟩
  · have hlate : isLateTransitionResponse e = true := by rcases he with rfl | rfl | rfl <;> rfl
    simp only [h, hlate, if_true]; exact .idle _ rfl
  · simp only [h]; exact .rejected a conn tx id reason now hc current target W R hm ha

theorem modeCommitted_effect (hc : s.inner.clients.lookup a = some ⟨conn, tx⟩) (id : TransitionId)
    (mode : SystemMode) :
    Effect s (.handleMessage a conn (.modeCommitted a id mode) now)
      (s.event (.handleMessage a conn (.modeCommitted a id mode) now))
      (s.handleMessage a conn (.modeCommitted a id mode) now).2 := by
  have hv := verifyConnection_ok.mpr ⟨tx, hc⟩
  unfold event handleMessage
  simp only [hv, vote, verifyApplication_ok.mpr rfl]
  rcases s.inner.modes.applicationCommitted_cases a id mode with
    ⟨e, he, h⟩ | ⟨previous, W, C, hm, ha, hW⟩
  · simp only [h]
    split <;> exact .idle _ rfl
  · cases hr : s.inner.applications.get a with
    | none =>
      rcases hW with ⟨_, h⟩ | ⟨_, h⟩ <;>
        simp only [h, ApplicationRegistry.setMode, ApplicationRegistry.modify_none hr] <;>
        exact .unrecorded a conn tx id mode now _ hc hr
    | some status =>
      rcases hW with ⟨hW, h⟩ | ⟨hW, h⟩
      · have he :=
          Effect.completed (s := s) a conn tx id mode now hc previous W C hm ha hW status hr
        simp only [h, ApplicationRegistry.setMode, ApplicationRegistry.modify_some hr] at he ⊢
        exact he
      · have he :=
          Effect.committed (s := s) a conn tx id mode now hc previous W C hm ha hW status hr
        simp only [h, ApplicationRegistry.setMode, ApplicationRegistry.modify_some hr] at he ⊢
        exact he

/-- **Every step is one of the effects.** -/
theorem step_effect (s : SamService) (op : Operation) : Effect s op (s.event op) (s.step op) := by
  cases op with
  | register a tx now => exact register_effect s a tx now
  | disconnect a conn now => exact disconnect_effect s a conn now
  | requestMode target => exact requestMode_effect s target
  | refreshHealth now => exact refreshHealth_effect s now
  | receive tx => exact .received tx
  | dropReceiver tx => exact .receiverDropped tx
  | handleMessage a conn message now =>
    cases hv : verifyConnection s.inner a conn with
    | error e =>
      obtain ⟨he, hevent⟩ := handleMessage_unverified s hv message now
      exact refused_effect ⟨⟨e, he⟩, hevent⟩
    | ok u =>
      obtain ⟨tx, hc⟩ := verifyConnection_ok.mp hv
      by_cases hown : message.application = a
      · subst hown
        cases message with
        | register b version => exact refused_effect (handleMessage_register s b b conn version now)
        | heartbeat b health mode => exact heartbeat_effect hc health mode
        | modeReady b id => exact modeReady_effect hc id
        | modeRejected b id reason => exact modeRejected_effect hc id reason
        | modeCommitted b id mode => exact modeCommitted_effect hc id mode
      · exact refused_effect (handleMessage_foreign s message hown conn now)

/-! ## Where events come from -/

/-- A message of `a` in `a`'s own name, on the connection that is `a`'s current one. -/
def FromCurrent (s : SamService) (op : Operation) (a : ApplicationId) (message : ApplicationToSam) :
    Prop :=
  ∃ conn tx now, op = .handleMessage a conn message now ∧
    s.inner.clients.lookup a = some ⟨conn, tx⟩

variable {op : Operation} {id : TransitionId} {mode target : SystemMode} {P : Finset ApplicationId}

/-- A request event is a successful `request_mode`, with the clients as participants. -/
theorem event_requested (h : s.event op = some (.requested id target P)) :
    op = .requestMode target ∧ (s.requestMode target).1 = .ok id ∧
      P = s.inner.clients.keys.toFinset := by
  have he := step_effect s op
  rw [h] at he
  generalize s.step op = s' at he
  cases he
  simp only [event] at h
  cases hid : (s.requestMode target).1 with
  | error e => rw [hid] at h; cases h
  | ok id' =>
    rw [hid] at h
    simp only [Option.some.injEq, TwoPhase.Event.requested.injEq] at h
    exact ⟨rfl, by rw [h.1], rfl⟩

/-- Nothing but `request_mode` requests anything. -/
theorem event_isRequest {e : ProtocolEvent} (he : e ∈ (s.event op).toList)
    (hreq : e.isRequest = true) : ∃ target, op = .requestMode target := by
  cases e with
  | requested id target P => exact ⟨target, (event_requested (Option.mem_toList.mp he)).1⟩
  | ready | rejected | committed => cases hreq

/-- A request that is granted. -/
theorem granted_step (h : (s.requestMode target).1 = .ok id) :
    ∃ current, s.inner.modes.state = .stable current ∧ current ≠ target ∧
      s.inner.clients.keys.toFinset.Nonempty ∧ id = ⟨s.inner.modes.nextTransitionId⟩ ∧
      s.step (.requestMode target) =
        (s.setInner
          { s.inner with
            modes := ⟨.preparing id current target s.inner.clients.keys.toFinset ∅,
              s.inner.modes.nextTransitionId + 1⟩ }).broadcast (.prepareMode id target) := by
  unfold requestMode at h
  rcases s.inner.modes.requestTransition_cases target s.inner.clients.keys with
    ⟨e, he⟩ | ⟨current, hm, hne, hP, he⟩
  · simp only [he] at h; cases h
  · simp only [he] at h
    cases h
    refine ⟨current, hm, hne, hP, rfl, ?_⟩
    unfold step requestMode
    simp only [he]
    rfl

theorem event_ready (h : s.event op = some (.ready a id)) :
    s.FromCurrent op a (.modeReady a id) := by
  have he := step_effect s op
  rw [h] at he
  generalize s.step op = s' at he
  cases he with
  | ready _ conn tx _ now hc => exact ⟨conn, tx, now, rfl, hc⟩
  | prepared _ conn tx _ now hc => exact ⟨conn, tx, now, rfl, hc⟩

theorem event_rejected (h : s.event op = some (.rejected a id)) :
    ∃ reason, s.FromCurrent op a (.modeRejected a id reason) := by
  have he := step_effect s op
  rw [h] at he
  generalize s.step op = s' at he
  cases he with
  | rejected _ conn tx _ reason now hc => exact ⟨reason, conn, tx, now, rfl, hc⟩

theorem event_committed (h : s.event op = some (.committed a id mode)) :
    s.FromCurrent op a (.modeCommitted a id mode) := by
  have he := step_effect s op
  rw [h] at he
  generalize s.step op = s' at he
  cases he with
  | committed _ conn tx _ _ now hc => exact ⟨conn, tx, now, rfl, hc⟩
  | completed _ conn tx _ _ now hc => exact ⟨conn, tx, now, rfl, hc⟩
  | unrecorded _ conn tx _ _ now _ hc => exact ⟨conn, tx, now, rfl, hc⟩

end SamService

/-! ## A concrete service

The applications of the demonstration and the service of the tests, with channels of the size the
server makes. -/

/-- `OUTBOUND_QUEUE_DEPTH`. -/
def OUTBOUND_QUEUE_DEPTH : Nat := 32

namespace Demo

def navigation : ApplicationId := ⟨"navigation"⟩

def guidance : ApplicationId := ⟨"guidance"⟩

/-- A service just started, with a heartbeat timeout of two seconds. -/
def service : SamService := .new 2000000000 fun _ => Channel.new OUTBOUND_QUEUE_DEPTH

end Demo

end Sam
