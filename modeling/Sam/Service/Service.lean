import Sam.Core.Health
import Sam.Core.Mode
import Sam.Service.Channel

/-!
# `SamService` (`sam-service/src/service.rs`)

The shared state behind the mutex and every method of `SamService`, as functions from the
state before the call to its result and the state after it.  No code runs under the lock that
can panic, so `lock()` never fails and is left out; logging is left out.

A `SamService` value is the `ServiceState` together with the channels its senders refer to and
a history variable `broadcasts`, the messages handed to `broadcast` so far; nothing reads it.
`next_connection_id.wrapping_add(1)` is `UInt64` addition.
-/

namespace Sam

/-- `ConnectionId(u64)`. -/
structure ConnectionId where
  val : UInt64
  deriving DecidableEq, Repr

/-- Point-in-time view of one registered application. -/
structure ApplicationSnapshot where
  application : ApplicationId
  health : HealthState
  effectiveHealth : HealthState
  currentMode : SystemMode
  connected : Bool
  synchronized : Bool
  heartbeatAge : Duration
  deriving DecidableEq

inductive ServiceError where
  | stateUnavailable
  | staleConnection (application : ApplicationId)
  | applicationMismatch (expected actual : ApplicationId)
  | duplicateRegistration
  | mode (text : String)
  deriving DecidableEq, Repr

structure ClientConnection where
  id : ConnectionId
  outbound : Sender
  deriving DecidableEq

structure ServiceState where
  system : SystemState
  applications : ApplicationRegistry
  health : HealthManager
  modes : ModeManager
  clients : HashMap ApplicationId ClientConnection
  nextConnectionId : UInt64

/-- `verify_connection`. -/
def verifyConnection (state : ServiceState) (app : ApplicationId) (id : ConnectionId) :
    Except ServiceError Unit :=
  if (state.clients.lookup app).any (fun client => client.id = id) then .ok ()
  else .error (.staleConnection app)

/-- `verify_application`. -/
def verifyApplication (expected actual : ApplicationId) : Except ServiceError Unit :=
  if expected = actual then .ok () else .error (.applicationMismatch expected actual)

/-- `is_late_transition_response`. -/
def isLateTransitionResponse : ModeError → Bool
  | .invalidPhase | .staleTransition | .unknownParticipant _ => true
  | _ => false

/-- `recalculate_health`. -/
def recalculateHealth (state : ServiceState) (now : Instant) : ServiceState :=
  let reportedHealth := state.health.calculate state.applications now
  let modeMismatch := state.applications.iter.any fun (_, application) =>
    application.connected && application.currentMode != state.system.mode
  { state with system := { state.system with
      health :=
        if reportedHealth = .failed then .failed
        else if reportedHealth = .degraded ∨ modeMismatch then .degraded
        else .healthy } }

/-- `effective_application_health`. -/
def effectiveApplicationHealth (baseHealth : HealthState) (synchronized : Bool) : HealthState :=
  if baseHealth = .failed then .failed
  else if !synchronized || baseHealth = .degraded then .degraded
  else .healthy

/-- `SamService`: the locked state, the channels of its senders, and everything broadcast. -/
structure SamService where
  inner : ServiceState
  channels : Channels
  broadcasts : List SamToApplication

namespace SamService

/-- `SamService::new`; `channels` are the outbound channels its callers will make. -/
def new (heartbeatTimeout : Duration) (channels : Channels) : SamService where
  inner :=
    { system := .default
      applications := .empty
      health := ⟨heartbeatTimeout⟩
      modes := .new SystemState.default.mode
      clients := ∅
      nextConnectionId := 1 }
  channels := channels
  broadcasts := []

/-- The senders held in the client table. -/
def outbounds (s : SamService) : List Sender := s.inner.clients.entries.map (·.2.outbound)

/-- `broadcast`. -/
def broadcast (s : SamService) (message : SamToApplication) : SamService :=
  { s with
    channels := s.channels.broadcastOn s.outbounds message
    broadcasts := s.broadcasts ++ [message] }

/-- `broadcast_state`. -/
def broadcastState (s : SamService) : SamService :=
  s.broadcast (.stateBroadcast s.inner.system.mode s.inner.system.health)

/-- `SamService::register`. -/
def register (s : SamService) (application : ApplicationId) (outbound : Sender) (now : Instant) :
    Except ServiceError ConnectionId × SamService :=
  let id : ConnectionId := ⟨s.inner.nextConnectionId⟩
  let state := { s.inner with nextConnectionId := s.inner.nextConnectionId + 1 }
  let state := { state with applications := state.applications.register application now }
  let state := recalculateHealth state now
  match s.channels.trySend outbound
      (.registerAccepted PROTOCOL_VERSION state.system.mode state.system.health) with
  | (.error _, channels) =>
    (.error .stateUnavailable, { s with inner := state, channels := channels })
  | (.ok (), channels) =>
    let state := { state with clients := state.clients.insert application ⟨id, outbound⟩ }
    (.ok id, { s with inner := state, channels := channels })

/-- `SamService::disconnect`. -/
def disconnect (s : SamService) (application : ApplicationId) (connectionId : ConnectionId)
    (now : Instant) : Except ServiceError Unit × SamService :=
  let active := (s.inner.clients.lookup application).any (fun client => client.id = connectionId)
  if !active then (.ok (), s) else
  let state := { s.inner with clients := s.inner.clients.erase application }
  let state := { state with applications := (state.applications.markDisconnected application).2 }
  let state := recalculateHealth state now
  (.ok (), broadcastState { s with inner := state })

/-- `SamService::handle_message`. -/
def handleMessage (s : SamService) (registered : ApplicationId) (connectionId : ConnectionId)
    (message : ApplicationToSam) (now : Instant) : Except ServiceError Unit × SamService :=
  match verifyConnection s.inner registered connectionId with
  | .error e => (.error e, s)
  | .ok () =>
  match message with
  | .register _ _ => (.error .duplicateRegistration, s)
  | .heartbeat application health currentMode =>
    match verifyApplication registered application with
    | .error e => (.error e, s)
    | .ok () =>
    match s.inner.applications.updateHeartbeat application health currentMode now with
    | (.error error, applications) =>
      (.error (.mode error.text), { s with inner := { s.inner with applications := applications } })
    | (.ok (), applications) =>
      let previous := s.inner.system.health
      let state := recalculateHealth { s.inner with applications := applications } now
      let s := { s with inner := state }
      if previous ≠ state.system.health then (.ok (), s.broadcastState) else (.ok (), s)
  | .modeReady application transitionId =>
    match verifyApplication registered application with
    | .error e => (.error e, s)
    | .ok () =>
    match s.inner.modes.applicationReady application transitionId with
    | (.error error, modes) =>
      let s := { s with inner := { s.inner with modes := modes } }
      if isLateTransitionResponse error then (.ok (), s) else (.error (.mode error.text), s)
    | (.ok event, modes) =>
      let s := { s with inner := { s.inner with modes := modes } }
      match event with
      | some (.preparationComplete transitionId targetMode) =>
        (.ok (), s.broadcast (.commitMode transitionId targetMode))
      | _ => (.ok (), s)
  | .modeRejected application transitionId reason =>
    match verifyApplication registered application with
    | .error e => (.error e, s)
    | .ok () =>
    match s.inner.modes.applicationRejected application transitionId reason with
    | (.error error, modes) =>
      let s := { s with inner := { s.inner with modes := modes } }
      if isLateTransitionResponse error then (.ok (), s) else (.error (.mode error.text), s)
    | (.ok _, modes) =>
      let s := { s with inner := { s.inner with modes := modes } }
      (.ok (), s.broadcast (.abortMode transitionId))
  | .modeCommitted application transitionId mode =>
    match verifyApplication registered application with
    | .error e => (.error e, s)
    | .ok () =>
    match s.inner.modes.applicationCommitted application transitionId mode with
    | (.error error, modes) =>
      let s := { s with inner := { s.inner with modes := modes } }
      if isLateTransitionResponse error then (.ok (), s) else (.error (.mode error.text), s)
    | (.ok event, modes) =>
      let state := { s.inner with modes := modes }
      match state.applications.setMode application mode with
      | (.error error, applications) =>
        (.error (.mode error.text), { s with inner := { state with applications := applications } })
      | (.ok (), applications) =>
        let state := { state with applications := applications }
        match event with
        | some (.transitionComplete _ mode) =>
          let state := { state with system := { state.system with mode := mode } }
          let state := recalculateHealth state now
          (.ok (), broadcastState { s with inner := state })
        | _ => (.ok (), { s with inner := state })

/-- `SamService::request_mode`. -/
def requestMode (s : SamService) (target : SystemMode) :
    Except ServiceError TransitionId × SamService :=
  let participants := s.inner.clients.keys
  match s.inner.modes.requestTransition target participants with
  | (.error error, modes) =>
    (.error (.mode error.text), { s with inner := { s.inner with modes := modes } })
  | (.ok id, modes) =>
    (.ok id, broadcast { s with inner := { s.inner with modes := modes } } (.prepareMode id target))

/-- `SamService::snapshot`. -/
def snapshot (s : SamService) : SystemState := s.inner.system

/-- `SamService::transition_in_progress`. -/
def transitionInProgress (s : SamService) : Bool :=
  match s.inner.modes.state with
  | .stable _ => false
  | _ => true

/-- The row of one application in `SamService::applications`. -/
def applicationSnapshot (state : ServiceState) (now : Instant) (id : ApplicationId)
    (status : ApplicationStatus) : ApplicationSnapshot :=
  let synchronized := status.connected && status.currentMode = state.system.mode
  let baseHealth := state.health.calculateApplication status now
  { application := id
    health := status.health
    effectiveHealth := effectiveApplicationHealth baseHealth synchronized
    currentMode := status.currentMode
    connected := status.connected
    synchronized := synchronized
    heartbeatAge := now.saturatingDurationSince status.lastHeartbeat }

/-- `SamService::applications`: a row for each known application, sorted by id. -/
def applications (s : SamService) (now : Instant) : List ApplicationSnapshot :=
  (s.inner.applications.iter.map fun e => applicationSnapshot s.inner now e.1 e.2).mergeSort
    fun left right => decide (left.application.value ≤ right.application.value)

/-- `SamService::refresh_health`. -/
def refreshHealth (s : SamService) (now : Instant) : Except ServiceError Unit × SamService :=
  let previous := s.inner.system.health
  let state := recalculateHealth s.inner now
  let s := { s with inner := state }
  if previous ≠ state.system.health then (.ok (), s.broadcastState) else (.ok (), s)

/-! ## Fields left alone -/

variable {s : SamService} {message : SamToApplication}

@[simp] theorem broadcast_inner : (s.broadcast message).inner = s.inner := rfl

@[simp] theorem broadcast_broadcasts :
    (s.broadcast message).broadcasts = s.broadcasts ++ [message] := rfl

@[simp] theorem broadcast_channels :
    (s.broadcast message).channels = s.channels.broadcastOn s.outbounds message := rfl

@[simp] theorem broadcastState_inner : s.broadcastState.inner = s.inner := rfl

end SamService

variable {state : ServiceState} {now : Instant}

@[simp] theorem recalculateHealth_mode :
    (recalculateHealth state now).system.mode = state.system.mode := rfl

@[simp] theorem recalculateHealth_applications :
    (recalculateHealth state now).applications = state.applications := rfl

@[simp] theorem recalculateHealth_modes : (recalculateHealth state now).modes = state.modes := rfl

@[simp] theorem recalculateHealth_clients :
    (recalculateHealth state now).clients = state.clients := rfl

@[simp] theorem recalculateHealth_nextConnectionId :
    (recalculateHealth state now).nextConnectionId = state.nextConnectionId := rfl

@[simp] theorem recalculateHealth_health :
    (recalculateHealth state now).health = state.health := rfl

theorem verifyConnection_ok {app : ApplicationId} {id : ConnectionId} :
    verifyConnection state app id = .ok () ↔ ∃ tx, state.clients.lookup app = some ⟨id, tx⟩ := by
  unfold verifyConnection
  cases h : state.clients.lookup app with
  | none => simp
  | some client =>
    obtain ⟨i, tx⟩ := client
    by_cases hi : i = id <;> simp [hi]

theorem verifyApplication_ok {expected actual : ApplicationId} :
    verifyApplication expected actual = .ok () ↔ expected = actual := by
  unfold verifyApplication; split <;> simp_all

end Sam
