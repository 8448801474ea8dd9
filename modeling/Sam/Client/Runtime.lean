import Sam.Protocol
import Sam.Transport.Frame

/-!
# The application's side (`sam-client/src/runtime.rs`)

`ApplicationRuntime` connects, registers, and answers SAM's messages through a `ModeHandler` the
application supplies.  A handler is a state `η` with the trait's methods; what a callback makes
of the outside world at one call, its answer included, is an argument of type `ω`.

* `registrationReceived` — what `run_session` makes of the first message on a connection.
* `messageReceived` — what its loop makes of every later one: the handler afterwards, the
  callback it ran for a transition, and the message to send or the error that ends the session.
* `answer_cases`, `call_order` — an answer is backed by a callback, and a callback by an order.
* `Disciplined`, `Obliging` — handlers whose mode is what they last committed, and handlers that
  always answer `Ok`; `recordingHandler`, the handler of the tests, is both.
-/

namespace Sam

variable {η ω : Type*}

/-- The `ModeHandler` trait. -/
structure ModeHandler (η ω : Type*) where
  health : ω → η → HealthState
  currentMode : η → SystemMode
  prepareMode : ω → SystemMode → η → Except String Unit × η
  commitMode : ω → SystemMode → η → Except String Unit × η
  synchronizeMode : ω → SystemMode → η → Except String Unit × η
  abortMode : ω → TransitionId → η → η
  systemStateChanged : ω → SystemMode → HealthState → η → η

/-- `ModeHandler::synchronize_mode`, where an application does not override it. -/
def ModeHandler.defaultSynchronizeMode (h : ModeHandler η ω) (w : ω)
    (authoritativeMode : SystemMode) (self : η) : Except String Unit × η :=
  if h.currentMode self = authoritativeMode then (.ok (), self) else
  match h.prepareMode w authoritativeMode self with
  | (.error reason, self) => (.error reason, self)
  | (.ok (), self) => h.commitMode w authoritativeMode self

/-- `RuntimeError`. -/
inductive RuntimeError where
  | transport (error : TransportError)
  | registrationTimeout
  | registrationRejected (supportedVersion : UInt16) (reason : String)
  | protocolVersionMismatch (received supported : UInt16)
  | unexpectedRegistrationResponse (message : SamToApplication)
  | connectionClosed
  | commitFailed (reason : String)
  | initialSynchronizationFailed (mode : SystemMode) (reason : String)
  deriving DecidableEq

/-- The errors on which `ApplicationRuntime::run` returns; after all others it connects again. -/
def RuntimeError.isPermanent : RuntimeError → Bool
  | .registrationRejected _ _ | .protocolVersionMismatch _ _
  | .initialSynchronizationFailed _ _ => true
  | _ => false

/-- A callback run in answer to an order, and whether it returned `Ok`. -/
inductive HandlerCall where
  | prepareMode (transitionId : TransitionId) (mode : SystemMode) (ok : Bool)
  | commitMode (transitionId : TransitionId) (mode : SystemMode) (ok : Bool)
  deriving DecidableEq, Repr

/-- The order a callback was run in answer to. -/
def HandlerCall.order : HandlerCall → SamToApplication
  | .prepareMode id mode _ => .prepareMode id mode
  | .commitMode id mode _ => .commitMode id mode

/-- What comes of one message in the loop of `run_session`. -/
structure Reaction (η : Type*) where
  handler : η
  call : Option HandlerCall
  result : Except RuntimeError (Option ApplicationToSam)

namespace ModeHandler

variable (h : ModeHandler η ω) (w : ω)

/-- `run_session` on the answer to its registration. -/
def registrationReceived (handler : η) : SamToApplication → Except RuntimeError Unit × η
  | .registerAccepted protocolVersion currentMode systemHealth =>
    if protocolVersion ≠ PROTOCOL_VERSION then
      (.error (.protocolVersionMismatch protocolVersion PROTOCOL_VERSION), handler)
    else
      let synchronized :=
        if h.currentMode handler ≠ currentMode then h.synchronizeMode w currentMode handler
        else (.ok (), handler)
      match synchronized with
      | (.error reason, handler) =>
        (.error (.initialSynchronizationFailed currentMode reason), handler)
      | (.ok (), handler) => (.ok (), h.systemStateChanged w currentMode systemHealth handler)
  | .registerRejected supportedProtocolVersion reason =>
    (.error (.registrationRejected supportedProtocolVersion reason), handler)
  | other => (.error (.unexpectedRegistrationResponse other), handler)

/-- The loop of `run_session` on an incoming message. -/
def messageReceived (application : ApplicationId) (handler : η) : SamToApplication → Reaction η
  | .prepareMode transitionId requestedMode =>
    match h.prepareMode w requestedMode handler with
    | (.ok (), handler) =>
      ⟨handler, some (.prepareMode transitionId requestedMode true),
        .ok (some (.modeReady application transitionId))⟩
    | (.error reason, handler) =>
      ⟨handler, some (.prepareMode transitionId requestedMode false),
        .ok (some (.modeRejected application transitionId reason))⟩
  | .commitMode transitionId mode =>
    match h.commitMode w mode handler with
    | (.ok (), handler) =>
      ⟨handler, some (.commitMode transitionId mode true),
        .ok (some (.modeCommitted application transitionId mode))⟩
    | (.error reason, handler) =>
      ⟨handler, some (.commitMode transitionId mode false), .error (.commitFailed reason)⟩
  | .abortMode transitionId => ⟨h.abortMode w transitionId handler, none, .ok none⟩
  | .stateBroadcast mode health => ⟨h.systemStateChanged w mode health handler, none, .ok none⟩
  | message => ⟨handler, none, .error (.unexpectedRegistrationResponse message)⟩

variable {h w} {a : ApplicationId} {self : η} {message : SamToApplication}

/-- A callback is run only in answer to an order. -/
theorem call_order {call : HandlerCall}
    (hc : (h.messageReceived w a self message).call = some call) :
    call.order = message := by
  unfold messageReceived at hc
  cases message with
  | prepareMode id mode => dsimp only at hc; split at hc <;> cases hc <;> rfl
  | commitMode id mode => dsimp only at hc; split at hc <;> cases hc <;> rfl
  | _ => cases hc

/-- Every answer is a vote of the application itself, and a favourable one is backed by the
    callback just run. -/
theorem answer_cases {answer : ApplicationToSam}
    (hr : (h.messageReceived w a self message).result = .ok (some answer)) :
    (∃ id mode, answer = .modeReady a id ∧
      (h.messageReceived w a self message).call = some (.prepareMode id mode true)) ∨
    (∃ id reason, answer = .modeRejected a id reason) ∨
    (∃ id mode, answer = .modeCommitted a id mode ∧
      (h.messageReceived w a self message).call = some (.commitMode id mode true)) := by
  unfold messageReceived at hr ⊢
  cases message with
  | prepareMode id mode =>
    dsimp only at hr ⊢
    split at hr
    · cases hr; exact .inl ⟨id, mode, rfl, rfl⟩
    · cases hr; exact .inr (.inl ⟨id, _, rfl⟩)
  | commitMode id mode =>
    dsimp only at hr ⊢
    split at hr
    · cases hr; exact .inr (.inr ⟨id, mode, rfl, rfl⟩)
    · cases hr
  | _ => cases hr

/-! ## Well-behaved handlers -/

/-- The handler synchronizes by default, and its mode is the one it last committed. -/
structure Disciplined (h : ModeHandler η ω) : Prop where
  synchronize : h.synchronizeMode = h.defaultSynchronizeMode
  prepare : ∀ w m self, h.currentMode (h.prepareMode w m self).2 = h.currentMode self
  commit : ∀ w m self, (h.commitMode w m self).1 = .ok () →
    h.currentMode (h.commitMode w m self).2 = m
  abort : ∀ w id self, h.currentMode (h.abortMode w id self) = h.currentMode self
  stateChanged : ∀ w m health self,
    h.currentMode (h.systemStateChanged w m health self) = h.currentMode self

/-- The handler always answers `Ok`. -/
structure Obliging (h : ModeHandler η ω) : Prop where
  prepare : ∀ w m self, (h.prepareMode w m self).1 = .ok ()
  commit : ∀ w m self, (h.commitMode w m self).1 = .ok ()

end ModeHandler

/-! ## The handler of the tests -/

/-- `RecordingHandler`. -/
structure RecordingHandler where
  stateChanges : List (SystemMode × HealthState)
  currentMode : SystemMode
  deriving DecidableEq

/-- `RecordingHandler::default`. -/
def RecordingHandler.default : RecordingHandler := ⟨[], .startup⟩

/-- The `ModeHandler` of a `RecordingHandler`. -/
def recordingHandler : ModeHandler RecordingHandler Unit where
  health _ _ := .healthy
  currentMode self := self.currentMode
  prepareMode _ _ self := (.ok (), self)
  commitMode _ mode self := (.ok (), { self with currentMode := mode })
  synchronizeMode _ mode self :=
    if self.currentMode = mode then (.ok (), self) else (.ok (), { self with currentMode := mode })
  abortMode _ _ self := self
  systemStateChanged _ mode health self :=
    { self with stateChanges := self.stateChanges ++ [(mode, health)] }

theorem recordingHandler_disciplined : recordingHandler.Disciplined where
  synchronize := rfl
  prepare _ _ _ := rfl
  commit _ _ _ _ := rfl
  abort _ _ _ := rfl
  stateChanged _ _ _ _ := rfl

theorem recordingHandler_obliging : recordingHandler.Obliging where
  prepare _ _ _ := rfl
  commit _ _ _ := rfl

end Sam
