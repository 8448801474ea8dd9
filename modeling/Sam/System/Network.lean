import Sam.Client.Inbound
import Sam.Server.Session
import Sam.System.Seats
import Sam.Transport.Flow

/-!
# SAM and its applications, byte by byte

The same parties as in `System`, joined by byte streams.  What a session task has received and what
an application has are the states of their loops: `Session` on SAM's side, a registration and then
`RunningSession` on the other.

* `Network`, `NetworkInput`, `step` — one step of one task: bytes arrive, a future is polled, a
  callback returns, a write succeeds or fails after some of its bytes.
* `Undisturbed` — no session task drops a `receive` that holds part of a frame, as in `Session`;
  `Spares` — the one of connection `k` does not.

The bytes written to a connection whose reader is gone are dropped.
-/

namespace Sam

open SamService

variable {η ω : Type*}

/-- What the next poll of `receive` says. -/
def Session.next (codec : Codec ApplicationToSam) (s : Session) : Poll ApplicationToSam :=
  (poll codec DEFAULT_MAX_FRAME_SIZE s.closed s.receiving s.available).1

/-- More is written on the connection. -/
def Session.extend (s : Session) (bytes : List UInt8) : Session :=
  { s with unread := s.unread ++ bytes }

def RunningSession.extend (s : RunningSession η ω) (bytes : List UInt8) : RunningSession η ω :=
  { s with unread := s.unread ++ bytes }

/-- A connection on SAM's side: who opened it, the bytes coming in, and the session task. -/
structure Connection where
  owner : Option ApplicationId
  session : Session
  task : ServerTask

/-- Nobody has connected. -/
def Connection.unused : Connection := ⟨none, ⟨[], [], false, .start, [], none⟩, .awaiting⟩

/-- An application in `client.next_message()`, waiting for the answer to its registration. -/
structure Registering (η : Type*) where
  handler : η
  receiving : Receiving
  unread : List UInt8
  available : List UInt8
  closed : Bool

/-- Where `ApplicationRuntime::run` stands, with the bytes coming in. -/
inductive ClientTask (η ω : Type*) where
  | idle (handler : η)
  | registering (link : Nat) (registration : Registering η)
  | running (link : Nat) (session : RunningSession η ω)
  | stopped (handler : η)

namespace ClientTask

/-- The task without its bytes. -/
def client : ClientTask η ω → Client η
  | .idle handler => ⟨handler, .idle⟩
  | .registering k r => ⟨r.handler, .registering k⟩
  | .running k s => ⟨s.handler, .running k⟩
  | .stopped handler => ⟨handler, .stopped⟩

/-- The link in use. -/
def link? (task : ClientTask η ω) : Option Nat := task.client.session.link?

/-- `run_session` has returned this error. -/
def returned (handler : η) (error : RuntimeError) : ClientTask η ω :=
  if error.isPermanent then .stopped handler else .idle handler

/-- After a step of the loop. -/
def after (k : Nat) (s : RunningSession η ω) : ClientTask η ω :=
  match s.stopped with
  | none => .running k s
  | some stop => .returned s.handler stop.error

/-- Bytes are written on a link. -/
def receives (k : Nat) (bytes : List UInt8) : ClientTask η ω → ClientTask η ω
  | .registering k' r =>
    if k' = k then .registering k' { r with unread := r.unread ++ bytes } else .registering k' r
  | .running k' s => if k' = k then .running k' (s.extend bytes) else .running k' s
  | task => task

end ClientTask

/-- SAM and its applications. -/
structure Network (η ω : Type*) where
  service : SamService
  connections : Nat → Connection
  clients : ApplicationId → ClientTask η ω
  operations : List Operation
  calls : List CallRecord

/-- One step of one task, or of the connections between them. -/
inductive NetworkInput (η ω : Type*) where
  /-- `SamClient::connect` and `register` -/
  | connect (application : ApplicationId) (link : Nat) (result : WriteResult)
  /-- the application is started again with this handler -/
  | restart (application : ApplicationId) (handler : η)
  /-- `n` more bytes arrive at SAM -/
  | upArrive (link : Nat) (n : Nat)
  /-- the stream to SAM is closed -/
  | upClose (link : Nat)
  /-- `n` more bytes arrive at the application -/
  | downArrive (application : ApplicationId) (n : Nat)
  /-- the stream to the application is closed -/
  | downClose (application : ApplicationId)
  /-- the session task polls `receive`; a refusal is written with this result -/
  | serverPoll (link : Nat) (now : Instant) (result : WriteResult)
  /-- the session task takes an outbound message and writes it -/
  | serverSend (link : Nat) (result : WriteResult)
  /-- the session task finds its outbound channel closed -/
  | serverClosed (link : Nat)
  /-- the session task disconnects and returns -/
  | serverReturn (link : Nat) (now : Instant)
  /-- the registration timeout of the session task -/
  | serverTimeout (link : Nat)
  /-- the answer to the registration is polled for -/
  | clientPoll (application : ApplicationId) (world : ω)
  /-- the registration timeout of the application -/
  | clientTimeout (application : ApplicationId)
  /-- the task that receives is polled -/
  | clientRead (application : ApplicationId)
  /-- the loop takes a message -/
  | clientRecv (application : ApplicationId)
  /-- the callback returns, and its answer is written -/
  | clientCallback (application : ApplicationId) (world : ω) (result : WriteResult)
  /-- the heartbeat timer ticks -/
  | clientTick (application : ApplicationId) (world : ω) (result : WriteResult)
  | requestMode (target : SystemMode)
  | refreshHealth (now : Instant)

namespace Network

/-- Nobody has connected. -/
def new (heartbeatTimeout : Duration) (handlers : ApplicationId → η) : Network η ω where
  service := System.service₀ heartbeatTimeout
  connections := fun _ => .unused
  clients := fun a => .idle (handlers a)
  operations := []
  calls := []

/-- The service is made to do something. -/
def perform (b : Network η ω) (ops : List Operation) : Network η ω :=
  { b with service := b.service.run ops, operations := b.operations ++ ops }

def setConnection (b : Network η ω) (k : Nat) (connection : Connection) : Network η ω :=
  { b with connections := Function.update b.connections k connection }

def setClient (b : Network η ω) (a : ApplicationId) (task : ClientTask η ω) : Network η ω :=
  { b with clients := Function.update b.clients a task }

/-- A callback has been run, if any, and this answer written. -/
def recordCall (b : Network η ω) (a : ApplicationId) (k : Nat) (call : Option HandlerCall)
    (answer : Option ApplicationToSam) : Network η ω :=
  { b with calls := b.calls ++ call.toList.map (⟨a, k, ·, answer⟩) }

/-- A client writes these bytes. -/
def write (b : Network η ω) (k : Nat) (bytes : List UInt8) : Network η ω :=
  b.setConnection k { b.connections k with session := (b.connections k).session.extend bytes }

/-- A session task writes these bytes. -/
def deliver (b : Network η ω) (k : Nat) (bytes : List UInt8) : Network η ω :=
  match (b.connections k).owner with
  | some a => b.setClient a ((b.clients a).receives k bytes)
  | none => b

variable (codec : Codec ApplicationToSam) (samCodec : Codec SamToApplication)
  (handlers : ApplicationId → ModeHandler η ω)

/-- `SamClient::connect` and `register`. -/
def connect (b : Network η ω) (a : ApplicationId) (k : Nat) (result : WriteResult) : Network η ω :=
  match b.clients a, (b.connections k).owner with
  | .idle handler, none =>
    let (error, bytes) := sendBytes codec (.register a PROTOCOL_VERSION) result
    let b := b.setConnection k
      { b.connections k with owner := some a, session := (b.connections k).session.extend bytes }
    match error with
    | none => b.setClient a (.registering k ⟨handler, .start, [], [], false⟩)
    | some _ => b
  | _, _ => b

/-- `serve_connection` refuses the first message. -/
def refuse (b : Network η ω) (k : Nat) (reason : String) (result : WriteResult) : Network η ω :=
  let connection := b.connections k
  let (_, bytes) := sendBytes samCodec (.registerRejected PROTOCOL_VERSION reason) result
  (b.setConnection k
    { connection with
      session := connection.session.step codec (.incoming false), task := .ended }).deliver
      k bytes

/-- The session task has received `message`. -/
def serve (b : Network η ω) (k : Nat) (message : ApplicationToSam) (now : Instant)
    (result : WriteResult) : Network η ω :=
  let connection := b.connections k
  let accept (task : ServerTask) : Connection :=
    { connection with session := connection.session.step codec (.incoming true), task := task }
  let fail (task : ServerTask) : Connection :=
    { connection with session := connection.session.step codec (.incoming false), task := task }
  match connection.task with
  | .awaiting =>
    match message with
    | .register application protocolVersion =>
      if protocolVersion ≠ PROTOCOL_VERSION then
        b.refuse codec samCodec k ("unsupported protocol version " ++ toString
          protocolVersion.toNat) result
      else
        match (b.service.register application ⟨k⟩ now).1 with
        | .ok connectionId =>
          (b.perform [.register application ⟨k⟩ now]).setConnection k
            (accept (.registered application connectionId))
        | .error _ =>
          (b.perform [.register application ⟨k⟩ now, .dropReceiver ⟨k⟩]).setConnection k
            (fail .ended)
    | _ => b.refuse codec samCodec k "first message must be Register" result
  | .registered application connectionId =>
    match (b.service.handleMessage application connectionId message now).1 with
    | .ok () =>
      (b.perform [.handleMessage application connectionId message now]).setConnection k
        (accept (.registered application connectionId))
    | .error _ =>
      (b.perform [.handleMessage application connectionId message now]).setConnection k
        (fail (.closing application connectionId))
  | _ => b

/-- The session task polls `receive`. -/
def serverPoll (b : Network η ω) (k : Nat) (now : Instant) (result : WriteResult) : Network η ω :=
  let connection := b.connections k
  let session := connection.session.step codec (.incoming true)
  match connection.task, connection.session.next codec with
  | .awaiting, .pending _ | .registered _ _, .pending _ =>
    b.setConnection k { connection with session := session }
  | .awaiting, .ready (.error _) =>
    b.setConnection k { connection with session := session, task := .ended }
  | .registered application connectionId, .ready (.error _) =>
    b.setConnection k
      { connection with session := session, task := .closing application connectionId }
  | .awaiting, .ready (.ok message) | .registered _ _, .ready (.ok message) =>
    b.serve codec samCodec k message now result
  | _, _ => b

/-- The session task takes an outbound message and writes it; the pending `receive` is dropped. -/
def serverSend (b : Network η ω) (k : Nat) (result : WriteResult) : Network η ω :=
  let connection := b.connections k
  match connection.task, (b.service.channels ⟨k⟩).queue with
  | .registered application connectionId, message :: _ =>
    let (error, bytes) := sendBytes samCodec message result
    let task :=
      match error with
      | none => connection.task
      | some _ => .closing application connectionId
    let session := connection.session.step codec (.outgoing error.isNone)
    ((b.perform [.receive ⟨k⟩]).setConnection k
      { connection with session := session, task := task }).deliver k bytes
  | _, _ => b

/-- `recv` returns `None`: nothing is queued, and nobody holds a sender any more. -/
def serverClosed (b : Network η ω) (k : Nat) : Network η ω :=
  let connection := b.connections k
  match connection.task, (b.service.channels ⟨k⟩).queue with
  | .registered application connectionId, [] =>
    if ⟨k⟩ ∈ b.service.outbounds then b
    else b.setConnection k
      { connection with
        session := connection.session.step codec .outboundClosed
        task := .closing application connectionId }
  | _, _ => b

/-- `serve_connection` after its loop. -/
def serverReturn (b : Network η ω) (k : Nat) (now : Instant) : Network η ω :=
  let connection := b.connections k
  match connection.task with
  | .closing application connectionId =>
    (b.perform [.disconnect application connectionId now, .dropReceiver ⟨k⟩]).setConnection k
      { connection with task := .ended }
  | _ => b

/-- The answer to a registration is polled for. -/
def clientPoll (b : Network η ω) (a : ApplicationId) (world : ω) : Network η ω :=
  match b.clients a with
  | .registering k r =>
    match poll samCodec DEFAULT_MAX_FRAME_SIZE r.closed r.receiving r.available with
    | (.pending receiving, available) =>
      b.setClient a (.registering k { r with receiving := receiving, available := available })
    | (.ready (.error error), _) => b.setClient a (.returned r.handler (.transport error))
    | (.ready (.ok message), available) =>
      match (handlers a).registrationReceived world r.handler message with
      | (.ok (), handler) =>
        b.setClient a (.running k
          { RunningSession.start samCodec [] handler with
            unread := r.unread, available := available, closed := r.closed })
      | (.error error, handler) => b.setClient a (.returned handler error)
  | _ => b

/-- The loop of a client, or the task it has spawned, makes a step that writes nothing. -/
def clientStep (b : Network η ω) (a : ApplicationId) (input : RunningInput ω) : Network η ω :=
  match b.clients a with
  | .running k s => b.setClient a (.after k (s.step samCodec (handlers a) a input))
  | _ => b

/-- The callback returns. -/
def clientCallback (b : Network η ω) (a : ApplicationId) (world : ω) (result : WriteResult) :
    Network η ω :=
  match b.clients a with
  | .running k s =>
    match s.busy with
    | some message =>
      let r := (handlers a).messageReceived world a s.handler message
      match r.answer with
      | none =>
        (b.setClient a (.after k (s.step samCodec (handlers a) a
          (.callback world none)))).recordCall a k
          r.call none
      | some answer =>
        let (error, bytes) := sendBytes codec answer result
        let b := (b.write k bytes).setClient a
          (.after k (s.step samCodec (handlers a) a (.callback world error)))
        match error with
        | none => b.recordCall a k r.call (some answer)
        | some _ => b.recordCall a k r.call none
    | none => b
  | _ => b

/-- The heartbeat timer ticks; nobody looks while a callback runs. -/
def clientTick (b : Network η ω) (a : ApplicationId) (world : ω) (result : WriteResult) :
    Network η ω :=
  match b.clients a with
  | .running k s =>
    if s.busy.isSome then b
    else
      let (error, bytes) := sendBytes codec
        (.heartbeat a ((handlers a).health world s.handler) ((handlers a).currentMode s.handler))
          result
      (b.write k bytes).setClient a (.after k (s.step samCodec (handlers a) a (.tick world error)))
  | _ => b

/-- One step. -/
def step (b : Network η ω) : NetworkInput η ω → Network η ω
  | .connect a k result => b.connect codec a k result
  | .restart a handler => b.setClient a (.idle handler)
  | .upArrive k n =>
    b.setConnection k
      { b.connections k with session := (b.connections k).session.step codec (.arrive n) }
  | .upClose k =>
    b.setConnection k
      { b.connections k with session := (b.connections k).session.step codec .close }
  | .downArrive a n =>
    match b.clients a with
    | .registering k r =>
      if r.closed then b
      else b.setClient a (.registering k
        { r with available := r.available ++ r.unread.take n, unread := r.unread.drop n })
    | _ => b.clientStep samCodec handlers a (.arrive n)
  | .downClose a =>
    match b.clients a with
    | .registering k r => b.setClient a (.registering k { r with closed := true })
    | _ => b.clientStep samCodec handlers a .close
  | .serverPoll k now result => b.serverPoll codec samCodec k now result
  | .serverSend k result => b.serverSend codec samCodec k result
  | .serverClosed k => b.serverClosed codec k
  | .serverReturn k now => b.serverReturn k now
  | .serverTimeout k =>
    match (b.connections k).task with
    | .awaiting => b.setConnection k { b.connections k with task := .ended }
    | _ => b
  | .clientPoll a world => b.clientPoll samCodec handlers a world
  | .clientTimeout a =>
    match b.clients a with
    | .registering _ r => b.setClient a (.returned r.handler .registrationTimeout)
    | _ => b
  | .clientRead a => b.clientStep samCodec handlers a .read
  | .clientRecv a => b.clientStep samCodec handlers a .recv
  | .clientCallback a world result => b.clientCallback codec samCodec handlers a world result
  | .clientTick a world result => b.clientTick codec samCodec handlers a world result
  | .requestMode target => b.perform [.requestMode target]
  | .refreshHealth now => b.perform [.refreshHealth now]

/-- The state after a list of inputs. -/
abbrev run (b : Network η ω) (inputs : List (NetworkInput η ω)) : Network η ω :=
  Machine.run (step codec samCodec handlers) b inputs

/-- No outbound message is taken and sent while the pending `receive` holds part of a frame. -/
def Undisturbed (b : Network η ω) : NetworkInput η ω → Prop
  | .serverSend k .whole => (b.connections k).session.receiving = .start
  | _ => True

instance (b : Network η ω) (input : NetworkInput η ω) : Decidable (b.Undisturbed input) := by
  unfold Undisturbed; split <;> infer_instance

/-- It is not done on connection `k`. -/
def Spares (k : Nat) (b : Network η ω) : NetworkInput η ω → Prop
  | .serverSend k' .whole => k' = k → (b.connections k').session.receiving = .start
  | _ => True

instance (k : Nat) (b : Network η ω) (input : NetworkInput η ω) : Decidable (b.Spares k input) := by
  unfold Spares; split <;> infer_instance

theorem Undisturbed.spares {b : Network η ω} {input : NetworkInput η ω} (h : b.Undisturbed input)
    (k : Nat) : b.Spares k input := by
  unfold Spares
  split
  · exact fun _ => h
  · trivial

end Network

end Sam
