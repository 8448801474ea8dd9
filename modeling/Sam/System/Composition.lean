import Sam.Client.Runtime
import Sam.Service.Stream

/-!
# SAM and its applications

`SamService` with a session task for each connection (`serve_connection`, `server.rs`) and
applications that run `ApplicationRuntime`, joined by FIFO message queues in both directions.

* `Link` — one connection: the messages in flight each way and the session task serving it.
  Link `k` is served with outbound channel `⟨k⟩`.
* `Input`, `step` — one step of one party; who acts next, how callbacks answer, what fails and
  when is all in the input.
* `Move` — the complete list of what a step can do (`step_move`): a session task moves, a client
  moves or gives up its session, or SAM itself is called.

A connection that breaks before the `Register` is written leaves no trace and is left out.  A
link may break at any time, on either side, without the other noticing.
-/

namespace Sam

open SamService

variable {η ω : Type*}

/-- A task in `serve_connection`: before its first message, in `run_registered_session`, after
    that has returned but before `disconnect`, or gone. -/
inductive ServerTask where
  | awaiting
  | registered (application : ApplicationId) (connection : ConnectionId)
  | closing (application : ApplicationId) (connection : ConnectionId)
  | ended
  deriving DecidableEq

/-- One connection.  `owner` is the application that opened it; `taken` and `read` are history
    variables, the messages the session task and the client have received. -/
structure Link where
  owner : Option ApplicationId
  up : List ApplicationToSam
  down : List SamToApplication
  task : ServerTask
  taken : List ApplicationToSam
  read : List SamToApplication
  deriving DecidableEq

/-- A link nobody has opened. -/
def Link.unused : Link := ⟨none, [], [], .awaiting, [], []⟩

/-- Where `ApplicationRuntime::run` stands. -/
inductive ClientSession where
  | idle
  | registering (link : Nat)
  | running (link : Nat)
  | stopped
  deriving DecidableEq

structure Client (η : Type*) where
  handler : η
  session : ClientSession

/-- A callback run in answer to an order, on which link, and the answer written, if any. -/
structure CallRecord where
  application : ApplicationId
  link : Nat
  call : HandlerCall
  answer : Option ApplicationToSam
  deriving DecidableEq

/-- SAM and its applications.  `operations` and `calls` are history variables: everything SAM's
    service was made to do and every callback run for a transition. -/
structure System (η : Type*) where
  service : SamService
  links : Nat → Link
  clients : ApplicationId → Client η
  operations : List Operation
  calls : List CallRecord

/-- One step of one party. -/
inductive Input (η ω : Type*) where
  /-- `SamClient::connect` and `register` -/
  | connect (application : ApplicationId) (link : Nat)
  /-- the application is started again with this handler -/
  | restart (application : ApplicationId) (handler : η)
  /-- the session task receives a message -/
  | serverReceive (link : Nat) (now : Instant)
  /-- the session task takes an outbound message and writes it, with this result -/
  | serverSend (link : Nat) (written : Bool)
  /-- the session task returns -/
  | serverClose (link : Nat) (now : Instant)
  /-- the client takes a message, and its answer is written with this result -/
  | clientReceive (application : ApplicationId) (world : ω) (written : Bool)
  /-- the heartbeat timer ticks, and the heartbeat is written with this result -/
  | clientHeartbeat (application : ApplicationId) (world : ω) (written : Bool)
  /-- the connection fails, or the answer to the registration is late -/
  | clientClose (application : ApplicationId)
  | requestMode (target : SystemMode)
  | refreshHealth (now : Instant)

namespace System

/-- The service started by SAM. -/
def service₀ (heartbeatTimeout : Duration) : SamService :=
  .new heartbeatTimeout fun _ => Channel.new OUTBOUND_QUEUE_DEPTH

/-- Nobody has connected. -/
def new (heartbeatTimeout : Duration) (handlers : ApplicationId → η) : System η where
  service := service₀ heartbeatTimeout
  links := fun _ => .unused
  clients := fun a => ⟨handlers a, .idle⟩
  operations := []
  calls := []

/-- The service is made to do something. -/
def perform (s : System η) (ops : List Operation) : System η :=
  { s with service := s.service.run ops, operations := s.operations ++ ops }

def setLink (s : System η) (k : Nat) (link : Link) : System η :=
  { s with links := Function.update s.links k link }

def setClient (s : System η) (a : ApplicationId) (client : Client η) : System η :=
  { s with clients := Function.update s.clients a client }

/-- A callback has been run, if any, and this answer written. -/
def recordCall (s : System η) (a : ApplicationId) (k : Nat) (call : Option HandlerCall)
    (answer : Option ApplicationToSam) : System η :=
  { s with calls := s.calls ++ call.toList.map (⟨a, k, ·, answer⟩) }

end System

/-- The session task receives the first message in flight, leaving `up`. -/
def Link.take (link : Link) (message : ApplicationToSam) (up : List ApplicationToSam)
    (task : ServerTask) : Link :=
  { link with up := up, taken := link.taken ++ [message], task := task }

/-- The client receives the first message in flight, leaving `down`. -/
def Link.get (link : Link) (message : SamToApplication) (down : List SamToApplication) : Link :=
  { link with down := down, read := link.read ++ [message] }

/-- `serve_connection` refuses the first message. -/
def Link.refuse (link : Link) (message : ApplicationToSam) (up : List ApplicationToSam)
    (reason : String) : Link :=
  { link.take message up .ended with
    down := link.down ++ [.registerRejected PROTOCOL_VERSION reason] }

/-- The client writes a message. -/
def Link.write (link : Link) (message : ApplicationToSam) : Link :=
  { link with up := link.up ++ [message] }

/-- Everything the client has written to the link. -/
def Link.written (link : Link) : List ApplicationToSam := link.taken ++ link.up

/-- What `run` does when `run_session` returns an error. -/
def RuntimeError.next (error : RuntimeError) : ClientSession :=
  if error.isPermanent then .stopped else .idle

namespace System

/-- A session task receives a message. -/
def serverReceive (s : System η) (k : Nat) (now : Instant) : System η :=
  let link := s.links k
  match link.task, link.up with
  | .awaiting, .register application protocolVersion :: up =>
    let message := .register application protocolVersion
    if protocolVersion ≠ PROTOCOL_VERSION then
      s.setLink k
        (link.refuse message up ("unsupported protocol version " ++ toString protocolVersion.toNat))
    else
      match (s.service.register application ⟨k⟩ now).1 with
      | .ok connectionId =>
        (s.perform [.register application ⟨k⟩ now]).setLink k
          (link.take message up (.registered application connectionId))
      | .error _ =>
        (s.perform [.register application ⟨k⟩ now, .dropReceiver ⟨k⟩]).setLink k
          (link.take message up .ended)
  | .awaiting, message :: up =>
    s.setLink k (link.refuse message up "first message must be Register")
  | .registered application connectionId, message :: up =>
    let task :=
      match (s.service.handleMessage application connectionId message now).1 with
      | .ok () => .registered application connectionId
      | .error _ => .closing application connectionId
    (s.perform [.handleMessage application connectionId message now]).setLink k
      (link.take message up task)
  | _, _ => s

/-- A session task takes an outbound message and writes it. -/
def serverSend (s : System η) (k : Nat) (written : Bool) : System η :=
  let link := s.links k
  match link.task, (s.service.channels ⟨k⟩).queue with
  | .registered application connectionId, message :: _ =>
    (s.perform [.receive ⟨k⟩]).setLink k
      (if written then { link with down := link.down ++ [message] }
        else { link with task := .closing application connectionId })
  | _, _ => s

/-- A session task returns: its receiver is dropped, after `disconnect` if it had registered. -/
def serverClose (s : System η) (k : Nat) (now : Instant) : System η :=
  let link := s.links k
  match link.task with
  | .awaiting => s.setLink k { link with task := .ended }
  | .registered application connectionId | .closing application connectionId =>
    (s.perform [.disconnect application connectionId now, .dropReceiver ⟨k⟩]).setLink k
      { link with task := .ended }
  | .ended => s

/-- A client takes a message from its connection. -/
def clientReceive (handlers : ApplicationId → ModeHandler η ω) (s : System η) (a : ApplicationId)
    (world : ω) (written : Bool) : System η :=
  let client := s.clients a
  match client.session with
  | .registering k =>
    match (s.links k).down with
    | [] => s
    | message :: down =>
      let r := (handlers a).registrationReceived world client.handler message
      let session :=
        match r.1 with
        | .ok () => .running k
        | .error error => error.next
      (s.setLink k ((s.links k).get message down)).setClient a ⟨r.2, session⟩
  | .running k =>
    match (s.links k).down with
    | [] => s
    | message :: down =>
      let link := (s.links k).get message down
      let r := (handlers a).messageReceived world a client.handler message
      match r.result with
      | .ok none =>
        ((s.setLink k link).setClient a ⟨r.handler, .running k⟩).recordCall a k r.call none
      | .ok (some answer) =>
        if written then
          ((s.setLink k (link.write answer)).setClient a ⟨r.handler, .running k⟩).recordCall a k
            r.call (some answer)
        else ((s.setLink k link).setClient a ⟨r.handler, .idle⟩).recordCall a k r.call none
      | .error error =>
        ((s.setLink k link).setClient a ⟨r.handler, error.next⟩).recordCall a k r.call none
  | _ => s

/-- A client's heartbeat timer ticks. -/
def clientHeartbeat (handlers : ApplicationId → ModeHandler η ω) (s : System η)
    (a : ApplicationId) (world : ω) (written : Bool) : System η :=
  let client := s.clients a
  match client.session with
  | .running k =>
    if written then
      s.setLink k ((s.links k).write (.heartbeat a ((handlers a).health world client.handler)
        ((handlers a).currentMode client.handler)))
    else s.setClient a { client with session := .idle }
  | _ => s

/-- One step. -/
def step (handlers : ApplicationId → ModeHandler η ω) (s : System η) : Input η ω → System η
  | .connect a k =>
    match (s.clients a).session, (s.links k).owner with
    | .idle, none =>
      (s.setLink k
        { (s.links k).write (.register a PROTOCOL_VERSION) with owner := some a }).setClient
        a { s.clients a with session := .registering k }
    | _, _ => s
  | .restart a handler => s.setClient a ⟨handler, .idle⟩
  | .serverReceive k now => s.serverReceive k now
  | .serverSend k written => s.serverSend k written
  | .serverClose k now => s.serverClose k now
  | .clientReceive a world written => s.clientReceive handlers a world written
  | .clientHeartbeat a world written => s.clientHeartbeat handlers a world written
  | .clientClose a =>
    match (s.clients a).session with
    | .registering _ | .running _ => s.setClient a { s.clients a with session := .idle }
    | _ => s
  | .requestMode target => s.perform [.requestMode target]
  | .refreshHealth now => s.perform [.refreshHealth now]

/-- The state after a list of inputs. -/
abbrev run (handlers : ApplicationId → ModeHandler η ω) (s : System η) (inputs : List (Input η ω)) :
    System η := Machine.run (step handlers) s inputs

/-! ## Everything a step can do -/

/-- What the session task of link `k` can do: the operations it makes SAM perform and the link it
    leaves. -/
inductive ServerMove (s : System η) (k : Nat) : List Operation → Link → Prop where
  | refuse (message : ApplicationToSam) (up : List ApplicationToSam) (reason : String)
      (ht : (s.links k).task = .awaiting) (hup : (s.links k).up = message :: up) :
      ServerMove s k [] ((s.links k).refuse message up reason)
  | register (a : ApplicationId) (up : List ApplicationToSam) (now : Instant) (id : ConnectionId)
      (ht : (s.links k).task = .awaiting)
      (hup : (s.links k).up = .register a PROTOCOL_VERSION :: up)
      (hid : (s.service.register a ⟨k⟩ now).1 = .ok id) :
      ServerMove s k [.register a ⟨k⟩ now]
        ((s.links k).take (.register a PROTOCOL_VERSION) up (.registered a id))
  | unregistered (a : ApplicationId) (up : List ApplicationToSam) (now : Instant)
      (error : ServiceError) (ht : (s.links k).task = .awaiting)
      (hup : (s.links k).up = .register a PROTOCOL_VERSION :: up)
      (he : (s.service.register a ⟨k⟩ now).1 = .error error) :
      ServerMove s k [.register a ⟨k⟩ now, .dropReceiver ⟨k⟩]
        ((s.links k).take (.register a PROTOCOL_VERSION) up .ended)
  | handle (a : ApplicationId) (conn : ConnectionId) (message : ApplicationToSam)
      (up : List ApplicationToSam) (now : Instant) (task : ServerTask)
      (ht : (s.links k).task = .registered a conn) (hup : (s.links k).up = message :: up)
      (htask : task = .registered a conn ∨ task = .closing a conn) :
      ServerMove s k [.handleMessage a conn message now] ((s.links k).take message up task)
  | send (a : ApplicationId) (conn : ConnectionId) (message : SamToApplication)
      (queue : List SamToApplication) (ht : (s.links k).task = .registered a conn)
      (hq : (s.service.channels ⟨k⟩).queue = message :: queue) :
      ServerMove s k [.receive ⟨k⟩] { s.links k with down := (s.links k).down ++ [message] }
  | unsent (a : ApplicationId) (conn : ConnectionId)
      (ht : (s.links k).task = .registered a conn) :
      ServerMove s k [.receive ⟨k⟩] { s.links k with task := .closing a conn }
  | close (a : ApplicationId) (conn : ConnectionId) (now : Instant)
      (ht : (s.links k).task = .registered a conn ∨ (s.links k).task = .closing a conn) :
      ServerMove s k [.disconnect a conn now, .dropReceiver ⟨k⟩] { s.links k with task := .ended }
  | hangUp (ht : (s.links k).task = .awaiting) : ServerMove s k [] { s.links k with task := .ended }

variable (handlers : ApplicationId → ModeHandler η ω)

/-- What client `a` can do with link `k`: the link and the client it leaves, the callback it has
    run and the answer it has written. -/
inductive ClientMove (s : System η) (a : ApplicationId) (k : Nat) :
    Link → Client η → Option HandlerCall → Option ApplicationToSam → Prop where
  | connect (hs : (s.clients a).session = .idle) (ho : (s.links k).owner = none) :
      ClientMove s a k
        { (s.links k).write (.register a PROTOCOL_VERSION) with owner := some a }
        { s.clients a with session := .registering k } none none
  | welcome (world : ω) (message : SamToApplication) (down : List SamToApplication) (handler : η)
      (hs : (s.clients a).session = .registering k) (hd : (s.links k).down = message :: down)
      (hr : (handlers a).registrationReceived world (s.clients a).handler message =
        (.ok (), handler)) :
      ClientMove s a k ((s.links k).get message down) ⟨handler, .running k⟩ none none
  | unwelcome (message : SamToApplication) (down : List SamToApplication) (handler : η)
      (session : ClientSession) (hs : (s.clients a).session = .registering k)
      (hd : (s.links k).down = message :: down) (hn : session = .idle ∨ session = .stopped) :
      ClientMove s a k ((s.links k).get message down) ⟨handler, session⟩ none none
  | observe (world : ω) (message : SamToApplication) (down : List SamToApplication)
      (hs : (s.clients a).session = .running k) (hd : (s.links k).down = message :: down)
      (hr : ((handlers a).messageReceived world a (s.clients a).handler message).result =
        .ok none) :
      ClientMove s a k ((s.links k).get message down)
        ⟨((handlers a).messageReceived world a (s.clients a).handler message).handler, .running k⟩
        ((handlers a).messageReceived world a (s.clients a).handler message).call none
  | answer (world : ω) (message : SamToApplication) (down : List SamToApplication)
      (answer : ApplicationToSam) (hs : (s.clients a).session = .running k)
      (hd : (s.links k).down = message :: down)
      (hr : ((handlers a).messageReceived world a (s.clients a).handler message).result =
        .ok (some answer)) :
      ClientMove s a k (((s.links k).get message down).write answer)
        ⟨((handlers a).messageReceived world a (s.clients a).handler message).handler, .running k⟩
        ((handlers a).messageReceived world a (s.clients a).handler message).call (some answer)
  | leave (world : ω) (message : SamToApplication) (down : List SamToApplication)
      (session : ClientSession) (hs : (s.clients a).session = .running k)
      (hd : (s.links k).down = message :: down) (hn : session = .idle ∨ session = .stopped) :
      ClientMove s a k ((s.links k).get message down)
        ⟨((handlers a).messageReceived world a (s.clients a).handler message).handler, session⟩
        ((handlers a).messageReceived world a (s.clients a).handler message).call none
  | heartbeat (world : ω) (hs : (s.clients a).session = .running k) :
      ClientMove s a k
        ((s.links k).write (.heartbeat a ((handlers a).health world (s.clients a).handler)
          ((handlers a).currentMode (s.clients a).handler)))
        (s.clients a) none none

/-- **Everything a step can do.** -/
inductive Move (s : System η) : System η → Prop where
  | idle : Move s s
  | call (op : Operation)
      (hop : (∃ target, op = .requestMode target) ∨ ∃ now, op = .refreshHealth now) :
      Move s (s.perform [op])
  | server (k : Nat) (ops : List Operation) (link : Link) (hm : ServerMove s k ops link) :
      Move s ((s.perform ops).setLink k link)
  | client (a : ApplicationId) (k : Nat) (link : Link) (client : Client η)
      (call : Option HandlerCall) (answer : Option ApplicationToSam)
      (hm : ClientMove handlers s a k link client call answer) :
      Move s (((s.setLink k link).setClient a client).recordCall a k call answer)
  | quit (a : ApplicationId) (handler : η) : Move s (s.setClient a ⟨handler, .idle⟩)

variable {handlers} {s : System η}

/-! ## Every step is a move -/

theorem perform_nil : s.perform [] = s := by
  unfold perform
  rw [List.append_nil]
  rfl

theorem recordCall_none (a : ApplicationId) (k : Nat) : s.recordCall a k none none = s := by
  unfold recordCall
  rw [Option.toList_none, List.map_nil, List.append_nil]

theorem setClient_self (a : ApplicationId) : s.setClient a (s.clients a) = s := by
  unfold setClient
  rw [Function.update_eq_self]

/-- A session task moves without calling SAM. -/
theorem Move.quiet {k : Nat} {link : Link} (hm : ServerMove s k [] link) :
    Move handlers s (s.setLink k link) := by
  have h : Move handlers s ((s.perform []).setLink k link) := .server k [] link hm
  rwa [perform_nil] at h

theorem serverReceive_move (k : Nat) (now : Instant) : Move handlers s (s.serverReceive k now) := by
  unfold serverReceive
  dsimp only
  split
  · rename_i a version up ht hup
    split
    · exact .quiet (.refuse _ up _ ht hup)
    · rename_i hv
      have hv' : version = PROTOCOL_VERSION := not_not.mp hv
      subst hv'
      split
      · rename_i id hid
        exact .server k _ _ (.register a up now id ht hup hid)
      · rename_i error he
        exact .server k _ _ (.unregistered a up now error ht hup he)
  · rename_i message up _ ht hup
    exact .quiet (.refuse message up _ ht hup)
  · rename_i a conn message up ht hup
    refine .server k _ _ (.handle a conn message up now _ ht hup ?_)
    split
    · exact .inl rfl
    · exact .inr rfl
  · exact .idle

theorem serverSend_move (k : Nat) (written : Bool) : Move handlers s (s.serverSend k written) := by
  unfold serverSend
  dsimp only
  split
  · rename_i a conn message queue ht hq
    cases written with
    | true => exact .server k _ _ (.send a conn message queue ht hq)
    | false => exact .server k _ _ (.unsent a conn ht)
  · exact .idle

theorem serverClose_move (k : Nat) (now : Instant) : Move handlers s (s.serverClose k now) := by
  unfold serverClose
  dsimp only
  split
  · rename_i ht
    exact .quiet (.hangUp ht)
  · rename_i a conn ht
    exact .server k _ _ (.close a conn now (.inl ht))
  · rename_i a conn ht
    exact .server k _ _ (.close a conn now (.inr ht))
  · exact .idle

/-- A client whose session has ended with an error is idle or has stopped. -/
theorem next_cases (error : RuntimeError) : error.next = .idle ∨ error.next = .stopped := by
  unfold RuntimeError.next
  split
  · exact .inr rfl
  · exact .inl rfl

theorem clientReceive_move (a : ApplicationId) (world : ω) (written : Bool) :
    Move handlers s (s.clientReceive handlers a world written) := by
  unfold clientReceive
  dsimp only
  split
  · rename_i k hs
    split
    · exact .idle
    · rename_i message down hd
      rw [← recordCall_none (s := System.setClient _ _ _) a k]
      split
      · rename_i hr
        exact .client a k _ _ none none (.welcome world message down _ hs hd (Prod.ext hr rfl))
      · rename_i error hr
        exact .client a k _ _ none none (.unwelcome message down _ _ hs hd (next_cases error))
  · rename_i k hs
    split
    · exact .idle
    · rename_i message down hd
      split
      · rename_i hr
        exact .client a k _ _ _ _ (.observe world message down hs hd hr)
      · rename_i answer hr
        cases written with
        | true => exact .client a k _ _ _ _ (.answer world message down answer hs hd hr)
        | false => exact .client a k _ _ _ _ (.leave world message down .idle hs hd (.inl rfl))
      · rename_i error hr
        exact .client a k _ _ _ _ (.leave world message down _ hs hd (next_cases error))
  · exact .idle

theorem clientHeartbeat_move (a : ApplicationId) (world : ω) (written : Bool) :
    Move handlers s (s.clientHeartbeat handlers a world written) := by
  unfold clientHeartbeat
  dsimp only
  split
  · rename_i k hs
    cases written with
    | true =>
      have h : Move handlers s _ := .client a k _ _ none none (.heartbeat world hs)
      rw [recordCall_none] at h
      exact (setClient_self (s := s.setLink k _) a) ▸ h
    | false => exact .quit a _
  · exact .idle

/-- **Every step is one of the moves.** -/
theorem step_move (s : System η) (input : Input η ω) : Move handlers s (step handlers s input) := by
  cases input with
  | connect a k =>
    unfold step
    dsimp only
    split
    · rename_i hs ho
      have h : Move handlers s _ := .client a k _ _ none none (.connect hs ho)
      rwa [recordCall_none] at h
    · exact .idle
  | restart a handler => exact .quit a handler
  | serverReceive k now => exact serverReceive_move k now
  | serverSend k written => exact serverSend_move k written
  | serverClose k now => exact serverClose_move k now
  | clientReceive a world written => exact clientReceive_move a world written
  | clientHeartbeat a world written => exact clientHeartbeat_move a world written
  | clientClose a =>
    unfold step
    dsimp only
    split
    · exact .quit a _
    · exact .quit a _
    · exact .idle
  | requestMode target => exact .call _ (.inl ⟨target, rfl⟩)
  | refreshHealth now => exact .call _ (.inr ⟨now, rfl⟩)

end System

end Sam
