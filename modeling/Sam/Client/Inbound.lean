import Sam.Client.Runtime
import Sam.Library.Machine
import Sam.Transport.Delivery
import Sam.Transport.Postcard

/-!
# The session loop of an application (`run_session` in `sam-client/src/runtime.rs`)

Once it has registered, `run_session` spawns a task that does nothing but receive: what `receive`
returns it puts into a channel of `INBOUND_QUEUE_DEPTH` places, and `select!` is between that
channel and the heartbeat timer.  No `receive` is ever dropped, unlike in SAM's own loop.

* `RunningSession`, `RunningInput`, `step` — the connection's bytes, the reader task, the channel,
  the callback being run and what has been sent; every scheduling decision is an input.
* `Pipe` — what is between the bytes of the connection and the callbacks.
* `Faithful` — what every step keeps (`faithful_step`).
* `messages_in_order`, `nothing_left_behind`, `reader_keeps_up` — the loop is faithful whatever the
  schedule; all that came is handled before the loop notices the end of the connection; and a
  callback does not hold up the reader.
-/

namespace Sam

variable {η ω : Type*}

/-- `INBOUND_QUEUE_DEPTH`. -/
def INBOUND_QUEUE_DEPTH : Nat := 32

/-- The spawned task: in `receiver.next_message()`, in `inbound_tx.send(message)`, or gone. -/
inductive ReaderTask where
  | receiving (receiving : Receiving)
  | sending (message : Except TransportError SamToApplication)
  | finished

/-- Why the loop returned. -/
inductive SessionStop where
  | received (error : TransportError)
  | closed
  | unsent (error : TransportError)
  | callback (error : RuntimeError)
  deriving DecidableEq

/-- The error `run_session` returns. -/
def SessionStop.error : SessionStop → RuntimeError
  | .received error | .unsent error => .transport error
  | .closed => .connectionClosed
  | .callback error => error

/-- The answer to a message, if there is one. -/
def Reaction.answer (r : Reaction η) : Option ApplicationToSam :=
  match r.result with
  | .ok answer => answer
  | .error _ => none

/-- A registered session.  `busy` is the message whose callback is running; `handled` is a history
    variable, the messages whose callbacks have returned and what came of the world at them. -/
structure RunningSession (η ω : Type*) where
  unread : List UInt8
  available : List UInt8
  closed : Bool
  task : ReaderTask
  inbound : List (Except TransportError SamToApplication)
  busy : Option SamToApplication
  handler : η
  handled : List (ω × SamToApplication)
  sent : List ApplicationToSam
  stopped : Option SessionStop

/-- What can happen next. -/
inductive RunningInput (ω : Type*) where
  /-- `n` more bytes arrive -/
  | arrive (n : Nat)
  /-- the stream is closed; nothing arrives any more -/
  | close
  /-- the spawned task is polled -/
  | read
  /-- `inbound_rx.recv()` is polled -/
  | recv
  /-- the callback returns, and an answer is written with this result -/
  | callback (world : ω) (written : Option TransportError)
  /-- the heartbeat timer ticks, and the heartbeat is written with this result -/
  | tick (world : ω) (written : Option TransportError)

namespace RunningSession

variable (codec : Codec SamToApplication) (h : ModeHandler η ω) (application : ApplicationId)

/-- The loop is entered by a handler on a connection on which SAM writes `written`. -/
def start (written : List SamToApplication) (handler : η) : RunningSession η ω where
  unread := frames codec written
  available := []
  closed := false
  task := .receiving .start
  inbound := []
  busy := none
  handler := handler
  handled := []
  sent := []
  stopped := none

/-- The spawned task is polled.  The channel's receiver is gone once the loop has returned. -/
def read (s : RunningSession η ω) : RunningSession η ω :=
  match s.task with
  | .receiving receiving =>
    match poll codec DEFAULT_MAX_FRAME_SIZE s.closed receiving s.available with
    | (.pending receiving, available) =>
      { s with task := .receiving receiving, available := available }
    | (.ready message, available) => { s with task := .sending message, available := available }
  | .sending message =>
    if s.stopped.isSome then { s with task := .finished }
    else if s.inbound.length < INBOUND_QUEUE_DEPTH then
      { s with
        inbound := s.inbound ++ [message]
        task :=
          match message with
          | .ok _ => .receiving .start
          | .error _ => .finished }
    else s
  | .finished => s

/-- `inbound_rx.recv()` is polled. -/
def recv (s : RunningSession η ω) : RunningSession η ω :=
  match s.inbound with
  | .ok message :: inbound => { s with inbound := inbound, busy := some message }
  | .error error :: inbound => { s with inbound := inbound, stopped := some (.received error) }
  | [] =>
    match s.task with
    | .finished => { s with stopped := some .closed }
    | _ => s

/-- Something is written, with this result. -/
def write (s : RunningSession η ω) (message : ApplicationToSam) (written : Option TransportError) :
    RunningSession η ω :=
  match written with
  | none => { s with sent := s.sent ++ [message] }
  | some error => { s with stopped := some (.unsent error) }

/-- The callback for `message` returns. -/
def callback (s : RunningSession η ω) (message : SamToApplication) (world : ω)
    (written : Option TransportError) : RunningSession η ω :=
  let r := h.messageReceived world application s.handler message
  let s := { s with busy := none, handler := r.handler, handled := s.handled ++ [(world, message)] }
  match r.result with
  | .ok none => s
  | .ok (some answer) => s.write answer written
  | .error error => { s with stopped := some (.callback error) }

/-- One step of the loop, of the task it has spawned, or of their environment. -/
def step (s : RunningSession η ω) : RunningInput ω → RunningSession η ω
  | .arrive n =>
    if s.closed then s
    else { s with available := s.available ++ s.unread.take n, unread := s.unread.drop n }
  | .close => { s with closed := true }
  | .read => s.read codec
  | .recv => if s.stopped.isSome || s.busy.isSome then s else s.recv
  | .callback world written =>
    match s.busy with
    | some message => s.callback h application message world written
    | none => s
  | .tick world written =>
    if s.stopped.isSome || s.busy.isSome then s
    else s.write (.heartbeat application (h.health world s.handler) (h.currentMode s.handler))
      written

/-! ## The loop without the task and the channel -/

/-- The handler after some messages. -/
def replayed (handler : η) (handled : List (ω × SamToApplication)) : η :=
  handled.foldl (fun self x => (h.messageReceived x.1 application self x.2).handler) handler

/-- The answers to some messages. -/
def replies : η → List (ω × SamToApplication) → List ApplicationToSam
  | _, [] => []
  | self, (world, message) :: later =>
    let r := h.messageReceived world application self message
    r.answer.toList ++ replies r.handler later

/-- A message that is no heartbeat. -/
def isVote : ApplicationToSam → Bool
  | .heartbeat _ _ _ => false
  | _ => true

/-! ## What is between the bytes and the callbacks -/

/-- What is left of the stream, `bytes` and `unread`, is less than the next frame. -/
def Short (unread : List UInt8) (rest : List SamToApplication) : Prop :=
  ∃ bytes, bytes ++ unread = frames codec rest ∧
    ∀ message later, rest = message :: later → bytes.length < (frame codec message).length

/-- The task and the channel hold `inside`, and the stream the frames of `rest`. -/
inductive Pipe (s : RunningSession η ω) : List SamToApplication → List SamToApplication → Prop
  | receiving (r : Receiving) (queued rest : List SamToApplication) (ht : s.task = .receiving r)
      (hq : s.inbound = queued.map .ok) (hr : r.Waiting)
      (hb : r.taken ++ s.available ++ s.unread = frames codec rest) : Pipe s queued rest
  | sending (message : SamToApplication) (queued rest : List SamToApplication)
      (ht : s.task = .sending (.ok message)) (hq : s.inbound = queued.map .ok)
      (hb : s.available ++ s.unread = frames codec rest) : Pipe s (queued ++ [message]) rest
  | failing (queued rest : List SamToApplication)
      (ht : s.task = .sending (.error (.io .unexpectedEof))) (hq : s.inbound = queued.map .ok)
      (hc : s.closed = true) (hb : Short codec s.unread rest) : Pipe s queued rest
  | failed (queued rest : List SamToApplication) (ht : s.task = .finished)
      (hq : s.inbound = queued.map .ok ++ [.error (.io .unexpectedEof)])
      (hc : s.closed = true) (hb : Short codec s.unread rest) : Pipe s queued rest

/-- The messages whose callbacks have returned. -/
def messages (s : RunningSession η ω) : List SamToApplication := s.handled.map Prod.snd

/-- What every step keeps.  While the loop runs, everything written has been handled, is being
    handled, is in the channel or held by the task, or is yet to be read. -/
structure Faithful (written : List SamToApplication) (handler : η) (s : RunningSession η ω) :
    Prop where
  order : s.messages ++ s.busy.toList <+: written
  inside : s.stopped = none → ∃ inside rest,
    written = s.messages ++ s.busy.toList ++ inside ++ rest ∧ Pipe codec s inside rest
  room : s.inbound.length ≤ INBOUND_QUEUE_DEPTH
  still : s.stopped.isSome → s.busy = none
  received : ∀ error, s.stopped = some (.received error) → s.closed = true ∧
    ∃ rest, written = s.messages ++ rest ∧ Short codec s.unread rest
  connected : s.stopped ≠ some .closed
  handler_eq : s.handler = replayed h application handler s.handled
  sent_eq : ∃ unsent, replies h application handler s.handled = s.sent.filter isVote ++ unsent ∧
    (s.stopped = none → unsent = [])

variable {codec h application} {written rest : List SamToApplication} {handler : η}
  {s : RunningSession η ω} {input : RunningInput ω}

/-! ## The end of the stream -/

/-- A `receive` that has been polled goes on as if it had not. -/
theorem poll_resumed {closed : Bool} {r : Receiving} {available unread : List UInt8}
    (hfits : ∀ message ∈ rest, Fits codec DEFAULT_MAX_FRAME_SIZE message) (hr : r.Waiting)
    (hb : r.taken ++ available ++ unread = frames codec rest) :
    poll codec DEFAULT_MAX_FRAME_SIZE closed r available =
      poll codec DEFAULT_MAX_FRAME_SIZE closed .start (r.taken ++ available) := by
  cases r with
  | length bytes =>
    rw [Receiving.start, Receiving.taken, poll, poll, readExact_eq (Nat.le_of_lt hr),
      readExact_eq (Nat.zero_le 4), List.nil_append]
  | payload n bytes =>
    obtain ⟨hn, hlt⟩ := hr
    have hle : n ≤ DEFAULT_MAX_FRAME_SIZE := by
      cases rest with
      | nil => cases hb
      | cons message later =>
        have hfit : (codec.toBytes message).length ≤ DEFAULT_MAX_FRAME_SIZE :=
          hfits message List.mem_cons_self
        rw [frames_cons, Receiving.taken, List.append_assoc, List.append_assoc] at hb
        rw [toBeBytes_inj hn (hfit.trans_lt (by decide)) (List.append_inj hb rfl).1]
        exact hfit
    have hheader : readExact 4 [] (toBeBytes n ++ (bytes ++ available)) =
        (toBeBytes n, bytes ++ available) := readExact_left (toBeBytes n) _
    rw [Receiving.start, Receiving.taken, List.append_assoc, poll, poll, hheader]
    simp only [length_toBeBytes, lt_irrefl, if_false]
    rw [fromBeBytes_toBeBytes hn, validateSize, if_neg (Nat.not_lt.mpr hle)]
    have hpayload : readExact n [] (bytes ++ available) = readExact n bytes available := by
      rw [readExact_eq hlt.le]
      exact readExact_eq (Nat.zero_le n)
    simp only [pollPayload, hpayload]

/-- A `receive` fails only when less than a frame is left. -/
theorem short_of_error {r : Receiving} {available unread left : List UInt8} {error : TransportError}
    (hfits : ∀ message ∈ rest, Fits codec DEFAULT_MAX_FRAME_SIZE message) (hr : r.Waiting)
    (hb : r.taken ++ available ++ unread = frames codec rest)
    (he : poll codec DEFAULT_MAX_FRAME_SIZE true r available = (.ready (.error error), left)) :
    Short codec unread rest := by
  refine ⟨r.taken ++ available, hb, fun message later hrest => ?_⟩
  by_contra hlong
  rw [poll_resumed hfits hr hb] at he
  have hfit : (codec.toBytes message).length ≤ DEFAULT_MAX_FRAME_SIZE :=
    hfits message (by rw [hrest]; exact List.mem_cons_self)
  -- the whole frame is there, so it would have been received
  obtain ⟨more, hmore⟩ : frame codec message <+: r.taken ++ available := by
    refine List.prefix_of_prefix_length_le ?_ (List.prefix_append _ unread) (Nat.not_lt.mp hlong)
    rw [hb, hrest, frames, List.flatMap_cons]
    exact List.prefix_append _ _
  rw [← hmore, poll_frame ⟨hfit, hfit.trans_lt (by decide)⟩] at he
  cases he

/-- What is short of a frame delivers nothing. -/
theorem delivered_short {unread : List UInt8} {done : List SamToApplication}
    (hb : Short codec unread rest) :
    delivered codec ((frames codec (done ++ rest)).length - unread.length) (done ++ rest) =
      done := by
  obtain ⟨bytes, hbytes, hshort⟩ := hb
  have hlength : (frames codec (done ++ rest)).length - unread.length =
      (frames codec done).length + bytes.length := by
    rw [frames, List.flatMap_append, List.length_append]
    change (frames codec done).length + (frames codec rest).length - _ = _
    rw [← hbytes, List.length_append]
    omega
  rw [hlength]
  clear hlength
  induction done with
  | nil =>
    cases rest with
    | nil => rfl
    | cons message later =>
      have hlt := hshort message later rfl
      rw [List.nil_append, delivered, if_neg (by simp [frames]; omega)]
  | cons message done ih =>
    have hframes : (frames codec (message :: done)).length =
        (frame codec message).length + (frames codec done).length := by
      rw [frames, List.flatMap_cons, List.length_append]
      rfl
    have hleft : (frame codec message).length + (frames codec done).length + bytes.length -
        (frame codec message).length = (frames codec done).length + bytes.length := by omega
    rw [List.cons_append, delivered, hframes, if_pos (by omega), hleft, ih]

/-! ## One step -/

/-- The task passes on what it has received. -/
theorem Pipe.read {inside : List SamToApplication} (hp : Pipe codec s inside rest)
    (hfits : ∀ message ∈ rest, Fits codec DEFAULT_MAX_FRAME_SIZE message) (hs : s.stopped = none) :
    ∃ inside' rest', inside ++ rest = inside' ++ rest' ∧
      Pipe codec (s.read codec) inside' rest' := by
  have hrunning : ¬ s.stopped.isSome := by simp [hs]
  unfold RunningSession.read
  cases hp with
  | receiving r queued _ ht hq hr hb =>
    rw [ht]
    dsimp only
    have hspec := @poll_spec _ codec DEFAULT_MAX_FRAME_SIZE s.closed r s.available s.unread rest
      (by decide) hfits hr hb
    have hfail := @short_of_error codec rest r s.available s.unread
    generalize hpoll : poll codec DEFAULT_MAX_FRAME_SIZE s.closed r s.available = p at hspec
    cases hspec with
    | pending r' available hc hr' htaken =>
      refine ⟨_, _, rfl, .receiving r' inside rest rfl hq hr' ?_⟩
      rw [htaken]
      exact hb
    | ready message later available hm hbytes =>
      refine ⟨inside ++ [message], later, ?_, .sending message inside later rfl hq hbytes⟩
      rw [hm, List.append_assoc]
      rfl
    | closed available hc =>
      rw [hc] at hpoll
      exact ⟨_, _, rfl, .failing inside rest rfl hq hc (hfail hfits hr hb hpoll)⟩
  | sending message queued _ ht hq hb =>
    rw [ht]
    dsimp only
    rw [if_neg hrunning]
    split
    · refine ⟨_, _, rfl, .receiving .start (queued ++ [message]) rest rfl ?_
        (Nat.zero_lt_succ 3) hb⟩
      rw [hq, List.map_append]
      rfl
    · exact ⟨_, _, rfl, .sending message queued rest ht hq hb⟩
  | failing queued _ ht hq hc hb =>
    rw [ht]
    dsimp only
    rw [if_neg hrunning]
    split
    · exact ⟨_, _, rfl, .failed inside rest rfl (by rw [hq]) hc hb⟩
    · exact ⟨_, _, rfl, .failing inside rest ht hq hc hb⟩
  | failed queued _ ht hq hc hb =>
    rw [ht]
    exact ⟨_, _, rfl, .failed inside rest ht hq hc hb⟩

/-- The loop takes a message; -/
theorem Pipe.recv_ok {inside : List SamToApplication} {message : SamToApplication}
    {inbound : List (Except TransportError SamToApplication)} (hp : Pipe codec s inside rest)
    (hq : s.inbound = .ok message :: inbound) :
    ∃ inside', inside = message :: inside' ∧
      Pipe codec { s with inbound := inbound, busy := some message } inside' rest := by
  have hhead : ∀ {queued : List SamToApplication}
    {more : List (Except TransportError SamToApplication)},
      s.inbound = queued.map .ok ++ more → (∀ x ∈ more, x ≠ .ok message) →
      ∃ queued', queued = message :: queued' ∧ inbound = queued'.map .ok ++ more := by
    intro queued more h hmore
    rw [hq] at h
    cases queued with
    | nil => exact absurd rfl (hmore (.ok message)
      (by rw [← List.nil_append more, ← List.map_nil, ← h]; simp))
    | cons m queued' =>
      rw [List.map_cons, List.cons_append] at h
      obtain ⟨hm, hrest⟩ := List.cons.inj h
      obtain rfl := Except.ok.inj hm
      exact ⟨queued', rfl, hrest⟩
  have hnil : ∀ {queued : List SamToApplication}, s.inbound = queued.map .ok →
      ∃ queued', queued = message :: queued' ∧ inbound = queued'.map .ok := by
    intro queued h
    obtain ⟨queued', hqueued, hin⟩ := hhead (h.trans (List.append_nil _).symm) (by simp)
    exact ⟨queued', hqueued, hin.trans (List.append_nil _)⟩
  cases hp with
  | receiving r _ _ ht hq' hr hb =>
    obtain ⟨queued', rfl, hin⟩ := hnil hq'
    exact ⟨queued', rfl, .receiving r queued' rest ht hin hr hb⟩
  | sending held _ _ ht hq' hb =>
    obtain ⟨queued', rfl, hin⟩ := hnil hq'
    exact ⟨queued' ++ [held], rfl, .sending held queued' rest ht hin hb⟩
  | failing _ _ ht hq' hc hb =>
    obtain ⟨queued', rfl, hin⟩ := hnil hq'
    exact ⟨queued', rfl, .failing queued' rest ht hin hc hb⟩
  | failed _ _ ht hq' hc hb =>
    obtain ⟨queued', rfl, hin⟩ := hhead hq' (by simp)
    exact ⟨queued', rfl, .failed queued' rest ht hin hc hb⟩

/-- it takes an error when there is nothing else left; -/
theorem Pipe.recv_error {inside : List SamToApplication} {error : TransportError}
    {inbound : List (Except TransportError SamToApplication)} (hp : Pipe codec s inside rest)
    (hq : s.inbound = .error error :: inbound) :
    inside = [] ∧ s.closed = true ∧ Short codec s.unread rest := by
  have hnone : ∀ {queued : List SamToApplication}, s.inbound ≠ queued.map .ok := by
    intro queued h
    rw [hq] at h
    cases queued <;> cases h
  cases hp with
  | receiving _ _ _ _ hq' => exact absurd hq' hnone
  | sending _ _ _ _ hq' => exact absurd hq' hnone
  | failing _ _ _ hq' => exact absurd hq' hnone
  | failed _ _ _ hq' hc hb =>
    rw [hq] at hq'
    cases inside with
    | nil => exact ⟨rfl, hc, hb⟩
    | cons => cases hq'

/-- and the task is never gone while the channel is empty. -/
theorem Pipe.recv_nil {inside : List SamToApplication} (hp : Pipe codec s inside rest)
    (hq : s.inbound = []) : s.task ≠ .finished := by
  cases hp with
  | receiving _ _ _ ht | sending _ _ _ ht | failing _ _ ht =>
    rw [ht]
    rintro ⟨⟩
  | failed _ _ _ hq' =>
    rw [hq] at hq'
    exact absurd hq'.symm (by simp)

/-- Only the bytes, the task and the channel matter. -/
theorem Pipe.congr {inside : List SamToApplication} {s' : RunningSession η ω}
    (hp : Pipe codec s inside rest) (hu : s'.unread = s.unread) (ha : s'.available = s.available)
    (hc : s.closed = true → s'.closed = true) (ht : s'.task = s.task)
    (hq : s'.inbound = s.inbound) :
    Pipe codec s' inside rest := by
  cases hp with
  | receiving r queued _ ht' hq' hr hb =>
    exact .receiving r inside rest (ht.trans ht') (hq.trans hq') hr (by rw [hu, ha]; exact hb)
  | sending held queued _ ht' hq' hb =>
    exact .sending held queued rest (ht.trans ht') (hq.trans hq') (by rw [hu, ha]; exact hb)
  | failing queued _ ht' hq' hc' hb =>
    exact .failing inside rest (ht.trans ht') (hq.trans hq') (hc hc') (by rw [hu]; exact hb)
  | failed queued _ ht' hq' hc' hb =>
    exact .failed inside rest (ht.trans ht') (hq.trans hq') (hc hc') (by rw [hu]; exact hb)

theorem replayed_concat (handler : η) (handled : List (ω × SamToApplication)) (world : ω)
    (message : SamToApplication) :
    replayed h application handler (handled ++ [(world, message)]) =
      (h.messageReceived world application
        (replayed h application handler handled) message).handler := by
  unfold replayed
  rw [List.foldl_append]
  rfl

theorem replies_concat (handler : η) (handled : List (ω × SamToApplication)) (world : ω)
    (message : SamToApplication) :
    replies h application handler (handled ++ [(world, message)]) =
      replies h application handler handled ++
        (h.messageReceived world application (replayed h application handler handled)
          message).answer.toList := by
  induction handled generalizing handler with
  | nil => exact List.append_nil _
  | cons x handled ih =>
    rw [List.cons_append, replies, replies, ih, List.append_assoc]
    rfl

theorem messages_concat {s' : RunningSession η ω} {world : ω} {message : SamToApplication}
    (hs : s'.handled = s.handled ++ [(world, message)]) :
    s'.messages = s.messages ++ [message] := by
  unfold messages
  rw [hs, List.map_append]
  rfl

/-- An answer is no heartbeat. -/
theorem isVote_answer {world : ω} {self : η} {message : SamToApplication}
    {answer : ApplicationToSam}
    (hr : (h.messageReceived world application self message).result = .ok (some answer)) :
    isVote answer = true := by
  rcases ModeHandler.answer_cases hr with
    ⟨id, mode, rfl, -⟩ | ⟨id, reason, rfl⟩ | ⟨id, mode, rfl, -⟩ <;> rfl

theorem faithful_start : Faithful codec h application written handler
    (start codec written handler) where
  order := List.nil_prefix
  inside _ := ⟨[], written, rfl, .receiving .start [] written rfl rfl (Nat.zero_lt_succ 3) rfl⟩
  room := Nat.zero_le _
  still _ := rfl
  received _ hs := by cases hs
  connected := by rintro ⟨⟩
  handler_eq := rfl
  sent_eq := ⟨[], rfl, fun _ => rfl⟩

namespace Faithful

/-- More bytes arrive, or none will. -/
theorem arrive (hf : Faithful codec h application written handler s) (n : Nat) :
    Faithful codec h application written handler (step codec h application s (.arrive n)) := by
  rw [step]
  by_cases hc : s.closed
  · rw [if_pos hc]
    exact hf
  rw [if_neg hc]
  refine ⟨hf.order, fun hs => ?_, hf.room, hf.still, fun error hs => ?_, hf.connected,
    hf.handler_eq, hf.sent_eq⟩
  · obtain ⟨inside, rest, hw, hp⟩ := hf.inside hs
    refine ⟨inside, rest, hw, ?_⟩
    have harrive : (s.available ++ s.unread.take n) ++ s.unread.drop n =
        s.available ++ s.unread := by
      rw [List.append_assoc, List.take_append_drop]
    cases hp with
    | receiving r _ _ ht hq hr hb =>
      refine .receiving r inside rest ht hq hr ?_
      show r.taken ++ (s.available ++ s.unread.take n) ++ s.unread.drop n = _
      rw [List.append_assoc, harrive, ← List.append_assoc, hb]
    | sending message queued _ ht hq hb =>
      refine .sending message queued rest ht hq ?_
      show (s.available ++ s.unread.take n) ++ s.unread.drop n = _
      rw [harrive, hb]
    | failing _ _ _ _ hclosed => exact absurd hclosed hc
    | failed _ _ _ _ hclosed => exact absurd hclosed hc
  · exact absurd (hf.received error hs).1 hc

theorem close (hf : Faithful codec h application written handler s) :
    Faithful codec h application written handler (step codec h application s .close) := by
  refine ⟨hf.order, fun hs => ?_, hf.room, hf.still, fun error hs => ?_, hf.connected,
    hf.handler_eq, hf.sent_eq⟩
  · obtain ⟨inside, rest, hw, hp⟩ := hf.inside hs
    exact ⟨inside, rest, hw, hp.congr rfl rfl (fun _ => rfl) rfl rfl⟩
  · exact ⟨rfl, (hf.received error hs).2⟩

/-- What the spawned task leaves alone. -/
theorem read_eq (codec : Codec SamToApplication) (s : RunningSession η ω) :
    ∃ available task inbound,
      s.read codec = { s with available := available, task := task, inbound := inbound } ∧
        (s.inbound.length ≤ INBOUND_QUEUE_DEPTH → inbound.length ≤ INBOUND_QUEUE_DEPTH) := by
  unfold RunningSession.read
  split
  · split
    · exact ⟨_, _, _, rfl, id⟩
    · exact ⟨_, _, _, rfl, id⟩
  · split
    · exact ⟨_, _, _, rfl, id⟩
    · split
      · rename_i hlt
        refine ⟨_, _, _, rfl, fun _ => ?_⟩
        rw [List.length_append, List.length_singleton]
        omega
      · exact ⟨_, _, _, rfl, id⟩
  · exact ⟨_, _, _, rfl, id⟩

theorem read (hf : Faithful codec h application written handler s)
    (hfits : ∀ message ∈ written, Fits codec DEFAULT_MAX_FRAME_SIZE message) :
    Faithful codec h application written handler (s.read codec) := by
  have hinside : s.stopped = none → ∃ inside rest,
      written = s.messages ++ s.busy.toList ++ inside ++ rest ∧
        Pipe codec (s.read codec) inside rest := by
    intro hs
    obtain ⟨inside, rest, hw, hp⟩ := hf.inside hs
    have hrest : ∀ message ∈ rest, Fits codec DEFAULT_MAX_FRAME_SIZE message :=
      fun message hm => hfits message (by rw [hw]; exact List.mem_append_right _ hm)
    obtain ⟨inside', rest', heq, hp'⟩ := hp.read hrest hs
    exact ⟨inside', rest', by rw [hw, List.append_assoc, List.append_assoc, heq]; simp, hp'⟩
  obtain ⟨available, task, inbound, heq, hroom⟩ := read_eq codec s
  rw [heq] at hinside ⊢
  exact ⟨hf.order, hinside, hroom hf.room, hf.still, hf.received, hf.connected, hf.handler_eq,
    hf.sent_eq⟩

theorem recv (hf : Faithful codec h application written handler s) (hs : s.stopped = none)
    (hbusy : s.busy = none) : Faithful codec h application written handler s.recv := by
  obtain ⟨inside, rest, hw, hp⟩ := hf.inside hs
  rw [hbusy, Option.toList_none, List.append_nil] at hw
  unfold RunningSession.recv
  split
  · rename_i message inbound hq
    obtain ⟨inside', rfl, hp'⟩ := hp.recv_ok hq
    have hw' : written = s.messages ++ [message] ++ inside' ++ rest := by
      rw [hw]
      simp
    have hroom := hf.room
    rw [hq, List.length_cons] at hroom
    refine ⟨?_, fun _ => ⟨inside', rest, hw', hp'⟩, (Nat.le_succ _).trans hroom, fun h' => ?_,
      hf.received, hf.connected, hf.handler_eq, hf.sent_eq⟩
    · exact ⟨inside' ++ rest, by rw [hw', List.append_assoc (_ ++ _)]; rfl⟩
    · change s.stopped.isSome at h'
      rw [hs] at h'
      cases h'
  · rename_i error inbound hq
    obtain ⟨rfl, hc, hshort⟩ := hp.recv_error hq
    rw [List.append_nil] at hw
    have hroom := hf.room
    rw [hq, List.length_cons] at hroom
    obtain ⟨unsent, hreplies, hunsent⟩ := hf.sent_eq
    exact ⟨hf.order, fun h' => (by cases h'), (Nat.le_succ _).trans hroom, fun _ => hbusy,
      fun _ _ => ⟨hc, rest, hw, hshort⟩, (by rintro ⟨⟩), hf.handler_eq, unsent, hreplies,
      fun h' => (by cases h')⟩
  · rename_i hq
    split
    · rename_i ht
      exact absurd ht (hp.recv_nil hq)
    · exact hf

/-- The loop writes a heartbeat. -/
theorem tick (hf : Faithful codec h application written handler s) (hbusy : s.busy = none)
    {message : ApplicationToSam} (hm : isVote message = false) (result : Option TransportError) :
    Faithful codec h application written handler (s.write message result) := by
  obtain ⟨unsent, hreplies, hunsent⟩ := hf.sent_eq
  cases result with
  | none =>
    refine ⟨hf.order, fun h' => ?_, hf.room, hf.still, hf.received, hf.connected, hf.handler_eq,
      unsent,
      ?_, hunsent⟩
    · obtain ⟨inside, rest, hw, hp⟩ := hf.inside h'
      exact ⟨inside, rest, hw, hp.congr rfl rfl id rfl rfl⟩
    · show replies h application handler s.handled = (s.sent ++ [message]).filter isVote ++ unsent
      rw [List.filter_append, List.filter_singleton, hm, hreplies]
      simp
  | some error =>
    exact ⟨hf.order, fun h' => (by cases h'), hf.room, fun _ => hbusy, fun _ h' => (by cases h'),
      (by rintro ⟨⟩), hf.handler_eq, unsent, hreplies, fun h' => (by cases h')⟩

/-- No callback runs once the loop has returned. -/
theorem running (hf : Faithful codec h application written handler s) {message : SamToApplication}
    (hb : s.busy = some message) : s.stopped = none := by
  cases hstopped : s.stopped with
  | none => rfl
  | some stop =>
    have hidle := hf.still (by rw [hstopped]; rfl)
    rw [hb] at hidle
    cases hidle

/-- A callback returns, and the loop goes on or stops. -/
theorem returned (hf : Faithful codec h application written handler s) {message : SamToApplication}
    (hb : s.busy = some message) (world : ω) (new unsent : List ApplicationToSam)
    {sent : List ApplicationToSam} {stopped : Option SessionStop}
    (hreceived : ∀ error, stopped ≠ some (.received error))
    (hclosed : stopped ≠ some .closed) (hsent : sent = s.sent ++ new)
    (hanswer : (h.messageReceived world application s.handler message).answer.toList =
      new.filter isVote ++ unsent) (hunsent : stopped = none → unsent = []) :
    Faithful codec h application written handler
      { s with
        busy := none
        handler := (h.messageReceived world application s.handler message).handler
        handled := s.handled ++ [(world, message)]
        sent := sent
        stopped := stopped } := by
  have hs := hf.running hb
  obtain ⟨inside, rest, hw, hp⟩ := hf.inside hs
  obtain ⟨unsent', hreplies, hunsent'⟩ := hf.sent_eq
  have horder := hf.order
  rw [hb, Option.toList_some] at hw horder
  have hmessages : (s.handled ++ [(world, message)]).map Prod.snd = s.messages ++ [message] :=
    List.map_append
  refine ⟨?_, fun _ => ⟨inside, rest, ?_, hp.congr rfl rfl id rfl rfl⟩, hf.room, fun _ => rfl,
    fun error he => absurd he (hreceived error), hclosed, ?_, unsent, ?_, hunsent⟩
  · show (s.handled ++ [(world, message)]).map Prod.snd ++ [] <+: written
    rw [hmessages, List.append_nil]
    exact horder
  · show written = (s.handled ++ [(world, message)]).map Prod.snd ++ [] ++ inside ++ rest
    rw [hmessages, List.append_nil]
    exact hw
  · rw [replayed_concat, ← hf.handler_eq]
  · show replies h application handler (s.handled ++ _) = sent.filter isVote ++ unsent
    rw [replies_concat, ← hf.handler_eq, hanswer, hreplies, hunsent' hs, List.append_nil, hsent,
      List.filter_append, List.append_assoc]

theorem callback (hf : Faithful codec h application written handler s) {message : SamToApplication}
    (hb : s.busy = some message) (world : ω) (result : Option TransportError) :
    Faithful codec h application written handler
      (s.callback h application message world result) := by
  have hs := hf.running hb
  unfold RunningSession.callback
  dsimp only
  split
  · rename_i hr
    refine hf.returned hb world [] [] ?_ ?_ (List.append_nil _).symm ?_ fun _ => rfl
    · rw [hs]; rintro _ ⟨⟩
    · rw [hs]; rintro ⟨⟩
    · rw [Reaction.answer, hr]; rfl
  · rename_i answer hr
    have hvote := isVote_answer hr
    cases result with
    | none =>
      refine hf.returned hb world [answer] [] ?_ ?_ rfl ?_ fun _ => rfl
      · rw [hs]; rintro _ ⟨⟩
      · rw [hs]; rintro ⟨⟩
      · rw [Reaction.answer, hr, List.filter_singleton, hvote]; rfl
    | some error =>
      refine hf.returned hb world [] [answer] (by rintro _ ⟨⟩) (by rintro ⟨⟩)
        (List.append_nil _).symm ?_ (by rintro ⟨⟩)
      rw [Reaction.answer, hr]; rfl
  · rename_i error hr
    refine hf.returned hb world [] [] (by rintro _ ⟨⟩) (by rintro ⟨⟩)
      (List.append_nil _).symm ?_ fun _ => rfl
    rw [Reaction.answer, hr]; rfl

end Faithful

/-- **Every step keeps it**, whoever takes it. -/
theorem faithful_step (hfits : ∀ message ∈ written, Fits codec DEFAULT_MAX_FRAME_SIZE message)
    (hf : Faithful codec h application written handler s) :
    Faithful codec h application written handler (step codec h application s input) := by
  cases input with
  | arrive n => exact hf.arrive n
  | close => exact hf.close
  | read => exact hf.read hfits
  | recv =>
    rw [step]
    split
    · exact hf
    · rename_i hidle
      simp only [Bool.or_eq_true, Option.isSome_iff_ne_none, not_or, not_not] at hidle
      exact hf.recv hidle.1 hidle.2
  | callback world result =>
    rw [step]
    split
    · rename_i message hb
      exact hf.callback hb world result
    · exact hf
  | tick world result =>
    rw [step]
    split
    · exact hf
    · rename_i hidle
      simp only [Bool.or_eq_true, Option.isSome_iff_ne_none, not_or, not_not] at hidle
      exact hf.tick hidle.2 rfl result

theorem faithful_run (hfits : ∀ message ∈ written, Fits codec DEFAULT_MAX_FRAME_SIZE message)
    (inputs : List (RunningInput ω)) :
    Faithful codec h application written handler
      (Machine.run (step codec h application) (start codec written handler) inputs) :=
  Machine.history_invariant (R := fun _ s => Faithful codec h application written handler s)
    faithful_start (fun _ _ => faithful_step hfits) inputs

/-- There is nothing on the connection, in the task or in the channel, and no callback
    is running. -/
structure Drained (s : RunningSession η ω) : Prop where
  idle : s.busy = none
  inbound : s.inbound = []
  task : ∃ r, s.task = .receiving r ∧ r.taken ++ s.available ++ s.unread = []

theorem Pipe.drained {inside : List SamToApplication} (hp : Pipe codec s inside rest)
    (hd : Drained s) : inside = [] ∧ rest = [] := by
  obtain ⟨r, ht, hbytes⟩ := hd.task
  cases hp with
  | receiving r' _ _ ht' hq hr hb =>
    rw [ht] at ht'
    obtain rfl := ReaderTask.receiving.inj ht'
    rw [hd.inbound] at hq
    refine ⟨List.map_eq_nil_iff.mp hq.symm, ?_⟩
    rw [hbytes] at hb
    cases rest with
    | nil => rfl
    | cons message later =>
      rw [frames_cons] at hb
      cases hb
  | sending _ _ _ ht' | failing _ _ ht' | failed _ _ ht' =>
    rw [ht] at ht'
    cases ht'

/-- **The session loop is faithful under every schedule.**  However bytes arrive, whoever is polled
    and however long callbacks take: the messages handled are a prefix of what SAM has written, and
    all of it once nothing is left; the handler is as if it had been called with one after the
    other, and the votes sent are its answers in order; never are more than `INBOUND_QUEUE_DEPTH`
    messages in the channel. -/
theorem messages_in_order (codec : Codec SamToApplication) (h : ModeHandler η ω)
    (application : ApplicationId) (written : List SamToApplication) (handler : η)
    (hfits : ∀ message ∈ written, Fits codec DEFAULT_MAX_FRAME_SIZE message)
    (inputs : List (RunningInput ω)) :
    let s := Machine.run (step codec h application) (start codec written handler) inputs
    s.messages <+: written ∧ (s.stopped = none → Drained s → s.messages = written) ∧
      s.handler = replayed h application handler s.handled ∧
      s.sent.filter isVote <+: replies h application handler s.handled ∧
      (s.stopped = none → s.sent.filter isVote = replies h application handler s.handled) ∧
      s.inbound.length ≤ INBOUND_QUEUE_DEPTH := by
  intro s
  have hf : Faithful codec h application written handler s := faithful_run hfits inputs
  obtain ⟨unsent, hreplies, hunsent⟩ := hf.sent_eq
  refine ⟨(List.prefix_append _ _).trans hf.order, fun hs hd => ?_, hf.handler_eq,
    ⟨unsent, hreplies.symm⟩, fun hs => ?_, hf.room⟩
  · obtain ⟨inside, rest, hw, hp⟩ := hf.inside hs
    obtain ⟨rfl, rfl⟩ := hp.drained hd
    rw [hw, hd.idle]
    simp
  · rw [hreplies, hunsent hs, List.append_nil]

/-- What SAM writes in a transition. -/
def orders : List SamToApplication := [.prepareMode ⟨1⟩ .standby, .commitMode ⟨1⟩ .standby]

/-- The first message comes in two pieces, the second while the callback for the first
    is running. -/
def unhurried : List (RunningInput Unit) :=
  [.tick () none, .arrive 3, .read, .tick () none, .arrive 100, .read, .read, .recv, .read, .read,
    .callback () none, .recv, .callback () none, .read]

theorem messages_in_order_demo :
    let s := Machine.run (step Postcard.samCodec recordingHandler ⟨"navigation"⟩)
      (start Postcard.samCodec orders .default) unhurried
    s.messages <+: orders ∧ (s.stopped = none → Drained s → s.messages = orders) ∧
      s.handler = replayed recordingHandler ⟨"navigation"⟩ .default s.handled ∧
      s.sent.filter isVote <+: replies recordingHandler ⟨"navigation"⟩ .default s.handled ∧
      (s.stopped = none →
        s.sent.filter isVote = replies recordingHandler ⟨"navigation"⟩ .default s.handled) ∧
      s.inbound.length ≤ INBOUND_QUEUE_DEPTH :=
  messages_in_order Postcard.samCodec recordingHandler ⟨"navigation"⟩ orders .default
    (by unfold Fits; decide) unhurried

/-- **Nothing that came is left behind.**  The loop never finds the channel closed, and when it
    returns with an error of the connection, then the connection has been closed and every message
    whose frame had arrived whole has been handled. -/
theorem nothing_left_behind (codec : Codec SamToApplication) (h : ModeHandler η ω)
    (application : ApplicationId) (written : List SamToApplication) (handler : η)
    (hfits : ∀ message ∈ written, Fits codec DEFAULT_MAX_FRAME_SIZE message)
    (inputs : List (RunningInput ω)) :
    let s := Machine.run (step codec h application) (start codec written handler) inputs
    s.stopped ≠ some .closed ∧ ∀ error, s.stopped = some (.received error) → s.closed = true ∧
      s.messages = delivered codec ((frames codec written).length - s.unread.length) written := by
  intro s
  have hf : Faithful codec h application written handler s := faithful_run hfits inputs
  refine ⟨hf.connected, fun error hs => ?_⟩
  obtain ⟨hc, rest, hw, hshort⟩ := hf.received error hs
  refine ⟨hc, ?_⟩
  rw [hw]
  exact (delivered_short hshort).symm

theorem nothing_left_behind_demo :
    let s := Machine.run (step Postcard.samCodec recordingHandler ⟨"navigation"⟩)
      (start Postcard.samCodec orders .default)
      [.arrive 8, .read, .read, .close, .recv, .read, .callback () none, .read, .recv]
    s.stopped = some (.received (.io .unexpectedEof)) ∧
      (s.stopped ≠ some .closed ∧ ∀ error, s.stopped = some (.received error) → s.closed = true ∧
        s.messages = delivered Postcard.samCodec
          ((frames Postcard.samCodec orders).length - s.unread.length) orders) :=
  ⟨by decide, nothing_left_behind Postcard.samCodec recordingHandler ⟨"navigation"⟩ orders .default
    (by unfold Fits; decide) _⟩

/-! ## A callback does not hold up the reader -/

/-- The messages in the channel. -/
def queued (s : RunningSession η ω) : List SamToApplication := s.inbound.filterMap Except.toOption

/-- The spawned task has nothing to do, or no room. -/
def Settled (s : RunningSession η ω) : Prop :=
  s.inbound.length = INBOUND_QUEUE_DEPTH ∨ s.task = .finished ∨
    s.closed = false ∧ s.available = [] ∧ ∃ r, s.task = .receiving r ∧ r.Waiting

/-- How often it can be polled until then. -/
def rank (s : RunningSession η ω) : Nat :=
  match s.task with
  | .receiving _ => 2 * s.available.length + 2
  | .sending (.ok _) => 2 * s.available.length + 3
  | .sending (.error _) => 1
  | .finished => 0

/-- A `receive` that waits has taken everything. -/
theorem poll_pending {closed : Bool} {r r' : Receiving} {available left : List UInt8}
    (hp : poll codec DEFAULT_MAX_FRAME_SIZE closed r available = (.pending r', left)) :
    left = [] := by
  have hpayload : ∀ n bytes available,
      pollPayload codec closed n bytes available = (.pending r', left) → left = [] := by
    intro n bytes available hp
    unfold pollPayload at hp
    dsimp only at hp
    split at hp
    · rename_i hshort
      rw [(readExact_short hshort []).1] at hp
      exact (Prod.mk.inj hp).2.symm
    · split at hp <;> cases hp
  cases r with
  | payload n bytes => exact hpayload n bytes available hp
  | length bytes =>
    unfold poll at hp
    dsimp only at hp
    split at hp
    · rename_i hshort
      rw [(readExact_short hshort []).1] at hp
      exact (Prod.mk.inj hp).2.symm
    · split at hp
      · cases hp
      · exact hpayload _ _ _ hp

/-- A `receive` that waits has less than a frame. -/
theorem short_of_waiting {r : Receiving} {bytes : List UInt8} (hr : r.Waiting)
    (hfits : ∀ message ∈ rest, Fits codec DEFAULT_MAX_FRAME_SIZE message)
    (hb : r.taken ++ bytes = frames codec rest) :
    ∀ message later, rest = message :: later → r.taken.length < (frame codec message).length := by
  rintro message later rfl
  rw [frame, List.length_append, length_toBeBytes]
  cases r with
  | length taken =>
    have hlt : taken.length < 4 := hr
    show taken.length < _
    omega
  | payload n taken =>
    have hfit : (codec.toBytes message).length ≤ DEFAULT_MAX_FRAME_SIZE :=
      hfits message List.mem_cons_self
    rw [frames_cons, Receiving.taken, List.append_assoc] at hb
    have hn := toBeBytes_inj hr.1 (hfit.trans_lt (by decide)) (List.append_inj hb rfl).1
    have hlt : taken.length < n := hr.2
    rw [Receiving.taken, List.length_append, length_toBeBytes]
    omega

/-- The spawned task settles or gets nearer to it. -/
theorem Pipe.settles {inside : List SamToApplication} (hp : Pipe codec s inside rest)
    (hfits : ∀ message ∈ rest, Fits codec DEFAULT_MAX_FRAME_SIZE message) (hs : s.stopped = none)
    (hroom : s.inbound.length ≤ INBOUND_QUEUE_DEPTH) :
    Settled (s.read codec) ∨ (s.read codec).rank < s.rank := by
  have hrunning : ¬ s.stopped.isSome := by simp [hs]
  unfold RunningSession.read
  cases hp with
  | receiving r queued _ ht hq hr hb =>
    have hshort : ∀ message later, rest = message :: later →
        r.taken.length < (frame codec message).length :=
      short_of_waiting hr hfits (by rw [← List.append_assoc]; exact hb)
    have hspec := @poll_spec _ codec DEFAULT_MAX_FRAME_SIZE s.closed r s.available s.unread rest
      (by decide) hfits hr hb
    have hpending := @poll_pending codec s.closed r
    simp only [ht, rank]
    generalize hpoll : poll codec DEFAULT_MAX_FRAME_SIZE s.closed r s.available = p at hspec
    cases hspec with
    | pending r' available hc hw =>
      exact .inl (.inr (.inr ⟨hc, hpending hpoll, r', rfl, hw⟩))
    | ready message later available hm hbytes =>
      -- at least one byte has been taken
      have hlt := hshort message later hm
      have hlength := congrArg List.length hb
      rw [hm, frames, List.flatMap_cons, List.length_append, List.length_append, List.length_append]
        at hlength
      have hlength' := congrArg List.length hbytes
      rw [List.length_append, frames] at hlength'
      right
      show 2 * available.length + 3 < 2 * s.available.length + 2
      omega
    | closed available hc =>
      right
      show 1 < 2 * s.available.length + 2
      omega
  | sending message queued _ ht hq hb =>
    simp only [ht, rank, if_neg hrunning]
    split
    · right
      show 2 * s.available.length + 2 < _
      omega
    · exact .inl (.inl (by omega))
  | failing queued _ ht hq hc hb =>
    simp only [ht, rank, if_neg hrunning]
    split
    · exact .inl (.inr (.inl rfl))
    · exact .inl (.inl (by omega))
  | failed queued _ ht hq hc hb =>
    simp only [ht]
    exact .inl (.inr (.inl ht))

/-- Polled on nothing, a `receive` waits on. -/
theorem poll_empty {r : Receiving} (hr : r.Waiting) :
    poll codec DEFAULT_MAX_FRAME_SIZE false r [] = (.pending r, []) := by
  cases r with
  | length bytes =>
    simp [poll, readExact, show bytes.length < 4 from hr]
  | payload n bytes =>
    simp [poll, pollPayload, readExact, show bytes.length < n from hr.2]

/-- Once it has settled it stays so. -/
theorem Settled.read (hset : Settled s) : Settled (s.read codec) := by
  unfold RunningSession.read
  rcases hset with hfull | hdone | ⟨hc, havailable, r, ht, hr⟩
  · left
    split
    · split <;> exact hfull
    · split
      · exact hfull
      · rw [if_neg (by omega)]
        exact hfull
    · exact hfull
  · rw [hdone]
    exact .inr (.inl hdone)
  · simp only [ht, hc, havailable, poll_empty hr]
    exact .inr (.inr ⟨rfl, rfl, r, rfl, hr⟩)

theorem rank_le (s : RunningSession η ω) : s.rank ≤ 2 * s.available.length + 3 := by
  unfold rank
  split <;> omega

/-- Polled often enough, the task settles; nothing else moves. -/
theorem settled_run (hfits : ∀ message ∈ written, Fits codec DEFAULT_MAX_FRAME_SIZE message)
    (hf : Faithful codec h application written handler s) (hs : s.stopped = none) {n : Nat}
    (hn : Settled s ∨ s.rank ≤ n) :
    let s' := Machine.run (step codec h application) s (List.replicate n .read)
    Faithful codec h application written handler s' ∧ Settled s' ∧ s'.stopped = none ∧
      s'.handled = s.handled ∧ s'.busy = s.busy ∧ s'.unread = s.unread := by
  induction n generalizing s with
  | zero =>
    refine ⟨hf, hn.elim id fun hrank => .inr (.inl ?_), hs, rfl, rfl, rfl⟩
    unfold rank at hrank
    split at hrank
    · omega
    · omega
    · omega
    · assumption
  | succ n ih =>
    have hf' := hf.read hfits
    have hnext : Settled (s.read codec) ∨ (s.read codec).rank ≤ n := by
      rcases hn with hset | hrank
      · exact .inl hset.read
      · obtain ⟨inside, rest, hw, hp⟩ := hf.inside hs
        have hrest : ∀ message ∈ rest, Fits codec DEFAULT_MAX_FRAME_SIZE message :=
          fun message hm => hfits message (by rw [hw]; exact List.mem_append_right _ hm)
        exact (hp.settles hrest hs hf.room).imp_right (by omega)
    obtain ⟨available, task, inbound, heq, -⟩ := Faithful.read_eq codec s
    have hrun := ih hf' (by rw [heq]; exact hs) hnext
    rw [heq] at hrun
    rw [List.replicate_succ, Machine.run_cons, step, heq]
    exact hrun

/-- What has settled has all that came whole. -/
theorem Settled.queued (hset : Settled s) (hs : s.stopped = none)
    (hfits : ∀ message ∈ written, Fits codec DEFAULT_MAX_FRAME_SIZE message)
    (hf : Faithful codec h application written handler s) :
    s.inbound.length = INBOUND_QUEUE_DEPTH ∨
      s.messages ++ s.busy.toList ++ s.queued =
        delivered codec ((frames codec written).length - s.unread.length) written := by
  have hqueue : ∀ inside : List SamToApplication,
    ∀ more : List (Except TransportError SamToApplication),
      (∀ x ∈ more, x.toOption = none) → s.inbound = inside.map .ok ++ more → s.queued = inside := by
    intro inside more hmore h
    unfold RunningSession.queued
    rw [h, List.filterMap_append, List.filterMap_map, List.filterMap_eq_nil_iff.mpr hmore,
      List.append_nil]
    exact List.filterMap_some
  obtain ⟨inside, rest, hw, hp⟩ := hf.inside hs
  rcases hset with hfull | hdone | ⟨hc, havailable, r, ht, hr⟩
  · exact .inl hfull
  · right
    cases hp with
    | receiving _ _ _ ht | sending _ _ _ ht | failing _ _ ht =>
      rw [hdone] at ht
      cases ht
    | failed _ _ ht hq hc hb =>
      rw [hqueue inside [.error (.io .unexpectedEof)] (by simp [Except.toOption]) hq, hw]
      exact (delivered_short hb).symm
  · right
    cases hp with
    | receiving r' _ _ ht' hq hr' hb =>
      rw [havailable, List.append_nil] at hb
      have hrest : ∀ message ∈ rest, Fits codec DEFAULT_MAX_FRAME_SIZE message :=
        fun message hm => hfits message (by rw [hw]; exact List.mem_append_right _ hm)
      rw [hqueue inside [] (by simp) (hq.trans (List.append_nil _).symm), hw]
      exact (delivered_short ⟨r'.taken, hb, short_of_waiting hr' hrest hb⟩).symm
    | sending _ _ _ ht' | failing _ _ ht' | failed _ _ ht' =>
      rw [ht] at ht'
      cases ht'

/-- **A callback does not hold up the reader.**  From any state the loop can be in, with a callback
    running or not, polling the spawned task alone fills the channel or gets every message into it
    whose frame has arrived whole. -/
theorem reader_keeps_up (codec : Codec SamToApplication) (h : ModeHandler η ω)
    (application : ApplicationId) (written : List SamToApplication) (handler : η)
    (hfits : ∀ message ∈ written, Fits codec DEFAULT_MAX_FRAME_SIZE message)
    (inputs : List (RunningInput ω)) (n : Nat) :
    let s := Machine.run (step codec h application) (start codec written handler) inputs
    let s' := Machine.run (step codec h application) s (List.replicate n .read)
    s.stopped = none → 2 * s.available.length + 3 ≤ n →
    s'.handled = s.handled ∧ s'.busy = s.busy ∧
      (s'.inbound.length = INBOUND_QUEUE_DEPTH ∨
        s'.messages ++ s'.busy.toList ++ s'.queued =
          delivered codec ((frames codec written).length - s.unread.length) written) := by
  intro s s' hs hn
  have hf : Faithful codec h application written handler s := faithful_run hfits inputs
  obtain ⟨hf', hset, hs', hhandled, hbusy, hunread⟩ :=
    settled_run hfits hf hs (.inr ((rank_le s).trans hn))
  refine ⟨hhandled, hbusy, ?_⟩
  have hqueued := hset.queued hs' hfits hf'
  rw [hunread] at hqueued
  exact hqueued

theorem reader_keeps_up_demo :
    let s := Machine.run (step Postcard.samCodec recordingHandler ⟨"navigation"⟩)
      (start Postcard.samCodec orders .default) [.arrive 7, .read, .read, .recv, .arrive 7]
    let s' := Machine.run (step Postcard.samCodec recordingHandler ⟨"navigation"⟩) s
      (List.replicate 17 .read)
    s'.handled = s.handled ∧ s'.busy = s.busy ∧
      (s'.inbound.length = INBOUND_QUEUE_DEPTH ∨
        s'.messages ++ s'.busy.toList ++ s'.queued = delivered Postcard.samCodec
          ((frames Postcard.samCodec orders).length - s.unread.length) orders) :=
  reader_keeps_up Postcard.samCodec recordingHandler ⟨"navigation"⟩ orders .default
    (by unfold Fits; decide) [.arrive 7, .read, .read, .recv, .arrive 7] 17 (by decide) (by decide)

end RunningSession

end Sam
