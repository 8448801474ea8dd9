import Sam.System.Network

/-!
# The bytes of a connection carry its messages

What the loops at the two ends of a connection have before them is the messages of the link, in
their order, and perhaps a part of one more that was never written whole.

* `Upward` — the stream to SAM, read by `Session`.
* `Downward` — the stream to an application, read by its registration and then by
  `RunningSession`.

Each loop is faithful to what was written (`Session.faithful_step`, `RunningSession.faithful_step`);
here more is written while it runs.
-/

namespace Sam

variable {η ω : Type*}

/-! ## The stream to SAM -/

namespace Session

variable {codec : Codec ApplicationToSam} {s : Session} {written : List ApplicationToSam}
  {missing : List UInt8} {input : SessionInput}

theorem extend_nil : s.extend [] = s := by
  unfold extend
  rw [List.append_nil]

theorem extend_extend (bytes bytes' : List UInt8) :
    (s.extend bytes).extend bytes' = s.extend (bytes ++ bytes') := by
  unfold extend
  rw [List.append_assoc]

/-- The loop does not see what has not arrived. -/
theorem step_extend (codec : Codec ApplicationToSam) (s : Session) (missing : List UInt8)
    (input : SessionInput) :
    ∃ input', step codec (s.extend missing) input' = (step codec s input).extend missing ∧
      (s.Undisturbed input → (s.extend missing).Undisturbed input') := by
  have hsame : ∀ input, (∀ n, input ≠ .arrive n) →
      step codec (s.extend missing) input = (step codec s input).extend missing := by
    intro input hinput
    unfold step
    by_cases hend : s.ended.isSome
    · rw [if_pos hend, if_pos (show (s.extend missing).ended.isSome from hend)]
    rw [if_neg hend, if_neg (show ¬ (s.extend missing).ended.isSome from hend)]
    cases input with
    | arrive n => exact absurd rfl (hinput n)
    | incoming accepted =>
      dsimp only [extend]
      split <;> rfl
    | close | outgoing _ | outboundClosed => rfl
  cases input with
  | arrive n =>
    refine ⟨.arrive (min n s.unread.length), ?_, fun _ => trivial⟩
    unfold step
    by_cases hend : s.ended.isSome
    · rw [if_pos hend, if_pos (show (s.extend missing).ended.isSome from hend)]
    rw [if_neg hend, if_neg (show ¬ (s.extend missing).ended.isSome from hend)]
    obtain ⟨htake, hdrop⟩ := take_unwritten s.unread missing n
    by_cases hc : s.closed
    · simp [extend, hc]
    · simp [extend, hc, htake, hdrop]
  | close => exact ⟨.close, hsame .close (by rintro _ ⟨⟩), id⟩
  | incoming accepted => exact ⟨.incoming accepted, hsame (.incoming accepted) (by rintro _ ⟨⟩), id⟩
  | outgoing written => exact ⟨.outgoing written, hsame (.outgoing written) (by rintro _ ⟨⟩), id⟩
  | outboundClosed => exact ⟨.outboundClosed, hsame .outboundClosed (by rintro _ ⟨⟩), id⟩

/-- More messages are written. -/
theorem Faithful.more (hf : Faithful codec written s) (more : List ApplicationToSam) :
    Faithful codec (written ++ more) (s.extend (frames codec more)) := by
  obtain ⟨rest, hw, hlive⟩ := hf.rest
  refine ⟨⟨rest ++ more, ?_, fun hend => ?_⟩, hf.closed⟩
  · rw [hw, List.append_assoc]
    rfl
  · obtain ⟨hwait, hbytes⟩ := hlive hend
    refine ⟨hwait, ?_⟩
    rw [frames_append, ← hbytes]
    exact (List.append_assoc _ _ _).symm

/-- A message that the loop receives. -/
theorem step_message {message : ApplicationToSam} (hend : s.ended = none)
    (hnext : s.next codec = .ready (.ok message)) (accepted : Bool) :
    (step codec s (.incoming accepted)).handled = s.handled ++ [message] ∧
      ((step codec s (.incoming accepted)).ended = none ↔ accepted = true) := by
  unfold step next at *
  rw [hend]
  generalize poll codec DEFAULT_MAX_FRAME_SIZE s.closed s.receiving s.available = p at hnext
  obtain ⟨outcome, available⟩ := p
  dsimp only at hnext
  subst hnext
  cases accepted <;> simp

/-- Without a message nothing is handed over. -/
theorem step_nothing (hnext : ∀ message, s.next codec ≠ .ready (.ok message)) (accepted : Bool) :
    (step codec s (.incoming accepted)).handled = s.handled := by
  unfold step next at *
  generalize poll codec DEFAULT_MAX_FRAME_SIZE s.closed s.receiving s.available = p at hnext
  obtain ⟨outcome, available⟩ := p
  split
  · rfl
  · match outcome with
    | .pending receiving => rfl
    | .ready (.error error) => rfl
    | .ready (.ok message) => exact absurd rfl (hnext message)

theorem step_pending {receiving : Receiving} (hnext : s.next codec = .pending receiving)
    (accepted : Bool) :
    (step codec s (.incoming accepted)).ended = s.ended := by
  unfold step next at *
  generalize poll codec DEFAULT_MAX_FRAME_SIZE s.closed s.receiving s.available = p at hnext
  obtain ⟨outcome, available⟩ := p
  dsimp only at hnext
  subst hnext
  split <;> rfl

/-- The loop goes on once it has written a message. -/
theorem step_outgoing (codec : Codec ApplicationToSam) (s : Session) (written : Bool) :
    (step codec s (.outgoing written)).handled = s.handled ∧
      (written = true → s.ended = none → (step codec s (.outgoing written)).ended = none) := by
  unfold step
  split
  · exact ⟨rfl, fun _ => id⟩
  · exact ⟨rfl, fun hw _ => by rw [hw]; rfl⟩

/-- Bytes arrive, or none will. -/
theorem step_stream (codec : Codec ApplicationToSam) (s : Session)
    (hin : (∃ n, input = .arrive n) ∨ input = .close) :
    (step codec s input).handled = s.handled ∧ (step codec s input).ended = s.ended := by
  unfold step
  rcases hin with ⟨n, rfl⟩ | rfl
  · split
    · exact ⟨rfl, rfl⟩
    · dsimp only
      split
      · exact ⟨rfl, rfl⟩
      · exact ⟨rfl, rfl⟩
  · split
    · exact ⟨rfl, rfl⟩
    · exact ⟨rfl, rfl⟩

end Session

/-- The bytes a session task has before it carry the messages of its link. -/
structure Upward (codec : Codec ApplicationToSam) (writing : Prop) (link : Link)
    (session : Session) : Prop where
  taken : session.handled = link.taken
  flow : ∃ written missing, Flow codec writing link.taken link.up written missing ∧
    Session.Faithful codec written (session.extend missing)

namespace Upward

variable {codec : Codec ApplicationToSam} {writing writing' : Prop} {link link' : Link}
  {session : Session} {message : ApplicationToSam}

theorem new : Upward codec writing .unused Connection.unused.session where
  taken := rfl
  flow := ⟨[], [], .new, Session.faithful_start⟩

theorem imp (h : Upward codec writing link session) (hw : writing' → writing) :
    Upward codec writing' link session := by
  obtain ⟨written, missing, hflow, hf⟩ := h.flow
  exact ⟨h.taken, written, missing, hflow.imp hw, hf⟩

theorem congr (h : Upward codec writing link session) (hup : link'.up = link.up)
    (htaken : link'.taken = link.taken) : Upward codec writing link' session := by
  obtain ⟨written, missing, hflow, hf⟩ := h.flow
  rw [← hup, ← htaken] at hflow
  exact ⟨h.taken.trans htaken.symm, written, missing, hflow, hf⟩

/-- The loop makes a step and has received nothing. -/
theorem step (h : Upward codec writing link session) (input : SessionInput)
    (hin : session.Undisturbed input)
    (hsame : (session.step codec input).handled = session.handled) :
    Upward codec writing link (session.step codec input) := by
  obtain ⟨written, missing, hflow, hf⟩ := h.flow
  obtain ⟨input', hstep, hin'⟩ := session.step_extend codec missing input
  refine ⟨hsame.trans h.taken, written, missing, hflow, ?_⟩
  rw [← hstep]
  exact Session.faithful_step hflow.fits hf (hin' hin)

/-- The loop receives the next message of the link. -/
theorem receive (h : Upward codec writing link session) (hend : session.ended = none)
    (hnext : session.next codec = .ready (.ok message)) (accepted : Bool) :
    ∃ up, link.up = message :: up ∧
      ∀ task, Upward codec writing (link.take message up task)
      (session.step codec (.incoming accepted)) := by
  obtain ⟨written, missing, hflow, hf⟩ := h.flow
  have hstep : ∀ accepted,
      Session.Faithful codec written
        ((session.step codec (.incoming accepted)).extend missing) := by
    intro accepted
    obtain ⟨input', hstep, hin'⟩ := session.step_extend codec missing (.incoming accepted)
    rw [← hstep]
    exact Session.faithful_step hflow.fits hf (hin' trivial)
  obtain ⟨hhandled, hended⟩ := Session.step_message hend hnext true
  obtain ⟨later, hlater, hlive⟩ := (hstep true).rest
  have hwritten : written = link.taken ++ message :: later := by
    rw [hlater, ← h.taken, ← List.singleton_append, ← List.append_assoc]
    exact congrArg (· ++ later) hhandled
  obtain ⟨up, hup, hflow'⟩ := hflow.read hwritten fun hnil => by
    have hbytes := (hlive (hended.mpr rfl)).2
    rw [hnil] at hbytes
    exact (List.append_eq_nil_iff.mp (List.append_eq_nil_iff.mp hbytes).2).2
  refine ⟨up, hup, fun task => ⟨?_, written, missing, hflow', hstep accepted⟩⟩
  rw [(Session.step_message hend hnext accepted).1, h.taken]
  rfl

/-- The application writes a message, -/
theorem sent (h : Upward codec writing link session) (hw : writing)
    (hfit : Fits codec DEFAULT_MAX_FRAME_SIZE message) :
    Upward codec writing (link.write message) (session.extend (frames codec [message])) := by
  obtain ⟨written, missing, hflow, hf⟩ := h.flow
  obtain rfl := hflow.whole hw
  rw [Session.extend_nil] at hf
  refine ⟨h.taken, written ++ [message], [], hflow.sent hw hfit, ?_⟩
  rw [Session.extend_nil]
  exact hf.more [message]

/-- or fails to, and goes. -/
theorem unsent (h : Upward codec writing link session) (hw : writing) {error : TransportError}
    {bytes : List UInt8} (hspec : SendSpec codec message (some error, bytes)) (hgone : ¬ writing') :
    Upward codec writing' link (session.extend bytes) := by
  obtain ⟨written, missing, hflow, hf⟩ := h.flow
  obtain rfl := hflow.whole hw
  rw [Session.extend_nil] at hf
  obtain ⟨more, missing', hbytes, hflow'⟩ := hflow.failed hw hspec hgone
  refine ⟨h.taken, written ++ more, missing', ?_, ?_⟩
  · have := hflow' []
    rwa [List.append_nil] at this
  · rw [Session.extend_extend, hbytes]
    exact hf.more more

end Upward

/-! ## The stream to an application -/

namespace RunningSession

variable {codec : Codec SamToApplication} {h : ModeHandler η ω} {a : ApplicationId}
  {s : RunningSession η ω} {written rest inside : List SamToApplication} {handler : η}
  {missing : List UInt8} {input : RunningInput ω}

theorem extend_nil : s.extend [] = s := by
  unfold extend
  rw [List.append_nil]

theorem extend_extend (bytes bytes' : List UInt8) :
    (s.extend bytes).extend bytes' = s.extend (bytes ++ bytes') := by
  unfold extend
  rw [List.append_assoc]

theorem read_extend : (s.extend missing).read codec = (s.read codec).extend missing := by
  unfold RunningSession.read
  dsimp only [extend]
  split
  · split <;> rfl
  · by_cases hs : s.stopped.isSome
    · simp [hs]
    · by_cases hroom : s.inbound.length < INBOUND_QUEUE_DEPTH
      · simp [hs, hroom]
      · simp [hs, hroom]
  · rfl

theorem recv_extend : (s.extend missing).recv = s.recv.extend missing := by
  unfold RunningSession.recv
  dsimp only [extend]
  split
  · rfl
  · rfl
  · split <;> rfl

theorem write_extend (message : ApplicationToSam) (result : Option TransportError) :
    (s.extend missing).write message result = (s.write message result).extend missing := by
  cases result <;> rfl

theorem callback_extend (message : SamToApplication) (world : ω) (result : Option TransportError) :
    (s.extend missing).callback h a message world result =
      (s.callback h a message world result).extend missing := by
  unfold RunningSession.callback
  dsimp only [extend]
  split
  · rfl
  · cases result <;> rfl
  · rfl

/-- The loop does not see what has not arrived. -/
theorem step_extend (codec : Codec SamToApplication) (h : ModeHandler η ω) (a : ApplicationId)
    (s : RunningSession η ω) (missing : List UInt8) (input : RunningInput ω) :
    ∃ input', step codec h a (s.extend missing) input' =
      (step codec h a s input).extend missing := by
  cases input with
  | arrive n =>
    refine ⟨.arrive (min n s.unread.length), ?_⟩
    obtain ⟨htake, hdrop⟩ := take_unwritten s.unread missing n
    by_cases hc : s.closed
    · simp [step, extend, hc]
    · simp [step, extend, hc, htake, hdrop]
  | close => exact ⟨.close, rfl⟩
  | read => exact ⟨.read, read_extend⟩
  | recv =>
    refine ⟨.recv, ?_⟩
    rw [step, step, recv_extend]
    exact (apply_ite (extend · missing) _ _ _).symm
  | callback world result =>
    refine ⟨.callback world result, ?_⟩
    rw [step, step]
    dsimp only [extend]
    split
    · exact callback_extend _ world result
    · rfl
  | tick world result =>
    refine ⟨.tick world result, ?_⟩
    rw [step, step, write_extend]
    exact (apply_ite (extend · missing) _ _ _).symm

theorem Short.more {unread : List UInt8} (hb : Short codec unread rest)
    (more : List SamToApplication) :
    Short codec (unread ++ frames codec more) (rest ++ more) := by
  obtain ⟨bytes, hbytes, hshort⟩ := hb
  refine ⟨bytes, by rw [frames_append, ← hbytes, List.append_assoc], fun message later hlater => ?_⟩
  cases rest with
  | nil =>
    obtain ⟨rfl, -⟩ := List.append_eq_nil_iff.mp hbytes
    rw [frame, List.length_append, length_toBeBytes, List.length_nil]
    omega
  | cons m rest =>
    rw [List.cons_append] at hlater
    obtain ⟨rfl, -⟩ := List.cons.inj hlater
    exact hshort m rest rfl

theorem Pipe.more (hp : Pipe codec s inside rest) (more : List SamToApplication) :
    Pipe codec (s.extend (frames codec more)) inside (rest ++ more) := by
  have hbytes : ∀ taken : List UInt8, taken ++ s.unread = frames codec rest →
      taken ++ (s.unread ++ frames codec more) = frames codec (rest ++ more) := by
    intro taken hb
    rw [frames_append, ← hb, List.append_assoc]
  cases hp with
  | receiving r _ _ ht hq hr hb => exact .receiving r inside _ ht hq hr (hbytes _ hb)
  | sending message queued _ ht hq hb => exact .sending message queued _ ht hq (hbytes _ hb)
  | failing _ _ ht hq hc hb => exact .failing inside _ ht hq hc (hb.more more)
  | failed _ _ ht hq hc hb => exact .failed inside _ ht hq hc (hb.more more)

/-- At the end of the stream no byte is left. -/
theorem Pipe.unread_nil (hp : Pipe codec s inside []) : s.unread = [] := by
  cases hp with
  | receiving _ _ _ _ _ _ hb => exact (List.append_eq_nil_iff.mp hb).2
  | sending _ _ _ _ _ hb => exact (List.append_eq_nil_iff.mp hb).2
  | failing _ _ _ _ _ hb | failed _ _ _ _ _ hb =>
    obtain ⟨bytes, hbytes, -⟩ := hb
    exact (List.append_eq_nil_iff.mp hbytes).2

/-- More messages are written. -/
theorem Faithful.more (hf : Faithful codec h a written handler s) (more : List SamToApplication) :
    Faithful codec h a (written ++ more) handler (s.extend (frames codec more)) where
  order := hf.order.trans (List.prefix_append _ _)
  inside hs := by
    obtain ⟨inside, rest, hw, hp⟩ := hf.inside hs
    refine ⟨inside, rest ++ more, ?_, hp.more more⟩
    rw [hw, List.append_assoc]
    rfl
  room := hf.room
  still := hf.still
  received error hs := by
    obtain ⟨hc, rest, hw, hshort⟩ := hf.received error hs
    refine ⟨hc, rest ++ more, ?_, hshort.more more⟩
    rw [hw, List.append_assoc]
    rfl
  connected := hf.connected
  handler_eq := hf.handler_eq
  sent_eq := hf.sent_eq

/-- The loop is entered on a connection on which more has been received. -/
theorem faithful_entered {unread available : List UInt8} (closed : Bool)
    (hb : available ++ unread = frames codec written) :
    Faithful codec h a written handler
      { start codec [] handler with unread := unread, available := available, closed := closed }
        where
  order := List.nil_prefix
  inside _ := ⟨[], written, rfl, .receiving .start [] written rfl rfl (Nat.zero_lt_succ 3) hb⟩
  room := Nat.zero_le _
  still _ := rfl
  received _ hs := by cases hs
  connected := by rintro ⟨⟩
  handler_eq := rfl
  sent_eq := ⟨[], rfl, fun _ => rfl⟩

/-- Only callbacks change the handler; without one the loop stops for what is not permanent. -/
theorem step_other (codec : Codec SamToApplication) (h : ModeHandler η ω) (a : ApplicationId)
    (s : RunningSession η ω) (hin : ∀ world result, input ≠ .callback world result) :
    (step codec h a s input).handled = s.handled ∧ (step codec h a s input).handler = s.handler ∧
      (s.stopped = none → ∀ stop, (step codec h a s input).stopped = some stop →
        stop.error.isPermanent = false) := by
  have hrunning : ∀ s' : RunningSession η ω, s'.stopped = s.stopped →
      s.stopped = none → ∀ stop, s'.stopped = some stop → stop.error.isPermanent = false := by
    intro s' heq hs stop hstop
    rw [heq, hs] at hstop
    cases hstop
  have hwrite : ∀ message result, s.stopped = none →
    ∀ stop, (s.write message result).stopped = some stop →
      stop.error.isPermanent = false := by
    intro message result hs stop hstop
    cases result with
    | none => exact hrunning _ rfl hs stop hstop
    | some error =>
      cases hstop
      rfl
  cases input with
  | arrive n =>
    rw [step]
    split
    · exact ⟨rfl, rfl, hrunning _ rfl⟩
    · exact ⟨rfl, rfl, hrunning _ rfl⟩
  | close => exact ⟨rfl, rfl, hrunning _ rfl⟩
  | read =>
    obtain ⟨available, task, inbound, heq, -⟩ := Faithful.read_eq codec s
    rw [step, heq]
    exact ⟨rfl, rfl, hrunning _ rfl⟩
  | recv =>
    rw [step]
    split
    · exact ⟨rfl, rfl, hrunning _ rfl⟩
    · unfold RunningSession.recv
      split
      · exact ⟨rfl, rfl, hrunning _ rfl⟩
      · refine ⟨rfl, rfl, fun _ stop hstop => ?_⟩
        cases hstop
        rfl
      · split
        · refine ⟨rfl, rfl, fun _ stop hstop => ?_⟩
          cases hstop
          rfl
        · exact ⟨rfl, rfl, hrunning _ rfl⟩
  | callback world result => exact absurd rfl (hin world result)
  | tick world result =>
    rw [step]
    split
    · exact ⟨rfl, rfl, hrunning _ rfl⟩
    · refine ⟨?_, ?_, hwrite _ result⟩
      · cases result <;> rfl
      · cases result <;> rfl

/-- The callback has returned. -/
theorem step_callback (codec : Codec SamToApplication) (h : ModeHandler η ω) (a : ApplicationId)
    {message : SamToApplication} (hb : s.busy = some message) (world : ω)
    (result : Option TransportError) :
    (step codec h a s (.callback world result)).handled = s.handled ++ [(world, message)] ∧
      (step codec h a s (.callback world result)).handler =
        (h.messageReceived world a s.handler message).handler ∧
      (step codec h a s (.callback world result)).stopped =
        match (h.messageReceived world a s.handler message).result, result with
        | .ok (some _), some error => some (.unsent error)
        | .error error, _ => some (.callback error)
        | _, _ => s.stopped := by
  rw [step, hb]
  dsimp only
  unfold RunningSession.callback
  dsimp only
  split
  · rename_i hr
    exact ⟨rfl, rfl, by rw [hr]⟩
  · rename_i answer hr
    cases result with
    | none => exact ⟨rfl, rfl, by rw [hr]; rfl⟩
    | some error => exact ⟨rfl, rfl, by rw [hr]; rfl⟩
  · rename_i error hr
    exact ⟨rfl, rfl, by rw [hr]⟩

end RunningSession

/-- The bytes an application has before it carry the messages of its link. -/
inductive Downward (codec : Codec SamToApplication) (h : ModeHandler η ω) (a : ApplicationId)
    (serving : Prop) (link : Link) : ClientTask η ω → Prop where
  | idle (handler : η) : Downward codec h a serving link (.idle handler)
  | stopped (handler : η) : Downward codec h a serving link (.stopped handler)
  | registering (k : Nat) (r : Registering η) (written : List SamToApplication)
    (missing : List UInt8)
      (hflow : Flow codec serving [] link.down written missing) (hw : r.receiving.Waiting)
      (hb : r.receiving.taken ++ r.available ++ (r.unread ++ missing) = frames codec written) :
      Downward codec h a serving link (.registering k r)
  | running (k : Nat) (s : RunningSession η ω) (written : List SamToApplication)
      (missing : List UInt8) (handler : η)
      (hflow : Flow codec serving s.messages link.down written missing)
      (hf : RunningSession.Faithful codec h a written handler (s.extend missing))
      (hs : s.stopped = none) : Downward codec h a serving link (.running k s)

namespace Downward

variable {codec : Codec SamToApplication} {h : ModeHandler η ω} {a : ApplicationId}
  {serving serving' : Prop} {link link' : Link} {task : ClientTask η ω} {k : Nat}
  {r : Registering η} {s : RunningSession η ω} {message : SamToApplication} {input : RunningInput ω}

theorem imp (hd : Downward codec h a serving link task) (himp : serving' → serving) :
    Downward codec h a serving' link task := by
  cases hd with
  | idle handler => exact .idle handler
  | stopped handler => exact .stopped handler
  | registering k r written missing hflow hw hb =>
    exact .registering k r written missing (hflow.imp himp) hw hb
  | running k s written missing handler hflow hf hs =>
    exact .running k s written missing handler (hflow.imp himp) hf hs

theorem congr (hd : Downward codec h a serving link task) (hdown : link'.down = link.down) :
    Downward codec h a serving link' task := by
  cases hd with
  | idle handler => exact .idle handler
  | stopped handler => exact .stopped handler
  | registering k r written missing hflow hw hb =>
    exact .registering k r written missing (hdown ▸ hflow) hw hb
  | running k s written missing handler hflow hf hs =>
    exact .running k s written missing handler (hdown ▸ hflow) hf hs

/-- A session task writes a message, -/
theorem sent (hd : Downward codec h a serving link task) (hserving : serving)
    (hfit : Fits codec DEFAULT_MAX_FRAME_SIZE message) (hon : task.link? = some k)
    (hdown : link'.down = link.down ++ [message]) :
    Downward codec h a serving link' (task.receives k (frames codec [message])) := by
  cases hd with
  | idle handler => exact .idle handler
  | stopped handler => exact .stopped handler
  | registering k' r written missing hflow hw hb =>
    obtain rfl : k' = k := Option.some.inj hon
    obtain rfl := hflow.whole hserving
    rw [ClientTask.receives, if_pos rfl]
    refine .registering k' _ (written ++ [message]) [] (hdown ▸ hflow.sent hserving hfit) hw ?_
    rw [frames_append, ← hb]
    simp
  | running k' s written missing handler hflow hf hs =>
    obtain rfl : k' = k := Option.some.inj hon
    obtain rfl := hflow.whole hserving
    rw [ClientTask.receives, if_pos rfl]
    refine .running k' _ (written ++ [message]) [] handler (hdown ▸ hflow.sent hserving hfit) ?_ hs
    rw [RunningSession.extend_nil] at hf ⊢
    exact hf.more [message]

/-- or fails to, and ends. -/
theorem unsent (hd : Downward codec h a serving link task) (hserving : serving)
    {error : TransportError} {bytes : List UInt8}
    (hspec : SendSpec codec message (some error, bytes))
    (hgone : ¬ serving') (hon : task.link? = some k) {unheard : List SamToApplication}
    (hdown : link'.down = link.down ++ unheard) :
    Downward codec h a serving' link' (task.receives k bytes) := by
  cases hd with
  | idle handler => exact .idle handler
  | stopped handler => exact .stopped handler
  | registering k' r written missing hflow hw hb =>
    obtain rfl : k' = k := Option.some.inj hon
    obtain rfl := hflow.whole hserving
    obtain ⟨more, missing', hbytes, hflow'⟩ := hflow.failed hserving hspec hgone
    rw [ClientTask.receives, if_pos rfl]
    refine .registering k' _ (written ++ more) missing' (hdown ▸ hflow' unheard) hw ?_
    rw [frames_append, ← hb, ← hbytes]
    simp
  | running k' s written missing handler hflow hf hs =>
    obtain rfl : k' = k := Option.some.inj hon
    obtain rfl := hflow.whole hserving
    obtain ⟨more, missing', hbytes, hflow'⟩ := hflow.failed hserving hspec hgone
    rw [ClientTask.receives, if_pos rfl]
    refine .running k' _ (written ++ more) missing' handler (hdown ▸ hflow' unheard) ?_ hs
    rw [RunningSession.extend_nil] at hf
    rw [RunningSession.extend_extend, hbytes]
    exact hf.more more

/-! ### The registration -/

/-- The answer is waited for. -/
theorem waiting (hd : Downward codec h a serving link (.registering k r)) {receiving : Receiving}
    {available : List UInt8}
    (hpoll : poll codec DEFAULT_MAX_FRAME_SIZE r.closed r.receiving r.available =
      (.pending receiving, available)) :
    Downward codec h a serving link
      (.registering k { r with receiving := receiving, available := available }) := by
  cases hd with
  | registering _ _ written missing hflow hw hb =>
    have hspec := @poll_spec _ codec DEFAULT_MAX_FRAME_SIZE r.closed r.receiving r.available
      (r.unread ++ missing) written (by decide) hflow.fits hw hb
    rw [hpoll] at hspec
    cases hspec with
    | pending _ _ _ hw' hr =>
      refine .registering k _ written missing hflow hw' ?_
      rw [← hb, ← hr]

/-- The answer is the first message of the link, and the loop is entered with the rest. -/
theorem welcomed (hd : Downward codec h a serving link (.registering k r)) {available : List UInt8}
    (hpoll : poll codec DEFAULT_MAX_FRAME_SIZE r.closed r.receiving r.available =
      (.ready (.ok message), available)) :
    ∃ down, link.down = message :: down ∧ ∀ (link' : Link) (handler : η), link'.down = down →
      Downward codec h a serving link' (.running k
        { RunningSession.start codec [] handler with
          unread := r.unread, available := available, closed := r.closed }) := by
  cases hd with
  | registering _ _ written missing hflow hw hb =>
    have hspec := @poll_spec _ codec DEFAULT_MAX_FRAME_SIZE r.closed r.receiving r.available
      (r.unread ++ missing) written (by decide) hflow.fits hw hb
    rw [hpoll] at hspec
    cases hspec with
    | ready _ later _ hm hr =>
      have hwritten : written = [] ++ message :: later := hm
      obtain ⟨down, hdown, hflow'⟩ := hflow.read hwritten fun hnil => by
        rw [hnil] at hr
        exact (List.append_eq_nil_iff.mp (List.append_eq_nil_iff.mp hr).2).2
      refine ⟨down, hdown, fun link' handler hlink' => ?_⟩
      rw [hm] at hflow'
      exact .running k _ later missing handler (hlink' ▸ hflow'.forget)
        (RunningSession.faithful_entered r.closed hr) rfl

/-- More bytes arrive, -/
theorem arrived (hd : Downward codec h a serving link (.registering k r)) (n : Nat) :
    Downward codec h a serving link (.registering k
      { r with available := r.available ++ r.unread.take n, unread := r.unread.drop n }) := by
  cases hd with
  | registering _ _ written missing hflow hw hb =>
    refine .registering k _ written missing hflow hw ?_
    rw [← hb]
    simp only [List.append_assoc]
    rw [← List.append_assoc (r.unread.take n), List.take_append_drop]

/-- or none will. -/
theorem closed (hd : Downward codec h a serving link (.registering k r)) :
    Downward codec h a serving link (.registering k { r with closed := true }) := by
  cases hd with
  | registering _ _ written missing hflow hw hb =>
    exact .registering k _ written missing hflow hw hb

/-! ### The loop -/

theorem running_on (hd : Downward codec h a serving link (.running k s)) : s.stopped = none := by
  cases hd with
  | running _ _ _ _ _ _ _ hs => exact hs

/-- The loop makes a step and no callback returns. -/
theorem step (hd : Downward codec h a serving link (.running k s))
    (hin : ∀ world result, input ≠ .callback world result)
    (hs : (s.step codec h a input).stopped = none) :
    Downward codec h a serving link (.running k (s.step codec h a input)) := by
  cases hd with
  | running _ _ written missing handler hflow hf _ =>
    obtain ⟨input', hstep⟩ := s.step_extend codec h a missing input
    refine .running k _ written missing handler ?_ ?_ hs
    · rwa [RunningSession.messages, (s.step_other codec h a hin).1]
    · rw [← hstep]
      exact RunningSession.faithful_step hflow.fits hf

/-- The callback that returns was for the first message of the link. -/
theorem callback (hd : Downward codec h a serving link (.running k s))
    (hb : s.busy = some message) :
    ∃ down, link.down = message :: down ∧
      ∀ (link' : Link) (world : ω) (result : Option TransportError),
      link'.down = down → (s.step codec h a (.callback world result)).stopped = none →
        Downward codec h a serving link'
          (.running k (s.step codec h a (.callback world result))) := by
  cases hd with
  | running _ _ written missing handler hflow hf hs =>
    obtain ⟨inside, rest, hw, hp⟩ := hf.inside hs
    have hwritten : written = s.messages ++ message :: (inside ++ rest) := by
      rw [hw]
      show s.messages ++ s.busy.toList ++ inside ++ rest = _
      rw [hb]
      simp
    obtain ⟨down, hdown, hflow'⟩ := hflow.read hwritten fun hnil => by
      obtain ⟨rfl, rfl⟩ := List.append_eq_nil_iff.mp hnil
      exact (List.append_eq_nil_iff.mp hp.unread_nil).2
    refine ⟨down, hdown, fun link' world result hlink' hs' => ?_⟩
    obtain ⟨input', hstep⟩ := s.step_extend codec h a missing (.callback world result)
    refine .running k _ written missing handler ?_ ?_ hs'
    · rw [hlink', RunningSession.messages_concat
        (RunningSession.step_callback codec h a hb world result).1]
      exact hflow'
    · rw [← hstep]
      exact RunningSession.faithful_step hflow.fits hf

end Downward

end Sam
