import Sam.System.Comparison
import Sam.System.Disturbance

/-!
# The bytes carry the messages

`System` passes whole messages from one party to the other; in `Network` they are bytes, read by
loops that can be interrupted anywhere.  Every run of the bytes is a run of the messages, in which
the links of disturbed connections are garbled.

* `Implements` — a state of `Network` against one of `System`.
* `implements_step`, `implements_run` — each step of `Network`, and so each run, is matched by a run
  of messages with those links garbled.
* `network_refines` — as long as no session task is disturbed, the service and the applications do
  the same in a run of `System`.
* `never_misread` — what fails to be read has been cut off.
-/

namespace Sam

variable {η ω : Type*}

/-- The loop of a session task may have returned, and its `disconnect` is to come. -/
inductive ServerTask.Shows : ServerTask → ServerTask → Prop
  | same (task : ServerTask) : Shows task task
  | returned (a : ApplicationId) (conn : ConnectionId) :
    Shows (.registered a conn) (.closing a conn)

namespace Network

variable {codec : Codec ApplicationToSam} {samCodec : Codec SamToApplication}
  {handlers : ApplicationId → ModeHandler η ω} {b : Network η ω} {t : System η} {k : Nat}
  {a : ApplicationId} {ops : List Operation} {connection : Connection} {link : Link}
  {task : ClientTask η ω} {bytes : List UInt8} {D : Nat → Prop} {started : ApplicationId → η → Prop}
  {disturbed writing writing' : Prop}

/-- A connection and its link.  Once an application has registered on a connection that is
    disturbed, the link does not tell what SAM reads there. -/
structure Joined (codec : Codec ApplicationToSam) (disturbed writing : Prop)
    (connection : Connection) (link : Link) : Prop where
  task : link.task.Shows connection.task
  live : connection.task.Serving → connection.session.ended = none
  owner : ∀ a, link.owner = some a → connection.owner = some a
  unopened : connection.owner = none →
    link.up = [] ∧ link.down = [] ∧ (connection.task = .awaiting ∨ connection.task = .ended)
  up : (disturbed → connection.task = .awaiting) → Upward codec writing link connection.session

theorem Joined.imp (hj : Joined codec disturbed writing connection link) (h : writing' → writing) :
    Joined codec disturbed writing' connection link :=
  { hj with up := fun hi => (hj.up hi).imp h }

/-- The bytes carry the messages. -/
def carrying (codec : Codec ApplicationToSam) (samCodec : Codec SamToApplication)
    (handlers : ApplicationId → ModeHandler η ω) (D : Nat → Prop) : Comparison η ω where
  joined k := Joined codec (D k)
  down a serving link task := Downward samCodec (handlers a) a serving link task
  joined_imp := Joined.imp
  down_imp := Downward.imp
  down_congr := Downward.congr

/-- The bytes carry the messages, and all else is the same. -/
abbrev Implements (codec : Codec ApplicationToSam) (samCodec : Codec SamToApplication)
    (handlers : ApplicationId → ModeHandler η ω) (D : Nat → Prop) (b : Network η ω) (t : System η) :
    Prop := Related (carrying codec samCodec handlers D) b t

theorem implements_new (timeout : Duration) (initial : ApplicationId → η) :
    Implements codec samCodec handlers D (new timeout initial) (System.new timeout initial) where
  service := rfl
  operations := rfl
  calls := rfl
  joined _ := ⟨.same _, fun _ => rfl, by rintro _ ⟨⟩, fun _ => ⟨rfl, rfl, .inl rfl⟩, fun _ => .new⟩
  attached _ := ⟨rfl, by rintro _ ⟨⟩, by rintro _ ⟨⟩⟩

theorem Implements.joined (h : Implements codec samCodec handlers D b t) (k : Nat) :
    Joined codec (D k) (b.Writing k) (b.connections k) (t.links k) := Related.joined h k

theorem Implements.down (h : Implements codec samCodec handlers D b t)
    (hon : (b.clients a).link? = some k) :
    Downward samCodec (handlers a) a (b.connections k).task.Serving (t.links k) (b.clients a) :=
  (h.attached a).down k hon

/-! ## The steps of SAM -/

/-- A step is matched by a run, in which only disturbed links are garbled and applications are
    started with the same handlers. -/
def Matched (codec : Codec ApplicationToSam) (samCodec : Codec SamToApplication)
    (handlers : ApplicationId → ModeHandler η ω) (D : Nat → Prop)
    (started : ApplicationId → η → Prop) (b : Network η ω) (t : System η) : Prop :=
  ∃ inputs : List (FaultyInput η ω), System.RunWithin handlers D started t inputs ∧
    Implements codec samCodec handlers D b (System.faultyRun handlers t inputs)

theorem Related.matched (h : Implements codec samCodec handlers D b t) :
    Matched codec samCodec handlers D started b t := ⟨[], trivial, h⟩

theorem matched_step (input : Input η ω) {t' : System η}
    (hin : (FaultyInput.ours input).Within D started) (ht : System.step handlers t input = t')
    (h : Implements codec samCodec handlers D b t') :
    Matched codec samCodec handlers D started b t := by
  refine ⟨[.ours input], ⟨hin, trivial⟩, ?_⟩
  rw [← ht] at h
  exact h

/-- The link is garbled before. -/
theorem matched_garbled (hk : D k) {up : List ApplicationToSam}
    (h : Matched codec samCodec handlers D started b (t.garble k up)) :
    Matched codec samCodec handlers D started b t := by
  obtain ⟨inputs, hin, himp⟩ := h
  exact ⟨.garble k up :: inputs, ⟨hk, hin⟩, himp⟩

theorem Joined.serving (hj : Joined codec disturbed writing connection link)
    (h : connection.task.Serving) :
    link.task = connection.task := by
  have ht := hj.task
  generalize connection.task = task at h ht ⊢
  generalize link.task = task' at ht ⊢
  cases ht with
  | same => rfl
  | returned => cases h

theorem Joined.opened (hj : Joined codec disturbed writing connection link)
    {application : ApplicationId}
    {conn : ConnectionId} (ht : connection.task = .registered application conn) :
    connection.owner ≠ none := by
  intro hnone
  rcases (hj.unopened hnone).2.2 with h | h <;> rw [ht] at h <;> cases h

theorem Joined.unowned (hj : Joined codec disturbed writing connection link)
    (hnone : connection.owner = none) : link.owner = none := by
  cases ho : link.owner with
  | none => rfl
  | some a =>
    rw [hj.owner a ho] at hnone
    cases hnone

/-- Where an application has registered, only a connection that is not disturbed tells what SAM
    reads. -/
theorem not_disturbed {application : ApplicationId} {conn : ConnectionId}
    (ht : connection.task = .registered application conn)
    (hi : disturbed → connection.task = .awaiting) : ¬ disturbed := by
  intro hd
  have hawaiting := hi hd
  rw [ht] at hawaiting
  cases hawaiting

/-- `message` is the next one on link `k`, and the session task takes it. -/
structure Takes (codec : Codec ApplicationToSam) (D : Nat → Prop) (b : Network η ω) (t : System η)
    (k : Nat) (message : ApplicationToSam) (up : List ApplicationToSam) : Prop where
  next : (t.links k).up = message :: up
  joined : ∀ accepted task link, task ≠ .awaiting → (task.Serving → accepted = true) →
    link.up = up → link.taken = (t.links k).taken ++ [message] → link.task = task →
    link.owner = (t.links k).owner → Joined codec (D k) (b.Writing k)
      { b.connections k with
        session := (b.connections k).session.step codec (.incoming accepted), task := task } link

/-- The session task has received a message: it is the next one on a link that is not garbled. -/
theorem Implements.takes (h : Implements codec samCodec handlers D b t)
    (hserving : (b.connections k).task.Serving) {message : ApplicationToSam}
    (hnext : (b.connections k).session.next codec = .ready (.ok message))
    (hi : D k → (b.connections k).task = .awaiting) : ∃ up, Takes codec D b t k message up := by
  have hj := h.joined k
  have hend := hj.live hserving
  obtain ⟨up, hup, -⟩ := (hj.up hi).receive hend hnext true
  have howner : (b.connections k).owner ≠ none := by
    intro hnone
    rw [(hj.unopened hnone).1] at hup
    cases hup
  refine ⟨up, hup, fun accepted task link _ haccepted hlink htaken htask hsame => ?_⟩
  obtain ⟨up', hup', hrecv⟩ := (hj.up hi).receive hend hnext accepted
  obtain rfl : up = up' := (List.cons.inj (hup.symm.trans hup')).2
  refine ⟨htask ▸ .same _, fun hs => ?_, fun a ha => hj.owner a (hsame ▸ ha),
    fun hnone => absurd hnone howner, fun _ => (hrecv task).congr hlink htaken⟩
  exact (Session.step_message hend hnext accepted).2.mpr (haccepted hs)

/-- On a link that is garbled, it becomes the next one. -/
theorem Implements.garbled (h : Implements codec samCodec handlers D b t) (hk : D k)
    {application : ApplicationId} {conn : ConnectionId}
    (ht : (b.connections k).task = .registered application conn) {message : ApplicationToSam}
    (hnext : (b.connections k).session.next codec = .ready (.ok message)) :
    Implements codec samCodec handlers D b (t.garble k [message]) ∧
      Takes codec D b (t.garble k [message]) k message [] := by
  have hj := h.joined k
  have hserving : (b.connections k).task.Serving := by rw [ht]; trivial
  have hts := hj.serving hserving
  have hgarble : t.garble k [message] = t.setLink k { t.links k with up := [message] } := by
    unfold System.garble
    rw [hts, ht]
  have hlink : (t.garble k [message]).links k = { t.links k with up := [message] } := by
    rw [hgarble]
    exact Function.update_self ..
  have howner := hj.opened ht
  refine ⟨?_, by rw [hlink], fun accepted task link hne haccepted _ _ htask hsame => ?_⟩
  · have hj' : Joined codec (D k) (b.Writing k) (b.connections k)
        { t.links k with up := [message] } :=
      ⟨hj.task, hj.live, hj.owner, fun hnone => absurd hnone howner,
        fun hi => absurd hk (not_disturbed ht hi)⟩
    have hs := h.silent [] hj' rfl id rfl
    rwa [perform_nil, System.perform_nil, setConnection_self, ← hgarble] at hs
  · rw [hlink] at hsame
    refine ⟨htask ▸ .same _, fun hs => ?_, fun a ha => hj.owner a (hsame ▸ ha),
      fun hnone => absurd hnone howner, fun hi => absurd (hi hk) hne⟩
    exact (Session.step_message (hj.live hserving) hnext accepted).2.mpr (haccepted hs)

/-- The first message is refused. -/
theorem Implements.refuse (h : Implements codec samCodec handlers D b t)
    (ht : (b.connections k).task = .awaiting) {message : ApplicationToSam}
    {up : List ApplicationToSam} (htakes : Takes codec D b t k message up) (reason : String)
    (result : WriteResult) :
    Implements codec samCodec handlers D (b.refuse codec samCodec k reason result)
      (t.setLink k ((t.links k).refuse message up reason)) := by
  have hserving : (b.connections k).task.Serving := by rw [ht]; trivial
  have hj := htakes.joined false .ended ((t.links k).refuse message up reason) (by rintro ⟨⟩)
    (by rintro ⟨⟩) rfl rfl rfl rfl
  have hs := h.server (k := k) [] (sendBytes samCodec
    (.registerRejected PROTOCOL_VERSION reason) result).2
    hj rfl fun a hon => ?_
  · rwa [perform_nil, System.perform_nil] at hs
  · have hspec := sendBytes_spec samCodec (.registerRejected PROTOCOL_VERSION reason) result
    have hdown := h.down hon
    generalize sendBytes samCodec (.registerRejected PROTOCOL_VERSION reason) result = p at hspec ⊢
    obtain ⟨error, bytes⟩ := p
    cases error with
    | none =>
      cases hspec with
      | whole hfit => exact (hdown.sent hserving hfit hon rfl).imp False.elim
    | some error => exact hdown.unsent hserving hspec id hon rfl

theorem matched_taken (h : Implements codec samCodec handlers D b t)
    (hserving : (b.connections k).task.Serving) {message : ApplicationToSam}
    {up : List ApplicationToSam} (htakes : Takes codec D b t k message up) (now : Instant)
    (result : WriteResult) :
    Matched codec samCodec handlers D started (b.serve codec samCodec k message now result) t := by
  have hts := (h.joined k).serving hserving
  have hup := htakes.next
  -- the message is taken and the task goes on, or it does not
  have hgo : ∀ ops task, task ≠ .awaiting → Implements codec samCodec handlers D
      ((b.perform ops).setConnection k { b.connections k with
        session := (b.connections k).session.step codec (.incoming true), task := task })
      ((t.perform ops).setLink k ((t.links k).take message up task)) := fun ops task htask =>
    h.silent ops (htakes.joined true task ((t.links k).take message up task) htask
      (fun _ => rfl) rfl rfl
      rfl rfl) rfl (fun _ => hserving) rfl
  have hend : ∀ ops task, task ≠ .awaiting → ¬ ServerTask.Serving task →
      Implements codec samCodec handlers D
      ((b.perform ops).setConnection k { b.connections k with
        session := (b.connections k).session.step codec (.incoming false), task := task })
      ((t.perform ops).setLink k ((t.links k).take message up task)) := fun ops task htask hs =>
    h.silent ops (htakes.joined false task ((t.links k).take message up task) htask
      (fun hs' => absurd hs' hs) rfl rfl rfl rfl) rfl (fun _ => hserving) rfl
  unfold Network.serve
  dsimp only
  split
  · rename_i ht
    rw [ht] at hts
    split
    · rename_i application version
      split
      · rename_i hv
        refine matched_step (.serverReceive k now) trivial ?_ (h.refuse ht htakes
          ("unsupported protocol version " ++ toString version.toNat) result)
        simp only [System.step, System.serverReceive, hts, hup, if_pos hv]
      · rename_i hv
        rw [← h.service]
        split
        · rename_i id hid
          refine matched_step (.serverReceive k now) trivial ?_ (hgo _ _ (by rintro ⟨⟩))
          simp only [System.step, System.serverReceive, hts, hup, if_neg hv, hid]
        · rename_i error herror
          refine matched_step (.serverReceive k now) trivial ?_ (hend _ .ended (by rintro ⟨⟩) id)
          simp only [System.step, System.serverReceive, hts, hup, if_neg hv, herror]
    · rename_i hother
      refine matched_step (.serverReceive k now) trivial ?_
        (h.refuse ht htakes "first message must be Register" result)
      cases message with
      | register application version => exact absurd rfl (hother application version)
      | _ => simp only [System.step, System.serverReceive, hts, hup]
  · rename_i application conn ht
    rw [ht] at hts
    rw [← h.service]
    split
    · rename_i hok
      refine matched_step (.serverReceive k now) trivial ?_ (hgo _ _ (by rintro ⟨⟩))
      simp only [System.step, System.serverReceive, hts, hup, hok]
    · rename_i error herror
      refine matched_step (.serverReceive k now) trivial ?_
        (hend _ (.closing application conn) (by rintro ⟨⟩) id)
      simp only [System.step, System.serverReceive, hts, hup, herror]
  · exact h.matched

theorem matched_serve (h : Implements codec samCodec handlers D b t)
    (hserving : (b.connections k).task.Serving) {message : ApplicationToSam}
    (hnext : (b.connections k).session.next codec = .ready (.ok message)) (now : Instant)
    (result : WriteResult) :
    Matched codec samCodec handlers D started (b.serve codec samCodec k message now result) t := by
  by_cases hi : D k → (b.connections k).task = .awaiting
  · obtain ⟨up, htakes⟩ := h.takes hserving hnext hi
    exact matched_taken h hserving htakes now result
  · obtain ⟨hk, hne⟩ := Classical.not_imp.mp hi
    cases ht : (b.connections k).task with
    | awaiting => exact absurd ht hne
    | registered application conn =>
      obtain ⟨h', htakes⟩ := h.garbled hk ht hnext
      exact matched_garbled hk (matched_taken h' hserving htakes now result)
    | closing | ended =>
      rw [ht] at hserving
      cases hserving

/-- The loop of the session task returns; `disconnect` is to come. -/
theorem Implements.returns (h : Implements codec samCodec handlers D b t)
    {application : ApplicationId}
    {conn : ConnectionId} (ht : (b.connections k).task = .registered application conn)
    (input : SessionInput) (hin : (b.connections k).session.Undisturbed input)
    (hsame : ((b.connections k).session.step codec input).handled =
      (b.connections k).session.handled) :
    Implements codec samCodec handlers D
      (b.setConnection k { b.connections k with
        session := (b.connections k).session.step codec input
        task := .closing application conn }) t := by
  have hj := h.joined k
  have hserving : (b.connections k).task.Serving := by rw [ht]; trivial
  refine h.quiet ⟨?_, by rintro ⟨⟩, hj.owner, fun hnone => ?_,
    fun hi => (hj.up fun hd => by cases hi hd).step input hin hsame⟩ rfl (by rintro ⟨⟩)
  · rw [hj.serving hserving, ht]
    exact .returned application conn
  · exact absurd hnone (hj.opened ht)

/-- `serve_connection` returns. -/
theorem Implements.ended (h : Implements codec samCodec handlers D b t) (ops : List Operation)
    {session : Session} (hup : (D k → (b.connections k).task = .awaiting) →
      Upward codec (b.Writing k) (t.links k) session) :
    Implements codec samCodec handlers D
      ((b.perform ops).setConnection k { b.connections k with session := session, task := .ended })
      ((t.perform ops).setLink k { t.links k with task := .ended }) := by
  have hj := h.joined k
  refine h.silent ops ⟨.same _, by rintro ⟨⟩, hj.owner, fun hnone => ?_,
    fun hi => (hup fun hd => by cases hi hd).congr rfl rfl⟩ rfl (by rintro ⟨⟩) rfl
  exact ⟨(hj.unopened hnone).1, (hj.unopened hnone).2.1, .inr rfl⟩

theorem matched_serverPoll (h : Implements codec samCodec handlers D b t) (k : Nat) (now : Instant)
    (result : WriteResult) :
    Matched codec samCodec handlers D started (b.serverPoll codec samCodec k now result) t := by
  have hj := h.joined k
  -- nothing is received, and the loop goes on or returns
  have hpending : ∀ receiving, (b.connections k).task.Serving →
      (b.connections k).session.next codec = .pending receiving →
      Matched codec samCodec handlers D started (b.setConnection k { b.connections k with
        session := (b.connections k).session.step codec (.incoming true) }) t := by
    intro receiving hserving hnext
    have hsame := Session.step_nothing (fun m hm => by rw [hnext] at hm; cases hm) true
    have hj' : Joined codec (D k) (b.Writing k) { b.connections k with
        session := (b.connections k).session.step codec (.incoming true) } (t.links k) :=
      ⟨hj.task, fun hs => (Session.step_pending hnext true).trans (hj.live hs), hj.owner,
        hj.unopened,
        fun hi => (hj.up hi).step (.incoming true) trivial hsame⟩
    exact (h.quiet hj' rfl id).matched
  have hfailed : ∀ error, (b.connections k).session.next codec = .ready (.error error) →
      ((b.connections k).session.step codec (.incoming true)).handled =
        (b.connections k).session.handled :=
    fun error hnext => Session.step_nothing (fun m hm => by rw [hnext] at hm; cases hm) true
  unfold Network.serverPoll
  dsimp only
  split
  · rename_i receiving ht hnext
    exact hpending receiving (by rw [ht]; trivial) hnext
  · rename_i a conn receiving ht hnext
    exact hpending receiving (by rw [ht]; trivial) hnext
  · rename_i error ht hnext
    have hts := hj.serving (by rw [ht]; trivial)
    rw [ht] at hts
    have hended := h.ended [] fun hi =>
      (hj.up hi).step (.incoming true) trivial (hfailed error hnext)
    rw [perform_nil, System.perform_nil] at hended
    refine matched_step (.serverClose k now) trivial ?_ hended
    simp only [System.step, System.serverClose, hts]
  · rename_i a conn error ht hnext
    exact (h.returns ht (.incoming true) trivial (hfailed error hnext)).matched
  · rename_i message ht hnext
    exact matched_serve h (by rw [ht]; trivial) hnext now result
  · rename_i a conn message ht hnext
    exact matched_serve h (by rw [ht]; trivial) hnext now result
  · exact h.matched

theorem matched_serverSend (h : Implements codec samCodec handlers D b t) (k : Nat)
    (result : WriteResult) (hin : ∀ k', ¬ D k' → b.Spares k' (.serverSend k result)) :
    Matched codec samCodec handlers D started (b.serverSend codec samCodec k result) t := by
  have hj := h.joined k
  unfold Network.serverSend
  dsimp only
  split
  · rename_i a conn message queue ht hq
    have hserving : (b.connections k).task.Serving := by rw [ht]; trivial
    have hts := hj.serving hserving
    rw [ht] at hts
    rw [← h.service] at hq
    have hspec := sendBytes_spec samCodec message result
    have hwhole := @sendBytes_whole _ samCodec message result
    generalize sendBytes samCodec message result = p at hspec hwhole ⊢
    obtain ⟨error, bytes⟩ := p
    cases error with
    | none =>
      cases hspec with
      | whole hfit =>
        obtain rfl := hwhole rfl
        obtain ⟨hsame, hlive⟩ := Session.step_outgoing codec (b.connections k).session true
        have hj' : Joined codec (D k) (b.Writing k) { b.connections k with
            session := (b.connections k).session.step codec (.outgoing true)
            task := (b.connections k).task }
              { t.links k with down := (t.links k).down ++ [message] } :=
          ⟨hj.task, fun hs => hlive rfl (hj.live hs), hj.owner, fun hnone =>
            absurd hnone (hj.opened ht),
            fun hi => ((hj.up hi).step (.outgoing true)
              (hin k (not_disturbed ht hi) rfl) hsame).congr rfl rfl⟩
        refine matched_step (.serverSend k true) trivial ?_
          (h.server [.receive ⟨k⟩] _ hj' rfl fun x hon =>
          (h.down hon).sent hserving hfit hon rfl)
        simp only [System.step, System.serverSend, hts, hq, if_true]
    | some error =>
      obtain ⟨hsame, -⟩ := Session.step_outgoing codec (b.connections k).session false
      have hj' : Joined codec (D k) (b.Writing k) { b.connections k with
          session := (b.connections k).session.step codec (.outgoing false)
          task := .closing a conn } { t.links k with task := .closing a conn } :=
        ⟨.same _, by rintro ⟨⟩, hj.owner, fun hnone => absurd hnone (hj.opened ht),
          fun hi => ((hj.up fun hd => by cases hi hd).step (.outgoing false) trivial hsame).congr
            rfl rfl⟩
      refine matched_step (.serverSend k false) trivial ?_
        (h.server [.receive ⟨k⟩] bytes hj' rfl fun x hon =>
        (h.down hon).unsent hserving hspec id hon (List.append_nil _).symm)
      simp [System.step, System.serverSend, hts, hq]
  · exact h.matched

theorem matched_serverClosed (h : Implements codec samCodec handlers D b t) (k : Nat) :
    Matched codec samCodec handlers D started (b.serverClosed codec k) t := by
  unfold Network.serverClosed
  dsimp only
  split
  · rename_i a conn ht _
    split
    · exact h.matched
    · refine (h.returns ht .outboundClosed trivial ?_).matched
      unfold Session.step
      split <;> rfl
  · exact h.matched

theorem matched_serverReturn (h : Implements codec samCodec handlers D b t) (k : Nat)
    (now : Instant) :
    Matched codec samCodec handlers D started (b.serverReturn k now) t := by
  have hj := h.joined k
  unfold Network.serverReturn
  dsimp only
  split
  · rename_i a conn ht
    refine matched_step (.serverClose k now) trivial ?_
      (h.ended [.disconnect a conn now, .dropReceiver ⟨k⟩] hj.up)
    have htask : (t.links k).task = .closing a conn ∨ (t.links k).task = .registered a conn := by
      have hshows := hj.task
      rw [ht] at hshows
      generalize (t.links k).task = task at hshows ⊢
      cases hshows with
      | same => exact .inl rfl
      | returned => exact .inr rfl
    rcases htask with htask | htask
    · simp only [System.step, System.serverClose, htask]
    · simp only [System.step, System.serverClose, htask]
  · exact h.matched

theorem matched_serverTimeout (h : Implements codec samCodec handlers D b t) (k : Nat) :
    Matched codec samCodec handlers D started
      (step codec samCodec handlers b (.serverTimeout k)) t := by
  have hj := h.joined k
  unfold Network.step
  dsimp only
  split
  · rename_i ht
    have hts := hj.serving (by rw [ht]; trivial)
    rw [ht] at hts
    have hended := h.ended [] hj.up
    rw [perform_nil, System.perform_nil] at hended
    refine matched_step (.serverClose k 0) trivial ?_ hended
    simp only [System.step, System.serverClose, hts]
  · exact h.matched

/-! ## The steps of the applications -/

theorem matched_connect (h : Implements codec samCodec handlers D b t) (a : ApplicationId) (k : Nat)
    (result : WriteResult) :
    Matched codec samCodec handlers D started (b.connect codec a k result) t := by
  have hj := h.joined k
  have ha := h.attached a
  unfold Network.connect
  split
  · rename_i handler hclient howner
    have hidle : t.clients a = ⟨handler, .idle⟩ := by rw [ha.client, hclient]; rfl
    have hfree : (b.clients a).link? = none := by rw [hclient]; rfl
    have hwriting : b.Writing k := fun x hx => by rw [howner] at hx; cases hx
    have hspec := sendBytes_spec codec (.register a PROTOCOL_VERSION) result
    generalize sendBytes codec (.register a PROTOCOL_VERSION) result = p at hspec ⊢
    obtain ⟨error, bytes⟩ := p
    dsimp only
    cases error with
    | none =>
      cases hspec with
      | whole hfit =>
        have hj' : Joined codec (D k) ((some k : Option Nat) = some k)
            { b.connections k with
              owner := some a
              session := (b.connections k).session.extend
                (frames codec [.register a PROTOCOL_VERSION]) }
            { (t.links k).write (.register a PROTOCOL_VERSION) with owner := some a } :=
          ⟨hj.task, hj.live, fun _ => id, by rintro ⟨⟩,
            fun hi => (((hj.up hi).imp fun _ => hwriting).sent rfl hfit).congr rfl rfl⟩
        refine matched_step (.connect a k) trivial ?_ (h.moves (a := a)
          (.registering k ⟨handler, .start, [], [], false⟩) hj' rfl (.inr ⟨hfree, howner⟩)
          (.inl rfl) fun _ => ?_)
        · simp only [System.step, hidle, hj.unowned howner]
          rfl
        · refine .registering k _ [] [] ?_ (Nat.zero_lt_succ 3) rfl
          show Flow samCodec _ [] (t.links k).down [] []
          rw [(hj.unopened howner).2.1]
          exact .new
    | some error =>
      have hj' : Joined codec (D k) ((none : Option Nat) = some k)
          { b.connections k with
            owner := some a
            session := (b.connections k).session.extend bytes } (t.links k) :=
        ⟨hj.task, hj.live, fun x hx => (by rw [hj.unowned howner] at hx; cases hx), by rintro ⟨⟩,
          fun hi => (hj.up hi).unsent hwriting hspec (by rintro ⟨⟩)⟩
      have hm := h.moves (a := a) (.idle handler) hj' rfl (.inr ⟨hfree, howner⟩) (.inr rfl)
        (by rintro ⟨⟩)
      rw [setClient_self (b := b.setConnection k _) hclient, setLink_self,
        show (ClientTask.idle handler : ClientTask η ω).client = t.clients a from hidle.symm,
        System.setClient_self] at hm
      exact hm.matched
  · exact h.matched

/-- The loop of an application makes a step that writes nothing. -/
theorem matched_loop (h : Implements codec samCodec handlers D b t) {s : RunningSession η ω}
    (hclient : b.clients a = .running k s) (input : RunningInput ω)
    (hin : ∀ world result, input ≠ .callback world result) :
    Matched codec samCodec handlers D started
      (b.setClient a (.after k (s.step samCodec (handlers a) a input))) t := by
  have ha := h.attached a
  have hon : (b.clients a).link? = some k := by rw [hclient]; rfl
  have hd := h.down hon
  rw [hclient] at hd
  obtain ⟨-, hhandler, hstops⟩ := s.step_other samCodec (handlers a) a hin
  unfold ClientTask.after
  split
  · rename_i hs
    refine (h.inside ?_ fun k' hon' => ?_).matched
    · rw [hclient, ClientTask.client, ClientTask.client, hhandler]
    · obtain rfl := Option.some.inj hon'
      exact hd.step hin hs
  · rename_i stop hstop
    have hreturned : (.returned (s.step samCodec (handlers a) a input).handler stop.error :
      ClientTask η ω) =
        .idle s.handler := by
      rw [ClientTask.returned, hstops hd.running_on stop hstop, hhandler]
      rfl
    rw [hreturned]
    refine matched_step (.clientClose a) trivial ?_ (h.leave (.idle s.handler) rfl)
    have hrunning : t.clients a = ⟨s.handler, .running k⟩ := by rw [ha.client, hclient]; rfl
    simp only [System.step, hrunning]
    rfl

theorem matched_clientStep (h : Implements codec samCodec handlers D b t) (a : ApplicationId)
    (input : RunningInput ω) (hin : ∀ world result, input ≠ .callback world result) :
    Matched codec samCodec handlers D started (b.clientStep samCodec handlers a input) t := by
  unfold Network.clientStep
  split
  · rename_i hclient
    exact matched_loop h hclient input hin
  · exact h.matched

/-- Whoever is on a link can write on it. -/
theorem Implements.present (h : Implements codec samCodec handlers D b t)
    (hon : (b.clients a).link? = some k) : b.Writing k := by
  intro x hx
  rw [(h.attached a).owner k hon] at hx
  obtain rfl := Option.some.inj hx
  exact hon

/-- It reads a message of the link. -/
theorem Implements.reads (h : Implements codec samCodec handlers D b t)
    (hon : (b.clients a).link? = some k) (message : SamToApplication)
    (down : List SamToApplication) :
    Joined codec (D k) writing (b.connections k) ((t.links k).get message down) := by
  have hj := h.joined k
  have howner := (h.attached a).owner k hon
  refine ⟨hj.task, hj.live, hj.owner, fun hnone => ?_,
    fun hi => ((hj.up hi).imp fun _ => h.present hon).congr rfl rfl⟩
  rw [howner] at hnone
  cases hnone

/-- An application waits for the answer to its registration. -/
theorem Implements.registering (h : Implements codec samCodec handlers D b t) {r : Registering η}
    (hclient : b.clients a = .registering k r) :
    t.clients a = ⟨r.handler, .registering k⟩ ∧ (b.connections k).owner = some a ∧
      Downward samCodec (handlers a) a (b.connections k).task.Serving (t.links k)
        (.registering k r) := by
  have ha := h.attached a
  have hon : (b.clients a).link? = some k := by rw [hclient]; rfl
  have hd := h.down hon
  rw [hclient] at hd
  exact ⟨by rw [ha.client, hclient]; rfl, ha.owner k hon, hd⟩

theorem Implements.running (h : Implements codec samCodec handlers D b t) {s : RunningSession η ω}
    (hclient : b.clients a = .running k s) :
    t.clients a = ⟨s.handler, .running k⟩ ∧ (b.connections k).owner = some a ∧
      Downward samCodec (handlers a) a (b.connections k).task.Serving (t.links k)
        (.running k s) := by
  have ha := h.attached a
  have hon : (b.clients a).link? = some k := by rw [hclient]; rfl
  have hd := h.down hon
  rw [hclient] at hd
  exact ⟨by rw [ha.client, hclient]; rfl, ha.owner k hon, hd⟩

/-- The bytes of a registration change. -/
theorem Implements.registers (h : Implements codec samCodec handlers D b t) {r r' : Registering η}
    (hclient : b.clients a = .registering k r)
    (hd : Downward samCodec (handlers a) a (b.connections k).task.Serving (t.links k)
      (.registering k r')) (hhandler : r'.handler = r.handler) :
    Implements codec samCodec handlers D (b.setClient a (.registering k r')) t := by
  refine h.inside ?_ fun k' hon => ?_
  · rw [hclient, ClientTask.client, ClientTask.client, hhandler]
  · obtain rfl := Option.some.inj hon
    exact hd

/-- `run_session` has returned. -/
theorem returned_client (handler : η) (error : RuntimeError) :
    (.returned handler error : ClientTask η ω).client = ⟨handler, error.next⟩ := by
  unfold ClientTask.returned RuntimeError.next
  split <;> rfl

theorem returned_link (handler : η) (error : RuntimeError) :
    (.returned handler error : ClientTask η ω).link? = none := by
  unfold ClientTask.returned
  split <;> rfl

/-- A registration is given up. -/
theorem matched_giveUp (h : Implements codec samCodec handlers D b t) {r : Registering η}
    (hclient : b.clients a = .registering k r) {error : RuntimeError}
    (herror : error.isPermanent = false) :
    Matched codec samCodec handlers D started (b.setClient a (.returned r.handler error)) t := by
  refine matched_step (.clientClose a) trivial ?_ (h.leave _ (returned_link r.handler error))
  rw [returned_client, RuntimeError.next, herror]
  simp only [System.step, (h.registering hclient).1]
  rfl

theorem matched_clientPoll (h : Implements codec samCodec handlers D b t) (a : ApplicationId)
    (world : ω) :
    Matched codec samCodec handlers D started (b.clientPoll samCodec handlers a world) t := by
  unfold Network.clientPoll
  split
  · rename_i k r hclient
    obtain ⟨hregistering, howner, hd⟩ := h.registering hclient
    have hon : (b.clients a).link? = some k := by rw [hclient]; rfl
    split
    · rename_i receiving available hpoll
      exact (h.registers hclient (hd.waiting hpoll) rfl).matched
    · exact matched_giveUp h hclient rfl
    · rename_i message available hpoll
      obtain ⟨down, hdown, hentered⟩ := hd.welcomed hpoll
      split
      · rename_i handler hr
        have hm := h.moves (.running k { RunningSession.start samCodec [] handler with
          unread := r.unread, available := available, closed := r.closed })
            (h.reads hon message down) howner (.inl hon)
          (.inl rfl) fun _ => hentered _ handler rfl
        rw [setConnection_self] at hm
        refine matched_step (.clientReceive a world true) trivial ?_ hm
        simp only [System.step, System.clientReceive, hregistering, hdown, hr]
        rfl
      · rename_i error handler hr
        have hm := h.moves (.returned handler error) (h.reads hon message down) howner (.inl hon)
          (.inr (returned_link handler error)) fun hsome => by
            rw [returned_link] at hsome
            cases hsome
        rw [setConnection_self, returned_client] at hm
        refine matched_step (.clientReceive a world true) trivial ?_ hm
        simp only [System.step, System.clientReceive, hregistering, hdown, hr]
  · exact h.matched

/-- An application writes a message, -/
theorem Joined.sent (hj : Joined codec disturbed writing connection link) (hwriting : writing)
    (howner : connection.owner ≠ none) {message : ApplicationToSam}
    (hfit : Fits codec DEFAULT_MAX_FRAME_SIZE message) :
    Joined codec disturbed writing
      { connection with session := connection.session.extend (frames codec [message]) }
      (link.write message) :=
  ⟨hj.task, hj.live, hj.owner, fun hnone => absurd hnone howner,
    fun hi => (hj.up hi).sent hwriting hfit⟩

/-- or fails to, and goes. -/
theorem Joined.unsent (hj : Joined codec disturbed writing connection link) (hwriting : writing)
    (howner : connection.owner ≠ none) {message : ApplicationToSam} {error : TransportError}
    (hspec : SendSpec codec message (some error, bytes)) (hgone : ¬ writing') :
    Joined codec disturbed writing'
      { connection with session := connection.session.extend bytes } link :=
  ⟨hj.task, hj.live, hj.owner, fun hnone => absurd hnone howner,
    fun hi => (hj.up hi).unsent hwriting hspec hgone⟩

theorem matched_clientTick (h : Implements codec samCodec handlers D b t) (a : ApplicationId)
    (world : ω) (result : WriteResult) :
    Matched codec samCodec handlers D started
      (b.clientTick codec samCodec handlers a world result) t := by
  unfold Network.clientTick
  split
  · rename_i k s hclient
    split
    · exact h.matched
    · rename_i hbusy
      obtain ⟨hrunning, howner, hd⟩ := h.running hclient
      have hon : (b.clients a).link? = some k := by rw [hclient]; rfl
      have hopened : (b.connections k).owner ≠ none := by rw [howner]; rintro ⟨⟩
      have hs := hd.running_on
      have hstep : ∀ error, s.step samCodec (handlers a) a (.tick world error) =
          s.write (.heartbeat a
          ((handlers a).health world s.handler) ((handlers a).currentMode s.handler)) error := by
        intro error
        rw [RunningSession.step, if_neg (by simp [hs, hbusy])]
      generalize hm : ApplicationToSam.heartbeat a ((handlers a).health world s.handler)
        ((handlers a).currentMode s.handler) = message at hstep ⊢
      have hspec := sendBytes_spec codec message result
      generalize sendBytes codec message result = p at hspec ⊢
      obtain ⟨error, bytes⟩ := p
      dsimp only
      cases error with
      | none =>
        cases hspec with
        | whole hfit =>
          have hafter : ClientTask.after k (s.step samCodec (handlers a) a (.tick world none)) =
              .running k (s.step samCodec (handlers a) a (.tick world none)) := by
            rw [hstep]
            simp only [ClientTask.after, RunningSession.write, hs]
          have hs' : (s.step samCodec (handlers a) a (.tick world none)).stopped = none := by
            rw [hstep]
            exact hs
          rw [hafter]
          have hmoves := h.moves (.running k (s.step samCodec (handlers a) a (.tick world none)))
            (((h.joined k).imp fun _ => h.present hon).sent rfl hopened hfit) howner (.inl hon)
              (.inl rfl)
            fun _ => (hd.step (by rintro _ _ ⟨⟩) hs').congr rfl
          have hsame : (ClientTask.running k
            (s.step samCodec (handlers a) a (.tick world none))).client =
              (t.setLink k ((t.links k).write message)).clients a := by
            rw [hstep]
            exact hrunning.symm
          rw [hsame, System.setClient_self] at hmoves
          refine matched_step (.clientHeartbeat a world true) trivial ?_ hmoves
          simp only [System.step, System.clientHeartbeat, hrunning, if_true, hm]
      | some error =>
        have hafter : (ClientTask.after k
          (s.step samCodec (handlers a) a (.tick world (some error))) :
            ClientTask η ω) = .idle s.handler := by
          rw [hstep]
          rfl
        rw [hafter]
        have hmoves := h.moves (.idle s.handler)
          ((h.joined k).unsent (h.present hon) hopened hspec (by rintro ⟨⟩)) howner (.inl hon)
            (.inr rfl)
          (by rintro ⟨⟩)
        rw [setLink_self] at hmoves
        refine matched_step (.clientHeartbeat a world false) trivial ?_ hmoves
        simp only [System.step, System.clientHeartbeat, hrunning]
        rfl
  · exact h.matched

theorem matched_clientCallback (h : Implements codec samCodec handlers D b t) (a : ApplicationId)
    (world : ω) (result : WriteResult) :
    Matched codec samCodec handlers D started
      (b.clientCallback codec samCodec handlers a world result) t := by
  unfold Network.clientCallback
  split
  · rename_i k s hclient
    split
    · rename_i message hb
      obtain ⟨hrunning, howner, hd⟩ := h.running hclient
      have hon : (b.clients a).link? = some k := by rw [hclient]; rfl
      have hopened : (b.connections k).owner ≠ none := by rw [howner]; rintro ⟨⟩
      have hs := hd.running_on
      obtain ⟨down, hdown, hgoes⟩ := hd.callback hb
      have hreads : ∀ writing, Joined codec (D k) writing (b.connections k)
          ((t.links k).get message down) :=
        fun _ => h.reads hon message down
      have hspec := fun error => (RunningSession.step_callback samCodec
        (handlers a) a hb world error).2
      dsimp only
      generalize hr : (handlers a).messageReceived world a s.handler message = r at hspec ⊢
      obtain ⟨handler, call, outcome⟩ := r
      dsimp only at hspec
      -- the loop goes on, or returns
      have hon' : ∀ error, (s.step samCodec (handlers a) a (.callback world error)).stopped = none →
          ClientTask.after k (s.step samCodec (handlers a) a (.callback world error)) =
            .running k (s.step samCodec (handlers a) a (.callback world error)) ∧
          (ClientTask.after k (s.step samCodec (handlers a) a (.callback world error))).client =
            ⟨handler, .running k⟩ := by
        intro error hs'
        rw [ClientTask.after, hs']
        exact ⟨rfl, by rw [ClientTask.client, (hspec error).1]⟩
      have hback : ∀ error stop, (s.step samCodec (handlers a) a (.callback world error)).stopped =
        some stop →
          ClientTask.after k (s.step samCodec (handlers a) a (.callback world error)) =
            .returned handler stop.error := by
        intro error stop hs'
        rw [ClientTask.after, hs', ← (hspec error).1]
      cases outcome with
      | ok answer =>
        cases answer with
        | none =>
          have hs' := (hspec none).2.trans hs
          have hc := h.client _ call none (hreads _) howner (.inl hon)
            (.inl (by rw [(hon' none hs').1]; rfl))
            fun _ => (hon' none hs').1 ▸ hgoes _ world none rfl hs'
          rw [setConnection_self, (hon' none hs').2] at hc
          refine matched_step (.clientReceive a world true) trivial ?_ hc
          simp only [System.step, System.clientReceive, hrunning, hdown, hr]
        | some answer =>
          dsimp only [Reaction.answer]
          have hsend := sendBytes_spec codec answer result
          generalize sendBytes codec answer result = p at hsend ⊢
          obtain ⟨error, bytes⟩ := p
          dsimp only
          cases error with
          | none =>
            cases hsend with
            | whole hfit =>
              have hs' := (hspec none).2.trans hs
              have hc := h.client _ call (some answer)
                ((hreads _).sent (by rw [(hon' none hs').1]; rfl) hopened hfit) howner (.inl hon)
                (.inl (by rw [(hon' none hs').1]; rfl))
                fun _ => (hon' none hs').1 ▸ hgoes _ world none rfl hs'
              rw [(hon' none hs').2] at hc
              refine matched_step (.clientReceive a world true) trivial ?_ hc
              simp only [System.step, System.clientReceive, hrunning, hdown, hr, if_true]
          | some error =>
            have hs' := (hspec (some error)).2
            have hlink : (.returned handler (.transport error) : ClientTask η ω).link? = none :=
              returned_link handler _
            rw [hback _ _ hs']
            have hc := h.client (.returned handler (.transport error)) call none
              ((hreads _).unsent (h.present hon) hopened hsend (by rw [hlink]; rintro ⟨⟩)) howner
                (.inl hon)
              (.inr hlink) (by rw [hlink]; rintro ⟨⟩)
            rw [returned_client] at hc
            refine matched_step (.clientReceive a world false) trivial ?_ hc
            simp [System.step, System.clientReceive, hrunning, hdown, hr, RuntimeError.next,
              RuntimeError.isPermanent]
      | error error =>
        have hs' := (hspec none).2
        have hlink : (.returned handler error : ClientTask η ω).link? = none :=
          returned_link handler error
        dsimp only [Reaction.answer]
        rw [hback _ _ hs']
        have hc := h.client (.returned handler error) call none (hreads _) howner (.inl hon)
          (.inr hlink)
          (by rw [hlink]; rintro ⟨⟩)
        rw [setConnection_self, returned_client] at hc
        refine matched_step (.clientReceive a world true) trivial ?_ hc
        simp only [System.step, System.clientReceive, hrunning, hdown, hr]
    · exact h.matched
  · exact h.matched

/-! ## Runs -/

/-- Bytes arrive at SAM, or none will. -/
theorem matched_stream (h : Implements codec samCodec handlers D b t) (k : Nat)
    {input : SessionInput} (hin : (∃ n, input = .arrive n) ∨ input = .close) :
    Matched codec samCodec handlers D started (b.setConnection k
      { b.connections k with session := (b.connections k).session.step codec input }) t := by
  have hj := h.joined k
  obtain ⟨hsame, hended⟩ := Session.step_stream codec (b.connections k).session hin
  have hquiet : (b.connections k).session.Undisturbed input := by
    rcases hin with ⟨n, rfl⟩ | rfl <;> trivial
  have hj' : Joined codec (D k) (b.Writing k) { b.connections k with
      session := (b.connections k).session.step codec input } (t.links k) :=
    ⟨hj.task, fun hs => hended.trans (hj.live hs), hj.owner, hj.unopened,
      fun hi => (hj.up hi).step input hquiet hsame⟩
  exact (h.quiet hj' rfl id).matched

/-- **Each step is matched by a run.** -/
theorem implements_step (h : Implements codec samCodec handlers D b t) (input : NetworkInput η ω)
    (hin : ∀ k, ¬ D k → b.Spares k input)
    (hstart : ∀ a handler, input = .restart a handler → started a handler) :
    Matched codec samCodec handlers D started (step codec samCodec handlers b input) t := by
  cases input with
  | connect a k result => exact matched_connect h a k result
  | restart a handler =>
    exact matched_step (.restart a handler) (hstart a handler rfl) rfl (h.leave (.idle handler) rfl)
  | upArrive k n => exact matched_stream h k (.inl ⟨n, rfl⟩)
  | upClose k => exact matched_stream h k (.inr rfl)
  | downArrive a n =>
    unfold Network.step
    dsimp only
    split
    · rename_i k r hclient
      split
      · exact h.matched
      · exact (h.registers hclient ((h.registering hclient).2.2.arrived n) rfl).matched
    · exact matched_clientStep h a (.arrive n) (by rintro _ _ ⟨⟩)
  | downClose a =>
    unfold Network.step
    dsimp only
    split
    · rename_i k r hclient
      exact (h.registers hclient (h.registering hclient).2.2.closed rfl).matched
    · exact matched_clientStep h a .close (by rintro _ _ ⟨⟩)
  | serverPoll k now result => exact matched_serverPoll h k now result
  | serverSend k result => exact matched_serverSend h k result hin
  | serverClosed k => exact matched_serverClosed h k
  | serverReturn k now => exact matched_serverReturn h k now
  | serverTimeout k => exact matched_serverTimeout h k
  | clientPoll a world => exact matched_clientPoll h a world
  | clientTimeout a =>
    unfold Network.step
    dsimp only
    split
    · rename_i k r hclient
      exact matched_giveUp h hclient rfl
    · exact h.matched
  | clientRead a => exact matched_clientStep h a .read (by rintro _ _ ⟨⟩)
  | clientRecv a => exact matched_clientStep h a .recv (by rintro _ _ ⟨⟩)
  | clientCallback a world result => exact matched_clientCallback h a world result
  | clientTick a world result => exact matched_clientTick h a world result
  | requestMode target =>
    exact matched_step (.requestMode target) trivial rfl (h.call [.requestMode target])
  | refreshHealth now =>
    exact matched_step (.refreshHealth now) trivial rfl (h.call [.refreshHealth now])

/-- **Each run is matched by a run**, in which only links are garbled that are disturbed. -/
theorem implements_run (D : Nat → Prop) (started : ApplicationId → η → Prop) (timeout : Duration)
    (initial : ApplicationId → η) (inputs : List (NetworkInput η ω))
    (hin : Machine.Always (step codec samCodec handlers)
      (fun b input => ∀ k, ¬ D k → b.Spares k input)
      (new timeout initial) inputs)
    (hstart : ∀ a handler, .restart a handler ∈ inputs → started a handler) :
    Matched codec samCodec handlers D started
      (run codec samCodec handlers (new timeout initial) inputs) (System.new timeout initial) := by
  refine Machine.run_simulates (R := Implements codec samCodec handlers D)
    (C := fun b input => (∀ k, ¬ D k → b.Spares k input) ∧
      ∀ a handler, input = .restart a handler → started a handler)
    (fun _ _ input h hin => implements_step h input hin.1 hin.2) (implements_new timeout initial) ?_
  rw [Machine.always_iff] at hin ⊢
  intro pre input post hinputs
  refine ⟨hin pre input post hinputs, fun a handler hinput => hstart a handler ?_⟩
  rw [hinputs, hinput]
  simp

/-- A connection is disturbed at some time. -/
def Disturbs (codec : Codec ApplicationToSam) (samCodec : Codec SamToApplication)
    (handlers : ApplicationId → ModeHandler η ω) (b : Network η ω)
    (inputs : List (NetworkInput η ω)) (k : Nat) : Prop :=
  ¬ Machine.Always (step codec samCodec handlers) (Spares k) b inputs

instance (b : Network η ω) (inputs : List (NetworkInput η ω)) (k : Nat) :
    Decidable (Disturbs codec samCodec handlers b inputs k) := by
  unfold Disturbs; infer_instance

/-- All others are spared at every step. -/
theorem spares_others (codec : Codec ApplicationToSam) (samCodec : Codec SamToApplication)
    (handlers : ApplicationId → ModeHandler η ω) (b : Network η ω)
    (inputs : List (NetworkInput η ω)) :
    Machine.Always (step codec samCodec handlers) (fun b' input =>
      ∀ k, ¬ Disturbs codec samCodec handlers b inputs k → b'.Spares k input) b inputs := by
  rw [Machine.always_iff]
  intro pre input post hinputs k hk
  exact Machine.always_iff.mp (not_not.mp hk) pre input post hinputs

/-- **The bytes carry the messages.**  For every undisturbed run of SAM and its applications on byte
    streams there is a run on messages in which SAM's service has performed the same operations, the
    applications have run the same callbacks with the same answers and stand where they stand, and
    SAM has received the same messages on every connection. -/
theorem network_refines (codec : Codec ApplicationToSam) (samCodec : Codec SamToApplication)
    (handlers : ApplicationId → ModeHandler η ω) (timeout : Duration) (initial : ApplicationId → η)
    (inputs : List (NetworkInput η ω))
    (hin : Machine.Always (step codec samCodec handlers) Undisturbed (new timeout initial) inputs) :
    let b := run codec samCodec handlers (new timeout initial) inputs
    ∃ moves : List (Input η ω),
      let t := System.run handlers (System.new timeout initial) moves
      b.service = t.service ∧ b.operations = t.operations ∧ b.calls = t.calls ∧
        (∀ a, (b.clients a).client = t.clients a) ∧
        ∀ k, (b.connections k).session.handled = (t.links k).taken := by
  intro b
  obtain ⟨moves, hmoves, h⟩ := implements_run (fun _ => False) (fun _ _ => True) timeout initial
    inputs (hin.imp fun _ _ h k _ => h.spares k) fun _ _ _ => trivial
  obtain ⟨moves, hours⟩ := System.faultyRun_ours hmoves
  rw [hours] at h
  exact ⟨moves, h.service.symm, h.operations.symm, h.calls.symm,
    fun a => (h.attached a).client.symm,
    fun k => ((h.joined k).up False.elim).taken⟩

/-- An application registers and is moved to `Standby`; its frames arrive in pieces, and the second
    order before it has looked at the first. -/
def inPieces : List (NetworkInput RecordingHandler Unit) :=
  [.connect Demo.navigation 0 .whole, .upArrive 0 3, .serverPoll 0 0 .whole, .upArrive 0 100,
    .serverPoll 0 0 .whole, .serverSend 0 .whole, .downArrive Demo.navigation 5,
    .clientPoll Demo.navigation (), .downArrive Demo.navigation 100, .clientPoll Demo.navigation (),
    .requestMode .standby, .serverSend 0 .whole, .downArrive Demo.navigation 2,
    .clientRead Demo.navigation, .clientTick Demo.navigation () .whole,
    .downArrive Demo.navigation 100,
    .clientRead Demo.navigation, .clientRead Demo.navigation, .clientRecv Demo.navigation,
    .clientCallback Demo.navigation () .whole, .upArrive 0 100, .serverPoll 0 1 .whole,
    .serverPoll 0 2 .whole, .serverSend 0 .whole, .downArrive Demo.navigation 100,
    .clientRead Demo.navigation, .clientRead Demo.navigation, .clientRecv Demo.navigation,
    .clientCallback Demo.navigation () (.failed (.io .brokenPipe) 4)]

theorem network_refines_demo :
    let b := run Postcard.codec Postcard.samCodec (fun _ => recordingHandler)
      (new 2000000000 fun _ => .default) inPieces
    ∃ moves : List (Input RecordingHandler Unit),
      let t := System.run (fun _ => recordingHandler)
        (System.new 2000000000 fun _ => .default) moves
      b.service = t.service ∧ b.operations = t.operations ∧ b.calls = t.calls ∧
        (∀ a, (b.clients a).client = t.clients a) ∧
        ∀ k, (b.connections k).session.handled = (t.links k).taken :=
  network_refines Postcard.codec Postcard.samCodec (fun _ => recordingHandler) 2000000000
    (fun _ => .default) inPieces (by decide +kernel)

end Network

end Sam
