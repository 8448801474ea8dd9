import Sam.Apps.DemoHandler
import Sam.System.Calm

/-!
# What a client can be told, and what ends its session

`run_session` has an error for every answer to a registration that makes no sense to it, and for a
reply that comes later.  SAM gives it no occasion for them.

* `Civil` — the reply to a registration, in our version of the protocol, and no other reply.
* `civil_step`, `civil_run` — the stream of every channel is civil.
* `Greeted` — so is what a client of a link has read and what is on its way to it (`greeted_step`).
* `sessionError` — the error with which a message ends a session.
* `session_error` — it is always the handler's own; `stopped_origin` — a client that has stopped
  has failed to synchronize.
-/

namespace Sam

open SamService

/-- The reply to a registration and what follows it, or nothing. -/
def Civil (l : List SamToApplication) : Prop :=
  l = [] ∨ ∃ mode health rest, l = .registerAccepted PROTOCOL_VERSION mode health :: rest ∧
    ∀ m ∈ rest, ¬ m.IsReply

theorem Civil.nil : Civil [] := .inl rfl

theorem Civil.initial {l l' : List SamToApplication} (h : Civil l') (hl : l <+: l') : Civil l := by
  cases l with
  | nil => exact .nil
  | cons x l =>
    obtain ⟨r, rfl⟩ := hl
    rcases h with h | ⟨mode, health, rest, h, hrest⟩
    · cases h
    · obtain ⟨rfl, rfl⟩ := List.cons.inj h
      exact .inr ⟨mode, health, l, rfl, fun m hm => hrest m (List.mem_append_left _ hm)⟩

theorem Civil.append {l l' : List SamToApplication} (h : Civil l) (hl : l ≠ [])
    (hl' : ∀ m ∈ l', ¬ m.IsReply) : Civil (l ++ l') := by
  rcases h with h | ⟨mode, health, rest, rfl, hrest⟩
  · exact absurd h hl
  · refine .inr ⟨mode, health, rest ++ l', rfl, fun m hm => ?_⟩
    rcases List.mem_append.mp hm with hm | hm
    · exact hrest m hm
    · exact hl' m hm

/-! ## The streams -/

section Streams

variable {t : SamService} {c : Sender} {op : Operation} {ops : List Operation}

theorem civil_step (hown : Own t) (hf : t.Fresh op) (h : Civil (t.channels c).sent) :
    Civil ((t.step op).channels c).sent := by
  by_cases hused : (t.channels c).sent = []
  · by_cases hop : op.Names c
    · cases op with
      | register a tx now =>
        obtain rfl : tx = c := hop
        by_cases hroom : (t.channels tx).HasRoom
        · rw [(stream_register hf hroom).2.1]
          exact .inr ⟨_, _, [], rfl, fun m hm => by cases hm⟩
        · -- without room the reply is lost
          obtain ⟨hc, -, -, -⟩ := register_spec t a tx now
          rw [hc, Channels.trySend_self, Channel.sent_trySend, if_neg hroom, hused]
          exact .nil
      | receive tx =>
        obtain rfl : tx = c := hop
        show Civil (Function.update t.channels tx _ tx).sent
        rw [Function.update_self, Channel.sent_recv]
        exact h
      | dropReceiver tx =>
        obtain rfl : tx = c := hop
        show Civil (Function.update t.channels tx _ tx).sent
        rw [Function.update_self, Channel.sent_dropReceiver]
        exact h
      | disconnect | handleMessage | requestMode | refreshHealth => cases hop
    · rw [untouched_step hown hused hop]
      exact h
  · rw [(stream_step hown hf hused).1]
    refine h.append hused fun m hm => ?_
    unfold kept at hm
    split at hm
    · exact not_isReply_told hm
    · cases hm

/-- **Every stream is civil.** -/
theorem civil_run (hown : Own t) (hf : Machine.Always SamService.step SamService.Fresh t ops)
    (h : Civil (t.channels c).sent) : Civil ((t.run ops).channels c).sent := by
  induction ops generalizing t with
  | nil => exact h
  | cons op ops ih => exact ih (own_step hown hf.1) hf.2 (civil_step hown hf.1 h)

end Streams

namespace System

variable {η ω : Type*} {handlers : ApplicationId → ModeHandler η ω} {timeout : Duration}
  {s s' : System η} {k : Nat} {link : Link} {ops : List Operation} {a : ApplicationId}
  {conn : ConnectionId} {input : Input η ω}

theorem Driven.civil (hd : Driven timeout s) (k : Nat) : Civil (s.service.channels ⟨k⟩).sent := by
  rw [hd.service]
  exact civil_run (own_new _ _) hd.fresh .nil

/-! ## What reaches the client -/

/-- What the client of link `k` has been sent. -/
def heard (s : System η) (k : Nat) : List SamToApplication := (s.links k).read ++ (s.links k).down

/-- What the client of a link has been sent is civil. -/
def Greeted (s : System η) : Prop := ∀ k, Civil (s.heard k)

theorem heard_setLink {k₀ : Nat} (h : link.read ++ link.down = s.heard k₀) (k : Nat) :
    (s.setLink k₀ link).heard k = s.heard k := by
  unfold heard
  rw [setLink_links]
  by_cases hk : k = k₀
  · subst hk
    rw [Function.update_self]
    exact h
  · rw [Function.update_of_ne hk]

theorem heard_clientReceive (a : ApplicationId) (world : ω) (written : Bool) (k : Nat) :
    (s.clientReceive handlers a world written).heard k = s.heard k := by
  -- a message read is one that was on its way
  have hget : ∀ k₀ message down, (s.links k₀).down = message :: down →
      ((s.links k₀).read ++ [message]) ++ down = s.heard k₀ := by
    intro k₀ message down hd
    unfold heard
    rw [hd, List.append_assoc, List.singleton_append]
  unfold clientReceive
  dsimp only
  split
  · split
    · rfl
    · rename_i k₀ _ _ message down hd
      exact heard_setLink (s := s) (hget k₀ message down hd) k
  · split
    · rfl
    · rename_i k₀ _ _ message down hd
      split
      · exact heard_setLink (s := s) (hget k₀ message down hd) k
      · split
        · exact heard_setLink (s := s) (hget k₀ message down hd) k
        · exact heard_setLink (s := s) (hget k₀ message down hd) k
      · exact heard_setLink (s := s) (hget k₀ message down hd) k
  · rfl

theorem heard_serverClose (k₀ : Nat) (now : Instant) (k : Nat) :
    (s.serverClose k₀ now).heard k = s.heard k := by
  unfold serverClose
  dsimp only
  split
  · exact heard_setLink (s := s) (by rfl) k
  · exact heard_setLink (s := s.perform _) (by rfl) k
  · exact heard_setLink (s := s.perform _) (by rfl) k
  · rfl

/-- A session task that receives writes nothing, unless it refuses its first message. -/
theorem heard_serverReceive (k₀ : Nat) (now : Instant) :
    (∀ k, (s.serverReceive k₀ now).heard k = s.heard k) ∨
      (s.links k₀).task = .awaiting ∧ ∃ message up, (s.links k₀).up = message :: up ∧
        ∀ a, message ≠ .register a PROTOCOL_VERSION := by
  unfold serverReceive
  dsimp only
  split
  · rename_i a version up ht hup
    split
    · rename_i hv
      refine .inr ⟨ht, _, up, hup, fun b h => hv ?_⟩
      cases h
      rfl
    · split
      · exact .inl fun k => heard_setLink (s := s.perform _) (by rfl) k
      · exact .inl fun k => heard_setLink (s := s.perform _) (by rfl) k
  · rename_i message up hno ht hup
    refine .inr ⟨ht, message, up, hup, fun a h => ?_⟩
    exact hno a PROTOCOL_VERSION h
  · exact .inl fun k => heard_setLink (s := s.perform _) (by rfl) k
  · exact .inl fun k => rfl

/-- A message is written only by the session task of a registered connection. -/
theorem heard_serverSend (k₀ : Nat) (written : Bool) (k : Nat) :
    (s.serverSend k₀ written).heard k = s.heard k ∨
      ∃ a conn, ((s.serverSend k₀ written).links k).task = .registered a conn := by
  unfold serverSend
  dsimp only
  split
  · rename_i a conn message queue ht hq
    cases written with
    | false => exact .inl (heard_setLink (s := s.perform _) (by rfl) k)
    | true =>
      by_cases hk : k = k₀
      · subst hk
        refine .inr ⟨a, conn, ?_⟩
        simpa using ht
      · refine .inl ?_
        unfold heard
        rw [setLink_links, Function.update_of_ne hk]
        rfl
  · exact .inl rfl

/-- The first message on a link is a `Register` of our version. -/
theorem Wired.first (hw : Wired timeout s) (ht : (s.links k).task = .awaiting)
    {message : ApplicationToSam} {up : List ApplicationToSam}
    (hup : (s.links k).up = message :: up) :
    ∃ a, message = .register a PROTOCOL_VERSION := by
  have hwritten : (s.links k).written = message :: up := by
    unfold Link.written
    rw [(hw.honest.proper k).awaiting ht, hup]
    rfl
  have howner := (hw.owned k).origin message (by rw [hwritten]; exact List.mem_cons_self ..)
  obtain ⟨rest, hrest, -⟩ := (hw.honest.proper k).opened _ howner
  rw [hwritten] at hrest
  exact ⟨_, (List.cons.inj hrest).1⟩

/-- **What a client is sent stays civil.** -/
theorem greeted_step (hw : Wired timeout s) (hw' : Wired timeout (step handlers s input))
    (h : Greeted s) : Greeted (step handlers s input) := by
  intro k
  cases input with
  | serverReceive k₀ now =>
    rcases heard_serverReceive (s := s) k₀ now with hsame | ⟨ht, message, up, hup, hno⟩
    · rw [step, hsame]
      exact h k
    · obtain ⟨a, rfl⟩ := hw.first ht hup
      exact absurd rfl (hno a)
  | serverSend k₀ written =>
    rcases heard_serverSend (s := s) k₀ written k with hsame | ⟨a, conn, ht⟩
    · rw [step, hsame]
      exact h k
    · -- what has been written was taken from the channel
      refine (hw'.driven.civil k).initial ?_
      have hdelivered := (hw'.delivered k).registered a conn ht
      unfold heard
      rw [hdelivered]
      exact List.prefix_append _ _
  | clientReceive a world written =>
    rw [step, heard_clientReceive]
    exact h k
  | serverClose k₀ now =>
    rw [step, heard_serverClose]
    exact h k
  | connect a k₀ =>
    rw [step]
    split
    · show Civil ((s.setLink k₀ _).heard k)
      rw [heard_setLink (s := s) (by rfl) k]
      exact h k
    · exact h k
  | clientHeartbeat a world written =>
    rw [step, clientHeartbeat]
    split
    · split
      · rw [heard_setLink (s := s) (by rfl) k]
        exact h k
      · exact h k
    · exact h k
  | clientClose a =>
    rw [step]
    split <;> exact h k
  | restart | requestMode | refreshHealth => exact h k

theorem greeted_run (timeout : Duration) (initial : ApplicationId → η)
    (inputs : List (Input η ω))
    (hn : (run handlers (System.new timeout initial) inputs).registrations < 2 ^ 64) :
    Greeted (run handlers (System.new timeout initial) inputs) := by
  induction inputs using List.reverseRecOn with
  | nil => exact fun _ => .nil
  | append_singleton inputs input ih =>
    have hw := wired_run timeout initial (inputs ++ [input]) hn
    unfold run at hn hw ⊢
    rw [Machine.run_concat] at hn hw ⊢
    have hn' : (run handlers (System.new timeout initial) inputs).registrations < 2 ^ 64 :=
      lt_of_le_of_lt (registrations_mono (step_move _ input)) hn
    exact greeted_step (wired_run timeout initial inputs hn') hw (ih hn')

/-! ## What the client has read -/

/-- A client has read something on its link once it is in session, and nothing before. -/
structure ReadingOn (client : Client η) (k : Nat) (link : Link) : Prop where
  registering : client.session = .registering k → link.read = []
  running : client.session = .running k → link.read ≠ []

/-- A client that is not on link `k` has nothing to do with it. -/
theorem reading_elsewhere {client : Client η} (hk : client.session.link? ≠ some k) :
    ReadingOn client k link where
  registering hs := absurd (by rw [hs]; rfl) hk
  running hs := absurd (by rw [hs]; rfl) hk

theorem ClientMove.reading (ho : Owned s) {client : Client η} {call : Option HandlerCall}
    {answer : Option ApplicationToSam} (hm : ClientMove handlers s a k link client call answer) :
    ReadingOn client k link ∨ client.session = (s.clients a).session ∧
      link.read = (s.links k).read := by
  cases hm with
  | connect _ hn => exact .inl ⟨fun _ => (ho k).unread hn, fun h => by cases h⟩
  | welcome | observe | answer =>
    exact .inl ⟨fun h => (by cases h), fun _ => List.append_ne_nil_of_right_ne_nil _ (by simp)⟩
  | unwelcome _ _ _ session _ _ hn | leave _ _ _ session _ _ hn =>
    refine .inl (reading_elsewhere ?_)
    rcases hn with rfl | rfl <;> simp [ClientSession.link?]
  | heartbeat => exact .inr ⟨rfl, rfl⟩

theorem reading_move (ho : Owned s) (h : ∀ a k, ReadingOn (s.clients a) k (s.links k))
    (hm : Move handlers s s') : ∀ a k, ReadingOn (s'.clients a) k (s'.links k) := by
  intro a
  cases hm with
  | idle | call => exact h a
  | server k ops link hm =>
    refine update_links (P := ReadingOn (s.clients a)) (fun k' _ => h a k') ?_
    obtain ⟨-, hread, -, -⟩ := hm.frame
    exact ⟨fun hs => hread ▸ (h a k).registering hs, fun hs => hread ▸ (h a k).running hs⟩
  | client b k link client call answer hm =>
    obtain ⟨hold, howner, hsession, -, -⟩ := hm.owner ho
    rw [recordCall_clients, setClient_clients, setLink_clients, recordCall_links, setClient_links,
      setLink_links]
    by_cases hab : a = b
    · subst hab
      rw [Function.update_self]
      refine update_links (P := ReadingOn client) (fun k' hk => ?_) ?_
      · refine reading_elsewhere fun hs => ?_
        rcases hsession with hs' | hs' <;> rw [hs'] at hs
        · exact hk (Option.some.inj hs).symm
        · cases hs
      · rcases hm.reading ho with hr | ⟨hsame, hread⟩
        · exact hr
        · refine ⟨fun hs => ?_, fun hs => ?_⟩
          · rw [hread]
            exact (h a k).registering (hsame ▸ hs)
          · rw [hread]
            exact (h a k).running (hsame ▸ hs)
    · rw [Function.update_of_ne hab]
      refine update_links (P := ReadingOn (s.clients a)) (fun k' _ => h a k') ?_
      -- `b`'s link is not `a`'s
      refine reading_elsewhere fun hs => hab ?_
      have hown := (ho k).session a hs
      rcases hold with hold | hold <;> rw [hold] at hown
      · cases hown
      · exact (Option.some.inj hown).symm
  | quit b handler =>
    intro k
    rw [setClient_clients, setClient_links]
    by_cases hab : a = b
    · subst hab
      rw [Function.update_self]
      exact reading_elsewhere (by simp [ClientSession.link?])
    · rw [Function.update_of_ne hab]
      exact h a k

theorem reading_run (timeout : Duration) (initial : ApplicationId → η) (inputs : List (Input η ω)) :
    let s := run handlers (System.new timeout initial) inputs
    ∀ a k, ReadingOn (s.clients a) k (s.links k) :=
  move_invariant (I := fun s => ∀ a k, ReadingOn (s.clients a) k (s.links k))
    (fun _ _ => reading_elsewhere (by simp [System.new, ClientSession.link?]))
    (fun inputs _ => reading_move (owned_run timeout initial inputs)) inputs

/-! ## What ends a session -/

/-- What `run_session` makes of the message it takes: nothing, or the error it returns. -/
def sessionError (handlers : ApplicationId → ModeHandler η ω) (s : System η) :
    Input η ω → Option RuntimeError
  | .clientReceive a world _ =>
    match (s.clients a).session with
    | .registering k =>
      match (s.links k).down with
      | [] => none
      | message :: _ =>
        match ((handlers a).registrationReceived world (s.clients a).handler message).1 with
        | .ok () => none
        | .error error => some error
    | .running k =>
      match (s.links k).down with
      | [] => none
      | message :: _ =>
        match ((handlers a).messageReceived world a (s.clients a).handler message).result with
        | .ok _ => none
        | .error error => some error
    | _ => none
  | _ => none

/-- A callback has failed: `commit_mode`, or `synchronize_mode` on the answer to a registration. -/
def HandlerFailed (handlers : ApplicationId → ModeHandler η ω) (s : System η) :
    Input η ω → RuntimeError → Prop
  | .clientReceive a world _, .commitFailed reason => ∃ k id mode down,
    (s.clients a).session = .running k ∧ (s.links k).down = .commitMode id mode :: down ∧
      ((handlers a).commitMode world mode (s.clients a).handler).1 = .error reason
  | .clientReceive a world _, .initialSynchronizationFailed mode reason => ∃ k health down,
    (s.clients a).session = .registering k ∧
      (s.links k).down = .registerAccepted PROTOCOL_VERSION mode health :: down ∧
      (handlers a).currentMode (s.clients a).handler ≠ mode ∧
      ((handlers a).synchronizeMode world mode (s.clients a).handler).1 = .error reason
  | _, _ => False

/-- The first message heard is the acceptance, -/
theorem Greeted.first (h : Greeted s) {message : SamToApplication} {down : List SamToApplication}
    (hread : (s.links k).read = []) (hd : (s.links k).down = message :: down) :
    ∃ mode health, message = .registerAccepted PROTOCOL_VERSION mode health := by
  have hk := h k
  unfold heard at hk
  rw [hread, hd, List.nil_append] at hk
  rcases hk with hk | ⟨mode, health, rest, hk, -⟩
  · cases hk
  · exact ⟨mode, health, (List.cons.inj hk).1⟩

/-- and the others are no replies. -/
theorem Greeted.later (h : Greeted s) {message : SamToApplication} {down : List SamToApplication}
    (hread : (s.links k).read ≠ []) (hd : (s.links k).down = message :: down) :
    ¬ message.IsReply := by
  have hk := h k
  unfold heard at hk
  obtain ⟨x, read, hx⟩ := List.exists_cons_of_ne_nil hread
  rw [hx, hd, List.cons_append] at hk
  rcases hk with hk | ⟨mode, health, rest, hk, hrest⟩
  · cases hk
  · refine hrest message ?_
    rw [← (List.cons.inj hk).2]
    simp

/-- The answer to a registration that is not understood is one the handler cannot follow. -/
theorem registration_error {h : ModeHandler η ω} {world : ω} {self : η} {mode : SystemMode}
    {health : HealthState} {error : RuntimeError}
    (he : (h.registrationReceived world self (.registerAccepted PROTOCOL_VERSION mode health)).1 =
      .error error) :
    ∃ reason, error = .initialSynchronizationFailed mode reason ∧ h.currentMode self ≠ mode ∧
      (h.synchronizeMode world mode self).1 = .error reason := by
  unfold ModeHandler.registrationReceived at he
  dsimp only at he
  rw [if_neg (not_not.mpr rfl)] at he
  by_cases hmode : h.currentMode self ≠ mode
  · rw [if_pos hmode] at he
    cases hsync : h.synchronizeMode world mode self with
    | mk result handler =>
      rw [hsync] at he
      cases result with
      | ok =>
        cases he
      | error reason =>
        cases he
        exact ⟨reason, rfl, hmode, rfl⟩
  · rw [if_neg hmode] at he
    cases he

/-- A message of a session that ends it is a commit that fails. -/
theorem message_error {h : ModeHandler η ω} {world : ω} {self : η} {message : SamToApplication}
    {error : RuntimeError} (hm : ¬ message.IsReply)
    (he : (h.messageReceived world a self message).result = .error error) :
    ∃ id mode reason, message = .commitMode id mode ∧ error = .commitFailed reason ∧
      (h.commitMode world mode self).1 = .error reason := by
  unfold ModeHandler.messageReceived at he
  cases message with
  | prepareMode id mode =>
    dsimp only at he
    split at he <;> cases he
  | commitMode id mode =>
    dsimp only at he
    split at he
    · cases he
    · rename_i reason handler hcommit
      cases he
      exact ⟨id, mode, reason, rfl, rfl, by rw [hcommit]⟩
  | abortMode | stateBroadcast => cases he
  | registerAccepted | registerRejected => exact absurd trivial hm

/-- An error is the handler's own. -/
theorem error_origin {error : RuntimeError} (hg : Greeted s)
    (hr : ∀ a k, ReadingOn (s.clients a) k (s.links k))
    (he : sessionError handlers s input = some error) : HandlerFailed handlers s input error := by
  unfold sessionError at he
  split at he
  · rename_i a world written
    split at he
    · rename_i k hs
      split at he
      · cases he
      · rename_i message down hd
        split at he
        · cases he
        · rename_i error' herror
          cases he
          obtain ⟨mode, health, rfl⟩ := hg.first ((hr a k).registering hs) hd
          obtain ⟨reason, rfl, hmode, hsync⟩ := registration_error herror
          exact ⟨k, health, down, hs, hd, hmode, hsync⟩
    · rename_i k hs
      split at he
      · cases he
      · rename_i message down hd
        split at he
        · cases he
        · rename_i error' herror
          cases he
          obtain ⟨id, mode, reason, rfl, rfl, hcommit⟩ :=
            message_error (hg.later ((hr a k).running hs) hd) herror
          exact ⟨k, id, mode, down, hs, hd, hcommit⟩
    · cases he
  · cases he

/-- **What ends a session is the handler's own failure.**  In every run with fewer than `2 ^ 64`
    registrations, a message of SAM that ends a session is a `CommitMode` the handler fails to carry
    out, or the acceptance of the registration with a mode to which it fails to synchronize. -/
theorem session_error (handlers : ApplicationId → ModeHandler η ω) (timeout : Duration)
    (initial : ApplicationId → η) (inputs : List (Input η ω)) (input : Input η ω)
    (error : RuntimeError) :
    let s := run handlers (System.new timeout initial) inputs
    s.registrations < 2 ^ 64 → sessionError handlers s input = some error →
    HandlerFailed handlers s input error :=
  fun hn => error_origin (greeted_run timeout initial inputs hn)
    (reading_run timeout initial inputs)

/-- `guidance` is taken to `Working`, and `navigation`, started with `--reject-working`, joins. -/
def joining : List (Input DemoHandler Unit) :=
  [.connect Demo.guidance 1, .serverReceive 1 1, .serverSend 1 true,
    .clientReceive Demo.guidance () true,
    .requestMode .working,
    .serverSend 1 true, .clientReceive Demo.guidance () true, .serverReceive 1 2,
    .serverSend 1 true, .clientReceive Demo.guidance () true, .serverReceive 1 3,
    .connect Demo.navigation 0, .serverReceive 0 4, .serverSend 0 true]

theorem session_error_demo :
    HandlerFailed (fun _ => demoHandler)
      (run (fun _ => demoHandler)
        (System.new 2000000000 fun a => .new a.value (a = Demo.navigation) .healthy) joining)
      (.clientReceive Demo.navigation () true)
      (.initialSynchronizationFailed .working "navigation configured to reject Working") :=
  session_error (fun _ => demoHandler) 2000000000
    (fun a => .new a.value (a = Demo.navigation) .healthy) joining _ _ (by decide +kernel)
    (by decide +kernel)

/-- Only a permanent error makes a client stop. -/
theorem next_stopped {error : RuntimeError} (h : error.next = .stopped) :
    error.isPermanent = true := by
  unfold RuntimeError.next at h
  split at h
  · assumption
  · cases h

theorem sessionError_registering {world : ω} {written : Bool} {message : SamToApplication}
    {down : List SamToApplication} {error : RuntimeError}
    (hs : (s.clients a).session = .registering k) (hd : (s.links k).down = message :: down)
    (he : ((handlers a).registrationReceived world (s.clients a).handler message).1 =
      .error error) :
    sessionError handlers s (.clientReceive a world written) = some error := by
  simp only [sessionError, hs, hd, he]

theorem sessionError_running {world : ω} {written : Bool} {message : SamToApplication}
    {down : List SamToApplication} {error : RuntimeError}
    (hs : (s.clients a).session = .running k) (hd : (s.links k).down = message :: down)
    (he : ((handlers a).messageReceived world a (s.clients a).handler message).result =
      .error error) :
    sessionError handlers s (.clientReceive a world written) = some error := by
  simp only [sessionError, hs, hd, he]

/-- A client stops when a message ends its session with a permanent error. -/
theorem receive_stopped {world : ω} {written : Bool}
    (hs : ((s.clientReceive handlers a world written).clients a).session = .stopped) :
    (s.clients a).session = .stopped ∨ ∃ error,
      sessionError handlers s (.clientReceive a world written) = some error ∧
        error.isPermanent = true := by
  unfold clientReceive at hs
  dsimp only at hs
  split at hs
  · rename_i k hsession
    split at hs
    · exact .inl hs
    · rename_i message down hd
      rw [setClient_clients, Function.update_self] at hs
      dsimp only at hs
      split at hs
      · cases hs
      · rename_i error herror
        exact .inr ⟨error, sessionError_registering hsession hd herror, next_stopped hs⟩
  · rename_i k hsession
    split at hs
    · exact .inl hs
    · rename_i message down hd
      split at hs
      · rw [recordCall_clients, setClient_clients, Function.update_self] at hs
        cases hs
      · split at hs <;> rw [recordCall_clients, setClient_clients, Function.update_self] at hs <;>
          cases hs
      · rename_i error herror
        rw [recordCall_clients, setClient_clients, Function.update_self] at hs
        exact .inr ⟨error, sessionError_running hsession hd herror, next_stopped hs⟩
  · exact .inl hs

theorem stopped_step (hs : ((step handlers s input).clients a).session = .stopped) :
    (s.clients a).session = .stopped ∨ ∃ world written error,
      input = .clientReceive a world written ∧ sessionError handlers s input = some error ∧
        error.isPermanent = true := by
  by_cases ha : input.client? = some a
  · cases input with
    | clientReceive b world written =>
      cases ha
      rcases receive_stopped hs with hs | ⟨error, he, hp⟩
      · exact .inl hs
      · exact .inr ⟨world, written, error, rfl, he, hp⟩
    | connect b k =>
      cases ha
      rw [step] at hs
      split at hs
      · rw [setClient_clients, Function.update_self] at hs
        cases hs
      · exact .inl hs
    | restart b handler =>
      cases ha
      rw [step, setClient_clients, Function.update_self] at hs
      cases hs
    | clientHeartbeat b world written =>
      cases ha
      rw [step, clientHeartbeat] at hs
      split at hs
      · split at hs
        · exact .inl hs
        · rw [setClient_clients, Function.update_self] at hs
          cases hs
      · exact .inl hs
    | clientClose b =>
      cases ha
      rw [step] at hs
      split at hs
      · rw [setClient_clients, Function.update_self] at hs
        cases hs
      · rw [setClient_clients, Function.update_self] at hs
        cases hs
      · exact .inl hs
    | serverReceive | serverSend | serverClose | requestMode | refreshHealth => cases ha
  · rw [step_clients ha] at hs
    exact .inl hs

/-- **A client gives up only because it could not synchronize.**  Whenever `ApplicationRuntime::run`
    has returned, an earlier registration was accepted with a mode the handler could not adopt. -/
theorem stopped_origin (handlers : ApplicationId → ModeHandler η ω) (timeout : Duration)
    (initial : ApplicationId → η) (inputs : List (Input η ω)) (a : ApplicationId)
    (hn : (run handlers (System.new timeout initial) inputs).registrations < 2 ^ 64)
    (hs : ((run handlers (System.new timeout initial) inputs).clients a).session = .stopped) :
    ∃ pre world written post mode reason, inputs = pre ++ .clientReceive a world written :: post ∧
      HandlerFailed handlers (run handlers (System.new timeout initial) pre)
        (.clientReceive a world written) (.initialSynchronizationFailed mode reason) := by
  induction inputs using List.reverseRecOn with
  | nil => cases hs
  | append_singleton inputs input ih =>
    unfold run at hn hs
    rw [Machine.run_concat] at hn hs
    have hn' : (run handlers (System.new timeout initial) inputs).registrations < 2 ^ 64 :=
      lt_of_le_of_lt (registrations_mono (step_move _ input)) hn
    rcases stopped_step hs with hs | ⟨world, written, error, rfl, he, hp⟩
    · obtain ⟨pre, world, written, post, mode, reason, rfl, hfailed⟩ := ih hn' hs
      exact ⟨pre, world, written, post ++ [input], mode, reason, by simp, hfailed⟩
    · have hfailed := error_origin (greeted_run timeout initial inputs hn')
        (reading_run timeout initial inputs) he
      cases error with
      | initialSynchronizationFailed mode reason =>
        exact ⟨inputs, world, written, [], mode, reason, rfl, hfailed⟩
      | transport | registrationTimeout | unexpectedRegistrationResponse | connectionClosed
      | commitFailed => cases hp
      | registrationRejected | protocolVersionMismatch => cases hfailed

theorem stopped_origin_demo :
    ∃ pre world written post mode reason,
      joining ++ [.clientReceive Demo.navigation () true] =
        pre ++ .clientReceive Demo.navigation world written :: post ∧
      HandlerFailed (fun _ => demoHandler)
        (run (fun _ => demoHandler)
          (System.new 2000000000 fun a => .new a.value (a = Demo.navigation) .healthy) pre)
        (.clientReceive Demo.navigation world written)
        (.initialSynchronizationFailed mode reason) :=
  stopped_origin (fun _ => demoHandler) 2000000000
    (fun a => .new a.value (a = Demo.navigation) .healthy)
    (joining ++ [.clientReceive Demo.navigation () true]) Demo.navigation (by decide +kernel)
    (by decide +kernel)

end System

end Sam
