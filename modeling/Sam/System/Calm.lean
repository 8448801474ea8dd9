import Sam.System.Agreement
import Sam.System.Conversation
import Sam.System.Reconnect

/-!
# Calm runs

While a transition is in progress, connections come and go in a run of SAM and its applications or
they do not.  If not, the conversations about the commit stay in step with the manager.

* `Calm` — a step opens and closes no connection while a transition is in progress.
* `Wired` — what is known of every state a run reaches.
* `Consistent` — the conversation with each client is at a stage that fits the manager's phase.
* `ClientMove.fit`, `fit_confirmed`, `fit_other` — what the moves of a client and the messages SAM
  handles do to a conversation.
* `consistent_move`, `consistent_run` — calm steps and calm runs keep the conversations consistent.
-/

namespace Sam

open SamService

/-! ## One operation of the service -/

section Service

variable {η ω : Type*} {h : ModeHandler η ω} {t : SamService} {op : Operation} {a : ApplicationId}
  {conn : ConnectionId} {k : Nat}

/-- The channel of a client grows by what it takes of a broadcast, unless its own task receives, and
    orders no commit that is not broadcast. -/
theorem queue_step (hown : Own t) (hf : t.Fresh op)
    (hc : t.inner.clients.lookup a = some ⟨conn, ⟨k⟩⟩) (hop : op ≠ .receive ⟨k⟩) :
    ∃ l, ((t.step op).channels ⟨k⟩).queue = (t.channels ⟨k⟩).queue ++ l ∧
      (commits l).Sublist (commits (t.told op)) := by
  refine ⟨t.kept ⟨k⟩ op, ?_, List.Sublist.filterMap _ ?_⟩
  · have hsent := (stream_step hown hf (hown.used a _ hc)).1
    unfold Channel.sent at hsent
    rw [delivered_step hop, List.append_assoc] at hsent
    exact List.append_cancel_left hsent
  · unfold kept
    split
    · exact List.Sublist.refl _
    · exact List.nil_sublist _

/-- An operation that makes no event happen leaves the phase alone and orders no commit. -/
theorem quiet_step (he : t.event op = none) :
    (t.step op).inner.modes = t.inner.modes ∧ commits (t.told op) = [] := by
  have heff := step_effect t op
  rw [he] at heff
  refine ⟨(none_frame heff).1, commits_eq_nil.mpr fun id m hm => ?_⟩
  obtain ⟨b, current, W, R, hev, -⟩ := told_commit hm
  rw [he] at hev
  cases hev

/-- What SAM's state shows of one client, beside what the link holds. -/
def SamService.view (t : SamService) (client : Client η) (link : Link) (a : ApplicationId)
    (k : Nat) :
    View η :=
  ⟨client, link.up, link.down ++ (t.channels ⟨k⟩).queue,
    (t.inner.applications.get a).map ApplicationStatus.currentMode⟩

/-- **An operation that orders no commit is a minor step** for a client that stays connected. -/
theorem step_minor (client : Client η) (link : Link) (hown : Own t) (hk : Known t.inner)
    (hf : t.Fresh op)
    (hc : t.inner.clients.lookup a = some ⟨conn, ⟨k⟩⟩)
    (hc' : (t.step op).inner.clients.lookup a = some ⟨conn, ⟨k⟩⟩) (hop : op ≠ .receive ⟨k⟩)
    (hreg : ∀ tx now, op ≠ .register a tx now) (hno : commits (t.told op) = [])
    {link' : Link} (hdown : link'.down = link.down)
    (hup : UpStep h k (t.view client link a k) link'.up)
    (hmsg : ∀ x now, op = .handleMessage a conn x now → x ∈ link.up) :
    Minor h k (t.view client link a k) ((t.step op).view client link' a k) ∧
      Keeps h k (t.view client link a k) ((t.step op).view client link' a k) := by
  obtain ⟨l, hq, hl⟩ := queue_step hown hf hc hop
  rw [hno] at hl
  have hnil : commits l = [] := List.sublist_nil.mp hl
  refine ⟨⟨hup, ?_⟩, fun m hm => hm, fun m hreports hm => ?_⟩
  · show (commits (link'.down ++ ((t.step op).channels ⟨k⟩).queue)).Sublist
      (commits (link.down ++ (t.channels ⟨k⟩).queue))
    rw [hq, hdown, ← List.append_assoc, commits_append, hnil, List.append_nil]
  · obtain ⟨status, hs, hmode⟩ := Option.map_eq_some_iff.mp hm
    obtain ⟨status', hs'⟩ := known_step hk (step_effect t op) a _ hc'
    refine Option.map_eq_some_iff.mpr ⟨status', hs', ?_⟩
    rcases status_origin (step_effect t op) hs' with ⟨st, hst, hcurrent⟩ | ⟨tx, now, hop'⟩ |
      ⟨conn', tx, x, now, hop', hlook, hx⟩
    · rw [hs] at hst
      obtain rfl := Option.some.inj hst
      rw [hcurrent, hmode]
    · exact absurd hop' (hreg tx now)
    · -- a report of its own, taken from the link
      rw [hc] at hlook
      cases hlook
      exact hreports x (hmsg x now hop') _ hx

end Service

/-- The application whose client an input may move. -/
def Input.client? {η ω : Type*} : Input η ω → Option ApplicationId
  | .connect a _ | .restart a _ | .clientReceive a _ _ | .clientHeartbeat a _ _ | .clientClose a =>
    some a
  | .serverReceive _ _ | .serverSend _ _ | .serverClose _ _ | .requestMode _ | .refreshHealth _ =>
    none

namespace System

variable {η ω : Type*} {handlers : ApplicationId → ModeHandler η ω} {timeout : Duration}
  {s s' : System η} {k k₀ : Nat} {link : Link} {ops : List Operation} {a b : ApplicationId}
  {conn : ConnectionId}

/-- No connection is opened or closed in this step if a transition is in progress. -/
def Calm (s s' : System η) : Prop :=
  s.service.transitionInProgress = true →
    s'.service.inner.clients = s.service.inner.clients ∧
      ∀ a, (s'.clients a).session.link? = (s.clients a).session.link?

theorem step_clients {input : Input η ω} (ha : input.client? ≠ some a) :
    (step handlers s input).clients a = s.clients a := by
  -- setting the client that moves does not touch `a`
  have hset : ∀ (t : System η) (b : ApplicationId) (client : Client η), some b ≠ some a →
      (t.setClient b client).clients a = t.clients a :=
    fun t b client hb => Function.update_of_ne (fun hab => hb (by rw [hab])) _ _
  cases input with
  | requestMode | refreshHealth => rfl
  | restart b handler => exact hset s b _ ha
  | connect b k =>
    rw [step]
    split
    · exact hset _ b _ ha
    · rfl
  | clientClose b =>
    rw [step]
    split
    · exact hset s b _ ha
    · exact hset s b _ ha
    · rfl
  | clientHeartbeat b world written =>
    rw [step, clientHeartbeat]
    split
    · split
      · rfl
      · exact hset s b _ ha
    · rfl
  | clientReceive b world written =>
    rw [step, clientReceive]
    dsimp only
    split
    · split
      · rfl
      · exact hset _ b _ ha
    · split
      · rfl
      · split
        · exact hset _ b _ ha
        · split <;> exact hset _ b _ ha
        · exact hset _ b _ ha
    · rfl
  | serverReceive k now =>
    rw [step, serverReceive]
    dsimp only
    split
    · split
      · rfl
      · split <;> rfl
    · rfl
    · rfl
    · rfl
  | serverSend k written =>
    rw [step, serverSend]
    split <;> rfl
  | serverClose k now =>
    rw [step, serverClose]
    split <;> rfl

/-- Whether a step is calm shows in the client table and in the client that may move. -/
theorem calm_iff {input : Input η ω} : Calm s (step handlers s input) ↔
    (s.service.transitionInProgress = true →
      (step handlers s input).service.inner.clients.entries = s.service.inner.clients.entries ∧
        ∀ a ∈ input.client?,
          ((step handlers s input).clients a).session.link? = (s.clients a).session.link?) := by
  refine imp_congr_right fun _ => and_congr AList.ext_iff ⟨fun h a _ => h a, fun h a => ?_⟩
  by_cases ha : input.client? = some a
  · exact h a ha
  · rw [step_clients ha]

instance (input : Input η ω) : Decidable (Calm s (step handlers s input)) :=
  decidable_of_iff _ calm_iff.symm

theorem calm_of_stable (h : s.service.transitionInProgress = false) : Calm s s' := by
  intro hp
  rw [h] at hp
  cases hp

/-- Reconnecting is calm while no transition is in progress. -/
theorem calm_reconnects {now : Instant} (h : Repeatable s a k now)
    (hs : s.service.transitionInProgress = false) (n : Nat) :
    Machine.Always (step handlers) (fun s input => Calm s (step handlers s input)) s
      (reconnects a k now n) := by
  induction n with
  | zero =>
    rw [reconnects_zero]
    trivial
  | succ n ih =>
    have hreg := register_reconnected h n
    rw [reconnects_succ, Machine.always_append]
    refine ⟨ih, ?_⟩
    rw [show Machine.run (step handlers) s _ = s.reconnected a k now n from run_reconnects h n]
    have hidle : ((s.reconnected a k now n).clients a).session = .idle := h.idle
    have hunused : (s.reconnected a k now n).links (k + n) = .unused := reconnected_unused h n
    refine ⟨calm_of_stable hs, ?_⟩
    rw [step_connect hidle hunused]
    refine ⟨calm_of_stable hs, ?_⟩
    rw [step_connecting (congrArg Prod.fst hreg)]
    refine ⟨calm_of_stable ?_, trivial⟩
    show ((s.reconnected a k now n).service.register a ⟨k + n⟩ now).2.transitionInProgress = false
    rw [hreg]
    exact hs

/-- One client on its connection. -/
def view (s : System η) (a : ApplicationId) (k : Nat) : View η :=
  s.service.view (s.clients a) (s.links k) a k

/-- The conversation with each client fits the phase. -/
def Consistent (handlers : ApplicationId → ModeHandler η ω) (s : System η) : Prop :=
  ∀ a conn k, s.service.inner.clients.lookup a = some ⟨conn, ⟨k⟩⟩ →
    Fit (handlers a) a k s.service.inner.modes.state (s.view a k)

/-- What is known of every state that a run with fewer than `2 ^ 64` registrations reaches. -/
structure Wired (timeout : Duration) (s : System η) : Prop where
  driven : Driven timeout s
  owned : Owned s
  seated : Seated s
  distinct : Distinct s
  delivered : Delivered s
  honest : Honest s

theorem honest_run (timeout : Duration) (initial : ApplicationId → η) (inputs : List (Input η ω)) :
    Honest (run handlers (System.new timeout initial) inputs) :=
  move_invariant (honest_new timeout initial) (fun inputs s' h hm => honest_move h
    (.ours s' hm fun _ hn _ => (owned_run timeout initial inputs).unwritten hn)) inputs

theorem wired_run (timeout : Duration) (initial : ApplicationId → η) (inputs : List (Input η ω))
    (hn : (run handlers (System.new timeout initial) inputs).registrations < 2 ^ 64) :
    Wired timeout (run handlers (System.new timeout initial) inputs) where
  driven := driven_run timeout initial inputs
  owned := owned_run timeout initial inputs
  seated := seated_run timeout initial inputs
  distinct := distinct_run timeout initial inputs hn
  delivered := delivered_run_system timeout initial inputs
  honest := honest_run timeout initial inputs

section Client

variable (hw : Wired timeout s) (hlook : s.service.inner.clients.lookup a = some ⟨conn, ⟨k⟩⟩)

include hw hlook

theorem Wired.owner : (s.links k).owner = some a :=
  (hw.owned k).served a conn (hw.seated.seat hlook)

/-- No other session task serves a client's connection. -/
theorem Wired.same (h : (s.links k₀).task.seat? = some (a, conn)) : k = k₀ :=
  hw.distinct.distinct k k₀ a a conn (hw.seated.seat hlook) h

end Client

/-! ## A client moves -/

/-- What an answer is to, and what becomes of the mode. -/
theorem answer_kind {h : ModeHandler η ω} (hd : h.Disciplined) {w : ω} {self : η}
    {message : SamToApplication} {answer : ApplicationToSam}
    (hr : (h.messageReceived w a self message).result = .ok (some answer)) :
    (message.commit? = none ∧ answer.confirm? = none ∧ answer.mode? = none ∧
      h.currentMode (h.messageReceived w a self message).handler = h.currentMode self) ∨
    ∃ id mode, message = .commitMode id mode ∧ answer = .modeCommitted a id mode ∧
      h.currentMode (h.messageReceived w a self message).handler = mode := by
  have hmode := (hd.answered hr).2
  rcases ModeHandler.answer_cases hr with ⟨id, mode, rfl, hc⟩ | ⟨id, reason, rfl⟩ |
    ⟨id, mode, rfl, hc⟩
  · have hmessage := ModeHandler.call_order hc
    subst hmessage
    exact .inl ⟨rfl, rfl, rfl, hmode⟩
  · cases message with
    | prepareMode => exact .inl ⟨rfl, rfl, rfl, hmode⟩
    | commitMode id' mode =>
      unfold ModeHandler.messageReceived at hr
      dsimp only at hr
      split at hr <;> cases hr
    | registerAccepted | abortMode | stateBroadcast | registerRejected => cases hr
  · have hmessage := ModeHandler.call_order hc
    subst hmessage
    exact .inr ⟨id, mode, rfl, rfl, hmode⟩

/-- A message read leaves fewer unread. -/
theorem commits_tail {message : SamToApplication} {down queue : List SamToApplication} :
    (commits (down ++ queue)).Sublist (commits ((message :: down) ++ queue)) :=
  ((List.sublist_cons_self message down).append_right queue).filterMap _

/-- The owner of a current link moves on it. -/
theorem ClientMove.fit (hd : (handlers a).Disciplined) {phase : ModeManagerState}
    {client : Client η} {call : Option HandlerCall} {answer : Option ApplicationToSam}
    (hm : ClientMove handlers s a k link client call answer)
    (ho : (s.links k).owner = some a)
    (hcalm : (∃ id previous m W C, phase = .committing id previous m W C) →
      client.session.link? = (s.clients a).session.link?)
    (hf : Fit (handlers a) a k phase (s.view a k)) :
    Fit (handlers a) a k phase (s.service.view client link a k) := by
  -- while a transition is being committed the client does not leave its session
  have hleave : ∀ session, client.session = session → (session = .idle ∨ session = .stopped) →
      (s.clients a).session.link? = some k →
      ¬ ∃ id previous m W C, phase = .committing id previous m W C := by
    intro session hs hn hlink hphase
    have hsame := hcalm hphase
    rw [hs, hlink] at hsame
    rcases hn with rfl | rfl <;> cases hsame
  cases hm with
  | connect _ hn =>
    rw [hn] at ho
    cases ho
  | welcome world message down handler hs hdown =>
    refine hf.minor ⟨.same, ?_⟩ fun _ => ⟨fun m hm => ?_, fun _ _ hm => hm⟩
    · unfold System.view SamService.view
      rw [hdown]
      exact commits_tail
    · have hrunning := hm.1
      change (s.clients a).session = .running k at hrunning
      rw [hs] at hrunning
      cases hrunning
  | unwelcome message down handler session hs hdown hn =>
    refine hf.minor ⟨.same, ?_⟩ fun hphase =>
      absurd hphase (hleave session rfl hn (by rw [hs]; rfl))
    unfold System.view SamService.view
    rw [hdown]
    exact commits_tail
  | observe world message down hs hdown hr =>
    refine hf.minor ⟨.same, ?_⟩ fun _ => ⟨fun m hm => ⟨rfl, ?_⟩, fun _ _ hm => hm⟩
    · unfold System.view SamService.view
      rw [hdown]
      exact commits_tail
    · exact (hd.observed hr).2.trans hm.2
  | answer world message down answer hs hdown hr =>
    rcases answer_kind hd hr with ⟨hno, hconfirm, hreport, hmode⟩ | ⟨id, mode, rfl, rfl, hmode⟩
    · refine hf.minor ⟨.write answer hconfirm fun m _ m' hm' => ?_, ?_⟩
        fun _ => ⟨fun m hm => ⟨rfl, hmode.trans hm.2⟩, fun _ _ hm => hm⟩
      · rw [hreport] at hm'
        cases hm'
      · unfold System.view SamService.view
        rw [hdown]
        exact commits_tail
    · refine hf.answer ?_ rfl rfl ⟨rfl, hmode⟩
      unfold System.view SamService.view
      rw [hdown]
      rfl
  | leave world message down session hs hdown hn =>
    refine hf.minor ⟨.same, ?_⟩ fun hphase =>
      absurd hphase (hleave session rfl hn (by rw [hs]; rfl))
    unfold System.view SamService.view
    rw [hdown]
    exact commits_tail
  | heartbeat world hs =>
    refine hf.minor ⟨.write _ rfl fun m hm m' hm' => ?_, List.Sublist.refl _⟩
      fun _ => ⟨fun m hm => hm, fun _ _ hm => hm⟩
    rw [← hm.2]
    exact (Option.some.inj hm').symm

/-- A transition that is being committed is in progress. -/
theorem inProgress_of_committing {t : SamService} (h : ∃ id previous m W C,
    t.inner.modes.state = .committing id previous m W C) : t.transitionInProgress = true := by
  obtain ⟨id, previous, m, W, C, hs⟩ := h
  unfold transitionInProgress
  rw [hs]

/-- A client that changes while it is not in session on `k` has nothing to do with link `k`. -/
theorem fit_elsewhere {h : ModeHandler η ω} {phase : ModeManagerState} {client client' : Client η}
    (hf : Fit h a k phase (s.service.view client link a k))
    (hk : (∃ id previous m W C, phase = .committing id previous m W C) →
      client.session ≠ .running k) :
    Fit h a k phase (s.service.view client' link a k) :=
  hf.minor ⟨.same, List.Sublist.refl _⟩ fun hphase =>
    ⟨fun _ hm => absurd hm.1 (hk hphase), fun _ _ hm => hm⟩

theorem consistent_client (hw : Wired timeout s) (hd : ∀ a, (handlers a).Disciplined)
    {client : Client η} {call : Option HandlerCall} {answer : Option ApplicationToSam}
    (hm : ClientMove handlers s b k₀ link client call answer)
    (hcalm : Calm s (((s.setLink k₀ link).setClient b client).recordCall b k₀ call answer))
    (h : Consistent handlers s) :
    Consistent handlers (((s.setLink k₀ link).setClient b client).recordCall b k₀ call answer) := by
  intro a conn k hlook
  change s.service.inner.clients.lookup a = some ⟨conn, ⟨k⟩⟩ at hlook
  have hf := h a conn k hlook
  have howner := hw.owner hlook
  change Fit (handlers a) a k s.service.inner.modes.state
    (s.service.view (Function.update s.clients b client a) (Function.update s.links k₀ link k) a k)
  by_cases hk : k = k₀
  · -- the link moved on is its owner's
    subst hk
    obtain ⟨hold, hnew, -, -, -⟩ := hm.owner hw.owned
    rw [howner] at hold
    rcases hold with hold | hold
    · cases hold
    · cases hold
      rw [Function.update_self, Function.update_self]
      refine hm.fit (hd b) howner (fun hphase => ?_) hf
      have hsame := (hcalm (inProgress_of_committing hphase)).2 b
      rw [recordCall_clients, setClient_clients, Function.update_self] at hsame
      exact hsame
  · rw [Function.update_of_ne hk]
    by_cases hab : a = b
    · subst hab
      rw [Function.update_self]
      refine fit_elsewhere hf fun _ hs => ?_
      cases hm with
      | connect hidle =>
        rw [hidle] at hs
        cases hs
      | welcome _ _ _ _ hr | unwelcome _ _ _ _ hr =>
        rw [hr] at hs
        cases hs
      | observe _ _ _ hr | answer _ _ _ _ hr | leave _ _ _ _ hr | heartbeat _ hr =>
        rw [hr] at hs
        cases hs
        exact hk rfl
    · rw [Function.update_of_ne hab]
      exact hf

theorem consistent_quit (handler : η) (hcalm : Calm s (s.setClient b ⟨handler, .idle⟩))
    (h : Consistent handlers s) : Consistent handlers (s.setClient b ⟨handler, .idle⟩) := by
  intro a conn k hlook
  have hf := h a conn k hlook
  change Fit (handlers a) a k s.service.inner.modes.state
    (s.service.view (Function.update s.clients b ⟨handler, .idle⟩ a) (s.links k) a k)
  by_cases hab : a = b
  · subst hab
    rw [Function.update_self]
    refine fit_elsewhere hf fun hphase hs => ?_
    have hsame := (hcalm (inProgress_of_committing hphase)).2 a
    rw [setClient_clients, Function.update_self, hs] at hsame
    cases hsame
  · rw [Function.update_of_ne hab]
    exact hf

/-! ## SAM is called -/

/-- The view of a client over an operation that makes no event happen. -/
theorem Wired.quiet (hw : Wired timeout s) {op : Operation} (hf : s.service.Fresh op)
    (he : s.service.event op = none)
    (hlook : s.service.inner.clients.lookup a = some ⟨conn, ⟨k⟩⟩)
    (hlook' : (s.service.step op).inner.clients.lookup a = some ⟨conn, ⟨k⟩⟩)
    (hop : op ≠ .receive ⟨k⟩) (hreg : ∀ tx now, op ≠ .register a tx now) {link' : Link}
    (hdown : link'.down = (s.links k).down)
    (hup : UpStep (handlers a) k (s.view a k) link'.up)
    (hmsg : ∀ x now, op = .handleMessage a conn x now → x ∈ (s.links k).up)
    (h : Fit (handlers a) a k s.service.inner.modes.state (s.view a k)) :
    Fit (handlers a) a k (s.service.step op).inner.modes.state
      ((s.service.step op).view (s.clients a) link' a k) := by
  obtain ⟨hmodes, hno⟩ := quiet_step he
  obtain ⟨hminor, hkeeps⟩ := step_minor (s.clients a) (s.links k) hw.driven.own hw.driven.refines.1
    hf hlook hlook' hop hreg hno hdown hup hmsg
  rw [hmodes]
  exact h.minor hminor fun _ => hkeeps

theorem consistent_requestMode (hw : Wired timeout s) (target : SystemMode)
    (h : Consistent handlers s) : Consistent handlers (s.perform [.requestMode target]) := by
  intro a conn k hlook
  change (s.service.step (.requestMode target)).inner.clients.lookup a = _ at hlook
  have hops : ∀ op ∈ [Operation.requestMode target], op.isRegister = false := by
    simp [Operation.isRegister]
  have hold := client_kept hops hlook
  have hf := h a conn k hold
  have hno : commits (s.service.told (.requestMode target)) = [] := by
    refine commits_eq_nil.mpr fun id m hm => ?_
    obtain ⟨b, current, W, R, hev, -⟩ := told_commit hm
    obtain ⟨c, tx, now, hop, -⟩ := event_ready hev
    cases hop
  have hfresh : s.service.Fresh (.requestMode target) := trivial
  obtain ⟨hminor, hkeeps⟩ := step_minor (h := handlers a) (s.clients a) (s.links k) hw.driven.own
    hw.driven.refines.1 hfresh hold hlook (fun hop => by cases hop)
      (fun _ _ hop => by cases hop) hno
    rfl .same (fun x now hop => by cases hop)
  change Fit (handlers a) a k (s.service.step (.requestMode target)).inner.modes.state
    ((s.service.step (.requestMode target)).view (s.clients a) (s.links k) a k)
  have hfit := hf.minor hminor fun _ => hkeeps
  have heff := step_effect s.service (.requestMode target)
  generalize s.service.event (.requestMode target) = e at heff
  generalize s.service.step (.requestMode target) = t' at heff hfit hlook
  cases heff with
  | idle => exact hfit
  | requested _ current hm =>
    rw [hm] at hfit
    refine ⟨hfit, .inl (List.mem_toFinset.mpr ?_)⟩
    exact AList.mem_keys.mp (AList.lookup_isSome.mp (by rw [hold]; rfl))

theorem consistent_call (hw : Wired timeout s) {op : Operation}
    (hop : (∃ target, op = .requestMode target) ∨ ∃ now, op = .refreshHealth now)
    (h : Consistent handlers s) : Consistent handlers (s.perform [op]) := by
  rcases hop with ⟨target, rfl⟩ | ⟨now, rfl⟩
  · exact consistent_requestMode hw target h
  · intro a conn k hlook
    have hops : ∀ op ∈ [Operation.refreshHealth now], op.isRegister = false := by
      simp [Operation.isRegister]
    have hold := client_kept hops hlook
    have hfresh : s.service.Fresh (.refreshHealth now) := trivial
    exact hw.quiet hfresh rfl hold hlook (fun h => by cases h) (fun _ _ h => by cases h) rfl .same
      (fun x now h => by cases h) (h a conn k hold)

/-! ## A session task hands over a message -/

section Handle

variable {c : ConnectionId} {x : ApplicationToSam} {up : List ApplicationToSam} {now : Instant}
  {task : ServerTask}

/-- The message taken is the confirmation SAM waits for. -/
theorem event_confirm {t : SamService} {tx : Sender} {id : TransitionId} {previous m : SystemMode}
    {W C : Finset ApplicationId} (hc : t.inner.clients.lookup a = some ⟨c, tx⟩)
    (hs : t.inner.modes.state = .committing id previous m W C) (ha : a ∈ W) :
    t.event (.handleMessage a c (.modeCommitted a id m) now) = some (.committed a id m) := by
  have hok : ∃ event, (t.inner.modes.applicationCommitted a id m).1 = .ok event := by
    unfold ModeManager.applicationCommitted
    rw [hs]
    simp only [ne_eq, not_true_eq_false, if_false, ha]
    split
    · exact ⟨_, rfl⟩
    · exact ⟨_, rfl⟩
  obtain ⟨event, hok⟩ := hok
  unfold SamService.event vote
  simp only [verifyConnection_ok.mpr ⟨tx, hc⟩, verifyApplication_ok.mpr rfl, hok]

/-- **SAM takes a client's confirmation.** -/
theorem fit_confirmed (hw : Wired timeout s)
    (hlook : s.service.inner.clients.lookup a = some ⟨c, ⟨k⟩⟩)
    (hf : Fit (handlers a) a k s.service.inner.modes.state (s.view a k))
    (hup : (s.links k).up = x :: up) (hx : x.confirm? ≠ none) :
    Fit (handlers a) a k
      (s.service.step (.handleMessage a c x now)).inner.modes.state
      ((s.service.step (.handleMessage a c x now)).view (s.clients a)
        ((s.links k).take x up task) a k) := by
  obtain ⟨id, previous, m, W, C, hs, hW, hv⟩ := hf.confirming hup hx
  obtain ⟨rfl, -, -⟩ := hv.next hup hx
  have hev : s.service.event (.handleMessage a c (.modeCommitted a id m) now) =
      some (.committed a id m) := event_confirm hlook hs hW
  have heff := step_effect s.service (.handleMessage a c (.modeCommitted a id m) now)
  have hno : commits (s.service.told (.handleMessage a c (.modeCommitted a id m) now)) = [] := by
    refine commits_eq_nil.mpr fun id' m' hm => ?_
    obtain ⟨b, current, W', R, hready, -⟩ := told_commit hm
    rw [hev] at hready
    cases hready
  have hfresh : s.service.Fresh (.handleMessage a c (.modeCommitted a id m) now) := trivial
  obtain ⟨l, hq, hl⟩ := queue_step hw.driven.own hfresh hlook (fun h => by cases h)
  rw [hno] at hl
  have hnil : commits l = [] := List.sublist_nil.mp hl
  rw [hev] at heff
  generalize s.service.step (.handleMessage a c (.modeCommitted a id m) now) = t' at heff hq
  -- once recorded, the conversation is done
  have hdone : t'.inner.applications = (s.service.inner.applications.setMode a m).2 →
      ∀ status, s.service.inner.applications.get a = some status →
      Done (handlers a) k m
        (t'.view (s.clients a) ((s.links k).take (.modeCommitted a id m) up task) a k) := by
    intro happ status hr
    refine hv.confirm hup hx rfl ?_ ?_
    · show (commits ((s.links k).down ++ (t'.channels ⟨k⟩).queue)).Sublist
        (commits ((s.links k).down ++ (s.service.channels ⟨k⟩).queue))
      rw [hq, ← List.append_assoc, commits_append, hnil, List.append_nil]
    · show (t'.inner.applications.get a).map ApplicationStatus.currentMode = some m
      rw [happ, ApplicationRegistry.setMode, ApplicationRegistry.get_modify, if_pos rfl, hr]
      rfl
  cases heff with
  | committed _ _ tx _ _ _ hc previous' W' C' hm ha hW' status hr =>
    rw [hs] at hm
    cases hm
    exact .inr ⟨Finset.mem_insert_self _ _, hdone rfl status hr⟩
  | completed _ _ tx _ _ _ hc previous' W' C' hm ha hW' status hr =>
    exact (hdone rfl status hr).quiet
  | unrecorded _ _ tx _ _ _ phase hc hr =>
    exact absurd hr (hw.driven.refines.1.recorded hlook)

/-- **The last vote is handed over**, and the commit is ordered. -/
theorem fit_ordered (hw : Wired timeout s) {c' : ConnectionId} {link' : Link} {id : TransitionId}
    {m : SystemMode} (hlook : s.service.inner.clients.lookup a = some ⟨conn, ⟨k⟩⟩)
    (hm : .commitMode id m ∈ s.service.told (.handleMessage b c' x now))
    (hf : Fit (handlers a) a k s.service.inner.modes.state (s.view a k))
    (hdown : link'.down = (s.links k).down) (hup : UpStep (handlers a) k (s.view a k) link'.up) :
    Fit (handlers a) a k (s.service.step (.handleMessage b c' x now)).inner.modes.state
      ((s.service.step (.handleMessage b c' x now)).view (s.clients a) link' a k) := by
  have hfresh : s.service.Fresh (.handleMessage b c' x now) := trivial
  have heff := step_effect s.service (.handleMessage b c' x now)
  obtain ⟨v, current, W, R, hev, hs, hv, hW, -⟩ := told_commit hm
  obtain ⟨l, hq, hl⟩ := queue_step hw.driven.own hfresh hlook (fun h => by cases h)
  rw [hs] at hf
  obtain ⟨hquiet, hmem⟩ := hf
  have htold := told_spec s.service (.handleMessage b c' x now)
  rw [hev] at heff
  generalize s.service.told (.handleMessage b c' x now) = told at htold hl hm
  generalize s.service.step (.handleMessage b c' x now) = t' at heff hq htold
  cases heff with
  | ready _ _ tx _ _ hc current' target W' R' hs' ha hW' =>
    rw [hs] at hs'
    cases hs'
    exact absurd hW hW'
  | prepared _ _ tx _ _ hc current' target W' R' hs' ha hW' =>
    rw [hs] at hs'
    cases hs'
    have hone : told = [.commitMode id m] := (List.append_cancel_left htold).symm
    rw [hone] at hl
    -- `a` has voted, now or before
    have hready : a ∈ insert b R := by
      rcases hmem with hmem | hmem
      · by_cases hav : a = b
        · rw [hav]
          exact Finset.mem_insert_self _ _
        · have hleft := Finset.mem_erase.mpr ⟨hav, hmem⟩
          rw [hW] at hleft
          cases hleft
      · exact Finset.mem_insert_of_mem hmem
    have htaken : Quiet (⟨s.clients a, link'.up, (s.view a k).unread, (s.view a k).mode⟩ :
        View η) :=
      hquiet.minor ⟨hup, List.Sublist.refl _⟩
    refine .inl ⟨hready, .inl (htaken.order rfl ?_ hl)⟩
    show link'.down ++ (_ : Channel).queue =
      ((s.links k).down ++ (s.service.channels ⟨k⟩).queue) ++ l
    rw [hq, hdown, List.append_assoc]

/-- The phase moves on with a message that is no confirmation of `a`, and the commit is not
    ordered. -/
theorem fit_voted {t t' : SamService} {c' : ConnectionId} {e : Option ProtocolEvent} {v : View η}
    (hk : Known t.inner) (heff : Effect t (.handleMessage b c' x now) e t')
    (hno : ∀ id m, t'.broadcasts ≠ t.broadcasts ++ [.commitMode id m])
    (hne : ∀ tx, t.inner.clients.lookup b = some ⟨c', tx⟩ → x.confirm? ≠ none → a ≠ b)
    (hf : Fit (handlers a) a k t.inner.modes.state v) :
    Fit (handlers a) a k t'.inner.modes.state v := by
  cases heff with
  | idle => exact hf
  | heartbeat => rw [announce_inner]; exact hf
  | ready _ _ tx _ _ hc current target W R hs ha hW =>
    rw [hs] at hf
    refine ⟨hf.1, ?_⟩
    rcases hf.2 with hmem | hmem
    · by_cases hav : a = b
      · rw [hav]
        exact .inr (Finset.mem_insert_self _ _)
      · exact .inl (Finset.mem_erase.mpr ⟨hav, hmem⟩)
    · exact .inr (Finset.mem_insert_of_mem hmem)
  | prepared => exact absurd rfl (hno _ _)
  | rejected _ _ tx _ _ _ hc current target W R hs ha =>
    rw [hs] at hf
    exact hf.1
  | committed _ _ tx _ _ _ hc previous W C hs ha hW status hr =>
    rw [hs] at hf
    rcases hf with ⟨hmem, hv⟩ | ⟨hmem, hv⟩
    · exact .inl ⟨Finset.mem_erase.mpr ⟨hne tx hc (by rintro ⟨⟩), hmem⟩, hv⟩
    · exact .inr ⟨Finset.mem_insert_of_mem hmem, hv⟩
  | completed _ _ tx _ _ _ hc previous W C hs ha hW status hr =>
    rw [hs] at hf
    rcases hf with ⟨hmem, -⟩ | ⟨-, hv⟩
    · -- the last one is not `a`
      have hleft := Finset.mem_erase.mpr ⟨hne tx hc (by rintro ⟨⟩), hmem⟩
      rw [hW] at hleft
      cases hleft
    · exact hv.quiet
  | unrecorded _ _ tx _ _ _ phase hc hr =>
    exact absurd hr (hk.recorded hc)

/-- Another message than a confirmation of its own is handed over: the conversation with `a`, on
    link `k`, changes with the phase only. -/
theorem fit_other (hw : Wired timeout s) {c' : ConnectionId} {link' : Link}
    (hlook : s.service.inner.clients.lookup a = some ⟨conn, ⟨k⟩⟩)
    (hlook' : (s.service.step (.handleMessage b c' x now)).inner.clients.lookup a = some
      ⟨conn, ⟨k⟩⟩)
    (hf : Fit (handlers a) a k s.service.inner.modes.state (s.view a k))
    (hdown : link'.down = (s.links k).down) (hup : UpStep (handlers a) k (s.view a k) link'.up)
    (hown : b = a → c' = conn → x ∈ (s.links k).up ∧ x.confirm? = none) :
    Fit (handlers a) a k (s.service.step (.handleMessage b c' x now)).inner.modes.state
      ((s.service.step (.handleMessage b c' x now)).view (s.clients a) link' a k) := by
  by_cases hcommit : ∃ id m, .commitMode id m ∈ s.service.told (.handleMessage b c' x now)
  · obtain ⟨id, m, hm⟩ := hcommit
    exact fit_ordered hw hlook hm hf hdown hup
  · have hno : commits (s.service.told (.handleMessage b c' x now)) = [] :=
      commits_eq_nil.mpr fun id m hm => hcommit ⟨id, m, hm⟩
    have hfresh : s.service.Fresh (.handleMessage b c' x now) := trivial
    obtain ⟨hminor, hkeeps⟩ := step_minor (s.clients a)
      (s.links k) hw.driven.own hw.driven.refines.1
      hfresh hlook hlook' (fun h => by cases h) (fun _ _ h => by cases h) hno hdown hup
      (fun y now' h => by cases h; exact (hown rfl rfl).1)
    refine fit_voted hw.driven.refines.1 (step_effect s.service (.handleMessage b c' x now)) ?_ ?_
      (hf.minor hminor fun _ => hkeeps)
    · intro id m hbroadcast
      rw [told_spec] at hbroadcast
      rw [List.append_cancel_left hbroadcast] at hno
      cases hno
    · -- who confirms is not `a`
      rintro tx hb hx rfl
      rw [hlook] at hb
      cases hb
      exact hx (hown rfl rfl).2

theorem consistent_handle (hw : Wired timeout s) (ht : (s.links k₀).task = .registered b c)
    (hup : (s.links k₀).up = x :: up) (h : Consistent handlers s) :
    Consistent handlers ((s.perform [.handleMessage b c x now]).setLink k₀
      ((s.links k₀).take x up task)) := by
  intro a conn k hlook
  have hops : ∀ op ∈ [Operation.handleMessage b c x now], op.isRegister = false := by
    simp [Operation.isRegister]
  have hold := client_kept hops hlook
  have hf := h a conn k hold
  change (s.service.step (.handleMessage b c x now)).inner.clients.lookup a = _ at hlook
  change Fit (handlers a) a k (s.service.step (.handleMessage b c x now)).inner.modes.state
    ((s.service.step (.handleMessage b c x now)).view (s.clients a)
      (Function.update s.links k₀ ((s.links k₀).take x up task) k) a k)
  by_cases hk : k = k₀
  · -- its own task hands over the next message
    subst hk
    rw [Function.update_self]
    have hseat := hw.seated.seat hold
    rw [ht] at hseat
    cases hseat
    by_cases hx : x.confirm? = none
    · refine fit_other hw hold hlook hf rfl (.take x up hup hx) fun _ _ => ⟨?_, hx⟩
      rw [hup]
      exact List.mem_cons_self ..
    · exact fit_confirmed hw hold hf hup hx
  · rw [Function.update_of_ne hk]
    refine fit_other hw hold hlook hf rfl .same ?_
    rintro rfl rfl
    exact absurd (hw.same hold (by rw [ht]; rfl)) hk

end Handle

/-! ## A session task does something else -/

/-- Nothing about a commit has been said on a link that awaits its first message. -/
theorem Wired.awaiting (hw : Wired timeout s) (ht : (s.links k).task = .awaiting)
    (ho : (s.links k).owner = some a) :
    (s.links k).down = [] ∧ confirms (s.links k).up = [] := by
  obtain ⟨hread, hdown⟩ := List.append_eq_nil_iff.mp ((hw.delivered k).awaiting ht)
  refine ⟨hdown, confirms_eq_nil.mpr fun b id m hm => ?_⟩
  obtain ⟨rest, hwritten, hrest⟩ := (hw.honest.proper k).opened a ho
  have hmem : .modeCommitted b id m ∈ (s.links k).written := List.mem_append_right _ hm
  rw [hwritten, List.mem_cons] at hmem
  rcases hmem with hmem | hmem
  · cases hmem
  · have hcommit := (hrest _ hmem).2
    rw [hread] at hcommit
    cases hcommit

/-- In a calm step nobody registers while a transition is in progress: the client table would
    change. -/
theorem stable_of_register (hw : Wired timeout s) {now : Instant}
    (ht : (s.links k₀).task = .awaiting)
    (hcalm : s.service.transitionInProgress = true →
      (s.service.step (.register b ⟨k₀⟩ now)).inner.clients = s.service.inner.clients) :
    ∃ mode, s.service.inner.modes.state = .stable mode := by
  obtain ⟨hf, hroom⟩ := hw.driven.opening_register ht b now
  obtain ⟨-, -, -, hentry⟩ := stream_register hf hroom
  -- the channel is not in use yet
  have hstable : ¬ s.service.transitionInProgress = true := by
    intro hp
    rw [hcalm hp] at hentry
    have hused := hw.driven.own.used b _ hentry
    rw [hw.driven.awaiting k₀ ht] at hused
    exact hused rfl
  unfold transitionInProgress at hstable
  cases hs : s.service.inner.modes.state with
  | stable mode => exact ⟨mode, rfl⟩
  | preparing | committing =>
    rw [hs] at hstable
    exact absurd rfl hstable

theorem consistent_register (hw : Wired timeout s) {up : List ApplicationToSam} {now : Instant}
    {id : ConnectionId} (ht : (s.links k₀).task = .awaiting)
    (hup : (s.links k₀).up = .register b PROTOCOL_VERSION :: up)
    (hcalm : Calm s ((s.perform [.register b ⟨k₀⟩ now]).setLink k₀
      ((s.links k₀).take (.register b PROTOCOL_VERSION) up (.registered b id))))
    (h : Consistent handlers s) :
    Consistent handlers ((s.perform [.register b ⟨k₀⟩ now]).setLink k₀
      ((s.links k₀).take (.register b PROTOCOL_VERSION) up (.registered b id))) := by
  obtain ⟨hf, hroom⟩ := hw.driven.opening_register ht b now
  obtain ⟨-, hsent, -, hentry⟩ := stream_register hf hroom
  have hquiet : s.service.event (.register b ⟨k₀⟩ now) = none := rfl
  have hmodes := (quiet_step hquiet).1
  obtain ⟨mode, hs⟩ := stable_of_register hw ht fun hp => (hcalm hp).1
  intro a conn k hlook
  change (s.service.step (.register b ⟨k₀⟩ now)).inner.clients.lookup a = _ at hlook
  change Fit (handlers a) a k (s.service.step (.register b ⟨k₀⟩ now)).inner.modes.state
    ((s.service.step (.register b ⟨k₀⟩ now)).view (s.clients a)
      (Function.update s.links k₀ ((s.links k₀).take _ up (.registered b id)) k) a k)
  by_cases hab : a = b
  · -- the newcomer has only been sent the reply
    subst hab
    rw [hentry] at hlook
    cases hlook
    have howner : (s.links k₀).owner = some a := by
      refine (hw.owned k₀).origin (.register a PROTOCOL_VERSION) (List.mem_append_right _ ?_)
      rw [hup]
      exact List.mem_cons_self ..
    obtain ⟨hdown, hconfirms⟩ := hw.awaiting ht howner
    rw [hmodes, hs, Function.update_self]
    refine ⟨?_, ?_⟩
    · show commits ((s.links k₀).down ++ _) = []
      rw [hdown, List.nil_append, commits_eq_nil]
      intro id' m hm
      have hmem : .commitMode id' m ∈
          ((s.service.step (.register a ⟨k₀⟩ now)).channels ⟨k₀⟩).sent := List.mem_append_right _ hm
      rw [hsent, List.mem_singleton] at hmem
      cases hmem
    · show confirms up = []
      rw [hup] at hconfirms
      exact (List.filterMap_cons_none rfl).symm.trans hconfirms
  · have hold : s.service.inner.clients.lookup a = some ⟨conn, ⟨k⟩⟩ := by
      rcases client_origin (step_effect s.service _) hlook with hold | ⟨now', hop, -, -⟩
      · exact hold
      · cases hop
        exact absurd rfl hab
    have hk : k ≠ k₀ := by
      rintro rfl
      have hseat := hw.seated.seat hold
      rw [ht] at hseat
      cases hseat
    rw [Function.update_of_ne hk]
    refine hw.quiet hf rfl hold hlook (fun h => by cases h) (fun tx now' hop => ?_) rfl .same
      (fun _ _ h => by cases h) (h a conn k hold)
    cases hop
    exact hab rfl

/-- A session task takes a message from its channel, and may fail to pass it on. -/
theorem consistent_receive {link : Link} (hlink : link.up = (s.links k₀).up)
    (hunread : (commits (link.down ++ (s.service.channels ⟨k₀⟩).recv.queue)).Sublist
      (commits ((s.links k₀).down ++ (s.service.channels ⟨k₀⟩).queue)))
    (h : Consistent handlers s) :
    Consistent handlers ((s.perform [.receive ⟨k₀⟩]).setLink k₀ link) := by
  intro a conn k hlook
  have hf := h a conn k hlook
  change Fit (handlers a) a k s.service.inner.modes.state
    ((s.service.step (.receive ⟨k₀⟩)).view (s.clients a) (Function.update s.links k₀ link k) a k)
  by_cases hk : k = k₀
  · subst hk
    have hup : UpStep (handlers a) k (s.view a k) link.up := by
      rw [hlink]
      exact .same
    have hminor : Minor (handlers a) k (s.view a k)
        ((s.service.step (.receive ⟨k⟩)).view (s.clients a) link a k) := by
      refine ⟨hup, ?_⟩
      show (commits (link.down ++ (Function.update s.service.channels ⟨k⟩ _ ⟨k⟩).queue)).Sublist _
      rw [Function.update_self]
      exact hunread
    rw [Function.update_self]
    exact hf.minor hminor fun _ => ⟨fun _ hm => hm, fun _ _ hm => hm⟩
  · have hne : (⟨k⟩ : Sender) ≠ ⟨k₀⟩ := fun heq => hk (congrArg Sender.channel heq)
    have hsame : (s.service.step (.receive ⟨k₀⟩)).view (s.clients a) (s.links k) a k =
        s.view a k := by
      show (⟨_, _, _ ++ (Function.update s.service.channels ⟨k₀⟩ _ ⟨k⟩).queue, _⟩ : View η) = _
      rw [Function.update_of_ne hne]
      rfl
    rw [Function.update_of_ne hk, hsame]
    exact hf

theorem consistent_close (hw : Wired timeout s) {c : ConnectionId} (now : Instant)
    (hseat : (s.links k₀).task.seat? = some (b, c)) (h : Consistent handlers s) :
    Consistent handlers ((s.perform [.disconnect b c now, .dropReceiver ⟨k₀⟩]).setLink k₀
      { s.links k₀ with task := .ended }) := by
  intro a conn k hlook
  change (s.service.step (.disconnect b c now)).inner.clients.lookup a = some ⟨conn, ⟨k⟩⟩ at hlook
  have hops : ∀ op ∈ [Operation.disconnect b c now], op.isRegister = false := by
    simp [Operation.isRegister]
  have hold := client_kept hops hlook
  have hk : k ≠ k₀ := by
    rintro rfl
    have hsame := hw.seated.seat hold
    rw [hseat] at hsame
    cases hsame
    exact disconnect_gone c now hlook
  have hfresh : s.service.Fresh (.disconnect b c now) := trivial
  have hf := hw.quiet hfresh rfl hold hlook (fun h => by cases h)
    (fun _ _ h => by cases h) rfl .same
    (fun _ _ h => by cases h) (h a conn k hold)
  -- dropping the receiver leaves what is queued
  change Fit (handlers a) a k (s.service.step (.disconnect b c now)).inner.modes.state
    (((s.service.step (.disconnect b c now)).step (.dropReceiver ⟨k₀⟩)).view (s.clients a)
      (Function.update s.links k₀ { s.links k₀ with task := .ended } k) a k)
  have hne : (⟨k⟩ : Sender) ≠ ⟨k₀⟩ := fun heq => hk (congrArg Sender.channel heq)
  have hsame : ((s.service.step (.disconnect b c now)).step (.dropReceiver ⟨k₀⟩)).view (s.clients a)
      (s.links k) a k = (s.service.step (.disconnect b c now)).view (s.clients a)
        (s.links k) a k := by
    show (⟨_, _, _ ++ (Function.update (s.service.step (.disconnect b c now)).channels ⟨k₀⟩ _
      ⟨k⟩).queue, _⟩ : View η) = _
    rw [Function.update_of_ne hne]
    rfl
  rw [Function.update_of_ne hk, hsame]
  exact hf

/-- A link that is nobody's connection changes. -/
theorem consistent_setLink (hw : Wired timeout s) (hseat : (s.links k₀).task.seat? = none)
    (h : Consistent handlers s) : Consistent handlers (s.setLink k₀ link) := by
  intro a conn k hlook
  have hk : k ≠ k₀ := by
    rintro rfl
    have hsame := hw.seated.seat hlook
    rw [hseat] at hsame
    cases hsame
  change Fit (handlers a) a k s.service.inner.modes.state
    (s.service.view (s.clients a) (Function.update s.links k₀ link k) a k)
  rw [Function.update_of_ne hk]
  exact h a conn k hlook

theorem consistent_server (hw : Wired timeout s) (hm : ServerMove s k₀ ops link)
    (hcalm : Calm s ((s.perform ops).setLink k₀ link)) (h : Consistent handlers s) :
    Consistent handlers ((s.perform ops).setLink k₀ link) := by
  cases hm with
  | refuse _ _ _ ht | hangUp ht =>
    rw [perform_nil]
    exact consistent_setLink hw (by rw [ht]; rfl) h
  | register a up now id ht hup => exact consistent_register hw ht hup hcalm h
  | unregistered a up now error ht hup he =>
    obtain ⟨hf, hroom⟩ := hw.driven.opening_register ht a now
    rw [(stream_register hf hroom).1] at he
    cases he
  | handle a c x up now task ht hup => exact consistent_handle hw ht hup h
  | send a c message queue ht hq =>
    refine consistent_receive rfl ?_ h
    rw [hq]
    unfold Channel.recv
    rw [hq]
    show (commits (((s.links k₀).down ++ [message]) ++ queue)).Sublist _
    rw [List.append_assoc]
    exact List.Sublist.refl _
  | unsent a c ht =>
    refine consistent_receive rfl ?_ h
    refine ((List.Sublist.refl _).append ?_).filterMap _
    unfold Channel.recv
    split
    · exact List.Sublist.refl _
    · rename_i hq
      rw [hq]
      exact List.sublist_cons_self _ _
  | close a c now ht =>
    refine consistent_close hw now ?_ h
    rcases ht with ht | ht <;> rw [ht] <;> rfl

/-! ## Calm runs -/

/-- **The conversations stay consistent in a calm step.** -/
theorem consistent_move (hw : Wired timeout s) (hd : ∀ a, (handlers a).Disciplined)
    (hm : Move handlers s s') (hcalm : Calm s s') (h : Consistent handlers s) :
    Consistent handlers s' := by
  cases hm with
  | idle => exact h
  | call op hop => exact consistent_call hw hop h
  | server k ops link hm => exact consistent_server hw hm hcalm h
  | client a k link client call answer hm => exact consistent_client hw hd hm hcalm h
  | quit a handler => exact consistent_quit handler hcalm h

theorem consistent_run (timeout : Duration) (initial : ApplicationId → η)
    (inputs : List (Input η ω)) (hd : ∀ a, (handlers a).Disciplined)
    (hcalm : Machine.Always (step handlers) (fun s input => Calm s (step handlers s input))
      (System.new timeout initial) inputs)
    (hn : (run handlers (System.new timeout initial) inputs).registrations < 2 ^ 64) :
    Consistent handlers (run handlers (System.new timeout initial) inputs) := by
  induction inputs using List.reverseRecOn with
  | nil =>
    intro a conn k h
    cases h
  | append_singleton inputs input ih =>
    obtain ⟨hbefore, hstep⟩ := Machine.always_concat.mp hcalm
    have hmove : Move handlers (run handlers (System.new timeout initial) inputs) _ :=
      step_move _ input
    have hn' : (run handlers (System.new timeout initial) inputs).registrations < 2 ^ 64 := by
      refine lt_of_le_of_lt ?_ hn
      unfold run
      rw [Machine.run_concat]
      exact registrations_mono hmove
    unfold run
    rw [Machine.run_concat]
    exact consistent_move (wired_run timeout initial inputs hn') hd hmove hstep (ih hbefore hn')

end System

end Sam
