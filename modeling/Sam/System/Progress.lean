import Sam.Service.Waiting
import Sam.System.Calm

/-!
# Nobody is waited for in vain

Nothing is lost between SAM and an application that stays connected, so a transition that is not
disturbed waits for nobody in vain.

* `Undisturbed` — while a transition is in progress nobody who takes part leaves, and their outbound
  queues have room; others come and go as they like.
* `LinkStep` — what one step does to a connection: its queues grow, or one of them loses its head to
  the next party (`Move.link_step`).
* `Due` — who is waited for has the question before it or its answer under way (`due_run`).
* `never_deadlocked` — while a transition is in progress, somebody who is waited for is engaged.
-/

namespace Sam

open SamService

namespace ModeHandler

variable {η ω : Type*} {h : ModeHandler η ω} {w : ω} {a : ApplicationId} {self : η}
  {message : SamToApplication}

/-- What a client writes in answer to a message answers it. -/
theorem answered_by {answer : ApplicationToSam}
    (hr : (h.messageReceived w a self message).result = .ok (some answer)) :
    message.AnsweredBy a answer := by
  unfold messageReceived at hr
  cases message with
  | prepareMode id mode =>
    dsimp only at hr
    split at hr <;> cases hr <;> exact ⟨rfl, rfl⟩
  | commitMode id mode =>
    dsimp only at hr
    split at hr
    · cases hr
      exact ⟨rfl, rfl, rfl⟩
    · cases hr
  | registerAccepted | abortMode | stateBroadcast | registerRejected => cases hr

/-- A message that is not answered asks nothing. -/
theorem unasked {phase : ModeManagerState}
    (hr : (h.messageReceived w a self message).result = .ok none) :
    phase.question? ≠ some message := by
  unfold messageReceived at hr
  cases message with
  | prepareMode id mode =>
    dsimp only at hr
    split at hr <;> cases hr
  | commitMode id mode =>
    dsimp only at hr
    split at hr <;> cases hr
  | registerAccepted | abortMode | stateBroadcast | registerRejected =>
    cases phase <;> exact fun hq => by cases hq

end ModeHandler

namespace System

variable {η ω : Type*} {handlers : ApplicationId → ModeHandler η ω} {timeout : Duration}
  {s s' : System η} {k : Nat} {link : Link} {ops : List Operation} {a : ApplicationId}
  {conn : ConnectionId}

/-! ## Undisturbed steps -/

/-- Both ends of the connection of `a` on link `k` are there: the session task serves it, and the
    client is on it. -/
def There (s : System η) (a : ApplicationId) (conn : ConnectionId) (k : Nat) : Prop :=
  (s.links k).task = .registered a conn ∧ (s.clients a).session.link? = some k

instance (s : System η) (a : ApplicationId) (conn : ConnectionId) (k : Nat) :
    Decidable (There s a conn k) :=
  inferInstanceAs (Decidable (_ ∧ _))

/-- Who takes part in a transition in progress. -/
def participants (s : System η) : Finset ApplicationId := s.service.inner.modes.state.participants

/-- Whoever takes part in a transition stays connected, with both ends there, and no message to them
    is lost.  Nothing is said of others. -/
def Undisturbed (s s' : System η) : Prop :=
  ∀ e ∈ s.service.inner.clients.entries, e.1 ∈ s.participants ∪ s'.participants →
    e ∈ s'.service.inner.clients.entries ∧ (s.service.channels e.2.outbound).HasRoom ∧
      s.There e.1 e.2.id e.2.outbound.channel ∧ s'.There e.1 e.2.id e.2.outbound.channel

instance (s s' : System η) : Decidable (Undisturbed s s') :=
  inferInstanceAs (Decidable (∀ e ∈ s.service.inner.clients.entries, _ → _ ∧ _ ∧ _ ∧ _))

theorem Undisturbed.stays (h : Undisturbed s s') (ha : a ∈ s.participants ∪ s'.participants)
    (hlook : s.service.inner.clients.lookup a = some ⟨conn, ⟨k⟩⟩) :
    s'.service.inner.clients.lookup a = some ⟨conn, ⟨k⟩⟩ ∧ (s.service.channels ⟨k⟩).HasRoom ∧
      s.There a conn k ∧ s'.There a conn k := by
  obtain ⟨hmem, hroom, hthere⟩ := h ⟨a, conn, ⟨k⟩⟩ (AList.mem_lookup_iff.mp hlook) ha
  exact ⟨AList.mem_lookup_iff.mpr hmem, hroom, hthere⟩

/-! ## One step of a connection -/

/-- The messages queued for link `k`. -/
def queue (s : System η) (k : Nat) : List SamToApplication := (s.service.channels ⟨k⟩).queue

/-- **What one step does to the connection of `a` on link `k`.** -/
inductive LinkStep (s s' : System η) (a : ApplicationId) (conn : ConnectionId) (k : Nat) :
    Prop where
  | grow (hq : s.queue k <+: s'.queue k) (hd : (s'.links k).down = (s.links k).down)
      (hu : (s.links k).up <+: (s'.links k).up)
  | send (x : SamToApplication) (hq : s.queue k = x :: s'.queue k)
      (hd : (s'.links k).down = (s.links k).down ++ [x]) (hu : (s'.links k).up = (s.links k).up)
  | read (x : SamToApplication) (answers : List ApplicationToSam) (hq : s'.queue k = s.queue k)
      (hd : (s.links k).down = x :: (s'.links k).down)
      (hu : (s'.links k).up = (s.links k).up ++ answers)
      (hx : ∀ phase : ModeManagerState, phase.question? = some x → ∃ y ∈ answers, x.AnsweredBy a y)
  | take (x : ApplicationToSam) (now : Instant) (hq : s.queue k <+: s'.queue k)
      (hd : (s'.links k).down = (s.links k).down) (hu : (s.links k).up = x :: (s'.links k).up)
      (hs : s'.service = s.service.step (.handleMessage a conn x now))

/-- A queue whose receiver does not act only grows. -/
theorem queue_grows {t : SamService} (ops : List Operation) (hops : ∀ op ∈ ops, op ≠ .receive ⟨k⟩) :
    (t.channels ⟨k⟩).queue <+: ((t.run ops).channels ⟨k⟩).queue := by
  have hsent := SamService.sent_mono_run t ops ⟨k⟩
  unfold Channel.sent at hsent
  rw [delivered_run hops] at hsent
  exact (List.prefix_append_right_inj _).mp hsent

theorem ServerMove.link_step {k₀ : Nat} (hm : ServerMove s k₀ ops link)
    (ht : (s.links k).task = .registered a conn)
    (ht' : (Function.update s.links k₀ link k).task = .registered a conn) :
    LinkStep s ((s.perform ops).setLink k₀ link) a conn k := by
  by_cases hk : k = k₀
  · subst hk
    rw [Function.update_self] at ht'
    cases hm with
    | refuse _ _ _ hawait | register _ _ _ _ hawait | unregistered _ _ _ _ hawait | hangUp hawait =>
      rw [ht] at hawait
      cases hawait
    | unsent | close => cases ht'
    | handle b c x up now task hreg hup =>
      rw [ht] at hreg
      cases hreg
      refine .take x now (queue_grows _ (by simp)) ?_ ?_ rfl
      · rw [setLink_links, Function.update_self]
        rfl
      · rw [setLink_links, Function.update_self]
        exact hup
    | send b c x queue _ hq =>
      refine .send x ?_ ?_ ?_
      · show (s.service.channels ⟨k⟩).queue =
          x :: (Function.update s.service.channels ⟨k⟩ _ ⟨k⟩).queue
        rw [Function.update_self, Channel.recv, hq]
      · rw [setLink_links, Function.update_self]
      · rw [setLink_links, Function.update_self]
  · refine .grow (queue_grows _ ?_) ?_ ?_
    · -- the operations are not those of this link's task
      have hne : (⟨k₀⟩ : Sender) ≠ ⟨k⟩ := fun h => hk (congrArg Sender.channel h).symm
      intro op hop heq
      subst heq
      exact hne (hm.names.2 _ hop _ rfl)
    · rw [setLink_links, Function.update_of_ne hk]
      rfl
    · rw [setLink_links, Function.update_of_ne hk]
      exact List.prefix_rfl

theorem ClientMove.link_step {b : ApplicationId} {k₀ : Nat} {client : Client η}
    {call : Option HandlerCall} {answer : Option ApplicationToSam}
    (hm : ClientMove handlers s b k₀ link client call answer) (ho : Owned s)
    (hs : (s.clients a).session.link? = some k)
    (hs' : (Function.update s.clients b client a).session.link? = some k) :
    LinkStep s (((s.setLink k₀ link).setClient b client).recordCall b k₀ call answer) a conn k := by
  by_cases hk : k = k₀
  · subst hk
    -- it is the client's own link
    have hown := (ho k).session a hs
    obtain rfl : a = b := by
      rcases hm.owner ho with ⟨hnone | hsome, -⟩
      · rw [hown] at hnone
        cases hnone
      · rw [hown] at hsome
        exact Option.some.inj hsome
    rw [Function.update_self] at hs'
    have hnew : (((s.setLink k link).setClient a client).recordCall a k call answer).links k =
        link :=
      Function.update_self ..
    cases hm with
    | connect _ hn =>
      rw [hown] at hn
      cases hn
    | welcome world x down handler _ hd hr =>
      refine .read x [] rfl (by rw [hnew, hd]; rfl) (by rw [hnew, List.append_nil]; rfl) ?_
      intro phase hq
      unfold ModeHandler.registrationReceived at hr
      cases phase <;> cases hq <;> cases hr
    | unwelcome _ _ _ session _ _ hn => rcases hn with rfl | rfl <;> cases hs'
    | leave _ _ _ session _ _ hn => rcases hn with rfl | rfl <;> cases hs'
    | observe world x down _ hd hr =>
      refine .read x [] rfl (by rw [hnew, hd]; rfl) (by rw [hnew, List.append_nil]; rfl) ?_
      exact fun phase hq => absurd hq (ModeHandler.unasked hr)
    | answer world x down y _ hd hr =>
      refine .read x [y] rfl (by rw [hnew, hd]; rfl) (by rw [hnew]; rfl) ?_
      exact fun phase hq => ⟨y, List.mem_singleton_self y, ModeHandler.answered_by hr⟩
    | heartbeat world hs =>
      refine .grow List.prefix_rfl (by rw [hnew]; rfl) ?_
      rw [hnew]
      exact List.prefix_append _ _
  · have hold : (((s.setLink k₀ link).setClient b client).recordCall b k₀ call answer).links k =
        s.links k := Function.update_of_ne hk ..
    refine .grow List.prefix_rfl (by rw [hold]) ?_
    rw [hold]

/-- **Every move is such a step**, if the session task and the client are there before and after. -/
theorem Move.link_step (hm : Move handlers s s') (ho : Owned s)
    (ht : (s.links k).task = .registered a conn) (ht' : (s'.links k).task = .registered a conn)
    (hs : (s.clients a).session.link? = some k) (hs' : (s'.clients a).session.link? = some k) :
    LinkStep s s' a conn k := by
  cases hm with
  | idle => exact .grow List.prefix_rfl rfl List.prefix_rfl
  | call op hop =>
    refine .grow (queue_grows [op] ?_) rfl List.prefix_rfl
    rcases hop with ⟨target, rfl⟩ | ⟨now, rfl⟩ <;> simp
  | server k₀ ops link hm => exact hm.link_step ht ht'
  | client b k₀ link client call answer hm => exact hm.link_step ho hs hs'
  | quit b handler => exact .grow List.prefix_rfl rfl List.prefix_rfl

/-! ## Nobody is waited for in vain -/

/-- `a`, on link `k`, has the question before it or its answer is under way. -/
def Engaged (s : System η) (a : ApplicationId) (k : Nat) (q : SamToApplication) : Prop :=
  q ∈ s.queue k ∨ q ∈ (s.links k).down ∨ ∃ x ∈ (s.links k).up, q.AnsweredBy a x

/-- Everybody taking part is connected and there, and who is waited for is engaged. -/
structure Due (s : System η) : Prop where
  present : ∀ a ∈ s.participants, ∃ conn k,
    s.service.inner.clients.lookup a = some ⟨conn, ⟨k⟩⟩ ∧ s.There a conn k
  engaged : ∀ q a conn k, s.service.inner.modes.state.question? = some q →
    a ∈ s.service.inner.modes.state.waitingFor →
    s.service.inner.clients.lookup a = some ⟨conn, ⟨k⟩⟩ → s.Engaged a k q

theorem due_new (timeout : Duration) (initial : ApplicationId → η) :
    Due (System.new timeout initial) where
  present a h := by cases h
  engaged q a conn k h := by cases h

/-- The question stays with `a` until SAM takes its answer. -/
theorem LinkStep.engaged {q : SamToApplication} {phase : ModeManagerState}
    (hl : LinkStep s s' a conn k) (hq : phase.question? = some q) (h : s.Engaged a k q) :
    s'.Engaged a k q ∨
      ∃ x now, q.AnsweredBy a x ∧ s'.service = s.service.step (.handleMessage a conn x now) := by
  unfold Engaged at h ⊢
  cases hl with
  | grow hqueue hd hu =>
    rw [hd]
    refine .inl (h.imp (hqueue.subset ·) (.imp_right ?_))
    exact fun ⟨x, hx, ha⟩ => ⟨x, hu.subset hx, ha⟩
  | send x hqueue hd hu =>
    rw [hqueue, List.mem_cons] at h
    rw [hd, hu, List.mem_append, List.mem_singleton]
    rcases h with (h | h) | h | h
    · exact .inl (.inr (.inl (.inr h)))
    · exact .inl (.inl h)
    · exact .inl (.inr (.inl (.inl h)))
    · exact .inl (.inr (.inr h))
  | read x answers hqueue hd hu hx =>
    rw [hd, List.mem_cons] at h
    rw [hqueue, hu]
    rcases h with h | (rfl | h) | ⟨y, hy, ha⟩
    · exact .inl (.inl h)
    · obtain ⟨y, hy, ha⟩ := hx phase hq
      exact .inl (.inr (.inr ⟨y, List.mem_append_right _ hy, ha⟩))
    · exact .inl (.inr (.inl h))
    · exact .inl (.inr (.inr ⟨y, List.mem_append_left _ hy, ha⟩))
  | take x now hqueue hd hu hs =>
    rw [hu] at h
    rw [hd]
    rcases h with h | h | ⟨y, hy, ha⟩
    · exact .inl (.inl (hqueue.subset h))
    · exact .inl (.inr (.inl h))
    · rcases List.mem_cons.mp hy with rfl | hy
      · exact .inr ⟨y, now, ha, hs⟩
      · exact .inl (.inr (.inr ⟨y, hy, ha⟩))

/-- A move leaves the manager alone or is one operation of the service; a message it handles has
    been in flight. -/
theorem Move.phase (hm : Move handlers s s') :
    s'.service.inner.modes = s.service.inner.modes ∨ ∃ op, s'.service = s.service.step op ∧
      ∀ b c x now, op = .handleMessage b c x now → ∃ k, x ∈ (s.links k).up := by
  cases hm with
  | idle | client | quit => exact .inl rfl
  | call op hop =>
    refine .inr ⟨op, rfl, ?_⟩
    rcases hop with ⟨target, rfl⟩ | ⟨now, rfl⟩ <;> exact fun _ _ _ _ h => by cases h
  | server k ops link hm =>
    cases hm with
    | refuse | hangUp => exact .inl rfl
    | register a up now => exact .inr ⟨.register a ⟨k⟩ now, rfl, fun _ _ _ _ h => by cases h⟩
    | handle a conn x up now task _ hup =>
      refine .inr ⟨.handleMessage a conn x now, rfl, fun b c y now' h => ⟨k, ?_⟩⟩
      cases h
      rw [hup]
      exact List.mem_cons_self ..
    | send | unsent => exact .inr ⟨.receive ⟨k⟩, rfl, fun _ _ _ _ h => by cases h⟩
    | unregistered a up now =>
      exact .inl (quiet_step (show s.service.event (.register a ⟨k⟩ now) = none from rfl)).1
    | close a conn now =>
      exact .inl (quiet_step (show s.service.event (.disconnect a conn now) = none from rfl)).1

theorem due_move (hd : Driven timeout s) (ho : Owned s) (hm : Move handlers s s')
    (hu : Undisturbed s s') (h : Due s) : Due s' := by
  have hk : Known s.service.inner := hd.refines.1
  -- who takes part now was connected before, and has stayed
  have hstays : ∀ a ∈ s'.participants, ∃ conn k,
      s.service.inner.clients.lookup a = some ⟨conn, ⟨k⟩⟩ ∧
      s'.service.inner.clients.lookup a = some ⟨conn, ⟨k⟩⟩ ∧ (s.service.channels ⟨k⟩).HasRoom ∧
      s.There a conn k ∧ s'.There a conn k := by
    intro a ha
    have hold : ∃ conn k, s.service.inner.clients.lookup a = some ⟨conn, ⟨k⟩⟩ := by
      have horigin : a ∈ s.participants ∨ a ∈ s.service.inner.clients.keys := by
        unfold participants at ha ⊢
        rcases hm.phase with hmodes | ⟨op, hop, -⟩
        · rw [hmodes] at ha
          exact .inl ha
        · rw [hop] at ha
          exact participants_origin hk (step_effect s.service op) ha
      rcases horigin with ha₀ | hkey
      · obtain ⟨conn, k, hlook, -⟩ := h.present a ha₀
        exact ⟨conn, k, hlook⟩
      · obtain ⟨⟨conn, ⟨k⟩⟩, hlook⟩ :=
          Option.isSome_iff_exists.mp (AList.lookup_isSome.mpr (AList.mem_keys.mp hkey))
        exact ⟨conn, k, hlook⟩
    obtain ⟨conn, k, hlook⟩ := hold
    exact ⟨conn, k, hlook, hu.stays (Finset.mem_union_right _ ha) hlook⟩
  constructor
  · intro a ha
    obtain ⟨conn, k, -, hlook, -, -, hthere⟩ := hstays a ha
    exact ⟨conn, k, hlook, hthere⟩
  · intro q a conn k hq ha hlook
    obtain ⟨conn', k', hold, hlook', hroom, hthere, hthere'⟩ :=
      hstays a (ModeManagerState.waitingFor_subset _ ha)
    obtain ⟨rfl, rfl⟩ : conn' = conn ∧ k' = k := by
      rw [hlook'] at hlook
      cases hlook
      exact ⟨rfl, rfl⟩
    have hopen : s.service.inner.modes.state.question? = some q →
        a ∈ s.service.inner.modes.state.waitingFor → s'.Engaged a k' q := by
      intro hq₀ ha₀
      have hl := hm.link_step ho hthere.1 hthere'.1 hthere.2 hthere'.2
      rcases hl.engaged hq₀ (h.engaged q a conn' k' hq₀ ha₀ hold) with
        hengaged | ⟨x, now, hx, hservice⟩
      · exact hengaged
      · rw [hservice] at hq ha
        exact absurd ha (answer_taken hk hold hq₀ ha₀ hx hq)
    rcases hm.phase with hmodes | ⟨op, hop, -⟩
    · rw [hmodes] at hq ha
      exact hopen hq ha
    · rw [hop] at hq ha
      rcases question_origin hk (step_effect s.service op) hq ha with ⟨hq₀, ha₀⟩ | ⟨hasks, hb⟩
      · exact hopen hq₀ ha₀
      · refine .inl ?_
        show q ∈ (s'.service.channels ⟨k'⟩).queue
        rw [hop] at hlook' ⊢
        exact asked_queue hd.own hasks hb hold hlook' hroom

theorem due_run (timeout : Duration) (initial : ApplicationId → η) {inputs : List (Input η ω)}
    (hu : Machine.Always (step handlers) (fun s input => Undisturbed s (step handlers s input))
      (System.new timeout initial) inputs) :
    Due (run handlers (System.new timeout initial) inputs) := by
  induction inputs using List.reverseRecOn with
  | nil => exact due_new timeout initial
  | append_singleton inputs input ih =>
    obtain ⟨hbefore, hstep⟩ := Machine.always_concat.mp hu
    unfold run
    rw [Machine.run_concat]
    exact due_move (driven_run timeout initial inputs) (owned_run timeout initial inputs)
      (step_move _ input) hstep (ih hbefore)

/-- A transition in progress waits for somebody. -/
theorem Driven.waits (hd : Driven timeout s) {q : SamToApplication}
    (hq : s.service.inner.modes.state.question? = some q) :
    s.service.inner.modes.state.waitingFor.Nonempty := by
  obtain ⟨-, H, hr⟩ := hd.refines
  cases hs : s.service.inner.modes.state with
  | stable mode =>
    rw [hs] at hq
    cases hq
  | preparing id current target W R =>
    obtain ⟨_, _, -, -, -, -, hW, -⟩ := hr.phase.inProgress (.inl hs)
    exact hW
  | committing id previous target W C =>
    obtain ⟨_, _, -, -, -, -, hW, -⟩ := hr.phase.inProgress (.inr hs)
    exact hW

/-- Somebody who is waited for, and where. -/
theorem Due.somebody (h : Due s) (hd : Driven timeout s)
    (hp : s.service.transitionInProgress = true) :
    ∃ q a conn k, s.service.inner.modes.state.question? = some q ∧
      a ∈ s.service.inner.modes.state.waitingFor ∧
      s.service.inner.clients.lookup a = some ⟨conn, ⟨k⟩⟩ ∧ s.There a conn k ∧ s.Engaged a k q := by
  obtain ⟨q, hq⟩ := question_of_inProgress hp
  obtain ⟨a, ha⟩ := hd.waits hq
  obtain ⟨conn, k, hlook, hthere⟩ := h.present a (ModeManagerState.waitingFor_subset _ ha)
  exact ⟨q, a, conn, k, hq, ha, hlook, hthere, h.engaged q a conn k hq ha hlook⟩

/-- **SAM and its applications never wait for each other.**  In an undisturbed run, as long as a
    transition is in progress, somebody it waits for is connected and there, and has SAM's question
    in the queue or on the wire, or the answer is on the wire. -/
theorem never_deadlocked (handlers : ApplicationId → ModeHandler η ω) (timeout : Duration)
    (initial : ApplicationId → η) (inputs : List (Input η ω))
    (hu : Machine.Always (step handlers) (fun s input => Undisturbed s (step handlers s input))
      (System.new timeout initial) inputs) :
    let s := run handlers (System.new timeout initial) inputs
    s.service.transitionInProgress = true →
    ∃ q a conn k, s.service.inner.modes.state.question? = some q ∧
      a ∈ s.service.inner.modes.state.waitingFor ∧
      s.service.inner.clients.lookup a = some ⟨conn, ⟨k⟩⟩ ∧ s.There a conn k ∧ s.Engaged a k q :=
  (due_run timeout initial hu).somebody (driven_run timeout initial inputs)

/-- Navigation and guidance are asked to prepare, and guidance has answered; meanwhile telemetry
    comes and goes. -/
def passerBy : List (Input RecordingHandler Unit) :=
  standby.take 10 ++ [.connect ⟨"telemetry"⟩ 2, .serverReceive 2 2, .serverSend 2 true,
    .serverSend 1 true, .clientReceive Demo.guidance () true, .serverReceive 1 3,
    .clientClose ⟨"telemetry"⟩,
    .serverClose 2 4]

theorem never_deadlocked_demo :
    let s := run (fun _ => recordingHandler) (System.new 2000000000 fun _ => .default) passerBy
    ∃ q a conn k, s.service.inner.modes.state.question? = some q ∧
      a ∈ s.service.inner.modes.state.waitingFor ∧
      s.service.inner.clients.lookup a = some ⟨conn, ⟨k⟩⟩ ∧ s.There a conn k ∧ s.Engaged a k q :=
  never_deadlocked (fun _ => recordingHandler) 2000000000 (fun _ => .default) passerBy
    (by decide +kernel) (by decide +kernel)

end System

end Sam
