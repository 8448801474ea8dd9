import Sam.Service.Authority
import Sam.Service.Order
import Sam.System.Wiring

/-!
# Atomic commit, from callback to callback

* `Ran` — an application has run a callback and written an answer.
* `Accounted` — every vote in flight and every vote SAM has counted is backed by the callback its
  sender ran, and every callback by the order it read (`accounted_run`).
* `order_broadcast` — an order a client reads was broadcast by SAM.
* `atomic_commit` — nobody commits a transition unless all its participants have prepared it,
  nobody ever commits an aborted one, and one that completes has been committed by all.
-/

namespace Sam

open TwoPhase

namespace System

variable {η ω : Type*} {handlers : ApplicationId → ModeHandler η ω} {timeout : Duration}
  {s s' : System η} {k : Nat} {link : Link} {ops : List Operation}

/-- The protocol events at SAM so far. -/
def events (timeout : Duration) (s : System η) : List ProtocolEvent :=
  (service₀ timeout).eventLog s.operations

/-- `a` has run this callback and then written this answer. -/
def Ran (s : System η) (a : ApplicationId) (call : HandlerCall) (answer : Option ApplicationToSam) :
    Prop := ∃ k, ⟨a, k, call, answer⟩ ∈ s.calls

/-- A favourable vote is backed by a callback of the voter that succeeded. -/
def Backed (s : System η) : ApplicationToSam → Prop
  | .modeReady a id => ∃ mode, s.Ran a (.prepareMode id mode true) (some (.modeReady a id))
  | .modeCommitted a id mode =>
    s.Ran a (.commitMode id mode true) (some (.modeCommitted a id mode))
  | _ => True

/-- Votes are backed by callbacks, whether in flight or counted, and callbacks by orders read. -/
structure Accounted (timeout : Duration) (s : System η) : Prop where
  up : ∀ k, ∀ m ∈ (s.links k).up, s.Backed m
  ready : ∀ a id, .ready a id ∈ s.events timeout → s.Backed (.modeReady a id)
  committed : ∀ a id mode, .committed a id mode ∈ s.events timeout →
    s.Backed (.modeCommitted a id mode)
  read : ∀ record ∈ s.calls, record.call.order ∈ (s.links record.link).read

theorem accounted_new (timeout : Duration) (initial : ApplicationId → η) :
    Accounted timeout (System.new timeout initial) where
  up _ _ hm := by cases hm
  ready _ _ h := by cases h
  committed _ _ _ h := by cases h
  read _ h := by cases h

/-! ## One move -/

theorem Ran.mono {a : ApplicationId} {call : HandlerCall} {answer : Option ApplicationToSam}
    (h : s.Ran a call answer) (hc : s.calls ⊆ s'.calls) : s'.Ran a call answer := by
  obtain ⟨k, hk⟩ := h
  exact ⟨k, hc hk⟩

theorem Backed.mono {m : ApplicationToSam} (h : s.Backed m) (hc : s.calls ⊆ s'.calls) :
    s'.Backed m := by
  cases m with
  | modeReady a id =>
    obtain ⟨mode, hr⟩ := h
    exact ⟨mode, hr.mono hc⟩
  | modeCommitted a id mode => exact Ran.mono h hc
  | register | heartbeat | modeRejected => trivial

/-- What a session task hands over was in flight on its link. -/
theorem ServerMove.handled (hm : ServerMove s k ops link) {a : ApplicationId} {conn : ConnectionId}
    {m : ApplicationToSam} {now : Instant} (h : .handleMessage a conn m now ∈ ops) :
    m ∈ (s.links k).up := by
  cases hm with
  | handle a' conn' m' up now' task ht hup =>
    rw [List.mem_singleton] at h
    cases h
    rw [hup]
    exact List.mem_cons_self ..
  | refuse | register | unregistered | send | unsent | close | hangUp => simp at h

/-- Votes newly counted by SAM were handed to it. -/
theorem event_handled {t : SamService} {e : ProtocolEvent} {a : ApplicationId}
    {m : ApplicationToSam} (he : e ∈ t.eventLog ops)
    (hsource : ∀ t' op, SamService.event t' op = some e → t'.FromCurrent op a m) :
    ∃ conn now, .handleMessage a conn m now ∈ ops := by
  obtain ⟨pre, op, post, hops, hev⟩ := Machine.mem_log.mp he
  obtain ⟨conn, tx, now, rfl, -⟩ := hsource _ op (Option.mem_toList.mp hev)
  refine ⟨conn, now, ?_⟩
  rw [hops]
  simp

/-- SAM performs operations: the votes it counts were backed before. -/
theorem Accounted.perform (h : Accounted timeout s)
    (hops : ∀ a conn m now, .handleMessage a conn m now ∈ ops → s.Backed m) :
    Accounted timeout (s.perform ops) where
  up := h.up
  ready := by
    intro a id hev
    unfold events at hev
    rw [perform_operations, SamService.eventLog_append, List.mem_append] at hev
    rcases hev with hev | hev
    · exact h.ready a id hev
    · obtain ⟨conn, now, hop⟩ := event_handled hev fun t op => SamService.event_ready
      exact hops a conn _ now hop
  committed := by
    intro a id mode hev
    unfold events at hev
    rw [perform_operations, SamService.eventLog_append, List.mem_append] at hev
    rcases hev with hev | hev
    · exact h.committed a id mode hev
    · obtain ⟨conn, now, hop⟩ := event_handled hev fun t op => SamService.event_committed
      exact hops a conn _ now hop
  read := h.read

/-- What a client newly writes is backed, and the callbacks it has run answer what it read. -/
theorem ClientMove.spec {a : ApplicationId} {client : Client η} {call : Option HandlerCall}
    {answer : Option ApplicationToSam} (hm : ClientMove handlers s a k link client call answer) :
    (∀ m ∈ link.up, m ∈ (s.links k).up ∨ (s.recordCall a k call answer).Backed m) ∧
      (s.links k).read ⊆ link.read ∧ ∀ c ∈ call, c.order ∈ link.read := by
  cases hm with
  | connect =>
    refine ⟨fun m hm => ?_, List.Subset.refl _, by simp⟩
    rcases List.mem_append.mp hm with hm | hm
    · exact .inl hm
    · rw [List.mem_singleton.mp hm]
      exact .inr trivial
  | welcome | unwelcome =>
    exact ⟨fun m hm => .inl hm, List.subset_append_left _ _, by simp⟩
  | observe world message down | leave world message down =>
    refine ⟨fun m hm => .inl hm, List.subset_append_left _ _, fun c hc => ?_⟩
    rw [ModeHandler.call_order hc]
    simp [Link.get]
  | answer world message down answer hs hd hr =>
    refine ⟨fun m hm => ?_, List.subset_append_left _ _, fun c hc => ?_⟩
    · rcases List.mem_append.mp hm with hm | hm
      · exact .inl hm
      · rw [List.mem_singleton.mp hm]
        right
        rcases ModeHandler.answer_cases hr with
          ⟨id, mode, rfl, hc⟩ | ⟨id, reason, rfl⟩ | ⟨id, mode, rfl, hc⟩
        · exact ⟨mode, k, by rw [hc]; simp⟩
        · trivial
        · exact ⟨k, by rw [hc]; simp⟩
    · rw [ModeHandler.call_order hc]
      simp [Link.get, Link.write]
  | heartbeat world =>
    refine ⟨fun m hm => ?_, List.Subset.refl _, by simp⟩
    rcases List.mem_append.mp hm with hm | hm
    · exact .inl hm
    · rw [List.mem_singleton.mp hm]
      exact .inr trivial

theorem accounted_move (h : Accounted timeout s) (hm : Move handlers s s') :
    Accounted timeout s' := by
  cases hm with
  | idle => exact h
  | call op hop =>
    refine h.perform fun a conn m now hmem => ?_
    rcases hop with ⟨_, rfl⟩ | ⟨_, rfl⟩ <;> simp at hmem
  | server k ops link hm =>
    have hp : Accounted timeout (s.perform ops) :=
      h.perform fun a conn m now hop => h.up k m (hm.handled hop)
    refine ⟨?_, hp.ready, hp.committed, ?_⟩
    · refine update_links (P := fun _ link => ∀ m ∈ link.up, s.Backed m) (fun k' _ => h.up k') ?_
      exact fun m hmem => h.up k m (hm.frame.up hmem)
    · intro record hrec
      have hread := h.read record hrec
      by_cases hk : record.link = k
      · rw [hk] at hread ⊢
        rw [setLink_links, Function.update_self, hm.frame.read]
        exact hread
      · rw [setLink_links, Function.update_of_ne hk]
        exact hread
  | client a k link client call answer hm =>
    obtain ⟨hup, hread, hcall⟩ := hm.spec
    have hmono : s.calls ⊆ (s.recordCall a k call answer).calls := List.subset_append_left _ _
    refine ⟨?_, fun b id hev => (h.ready b id hev).mono hmono,
      fun b id mode hev => (h.committed b id mode hev).mono hmono, ?_⟩
    · refine update_links
        (P := fun _ link => ∀ m ∈ link.up, (s.recordCall a k call answer).Backed m)
        (fun k' _ m hmem => (h.up k' m hmem).mono hmono) fun m hmem => ?_
      exact (hup m hmem).elim (fun hold => (h.up k m hold).mono hmono) fun hnew => hnew
    · intro record hrec
      rcases List.mem_append.mp hrec with hrec | hrec
      · have hold := h.read record hrec
        by_cases hk : record.link = k
        · rw [hk] at hold ⊢
          rw [recordCall_links, setClient_links, setLink_links, Function.update_self]
          exact hread hold
        · rw [recordCall_links, setClient_links, setLink_links, Function.update_of_ne hk]
          exact hold
      · obtain ⟨c, hc, rfl⟩ := List.mem_map.mp hrec
        rw [recordCall_links, setClient_links, setLink_links, Function.update_self]
        exact hcall c (Option.mem_toList.mp hc)
  | quit a handler => exact ⟨h.up, h.ready, h.committed, h.read⟩

theorem accounted_run (timeout : Duration) (initial : ApplicationId → η)
    (inputs : List (Input η ω)) :
    Accounted timeout (run handlers (System.new timeout initial) inputs) :=
  move_invariant (accounted_new timeout initial) (fun _ _ => accounted_move) inputs

/-! ## Orders -/

/-- An order a client has read was broadcast by SAM. -/
theorem order_broadcast (hd : Driven timeout s) (hr : Received s) {m : SamToApplication}
    (hm : m ∈ (s.links k).read) (hreply : ¬ m.IsReply) : m ∈ s.service.broadcasts := by
  have hsent := (hr k m (List.mem_append_left _ hm)).resolve_right hreply
  rw [hd.service] at hsent ⊢
  rcases sent_origin_run hreply hsent with h | ⟨pre, op, post, hops, htold⟩
  · cases h
  · rw [broadcasts_run]
    exact List.mem_append_right _ (Machine.mem_log.mpr ⟨pre, op, post, hops, htold⟩)

/-- The operation makes the system's mode change to `mode`, by a confirmation of `id`. -/
def Completes (t : SamService) (op : Operation) (id : TransitionId) (mode : SystemMode) : Prop :=
  (t.step op).snapshot.mode ≠ t.snapshot.mode ∧ (t.step op).snapshot.mode = mode ∧
    ∃ a m, t.event op = some (.committed a id m)

/-- A callback was run in answer to an order SAM has given. -/
theorem ran_order {H : List Transition} {log : List ProtocolEvent} (hd : Driven timeout s)
    (hr : Received s) (ha : Accounted timeout s) (hR : Refines H s.service log) {a : ApplicationId}
    {call : HandlerCall} {answer : Option ApplicationToSam} (h : s.Ran a call answer) :
    ∀ o, call.order.order? = some o → o ∈ orders H := by
  intro o ho
  obtain ⟨k, hk⟩ := h
  have hread := ha.read _ hk
  have hreply : ¬ call.order.IsReply := by cases call <;> exact fun h => h
  rw [← hR.orders]
  exact List.mem_filterMap.mpr ⟨_, order_broadcast hd hr hread hreply, ho⟩

/-- When a transition completes, every participant's confirmation has been counted. -/
theorem completes_counted {t : SamService} {log : List ProtocolEvent} {H : List Transition}
    (hR : Refines H t log) {op : Operation} {id : TransitionId} {mode : SystemMode}
    (hc : Completes t op id mode) :
    ∃ P, .requested id mode P ∈ log ∧
      ∀ p ∈ P, .committed p id mode ∈ log ++ (t.event op).toList := by
  obtain ⟨hne, hmode, a, m, hev⟩ := hc
  obtain ⟨H, r, b, c, rfl, hd, hb, hlast, hev', ht⟩ :=
    completed_round hR (SamService.step_effect t op) hne
  have ht' : r.target = mode := ht.trans hmode
  rw [hev'] at hev
  obtain ⟨rfl, rfl, rfl⟩ := Event.committed.inj (Option.some.inj hev)
  rw [← ht', hR.events, hev']
  refine ⟨r.participants, requested_mem.mpr ⟨r, by simp, rfl, rfl, rfl⟩, fun p hp => ?_⟩
  -- the vote of `b` is the last one on having committed
  rcases Ballot.mem_votes_or_last hlast hp with hp | rfl
  · exact List.mem_append_left _ (committed_mem.mpr ⟨r, by simp, rfl, rfl, c, hd, hp⟩)
  · simp

/-- The transition `id`, requested of `P` with target `m`, is atomic. -/
structure Atomic (timeout : Duration) (s : System η) (id : TransitionId) (m : SystemMode)
    (P : Finset ApplicationId) : Prop where
  committed : ∀ a m' ok answer, s.Ran a (.commitMode id m' ok) answer →
    m' = m ∧ ∀ p ∈ P, s.Ran p (.prepareMode id m true) (some (.modeReady p id))
  aborted : ∀ v, .rejected v id ∈ s.events timeout →
    ∀ a m' ok answer, ¬ s.Ran a (.commitMode id m' ok) answer
  completed : ∀ pre op post m', s.operations = pre ++ op :: post →
    Completes ((service₀ timeout).run pre) op id m' →
    m' = m ∧ ∀ p ∈ P, s.Ran p (.commitMode id m true) (some (.modeCommitted p id m))

/-- **Atomic commit, end to end.**  In every run of SAM and its applications, for every transition
    requested: a `commit_mode` in answer to its `CommitMode` is for the mode requested and finds
    all participants prepared; if SAM has accepted a rejection nobody ever runs `commit_mode` for
    it; and if it completes, all participants have run `commit_mode`. -/
theorem atomic_commit (handlers : ApplicationId → ModeHandler η ω) (timeout : Duration)
    (initial : ApplicationId → η) (inputs : List (Input η ω)) :
    let s := run handlers (System.new timeout initial) inputs
    (s.events timeout).countP Event.isRequest < 2 ^ 64 →
    ∀ id m P, .requested id m P ∈ s.events timeout → Atomic timeout s id m P := by
  intro s hcount id m P hP
  have hd : Driven timeout s := driven_run timeout initial inputs
  have hr : Received s := received_run timeout initial inputs
  have ha : Accounted timeout s := accounted_run timeout initial inputs
  obtain ⟨-, H, hR⟩ := hd.refines
  have hids := hR.ids_nodup hcount
  have hlog : s.events timeout = TwoPhase.events H := hR.events
  rw [hlog] at hP
  refine ⟨fun a m' ok answer hran => ?_, fun v hrej a m' ok answer hran => ?_, ?_⟩
  · have hcommit := ran_order hd hr ha hR hran (.commit id m') rfl
    refine ⟨order_target hids hP (.inr hcommit), fun p hp => ?_⟩
    have hready := commit_unanimous hids hP hcommit p hp
    rw [← hlog] at hready
    obtain ⟨mode, hprep⟩ := ha.ready p id hready
    have hprepare := ran_order hd hr ha hR hprep (.prepare id mode) rfl
    rw [order_target hids hP (.inl hprepare)] at hprep
    exact hprep
  · rw [hlog] at hrej
    exact abort_excludes_commit hids hrej (ran_order hd hr ha hR hran (.commit id m') rfl)
  · intro pre op post m' hops hc
    obtain ⟨-, H', hR'⟩ := service_refines timeout (fun _ => Channel.new OUTBOUND_QUEUE_DEPTH) pre
    obtain ⟨P', hP', hall⟩ := completes_counted hR' hc
    -- what was counted by then is in the whole log
    have hsub : (service₀ timeout).eventLog pre ++
        (((service₀ timeout).run pre).event op).toList ⊆ s.events timeout := by
      unfold events
      rw [hops, List.append_cons, SamService.eventLog_append, SamService.eventLog_concat]
      exact List.subset_append_left _ _
    have hreq := hsub (List.mem_append_left _ hP')
    rw [hlog] at hreq
    obtain ⟨rfl, rfl⟩ := request_unique hids hP hreq
    exact ⟨rfl, fun p hp => ha.committed p id _ (hsub (hall p hp))⟩

/-- Two applications connect and are moved to `Standby`. -/
def standby : List (Input RecordingHandler Unit) :=
  [.connect Demo.navigation 0, .serverReceive 0 0, .serverSend 0 true,
    .clientReceive Demo.navigation () true,
    .connect Demo.guidance 1, .serverReceive 1 1, .serverSend 1 true,
    .clientReceive Demo.guidance () true,
    .requestMode .standby,
    .serverSend 0 true, .clientReceive Demo.navigation () true, .serverReceive 0 2,
    .serverSend 1 true, .clientReceive Demo.guidance () true, .serverReceive 1 3,
    .serverSend 0 true, .clientReceive Demo.navigation () true, .serverReceive 0 4,
    .serverSend 1 true, .clientReceive Demo.guidance () true, .serverReceive 1 5]

theorem atomic_commit_demo :
    Atomic 2000000000
      (run (fun _ => recordingHandler) (System.new 2000000000 fun _ => .default) standby)
      ⟨1⟩ .standby {Demo.guidance, Demo.navigation} :=
  atomic_commit _ _ _ _ (by decide +kernel) ⟨1⟩ .standby {Demo.guidance, Demo.navigation}
    (by decide +kernel)

end System

end Sam
