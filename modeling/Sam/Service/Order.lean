import Sam.Service.Stream

/-!
# Who is ordered to commit

The participants of a transition are fixed by the request, while `CommitMode` goes to whoever is a
client when the last of them is ready.

* `told_prepare`, `told_commit` — which steps broadcast these orders.
* `commit_prepared_iff` — a connection ordered to commit was asked to prepare, and said it was
  ready, exactly when it was in the client table at the request with room for `PrepareMode`.
* `newcomer_ordered` — a run in which an application that registered in between is ordered to
  commit what it was never asked to prepare.
-/

namespace Sam

open SamService TwoPhase

variable {s s' : SamService} {op : Operation} {c : Sender} {id : TransitionId} {m : SystemMode}

/-! ## Where messages and orders come from -/

/-- A message in a channel was there before the step, answers a registration or was broadcast. -/
theorem sent_origin {x : SamToApplication} (h : x ∈ ((s.step op).channels c).sent) :
    x ∈ (s.channels c).sent ∨ x.IsReply ∨ x ∈ s.told op := by
  cases step_traffic s op with
  | quiet _ _ hc => rw [hc] at h; exact .inl h
  | reply a tx now _ hc =>
    rw [hc] at h
    by_cases hct : c = tx
    · subst hct
      rw [Channels.trySend_self, Channel.sent_trySend] at h
      rcases List.mem_append.mp h with h | h
      · exact .inl h
      · refine .inr (.inl ?_)
        split at h
        · rw [List.mem_singleton.mp h]; trivial
        · cases h
    · rw [Channels.trySend_ne hct] at h; exact .inl h
  | broadcast _ _ message hop hm hc hb =>
    obtain ⟨k, hs, -⟩ := Channels.broadcastOn_spec s.channels (s.step op).outbounds message c
    rw [hc, hs] at h
    rcases List.mem_append.mp h with h | h
    · exact .inl h
    · refine .inr (.inr ?_)
      unfold told
      rw [hb, List.drop_left, List.eq_of_mem_replicate h]
      exact List.mem_singleton_self _
  | receiver _ _ tx f hf hc =>
    rw [hc] at h
    by_cases hct : c = tx
    · subst hct; rw [Function.update_self, (hf _).1] at h; exact .inl h
    · rw [Function.update_of_ne hct] at h; exact .inl h

/-- A step that broadcasts an order makes an event happen, and broadcasts nothing else. -/
theorem told_order {x : SamToApplication} {o : ModeOrder} (h : x ∈ s.told op)
    (ho : x.order? = some o) :
    modeOrders (s.step op).broadcasts = modeOrders s.broadcasts ++ [o] := by
  rw [told_spec, modeOrders_append]
  congr 1
  unfold told at h ⊢
  cases step_traffic s op with
  | quiet _ _ hc hb => rw [hb, List.drop_length] at h; cases h
  | reply a tx now _ hc hb => rw [hb, List.drop_length] at h; cases h
  | broadcast _ _ message hop hm hc hb =>
    rw [hb, List.drop_left] at h ⊢
    rw [← List.mem_singleton.mp h, modeOrders, List.filterMap_cons_some ho, List.filterMap_nil]
  | receiver _ _ tx f hf hc hb => rw [hb, List.drop_length] at h; cases h

/-- The operation that gives an order is the request or the vote that calls for it. -/
theorem effect_order {e : Option ProtocolEvent} {o : ModeOrder} (he : Effect s op e s')
    (ho : modeOrders s'.broadcasts = modeOrders s.broadcasts ++ [o]) :
    (∃ id m, o = .prepare id m ∧ e = some (.requested id m s.inner.clients.keys.toFinset)) ∨
    (∃ id m a current W R, o = .commit id m ∧ e = some (.ready a id) ∧
      s.inner.modes.state = .preparing id current m W R ∧ a ∈ W ∧ W.erase a = ∅ ∧
      s'.inner.clients = s.inner.clients) ∨
    (∃ id a, o = .abort id ∧ e = some (.rejected a id)) := by
  cases e with
  | none =>
    rw [(none_frame he).2.2] at ho
    exact absurd ho (by simp)
  | some e =>
    cases he with
    | ready | committed | unrecorded => exact absurd ho (by simp)
    | completed =>
      unfold broadcastState at ho
      rw [modeOrders_broadcast, setInner_broadcasts, List.append_cancel_left_eq] at ho
      cases ho
    | prepared a conn tx id now hc current target W R hm ha hW =>
      rw [modeOrders_broadcast, setPhase_broadcasts, List.append_cancel_left_eq] at ho
      cases ho
      exact .inr (.inl ⟨id, target, a, current, W, R, rfl, rfl, hm, ha, hW, rfl⟩)
    | rejected a conn tx id =>
      rw [modeOrders_broadcast, setPhase_broadcasts, List.append_cancel_left_eq] at ho
      cases ho
      exact .inr (.inr ⟨id, a, rfl, rfl⟩)
    | requested target =>
      rw [modeOrders_broadcast, setInner_broadcasts, List.append_cancel_left_eq] at ho
      cases ho
      exact .inl ⟨_, target, rfl, rfl⟩

theorem told_prepare (h : .prepareMode id m ∈ s.told op) :
    s.event op = some (.requested id m s.inner.clients.keys.toFinset) := by
  rcases effect_order (step_effect s op) (told_order h rfl) with
    ⟨id', m', ho, he⟩ | ⟨_, _, _, _, _, _, ho, _⟩ | ⟨_, _, ho, _⟩
  · cases ho; exact he
  · cases ho
  · cases ho

theorem told_commit (h : .commitMode id m ∈ s.told op) :
    ∃ a current W R, s.event op = some (.ready a id) ∧
      s.inner.modes.state = .preparing id current m W R ∧ a ∈ W ∧ W.erase a = ∅ ∧
      (s.step op).inner.clients = s.inner.clients := by
  rcases effect_order (step_effect s op) (told_order h rfl) with
    ⟨_, _, ho, _⟩ | ⟨_, _, a, current, W, R, ho, h⟩ | ⟨_, _, ho, _⟩
  · cases ho
  · cases ho; exact ⟨a, current, W, R, h⟩
  · cases ho

/-- What has come into a channel during a run was broadcast by one of its steps. -/
theorem sent_origin_run {x : SamToApplication} {ops : List Operation} (hx : ¬ x.IsReply)
    (h : x ∈ ((s.run ops).channels c).sent) :
    x ∈ (s.channels c).sent ∨ ∃ l o r, ops = l ++ o :: r ∧ x ∈ (s.run l).told o := by
  induction ops generalizing s with
  | nil => exact .inl h
  | cons op ops ih =>
    rcases ih h with h | ⟨l, o, r, rfl, htold⟩
    · rcases sent_origin h with h | h | h
      · exact .inl h
      · exact absurd h hx
      · exact .inr ⟨[], op, ops, rfl, h⟩
    · exact .inr ⟨op :: l, o, r, rfl, htold⟩

/-- The step queues `x` to the channel. -/
def Queues (s : SamService) (op : Operation) (c : Sender) (x : SamToApplication) : Prop :=
  ((s.step op).channels c).sent = (s.channels c).sent ++ [x]

instance (s : SamService) (op : Operation) (c : Sender) (x : SamToApplication) :
    Decidable (Queues s op c x) := inferInstanceAs (Decidable (_ = _))

/-- Anything but a reply is queued by a broadcast to a client whose channel is in use. -/
theorem queues_told (h : Own s) {x : SamToApplication} (hx : ¬ x.IsReply) (hq : Queues s op c x) :
    x ∈ s.told op ∧ c ∈ (s.step op).outbounds ∧ (s.channels c).sent ≠ [] := by
  have hmem : x ∈ ((s.step op).channels c).sent := by rw [hq]; simp
  unfold Queues at hq
  cases step_traffic s op with
  | quiet _ _ hc => rw [hc] at hq; exact absurd hq (by simp)
  | reply a tx now _ hc =>
    rw [hc] at hq
    by_cases hct : c = tx
    · subst hct
      rw [Channels.trySend_self, Channel.sent_trySend, List.append_cancel_left_eq] at hq
      split at hq
      · rw [← List.singleton_inj.mp hq] at hx; exact absurd trivial hx
      · cases hq
    · rw [Channels.trySend_ne hct] at hq; exact absurd hq (by simp)
  | broadcast _ _ message hop hm hc hb =>
    by_cases hout : c ∈ (s.step op).outbounds
    · obtain ⟨b, conn, hb'⟩ := mem_outbounds.mp hout
      have hused : (s.channels c).sent ≠ [] := by
        rcases client_origin (step_effect s op) hb' with hb' | ⟨now, heq, _⟩
        · exact h.used b _ hb'
        · exact absurd heq (hop _ _ _)
      obtain ⟨k, hs, -⟩ := Channels.broadcastOn_spec s.channels (s.step op).outbounds message c
      rw [hc, hs, List.append_cancel_left_eq] at hq
      have hxm : x ∈ List.replicate k message := by rw [hq]; exact List.mem_singleton_self x
      refine ⟨?_, hout, hused⟩
      unfold told
      rw [hb, List.drop_left, List.eq_of_mem_replicate hxm]
      exact List.mem_singleton_self _
    · rw [hc, Channels.broadcastOn_notMem hout] at hq; exact absurd hq (by simp)
  | receiver _ _ tx f hf hc =>
    rw [hc] at hq
    by_cases hct : c = tx
    · subst hct; rw [Function.update_self, (hf _).1] at hq; exact absurd hq (by simp)
    · rw [Function.update_of_ne hct] at hq; exact absurd hq (by simp)

/-! ## The request and the order to commit -/

/-- A `ModeReady(id)` of `b`, sent on the connection `conn`, was accepted. -/
def ReadyOn (s : SamService) (ops : List Operation) (b : ApplicationId) (conn : ConnectionId)
    (id : TransitionId) : Prop :=
  ∃ l now r, ops = l ++ .handleMessage b conn (.modeReady b id) now :: r ∧
    (s.run l).event (.handleMessage b conn (.modeReady b id) now) = some (.ready b id)

/-- The connection was in the client table when the request was made, with room for the order to
    prepare. -/
def Asked (s : SamService) (b : ApplicationId) (conn : ConnectionId) (c : Sender) : Prop :=
  s.inner.clients.lookup b = some ⟨conn, c⟩ ∧ (s.channels c).HasRoom

/-- `PrepareMode` reaches exactly the connections asked. -/
theorem sent_prepare (h : Own s) (hg : (s.requestMode m).1 = .ok id) {b : ApplicationId}
    {conn : ConnectionId} (hb : s.inner.clients.lookup b = some ⟨conn, c⟩) :
    ((s.step (.requestMode m)).channels c).sent =
      (s.channels c).sent ++ if (s.channels c).HasRoom then [.prepareMode id m] else [] := by
  have hused := h.used b _ hb
  obtain ⟨current, -, -, -, -, hs⟩ := granted_step hg
  have hout : c ∈ (s.step (.requestMode m)).outbounds := by
    rw [hs]; exact mem_outbounds.mpr ⟨b, conn, hb⟩
  have htold : s.told (.requestMode m) = [.prepareMode id m] := by
    unfold told
    rw [hs, broadcast_broadcasts, setInner_broadcasts, List.drop_left]
  rw [(@stream_step s (.requestMode m) c h trivial hused).1, kept, htold]
  by_cases hroom : (s.channels c).HasRoom <;> simp [hout, hroom]

section

variable {timeout : Duration} {channels : Channels} {pre ops post : List Operation} {op : Operation}
  {b : ApplicationId} {conn : ConnectionId} {H : List Transition} {r : Transition}

/-- A channel of a client was unused when the service was made. -/
theorem unused_initially (hf : Machine.Always step Fresh (SamService.new timeout channels) ops)
    (hb : ((SamService.new timeout channels).run ops).inner.clients.lookup b = some ⟨conn, c⟩) :
    ((SamService.new timeout channels).channels c).sent = [] := by
  obtain ⟨pre, now, post, rfl, -, -⟩ := client_registration timeout channels ops hb
  have hfresh := (Machine.always_append.mp hf).2.1
  have hp := sent_mono_run (SamService.new timeout channels) pre c
  rw [show (((SamService.new timeout channels).run pre).channels c).sent = [] from hfresh.1,
    List.prefix_nil] at hp
  exact hp

/-- A vote of a client whose connection lasted from the vote to the end of the run was cast on
    that connection. -/
theorem readyOn_of_event (hf : Machine.Always step Fresh s post)
    (hused : (s.channels c).sent ≠ []) (hb : (s.run post).inner.clients.lookup b = some ⟨conn, c⟩)
    (hev : .ready b id ∈ s.eventLog post) : ReadyOn s post b conn id := by
  obtain ⟨l, o, r, rfl, hmem⟩ := Machine.mem_log.mp hev
  have hev' : (s.run l).event o = some (.ready b id) := by simpa using hmem
  obtain ⟨conn', tx, now, rfl, hl⟩ := event_ready hev'
  have hfl := (Machine.always_append.mp hf).2
  have hused' : ((s.run l).channels c).sent ≠ [] := by
    intro h
    have hp := sent_mono_run s l c
    rw [h, List.prefix_nil] at hp
    exact hused hp
  rw [run_append] at hb
  have hl' := held_before_run hfl hused' hb
  rw [hl] at hl'
  cases hl'
  exact ⟨l, now, r, rfl, hev'⟩

/-- A connection that was asked has been told to prepare. -/
theorem LastRequest.prepared (hl : LastRequest s ops pre m post id) (hown : Own (s.run pre))
    (hasked : Asked (s.run pre) b conn c) :
    .prepareMode id m ∈ ((s.run ops).channels c).sent := by
  rw [hl.run, run_concat]
  refine (sent_mono_run _ post c).subset ?_
  rw [sent_prepare hown hl.granted hasked.1, if_pos hasked.2]
  exact List.mem_append_right _ (List.mem_singleton_self _)

/-- A vote since the request of a client whose connection was asked was cast on that connection. -/
theorem LastRequest.readyOn (hl : LastRequest s ops pre m post id) (hown : Own (s.run pre))
    (hf : Machine.Always step Fresh s (ops ++ [op])) (hasked : Asked (s.run pre) b conn c)
    (hb : ((s.run ops).step op).inner.clients.lookup b = some ⟨conn, c⟩)
    (hvote : .ready b id ∈ (s.run (pre ++ [.requestMode m])).eventLog (post ++ [op])) :
    ReadyOn s (ops ++ [op]) b conn id := by
  have hops : ops ++ [op] = (pre ++ [.requestMode m]) ++ (post ++ [op]) := by
    rw [hl.split]
    simp
  have hused : ((s.run (pre ++ [.requestMode m])).channels c).sent ≠ [] := by
    rw [run_concat]
    exact used_mono (hown.used b _ hasked.1) _
  have hfpost : Machine.Always step Fresh (s.run (pre ++ [.requestMode m])) (post ++ [op]) := by
    rw [hops] at hf
    exact (Machine.always_append.mp hf).2
  obtain ⟨l, now, rest, hsplit, hvoted⟩ := readyOn_of_event hfpost hused
    (by rw [run_concat, ← hl.run]; exact hb) hvote
  refine ⟨pre ++ [.requestMode m] ++ l, now, rest, ?_, by rw [run_append]; exact hvoted⟩
  rw [hops, hsplit]
  simp

/-- Before the request nobody has been told to prepare under its id. -/
theorem unprepared (hids : ((H ++ [r]).map (·.id)).Nodup)
    (hpre : s.eventLog pre = TwoPhase.events H) (hunused : (s.channels c).sent = []) :
    .prepareMode r.id r.target ∉ ((s.run pre).channels c).sent := by
  intro hmem
  rcases sent_origin_run (x := .prepareMode r.id r.target) not_false hmem with
    hmem | ⟨l, o, rest, hl, htold⟩
  · rw [hunused] at hmem
    cases hmem
  · have hreq : .requested r.id r.target (s.run l).inner.clients.keys.toFinset ∈ s.eventLog pre :=
      Machine.mem_log.mpr ⟨l, o, rest, hl, by rw [told_prepare htold]; simp⟩
    rw [hpre] at hreq
    obtain ⟨r', hr', hid, -, -⟩ := requested_mem.mp hreq
    rw [List.map_append, List.nodup_append] at hids
    exact hids.2.2 r'.id (List.mem_map_of_mem hr') r.id (by simp) hid

/-- A connection newly told to prepare was asked. -/
theorem LastRequest.asked (hl : LastRequest s ops pre m post id) (hown : Own (s.run pre))
    (hf : Machine.Always step Fresh s ops)
    (hb : (s.run ops).inner.clients.lookup b = some ⟨conn, c⟩)
    (hold : .prepareMode id m ∉ ((s.run pre).channels c).sent)
    (hsent : .prepareMode id m ∈ ((s.run ops).channels c).sent) :
    Asked (s.run pre) b conn c := by
  have hfpost : Machine.Always step Fresh (s.run pre) (.requestMode m :: post) := by
    rw [hl.split] at hf
    exact (Machine.always_append.mp hf).2
  -- nobody was told to prepare since the request, so it was the request that did it
  have hnew : .prepareMode id m ∈ (((s.run pre).step (.requestMode m)).channels c).sent := by
    rw [hl.run] at hsent
    rcases sent_origin_run (x := .prepareMode id m) not_false hsent with
      hsent | ⟨l, o, rest, hpost, htold⟩
    · rw [run_concat] at hsent
      exact hsent
    · have hreq := hl.last _ (Machine.mem_log.mpr ⟨l, o, rest, hpost, by
        rw [told_prepare htold]
        exact List.mem_singleton_self _⟩)
      cases hreq
  have hout : c ∈ (s.run pre).outbounds := by
    by_contra hout
    obtain ⟨current, -, -, -, -, hs⟩ := granted_step hl.granted
    rw [hs] at hnew
    have hsame : ((s.run pre).channels.broadcastOn (s.run pre).outbounds (.prepareMode id m)) c =
        (s.run pre).channels c := Channels.broadcastOn_notMem hout
    exact hold (hsame ▸ hnew)
  obtain ⟨b', conn', hb'⟩ := mem_outbounds.mp hout
  have hbpre : (s.run pre).inner.clients.lookup b = some ⟨conn, c⟩ := by
    refine held_before_run hfpost (hown.used b' _ hb') ?_
    rw [← run_append, ← hl.split]
    exact hb
  refine ⟨hbpre, ?_⟩
  by_contra hroom
  rw [sent_prepare hown hl.granted hbpre, if_neg hroom, List.append_nil] at hnew
  exact hold hnew

/-- **An order to commit follows the order to prepare and the consent of the same connection exactly
    when that connection was asked**, being in the client table at the request with room in its
    queue. -/
theorem commit_prepared_iff
    (hf : Machine.Always step Fresh (SamService.new timeout channels) (ops ++ [op]))
    (hq : Queues ((SamService.new timeout channels).run ops) op c (.commitMode id m)) :
    let s := SamService.new timeout channels
    ∃ pre post b conn, LastRequest s ops pre m post id ∧
      (s.run ops).inner.clients.lookup b = some ⟨conn, c⟩ ∧
      (Asked (s.run pre) b conn c →
        .prepareMode id m ∈ ((s.run ops).channels c).sent ∧ ReadyOn s (ops ++ [op]) b conn id) ∧
      ((s.eventLog ops).countP Event.isRequest < 2 ^ 64 →
        .prepareMode id m ∈ ((s.run ops).channels c).sent ∧ ReadyOn s (ops ++ [op]) b conn id →
        Asked (s.run pre) b conn c) := by
  intro s
  have hfops := (Machine.always_append.mp hf).1
  have hown : ∀ l, Machine.Always step Fresh s l → Own (s.run l) :=
    fun l hl => own_run (own_new timeout channels) hl
  obtain ⟨htold, hout, -⟩ := queues_told (x := .commitMode id m) (hown ops hfops) not_false hq
  obtain ⟨a, current, W, R, hev, hm, ha, hW, hclients⟩ := told_commit htold
  obtain ⟨b, conn, hb'⟩ := mem_outbounds.mp hout
  have hb := hb'
  rw [hclients] at hb
  obtain ⟨-, H, hR⟩ := service_refines timeout channels ops
  have hphase := hR.phase
  rw [hm] at hphase
  cases hphase with
  | @preparing H r _ _ _ _ _ hs hid ht hp hne hWr hRr =>
    subst hid ht hWr hRr
    obtain ⟨pre, post, hlast, hP, hpre, hlog⟩ := hR.lastRequest
    have hownpre : Own (s.run pre) := by
      refine hown pre ?_
      rw [hlast.split] at hfops
      exact (Machine.always_append.mp hfops).1
    refine ⟨pre, post, b, conn, hlast, hb, fun hasked => ⟨hlast.prepared hownpre hasked, ?_⟩,
      fun hn hagreed => ?_⟩
    · -- everybody asked has voted, the last of them with `op`
      have hmem : b ∈ r.participants := by
        rw [hP, List.mem_toFinset]
        exact AList.lookup_isSome.mp (by rw [hasked.1]; rfl)
      refine hlast.readyOn hownpre hf hasked hb' ?_
      rw [eventLog_concat, hlog, ← hlast.run, hev]
      rcases Ballot.mem_votes_or_last hW hmem with hv | rfl
      · exact List.mem_append_left _ (List.mem_append_left _ (List.mem_map.mpr ⟨b, hv, rfl⟩))
      · exact List.mem_append_right _ (List.mem_singleton_self _)
    · have hold := unprepared (hR.ids_nodup hn) hpre (unused_initially hfops hb)
      exact hlast.asked hownpre hfops hb hold hagreed.1

end

/-- Everybody ordered to commit was asked. -/
theorem commit_prepared_demo :
    let ops := [Operation.register Demo.navigation ⟨0⟩ 0, .requestMode .standby]
    let op := Operation.handleMessage Demo.navigation ⟨1⟩ (.modeReady Demo.navigation ⟨1⟩) 1
    let s := Demo.service
    ∃ pre post b conn, LastRequest s ops pre .standby post ⟨1⟩ ∧
      (s.run ops).inner.clients.lookup b = some ⟨conn, ⟨0⟩⟩ ∧
      (Asked (s.run pre) b conn ⟨0⟩ →
        .prepareMode ⟨1⟩ .standby ∈ ((s.run ops).channels ⟨0⟩).sent ∧
          ReadyOn s (ops ++ [op]) b conn ⟨1⟩) ∧
      ((s.eventLog ops).countP Event.isRequest < 2 ^ 64 →
        .prepareMode ⟨1⟩ .standby ∈ ((s.run ops).channels ⟨0⟩).sent ∧
          ReadyOn s (ops ++ [op]) b conn ⟨1⟩ →
        Asked (s.run pre) b conn ⟨0⟩) :=
  commit_prepared_iff (by decide) (by decide)

/-- **A newcomer is ordered to commit what it was never asked to prepare.** -/
theorem newcomer_ordered :
    let ops := [Operation.register Demo.navigation ⟨0⟩ 0, .requestMode .standby,
      .register Demo.guidance ⟨1⟩ 1]
    let op := Operation.handleMessage Demo.navigation ⟨1⟩ (.modeReady Demo.navigation ⟨1⟩) 2
    Machine.Always step Fresh Demo.service (ops ++ [op]) ∧
      Queues (Demo.service.run ops) op ⟨1⟩ (.commitMode ⟨1⟩ .standby) ∧
      ((Demo.service.run ops).channels ⟨1⟩).sent = [.registerAccepted 1 .startup .healthy] := by
  decide

end Sam
