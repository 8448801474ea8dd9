import Sam.Service.History
import Sam.Service.Traffic

/-!
# The stream of messages queued to a connection

Every registration brings a fresh channel.

* `told`, `kept` — what a step broadcasts, and how much of it a channel takes.
* `Own` — each client has a channel of its own, in use since its registration.
* `stream_step`, `stream_run` — the stream of a used channel grows by what it takes.
* `stream_exact` — a client's stream is its `RegisterAccepted` and the broadcasts since that found
  room, and it is complete exactly when no send to it failed; `full_queue_gap` shows one that
  is not.
* `stream_grammar` — the orders in all streams are subsequences of one sequence
  `Prepare(1) D(1) Prepare(2) D(2) …`.
-/

namespace Sam

open SamService TwoPhase

variable {s s' : SamService} {op : Operation} {c tx : Sender}

namespace SamService

/-- What a step broadcasts. -/
def told (s : SamService) (op : Operation) : List SamToApplication :=
  (s.step op).broadcasts.drop s.broadcasts.length

/-- What a channel takes of it: all, if it belongs to a client and has room. -/
def kept (c : Sender) (s : SamService) (op : Operation) : List SamToApplication :=
  if c ∈ (s.step op).outbounds ∧ (s.channels c).HasRoom then s.told op else []

/-- Each client has a channel of its own, which has been used. -/
structure Own (s : SamService) : Prop where
  used : ∀ a client, s.inner.clients.lookup a = some client →
    (s.channels client.outbound).sent ≠ []
  apart : ∀ a b client client', s.inner.clients.lookup a = some client →
    s.inner.clients.lookup b = some client' → client.outbound = client'.outbound → a = b

end SamService

/-! ## One step -/

theorem told_spec (s : SamService) (op : Operation) :
    (s.step op).broadcasts = s.broadcasts ++ s.told op := by
  unfold told
  cases step_traffic s op with
  | quiet _ _ hc hb => rw [hb, List.drop_length, List.append_nil]
  | reply a tx now _ hc hb => rw [hb, List.drop_length, List.append_nil]
  | broadcast _ _ message hop hm hc hb => rw [hb, List.drop_left]
  | receiver _ _ tx f hf hc hb => rw [hb, List.drop_length, List.append_nil]

theorem not_isReply_told {m : SamToApplication} (h : m ∈ s.told op) : ¬ m.IsReply := by
  unfold told at h
  cases step_traffic s op with
  | quiet _ _ hc hb => rw [hb, List.drop_length] at h; cases h
  | reply a tx now _ hc hb => rw [hb, List.drop_length] at h; cases h
  | broadcast _ _ message hop hm hc hb =>
    rw [hb, List.drop_left] at h
    rw [List.mem_singleton.mp h]; exact hm
  | receiver _ _ tx f hf hc hb => rw [hb, List.drop_length] at h; cases h

theorem used_mono (h : (s.channels c).sent ≠ []) (op : Operation) :
    ((s.step op).channels c).sent ≠ [] := by
  intro h'
  have hp := sent_mono s op c
  rw [h', List.prefix_nil] at hp
  exact h hp

theorem own_step (h : Own s) (hf : s.Fresh op) : Own (s.step op) := by
  -- the newcomer's channel was fresh, so it is nobody else's
  have hnew : ∀ a client, (s.step op).inner.clients.lookup a = some client →
      s.inner.clients.lookup a = some client ∨
        (∃ now, op = .register a client.outbound now) ∧ (s.channels client.outbound).sent = [] := by
    intro a client ha
    rcases client_origin (step_effect s op) ha with ha | ⟨now, rfl, -, -⟩
    · exact .inl ha
    · exact .inr ⟨⟨now, rfl⟩, hf.1⟩
  constructor
  · intro a client ha
    rcases client_origin (step_effect s op) ha with ha | ⟨now, rfl, hroom, -⟩
    · exact used_mono (h.used a client ha) op
    · obtain ⟨hc, -, -, -⟩ := register_spec s a client.outbound now
      rw [hc, Channels.trySend_self, Channel.sent_trySend, if_pos hroom]
      simp
  · intro a b client client' ha hb hout
    rcases hnew a client ha with ha | ⟨⟨now, hopa⟩, hea⟩ <;>
      rcases hnew b client' hb with hb | ⟨⟨now', hopb⟩, heb⟩
    · exact h.apart a b client client' ha hb hout
    · rw [← hout] at heb; exact absurd heb (h.used a client ha)
    · rw [hout] at hea; exact absurd hea (h.used b client' hb)
    · exact (Operation.register.inj (hopa.symm.trans hopb)).1

/-- The operation names the channel. -/
def Operation.Names : Operation → Sender → Prop
  | .register _ tx _, c => tx = c
  | .receive tx, c => tx = c
  | .dropReceiver tx, c => tx = c
  | _, _ => False

/-- A channel nothing was sent on stays as it is until an operation names it. -/
theorem untouched_step (h : Own s) (hc : (s.channels c).sent = []) (hop : ¬ op.Names c) :
    (s.step op).channels c = s.channels c := by
  -- a client's channel has been used
  have hout : c ∉ (s.step op).outbounds := by
    intro hmem
    obtain ⟨b, id, hb⟩ := mem_outbounds.mp hmem
    rcases client_origin (step_effect s op) hb with hb | ⟨now, rfl, -, -⟩
    · exact h.used b _ hb hc
    · exact hop rfl
  cases step_traffic s op with
  | quiet _ _ hch => rw [hch]
  | reply a tx now _ hch => rw [hch, Channels.trySend_ne (Ne.symm hop)]
  | broadcast _ _ message _ _ hch => rw [hch, Channels.broadcastOn_notMem hout]
  | receiver _ _ tx f hf hch hb hs hact =>
    have hne : c ≠ tx := by
      rintro rfl
      rcases hact with ⟨rfl, -⟩ | ⟨rfl, -⟩
      · exact hop rfl
      · exact hop rfl
    rw [hch, Function.update_of_ne hne]

theorem SamService.Own.nodup (h : Own s) : s.outbounds.Nodup := by
  unfold outbounds
  refine List.Nodup.map_on ?_ (List.NodupKeys.nodup s.inner.clients.nodupKeys)
  rintro ⟨a, client⟩ ha ⟨b, client'⟩ hb hout
  have hla := AList.mem_lookup_iff.mpr ha
  have hlb := AList.mem_lookup_iff.mpr hb
  obtain rfl := h.apart a b client client' hla hlb hout
  rw [Option.mem_def] at hla hlb
  rw [hla] at hlb
  obtain rfl := Option.some.inj hlb
  rfl

/-- **The stream of a used channel grows by what it takes of a broadcast.** -/
theorem stream_step (h : Own s) (hf : s.Fresh op) (hused : (s.channels c).sent ≠ []) :
    ((s.step op).channels c).sent = (s.channels c).sent ++ s.kept c op ∧
      (((s.step op).channels c).refused = true ↔ (s.channels c).refused = true ∨
        c ∈ (s.step op).outbounds ∧ ¬ (s.channels c).HasRoom ∧ s.told op ≠ []) := by
  have hn := (own_step h hf).nodup
  have hquiet : (s.step op).broadcasts = s.broadcasts → s.told op = [] := by
    intro hb; unfold told; rw [hb, List.drop_length]
  cases step_traffic s op with
  | quiet _ _ hc hb => simp [kept, hquiet hb, hc]
  | reply a tx now _ hc hb =>
    have hne : c ≠ tx := by rintro rfl; exact hused hf.1
    simp [kept, hquiet hb, hc, Channels.trySend_ne hne]
  | broadcast _ _ message hop hm hc hb =>
    have htold : s.told op = [message] := by unfold told; rw [hb, List.drop_left]
    by_cases hmem : c ∈ (s.step op).outbounds
    · rw [hc, Channels.broadcastOn_mem hn hmem, Channel.sent_trySend, Channel.refused_trySend]
      by_cases hroom : (s.channels c).HasRoom <;> simp [kept, htold, hmem, hroom]
    · rw [hc, Channels.broadcastOn_notMem hmem]
      simp [kept, hmem]
  | receiver _ _ tx f hf hc hb =>
    rw [hc]
    by_cases hct : c = tx
    · subst hct
      simp [kept, hquiet hb, Function.update_self, hf]
    · simp [kept, hquiet hb, Function.update_of_ne hct]

/-! ## Runs -/

theorem own_run {ops : List Operation} (h : Own s) (hf : Machine.Always step Fresh s ops) :
    Own (s.run ops) :=
  Machine.run_invariant (C := Fresh) (I := Own) (fun _ _ h hf => own_step h hf) h hf

theorem own_new (timeout : Duration) (channels : Channels) :
    Own (SamService.new timeout channels) :=
  ⟨fun _ _ h => (by cases h), fun _ _ _ _ h => by cases h⟩

theorem broadcasts_run (s : SamService) (ops : List Operation) :
    (s.run ops).broadcasts = s.broadcasts ++ Machine.log step told s ops := by
  induction ops generalizing s with
  | nil => exact (List.append_nil _).symm
  | cons op ops ih => rw [run_cons, ih, told_spec, Machine.log_cons, List.append_assoc]

theorem kept_sublist (c : Sender) (s : SamService) (ops : List Operation) :
    (Machine.log step (kept c) s ops).Sublist (Machine.log step told s ops) := by
  induction ops generalizing s with
  | nil => exact List.Sublist.refl _
  | cons op ops ih =>
    refine List.Sublist.append ?_ (ih _)
    unfold kept
    split
    · exact List.Sublist.refl _
    · exact List.nil_sublist _

theorem stream_run {ops : List Operation} (h : Own s) (hf : Machine.Always step Fresh s ops)
    (hused : (s.channels c).sent ≠ []) :
    ((s.run ops).channels c).sent = (s.channels c).sent ++ Machine.log step (kept c) s ops := by
  induction ops generalizing s with
  | nil => exact (List.append_nil _).symm
  | cons op ops ih =>
    rw [run_cons, ih (own_step h hf.1) hf.2 (used_mono hused op), (stream_step h hf.1 hused).1,
      Machine.log_cons, List.append_assoc]

theorem refused_mono_run {ops : List Operation} (h : ((s.run ops).channels c).refused = false) :
    (s.channels c).refused = false := by
  induction ops generalizing s with
  | nil => exact h
  | cons op ops ih => exact refused_mono s op c (ih h)

/-- A channel that stays in use has taken every broadcast exactly when it never refused one. -/
theorem complete_iff {ops : List Operation} (h : Own s) (hf : Machine.Always step Fresh s ops)
    (hused : (s.channels c).sent ≠ []) (hr : (s.channels c).refused = false)
    (hin : Machine.Always step (fun s op => c ∈ (s.step op).outbounds) s ops) :
    Machine.log step (kept c) s ops = Machine.log step told s ops ↔
      ((s.run ops).channels c).refused = false := by
  induction ops generalizing s with
  | nil => exact ⟨fun _ => hr, fun _ => rfl⟩
  | cons op ops ih =>
    have hstep := (stream_step h hf.1 hused).2
    rw [Machine.log_cons, Machine.log_cons, run_cons]
    by_cases hgap : ¬ (s.channels c).HasRoom ∧ s.told op ≠ []
    · -- the broadcast is lost and cannot be made up for
      have hkept : s.kept c op = [] := if_neg fun hk => hgap.1 hk.2
      have hrefused : ((s.step op).channels c).refused = true := hstep.mpr (.inr ⟨hin.1, hgap⟩)
      have hlen := (kept_sublist c (s.step op) ops).length_le
      have hpos := List.length_pos_iff.mpr hgap.2
      constructor
      · intro heq
        have := congrArg List.length heq
        rw [hkept, List.nil_append, List.length_append] at this
        omega
      · intro hend
        rw [refused_mono_run hend] at hrefused; cases hrefused
    · have hkept : s.kept c op = s.told op := by
        by_cases hroom : (s.channels c).HasRoom
        · exact if_pos ⟨hin.1, hroom⟩
        · have htold : s.told op = [] := not_not.mp fun ht => hgap ⟨hroom, ht⟩
          rw [kept, htold, ite_self]
      have hr' : ((s.step op).channels c).refused = false := by
        rw [← Bool.not_eq_true, hstep]
        rintro (h | h)
        · rw [hr] at h; cases h
        · exact hgap h.2
      rw [hkept, List.append_cancel_left_eq]
      exact ih (own_step h hf.1) hf.2 (used_mono hused op) hr' hin.2

/-- A client at the end of a run that began with its channel in use was one all along. -/
theorem listed_throughout {ops : List Operation} (hf : Machine.Always step Fresh s ops)
    (hused : (s.channels c).sent ≠ []) {a : ApplicationId} {id : ConnectionId}
    (hend : (s.run ops).inner.clients.lookup a = some ⟨id, c⟩) :
    Machine.Always step (fun s op => c ∈ (s.step op).outbounds) s ops := by
  induction ops generalizing s with
  | nil => trivial
  | cons op ops ih =>
    have hused' := used_mono hused op
    exact ⟨mem_outbounds.mpr ⟨a, id, held_before_run hf.2 hused' hend⟩, ih hf.2 hused' hend⟩

/-! ## A client's stream since its registration -/

/-- Every client has registered. -/
theorem client_registration (timeout : Duration) (channels : Channels) (ops : List Operation)
    {a : ApplicationId} {client : ClientConnection}
    (ha : ((SamService.new timeout channels).run ops).inner.clients.lookup a = some client) :
    let s := SamService.new timeout channels
    ∃ pre now post, ops = pre ++ .register a client.outbound now :: post ∧
      ((s.run pre).channels client.outbound).HasRoom ∧
      client.id = ⟨(s.run pre).inner.nextConnectionId⟩ := by
  intro s
  induction ops using List.reverseRecOn with
  | nil => cases ha
  | append_singleton ops op ih =>
    rw [run_concat] at ha
    rcases client_origin (step_effect _ op) ha with ha | ⟨now, rfl, hroom, hid⟩
    · obtain ⟨pre, now, post, rfl, h⟩ := ih ha
      exact ⟨pre, now, post ++ [op], by simp, h⟩
    · exact ⟨ops, now, [], rfl, hroom, hid⟩

/-- A registration with room is accepted, and its reply begins the stream. -/
theorem stream_register {a : ApplicationId} {now : Instant}
    (hf : s.Fresh (.register a tx now)) (hroom : (s.channels tx).HasRoom) :
    (s.register a tx now).1 = .ok ⟨s.inner.nextConnectionId⟩ ∧
      ((s.step (.register a tx now)).channels tx).sent =
        [(s.step (.register a tx now)).inner.welcome] ∧
      ((s.step (.register a tx now)).channels tx).refused = false ∧
      (s.step (.register a tx now)).inner.clients.lookup a =
        some ⟨⟨s.inner.nextConnectionId⟩, tx⟩ := by
  obtain ⟨hc, hs, -, ht⟩ := register_spec s a tx now
  have hw : (s.step (.register a tx now)).inner.welcome = (s.inner.enroll a now).welcome := by
    unfold ServiceState.welcome; rw [hs]
  refine ⟨?_, ?_, ?_, ?_⟩
  · unfold register
    simp only [Channels.trySend, Channel.trySend_room hroom]
  · rw [hc, hw, Channels.trySend_self, Channel.sent_trySend, hf.1, if_pos hroom]; rfl
  · rw [hc, Channels.trySend_self, Channel.refused_trySend, hf.2]; simp [hroom]
  · rw [ht, if_pos hroom, AList.lookup_insert]

/-- What is known of a client's channel from its registration on: it holds the reply, nothing was
    refused, and the client stays in the table. -/
theorem client_since (timeout : Duration) (channels : Channels) (ops : List Operation)
    (hf : Machine.Always step Fresh (SamService.new timeout channels) ops) {a : ApplicationId}
    {client : ClientConnection}
    (ha : ((SamService.new timeout channels).run ops).inner.clients.lookup a = some client) :
    let s := SamService.new timeout channels
    let c := client.outbound
    ∃ pre now post, ops = pre ++ .register a c now :: post ∧
      ((s.run pre).register a c now).1 = .ok client.id ∧
      let s₁ := s.run (pre ++ [.register a c now])
      s.run ops = s₁.run post ∧ Own s₁ ∧ Machine.Always step Fresh s₁ post ∧
      (s₁.channels c).sent = [s₁.inner.welcome] ∧ (s₁.channels c).refused = false ∧
      Machine.Always step (fun s op => c ∈ (s.step op).outbounds) s₁ post := by
  intro s c
  obtain ⟨pre, now, post, rfl, hroom, hid⟩ := client_registration timeout channels ops ha
  obtain ⟨hpre, hreg, hpost⟩ := Machine.always_append.mp hf
  obtain ⟨hok, hsent, hrefused, hlookup⟩ := stream_register hreg hroom
  refine ⟨pre, now, post, rfl, ?_, ?_⟩
  · obtain ⟨id, tx⟩ := client
    rw [hid]
    exact hok
  intro s₁
  have hs₁ : s₁ = (s.run pre).step (.register a c now) := run_concat ..
  have hrun : s.run (pre ++ .register a c now :: post) = s₁.run post := by
    rw [hs₁, run_append, run_cons]
  rw [← hs₁] at hsent hrefused
  have hpost' : Machine.Always step Fresh s₁ post := by rw [hs₁]; exact hpost
  refine ⟨hrun, ?_, hpost', hsent, hrefused, ?_⟩
  · rw [hs₁]
    exact own_step (own_run (own_new _ _) hpre) hreg
  · exact listed_throughout hpost' (by rw [hsent]; simp) (by rw [← hrun]; exact ha)

/-- **A client's stream** is the reply to its registration and those broadcasts since that found
    room in its queue and a receiver, in order; it is complete exactly when no send to it failed. -/
theorem stream_exact (timeout : Duration) (channels : Channels) (ops : List Operation)
    (hf : Machine.Always step Fresh (SamService.new timeout channels) ops) {a : ApplicationId}
    {client : ClientConnection}
    (ha : ((SamService.new timeout channels).run ops).inner.clients.lookup a = some client) :
    let s := SamService.new timeout channels
    let c := client.outbound
    ∃ pre now post, ops = pre ++ .register a c now :: post ∧
      ((s.run pre).register a c now).1 = .ok client.id ∧
      let s₁ := s.run (pre ++ [.register a c now])
      ((s.run ops).channels c).sent = s₁.inner.welcome :: Machine.log step (kept c) s₁ post ∧
      (((s.run ops).channels c).sent =
          s₁.inner.welcome :: (s.run ops).broadcasts.drop s₁.broadcasts.length ↔
        ((s.run ops).channels c).refused = false) := by
  intro s c
  obtain ⟨pre, now, post, hops, hok, hrun, hown, hpost, hsent, hrefused, hin⟩ :=
    client_since timeout channels ops hf ha
  refine ⟨pre, now, post, hops, hok, ?_⟩
  intro s₁
  have hused : (s₁.channels c).sent ≠ [] := by rw [hsent]; simp
  have hstream := stream_run hown hpost hused
  rw [hsent, ← hrun] at hstream
  rw [hrun, broadcasts_run s₁ post, List.drop_left, ← hrun, hstream]
  refine ⟨rfl, ?_⟩
  rw [hrun, ← complete_iff hown hpost hused hrefused hin]
  exact ⟨fun h => (List.cons.inj h).2, fun h => congrArg (List.cons _) h⟩

/-- A client told of a request. -/
theorem stream_exact_demo :
    let ops := [Operation.register Demo.navigation ⟨0⟩ 0, .requestMode .standby]
    let s := Demo.service
    ∃ pre now post, ops = pre ++ .register Demo.navigation ⟨0⟩ now :: post ∧
      ((s.run pre).register Demo.navigation ⟨0⟩ now).1 = .ok ⟨1⟩ ∧
      let s₁ := s.run (pre ++ [.register Demo.navigation ⟨0⟩ now])
      ((s.run ops).channels ⟨0⟩).sent = s₁.inner.welcome :: Machine.log step (kept ⟨0⟩) s₁ post ∧
      (((s.run ops).channels ⟨0⟩).sent =
          s₁.inner.welcome :: (s.run ops).broadcasts.drop s₁.broadcasts.length ↔
        ((s.run ops).channels ⟨0⟩).refused = false) :=
  @stream_exact _ _ [.register Demo.navigation ⟨0⟩ 0, .requestMode .standby] (by decide)
    Demo.navigation ⟨⟨1⟩, ⟨0⟩⟩ (by decide)

/-- Sixteen transitions that the only client rejects at once. -/
def rejections : List Operation :=
  (List.range 16).flatMap fun i =>
    [.requestMode .standby,
      .handleMessage Demo.navigation ⟨1⟩ (.modeRejected Demo.navigation (nthId i) "busy") 1]

/-- **A client that does not drain its queue misses a broadcast and stays connected.** -/
theorem full_queue_gap :
    let ops := Operation.register Demo.navigation ⟨0⟩ 0 :: rejections
    let s := Demo.service.run ops
    Machine.Always step Fresh Demo.service ops ∧
      s.inner.clients.lookup Demo.navigation = some ⟨⟨1⟩, ⟨0⟩⟩ ∧
      s.broadcasts.getLast? = some (.abortMode ⟨16⟩) ∧
      (s.channels ⟨0⟩).sent = .registerAccepted 1 .startup .healthy :: s.broadcasts.dropLast ∧
      (s.channels ⟨0⟩).sent ≠ .registerAccepted 1 .startup .healthy :: s.broadcasts := by
  decide +kernel

/-! ## The grammar of the streams -/

/-- A registration on channel `c` was accepted. -/
def Opened (s : SamService) (ops : List Operation) (c : Sender) : Prop :=
  ∃ pre a now post id, ops = pre ++ .register a c now :: post ∧
    ((s.run pre).register a c now).1 = .ok id

/-- The stream of a connection: the reply to its registration, no other reply, and orders taken
    from the script. -/
structure Grammar (script : List ModeOrder) (stream : List SamToApplication) : Prop where
  reply : ∃ version mode health rest, stream = .registerAccepted version mode health :: rest ∧
    ∀ m ∈ rest, ¬ m.IsReply
  orders : (modeOrders stream).Sublist script

/-- A registration is accepted only with room for the reply. -/
theorem room_of_register {a : ApplicationId} {now : Instant} {id : ConnectionId}
    (h : (s.register a tx now).1 = .ok id) : (s.channels tx).HasRoom := by
  by_contra hroom
  obtain ⟨e, he⟩ := Channel.trySend_noRoom hroom (s.inner.enroll a now).welcome
  unfold ServiceState.enroll ServiceState.welcome at he
  unfold register at h
  simp only [Channels.trySend, he] at h
  cases h

/-- The stream of a connection obeys the grammar of the orders broadcast. -/
theorem grammar_run {ops : List Operation} (h : Own s) (hf : Machine.Always step Fresh s ops)
    (hop : Opened s ops c) :
    Grammar (modeOrders (s.run ops).broadcasts) ((s.run ops).channels c).sent := by
  obtain ⟨pre, a, now, post, id, rfl, hok⟩ := hop
  obtain ⟨hpre, hreg, hpost⟩ := Machine.always_append.mp hf
  obtain ⟨-, hsent, -, -⟩ := stream_register hreg (room_of_register hok)
  rw [run_append, run_cons]
  have hown : Own ((s.run pre).step (.register a c now)) := own_step (own_run h hpre) hreg
  have hstream := stream_run hown hpost (c := c) (by rw [hsent]; simp)
  rw [hsent, List.singleton_append] at hstream
  rw [hstream]
  refine ⟨⟨_, _, _, _, rfl, fun m hm => ?_⟩, ?_⟩
  · obtain ⟨l, op, r, -, hmem⟩ := Machine.mem_log.mp ((kept_sublist c _ post).subset hm)
    exact not_isReply_told hmem
  · rw [broadcasts_run _ post, modeOrders_append]
    exact ((kept_sublist c _ post).filterMap _).trans (List.sublist_append_right _ _)

/-- There is one sequence of transitions, with ids 1, 2, …, such that every connection sees the
    reply to its registration and then, among status broadcasts, a subsequence of their orders; so
    orders come in order, no transition is committed on one connection and aborted on another or
    the same, and all speak of the same mode. -/
def OneScript (s : SamService) (ops : List Operation) : Prop :=
  let sent := fun c => ((s.run ops).channels c).sent
  ∃ H : List Transition, H.map (·.id) = (List.range H.length).map nthId ∧
    (∀ c, Opened s ops c → Grammar (TwoPhase.orders H) (sent c)) ∧
    (∀ c, Opened s ops c →
      (modeOrders (sent c)).Pairwise (Order.Before fun i j => i.val.toNat < j.val.toNat)) ∧
    ∀ c c', Opened s ops c → Opened s ops c' → ∀ id m, .commitMode id m ∈ sent c →
      .abortMode id ∉ sent c' ∧
      ∀ m', .prepareMode id m' ∈ sent c' ∨ .commitMode id m' ∈ sent c' → m' = m

/-- **The grammar of the outbound streams**, whatever the clients send. -/
theorem stream_grammar (timeout : Duration) (channels : Channels) (ops : List Operation)
    (hf : Machine.Always step Fresh (SamService.new timeout channels) ops)
    (hreq : ((SamService.new timeout channels).eventLog ops).countP Event.isRequest < 2 ^ 64) :
    OneScript (SamService.new timeout channels) ops := by
  unfold OneScript
  intro sent
  obtain ⟨-, H, hR⟩ := service_refines timeout channels ops
  have hgrammar : ∀ c, Opened (SamService.new timeout channels) ops c →
      Grammar (TwoPhase.orders H) (sent c) := by
    intro c hc
    have := grammar_run (own_new timeout channels) hf hc
    rwa [hR.orders] at this
  have hids := hR.ids_nodup hreq
  refine ⟨H, hR.ids, hgrammar, fun c hc => ?_, fun c c' hc hc' id m hcommit =>
    ⟨fun habort => ?_, ?_⟩⟩
  · exact (orders_pairwise (hR.ids_increasing hreq)).sublist (hgrammar c hc).orders
  · have hco := (hgrammar c hc).orders.subset ((mem_modeOrders rfl).mpr hcommit)
    exact commit_excludes_abort hids hco
      ((hgrammar c' hc').orders.subset ((mem_modeOrders rfl).mpr habort))
  · intro m' hm'
    have hco := (hgrammar c hc).orders.subset ((mem_modeOrders rfl).mpr hcommit)
    refine orders_agree hids hco (hm'.imp (fun h => ?_) fun h => ?_)
    · exact (hgrammar c' hc').orders.subset ((mem_modeOrders rfl).mpr h)
    · exact (hgrammar c' hc').orders.subset ((mem_modeOrders rfl).mpr h)

/-- Two connections, one of them opened while a transition is being prepared. -/
theorem stream_grammar_demo :
    OneScript Demo.service
      [.register Demo.navigation ⟨0⟩ 0, .requestMode .standby, .register Demo.guidance ⟨1⟩ 1,
        .handleMessage Demo.navigation ⟨1⟩ (.modeReady Demo.navigation ⟨1⟩) 2] :=
  stream_grammar _ _ _ (by decide) (by decide)

end Sam
