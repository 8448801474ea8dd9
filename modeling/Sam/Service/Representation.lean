import Sam.Service.History
import Sam.Service.Traffic

/-!
# The representation invariant of `ServiceState`

* `Listed` — the client table lists exactly the applications the registry has as connected.
* `Numbered` — connection ids count registrations, so distinct clients have distinct ids.
* `representation` — with the refinement of `Sam.Service.History`, everything the fields of a
  reachable `ServiceState` have to do with one another, over fewer than `2 ^ 64` registrations
  and transitions.
* `representation_bound` — at exactly `2 ^ 64 - 1` registrations, or transitions, the next id has
  wrapped to 0, so the ids given are below the next one only before that.
-/

namespace Sam

open SamService TwoPhase

variable {s s' : SamService} {state : ServiceState} {op : Operation} {e : Option ProtocolEvent}

/-- The clients are the connected applications of the registry. -/
def Listed (state : ServiceState) : Prop :=
  ∀ a, (∃ client, state.clients.lookup a = some client) ↔
    ∃ status, state.applications.get a = some status ∧ status.connected = true

theorem Listed.congr {state' : ServiceState} (h : Listed state)
    (hc : state'.clients = state.clients) (ha : state'.applications = state.applications) :
    Listed state' := by
  unfold Listed; rw [hc, ha]; exact h

/-- An update that leaves `connected` alone keeps the two in step. -/
theorem Listed.modify (h : Listed state) (a : ApplicationId)
    (f : ApplicationStatus → ApplicationStatus)
    (hf : ∀ status, state.applications.get a = some status →
      (f status).connected = status.connected) :
    Listed { state with applications := (state.applications.modify a f).2 } := by
  intro b
  rw [h b]
  show _ ↔ ∃ status, (state.applications.modify a f).2.get b = some status ∧ _
  rw [ApplicationRegistry.get_modify]
  by_cases hba : b = a
  · subst hba
    rw [if_pos rfl]
    cases hs : state.applications.get b with
    | none => simp
    | some status => simp [hf status hs]
  · rw [if_neg hba]

theorem Listed.disconnect (h : Listed state) (a : ApplicationId) :
    Listed { state with
      clients := state.clients.erase a
      applications := (state.applications.markDisconnected a).2 } := by
  intro b
  show (∃ client, (state.clients.erase a).lookup b = some client) ↔
    ∃ status, (state.applications.markDisconnected a).2.get b = some status ∧ _
  rw [ApplicationRegistry.markDisconnected, ApplicationRegistry.get_modify]
  by_cases hba : b = a
  · subst hba
    rw [if_pos rfl, AList.lookup_erase]
    cases hs : state.applications.get b <;> simp
  · rw [if_neg hba, AList.lookup_erase_ne hba]; exact h b

theorem Listed.register (h : Listed state) (a : ApplicationId) (now : Instant)
    (client : ClientConnection) :
    Listed { state.enroll a now with clients := state.clients.insert a client } := by
  intro b
  show (∃ client', (state.clients.insert a client).lookup b = some client') ↔
    ∃ status, (state.applications.register a now).get b = some status ∧ _
  rw [ApplicationRegistry.get_register]
  by_cases hba : b = a
  · subst hba
    rw [if_pos rfl, AList.lookup_insert]
    exact ⟨fun _ => ⟨.new now, rfl, rfl⟩, fun _ => ⟨client, rfl⟩⟩
  · rw [if_neg hba, AList.lookup_insert_ne hba]; exact h b

/-- The channel a registration brings has room for the reply. -/
def Accepting (s : SamService) : Operation → Prop
  | .register _ tx _ => (s.channels tx).HasRoom
  | _ => True

instance (s : SamService) : (op : Operation) → Decidable (Accepting s op)
  | .register _ tx _ => inferInstanceAs (Decidable (s.channels tx).HasRoom)
  | .disconnect _ _ _ | .handleMessage _ _ _ _ | .requestMode _ | .refreshHealth _ | .receive _
  | .dropReceiver _ => instDecidableTrue

theorem listed_step (h : Listed s.inner) (hop : Accepting s op) (he : Effect s op e s') :
    Listed s'.inner := by
  cases he with
  | idle => exact h
  | registered a tx now => exact h.register a now _
  | unregistered a tx now hroom => exact absurd hop hroom
  | disconnected a => exact (h.disconnect a).congr rfl rfl
  | heartbeat a conn tx health mode now hc status hr =>
    rw [announce_inner]
    refine (h.modify a (fun _ => ⟨mode, health, now, true⟩) fun st hst => ?_).congr rfl rfl
    obtain ⟨st', hst', hcon⟩ := (h a).mp ⟨_, hc⟩
    rw [hst] at hst'; cases hst'
    exact hcon.symm
  | committed a conn tx id mode | completed a conn tx id mode =>
    exact (h.modify a (fun status => { status with currentMode := mode }) fun _ _ => rfl).congr
      rfl rfl
  | refreshed => rw [announce_inner]; exact h.congr rfl rfl
  | ready | prepared | rejected | unrecorded | requested => exact h.congr rfl rfl
  | received | receiverDropped => exact h

theorem listed_run (timeout : Duration) (channels : Channels) {ops : List Operation}
    (hacc : Machine.Always step Accepting (SamService.new timeout channels) ops) :
    Listed ((SamService.new timeout channels).run ops).inner := by
  refine Machine.run_invariant (I := fun s => Listed s.inner)
    (fun s op h hop => listed_step h hop (step_effect s op)) ?_ hacc
  intro a
  constructor
  · rintro ⟨_, h⟩
    cases h
  · rintro ⟨_, h, -⟩
    cases h

/-! ## Connection ids -/

/-- After `n` registrations the clients have ids up to `n`, no two the same. -/
structure Numbered (n : Nat) (state : ServiceState) : Prop where
  next : state.nextConnectionId = UInt64.ofNat (n + 1)
  upTo : ∀ a client, state.clients.lookup a = some client → client.id.val.toNat ≤ n
  distinct : ∀ a b client client', state.clients.lookup a = some client →
    state.clients.lookup b = some client' → client.id = client'.id → a = b

theorem nextConnectionId_effect (h : Effect s op e s') :
    s'.inner.nextConnectionId = s.inner.nextConnectionId + if op.isRegister then 1 else 0 := by
  have hz : s.inner.nextConnectionId = s.inner.nextConnectionId + 0 := (UInt64.add_zero _).symm
  cases h with
  | registered | unregistered => rfl
  | idle op hop => rw [hop]; exact hz
  | heartbeat | refreshed => rw [announce_inner]; exact hz
  | disconnected | ready | prepared | rejected | committed | completed | unrecorded | requested
  | received | receiverDropped => exact hz

theorem numbered_step {n : Nat} (h : Numbered n s.inner) (he : Effect s op e s')
    (hn : n + (if op.isRegister then 1 else 0) < 2 ^ 64) :
    Numbered (n + if op.isRegister then 1 else 0) s'.inner := by
  have hnext := nextConnectionId_effect he
  have hle : n ≤ n + if op.isRegister then 1 else 0 := Nat.le_add_right _ _
  -- a client that has just registered has the id `n + 1`, which nobody else has
  have hnew : ∀ b client, s'.inner.clients.lookup b = some client →
      s.inner.clients.lookup b = some client ∨
        (op.isRegister = true ∧ client.id.val.toNat = n + 1 ∧
          ∃ tx now, op = .register b tx now) := by
    intro b client hb
    rcases client_origin he hb with hb | ⟨now, rfl, _, hid⟩
    · exact .inl hb
    · refine .inr ⟨rfl, ?_, _, now, rfl⟩
      rw [hid, h.next]
      exact UInt64.toNat_ofNat_of_lt' hn
  constructor
  · rw [hnext, h.next]
    cases hop : op.isRegister with
    | false => exact UInt64.add_zero _
    | true => exact (UInt64.ofNat_add (n + 1) 1).symm
  · intro b client hb
    rcases hnew b client hb with hb | ⟨hop, hid, -⟩
    · exact (h.upTo b client hb).trans hle
    · rw [hid, hop]; exact le_refl _
  · intro a b client client' ha hb hid
    rcases hnew a client ha with ha | ⟨_, ha, tx, now, hopa⟩ <;>
      rcases hnew b client' hb with hb | ⟨_, hb, tx', now', hopb⟩
    · exact h.distinct a b client client' ha hb hid
    · have := h.upTo a client ha
      rw [hid] at this; omega
    · have := h.upTo b client' hb
      rw [← hid] at this; omega
    · rw [hopa] at hopb; cases hopb; rfl

/-- Ids count registrations, as long as there are fewer than `2 ^ 64`. -/
theorem numbered_run (timeout : Duration) (channels : Channels) (ops : List Operation)
    (hn : ops.countP Operation.isRegister < 2 ^ 64) :
    Numbered (ops.countP Operation.isRegister)
      ((SamService.new timeout channels).run ops).inner := by
  revert hn
  refine Machine.history_invariant
    (R := fun ops (s : SamService) => ops.countP Operation.isRegister < 2 ^ 64 →
      Numbered (ops.countP Operation.isRegister) s.inner) ?_ ?_ ops
  · exact fun _ => ⟨rfl, fun _ _ h => (by cases h), fun _ _ _ _ h => by cases h⟩
  · intro ops op ih hn
    have hc : (ops ++ [op]).countP Operation.isRegister =
        ops.countP Operation.isRegister + if op.isRegister then 1 else 0 := by
      rw [List.countP_append, List.countP_singleton]
    rw [hc] at hn ⊢
    exact numbered_step (ih (by omega)) (step_effect _ op) hn

/-- An id given is below the next one until the next one wraps around. -/
theorem Numbered.lt_next {n : Nat} (h : Numbered n state) (hn : n + 1 < 2 ^ 64)
    {a : ApplicationId} {client : ClientConnection} (ha : state.clients.lookup a = some client) :
    client.id.val < state.nextConnectionId := by
  rw [UInt64.lt_iff_toNat_lt, h.next, UInt64.toNat_ofNat_of_lt' hn]
  exact Nat.lt_succ_of_le (h.upTo a client ha)

/-! ## The invariant -/

/-- What the parts of the state reached by `ops` from `s` have to do with one another; `W` and `V`
    are the participants waited for and heard from. -/
structure Representation (s : SamService) (ops : List Operation) : Prop where
  listed : Listed (s.run ops).inner
  mode : (s.run ops).inner.system.mode = (s.run ops).inner.modes.currentMode
  distinct : ∀ a b client client', (s.run ops).inner.clients.lookup a = some client →
    (s.run ops).inner.clients.lookup b = some client' → client.id = client'.id → a = b
  below : ops.countP Operation.isRegister + 1 < 2 ^ 64 → ∀ a client,
    (s.run ops).inner.clients.lookup a = some client →
      client.id.val < (s.run ops).inner.nextConnectionId
  phase : ∀ id current target W V,
    (s.run ops).inner.modes.state = .preparing id current target W V ∨
      (s.run ops).inner.modes.state = .committing id current target W V →
    target ≠ current ∧ W.Nonempty ∧ Disjoint W V ∧
      (∃ pre post, LastRequest s ops pre target post id ∧
        W ∪ V = (s.run pre).inner.clients.keys.toFinset) ∧
      ((s.eventLog ops).countP Event.isRequest + 1 < 2 ^ 64 →
        id.val < (s.run ops).inner.modes.nextTransitionId)

theorem nthId_lt_next {n : Nat} (hn : n + 2 < 2 ^ 64) :
    (nthId n).val < UInt64.ofNat (n + 1 + 1) := by
  rw [UInt64.lt_iff_toNat_lt, nthId_toNat (by omega), UInt64.toNat_ofNat_of_lt' hn]
  omega

/-- The id of the last round is below the next one. -/
theorem Refines.id_lt_next {H : List Transition} {r : Transition} {log : List ProtocolEvent}
    (h : Refines (H ++ [r]) s log) (hn : log.countP Event.isRequest + 1 < 2 ^ 64) :
    r.id.val < s.inner.modes.nextTransitionId := by
  rw [h.events, requests_eq_length, List.length_append, List.length_singleton] at hn
  have hids := h.ids
  rw [List.map_append, List.length_append, List.length_singleton, List.range_succ,
    List.map_append, List.map_singleton, List.map_singleton] at hids
  have hid : r.id = nthId H.length := by
    have := (List.append_inj' hids rfl).2
    exact List.singleton_inj.mp this
  rw [hid, h.next, List.length_append, List.length_singleton]
  exact nthId_lt_next (by omega)

/-- **The representation invariant** of every reachable state. -/
theorem representation (timeout : Duration) (channels : Channels) (ops : List Operation)
    (hacc : Machine.Always step Accepting (SamService.new timeout channels) ops)
    (hreg : ops.countP Operation.isRegister < 2 ^ 64) :
    Representation (SamService.new timeout channels) ops := by
  have hnum := numbered_run timeout channels ops hreg
  obtain ⟨-, H, hR⟩ := service_refines timeout channels ops
  refine ⟨listed_run timeout channels hacc, hR.system, hnum.distinct,
    fun hn _ _ => hnum.lt_next hn, ?_⟩
  intro id current target W V hs
  obtain ⟨H₀, r, rfl, rfl, rfl, hne, hW, hdisjoint, hunion⟩ := hR.phase.inProgress hs
  obtain ⟨pre, post, hlast, hP, -, -⟩ := hR.lastRequest
  exact ⟨hne.symm, hW, hdisjoint, ⟨pre, post, hlast, hunion.trans hP⟩,
    fun hreq => hR.id_lt_next hreq⟩

/-- A registration, a request and a vote. -/
theorem representation_demo :
    Representation Demo.service
      [.register Demo.navigation ⟨0⟩ 0, .register Demo.guidance ⟨1⟩ 0, .requestMode .standby,
        .handleMessage Demo.navigation ⟨1⟩ (.modeReady Demo.navigation ⟨1⟩) 1] :=
  representation _ _ _ (by decide) (by decide)

/-! ## The bound -/

/-- The same application registers `n` times, each time on a new channel. -/
def registrations (n : Nat) : List Operation :=
  (List.range n).map fun i => .register Demo.navigation ⟨i⟩ 0

/-- The state after `n` registrations of one application. -/
structure Registered (n : Nat) (s : SamService) : Prop where
  next : s.inner.nextConnectionId = UInt64.ofNat (n + 1)
  unused : ∀ c : Sender, n ≤ c.channel → s.channels c = Channel.new OUTBOUND_QUEUE_DEPTH
  client : n ≠ 0 → ∃ tx, s.inner.clients.lookup Demo.navigation = some ⟨⟨UInt64.ofNat n⟩, tx⟩

theorem Registered.step {n : Nat} (h : Registered n s) :
    Accepting s (.register Demo.navigation ⟨n⟩ 0) ∧
      Registered (n + 1) (s.step (.register Demo.navigation ⟨n⟩ 0)) := by
  have hroom : (s.channels ⟨n⟩).HasRoom := by rw [h.unused ⟨n⟩ (le_refl n)]; decide
  refine ⟨hroom, ?_⟩
  have he := step_effect s (.register Demo.navigation ⟨n⟩ 0)
  generalize s.step (.register Demo.navigation ⟨n⟩ 0) = s' at he
  cases he with
  | idle _ hop => cases hop
  | unregistered _ _ _ hno => exact absurd hroom hno
  | registered =>
    refine ⟨?_, fun c hc => ?_, fun _ => ⟨⟨n⟩, ?_⟩⟩
    · show s.inner.nextConnectionId + 1 = _
      rw [h.next, UInt64.ofNat_add (n + 1) 1]; rfl
    · have hne : c ≠ ⟨n⟩ := by rintro rfl; exact absurd hc (Nat.not_succ_le_self n)
      show (s.channels.trySend _ _).2 c = _
      rw [Channels.trySend_ne hne]
      exact h.unused c (Nat.le_of_succ_le hc)
    · show (s.inner.clients.insert _ _).lookup _ = _
      rw [AList.lookup_insert, h.next]

theorem registered_run (n : Nat) :
    Machine.Always step Accepting Demo.service (registrations n) ∧
      Registered n (Demo.service.run (registrations n)) ∧
      (registrations n).countP Operation.isRegister = n ∧
      (Demo.service.eventLog (registrations n)).countP Event.isRequest = 0 := by
  induction n with
  | zero => exact ⟨trivial, ⟨rfl, fun _ _ => rfl, fun h => absurd rfl h⟩, rfl, rfl⟩
  | succ n ih =>
    obtain ⟨ha, hr, hc, he⟩ := ih
    have hsucc : registrations (n + 1) = registrations n ++ [.register Demo.navigation ⟨n⟩ 0] := by
      unfold registrations; rw [List.range_succ, List.map_append]; rfl
    rw [hsucc, run_concat, eventLog_concat]
    refine ⟨Machine.always_concat.mpr ⟨ha, hr.step.1⟩, hr.step.2, ?_, ?_⟩
    · rw [List.countP_append, hc]; rfl
    · rw [List.countP_append, he]; rfl

/-- The only client rejects `n` transitions, each at once. -/
def rejectedRounds (n : Nat) : List Operation :=
  .register Demo.navigation ⟨0⟩ 0 :: (List.range n).flatMap fun i =>
    [.requestMode .standby,
      .handleMessage Demo.navigation ⟨1⟩ (.modeRejected Demo.navigation (nthId i) "busy") 1]

theorem rejectedRounds_succ (n : Nat) :
    rejectedRounds (n + 1) = rejectedRounds n ++ [.requestMode .standby] ++
      [.handleMessage Demo.navigation ⟨1⟩ (.modeRejected Demo.navigation (nthId n) "busy") 1] := by
  unfold rejectedRounds
  rw [List.range_succ, List.flatMap_append, List.append_assoc]
  rfl

/-- The clients after the only registration. -/
abbrev soleClient : AList fun _ : ApplicationId => ClientConnection :=
  (Demo.service.run [.register Demo.navigation ⟨0⟩ 0]).inner.clients

/-- The state between two rounds, `n` of them rejected. -/
structure RejectedTimes (n : Nat) (s : SamService) : Prop where
  modes : s.inner.modes = ⟨.stable .startup, UInt64.ofNat (n + 1)⟩
  clients : s.inner.clients = soleClient

/-- The state in which the round after `n` rejected ones is being prepared. -/
structure AskedAfter (n : Nat) (s : SamService) : Prop where
  modes : s.inner.modes =
    ⟨.preparing (nthId n) .startup .standby {Demo.navigation} ∅, UInt64.ofNat (n + 2)⟩
  clients : s.inner.clients = soleClient

theorem RejectedTimes.request {n : Nat} {s : SamService} (h : RejectedTimes n s) :
    AskedAfter n (s.step (.requestMode .standby)) ∧
      s.event (.requestMode .standby) =
        some (.requested (nthId n) .standby {Demo.navigation}) := by
  have hkeys : s.inner.clients.keys.toFinset = {Demo.navigation} := by rw [h.clients]; decide
  have hrequest : s.inner.modes.requestTransition .standby s.inner.clients.keys =
      (.ok (nthId n), ⟨.preparing (nthId n) .startup .standby {Demo.navigation} ∅,
        UInt64.ofNat (n + 2)⟩) := by
    unfold ModeManager.requestTransition
    rw [h.modes, hkeys, UInt64.ofNat_add (n + 1) 1]
    rfl
  refine ⟨⟨?_, ?_⟩, ?_⟩
  · show (s.requestMode .standby).2.inner.modes = _
    simp only [requestMode, hrequest]
    rfl
  · show (s.requestMode .standby).2.inner.clients = _
    simp only [requestMode, hrequest]
    exact h.clients
  · simp only [event, requestMode, hrequest, hkeys]

theorem AskedAfter.reject {n : Nat} {s : SamService} (h : AskedAfter n s) :
    RejectedTimes (n + 1) (s.step
      (.handleMessage Demo.navigation ⟨1⟩ (.modeRejected Demo.navigation (nthId n) "busy") 1)) := by
  have hverify : verifyConnection s.inner Demo.navigation ⟨1⟩ = .ok () :=
    verifyConnection_ok.mpr ⟨⟨0⟩, by rw [h.clients]; decide⟩
  have hreject : s.inner.modes.applicationRejected Demo.navigation (nthId n) "busy" =
      (.ok (.transitionAborted (nthId n) Demo.navigation "busy"),
        ⟨.stable .startup, UInt64.ofNat (n + 2)⟩) := by
    rw [h.modes]
    simp [ModeManager.applicationRejected]
  have hstep : s.step (.handleMessage Demo.navigation ⟨1⟩
        (.modeRejected Demo.navigation (nthId n) "busy") 1) =
      broadcast (s.setInner { s.inner with
        modes := ⟨.stable .startup, UInt64.ofNat (n + 2)⟩ }) (.abortMode (nthId n)) := by
    show (s.handleMessage _ _ _ _).2 = _
    simp only [handleMessage, hverify, verifyApplication, hreject]
    rfl
  rw [hstep]
  exact ⟨rfl, h.clients⟩

/-- A message requests nothing. -/
theorem vote_not_request (s : SamService) (a : ApplicationId) (conn : ConnectionId)
    (message : ApplicationToSam) (now : Instant) :
    (s.event (.handleMessage a conn message now)).toList.countP Event.isRequest = 0 := by
  refine List.countP_eq_zero.mpr fun e he hreq => ?_
  obtain ⟨target, hop⟩ := event_isRequest he hreq
  cases hop

theorem rejected_run (n : Nat) :
    Machine.Always step Accepting Demo.service (rejectedRounds n) ∧
      RejectedTimes n (Demo.service.run (rejectedRounds n)) ∧
      (rejectedRounds n).countP Operation.isRegister = 1 ∧
      (Demo.service.eventLog (rejectedRounds n)).countP Event.isRequest ≤ n := by
  induction n with
  | zero => exact ⟨by decide, ⟨by decide, rfl⟩, rfl, by decide⟩
  | succ n ih =>
    obtain ⟨ha, hr, hc, he⟩ := ih
    rw [rejectedRounds_succ]
    have hasked := hr.request
    rw [← run_concat] at hasked
    refine ⟨?_, ?_, ?_, ?_⟩
    · exact Machine.always_concat.mpr ⟨Machine.always_concat.mpr ⟨ha, trivial⟩, trivial⟩
    · rw [run_concat]
      exact hasked.1.reject
    · rw [List.countP_append, List.countP_append, hc]
      rfl
    · rw [eventLog_concat, eventLog_concat, List.countP_append, List.countP_append, hr.request.2,
        vote_not_request]
      exact Nat.succ_le_succ he

/-- Fewer than `2 ^ 64` registrations, all accepted, and fewer than `2 ^ 64` requests. -/
structure Bounded (s : SamService) (ops : List Operation) : Prop where
  accepting : Machine.Always step Accepting s ops
  registers : ops.countP Operation.isRegister < 2 ^ 64
  requests : (s.eventLog ops).countP Event.isRequest < 2 ^ 64

/-- **At `2 ^ 64 - 1` registrations, or requests, the next id is 0 again**, below the id just
    given. -/
theorem representation_bound :
    (¬ ∀ (timeout : Duration) (channels : Channels) (ops : List Operation),
      Bounded (SamService.new timeout channels) ops →
      ∀ a client, ((SamService.new timeout channels).run ops).inner.clients.lookup a = some client →
        client.id.val < ((SamService.new timeout channels).run ops).inner.nextConnectionId) ∧
    ¬ ∀ (timeout : Duration) (channels : Channels) (ops : List Operation),
      Bounded (SamService.new timeout channels) ops →
      ∀ id current target W V, ((SamService.new timeout channels).run ops).inner.modes.state =
          .preparing id current target W V →
        id.val < ((SamService.new timeout channels).run ops).inner.modes.nextTransitionId := by
  obtain ⟨n, hn⟩ : ∃ n, n + 2 = 2 ^ 64 := ⟨2 ^ 64 - 2, by omega⟩
  constructor
  · intro h
    obtain ⟨ha, hr, hc, he⟩ := registered_run (n + 1)
    obtain ⟨tx, htx⟩ := hr.client (by omega)
    have hlt := h 2000000000 _ (registrations (n + 1))
      ⟨ha, by omega, he.trans_lt (by omega)⟩ _ _ htx
    replace hlt : _ < (Demo.service.run (registrations (n + 1))).inner.nextConnectionId := hlt
    rw [hr.next, hn, UInt64.lt_iff_toNat_lt] at hlt
    exact absurd hlt (Nat.not_lt_zero _)
  · intro h
    obtain ⟨ha, hr, hc, he⟩ := rejected_run n
    obtain ⟨hasked, hrequest⟩ := hr.request
    rw [← run_concat] at hasked
    have hbounded : Bounded Demo.service (rejectedRounds n ++ [.requestMode .standby]) := by
      refine ⟨Machine.always_concat.mpr ⟨ha, trivial⟩, ?_, ?_⟩
      · rw [List.countP_append, hc]
        decide
      · rw [eventLog_concat, List.countP_append, hrequest]
        exact (Nat.succ_le_succ he).trans_lt (by omega)
    have hlt := h 2000000000 _ _ hbounded _ _ _ _ _ (congrArg ModeManager.state hasked.modes)
    replace hlt : _ < (Demo.service.run
      (rejectedRounds n ++ [.requestMode .standby])).inner.modes.nextTransitionId := hlt
    rw [hasked.modes, hn, UInt64.lt_iff_toNat_lt] at hlt
    exact absurd hlt (Nat.not_lt_zero _)

end Sam
