import Sam.Service.Step

/-!
# The service refines two-phase histories

* `Known` — every client is in the registry, in every reachable state; so a vote that advances
  the manager is always recorded (`Effect.unrecorded` is unreachable).
* `Refines H s log` — a list of rounds `H` accounts for the state `s` reached with protocol
  events `log`: the manager's phase is the last round's, its sets are that round's ballots, the
  mode is the target of the last completed round, ids count up from 1, and the orders broadcast
  are the orders of the rounds.
* `service_refines` — every run of the service is such a history.
-/

namespace Sam

open SamService TwoPhase

/-- A transition as the abstract model sees it. -/
abbrev Transition := Round TransitionId ApplicationId SystemMode

abbrev ModeOrder := Order TransitionId SystemMode

/-- The order a message carries, if any. -/
def SamToApplication.order? : SamToApplication → Option ModeOrder
  | .prepareMode id mode => some (.prepare id mode)
  | .commitMode id mode => some (.commit id mode)
  | .abortMode id => some (.abort id)
  | _ => none

/-- The orders among some messages. -/
def modeOrders (messages : List SamToApplication) : List ModeOrder :=
  messages.filterMap SamToApplication.order?

@[simp] theorem modeOrders_append (l l' : List SamToApplication) :
    modeOrders (l ++ l') = modeOrders l ++ modeOrders l' := List.filterMap_append

theorem modeOrders_broadcast (s : SamService) (message : SamToApplication) :
    modeOrders (s.broadcast message).broadcasts =
      modeOrders s.broadcasts ++ message.order?.toList := by
  rw [broadcast_broadcasts, modeOrders_append]
  cases message <;> rfl

/-- An order is carried by one message only. -/
theorem order?_inj {m m' : SamToApplication} {o : ModeOrder} (h : m.order? = some o)
    (h' : m'.order? = some o) : m = m' := by
  unfold SamToApplication.order? at h h'
  cases m <;> cases h <;> cases m' <;> cases h' <;> rfl

theorem mem_modeOrders {l : List SamToApplication} {m : SamToApplication} {o : ModeOrder}
    (ho : m.order? = some o) : o ∈ modeOrders l ↔ m ∈ l := by
  unfold modeOrders
  rw [List.mem_filterMap]
  constructor
  · rintro ⟨m', hm, ho'⟩
    rwa [order?_inj ho ho']
  · exact fun h => ⟨m, h, ho⟩

/-! ## Clients are registered -/

/-- Every client is in the registry. -/
def Known (state : ServiceState) : Prop :=
  ∀ a client, state.clients.lookup a = some client →
    ∃ status, state.applications.get a = some status

theorem Known.recorded {state : ServiceState} (h : Known state) {a : ApplicationId}
    {client : ClientConnection} (hc : state.clients.lookup a = some client) :
    state.applications.get a ≠ none := by
  obtain ⟨status, hs⟩ := h a client hc
  rw [hs]
  exact Option.some_ne_none status

theorem Known.modify {state : ServiceState} (h : Known state) (a : ApplicationId)
    (f : ApplicationStatus → ApplicationStatus) :
    Known { state with applications := (state.applications.modify a f).2 } := by
  intro b client hb
  obtain ⟨status, hs⟩ := h b client hb
  rw [ApplicationRegistry.get_modify]
  split
  · rename_i hba; subst hba; exact ⟨f status, by rw [hs]; rfl⟩
  · exact ⟨status, hs⟩

theorem Known.erase {state : ServiceState} (h : Known state) (a : ApplicationId) :
    Known { state with clients := state.clients.erase a } := by
  intro b client hb
  by_cases hba : b = a
  · subst hba; rw [AList.lookup_erase] at hb; cases hb
  · rw [AList.lookup_erase_ne hba] at hb; exact h b client hb

theorem Known.enroll {state : ServiceState} (h : Known state) (a : ApplicationId) (now : Instant) :
    Known (state.enroll a now) := by
  intro b client hb
  unfold ServiceState.enroll
  rw [recalculateHealth_applications, ApplicationRegistry.get_register]
  split
  · exact ⟨_, rfl⟩
  · exact h b client hb

theorem Known.insert {state : ServiceState} (h : Known state) (a : ApplicationId) (now : Instant)
    (client : ClientConnection) :
    Known { state.enroll a now with clients := state.clients.insert a client } := by
  intro b client' hb
  by_cases hba : b = a
  · subst hba
    refine ⟨.new now, ?_⟩
    unfold ServiceState.enroll
    rw [recalculateHealth_applications, ApplicationRegistry.get_register, if_pos rfl]
  · rw [AList.lookup_insert_ne hba] at hb; exact h.enroll a now b client' hb

/-- The registry and the client table decide whether clients are known. -/
theorem Known.congr {state state' : ServiceState} (h : Known state)
    (hc : state'.clients = state.clients) (ha : state'.applications = state.applications) :
    Known state' := by
  unfold Known; rw [hc, ha]; exact h

theorem known_step {s s' : SamService} {op : Operation} {e : Option ProtocolEvent}
    (h : Known s.inner) (he : Effect s op e s') : Known s'.inner := by
  cases he with
  | idle => exact h
  | registered a tx now => exact h.insert a now _
  | unregistered a tx now => exact h.enroll a now
  | disconnected a conn tx now => exact ((h.erase a).modify a _).congr rfl rfl
  | heartbeat a conn tx health mode now =>
    rw [announce_inner]; exact (h.modify a _).congr rfl rfl
  | ready | prepared | rejected | requested | unrecorded => exact h.congr rfl rfl
  | committed a => exact (h.modify a _).congr rfl rfl
  | completed a => exact (h.modify a _).congr rfl rfl
  | refreshed now => rw [announce_inner]; exact h.congr rfl rfl
  | received | receiverDropped => exact h

theorem known_new (timeout : Duration) (channels : Channels) :
    Known (SamService.new timeout channels).inner := fun _ _ h => by cases h

/-! ## Operations without events -/

theorem announce_broadcasts (s : SamService) (previous : HealthState) :
    modeOrders (s.announce previous).broadcasts = modeOrders s.broadcasts := by
  unfold announce broadcastState
  split
  · rw [modeOrders_broadcast]; exact List.append_nil _
  · rfl

/-- An operation that makes no protocol event happen leaves the manager, the mode and the orders
    given as they are. -/
theorem none_frame {s s' : SamService} {op : Operation} (h : Effect s op none s') :
    s'.inner.modes = s.inner.modes ∧ s'.inner.system.mode = s.inner.system.mode ∧
      modeOrders s'.broadcasts = modeOrders s.broadcasts := by
  cases h with
  | idle | registered | unregistered | received | receiverDropped => exact ⟨rfl, rfl, rfl⟩
  | disconnected =>
    refine ⟨rfl, rfl, ?_⟩
    unfold broadcastState
    rw [modeOrders_broadcast]; exact List.append_nil _
  | heartbeat =>
    rw [announce_inner, announce_broadcasts]; exact ⟨rfl, rfl, rfl⟩
  | refreshed => rw [announce_inner, announce_broadcasts]; exact ⟨rfl, rfl, rfl⟩

/-! ## The refinement -/

/-- The manager's phase is that of the last round; all earlier rounds await nobody. -/
inductive PhaseOf : List Transition → ModeManagerState → Prop where
  | stable {H : List Transition} {mode : SystemMode} (hs : ∀ r ∈ H, r.Settled) :
      PhaseOf H (.stable mode)
  | preparing {H : List Transition} {r : Transition} {id : TransitionId}
      {current target : SystemMode} {W R : Finset ApplicationId} (hs : ∀ r' ∈ H, r'.Settled)
      (hid : r.id = id) (ht : r.target = target) (hp : r.decision = .pending)
      (hne : current ≠ target) (hW : r.ready.waiting = W) (hR : r.ready.voted = R) :
      PhaseOf (H ++ [r]) (.preparing id current target W R)
  | committing {H : List Transition} {r : Transition} {id : TransitionId}
      {previous target : SystemMode} {W C : Finset ApplicationId} {c : Ballot r.participants}
      (hs : ∀ r' ∈ H, r'.Settled) (hid : r.id = id) (ht : r.target = target)
      (hc : r.decision = .commit c) (hu : ¬ c.Unanimous) (hne : previous ≠ target)
      (hW : c.waiting = W) (hC : c.voted = C) :
      PhaseOf (H ++ [r]) (.committing id previous target W C)

/-- While a transition is in progress, its round is the last one, and its participants are those
    waited for and those heard from. -/
theorem PhaseOf.inProgress {H : List Transition} {state : ModeManagerState} (h : PhaseOf H state)
    {id : TransitionId} {current target : SystemMode} {W V : Finset ApplicationId}
    (hs : state = .preparing id current target W V ∨ state = .committing id current target W V) :
    ∃ H₀ r, H = H₀ ++ [r] ∧ r.id = id ∧ r.target = target ∧ current ≠ target ∧ W.Nonempty ∧
      Disjoint W V ∧ W ∪ V = r.participants := by
  cases h with
  | stable => rcases hs with hs | hs <;> cases hs
  | @preparing H₀ r _ _ _ _ _ _ hid ht hp hne hW hV =>
    obtain hs := hs.resolve_right (by rintro ⟨⟩)
    cases hs
    subst hW hV
    exact ⟨H₀, r, rfl, hid, ht, hne,
      Finset.nonempty_iff_ne_empty.mpr (Round.not_unanimous_of_pending hp),
      r.ready.disjoint_waiting_voted, r.ready.waiting_union_voted⟩
  | @committing H₀ r _ _ _ _ _ c _ hid ht hc hu hne hW hV =>
    obtain hs := hs.resolve_left (by rintro ⟨⟩)
    cases hs
    subst hW hV
    exact ⟨H₀, r, rfl, hid, ht, hne, Finset.nonempty_iff_ne_empty.mpr hu,
      c.disjoint_waiting_voted, c.waiting_union_voted⟩

/-- The id of the `n`-th transition, from 0. -/
def nthId (n : Nat) : TransitionId := ⟨UInt64.ofNat (n + 1)⟩

/-- The rounds `H` account for the state `s` and for the protocol events `log` that led to it. -/
structure Refines (H : List Transition) (s : SamService) (log : List ProtocolEvent) : Prop where
  phase : PhaseOf H s.inner.modes.state
  system : s.inner.system.mode = s.inner.modes.currentMode
  mode : s.inner.modes.currentMode = TwoPhase.mode .startup H
  ids : H.map (·.id) = (List.range H.length).map nthId
  next : s.inner.modes.nextTransitionId = UInt64.ofNat (H.length + 1)
  events : log = TwoPhase.events H
  orders : modeOrders s.broadcasts = TwoPhase.orders H

theorem refines_new (timeout : Duration) (channels : Channels) :
    Refines [] (SamService.new timeout channels) [] where
  phase := .stable fun _ h => by cases h
  system := rfl
  mode := rfl
  ids := rfl
  next := rfl
  events := rfl
  orders := rfl

variable {H : List Transition} {r q : Transition} {s s' : SamService} {log : List ProtocolEvent}
  {op : Operation} {e : ProtocolEvent}

/-- The last round grows by one event. -/
theorem Refines.grow {t : List ModeOrder} (h : Refines (H ++ [r]) s log) (hid : q.id = r.id)
    (phase : PhaseOf (H ++ [q]) s'.inner.modes.state)
    (system : s'.inner.system.mode = s'.inner.modes.currentMode)
    (mode : s'.inner.modes.currentMode = TwoPhase.mode .startup (H ++ [q]))
    (next : s'.inner.modes.nextTransitionId = s.inner.modes.nextTransitionId)
    (events : q.events = r.events ++ [e])
    (sent : modeOrders s'.broadcasts = modeOrders s.broadcasts ++ t)
    (orders : q.orders = r.orders ++ t) : Refines (H ++ [q]) s' (log ++ [e]) where
  phase := phase
  system := system
  mode := mode
  ids := by
    have hids := h.ids
    rw [List.map_append, List.map_singleton, List.length_append] at hids ⊢
    rw [hid, hids]; rfl
  next := by rw [next, h.next, List.length_append, List.length_append]; rfl
  events := by rw [h.events, events_concat, events_concat, events, List.append_assoc]
  orders := by rw [sent, h.orders, orders_concat, orders_concat, orders, List.append_assoc]

/-- A new round is opened. -/
theorem Refines.open (h : Refines H s log) {id : TransitionId} {current target : SystemMode}
    {P : Finset ApplicationId} (hP : P.Nonempty) (hs : ∀ r ∈ H, r.Settled)
    (hid : id = ⟨s.inner.modes.nextTransitionId⟩) (hne : current ≠ target)
    (phase : s'.inner.modes =
      ⟨.preparing id current target P ∅, s.inner.modes.nextTransitionId + 1⟩)
    (hcur : s.inner.modes.currentMode = current)
    (system : s'.inner.system.mode = s.inner.system.mode)
    (sent : modeOrders s'.broadcasts = modeOrders s.broadcasts ++ [.prepare id target]) :
    Refines (H ++ [.start id target P hP]) s' (log ++ [.requested id target P]) where
  phase := by
    rw [phase]
    exact .preparing hs rfl rfl rfl hne (Round.waiting_start ..) Ballot.voted_empty
  system := by rw [system, h.system, phase, hcur]; rfl
  mode := by
    rw [mode_concat, if_neg (Round.not_completed_of_pending rfl), ← h.mode, hcur, phase]; rfl
  ids := by
    rw [List.map_append, h.ids, List.length_append, List.length_singleton, List.range_succ,
      List.map_append, List.map_singleton, List.map_singleton]
    rw [show (Round.start id target P hP).id = nthId H.length by rw [nthId, ← h.next, ← hid]; rfl]
  next := by
    rw [phase, List.length_append, List.length_singleton, UInt64.ofNat_add (H.length + 1) 1,
      ← h.next]
    rfl
  events := by rw [h.events, events_concat, Round.events_start]
  orders := by rw [sent, h.orders, orders_concat, Round.orders_start]

/-! ## What a vote does to the last round -/

section Votes

variable {a : ApplicationId} {id : TransitionId} {current target : SystemMode}
  {W V : Finset ApplicationId}

/-- A participant is ready, and others are still asked. -/
theorem Refines.ready (h : Refines H s log)
    (hm : s.inner.modes.state = .preparing id current target W V) (ha : a ∈ W)
    (hW : W.erase a ≠ ∅) :
    ∃ H', Refines H' (s.setPhase (.preparing id current target (W.erase a) (insert a V)))
      (log ++ [.ready a id]) := by
  have hphase := h.phase
  have hsys := h.system
  have hmode := h.mode
  rw [ModeManager.currentMode, hm] at hsys hmode
  rw [hm] at hphase
  cases hphase with
  | @preparing H r _ _ _ _ _ hs hid ht hp hne hWr hVr =>
    subst hid ht hWr hVr
    have hp' := Round.decision_approve_ne hp a ha hW
    refine ⟨_, h.grow (q := r.approve hp a ha) (t := []) rfl ?_ hsys ?_ rfl
      (Round.events_approve hp a ha) (List.append_nil _).symm ?_⟩
    · exact .preparing hs rfl rfl hp' hne (Round.waiting_approve hp a ha)
        (Round.voted_approve hp a ha)
    · exact hmode.trans (mode_concat_congr _ H (Round.not_completed_of_pending hp)
        (Round.not_completed_of_pending hp'))
    · rw [Round.orders_approve, if_neg hW]

/-- The last participant is ready: the transition is decided. -/
theorem Refines.prepared (h : Refines H s log)
    (hm : s.inner.modes.state = .preparing id current target W V) (ha : a ∈ W)
    (hW : W.erase a = ∅) :
    ∃ H', Refines H' ((s.setPhase (.committing id current target (insert a V) ∅)).broadcast
      (.commitMode id target)) (log ++ [.ready a id]) := by
  have hphase := h.phase
  have hsys := h.system
  have hmode := h.mode
  rw [ModeManager.currentMode, hm] at hsys hmode
  rw [hm] at hphase
  cases hphase with
  | @preparing H r _ _ _ _ _ hs hid ht hp hne hWr hVr =>
    subst hid ht hWr hVr
    have hc' := Round.decision_approve_last hp a ha hW
    have hu' : ¬ (Ballot.empty : Ballot r.participants).Unanimous :=
      Ballot.not_unanimous_empty r.nonempty
    refine ⟨_, h.grow (q := r.approve hp a ha) (t := [.commit r.id r.target]) rfl ?_ hsys ?_
      rfl (Round.events_approve hp a ha) ?_ ?_⟩
    · refine .committing hs rfl rfl hc' hu' hne ?_ Ballot.voted_empty
      have hall := (Round.unanimous_of_commit hc')
      rw [Ballot.unanimous_iff, Round.voted_approve] at hall
      exact Ballot.waiting_empty.trans hall.symm
    · exact hmode.trans (mode_concat_congr _ H (Round.not_completed_of_pending hp)
        (mt (Round.completed_commit hc').mp hu'))
    · rw [modeOrders_broadcast, setPhase_broadcasts]; rfl
    · rw [Round.orders_approve, if_pos hW]

/-- A participant rejects: the round is settled. -/
theorem Refines.rejected (h : Refines H s log)
    (hm : s.inner.modes.state = .preparing id current target W V) (ha : a ∈ W ∨ a ∈ V) :
    ∃ H', Refines H' ((s.setPhase (.stable current)).broadcast (.abortMode id))
      (log ++ [.rejected a id]) := by
  have hphase := h.phase
  have hsys := h.system
  have hmode := h.mode
  rw [ModeManager.currentMode, hm] at hsys hmode
  rw [hm] at hphase
  cases hphase with
  | @preparing H r _ _ _ _ _ hs hid ht hp hne hWr hVr =>
    subst hid ht hWr hVr
    have hmem : a ∈ r.participants := ha.elim (fun h => r.ready.waiting_subset h)
      (fun h => r.ready.voted_subset h)
    refine ⟨_, h.grow (q := r.reject hp a hmem) (t := [.abort r.id]) rfl ?_ hsys ?_ rfl
      (Round.events_reject hp a hmem) ?_ (Round.orders_reject hp a hmem)⟩
    · refine .stable fun r' hr' => ?_
      rcases List.mem_append.mp hr' with hr' | hr'
      · exact hs r' hr'
      · rw [List.mem_singleton.mp hr']; exact Round.settled_reject hp a hmem
    · exact hmode.trans (mode_concat_congr _ H (Round.not_completed_of_pending hp)
        (Round.not_completed_reject hp a hmem))
    · rw [modeOrders_broadcast, setPhase_broadcasts]; rfl

/-- A participant has committed, and others have not. -/
theorem Refines.committed (h : Refines H s log)
    (hm : s.inner.modes.state = .committing id current target W V) (ha : a ∈ W)
    (hW : W.erase a ≠ ∅)
    (hmodes : s'.inner.modes =
      { s.inner.modes with state := .committing id current target (W.erase a) (insert a V) })
    (hsystem : s'.inner.system.mode = s.inner.system.mode)
    (hsent : modeOrders s'.broadcasts = modeOrders s.broadcasts) :
    ∃ H', Refines H' s' (log ++ [.committed a id target]) := by
  have hphase := h.phase
  have hsys := h.system
  have hmode := h.mode
  rw [ModeManager.currentMode, hm] at hsys hmode
  rw [hm] at hphase
  cases hphase with
  | @committing H r _ _ _ _ _ c hs hid ht hc hu hne hWc hVc =>
    subst hid ht hWc hVc
    have hc' : (r.confirm c hc a ha).decision = .commit (c.cast a ha) := rfl
    have hu' : ¬ (c.cast a ha).Unanimous := by
      rw [Ballot.Unanimous, Ballot.waiting_cast]; exact hW
    refine ⟨_, h.grow (q := r.confirm c hc a ha) (t := []) rfl ?_ ?_ ?_ ?_
      (Round.events_confirm hc a ha) (hsent.trans (List.append_nil _).symm) ?_⟩
    · rw [hmodes]
      exact .committing hs rfl rfl hc' hu' hne (Ballot.waiting_cast c a ha)
        (Ballot.voted_cast c a ha)
    · rw [hsystem, hmodes]
      exact hsys
    · rw [hmodes]
      exact hmode.trans (mode_concat_congr _ H (mt (Round.completed_commit hc).mp hu)
        (mt (Round.completed_commit hc').mp hu'))
    · rw [hmodes]
    · rw [Round.orders_confirm hc a ha, List.append_nil]

/-- The last participant has committed: the round is completed, and the mode is the target. -/
theorem Refines.completed (h : Refines H s log)
    (hm : s.inner.modes.state = .committing id current target W V) (ha : a ∈ W)
    (hW : W.erase a = ∅)
    (hmodes : s'.inner.modes = { s.inner.modes with state := .stable target })
    (hsystem : s'.inner.system.mode = target)
    (hsent : modeOrders s'.broadcasts = modeOrders s.broadcasts) :
    ∃ H', Refines H' s' (log ++ [.committed a id target]) := by
  have hphase := h.phase
  rw [hm] at hphase
  cases hphase with
  | @committing H r _ _ _ _ _ c hs hid ht hc hu hne hWc hVc =>
    subst hid ht hWc hVc
    have hc' : (r.confirm c hc a ha).decision = .commit (c.cast a ha) := rfl
    have hu' : (c.cast a ha).Unanimous := by
      rw [Ballot.Unanimous, Ballot.waiting_cast]; exact hW
    refine ⟨_, h.grow (q := r.confirm c hc a ha) (t := []) rfl ?_ ?_ ?_ ?_
      (Round.events_confirm hc a ha) (hsent.trans (List.append_nil _).symm) ?_⟩
    · rw [hmodes]
      refine .stable fun r' hr' => ?_
      rcases List.mem_append.mp hr' with hr' | hr'
      · exact hs r' hr'
      · rw [List.mem_singleton.mp hr', Round.settled_commit hc']; exact hu'
    · rw [hsystem, hmodes]; rfl
    · rw [hmodes, mode_concat, if_pos ((Round.completed_commit hc').mpr hu')]; rfl
    · rw [hmodes]
    · rw [Round.orders_confirm hc a ha, List.append_nil]

end Votes

/-- **One step of the service is one step of the history**, or none. -/
theorem refines_step {e : Option ProtocolEvent} (hk : Known s.inner) (h : Refines H s log)
    (he : Effect s op e s') : ∃ H', Refines H' s' (log ++ e.toList) := by
  cases e with
  | none =>
    obtain ⟨hm, hs, ho⟩ := none_frame he
    exact ⟨H, by rw [hm]; exact h.phase, by rw [hs, hm]; exact h.system, by rw [hm]; exact h.mode,
      h.ids, by rw [hm]; exact h.next, by rw [h.events]; exact List.append_nil _,
      by rw [ho]; exact h.orders⟩
  | some e =>
    cases he with
    | requested target current hm hne hP =>
      have hphase := h.phase
      rw [hm] at hphase
      cases hphase with
      | stable hs =>
        exact ⟨_, h.open hP hs rfl hne rfl (by rw [ModeManager.currentMode, hm]) rfl
          (modeOrders_broadcast _ _)⟩
    | ready a conn tx id now hc current target W R hm ha hW => exact h.ready hm ha hW
    | prepared a conn tx id now hc current target W R hm ha hW => exact h.prepared hm ha hW
    | rejected a conn tx id reason now hc current target W R hm ha => exact h.rejected hm ha
    | committed a conn tx id mode now hc previous W C hm ha hW status hr =>
      exact h.committed hm ha hW rfl rfl rfl
    | completed a conn tx id mode now hc previous W C hm ha hW status hr =>
      refine h.completed hm ha hW rfl rfl ?_
      unfold broadcastState
      rw [modeOrders_broadcast, setInner_broadcasts]
      exact List.append_nil _
    | unrecorded a conn tx id mode now phase hc hr =>
      exact absurd hr (hk.recorded hc)

/-- **The service refines two-phase histories**: every run from the initial state is accounted
    for by a list of rounds. -/
theorem service_refines (timeout : Duration) (channels : Channels) (ops : List Operation) :
    Known ((SamService.new timeout channels).run ops).inner ∧
      ∃ H, Refines H ((SamService.new timeout channels).run ops)
        ((SamService.new timeout channels).eventLog ops) := by
  refine Machine.history_invariant
    (R := fun ops s => Known s.inner ∧
      ∃ H, Refines H s ((SamService.new timeout channels).eventLog ops)) ?_ ?_ ops
  · exact ⟨known_new timeout channels, [], refines_new timeout channels⟩
  · rintro ops op ⟨hk, H, hR⟩
    refine ⟨known_step hk (step_effect _ op), ?_⟩
    rw [eventLog_concat]
    exact refines_step hk hR (step_effect _ op)

/-! ## Ids -/

theorem nthId_toNat {n : Nat} (hn : n + 1 < 2 ^ 64) : (nthId n).val.toNat = n + 1 :=
  UInt64.toNat_ofNat_of_lt' hn

/-- With fewer than `2 ^ 64` transitions the ids count up. -/
theorem Refines.ids_increasing (h : Refines H s log) (hn : log.countP Event.isRequest < 2 ^ 64) :
    (H.map (·.id)).Pairwise fun i j => i.val.toNat < j.val.toNat := by
  rw [h.events, requests_eq_length] at hn
  rw [h.ids, List.pairwise_map]
  refine List.Pairwise.imp_of_mem ?_ List.pairwise_lt_range
  intro i j hi hj hij
  rw [List.mem_range] at hi hj
  rw [nthId_toNat (by omega), nthId_toNat (by omega)]
  omega

theorem Refines.ids_nodup (h : Refines H s log) (hn : log.countP Event.isRequest < 2 ^ 64) :
    (H.map (·.id)).Nodup :=
  (h.ids_increasing hn).imp fun hlt heq => by rw [heq] at hlt; exact lt_irrefl _ hlt

/-! ## The request of the last round -/

/-- `target` was requested under `id` between `pre` and `post`, and nothing since. -/
structure LastRequest (s : SamService) (ops pre : List Operation) (target : SystemMode)
    (post : List Operation) (id : TransitionId) : Prop where
  split : ops = pre ++ .requestMode target :: post
  granted : ((s.run pre).requestMode target).1 = .ok id
  last : ∀ e ∈ (s.run (pre ++ [.requestMode target])).eventLog post, e.isRequest = false

/-- The state after the request, followed by the rest of the run. -/
theorem LastRequest.run {ops pre post : List Operation} {target : SystemMode} {id : TransitionId}
    (h : LastRequest s ops pre target post id) :
    s.run ops = (s.run (pre ++ [.requestMode target])).run post := by
  rw [h.split, run_append, run_cons, run_concat]

/-- **The last round began with a request**, of the clients at that moment, and what happened
    since are its answers. -/
theorem Refines.lastRequest {ops : List Operation}
    (h : Refines (H ++ [r]) (s.run ops) (s.eventLog ops)) :
    ∃ pre post, LastRequest s ops pre r.target post r.id ∧
      r.participants = (s.run pre).inner.clients.keys.toFinset ∧
      s.eventLog pre = TwoPhase.events H ∧
      (s.run (pre ++ [.requestMode r.target])).eventLog post = r.answers := by
  have hlog := h.events
  rw [events_concat] at hlog
  obtain ⟨pre, op, post, hops, hpre, hev, hpost⟩ := Machine.log_split hlog
  obtain ⟨rfl, hid, hP⟩ := event_requested hev
  have hpost' : (s.run (pre ++ [.requestMode r.target])).eventLog post = r.answers := by
    rw [run_concat]; exact hpost
  refine ⟨pre, post, ⟨hops, hid, ?_⟩, hP, hpre, hpost'⟩
  rw [hpost']
  exact fun e he => Round.not_isRequest_answers he

end Sam
