import Sam.Service.History

/-!
# Who decides the system mode

* `stranger_ignored` — a message from a connection that is not the sender's current one, or in
  another application's name, changes nothing at all.
* `mode_changes` — the mode changes only when the last outstanding confirmation is accepted.
* `mode_authority` — and then everybody connected at the request has been counted ready once
  and, after the last of these votes, been counted committed once.
-/

namespace Sam

open SamService TwoPhase

variable {s s' : SamService} {op : Operation} {e : Option ProtocolEvent}

/-- A message with any effect came from the current connection of the application it names. -/
theorem effect_source (h : Effect s op e s') {a : ApplicationId} {conn : ConnectionId}
    {message : ApplicationToSam} {now : Instant} (hop : op = .handleMessage a conn message now)
    (hne : s' ≠ s) : s.FromCurrent op a message ∧ message.application = a := by
  subst hop
  cases h with
  | idle => exact absurd rfl hne
  | heartbeat _ _ tx _ _ _ hc => exact ⟨⟨conn, tx, now, rfl, hc⟩, rfl⟩
  | ready _ _ tx _ _ hc => exact ⟨⟨conn, tx, now, rfl, hc⟩, rfl⟩
  | prepared _ _ tx _ _ hc => exact ⟨⟨conn, tx, now, rfl, hc⟩, rfl⟩
  | rejected _ _ tx _ _ _ hc => exact ⟨⟨conn, tx, now, rfl, hc⟩, rfl⟩
  | committed _ _ tx _ _ _ hc => exact ⟨⟨conn, tx, now, rfl, hc⟩, rfl⟩
  | completed _ _ tx _ _ _ hc => exact ⟨⟨conn, tx, now, rfl, hc⟩, rfl⟩
  | unrecorded _ _ tx _ _ _ _ hc => exact ⟨⟨conn, tx, now, rfl, hc⟩, rfl⟩

/-- **A message from any other connection, or in another name, changes nothing.** -/
theorem stranger_ignored (s : SamService) {a : ApplicationId} {conn : ConnectionId}
    {message : ApplicationToSam} {now : Instant}
    (h : (∀ tx, s.inner.clients.lookup a ≠ some ⟨conn, tx⟩) ∨ message.application ≠ a) :
    s.step (.handleMessage a conn message now) = s := by
  by_contra hne
  obtain ⟨⟨conn', tx, now', hop, hc⟩, hname⟩ := effect_source (step_effect s _) rfl hne
  cases hop
  exact h.elim (fun h => h tx hc) (fun h => h hname)

/-- The mode changes only by accepting the last confirmation awaited. -/
theorem mode_changes (h : Effect s op e s') (hne : s'.inner.system.mode ≠ s.inner.system.mode) :
    ∃ a id previous W C, s.FromCurrent op a (.modeCommitted a id s'.inner.system.mode) ∧
      e = some (.committed a id s'.inner.system.mode) ∧
      s.inner.modes.state = .committing id previous s'.inner.system.mode W C ∧
      a ∈ W ∧ W.erase a = ∅ := by
  cases h with
  | completed a conn tx id mode now hc previous W C hm ha hW =>
    exact ⟨a, id, previous, W, C, ⟨conn, tx, now, rfl, hc⟩, rfl, hm, ha, hW⟩
  | heartbeat | refreshed => rw [announce_inner] at hne; exact absurd rfl hne
  | idle | registered | unregistered | disconnected | ready | prepared | rejected | committed
  | unrecorded | requested | received | receiverDropped => exact absurd rfl hne

/-- **A mode change completes the last round**: it is committed, and the step is the last
    confirmation awaited. -/
theorem completed_round {H : List Transition} {log : List ProtocolEvent} (hR : Refines H s log)
    (he : Effect s op e s') (hne : s'.inner.system.mode ≠ s.inner.system.mode) :
    ∃ H', ∃ r : Transition, ∃ a, ∃ c : Ballot r.participants, H = H' ++ [r] ∧
      r.decision = .commit c ∧ a ∈ c.waiting ∧ c.waiting.erase a = ∅ ∧
      e = some (.committed a r.id r.target) ∧ r.target = s'.inner.system.mode := by
  obtain ⟨a, id, previous, W, C, -, hev, hm, ha, hW⟩ := mode_changes he hne
  have hphase := hR.phase
  rw [hm] at hphase
  generalize s'.inner.system.mode = m at hphase hev ⊢
  cases hphase with
  | @committing H r _ _ _ _ _ c hs hid ht hc hu hne hWc hCc =>
    subst hid ht hWc
    exact ⟨H, r, a, c, rfl, hc, ha, hW, hev, rfl⟩

/-- Everybody connected when `m` was last requested has since, and before or with the step `op`,
    been counted ready once and then, all being ready, been counted committed once; nothing else
    has been counted, and `op` is the last of the confirmations. -/
def Authorised (s : SamService) (ops : List Operation) (op : Operation) (m : SystemMode) : Prop :=
  ∃ pre post id last, ∃ ready committed : List ApplicationId,
    LastRequest s ops pre m post id ∧
    (s.run pre).inner.clients.keys.toFinset.Nonempty ∧
    (s.run (pre ++ [.requestMode m])).eventLog (post ++ [op]) =
      ready.map (.ready · id) ++ committed.map (.committed · id m) ∧
    ready.Nodup ∧ ready.toFinset = (s.run pre).inner.clients.keys.toFinset ∧
    committed.Nodup ∧ committed.toFinset = (s.run pre).inner.clients.keys.toFinset ∧
    committed.getLast? = some last ∧ (s.run ops).FromCurrent op last (.modeCommitted last id m)

/-- A committed round whose last participant is being counted authorises its target. -/
theorem authorised_of_refines {ops : List Operation} {H : List Transition} {r : Transition}
    (h : Refines (H ++ [r]) (s.run ops) (s.eventLog ops)) {c : Ballot r.participants}
    (hc : r.decision = .commit c) {a : ApplicationId} (ha : a ∈ c.waiting)
    (hlast : c.waiting.erase a = ∅)
    (hev : (s.run ops).event op = some (.committed a r.id r.target)) :
    Authorised s ops op r.target := by
  obtain ⟨pre, post, hreq, hP, -, hlog⟩ := h.lastRequest
  have hall : (c.cast a ha).Unanimous := by rw [Ballot.Unanimous, Ballot.waiting_cast]; exact hlast
  have hready := Ballot.unanimous_iff.mp (Round.unanimous_of_commit hc)
  refine ⟨pre, post, r.id, a, r.ready.votes, c.votes ++ [a], hreq, ?_, ?_, r.ready.nodup, ?_,
    (c.cast a ha).nodup, ?_, by simp, event_committed hev⟩
  · rw [← hP]; exact r.nonempty
  · rw [eventLog_concat, hlog, ← hreq.run, hev, Round.answers_commit hc, List.append_assoc,
      List.map_append]
    rfl
  · rw [← hP]; exact hready
  · rw [← hP]; exact Ballot.unanimous_iff.mp hall

/-- **The authority of the system mode.**  Against arbitrary clients, a step that changes the mode
    is the last confirmation of a transition everybody agreed to and committed; each vote counted
    came from its voter's current connection, and messages of anybody else change nothing. -/
theorem mode_authority (timeout : Duration) (channels : Channels) (ops : List Operation)
    (op : Operation) :
    let s := SamService.new timeout channels
    ((s.run (ops ++ [op])).snapshot.mode ≠ (s.run ops).snapshot.mode →
      Authorised s ops op (s.run (ops ++ [op])).snapshot.mode) ∧
    (∀ a id, (s.run ops).event op = some (.ready a id) →
      (s.run ops).FromCurrent op a (.modeReady a id)) ∧
    (∀ a id m, (s.run ops).event op = some (.committed a id m) →
      (s.run ops).FromCurrent op a (.modeCommitted a id m)) ∧
    (∀ a conn message now, op = .handleMessage a conn message now →
      (∀ tx, (s.run ops).inner.clients.lookup a ≠ some ⟨conn, tx⟩) ∨ message.application ≠ a →
      s.run (ops ++ [op]) = s.run ops) := by
  intro s
  rw [run_concat]
  refine ⟨fun hne => ?_, fun a id => event_ready, fun a id m => event_committed, ?_⟩
  · obtain ⟨-, H, hR⟩ := service_refines timeout channels ops
    obtain ⟨H', r, a, c, rfl, hc, ha, hW, hev, ht⟩ := completed_round hR (step_effect _ op) hne
    show Authorised s ops op ((s.run ops).step op).inner.system.mode
    rw [← ht]
    exact authorised_of_refines hR hc ha hW hev
  · rintro a conn message now rfl h
    exact stranger_ignored _ h

/-- Two applications move the system to `Standby`, guidance with the last confirmation; the same
    confirmation from a connection it never had moves nothing. -/
theorem mode_authority_demo :
    let ops : List Operation :=
      [.register Demo.navigation ⟨0⟩ 0, .register Demo.guidance ⟨1⟩ 0, .requestMode .standby,
        .handleMessage Demo.guidance ⟨2⟩ (.modeReady Demo.guidance ⟨1⟩) 1,
        .handleMessage Demo.navigation ⟨1⟩ (.modeReady Demo.navigation ⟨1⟩) 1,
        .handleMessage Demo.navigation ⟨1⟩ (.modeCommitted Demo.navigation ⟨1⟩ .standby) 2]
    let confirmed (conn : ConnectionId) : Operation :=
      .handleMessage Demo.guidance conn (.modeCommitted Demo.guidance ⟨1⟩ .standby) 2
    Authorised Demo.service ops (confirmed ⟨2⟩) .standby ∧
      Demo.service.run (ops ++ [confirmed ⟨3⟩]) = Demo.service.run ops := by
  intro ops confirmed
  refine ⟨(mode_authority _ _ _ _).1 (by decide), ?_⟩
  refine (mode_authority _ _ _ _).2.2.2 _ _ _ _ rfl (.inl fun tx hlook => ?_)
  have hconn : (Demo.service.run ops).inner.clients.lookup Demo.guidance = some ⟨⟨2⟩, ⟨1⟩⟩ := by
    decide
  rw [← Demo.service, hconn] at hlook
  cases hlook

end Sam
