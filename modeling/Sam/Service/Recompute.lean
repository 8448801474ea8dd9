import Sam.Service.Refusal
import Sam.Service.SystemHealth

/-!
# When the stored health is recalculated

The health `snapshot` reports is a stored value; `recalculate_health` is called by registrations,
disconnections, heartbeats, refreshes and the last commit of a transition.

* `recomputes` — the time at which an operation calls it; then the health stored is the worst
  effective health of that time (`recomputed_step`), otherwise it stays what it was
  (`not_recomputed_step`).
* `Updates` — the operations that change the registry or the mode; all of them recalculate but the
  commits before the last (`updates_recomputes`).
* `fresh_iff` — exactly when the health is up to date after an update; `commit_outdates` — a commit
  after which it is not.
-/

namespace Sam

namespace SamService

/-- The time at which an operation recalculates the health, if it does. -/
def recomputes (s : SamService) : Operation → Option Instant
  | .register _ _ now | .refreshHealth now => some now
  | .disconnect application connectionId now =>
    match verifyConnection s.inner application connectionId with
    | .ok () => some now
    | .error _ => none
  | .handleMessage registered connectionId (.heartbeat application health mode) now =>
    match (s.handleMessage registered connectionId (.heartbeat application health mode) now).1 with
    | .ok () => some now
    | .error _ => none
  | .handleMessage registered connectionId (.modeCommitted application id mode) now =>
    match (s.handleMessage registered connectionId (.modeCommitted application id mode) now).1,
      (s.inner.modes.applicationCommitted application id mode).1 with
    | .ok (), .ok (some _) => some now
    | _, _ => none
  | _ => none

/-- The stored health is the worst effective health of the applications at `now`. -/
def Recomputed (s : SamService) (now : Instant) : Prop :=
  s.inner.system.health =
    worst (s.inner.applications.iter.map fun e => effectiveHealth s.inner now e.2)

variable {s : SamService} {op : Operation} {now : Instant} {a b : ApplicationId}
  {conn : ConnectionId} {tx : Sender}

theorem recomputed_of_inner (state : ServiceState) (h : s.inner = recalculateHealth state now) :
    Recomputed s now := by
  unfold Recomputed
  rw [h]
  exact recalculateHealth_eq_worst state now

theorem recomputed_register (a : ApplicationId) (tx : Sender) (now : Instant) :
    Recomputed (s.step (.register a tx now)) now := by
  have he := step_effect s (.register a tx now)
  generalize s.step (.register a tx now) = s' at he
  cases he with
  | idle _ hop => cases hop
  | registered => exact recalculateHealth_eq_worst _ now
  | unregistered => exact recomputed_of_inner _ rfl

theorem disconnect_step (hc : s.inner.clients.lookup a = some ⟨conn, tx⟩) (now : Instant) :
    s.step (.disconnect a conn now) =
      (s.setInner (recalculateHealth
        { s.inner with
          clients := s.inner.clients.erase a
          applications := (s.inner.applications.markDisconnected a).2 } now)).broadcastState := by
  unfold step disconnect
  simp only [hc, Option.any_some, decide_true, Bool.not_true, Bool.false_eq_true, if_false]
  rfl

theorem disconnect_stale {e : ServiceError} (hv : verifyConnection s.inner a conn = .error e)
    (now : Instant) : s.disconnect a conn now = (.ok (), s) := by
  have hany : (s.inner.clients.lookup a).any (fun client => client.id = conn) = false := by
    unfold verifyConnection at hv
    split at hv
    · cases hv
    · rename_i h
      exact Bool.not_eq_true _ ▸ h
  unfold disconnect
  simp only [hany, Bool.not_false, if_true]

/-- Messages that are no heartbeat and no commit leave the registry and the system state alone. -/
theorem kept_of_message {s' : SamService} {message : ApplicationToSam} {e : Option ProtocolEvent}
    (he : Effect s (.handleMessage a conn message now) e s')
    (hh : ∀ b health mode, message ≠ .heartbeat b health mode)
    (hm : ∀ b id mode, message ≠ .modeCommitted b id mode) :
    s'.inner.applications = s.inner.applications ∧ s'.inner.system = s.inner.system := by
  cases he with
  | heartbeat => exact absurd rfl (hh _ _ _)
  | committed | completed => exact absurd rfl (hm _ _ _)
  | idle | ready | prepared | rejected | unrecorded => exact ⟨rfl, rfl⟩

/-- **A message either leaves the health up to date, or as it was.** -/
theorem handleMessage_recomputes (hk : Known s.inner) (a : ApplicationId) (conn : ConnectionId)
    (message : ApplicationToSam) (now : Instant) :
    (∃ t, s.recomputes (.handleMessage a conn message now) = some t ∧
        Recomputed (s.step (.handleMessage a conn message now)) t) ∨
      s.recomputes (.handleMessage a conn message now) = none ∧
        (s.step (.handleMessage a conn message now)).inner.system = s.inner.system := by
  cases hv : verifyConnection s.inner a conn with
  | error e =>
    refine .inr ?_
    rw [step_handleMessage]
    unfold recomputes
    cases message <;> simp only [handleMessage_unverified_eq hv, and_self]
  | ok =>
    obtain ⟨tx, hc⟩ := verifyConnection_ok.mp hv
    cases message with
    | register | modeReady | modeRejected =>
      exact .inr ⟨rfl, (kept_of_message (step_effect s _) (by simp) (by simp)).2⟩
    | heartbeat b health mode =>
      rcases heartbeat_cases now hc (b := b) health mode with ⟨e, h⟩ | ⟨status, -, -, h⟩
      · exact .inr ⟨by unfold recomputes; simp only [h], by rw [step_handleMessage, h]⟩
      · refine .inl ⟨now, by unfold recomputes; simp only [h], ?_⟩
        rw [step_handleMessage, h]
        apply recomputed_of_inner _
        exact announce_inner _ _
    | modeCommitted b id mode =>
      rcases modeCommitted_cases now hc (b := b) hk id mode with
        ⟨e, h⟩ | ⟨rfl, ⟨e, hm⟩, h⟩ | ⟨status, previous, W, C, rfl, -, -, -, ⟨-, hm, h⟩ | ⟨-, hm, h⟩⟩
      · exact .inr ⟨by unfold recomputes; simp only [h], by rw [step_handleMessage, h]⟩
      · exact .inr ⟨by unfold recomputes; simp only [h, hm], by rw [step_handleMessage, h]⟩
      · exact .inr ⟨by unfold recomputes; simp only [h, hm], by rw [step_handleMessage, h]; rfl⟩
      · refine .inl ⟨now, by unfold recomputes; simp only [h, hm], ?_⟩
        rw [step_handleMessage, h]
        exact recomputed_of_inner _ rfl

/-- **An operation either leaves the health up to date, or as it was.** -/
theorem recomputes_cases (hk : Known s.inner) (op : Operation) :
    (∃ now, s.recomputes op = some now ∧ Recomputed (s.step op) now) ∨
      s.recomputes op = none ∧ (s.step op).inner.system = s.inner.system := by
  cases op with
  | register a tx now => exact .inl ⟨now, rfl, recomputed_register a tx now⟩
  | refreshHealth now =>
    refine .inl ⟨now, rfl, recomputed_of_inner s.inner ?_⟩
    unfold step refreshHealth
    dsimp only
    split
    · rfl
    · rfl
  | disconnect a conn now =>
    cases hv : verifyConnection s.inner a conn with
    | ok =>
      obtain ⟨tx, hc⟩ := verifyConnection_ok.mp hv
      refine .inl ⟨now, by unfold recomputes; simp only [hv], ?_⟩
      rw [disconnect_step hc]
      exact recomputed_of_inner _ rfl
    | error e =>
      refine .inr ⟨by unfold recomputes; simp only [hv], ?_⟩
      show (s.disconnect a conn now).2.inner.system = s.inner.system
      rw [disconnect_stale hv]
  | handleMessage a conn message now => exact handleMessage_recomputes hk a conn message now
  | requestMode target =>
    refine .inr ⟨rfl, ?_⟩
    have he := step_effect s (.requestMode target)
    generalize s.step _ = s', s.event _ = e at he
    cases he <;> rfl
  | receive tx => exact .inr ⟨rfl, rfl⟩
  | dropReceiver tx => exact .inr ⟨rfl, rfl⟩

/-! ## Updates of the registry and the mode -/

/-- A commit that is accepted but is not the last one awaited. -/
def EarlyCommit (s : SamService) : Operation → Prop
  | .handleMessage registered connectionId (.modeCommitted application id mode) now =>
    (s.handleMessage registered connectionId (.modeCommitted application id mode) now).1 = .ok () ∧
      (s.inner.modes.applicationCommitted application id mode).1 = .ok none
  | _ => False

/-- The operation returns `Ok` and updates the registry or the mode at `now`: a registration, the
    end of a connection, a heartbeat or an accepted commit. -/
def Updates (s : SamService) (now : Instant) : Operation → Prop
  | .register application outbound t =>
    t = now ∧ ∃ id, (s.register application outbound t).1 = .ok id
  | .disconnect application connectionId t =>
    t = now ∧ verifyConnection s.inner application connectionId = .ok ()
  | .handleMessage registered connectionId (.heartbeat application health mode) t =>
    t = now ∧
      (s.handleMessage registered connectionId (.heartbeat application health mode) t).1 = .ok ()
  | .handleMessage registered connectionId (.modeCommitted application id mode) t =>
    t = now ∧
      (s.handleMessage registered connectionId (.modeCommitted application id mode) t).1 = .ok () ∧
      ∃ event, (s.inner.modes.applicationCommitted application id mode).1 = .ok event
  | _ => False

/-- All updates recalculate the health, except an early commit. -/
theorem updates_recomputes (h : s.Updates now op) :
    s.recomputes op = some now ∨ s.EarlyCommit op := by
  cases op with
  | register a tx t => exact .inl (by rw [← h.1]; rfl)
  | disconnect a conn t =>
    obtain ⟨rfl, hv⟩ := h
    exact .inl (by unfold recomputes; simp only [hv])
  | handleMessage a conn message t =>
    cases message with
    | heartbeat b health mode =>
      obtain ⟨rfl, hok⟩ := h
      exact .inl (by unfold recomputes; simp only [hok])
    | modeCommitted b id mode =>
      obtain ⟨rfl, hok, event, hm⟩ := h
      cases event with
      | none => exact .inr ⟨hok, hm⟩
      | some event => exact .inl (by unfold recomputes; simp only [hok, hm])
    | _ => cases h
  | _ => cases h

/-- The health is up to date after an operation that recalculates it. -/
theorem recomputed_step (hk : Known s.inner) (h : s.recomputes op = some now) :
    Recomputed (s.step op) now := by
  rcases recomputes_cases hk op with ⟨t, ht, hrec⟩ | ⟨hnone, -⟩
  · rw [h] at ht
    cases ht
    exact hrec
  · rw [h] at hnone
    cases hnone

theorem not_recomputed_step (hk : Known s.inner) (h : s.recomputes op = none) :
    (s.step op).inner.system = s.inner.system := by
  rcases recomputes_cases hk op with ⟨t, ht, -⟩ | ⟨-, hsys⟩
  · rw [h] at ht
    cases ht
  · exact hsys

/-- **Nothing else changes the registry or the mode**, except a registration that fails. -/
theorem updates_of_changed (hk : Known s.inner)
    (h : (∃ b, (s.step op).inner.applications.get b ≠ s.inner.applications.get b) ∨
      (s.step op).inner.system.mode ≠ s.inner.system.mode) :
    (∃ now, s.Updates now op) ∨
      ∃ a tx now e, op = .register a tx now ∧ (s.register a tx now).1 = .error e := by
  -- an operation that leaves the registry and the mode alone changes neither
  have hkept : (s.step op).inner.applications = s.inner.applications →
      (s.step op).inner.system.mode = s.inner.system.mode → False := by
    intro happs hmode
    rcases h with ⟨b, hb⟩ | hne
    · exact hb (by rw [happs])
    · exact hne hmode
  cases op with
  | register a tx now =>
    cases hr : (s.register a tx now).1 with
    | ok id => exact .inl ⟨now, rfl, id, hr⟩
    | error e => exact .inr ⟨a, tx, now, e, rfl, hr⟩
  | disconnect a conn now =>
    cases hv : verifyConnection s.inner a conn with
    | ok => exact .inl ⟨now, rfl, hv⟩
    | error e =>
      have heq : s.step (.disconnect a conn now) = s := congrArg Prod.snd (disconnect_stale hv now)
      rw [heq] at hkept
      exact (hkept rfl rfl).elim
  | handleMessage a conn message now =>
    refine .inl ⟨now, ?_⟩
    cases hv : verifyConnection s.inner a conn with
    | error e =>
      have heq : s.step (.handleMessage a conn message now) = s :=
        congrArg Prod.snd (handleMessage_unverified_eq hv message)
      rw [heq] at hkept
      exact (hkept rfl rfl).elim
    | ok =>
      obtain ⟨tx, hc⟩ := verifyConnection_ok.mp hv
      cases message with
      | register | modeReady | modeRejected =>
        refine (hkept ?_ (congrArg _ ?_)).elim
        · exact (kept_of_message (step_effect s _) (by simp) (by simp)).1
        · exact (kept_of_message (step_effect s _) (by simp) (by simp)).2
      | heartbeat b health mode =>
        rcases heartbeat_cases now hc (b := b) health mode with ⟨e, h⟩ | ⟨status, -, -, h⟩
        · rw [step_handleMessage, h] at hkept
          exact (hkept rfl rfl).elim
        · exact ⟨rfl, by rw [h]⟩
      | modeCommitted b id mode =>
        rcases modeCommitted_cases now hc (b := b) hk id mode with
          ⟨e, h⟩ | ⟨rfl, ⟨e, hm⟩, h⟩ |
            ⟨status, previous, W, C, rfl, -, -, -, ⟨-, hm, h⟩ | ⟨-, hm, h⟩⟩
        · rw [step_handleMessage, h] at hkept
          exact (hkept rfl rfl).elim
        · rw [step_handleMessage, h] at hkept
          exact (hkept rfl rfl).elim
        · exact ⟨rfl, by rw [h], _, hm⟩
        · exact ⟨rfl, by rw [h], _, hm⟩
  | requestMode target =>
    have he := step_effect s (.requestMode target)
    generalize s.step _ = s', s.event _ = e at he hkept
    cases he with
    | idle | requested => exact (hkept rfl rfl).elim
  | refreshHealth now =>
    have he := step_effect s (.refreshHealth now)
    generalize s.step _ = s', s.event _ = e at he hkept
    cases he with
    | idle => exact (hkept rfl rfl).elim
    | refreshed => rw [announce_inner] at hkept; exact (hkept rfl rfl).elim
  | receive tx => exact (hkept rfl rfl).elim
  | dropReceiver tx => exact (hkept rfl rfl).elim

/-! ## The health after an early commit -/

/-- Every client is shown as connected. -/
def Present (state : ServiceState) : Prop :=
  ∀ a client, state.clients.lookup a = some client →
    ∃ status, state.applications.get a = some status ∧ status.connected = true

theorem Present.modify {state : ServiceState} (h : Present state) (a : ApplicationId)
    {f : ApplicationStatus → ApplicationStatus}
    (hf : ∀ status, status.connected = true → (f status).connected = true) :
    Present { state with applications := (state.applications.modify a f).2 } := by
  intro b client hb
  obtain ⟨status, hs, hcon⟩ := h b client hb
  rw [ApplicationRegistry.get_modify]
  split
  · rename_i hba
    subst hba
    exact ⟨f status, by rw [hs]; rfl, hf status hcon⟩
  · exact ⟨status, hs, hcon⟩

theorem present_enroll {state : ServiceState} (h : Present state)
    (hb : b = a ∨ ∃ client, state.clients.lookup b = some client) :
    ∃ status, (state.enroll a now).applications.get b = some status ∧ status.connected = true := by
  unfold ServiceState.enroll
  rw [recalculateHealth_applications, ApplicationRegistry.get_register]
  split
  · exact ⟨.new now, rfl, rfl⟩
  · rename_i hba
    obtain ⟨client, hlook⟩ := hb.resolve_left hba
    exact h b client hlook

theorem present_step {s' : SamService} {e : Option ProtocolEvent} (h : Present s.inner)
    (he : Effect s op e s') : Present s'.inner := by
  cases he with
  | registered a tx now =>
    intro b client hb
    by_cases hba : b = a
    · exact present_enroll h (.inl hba)
    · exact present_enroll h (.inr ⟨client, (AList.lookup_insert_ne hba).symm.trans hb⟩)
  | unregistered a tx now => exact fun b client hb => present_enroll h (.inr ⟨client, hb⟩)
  | disconnected a conn tx now =>
    intro b client hb
    change (s.inner.clients.erase a).lookup b = some client at hb
    by_cases hba : b = a
    · subst hba
      rw [AList.lookup_erase] at hb
      cases hb
    · rw [AList.lookup_erase_ne hba] at hb
      obtain ⟨status, hs, hcon⟩ := h b client hb
      refine ⟨status, ?_, hcon⟩
      show (s.inner.applications.markDisconnected a).2.get b = some status
      rw [ApplicationRegistry.markDisconnected, ApplicationRegistry.get_modify, if_neg hba]
      exact hs
  | heartbeat a conn tx health mode now =>
    rw [announce_inner]
    exact h.modify a fun _ _ => rfl
  | committed a => exact h.modify a fun _ hcon => hcon
  | completed a => exact h.modify a fun _ hcon => hcon
  | refreshed => rw [announce_inner]; exact h
  | idle | ready | prepared | rejected | unrecorded | requested | received | receiverDropped =>
    exact h

theorem present_run (timeout : Duration) (channels : Channels) (ops : List Operation) :
    Present ((SamService.new timeout channels).run ops).inner := by
  refine Machine.history_invariant (R := fun _ (s : SamService) => Present s.inner) ?_
    (fun _ op h => present_step h (step_effect _ op)) ops
  intro a client h
  cases h

/-- A base health does not depend on the mode. -/
theorem calculate_setMode (m : HealthManager) (r : ApplicationRegistry) (a : ApplicationId)
    (mode : SystemMode) (now : Instant) :
    m.calculate (r.setMode a mode).2 now = m.calculate r now := by
  rw [HealthManager.calculate_eq_worst, HealthManager.calculate_eq_worst]
  refine worst_iter_congr (f := fun status => m.calculateApplication status now)
    (g := fun status => m.calculateApplication status now) fun b => ?_
  rw [ApplicationRegistry.setMode, ApplicationRegistry.get_modify]
  split
  · rename_i hba
    rw [hba]
    cases r.get a <;> rfl
  · rfl

/-- After an early commit the committer's mode differs from the system's, so the worst effective
    health is at least `Degraded`; the stored health is the one before. -/
theorem earlyCommit_recomputed (hk : Known s.inner) (hp : Present s.inner)
    (hphase : ∀ id previous target W C,
      s.inner.modes.state = .committing id previous target W C →
        previous ≠ target ∧ s.inner.system.mode = previous)
    {registered : ApplicationId} {message : ApplicationToSam}
    (h : s.EarlyCommit (.handleMessage registered conn message now)) :
    Recomputed (s.step (.handleMessage registered conn message now)) now ↔
      s.inner.system.health =
        max .degraded (s.inner.health.calculate s.inner.applications now) := by
  cases message with
  | modeCommitted b id mode =>
    obtain ⟨hok, hm⟩ := h
    cases hv : verifyConnection s.inner registered conn with
    | error e =>
      rw [handleMessage_unverified_eq hv] at hok
      cases hok
    | ok =>
      obtain ⟨tx, hc⟩ := verifyConnection_ok.mp hv
      rcases modeCommitted_cases now hc (b := b) hk id mode with
        ⟨e, h⟩ | ⟨rfl, ⟨e, he⟩, h⟩ |
          ⟨status, previous, W, C, rfl, hr, hstate, -, ⟨-, -, h⟩ | ⟨-, hcomplete, h⟩⟩
      · rw [h] at hok
        cases hok
      · rw [he] at hm
        cases hm
      · obtain ⟨hne, hmode⟩ := hphase _ _ _ _ _ hstate
        obtain ⟨status', hr', hcon⟩ := hp b _ hc
        -- the committer's own row is the mismatch
        have hany : ((s.inner.applications.setMode b mode).2.iter.any fun e =>
            e.2.connected && e.2.currentMode != s.inner.system.mode) = true := by
          rw [List.any_eq_true]
          refine ⟨(b, { status' with currentMode := mode }), mem_iter.mpr ?_, ?_⟩
          · rw [ApplicationRegistry.setMode, ApplicationRegistry.get_modify, if_pos rfl, hr']
            rfl
          · simpa [hcon, hmode] using hne.symm
        unfold Recomputed
        rw [worst_effectiveHealth, step_handleMessage, h]
        show s.inner.system.health =
            max (s.inner.health.calculate (s.inner.applications.setMode b mode).2 now)
              (if ((s.inner.applications.setMode b mode).2.iter.any fun e =>
                e.2.connected && e.2.currentMode != s.inner.system.mode) = true
              then .degraded else .healthy) ↔ _
        rw [hany, if_pos rfl, calculate_setMode, max_comm]
      · rw [hcomplete] at hm
        cases hm
  | _ => cases h

end SamService

open SamService

/-- **Exactly when the health is up to date after an update**: the operation is not an early
    commit, or the health stored before was the one an early commit leaves. -/
theorem fresh_iff (timeout : Duration) (channels : Channels) (ops : List Operation)
    (op : Operation) (now : Instant)
    (h : ((SamService.new timeout channels).run ops).Updates now op) :
    let s := (SamService.new timeout channels).run ops
    let s' := s.step op
    s'.snapshot.health = worst ((s'.applications now).map (·.effectiveHealth)) ↔
      ¬ s.EarlyCommit op ∨
        s.snapshot.health = max .degraded (s.inner.health.calculate s.inner.applications now) := by
  intro s s'
  obtain ⟨hk, H, hR⟩ := service_refines timeout channels ops
  rw [worst_applications]
  show Recomputed (s.step op) now ↔ _
  by_cases hearly : s.EarlyCommit op
  · have hphase : ∀ id previous target W C,
        s.inner.modes.state = .committing id previous target W C →
          previous ≠ target ∧ s.inner.system.mode = previous := by
      intro id previous target W C hstate
      have hphase := hR.phase
      have hsys := hR.system
      rw [ModeManager.currentMode, hstate] at hsys
      rw [hstate] at hphase
      cases hphase with
      | committing hs hid ht hc hu hne => exact ⟨hne, hsys⟩
    cases op with
    | handleMessage a conn message t =>
      have ht : t = now := by
        cases message with
        | modeCommitted b id mode => exact h.1
        | _ => cases hearly
      subst ht
      rw [earlyCommit_recomputed hk (present_run timeout channels ops) hphase hearly]
      exact ⟨.inr, fun h => h.resolve_left (not_not.mpr hearly)⟩
    | _ => cases hearly
  · have hrec := (updates_recomputes h).resolve_right hearly
    exact ⟨fun _ => .inl hearly, fun _ => recomputed_step hk hrec⟩

/-- Navigation commits early, but guidance has reported itself `Degraded` before: the stored health
    is up to date all the same. -/
theorem fresh_iff_degraded :
    let s := Demo.service.run
      [.register Demo.navigation ⟨0⟩ 0, .register Demo.guidance ⟨1⟩ 0, .requestMode .standby,
        .handleMessage Demo.navigation ⟨1⟩ (.modeReady Demo.navigation ⟨1⟩) 1,
        .handleMessage Demo.guidance ⟨2⟩ (.modeReady Demo.guidance ⟨1⟩) 1,
        .handleMessage Demo.guidance ⟨2⟩ (.heartbeat Demo.guidance .degraded .startup) 1]
    let op : Operation :=
      .handleMessage Demo.navigation ⟨1⟩ (.modeCommitted Demo.navigation ⟨1⟩ .standby) 2
    s.Updates 2 op ∧ s.EarlyCommit op ∧ s.snapshot.health = .degraded ∧
      (s.step op).snapshot.health = worst
        (((s.step op).applications 2).map (·.effectiveHealth)) := by
  intro s op
  have hupdate : s.Updates 2 op := ⟨rfl, by decide, none, by decide⟩
  refine ⟨hupdate, ⟨by decide, by decide⟩, by decide, ?_⟩
  exact (fresh_iff 2000000000 (fun _ => Channel.new OUTBOUND_QUEUE_DEPTH) _ op 2 hupdate).mpr
    (.inr (by decide))

/-- **An early commit outdates the health**: it stays `Healthy` while the committer, already in
    another mode than the system, counts as `Degraded`. -/
theorem commit_outdates :
    ¬ ∀ (timeout : Duration) (channels : Channels) (ops : List Operation) (op : Operation)
      (now : Instant),
      let s := (SamService.new timeout channels).run ops
      let s' := s.step op
      s.Updates now op → (∃ b, s'.inner.applications.get b ≠ s.inner.applications.get b) →
      s'.snapshot.health = worst ((s'.applications now).map (·.effectiveHealth)) := by
  intro h
  have hfresh := h 2000000000 (fun _ => Channel.new OUTBOUND_QUEUE_DEPTH)
    [.register Demo.navigation ⟨0⟩ 0, .register Demo.guidance ⟨1⟩ 0, .requestMode .standby,
      .handleMessage Demo.navigation ⟨1⟩ (.modeReady Demo.navigation ⟨1⟩) 1,
      .handleMessage Demo.guidance ⟨2⟩ (.modeReady Demo.guidance ⟨1⟩) 1]
    (.handleMessage Demo.navigation ⟨1⟩ (.modeCommitted Demo.navigation ⟨1⟩ .standby) 2) 2
    ⟨rfl, by decide, none, by decide⟩ ⟨Demo.navigation, by decide⟩
  rw [worst_applications] at hfresh
  exact absurd hfresh (by decide)

end Sam
