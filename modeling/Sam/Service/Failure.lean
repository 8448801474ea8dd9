import Sam.Service.Recompute

/-!
# A failed application is not masked

* `Failed` — disconnected, last reported `Failed`, or silent for longer than the timeout; as time
  passes a failed application stays failed (`Failed.mono`).
* `Revives` — the operations of the application itself that may end this: `register` and an
  accepted heartbeat.
* `shown_step`, `shown_run` — until then the stored health is `Failed`, whatever else happens.
-/

namespace Sam

/-- The time an operation carries. -/
def Operation.time? : Operation → Option Instant
  | .register _ _ now | .disconnect _ _ now | .handleMessage _ _ _ now | .refreshHealth now =>
    some now
  | .requestMode _ | .receive _ | .dropReceiver _ => none

namespace SamService

/-- An application is disconnected, last reported `Failed`, or silent for longer than the timeout
    at `now`. -/
def Failed (s : SamService) (a : ApplicationId) (now : Instant) : Prop :=
  ∃ status, s.inner.applications.get a = some status ∧
    (status.connected = false ∨ status.health = .failed ∨
      s.inner.health.heartbeatTimeout < now.saturatingDurationSince status.lastHeartbeat)

/-- `a` itself registers, or a heartbeat of it is accepted. -/
def Revives (s : SamService) (a : ApplicationId) : Operation → Prop
  | .register application _ _ => application = a
  | .handleMessage registered connectionId (.heartbeat application health mode) now =>
    registered = a ∧
      (s.handleMessage registered connectionId (.heartbeat application health mode) now).1 = .ok ()
  | _ => False

theorem calculateApplication_failed (m : HealthManager) (status : ApplicationStatus)
    (now : Instant) :
    m.calculateApplication status now = .failed ↔
      status.connected = false ∨ status.health = .failed ∨
        m.heartbeatTimeout < now.saturatingDurationSince status.lastHeartbeat := by
  unfold HealthManager.calculateApplication
  cases status.connected <;> cases status.health <;>
    by_cases ht : m.heartbeatTimeout < now.saturatingDurationSince status.lastHeartbeat <;>
    simp [ht]

variable {s s' : SamService} {op : Operation} {a : ApplicationId} {now t : Instant}

/-- The time at which the health is recalculated is the operation's. -/
theorem recomputes_time (h : s.recomputes op = some now) : op.time? = some now := by
  unfold recomputes at h
  split at h
  · exact h
  · exact h
  · split at h
    · exact h
    · cases h
  · split at h
    · exact h
    · cases h
  · split at h
    · exact h
    · cases h
  · cases h

/-- Time does not bring an application back. -/
theorem Failed.mono (h : s.Failed a now) (hle : now ≤ t) : s.Failed a t := by
  obtain ⟨status, hs, hcon | hh | ht⟩ := h
  · exact ⟨status, hs, .inl hcon⟩
  · exact ⟨status, hs, .inr (.inl hh)⟩
  · refine ⟨status, hs, .inr (.inr (lt_of_lt_of_le ht ?_))⟩
    exact Nat.sub_le_sub_right hle _

/-- A failed application makes a recalculated health `Failed`. -/
theorem Failed.recomputed (h : s.Failed a now) (hr : s.Recomputed now) :
    s.inner.system.health = .failed := by
  obtain ⟨status, hs, hfailed⟩ := h
  have hbase : s.inner.health.calculateApplication status now = .failed :=
    (calculateApplication_failed ..).mpr hfailed
  apply le_antisymm (HealthState.le_failed _)
  calc HealthState.failed = effectiveHealth s.inner now status := by
        rw [effectiveHealth_eq, hbase, max_eq_left (HealthState.le_failed _)]
    _ ≤ worst (s.inner.applications.iter.map fun e => effectiveHealth s.inner now e.2) :=
        le_worst (List.mem_map.mpr ⟨(a, status), mem_iter.mpr hs, rfl⟩)
    _ = s.inner.system.health := hr.symm

/-- An update that sets neither the health nor the last heartbeat, and connects nobody, leaves a
    failed application failed. -/
theorem Failed.modify (h : s.Failed a now) {b : ApplicationId}
    {f : ApplicationStatus → ApplicationStatus}
    (hs : s'.inner.applications = (s.inner.applications.modify b f).2)
    (ht : s'.inner.health = s.inner.health)
    (hf : b = a → ∀ status, (f status).health = status.health ∧
      (f status).lastHeartbeat = status.lastHeartbeat ∧
      (status.connected = false → (f status).connected = false)) : s'.Failed a now := by
  obtain ⟨status, hget, hfailed⟩ := h
  unfold Failed
  rw [hs, ht, ApplicationRegistry.get_modify]
  by_cases hab : a = b
  · subst hab
    obtain ⟨hh, hl, hc⟩ := hf rfl status
    refine ⟨f status, by rw [if_pos rfl, hget]; rfl, ?_⟩
    rw [hh, hl]
    exact hfailed.imp_left hc
  · exact ⟨status, by rw [if_neg hab]; exact hget, hfailed⟩

/-- **Only the application itself can end its failure.** -/
theorem failed_effect {e : Option ProtocolEvent} (he : Effect s op e s') (h : s.Failed a now)
    (hop : ¬ s.Revives a op) : s'.Failed a now := by
  cases he with
  | registered b tx t | unregistered b tx t =>
    obtain ⟨status, hget, hfailed⟩ := h
    refine ⟨status, ?_, hfailed⟩
    show (s.inner.applications.register b t).get a = some status
    rw [ApplicationRegistry.get_register, if_neg fun hab => hop hab.symm]
    exact hget
  | disconnected b => exact h.modify rfl rfl fun _ _ => ⟨rfl, rfl, fun _ => rfl⟩
  | heartbeat b conn tx health mode t hc status hr =>
    refine h.modify (by rw [announce_inner]; rfl) (by rw [announce_inner]; rfl) fun hba => ?_
    exact absurd ⟨hba, heartbeat_ok hc hr health mode⟩ hop
  | committed b conn tx id mode | completed b conn tx id mode =>
    exact h.modify (b := b) rfl rfl fun _ _ => ⟨rfl, rfl, fun h => h⟩
  | refreshed =>
    unfold Failed
    rw [announce_inner]
    exact h
  | idle | ready | prepared | rejected | unrecorded | requested | received | receiverDropped =>
    exact h

/-- The application is failed at `now`, and the stored health says so. -/
structure Shown (s : SamService) (a : ApplicationId) (now : Instant) : Prop where
  failed : s.Failed a now
  health : s.inner.system.health = .failed

/-- **One step**: no operation but the application's own hides its failure. -/
theorem shown_step (hk : Known s.inner) (h : s.Shown a now) (hop : ¬ s.Revives a op)
    (ht : ∀ t, op.time? = some t → now ≤ t) : (s.step op).Shown a now := by
  have hfailed := failed_effect (step_effect s op) h.failed hop
  refine ⟨hfailed, ?_⟩
  rcases recomputes_cases hk op with ⟨t, hrec, hfresh⟩ | ⟨-, hsys⟩
  · exact (hfailed.mono (ht t (recomputes_time hrec))).recomputed hfresh
  · rw [hsys]
    exact h.health

/-- **A run**: the failure found at `now` is shown through all later operations. -/
theorem shown_run {ops : List Operation} (hk : Known s.inner) (h : s.Shown a now)
    (hops : Machine.Always step (fun s op => ¬ s.Revives a op) s ops)
    (ht : ∀ t ∈ ops.filterMap Operation.time?, now ≤ t) : (s.run ops).Shown a now := by
  induction ops generalizing s with
  | nil => exact h
  | cons op ops ih =>
    refine ih (known_step hk (step_effect s op)) (shown_step hk h hops.1 fun t hop => ?_) hops.2 ?_
    · exact ht t (List.mem_filterMap.mpr ⟨op, List.mem_cons_self, hop⟩)
    · intro t hmem
      obtain ⟨o, ho, hot⟩ := List.mem_filterMap.mp hmem
      exact ht t (List.mem_filterMap.mpr ⟨o, List.mem_cons_of_mem _ ho, hot⟩)

end SamService

open SamService

/-- **A failed application is never masked**: in a run whose times do not decrease, from a step
    that recalculates the health and finds `a` failed, the health stays `Failed` until `a` itself
    registers or has a heartbeat accepted. -/
theorem failure_not_masked (timeout : Duration) (channels : Channels) (pre post : List Operation)
    (op : Operation) (a : ApplicationId) (now : Instant)
    (htimes : ((pre ++ op :: post).filterMap Operation.time?).Pairwise (· ≤ ·))
    (hrec : ((SamService.new timeout channels).run pre).recomputes op = some now)
    (hfailed : ((SamService.new timeout channels).run (pre ++ [op])).Failed a now)
    (hpost : Machine.Always step (fun s op => ¬ s.Revives a op)
      ((SamService.new timeout channels).run (pre ++ [op])) post) :
    ((SamService.new timeout channels).run (pre ++ op :: post)).snapshot.health = .failed := by
  have hk := (service_refines timeout channels pre).1
  rw [run_append, run_cons]
  rw [run_concat] at hfailed hpost
  have hshown : (((SamService.new timeout channels).run pre).step op).Shown a now :=
    ⟨hfailed, hfailed.recomputed (recomputed_step hk hrec)⟩
  refine (shown_run (known_step hk (step_effect _ op)) hshown hpost fun t ht => ?_).health
  -- every later time is at least that of the step
  rw [List.filterMap_append, List.pairwise_append, List.filterMap_cons, recomputes_time hrec,
    List.pairwise_cons] at htimes
  exact htimes.2.1.1 t ht

/-- A transition completes while another application is disconnected. -/
theorem failure_not_masked_demo :
    (Demo.service.run
      [.register Demo.navigation ⟨0⟩ 0, .register Demo.guidance ⟨1⟩ 0,
        .disconnect Demo.guidance ⟨2⟩ 1, .requestMode .standby,
        .handleMessage Demo.navigation ⟨1⟩ (.modeReady Demo.navigation ⟨1⟩) 2,
        .handleMessage Demo.navigation ⟨1⟩
          (.modeCommitted Demo.navigation ⟨1⟩ .standby) 3]).snapshot.health =
      .failed :=
  failure_not_masked 2000000000 (fun _ => Channel.new OUTBOUND_QUEUE_DEPTH)
    [.register Demo.navigation ⟨0⟩ 0, .register Demo.guidance ⟨1⟩ 0]
    [.requestMode .standby,
      .handleMessage Demo.navigation ⟨1⟩ (.modeReady Demo.navigation ⟨1⟩) 2,
      .handleMessage Demo.navigation ⟨1⟩ (.modeCommitted Demo.navigation ⟨1⟩ .standby) 3]
    (.disconnect Demo.guidance ⟨2⟩ 1) Demo.guidance 1 (by decide) (by decide)
    ⟨⟨.startup, .healthy, 0, false⟩, by decide, .inl rfl⟩ ⟨not_false, not_false, not_false, trivial⟩

end Sam
