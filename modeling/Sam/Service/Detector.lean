import Sam.Service.Failure
import Sam.Service.Recompute

/-!
# The failure detector

SAM takes an application for failed by what it has last heard of it.

* `Life`, `life` — a sign of life of an application, or that its current connection has gone.
* `Tells` — what the registry holds of an application is what was last heard of it (`tells_run`).
* `failure_detector` — whom SAM shows as failed, and when it finds the system failed.
-/

namespace Sam

/-- A registration, or a heartbeat with this health; or the end of the current connection. -/
inductive Life where
  | sign (now : Instant) (health : HealthState)
  | gone
  deriving DecidableEq

/-- At `t` an application that was last heard of like this has failed. -/
def Life.Dead (timeout : Duration) (t : Instant) : Life → Prop
  | .sign now health => health = .failed ∨ timeout < t.saturatingDurationSince now
  | .gone => True

instance (timeout : Duration) (t : Instant) (e : Life) : Decidable (e.Dead timeout t) := by
  unfold Life.Dead; split <;> infer_instance

namespace SamService

/-- What SAM hears of `a`. -/
def life (s : SamService) (a : ApplicationId) : Operation → Option Life
  | .register b _ now => if b = a then some (.sign now .healthy) else none
  | .disconnect b conn _ =>
    match verifyConnection s.inner b conn with
    | .ok () => if b = a then some .gone else none
    | .error _ => none
  | .handleMessage b conn (.heartbeat c health mode) now =>
    match (s.handleMessage b conn (.heartbeat c health mode) now).1 with
    | .ok () => if b = a then some (.sign now health) else none
    | .error _ => none
  | _ => none

/-- What SAM hears of `a` in a run, in order. -/
abbrev lifeLog (s : SamService) (a : ApplicationId) (ops : List Operation) : List Life :=
  Machine.log step (fun s op => (s.life a op).toList) s ops

/-- The registry holds what was last heard of an application. -/
def Tells : Option ApplicationStatus → Option Life → Prop
  | none, none => True
  | some status, some (.sign now health) =>
    status.lastHeartbeat = now ∧ status.health = health ∧ status.connected = true
  | some status, some .gone => status.connected = false
  | _, _ => False

variable {s s' : SamService} {op : Operation} {a b : ApplicationId} {last : Option Life}
  {status : Option ApplicationStatus}

/-- An update that leaves alone what is told of an application. -/
theorem Tells.map (h : Tells status last) {f : ApplicationStatus → ApplicationStatus}
    (hf : ∀ status, (f status).lastHeartbeat = status.lastHeartbeat ∧
      (f status).health = status.health ∧ (f status).connected = status.connected) :
    Tells (status.map f) last := by
  cases status with
  | none => exact h
  | some status =>
    obtain ⟨hl, hh, hc⟩ := hf status
    cases last with
    | none => exact h
    | some e =>
      cases e with
      | sign now health =>
        obtain ⟨h1, h2, h3⟩ := h
        exact ⟨hl.trans h1, hh.trans h2, hc.trans h3⟩
      | gone => exact hc.trans h

/-- An update of `b` leaves alone what is told of `a`, if `b` is another or nothing of it
    is told. -/
theorem Tells.modify (h : Tells (s.inner.applications.get a) last)
    {f : ApplicationStatus → ApplicationStatus}
    (hf : a = b → ∀ status, (f status).lastHeartbeat = status.lastHeartbeat ∧
      (f status).health = status.health ∧ (f status).connected = status.connected) :
    Tells ((s.inner.applications.modify b f).2.get a) last := by
  rw [ApplicationRegistry.get_modify]
  by_cases hab : a = b
  · rw [if_pos hab, ← hab]
    exact h.map (hf hab)
  · rw [if_neg hab]
    exact h

/-- An operation that is no registration, no end of a connection and no heartbeat. -/
theorem Tells.effect {e : Option ProtocolEvent} (he : Effect s op e s')
    (h : Tells (s.inner.applications.get a) last) (hregister : op.isRegister = false)
    (hdisconnect : ∀ b conn now, op ≠ .disconnect b conn now)
    (hheartbeat : ∀ b conn c health mode now, op ≠ .handleMessage b conn
      (.heartbeat c health mode) now) :
    Tells (s'.inner.applications.get a) last := by
  cases he with
  | registered | unregistered => cases hregister
  | disconnected => exact absurd rfl (hdisconnect _ _ _)
  | heartbeat => exact absurd rfl (hheartbeat _ _ _ _ _ _)
  | committed | completed => exact h.modify fun _ _ => ⟨rfl, rfl, rfl⟩
  | refreshed =>
    rw [announce_inner]
    exact h
  | idle | ready | prepared | rejected | unrecorded | requested | received | receiverDropped =>
    exact h

/-- `a` has registered. -/
theorem tells_register (h : Tells (s.inner.applications.get a) last) (b : ApplicationId)
    (tx : Sender) (now : Instant) :
    Tells ((s.step (.register b tx now)).inner.applications.get a)
      ((s.life a (.register b tx now)).or last) := by
  have henroll : (s.step (.register b tx now)).inner.applications =
      s.inner.applications.register b now := by
    have he := register_effect s b tx now
    show (s.register b tx now).2.inner.applications = _
    generalize (s.register b tx now).2 = s' at he ⊢
    cases he with
    | registered | unregistered => rfl
    | idle _ hop => cases hop
  rw [henroll, ApplicationRegistry.get_register, life]
  by_cases hab : a = b
  · rw [if_pos hab, if_pos hab.symm]
    exact ⟨rfl, rfl, rfl⟩
  · rw [if_neg hab, if_neg (Ne.symm hab)]
    exact h

/-- Its connection has gone. -/
theorem tells_disconnect (hk : Known s.inner) (h : Tells (s.inner.applications.get a) last)
    (b : ApplicationId) (conn : ConnectionId) (now : Instant) :
    Tells ((s.step (.disconnect b conn now)).inner.applications.get a)
      ((s.life a (.disconnect b conn now)).or last) := by
  cases hv : verifyConnection s.inner b conn with
  | error e =>
    have hsame : s.step (.disconnect b conn now) = s := congrArg Prod.snd (disconnect_stale hv now)
    simp only [hsame, life, hv]
    exact h
  | ok =>
    obtain ⟨tx, hc⟩ := verifyConnection_ok.mp hv
    rw [disconnect_step hc]
    simp only [life, hv]
    show Tells ((s.inner.applications.modify b _).2.get a) _
    by_cases hab : b = a
    · subst hab
      obtain ⟨status, hr⟩ := hk b _ hc
      rw [ApplicationRegistry.get_modify, if_pos rfl, hr, if_pos rfl]
      rfl
    · rw [if_neg hab]
      exact h.modify fun heq => absurd heq.symm hab

/-- It has sent a heartbeat. -/
theorem tells_heartbeat (h : Tells (s.inner.applications.get a) last) (b : ApplicationId)
    (conn : ConnectionId) (c : ApplicationId) (health : HealthState) (mode : SystemMode)
    (now : Instant) :
    Tells ((s.step (.handleMessage b conn (.heartbeat c health mode) now)).inner.applications.get a)
      ((s.life a (.handleMessage b conn (.heartbeat c health mode) now)).or last) := by
  have hrefused : (∃ e, s.handleMessage b conn (.heartbeat c health mode) now = (.error e, s)) →
      Tells
        ((s.step (.handleMessage b conn (.heartbeat c health mode) now)).inner.applications.get a)
        ((s.life a (.handleMessage b conn (.heartbeat c health mode) now)).or last) := by
    rintro ⟨e, he⟩
    rw [step_handleMessage]
    simp only [life, he]
    exact h
  cases hv : verifyConnection s.inner b conn with
  | error e => exact hrefused ⟨e, (handleMessage_unverified s hv _ now).1⟩
  | ok =>
    obtain ⟨tx, hc⟩ := verifyConnection_ok.mp hv
    rcases heartbeat_cases now hc (b := c) health mode with he | ⟨status, rfl, hr, he⟩
    · exact hrefused he
    · rw [step_handleMessage]
      simp only [life, he, announce_inner]
      show Tells ((s.inner.applications.modify c _).2.get a) _
      by_cases hab : c = a
      · subst hab
        rw [ApplicationRegistry.get_modify, if_pos rfl, hr, if_pos rfl]
        exact ⟨rfl, rfl, rfl⟩
      · rw [if_neg hab]
        exact h.modify fun heq => absurd heq.symm hab

/-- **One step.** -/
theorem tells_step (hk : Known s.inner) (h : Tells (s.inner.applications.get a) last)
    (op : Operation) :
    Tells ((s.step op).inner.applications.get a) ((s.life a op).or last) := by
  cases op with
  | register b tx now => exact tells_register h b tx now
  | disconnect b conn now => exact tells_disconnect hk h b conn now
  | handleMessage b conn message now =>
    cases message with
    | heartbeat c health mode => exact tells_heartbeat h b conn c health mode now
    | register | modeReady | modeRejected | modeCommitted =>
      exact h.effect (step_effect s _) rfl (by simp) (by simp)
  | requestMode | refreshHealth | receive | dropReceiver =>
    exact h.effect (step_effect s _) rfl (by simp) (by simp)

/-- **A run**: the registry holds what was last heard. -/
theorem tells_run (timeout : Duration) (channels : Channels) (a : ApplicationId)
    (ops : List Operation) :
    Tells (((new timeout channels).run ops).inner.applications.get a)
      ((new timeout channels).lifeLog a ops).getLast? := by
  induction ops using List.reverseRecOn with
  | nil => trivial
  | append_singleton ops op ih =>
    have hk := (service_refines timeout channels ops).1
    rw [run_concat, lifeLog, Machine.log_concat, List.getLast?_append]
    have hlast : ∀ e : Option Life, e.toList.getLast? = e := by
      intro e
      cases e <;> rfl
    rw [hlast]
    exact tells_step hk ih op

/-- Who has failed was last heard of so. -/
theorem Tells.failed (h : Tells (s.inner.applications.get a) last) (t : Instant) :
    s.Failed a t ↔ ∃ e ∈ last, e.Dead s.inner.health.heartbeatTimeout t := by
  unfold Failed
  cases hs : s.inner.applications.get a with
  | none =>
    rw [hs] at h
    cases last with
    | none => simp
    | some e => cases e <;> exact h.elim
  | some status =>
    rw [hs] at h
    cases last with
    | none => exact h.elim
    | some e =>
      cases e with
      | sign now health =>
        obtain ⟨rfl, rfl, hc⟩ := h
        simp [Life.Dead, hc]
      | gone =>
        have hc : status.connected = false := h
        simp [Life.Dead, hc]

/-- The timeout is the one SAM was started with. -/
theorem timeout_run (timeout : Duration) (channels : Channels) (ops : List Operation) :
    ((new timeout channels).run ops).inner.health.heartbeatTimeout = timeout := by
  induction ops using List.reverseRecOn with
  | nil => rfl
  | append_singleton ops op ih =>
    rw [run_concat]
    have he := step_effect ((new timeout channels).run ops) op
    generalize ((new timeout channels).run ops).step op = s',
      ((new timeout channels).run ops).event op = e at he ⊢
    cases he with
    | heartbeat | refreshed =>
      rw [announce_inner]
      exact ih
    | _ => exact ih

/-- What was last heard of `a` means that it has failed at `t`. -/
def LastHeardDead (timeout : Duration) (log : List Life) (t : Instant) : Prop :=
  ∃ e ∈ log.getLast?, e.Dead timeout t

theorem failed_iff (timeout : Duration) (channels : Channels) (ops : List Operation)
    (a : ApplicationId) (t : Instant) :
    ((new timeout channels).run ops).Failed a t ↔
      LastHeardDead timeout ((new timeout channels).lifeLog a ops) t := by
  have h := (tells_run timeout channels a ops).failed t
  rwa [timeout_run] at h

/-- Who is shown as failed has failed. -/
theorem shown_failed (s : SamService) (a : ApplicationId) (t : Instant) :
    (∃ row ∈ s.applications t, row.application = a ∧ row.effectiveHealth = .failed) ↔
      s.Failed a t := by
  have hmax : ∀ status, effectiveHealth s.inner t status = .failed ↔
      s.inner.health.calculateApplication status t = .failed := by
    intro status
    rw [effectiveHealth_eq]
    cases s.inner.health.calculateApplication status t <;> split <;> decide
  unfold applications Failed
  constructor
  · rintro ⟨row, hrow, rfl, hfailed⟩
    obtain ⟨⟨b, status⟩, hmem, rfl⟩ := List.mem_map.mp (List.mem_mergeSort.mp hrow)
    refine ⟨status, mem_iter.mp hmem, ?_⟩
    exact (calculateApplication_failed ..).mp ((hmax status).mp hfailed)
  · rintro ⟨status, hget, hfailed⟩
    refine ⟨applicationSnapshot s.inner t a status, ?_, rfl, ?_⟩
    · exact List.mem_mergeSort.mpr (List.mem_map.mpr ⟨(a, status), mem_iter.mpr hget, rfl⟩)
    · exact (hmax status).mpr ((calculateApplication_failed ..).mpr hfailed)

/-- A recalculated health is `Failed` exactly if some application has failed. -/
theorem Recomputed.failed {t : Instant} (h : s.Recomputed t) :
    s.inner.system.health = .failed ↔ ∃ a, s.Failed a t := by
  constructor
  · intro hfailed
    by_contra hnone
    have hle : s.inner.system.health ≤ .degraded := by
      rw [h]
      refine worst_le fun x hx => ?_
      obtain ⟨⟨a, status⟩, hmem, rfl⟩ := List.mem_map.mp hx
      have hbase : s.inner.health.calculateApplication status t ≠ .failed := fun hbase =>
        hnone ⟨a, status, mem_iter.mp hmem, (calculateApplication_failed ..).mp hbase⟩
      rw [effectiveHealth_eq]
      revert hbase
      cases s.inner.health.calculateApplication status t <;> split <;> decide
    rw [hfailed] at hle
    exact absurd hle (by decide)
  · rintro ⟨a, ha⟩
    exact ha.recomputed h

end SamService

open SamService

/-- **The failure detector.**  In every run, at every time, SAM shows an application as failed
    exactly if the last it has heard of it is the end of its connection, a heartbeat that says so,
    or a sign of life longer ago than the timeout; and whenever it recalculates the system's health,
    that is `Failed` exactly if this is so of some application. -/
theorem failure_detector (timeout : Duration) (channels : Channels) (ops : List Operation) :
    let s₀ := SamService.new timeout channels
    (∀ a t, (∃ row ∈ (s₀.run ops).applications t,
        row.application = a ∧ row.effectiveHealth = .failed) ↔
      LastHeardDead timeout (s₀.lifeLog a ops) t) ∧
    ∀ pre op t, ops = pre ++ [op] → (s₀.run pre).recomputes op = some t →
      ((s₀.run ops).snapshot.health = .failed ↔
        ∃ a, LastHeardDead timeout (s₀.lifeLog a ops) t) := by
  intro s₀
  refine ⟨fun a t => ?_, ?_⟩
  · rw [shown_failed]
    exact failed_iff timeout channels ops a t
  · rintro pre op t rfl hrec
    have hk := (service_refines timeout channels pre).1
    have h : (s₀.run (pre ++ [op])).Recomputed t := by
      rw [run_concat]
      exact recomputed_step hk hrec
    refine h.failed.trans (exists_congr fun a => ?_)
    exact failed_iff timeout channels (pre ++ [op]) a t

/-- Guidance is late, navigation is not: the system has failed, and guidance is to blame. -/
theorem failure_detector_demo :
    let ops : List Operation := [.register Demo.navigation ⟨0⟩ 0, .register Demo.guidance ⟨1⟩ 0,
      .handleMessage Demo.navigation ⟨1⟩ (.heartbeat Demo.navigation .healthy .startup) 2000000000,
      .refreshHealth 2000000001]
    (Demo.service.run ops).snapshot.health = .failed ∧
      (∃ row ∈ (Demo.service.run ops).applications 2000000001,
        row.application = Demo.guidance ∧ row.effectiveHealth = .failed) ∧
      ¬ ∃ row ∈ (Demo.service.run ops).applications 2000000001,
        row.application = Demo.navigation ∧ row.effectiveHealth = .failed := by
  intro ops
  obtain ⟨hshown, hhealth⟩ :=
    failure_detector 2000000000 (fun _ => Channel.new OUTBOUND_QUEUE_DEPTH) ops
  have hlate : LastHeardDead 2000000000 (Demo.service.lifeLog Demo.guidance ops) 2000000001 :=
    ⟨.sign 0 .healthy, by decide, .inr (by decide)⟩
  refine ⟨?_, (hshown Demo.guidance 2000000001).mpr hlate, ?_⟩
  · exact (hhealth (ops.take 3) (.refreshHealth 2000000001) 2000000001 rfl rfl).mpr
      ⟨Demo.guidance, hlate⟩
  · intro hrow
    obtain ⟨e, he, hdead⟩ := (hshown Demo.navigation 2000000001).mp hrow
    have hlast : (Demo.service.lifeLog Demo.navigation ops).getLast? =
        some (.sign 2000000000 .healthy) := by decide
    replace he : e ∈ (Demo.service.lifeLog Demo.navigation ops).getLast? := he
    rw [hlast] at he
    obtain rfl := Option.some.inj he
    revert hdead
    decide

end Sam
