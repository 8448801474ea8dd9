import Sam.Service.History
import Sam.Service.Traffic

/-!
# What the registry records of an application's mode

* `status_origin` — a recorded mode was there before the step, or the application has just
  registered, or reported it on its current connection.
* `heartbeat_recorded` — a heartbeat on the current connection is recorded.
* `client_kept`, `record_kept` — without registrations the client table only shrinks, and without
  messages from a client's current connection its record stays.
-/

namespace Sam

open SamService

variable {s s' : SamService} {op : Operation} {ops : List Operation} {a : ApplicationId}

/-- The mode an application tells SAM. -/
def ApplicationToSam.mode? : ApplicationToSam → Option SystemMode
  | .heartbeat _ _ currentMode => some currentMode
  | .modeCommitted _ _ mode => some mode
  | _ => none

/-- An update of one status leaves the modes of all others, and its own if it sets none. -/
theorem mode_of_modify {r : ApplicationRegistry} {b : ApplicationId}
    {f : ApplicationStatus → ApplicationStatus} {status' : ApplicationStatus}
    (h : (r.modify b f).2.get a = some status')
    (hf : a = b → ∀ status, (f status).currentMode = status.currentMode) :
    ∃ status, r.get a = some status ∧ status'.currentMode = status.currentMode := by
  rw [ApplicationRegistry.get_modify] at h
  by_cases hab : a = b
  · rw [if_pos hab] at h
    obtain ⟨status, hs, rfl⟩ := Option.map_eq_some_iff.mp h
    exact ⟨status, by rw [hab]; exact hs, hf hab status⟩
  · rw [if_neg hab] at h
    exact ⟨status', h, rfl⟩

/-- **Where a recorded mode comes from.** -/
theorem status_origin {e : Option ProtocolEvent} (he : Effect s op e s')
    {status' : ApplicationStatus} (h : s'.inner.applications.get a = some status') :
    (∃ status, s.inner.applications.get a = some status ∧
      status'.currentMode = status.currentMode) ∨
    (∃ tx now, op = .register a tx now) ∨
    (∃ conn tx m now, op = .handleMessage a conn m now ∧
      s.inner.clients.lookup a = some ⟨conn, tx⟩ ∧ m.mode? = some status'.currentMode) := by
  have henroll : ∀ b tx now, op = .register b tx now →
      (s.inner.enroll b now).applications.get a = some status' →
      (∃ status, s.inner.applications.get a = some status ∧
        status'.currentMode = status.currentMode) ∨ ∃ tx now, op = .register a tx now := by
    intro b tx now hop h
    unfold ServiceState.enroll at h
    rw [recalculateHealth_applications, ApplicationRegistry.get_register] at h
    by_cases hab : a = b
    · exact .inr ⟨tx, now, by rw [hab]; exact hop⟩
    · rw [if_neg hab] at h
      exact .inl ⟨status', h, rfl⟩
  -- an update of `b`'s status by a message of `b`
  have hmodify : ∀ b conn tx m now f, op = .handleMessage b conn m now →
      s.inner.clients.lookup b = some ⟨conn, tx⟩ →
      (∀ status : ApplicationStatus, m.mode? = some (f status).currentMode) →
      (s.inner.applications.modify b f).2.get a = some status' →
      (∃ status, s.inner.applications.get a = some status ∧
        status'.currentMode = status.currentMode) ∨
      ∃ conn tx m now, op = .handleMessage a conn m now ∧
        s.inner.clients.lookup a = some ⟨conn, tx⟩ ∧ m.mode? = some status'.currentMode := by
    intro b conn tx m now f hop hc hm h
    by_cases hab : a = b
    · subst hab
      rw [ApplicationRegistry.get_modify, if_pos rfl] at h
      obtain ⟨status, -, rfl⟩ := Option.map_eq_some_iff.mp h
      exact .inr ⟨conn, tx, m, now, hop, hc, hm status⟩
    · exact .inl (mode_of_modify h fun hab' => absurd hab' hab)
  cases he with
  | idle | ready | prepared | rejected | unrecorded | requested | received | receiverDropped =>
    exact .inl ⟨status', h, rfl⟩
  | refreshed => rw [announce_inner] at h; exact .inl ⟨status', h, rfl⟩
  | registered b tx now | unregistered b tx now =>
    exact (henroll b tx now rfl h).imp_right .inl
  | disconnected b => exact .inl (mode_of_modify h fun _ _ => rfl)
  | heartbeat b conn tx health mode now hc =>
    rw [announce_inner] at h
    exact (hmodify b conn tx _ now _ rfl hc (fun _ => rfl) h).imp_right .inr
  | committed b conn tx id mode now hc | completed b conn tx id mode now hc =>
    exact (hmodify b conn tx _ now _ rfl hc (fun _ => rfl) h).imp_right .inr

/-- **A heartbeat on the current connection is recorded.** -/
theorem heartbeat_recorded (hk : Known s.inner) {conn : ConnectionId} {tx : Sender}
    (hc : s.inner.clients.lookup a = some ⟨conn, tx⟩) (health : HealthState) (mode : SystemMode)
    (now : Instant) :
    (s.step (.handleMessage a conn (.heartbeat a health mode) now)).inner.applications.get a =
      some ⟨mode, health, now, true⟩ := by
  obtain ⟨status, hr⟩ := hk a _ hc
  have hv := verifyConnection_ok.mpr ⟨tx, hc⟩
  have hget : (s.inner.applications.updateHeartbeat a health mode now).2.get a =
      some ⟨mode, health, now, true⟩ := by
    rw [ApplicationRegistry.updateHeartbeat, ApplicationRegistry.get_modify, if_pos rfl, hr]
    rfl
  unfold step handleMessage
  simp only [hv, verifyApplication_ok.mpr rfl]
  rw [ApplicationRegistry.updateHeartbeat, ApplicationRegistry.modify_some hr] at hget ⊢
  dsimp only
  split
  · exact hget
  · exact hget

/-- Without registrations the client table only shrinks. -/
theorem client_kept (hops : ∀ op ∈ ops, op.isRegister = false) {client : ClientConnection}
    (h : (s.run ops).inner.clients.lookup a = some client) :
    s.inner.clients.lookup a = some client := by
  induction ops generalizing s with
  | nil => exact h
  | cons op ops ih =>
    have hstep := ih (fun op hop => hops op (List.mem_cons_of_mem _ hop)) h
    rcases client_origin (step_effect s op) hstep with hold | ⟨now, rfl, -, -⟩
    · exact hold
    · cases hops _ (List.mem_cons_self ..)

/-- A connection that has disconnected is nobody's current one any more. -/
theorem disconnect_gone (conn : ConnectionId) (now : Instant) {tx : Sender} :
    (s.step (.disconnect a conn now)).inner.clients.lookup a ≠ some ⟨conn, tx⟩ := by
  intro h
  unfold step disconnect at h
  dsimp only at h
  split at h
  · rename_i hactive
    rw [h] at hactive
    simp at hactive
  · rw [broadcastState_inner] at h
    simp at h

/-- The record of a client stays while it sends nothing. -/
theorem record_kept_step (hk : Known s.inner) {conn : ConnectionId} {tx : Sender}
    {client : ClientConnection} {mode : SystemMode}
    (h : ∃ status, s.inner.applications.get a = some status ∧ status.currentMode = mode)
    (hc : s.inner.clients.lookup a = some ⟨conn, tx⟩)
    (hc' : (s.step op).inner.clients.lookup a = some client)
    (hreg : ∀ tx now, op ≠ .register a tx now)
    (hmsg : ∀ m now, op = .handleMessage a conn m now → m.mode? = none) :
    ∃ status, (s.step op).inner.applications.get a = some status ∧ status.currentMode = mode := by
  obtain ⟨status, hs, hmode⟩ := h
  obtain ⟨status', hs'⟩ := known_step hk (step_effect s op) a client hc'
  refine ⟨status', hs', ?_⟩
  rcases status_origin (step_effect s op) hs' with ⟨st, hst, hm⟩ | ⟨tx', now, hop⟩ |
    ⟨conn', tx', m, now, hop, hcur, hm⟩
  · rw [hs] at hst
    obtain rfl := Option.some.inj hst
    rw [hm, hmode]
  · exact absurd hop (hreg tx' now)
  · rw [hc] at hcur
    cases hcur
    rw [hmsg m now hop] at hm
    cases hm

/-- **The record of a client stays** over operations that register nobody and bring no message of
    its own. -/
theorem record_kept (hk : Known s.inner) {conn : ConnectionId} {tx : Sender} {mode : SystemMode}
    (h : ∃ status, s.inner.applications.get a = some status ∧ status.currentMode = mode)
    (hops : ∀ op ∈ ops, op.isRegister = false)
    (hmsg : ∀ m now, .handleMessage a conn m now ∈ ops → m.mode? = none)
    (hend : (s.run ops).inner.clients.lookup a = some ⟨conn, tx⟩) :
    ∃ status, (s.run ops).inner.applications.get a = some status ∧ status.currentMode = mode := by
  induction ops generalizing s with
  | nil => exact h
  | cons op ops ih =>
    have hops' : ∀ op ∈ ops, op.isRegister = false := fun o ho => hops o (List.mem_cons_of_mem _ ho)
    have hnext := client_kept hops' hend
    refine ih (known_step hk (step_effect s op)) ?_ hops'
      (fun m now hm => hmsg m now (List.mem_cons_of_mem _ hm)) hend
    refine record_kept_step hk h (client_kept hops hend) hnext ?_ ?_
    · rintro tx' now rfl
      cases hops _ (List.mem_cons_self ..)
    · rintro m now rfl
      exact hmsg m now (List.mem_cons_self ..)

end Sam
