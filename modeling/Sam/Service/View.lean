import Sam.Service.SystemHealth
import Sam.Service.Traffic

/-!
# What the clients have been told

`register` recalculates the health and tells only the newcomer; every other operation broadcasts
when the health or the mode has changed.

* `Current` — every client whose channel never refused a message was last told the present mode
  and health.
* `Harmless` — a registration that leaves nobody behind: the health stored is already the one it
  computes (`healthWith`), or there is nobody to tell.
* `current_iff` — all states of a run are current exactly when all its registrations are harmless.
* `register_outdates` — a run in which one is not.
-/

namespace Sam

open SamService

/-- The system state last reported by some messages. -/
def lastView (messages : List SamToApplication) : Option SystemState :=
  (messages.filterMap SamToApplication.view?).getLast?

theorem lastView_replicate_view {m : SamToApplication} {v : SystemState} (h : m.view? = some v)
    (l : List SamToApplication) {k : Nat} (hk : k ≠ 0) :
    lastView (l ++ List.replicate k m) = some v := by
  simp [lastView, List.getLast?_replicate, h, hk]

theorem lastView_replicate_none {m : SamToApplication} (h : m.view? = none)
    (l : List SamToApplication) (k : Nat) :
    lastView (l ++ List.replicate k m) = lastView l := by
  simp [lastView, h]

/-- Every client to whose queue no send has failed was last told the present mode and health. -/
def Current (s : SamService) : Prop :=
  ∀ a client, s.inner.clients.lookup a = some client →
    (s.channels client.outbound).refused = false →
      lastView (s.channels client.outbound).sent = some s.inner.system

/-! ## The health after a registration -/

/-- The worst effective health once `a` has registered: its own, in mode `Startup`, and that of
    all other applications. -/
def healthWith (s : SamService) (a : ApplicationId) (now : Instant) : HealthState :=
  max (if s.inner.system.mode = .startup then .healthy else .degraded)
    (worst ((s.inner.applications.iter.filter fun e => e.1 ≠ a).map fun e =>
      effectiveHealth s.inner now e.2))

theorem effectiveHealth_new (state : ServiceState) (now : Instant) :
    effectiveHealth state now (.new now) =
      if state.system.mode = .startup then .healthy else .degraded := by
  have hbase : state.health.calculateApplication (.new now) now = .healthy := by
    unfold HealthManager.calculateApplication Instant.saturatingDurationSince ApplicationStatus.new
    simp
  rw [effectiveHealth_eq, hbase]
  cases state.system.mode <;> rfl

/-- **The health a registration computes.** -/
theorem enroll_health (s : SamService) (a : ApplicationId) (now : Instant) :
    (s.inner.enroll a now).system.health = healthWith s a now := by
  unfold ServiceState.enroll healthWith
  rw [recalculateHealth_eq_worst, ← effectiveHealth_new s.inner now, ← worst_cons]
  refine worst_congr fun x => ?_
  simp only [List.mem_map, List.mem_cons, List.mem_filter, Prod.exists, mem_iter,
    ApplicationRegistry.get_register, decide_eq_true_eq, ne_eq]
  constructor
  · rintro ⟨b, status, hb, rfl⟩
    split at hb
    · cases hb; exact .inl rfl
    · rename_i hba; exact .inr ⟨b, status, ⟨hb, hba⟩, rfl⟩
  · rintro (rfl | ⟨b, status, ⟨hb, hba⟩, rfl⟩)
    · exact ⟨a, .new now, by rw [if_pos rfl], rfl⟩
    · exact ⟨b, status, by rw [if_neg hba]; exact hb, rfl⟩

/-! ## One step -/

/-- A registration leaves no other client behind: the health it computes is the one stored, or
    no other client listens on another channel that never refused a message. -/
def Harmless (s : SamService) : Operation → Prop
  | .register a tx now => s.inner.system.health = healthWith s a now ∨
      ∀ e ∈ s.inner.clients.entries, e.1 = a ∧ (s.channels tx).HasRoom ∨ e.2.outbound = tx ∨
        (s.channels e.2.outbound).refused = true
  | _ => True

instance (s : SamService) : (op : Operation) → Decidable (Harmless s op)
  | .register a tx now => inferInstanceAs (Decidable (s.inner.system.health = healthWith s a now ∨
      ∀ e ∈ s.inner.clients.entries, e.1 = a ∧ (s.channels tx).HasRoom ∨ e.2.outbound = tx ∨
        (s.channels e.2.outbound).refused = true))
  | .disconnect _ _ _ | .handleMessage _ _ _ _ | .requestMode _ | .refreshHealth _ | .receive _
  | .dropReceiver _ => instDecidableTrue

variable {s s' : SamService} {op : Operation} {e : Option ProtocolEvent}

/-- No operation but `register` leaves a client behind. -/
theorem current_step (h : Current s) (hop : ∀ a tx now, op ≠ .register a tx now) :
    Current (s.step op) := by
  intro a client ha hr
  have hold : s.inner.clients.lookup a = some client := by
    rcases client_origin (step_effect s op) ha with h | ⟨now, heq, _⟩
    · exact h
    · exact absurd heq (hop _ _ _)
  have hr₀ := refused_mono s op _ hr
  cases step_traffic s op with
  | quiet _ _ hc hb hs => rw [hc, hs]; exact h a client hold hr₀
  | reply b tx now => exact absurd rfl (hop b tx now)
  | broadcast _ _ message _ hm hc hb hs =>
    obtain ⟨k, hsent, hk⟩ :=
      Channels.broadcastOn_spec s.channels (s.step op).outbounds message client.outbound
    rw [hc] at hr
    rw [hc, hsent]
    rcases hs with hview | ⟨hview, hs⟩
    · have hmem : client.outbound ∈ (s.step op).outbounds := mem_outbounds.mpr ⟨a, client.id, ha⟩
      have hk0 : k ≠ 0 := by
        rw [(hk hr).1]
        exact Nat.pos_iff_ne_zero.mp (List.count_pos_iff.mpr hmem)
      exact lastView_replicate_view hview _ hk0
    · rw [lastView_replicate_none hview, hs]; exact h a client hold hr₀
  | receiver _ _ tx f hf hc hb hs =>
    have hsame : ((s.step op).channels client.outbound).sent =
        (s.channels client.outbound).sent := by
      rw [hc]
      by_cases hct : client.outbound = tx
      · subst hct; rw [Function.update_self, (hf _).1]
      · rw [Function.update_of_ne hct]
    rw [hsame, hs]; exact h a client hold hr₀

/-- The reply to a registration, once queued, is current. -/
theorem reply_current {a : ApplicationId} {tx : Sender} {now : Instant}
    (hr : ((s.step (.register a tx now)).channels tx).refused = false) :
    lastView ((s.step (.register a tx now)).channels tx).sent =
      some (s.step (.register a tx now)).inner.system := by
  obtain ⟨hc, hs, -, -⟩ := register_spec s a tx now
  rw [hc, Channels.trySend_self, Channel.refused_trySend, Bool.or_eq_false_iff] at hr
  have hroom : (s.channels tx).HasRoom := by simpa using hr.2
  rw [hc, hs, Channels.trySend_self, Channel.sent_trySend, if_pos hroom]
  exact lastView_replicate_view (k := 1) rfl _ Nat.one_ne_zero

/-- A registration leaves all clients current exactly when it is harmless. -/
theorem current_register (h : Current s) (a : ApplicationId) (tx : Sender) (now : Instant) :
    Current (s.step (.register a tx now)) ↔ Harmless s (.register a tx now) := by
  obtain ⟨hc, hs, -, ht⟩ := register_spec s a tx now
  -- a client on another channel than `tx` is current iff the health is the one stored before
  have hother : ∀ b client, s.inner.clients.lookup b = some client → client.outbound ≠ tx →
      (s.channels client.outbound).refused = false →
      (lastView ((s.step (.register a tx now)).channels client.outbound).sent =
          some (s.step (.register a tx now)).inner.system ↔
        s.inner.system.health = healthWith s a now) := by
    intro b client hb hne hr
    rw [hc, Channels.trySend_ne hne, h b client hb hr, hs, Option.some_inj, SystemState.ext_iff,
      enroll_health]
    exact ⟨fun h => h.2, fun h => ⟨rfl, h⟩⟩
  constructor
  · intro hcur
    by_cases hh : s.inner.system.health = healthWith s a now
    · exact .inl hh
    refine .inr fun e he => ?_
    have hb : s.inner.clients.lookup e.1 = some e.2 := AList.mem_lookup_iff.mpr he
    by_cases hreplaced : e.1 = a ∧ (s.channels tx).HasRoom
    · exact .inl hreplaced
    by_cases hne : e.2.outbound = tx
    · exact .inr (.inl hne)
    cases hr : (s.channels e.2.outbound).refused with
    | true => exact .inr (.inr rfl)
    | false =>
      have hb' : (s.step (.register a tx now)).inner.clients.lookup e.1 = some e.2 := by
        rw [ht]
        split
        · rename_i hroom
          rw [AList.lookup_insert_ne fun hea => hreplaced ⟨hea, hroom⟩]; exact hb
        · exact hb
      refine absurd ((hother e.1 e.2 hb hne hr).mp (hcur e.1 e.2 hb' ?_)) hh
      rw [hc, Channels.trySend_ne hne]; exact hr
  · intro hharm b client hb hr
    by_cases hne : client.outbound = tx
    · rw [hne] at hr ⊢; exact reply_current hr
    have hr₀ := refused_mono s _ _ hr
    rcases client_origin (step_effect s _) hb with hold | ⟨now', hop, _⟩
    · rw [hother b client hold hne hr₀]
      rcases hharm with hh | hall
      · exact hh
      rcases hall ⟨b, client⟩ (AList.mem_lookup_iff.mp hold) with ⟨hba, hroom⟩ | htx | hrefused
      · dsimp only at hba
        rw [ht, if_pos hroom, hba, AList.lookup_insert] at hb
        obtain rfl := Option.some.inj hb
        exact absurd rfl hne
      · exact absurd htx hne
      · rw [hr₀] at hrefused; cases hrefused
    · cases hop; exact absurd rfl hne

/-- **One step**: from a current state, exactly the harmless operations lead to one. -/
theorem current_step_iff (h : Current s) (op : Operation) :
    Current (s.step op) ↔ Harmless s op := by
  cases op with
  | register a tx now => exact current_register h a tx now
  | _ => exact ⟨fun _ => trivial, fun _ => current_step h (by simp)⟩

/-- **All clients are current throughout a run exactly when every registration in it is
    harmless.** -/
theorem current_iff (timeout : Duration) (channels : Channels) (ops : List Operation) :
    (∀ pre post, ops = pre ++ post → Current ((SamService.new timeout channels).run pre)) ↔
      Machine.Always step Harmless (SamService.new timeout channels) ops := by
  constructor
  · intro h
    rw [Machine.always_iff]
    rintro pre op post rfl
    have hnext := h (pre ++ [op]) post (by simp)
    rw [run_concat] at hnext
    exact (current_step_iff (h pre (op :: post) rfl) op).mp hnext
  · rintro h pre post rfl
    refine Machine.run_invariant (C := Harmless) (I := Current)
      (fun s op hs hop => (current_step_iff hs op).mpr hop) ?_ (Machine.always_append.mp h).1
    intro a client ha
    cases ha

/-- **A newcomer that degrades the system goes unnoticed**: the client registered before still
    believes it healthy. -/
theorem register_outdates :
    let ops : List Operation :=
      [.register Demo.navigation ⟨0⟩ 0, .requestMode .standby,
        .handleMessage Demo.navigation ⟨1⟩ (.modeReady Demo.navigation ⟨1⟩) 1,
        .handleMessage Demo.navigation ⟨1⟩ (.modeCommitted Demo.navigation ⟨1⟩ .standby) 2,
        .register Demo.guidance ⟨1⟩ 3]
    ¬ Current (Demo.service.run ops) ∧ (Demo.service.run ops).snapshot = ⟨.standby, .degraded⟩ ∧
      lastView ((Demo.service.run ops).channels ⟨0⟩).sent = some ⟨.standby, .healthy⟩ := by
  intro ops
  refine ⟨fun h => ?_, by decide, by decide⟩
  have hview := h Demo.navigation ⟨⟨1⟩, ⟨0⟩⟩ (by decide) (by decide)
  exact absurd hview (by decide)

end Sam
