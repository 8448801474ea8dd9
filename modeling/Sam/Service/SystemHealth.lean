import Sam.Service.Step

/-!
# System health and per-application health

* `effectiveHealth` — what `applications` reports for one registry entry.
* `recalculateHealth_eq_worst` — the health `recalculate_health` stores is the worst of them.
* `mem_iter`, `worst_iter_congr` — so it depends on the entries, not on the order of the hash map.
* `calculateApplication_mono`, `recalculateHealth_mono` — and time alone never improves it.
* `health_one_order` — the two aggregations agree whatever the order in which each iterates.
-/

namespace Sam

variable {state : ServiceState} {now : Instant}

/-- The effective health of one application, as `applications` reports it. -/
def effectiveHealth (state : ServiceState) (now : Instant) (status : ApplicationStatus) :
    HealthState :=
  effectiveApplicationHealth (state.health.calculateApplication status now)
    (status.connected && status.currentMode = state.system.mode)

theorem applicationSnapshot_effectiveHealth (id : ApplicationId) (status : ApplicationStatus) :
    (SamService.applicationSnapshot state now id status).effectiveHealth =
      effectiveHealth state now status := rfl

theorem calculateApplication_disconnected (m : HealthManager) {status : ApplicationStatus}
    (h : status.connected = false) : m.calculateApplication status now = .failed := by
  unfold HealthManager.calculateApplication
  rw [h]; rfl

/-- An effective health is the base health, raised to `Degraded` by a mode mismatch. -/
theorem effectiveHealth_eq (state : ServiceState) (now : Instant) (status : ApplicationStatus) :
    effectiveHealth state now status =
      max (state.health.calculateApplication status now)
        (if status.connected && status.currentMode != state.system.mode then .degraded
          else .healthy) := by
  unfold effectiveHealth effectiveApplicationHealth
  cases hc : status.connected with
  | false => rw [calculateApplication_disconnected _ hc]; rfl
  | true =>
    by_cases hm : status.currentMode = state.system.mode <;>
      cases state.health.calculateApplication status now <;> simp [hm] <;> decide

/-- `max` distributes over the two parts of every effective health. -/
theorem worst_max {α : Type*} (f g : α → HealthState) (l : List α) :
    worst (l.map fun x => max (f x) (g x)) = max (worst (l.map f)) (worst (l.map g)) := by
  induction l with
  | nil => rfl
  | cons x l ih => simp only [List.map_cons, worst_cons, ih]; exact max_max_max_comm ..

theorem worst_if {α : Type*} (p : α → Bool) (l : List α) :
    worst (l.map fun x => if p x then .degraded else .healthy) =
      if l.any p then .degraded else .healthy := by
  induction l with
  | nil => rfl
  | cons x l ih =>
    rw [List.map_cons, worst_cons, ih, List.any_cons]
    cases p x <;> cases l.any p <;> rfl

/-- The worst effective health is the worst base health, raised to `Degraded` by a mode mismatch. -/
theorem worst_effectiveHealth (state : ServiceState) (now : Instant) :
    worst (state.applications.iter.map fun e => effectiveHealth state now e.2) =
      max (state.health.calculate state.applications now)
        (if state.applications.iter.any
          (fun e => e.2.connected && e.2.currentMode != state.system.mode)
          then .degraded else .healthy) := by
  rw [HealthManager.calculate_eq_worst, ← worst_if, ← worst_max]
  simp only [effectiveHealth_eq]

/-- **The stored health is the worst effective health**, whichever way round it is computed. -/
theorem recalculateHealth_eq_worst (state : ServiceState) (now : Instant) :
    (recalculateHealth state now).system.health =
      worst (state.applications.iter.map fun e => effectiveHealth state now e.2) := by
  rw [worst_effectiveHealth]
  unfold recalculateHealth
  cases state.health.calculate state.applications now <;>
    cases state.applications.iter.any (fun e =>
      e.2.connected && e.2.currentMode != state.system.mode) <;>
    rfl

/-! ## Independence of the order -/

theorem mem_iter {r : ApplicationRegistry} {a : ApplicationId} {status : ApplicationStatus} :
    (a, status) ∈ r.iter ↔ r.get a = some status := by
  unfold ApplicationRegistry.iter ApplicationRegistry.get
  rw [List.mem_map]
  constructor
  · rintro ⟨⟨b, st⟩, h, heq⟩
    cases heq
    exact AList.mem_lookup_iff.mpr h
  · intro h
    exact ⟨⟨a, status⟩, AList.mem_lookup_iff.mp h, rfl⟩

theorem worst_congr {hs hs' : List HealthState} (h : ∀ x, x ∈ hs ↔ x ∈ hs') :
    worst hs = worst hs' :=
  le_antisymm (worst_le fun x hx => le_worst ((h x).mp hx))
    (worst_le fun x hx => le_worst ((h x).mpr hx))

theorem mem_map_iter {r : ApplicationRegistry} {f : ApplicationStatus → HealthState}
    {x : HealthState} : x ∈ r.iter.map (fun e => f e.2) ↔ ∃ a, (r.get a).map f = some x := by
  simp only [List.mem_map, Prod.exists, mem_iter, Option.map_eq_some_iff]

/-- Registries that agree entry by entry have the same worst. -/
theorem worst_iter_congr {r r' : ApplicationRegistry} {f g : ApplicationStatus → HealthState}
    (h : ∀ a, (r.get a).map f = (r'.get a).map g) :
    worst (r.iter.map fun e => f e.2) = worst (r'.iter.map fun e => g e.2) := by
  refine worst_congr fun x => ?_
  rw [mem_map_iter, mem_map_iter]
  simp only [h]

/-- The worst of what `applications` reports. -/
theorem worst_applications (s : SamService) (now : Instant) :
    worst ((s.applications now).map (·.effectiveHealth)) =
      worst (s.inner.applications.iter.map fun e => effectiveHealth s.inner now e.2) := by
  refine worst_congr fun x => ?_
  unfold SamService.applications
  simp only [List.mem_map, List.mem_mergeSort, exists_exists_and_eq_and,
    applicationSnapshot_effectiveHealth]

/-! ## Passing time -/

variable {later : Instant}

theorem worst_mono {α : Type*} {f g : α → HealthState} {l : List α} (h : ∀ x ∈ l, f x ≤ g x) :
    worst (l.map f) ≤ worst (l.map g) := by
  refine worst_le fun y hy => ?_
  obtain ⟨x, hx, rfl⟩ := List.mem_map.mp hy
  exact (h x hx).trans (le_worst (List.mem_map_of_mem hx))

/-- A silence only gets longer. -/
theorem calculateApplication_mono (m : HealthManager) (status : ApplicationStatus)
    (hle : now ≤ later) :
    m.calculateApplication status now ≤ m.calculateApplication status later := by
  have hsilent : now.saturatingDurationSince status.lastHeartbeat ≤
      later.saturatingDurationSince status.lastHeartbeat := Nat.sub_le_sub_right hle _
  unfold HealthManager.calculateApplication
  by_cases ht : now.saturatingDurationSince status.lastHeartbeat > m.heartbeatTimeout
  · have hlater := lt_of_lt_of_le ht hsilent
    simp [ht, hlater]
  · split
    · rename_i hfailed
      -- what failed it at `now` was not the time
      have hother : !status.connected ∨ status.health = .failed := by simpa [ht] using hfailed
      rw [if_pos (by rcases hother with h | h <;> simp [h])]
    · split
      · exact HealthState.le_failed _
      · exact le_refl _

theorem effectiveHealth_mono (state : ServiceState) (status : ApplicationStatus)
    (hle : now ≤ later) : effectiveHealth state now status ≤
      effectiveHealth state later status := by
  rw [effectiveHealth_eq, effectiveHealth_eq]
  exact max_le_max (calculateApplication_mono _ status hle) (le_refl _)

/-- Time alone never improves the health of the system. -/
theorem recalculateHealth_mono (state : ServiceState) (hle : now ≤ later) :
    (recalculateHealth state now).system.health ≤
      (recalculateHealth state later).system.health := by
  rw [recalculateHealth_eq_worst, recalculateHealth_eq_worst]
  exact worst_mono fun e _ => effectiveHealth_mono state e.2 hle

/-! ## The two aggregations -/

/-- **System health and per-application health are one order.**  `registry` is the registry of `s`
    as another iteration meets it: the health that `recalculate_health` stores is the worst of the
    effective health values that `applications` reports, and it never improves as time passes. -/
theorem health_one_order (s : SamService) (registry : ApplicationRegistry) (now : Instant)
    (horder : registry.iter.Perm s.inner.applications.iter) :
    let reported : SamService := { s with inner := { s.inner with applications := registry } }
    (recalculateHealth s.inner now).system.health =
        worst ((reported.applications now).map (·.effectiveHealth)) ∧
      ∀ later, now ≤ later →
        (recalculateHealth s.inner now).system.health ≤
          (recalculateHealth s.inner later).system.health := by
  intro reported
  refine ⟨?_, fun later => recalculateHealth_mono s.inner⟩
  rw [worst_applications, recalculateHealth_eq_worst]
  refine worst_congr fun x => ?_
  exact (horder.map fun e => effectiveHealth s.inner now e.2).mem_iff.symm

/-- Navigation has been silent too long, and guidance has not. -/
theorem health_one_order_demo :
    let between (first second : ApplicationId × Instant) : SamService :=
      { Demo.service with inner := { Demo.service.inner with applications :=
          (ApplicationRegistry.empty.register first.1 first.2).register second.1 second.2 } }
    let s := between (Demo.navigation, 0) (Demo.guidance, 1000000000)
    let reported := between (Demo.guidance, 1000000000) (Demo.navigation, 0)
    let now := 2500000000
    (recalculateHealth s.inner now).system.health =
        worst ((reported.applications now).map (·.effectiveHealth)) ∧
      ∀ later, now ≤ later →
        (recalculateHealth s.inner now).system.health ≤
          (recalculateHealth s.inner later).system.health :=
  health_one_order _ ((ApplicationRegistry.empty.register Demo.guidance 1000000000).register
    Demo.navigation 0) 2500000000 (by decide)

end Sam
