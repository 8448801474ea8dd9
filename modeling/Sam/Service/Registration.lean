import Sam.Service.Generations
import Sam.Service.Recompute

/-!
# Registrations that fail

`register` enters the application in the registry and recalculates the health before it queues the
reply, the only step that can fail, and undoes neither.

* `register_failed` — what a failed registration leaves: the client table, and the registry and the
  health of a successful one.
* `register_failed_iff` — so it leaves everything as it was exactly when the application was just
  entered at the same instant and the health was up to date.
* `register_leaves_entry` — an application shown as connected without a connection.
-/

namespace Sam

namespace SamService

/-- The registry, the client table and the system state are the same. -/
def SameRecords (s s' : SamService) : Prop :=
  (∀ b, s'.inner.applications.get b = s.inner.applications.get b) ∧
    s'.inner.clients = s.inner.clients ∧ s'.inner.system = s.inner.system

variable {s : SamService} {a : ApplicationId} {tx : Sender} {now : Instant}

/-- What a failed registration leaves. -/
theorem register_failed (h : ∃ e, (s.register a tx now).1 = .error e) :
    (s.register a tx now).2.inner = s.inner.enroll a now := by
  obtain ⟨e, he⟩ := h
  have heff := register_effect s a tx now
  generalize hs' : (s.register a tx now).2 = s' at heff
  cases heff with
  | idle _ hop => cases hop
  | unregistered => rfl
  | registered _ _ _ hroom =>
    -- with room for the reply the registration succeeds
    have hg := granted_register (s := s) a tx now
    rw [if_pos hroom] at hg
    unfold granted at hg
    simp only [he] at hg
    cases hg

/-- Entering an application changes nothing exactly when it is entered already and the health is up
    to date. -/
theorem enroll_same_iff (s : SamService) (a : ApplicationId) (now : Instant) :
    ((∀ b, (s.inner.enroll a now).applications.get b = s.inner.applications.get b) ∧
        (s.inner.enroll a now).system = s.inner.system) ↔
      s.inner.applications.get a = some (.new now) ∧ s.Recomputed now := by
  have hget : ∀ b, (s.inner.enroll a now).applications.get b =
      if b = a then some (.new now) else s.inner.applications.get b := by
    intro b
    unfold ServiceState.enroll
    rw [recalculateHealth_applications, ApplicationRegistry.get_register]
  have hregistry : (∀ b, (s.inner.enroll a now).applications.get b = s.inner.applications.get b) ↔
      s.inner.applications.get a = some (.new now) := by
    constructor
    · intro h
      rw [← h a, hget, if_pos rfl]
    · intro h b
      rw [hget]
      split
      · rename_i hba
        rw [hba, h]
      · rfl
  rw [hregistry]
  apply and_congr_right
  intro ha
  -- with the same entries the health computed is the worst effective health there was
  have hworst : (s.inner.enroll a now).system.health =
      worst (s.inner.applications.iter.map fun e => effectiveHealth s.inner now e.2) := by
    unfold ServiceState.enroll
    rw [recalculateHealth_eq_worst]
    exact worst_iter_congr (f := effectiveHealth s.inner now) fun b =>
      congrArg (Option.map _) (hregistry.mpr ha b)
  constructor
  · intro h
    rw [h] at hworst
    exact hworst
  · intro h
    apply SystemState.ext
    · rfl
    · rw [hworst]
      exact h.symm

end SamService

open SamService

/-- **Exactly when a failed registration leaves SAM as it was.** -/
theorem register_failed_iff (timeout : Duration) (channels : Channels) (ops : List Operation)
    (a : ApplicationId) (tx : Sender) (now : Instant)
    (h : ∃ e, (((SamService.new timeout channels).run ops).register a tx now).1 = .error e) :
    let s := (SamService.new timeout channels).run ops
    s.SameRecords (s.register a tx now).2 ↔
      s.inner.applications.get a = some (.new now) ∧ s.Recomputed now := by
  intro s
  unfold SameRecords
  rw [register_failed h, ← enroll_same_iff s a now]
  exact ⟨fun hsame => ⟨hsame.1, hsame.2.2⟩, fun hsame => ⟨hsame.1, rfl, hsame.2⟩⟩

/-- Navigation registers again in the instant of its registration, on a connection that is already
    closed: nothing it leaves is new. -/
theorem register_failed_iff_again :
    let s := Demo.service.run [.register Demo.navigation ⟨0⟩ 0, .dropReceiver ⟨1⟩]
    (s.register Demo.navigation ⟨1⟩ 0).1 = .error .stateUnavailable ∧
      s.SameRecords (s.register Demo.navigation ⟨1⟩ 0).2 :=
  ⟨by decide, (register_failed_iff 2000000000 (fun _ => Channel.new OUTBOUND_QUEUE_DEPTH)
    [.register Demo.navigation ⟨0⟩ 0, .dropReceiver ⟨1⟩] Demo.navigation ⟨1⟩ 0
    ⟨.stateUnavailable, by decide⟩).mpr ⟨by decide, by unfold Recomputed; decide⟩⟩

/-- **A failed registration leaves an entry**: the application is shown as connected, and the
    failure of its absence is cleared. -/
theorem register_leaves_entry :
    ¬ ∀ (timeout : Duration) (channels : Channels) (ops : List Operation) (a : ApplicationId)
      (tx : Sender) (now : Instant),
      let s := (SamService.new timeout channels).run ops
      (∃ e, (s.register a tx now).1 = .error e) → s.SameRecords (s.register a tx now).2 := by
  intro h
  have hsame := h 2000000000 (fun _ => Channel.new OUTBOUND_QUEUE_DEPTH)
    [.register Demo.navigation ⟨0⟩ 0, .disconnect Demo.navigation ⟨1⟩ 1, .dropReceiver ⟨1⟩]
    Demo.navigation ⟨1⟩ 2 ⟨.stateUnavailable, by decide⟩
  exact absurd (hsame.1 Demo.navigation) (by decide)

end Sam
