import Sam.Service.History

/-!
# The course of one transition

While nobody requests another mode, a transition that has been requested is underway, has been
rejected by somebody, or has completed; there is nothing else that can become of it.

* `phase_step` — what an operation other than a request can do to the phase.
* `Course` — what has become of a transition; `course_run` is induction over the operations since.
* `resting_run` — without requests a mode stays.
-/

namespace Sam

open SamService

/-- The operation requests no mode. -/
def Operation.Other : Operation → Prop
  | .requestMode _ => False
  | _ => True

instance (op : Operation) : Decidable op.Other := by
  unfold Operation.Other; split <;> infer_instance

/-- The transition `id` from `current` to `target` is being prepared or committed. -/
def ModeManagerState.Underway (phase : ModeManagerState) (id : TransitionId)
    (current target : SystemMode) : Prop :=
  (∃ W R, phase = .preparing id current target W R) ∨
    ∃ W C, phase = .committing id current target W C

namespace SamService

variable {s s' : SamService} {op : Operation} {ops : List Operation} {e : Option ProtocolEvent}
  {id : TransitionId} {current target mode : SystemMode}

/-- The phase of the manager. -/
abbrev phase (s : SamService) : ModeManagerState := s.inner.modes.state

/-- **What an operation that requests nothing does to the phase.** -/
theorem phase_step (hk : Known s.inner) (he : Effect s op e s') (hop : op.Other) :
    s'.phase = s.phase ∨ ∃ id current target, s.phase.Underway id current target ∧
      (s'.phase.Underway id current target ∨
        (s'.phase = .stable current ∧ ∃ v, e = some (.rejected v id)) ∨
        (s'.phase = .stable target ∧ s'.inner.system.mode = target ∧
          ∃ a, e = some (.committed a id target))) := by
  cases he with
  | idle | registered | unregistered | disconnected | received | receiverDropped => exact .inl rfl
  | heartbeat | refreshed =>
    left
    unfold phase
    rw [announce_inner]
    rfl
  | requested target => exact hop.elim
  | ready a conn tx id now hc current target W R hm =>
    exact .inr ⟨id, current, target, .inl ⟨W, R, hm⟩, .inl (.inl ⟨_, _, rfl⟩)⟩
  | prepared a conn tx id now hc current target W R hm =>
    exact .inr ⟨id, current, target, .inl ⟨W, R, hm⟩, .inl (.inr ⟨_, _, rfl⟩)⟩
  | rejected a conn tx id reason now hc current target W R hm =>
    exact .inr ⟨id, current, target, .inl ⟨W, R, hm⟩, .inr (.inl ⟨rfl, a, rfl⟩)⟩
  | committed a conn tx id mode now hc previous W C hm =>
    exact .inr ⟨id, previous, mode, .inr ⟨W, C, hm⟩, .inl (.inr ⟨_, _, rfl⟩)⟩
  | completed a conn tx id mode now hc previous W C hm =>
    exact .inr ⟨id, previous, mode, .inr ⟨W, C, hm⟩, .inr (.inr ⟨rfl, rfl, a, rfl⟩)⟩
  | unrecorded a conn tx id mode now phase hc hr =>
    exact absurd hr (hk.recorded hc)

theorem Underway.unique {phase : ModeManagerState} {id' : TransitionId} {c t : SystemMode}
    (h : phase.Underway id current target) (h' : phase.Underway id' c t) :
    id' = id ∧ c = current ∧ t = target := by
  rcases h with ⟨W, R, rfl⟩ | ⟨W, R, rfl⟩ <;> rcases h' with ⟨W', R', h'⟩ | ⟨W', R', h'⟩ <;>
    cases h' <;> exact ⟨rfl, rfl, rfl⟩

theorem Underway.not_stable (h : (ModeManagerState.stable mode).Underway id current target) :
    False := by
  rcases h with ⟨W, R, h⟩ | ⟨W, R, h⟩ <;> cases h

/-- The operation completes the transition `id` to `mode`. -/
def CompletedBy (s : SamService) (op : Operation) (id : TransitionId) (mode : SystemMode) : Prop :=
  (s.step op).snapshot.mode = mode ∧ s.snapshot.mode ≠ mode ∧
    ∃ a, s.event op = some (.committed a id mode)

/-- What has become of the transition `id` from `current` to `target`, underway in `s`. -/
inductive Course (s : SamService) (id : TransitionId) (current target : SystemMode)
    (ops : List Operation) : Prop
  | underway (h : (s.run ops).phase.Underway id current target)
  | rejected (pre : List Operation) (op : Operation) (post : List Operation) (v : ApplicationId)
      (hops : ops = pre ++ op :: post) (hv : (s.run pre).event op = some (.rejected v id))
      (h : (s.run ops).phase = .stable current)
  | completed (pre : List Operation) (op : Operation) (post : List Operation)
      (hops : ops = pre ++ op :: post) (hc : (s.run pre).CompletedBy op id target)
      (h : (s.run ops).phase = .stable target)

/-- A state of a run of the service. -/
def Sound (s : SamService) : Prop :=
  ∀ ops, Known (s.run ops).inner ∧ (s.run ops).snapshot.mode = (s.run ops).inner.modes.currentMode

theorem sound_new (timeout : Duration) (channels : Channels) :
    Sound (SamService.new timeout channels) := by
  intro ops
  obtain ⟨hk, H, hR⟩ := service_refines timeout channels ops
  exact ⟨hk, hR.system⟩

theorem Sound.run (hs : Sound s) (ops : List Operation) : Sound (s.run ops) := by
  intro ops'
  rw [← run_append]
  exact hs (ops ++ ops')

theorem underway_mode (hs : Sound s) (h : (s.run ops).phase.Underway id current target) :
    (s.run ops).snapshot.mode = current := by
  change (s.run ops).inner.modes.state.Underway id current target at h
  rw [(hs ops).2, ModeManager.currentMode]
  rcases h with ⟨W, R, h⟩ | ⟨W, R, h⟩ <;> rw [h]

theorem stable_mode (hs : Sound s) (h : (s.run ops).phase = .stable mode) :
    (s.run ops).snapshot.mode = mode := by
  change (s.run ops).inner.modes.state = _ at h
  rw [(hs ops).2, ModeManager.currentMode, h]

theorem course_step (hs : Sound s) (hne : current ≠ target) (hop : op.Other)
    (h : Course s id current target ops) : Course s id current target (ops ++ [op]) := by
  have hstep := phase_step (hs ops).1 (step_effect (s.run ops) op) hop
  have hrun : s.run (ops ++ [op]) = (s.run ops).step op := run_concat ..
  cases h with
  | underway h =>
    rcases hstep with hsame | ⟨id', c, t, hunder, hnext⟩
    · exact .underway (by rw [hrun, hsame]; exact h)
    · obtain ⟨rfl, rfl, rfl⟩ := Underway.unique h hunder
      rcases hnext with hnext | ⟨hnext, v, hv⟩ | ⟨hnext, hmode, a, ha⟩
      · exact .underway (by rw [hrun]; exact hnext)
      · exact .rejected ops op [] v rfl hv (by rw [hrun]; exact hnext)
      · refine .completed ops op [] rfl ⟨hmode, ?_, a, ha⟩ (by rw [hrun]; exact hnext)
        rw [underway_mode hs h]
        exact hne
  | rejected pre op' post v hops hv h =>
    rcases hstep with hsame | ⟨id', c, t, hunder, -⟩
    · refine .rejected pre op' (post ++ [op]) v (by rw [hops]; simp) hv ?_
      rw [hrun, hsame]
      exact h
    · rw [h] at hunder
      exact absurd hunder Underway.not_stable
  | completed pre op' post hops hc h =>
    rcases hstep with hsame | ⟨id', c, t, hunder, -⟩
    · refine .completed pre op' (post ++ [op]) (by rw [hops]; simp) hc ?_
      rw [hrun, hsame]
      exact h
    · rw [h] at hunder
      exact absurd hunder Underway.not_stable

/-- **The course of a transition** while nobody requests another. -/
theorem course_run (hs : Sound s) (hne : current ≠ target) (h : s.phase.Underway id current target)
    (hops : ∀ op ∈ ops, op.Other) : Course s id current target ops := by
  induction ops using List.reverseRecOn with
  | nil => exact .underway h
  | append_singleton ops op ih =>
    exact course_step hs hne (hops op (by simp)) (ih fun op' hop' => hops op' (by simp [hop']))

/-- Without requests the mode stays. -/
theorem resting_run (hs : Sound s) (h : s.phase = .stable mode) (hops : ∀ op ∈ ops, op.Other) :
    (s.run ops).phase = .stable mode := by
  induction ops using List.reverseRecOn with
  | nil => exact h
  | append_singleton ops op ih =>
    have hrest := ih fun op' hop' => hops op' (by simp [hop'])
    have hrun : s.run (ops ++ [op]) = (s.run ops).step op := run_concat ..
    rcases phase_step (hs ops).1 (step_effect (s.run ops) op) (hops op (by simp)) with
      hsame | ⟨id', c, t, hunder, -⟩
    · rw [hrun, hsame, hrest]
    · rw [hrest] at hunder
      exact absurd hunder Underway.not_stable

end SamService

end Sam
