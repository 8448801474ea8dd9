import Sam.Service.Stream

/-!
# Which mode a connection is told

* `lastSet` — the mode the last message of a stream that sets one sets: `RegisterAccepted` or
  `CommitMode`.
* `heading` — the mode the system ends in unless another transition is requested;
  `heading_run` follows it through the messages broadcast.
* `told_mode` — when no transition is in progress, a client whose stream is complete has been
  told the system's mode, except one that registered while a transition was being committed and
  has seen no `CommitMode` since.
-/

namespace Sam

open SamService TwoPhase

variable {s s' : SamService} {op : Operation} {ops : List Operation}

/-- The mode a message makes an application adopt. -/
def SamToApplication.sets? : SamToApplication → Option SystemMode
  | .registerAccepted _ currentMode _ => some currentMode
  | .commitMode _ mode => some mode
  | _ => none

/-- The mode set last. -/
def lastSet (messages : List SamToApplication) : Option SystemMode :=
  (messages.filterMap SamToApplication.sets?).getLast?

theorem lastSet_append (l l' : List SamToApplication) :
    lastSet (l ++ l') = (lastSet l').or (lastSet l) := by
  unfold lastSet
  rw [List.filterMap_append, List.getLast?_append]

/-- The mode the system ends in unless another transition is requested. -/
def ModeManagerState.heading : ModeManagerState → SystemMode
  | .stable mode => mode
  | .preparing _ currentMode _ _ _ => currentMode
  | .committing _ _ targetMode _ _ => targetMode

/-- A transition is being committed. -/
def Committing (s : SamService) : Prop :=
  match s.inner.modes.state with
  | .committing _ _ _ _ _ => True
  | _ => False

instance (s : SamService) : Decidable (Committing s) := by
  unfold Committing; split <;> infer_instance

/-! ## One step -/

theorem announce_heading (previous : HealthState) :
    ∃ l, (s.announce previous).broadcasts = s.broadcasts ++ l ∧ lastSet l = none := by
  unfold announce
  split
  · exact ⟨[_], rfl, rfl⟩
  · exact ⟨[], (List.append_nil _).symm, rfl⟩

/-- **The heading follows the messages broadcast.** -/
theorem heading_effect {e : Option ProtocolEvent} (hk : Known s.inner) (h : Effect s op e s') :
    ∃ l, s'.broadcasts = s.broadcasts ++ l ∧
      s'.inner.modes.state.heading = (lastSet l).getD s.inner.modes.state.heading := by
  have hquiet : s.broadcasts = s.broadcasts ++ [] := (List.append_nil _).symm
  cases h with
  | idle | registered | unregistered | received | receiverDropped => exact ⟨[], hquiet, rfl⟩
  | disconnected => exact ⟨[_], rfl, rfl⟩
  | heartbeat a conn tx health mode now =>
    obtain ⟨l, hb, hl⟩ := announce_heading (s := s.setInner (recalculateHealth
      { s.inner with
        applications := (s.inner.applications.updateHeartbeat a health mode now).2 } now))
      s.inner.system.health
    exact ⟨l, hb, by rw [hl, announce_inner]; rfl⟩
  | refreshed now =>
    obtain ⟨l, hb, hl⟩ := announce_heading (s := s.setInner (recalculateHealth s.inner now))
      s.inner.system.health
    exact ⟨l, hb, by rw [hl, announce_inner]; rfl⟩
  | ready a conn tx id now hc current target W R hm => exact ⟨[], hquiet, by rw [hm]; rfl⟩
  | prepared a conn tx id now hc current target W R hm => exact ⟨[_], rfl, by rw [hm]; rfl⟩
  | rejected a conn tx id reason now hc current target W R hm =>
    exact ⟨[_], rfl, by rw [hm]; rfl⟩
  | committed a conn tx id mode now hc previous W C hm => exact ⟨[], hquiet, by rw [hm]; rfl⟩
  | completed a conn tx id mode now hc previous W C hm => exact ⟨[_], rfl, by rw [hm]; rfl⟩
  | unrecorded a conn tx id mode now phase hc hr =>
    exact absurd hr (hk.recorded hc)
  | requested target current hm => exact ⟨[_], rfl, by rw [hm]; rfl⟩

theorem heading_run (hk : Known s.inner) :
    (s.run ops).inner.modes.state.heading =
      (lastSet (Machine.log step told s ops)).getD s.inner.modes.state.heading := by
  induction ops generalizing s with
  | nil => rfl
  | cons op ops ih =>
    have heff := step_effect s op
    obtain ⟨l, hb, hl⟩ := heading_effect hk heff
    have htold : s.told op = l := by
      unfold told
      rw [hb, List.drop_left]
    rw [run_cons, ih (known_step hk heff), hl, Machine.log_cons, htold, lastSet_append]
    cases lastSet (Machine.log step told (s.step op) ops) <;> rfl

/-! ## What a client has been told -/

/-- Among messages that are no replies only `CommitMode` sets a mode. -/
theorem lastSet_eq_none {l : List SamToApplication} (hl : ∀ m ∈ l, ¬ m.IsReply) :
    lastSet l = none ↔ ¬ ∃ id mode, .commitMode id mode ∈ l := by
  unfold lastSet
  rw [List.getLast?_eq_none_iff, List.filterMap_eq_nil_iff]
  constructor
  · rintro h ⟨id, mode, hm⟩
    cases h _ hm
  · intro h m hm
    cases m with
    | registerAccepted => exact absurd trivial (hl _ hm)
    | commitMode id mode => exact absurd ⟨id, mode, hm⟩ h
    | prepareMode | abortMode | stateBroadcast | registerRejected => rfl

/-- The phase agrees with the mode reported, except while committing. -/
theorem heading_eq_iff {H : List Transition} {log : List ProtocolEvent} (hR : Refines H s log) :
    s.inner.system.mode = s.inner.modes.state.heading ↔ ¬ Committing s := by
  have hphase := hR.phase
  rw [hR.system, ModeManager.currentMode, Committing]
  generalize s.inner.modes.state = phase at hphase
  cases hphase with
  | stable | preparing => exact ⟨fun _ h => h, fun _ => rfl⟩
  | committing hs hid ht hc hu hne => exact ⟨fun h => absurd h hne, fun h => absurd trivial h⟩

/-- When no transition is in progress the heading is the mode. -/
theorem heading_of_stable {H : List Transition} {log : List ProtocolEvent} (hR : Refines H s log)
    (hstable : s.transitionInProgress = false) :
    s.inner.modes.state.heading = s.snapshot.mode := by
  refine ((heading_eq_iff hR).mpr ?_).symm
  unfold transitionInProgress at hstable
  unfold Committing
  cases hm : s.inner.modes.state with
  | stable => exact fun h => h
  | preparing | committing => rw [hm] at hstable; cases hstable

/-- **What a client has been told last** is the system's mode, when no transition is in progress
    and nothing sent to the client was refused, exactly unless the client registered while a
    transition was being committed and no `CommitMode` was broadcast since. -/
theorem told_mode (timeout : Duration) (channels : Channels) (ops : List Operation)
    (hf : Machine.Always step Fresh (SamService.new timeout channels) ops) {a : ApplicationId}
    {client : ClientConnection}
    (ha : ((SamService.new timeout channels).run ops).inner.clients.lookup a = some client)
    (hr : (((SamService.new timeout channels).run ops).channels client.outbound).refused = false)
    (hstable : ((SamService.new timeout channels).run ops).transitionInProgress = false) :
    let s := SamService.new timeout channels
    ∃ pre now post, ops = pre ++ .register a client.outbound now :: post ∧
      ((s.run pre).register a client.outbound now).1 = .ok client.id ∧
      (lastSet ((s.run ops).channels client.outbound).sent = some (s.run ops).snapshot.mode ↔
        ¬ Committing (s.run pre) ∨
          ∃ id m, .commitMode id m ∈ (s.run ops).broadcasts.drop
            (s.run pre).broadcasts.length) := by
  intro s
  obtain ⟨pre, now, post, hops, hok, hrun, hown, hpost, hsent, hrefused, hin⟩ :=
    client_since timeout channels ops hf ha
  refine ⟨pre, now, post, hops, hok, ?_⟩
  generalize hs₁ : s.run (pre ++ [.register a client.outbound now]) = s₁ at *
  -- the registration itself leaves the phase and the history of broadcasts alone
  have hreg : s₁ = (s.run pre).step (.register a client.outbound now) := by
    rw [← hs₁]
    exact run_concat ..
  obtain ⟨-, -, hbroad, -⟩ := register_spec (s.run pre) a client.outbound now
  rw [← hreg] at hbroad
  have hcommitting : Committing s₁ ↔ Committing (s.run pre) := by
    have heff : Effect (s.run pre) _ none _ :=
      step_effect (s.run pre) (.register a client.outbound now)
    rw [← hreg] at heff
    unfold Committing
    rw [(none_frame heff).1]
  -- the stream is the reply followed by everything broadcast since
  have hused : (s₁.channels client.outbound).sent ≠ [] := by rw [hsent]; simp
  have hstream := stream_run hown hpost hused
  rw [(complete_iff hown hpost hused hrefused hin).mpr (by rw [← hrun]; exact hr), hsent,
    ← hrun] at hstream
  have hsince : (s.run ops).broadcasts.drop (s.run pre).broadcasts.length =
      Machine.log step told s₁ post := by
    rw [← hbroad, hrun, broadcasts_run, List.drop_left]
  obtain ⟨hk, H, hR⟩ := service_refines timeout channels (pre ++ [.register a client.outbound now])
  obtain ⟨-, H', hR'⟩ := service_refines timeout channels ops
  rw [hs₁] at hk hR
  have hmode : (s.run ops).snapshot.mode =
      (lastSet (Machine.log step told s₁ post)).getD s₁.inner.modes.state.heading := by
    rw [← heading_of_stable hR' hstable, hrun]
    exact heading_run hk
  have hreply : ∀ m ∈ Machine.log step told s₁ post, ¬ m.IsReply := by
    intro m hm
    obtain ⟨l, op, r, -, htold⟩ := Machine.mem_log.mp hm
    exact not_isReply_told htold
  have hlast := lastSet_eq_none hreply
  rw [hsince, hstream, lastSet_append, hmode]
  cases hT : lastSet (Machine.log step told s₁ post) with
  | none =>
    have hno := hlast.mp hT
    rw [← hcommitting, ← heading_eq_iff hR]
    simp only [hno, or_false]
    exact ⟨fun h => Option.some.inj h, fun h => congrArg some h⟩
  | some m =>
    rw [hT] at hlast
    have hsome : ∃ id mode, .commitMode id mode ∈ Machine.log step told s₁ post := by
      by_contra hno
      cases hlast.mpr hno
    exact ⟨fun _ => .inr hsome, fun _ => rfl⟩

end Sam
