import Sam.System.Calm

/-!
# A completed transition leaves SAM's records in agreement

* `CompletesTo` — a step completes a transition; `CompletesTo.confirmed` — by the last confirmation.
* `completion_agrees` — in a calm run, everybody connected has then adopted the mode, SAM has
  recorded it of everybody, and the health stored and broadcast is what is reported;
  `completion_disagrees` — unless the connection ids have come round again.
-/

namespace Sam

open SamService

namespace System

variable {η ω : Type*} {handlers : ApplicationId → ModeHandler η ω} {timeout : Duration}
  {s s' : System η} {a : ApplicationId}

/-- This step completes a transition to `m`. -/
def CompletesTo (s s' : System η) (m : SystemMode) : Prop :=
  (∃ id previous W C, s.service.inner.modes.state = .committing id previous m W C) ∧
    s'.service.inner.modes.state = .stable m

/-- Everybody connected agrees on the mode, and the health that this step has stored and broadcast
    is what is reported. -/
structure InAgreement (handlers : ApplicationId → ModeHandler η ω) (s s' : System η)
    (m : SystemMode) : Prop where
  mode : s'.service.snapshot.mode = m
  handler : ∀ a client, s'.service.inner.clients.lookup a = some client →
    (handlers a).currentMode (s'.clients a).handler = m
  recorded : ∀ a status, s'.service.inner.applications.get a = some status →
    status.connected = true → status.currentMode = m
  health : ∃ b c id now,
    s'.operations = s.operations ++ [.handleMessage b c (.modeCommitted b id m) now] ∧
    s'.service.snapshot.health =
      s'.service.inner.health.calculate s'.service.inner.applications now ∧
    s'.service.broadcasts =
      s.service.broadcasts ++ [.stateBroadcast m s'.service.snapshot.health]

/-- Without a mode mismatch the health is the one reported. -/
theorem recalculateHealth_agreed {state : ServiceState} {now : Instant}
    (h : ∀ a status, state.applications.get a = some status → status.connected = true →
      status.currentMode = state.system.mode) :
    (recalculateHealth state now).system.health =
      state.health.calculate state.applications now := by
  have hmismatch : state.applications.iter.any
      (fun e => e.2.connected && e.2.currentMode != state.system.mode) = false := by
    rw [List.any_eq_false]
    intro e hmem
    have hmode := h e.1 e.2 (mem_iter.mp hmem)
    cases hc : e.2.connected with
    | false => simp
    | true => simp [hmode hc]
  rw [recalculateHealth_eq_worst, worst_effectiveHealth, hmismatch]
  cases state.health.calculate state.applications now <;> rfl

/-- What the last confirmation of a transition to `m` makes of the service. -/
def completed (t : SamService) (b : ApplicationId) (m : SystemMode) (now : Instant) : SamService :=
  (t.setInner (recalculateHealth
    { t.inner with
      modes := { t.inner.modes with state := .stable m }
      applications := (t.inner.applications.setMode b m).2
      system := { t.inner.system with mode := m } } now)).broadcastState

/-- **Only the last confirmation completes a transition.** -/
theorem completing_op {t : SamService} (hk : Known t.inner) (op : Operation) {id : TransitionId}
    {previous m m' : SystemMode} {W C : Finset ApplicationId}
    (hs : t.inner.modes.state = .committing id previous m W C)
    (hstable : (t.step op).inner.modes.state = .stable m') :
    ∃ b c tx now, op = .handleMessage b c (.modeCommitted b id m) now ∧
      t.inner.clients.lookup b = some ⟨c, tx⟩ ∧ W.erase b = ∅ ∧ m = m' ∧
      t.step op = completed t b m now := by
  -- an operation that leaves the phase alone completes nothing
  have hmoved : t.inner.modes.state = .stable m' → False := by
    intro heq
    rw [hs] at heq
    cases heq
  have heff := step_effect t op
  generalize t.event op = e at heff
  generalize t.step op = t' at heff hstable ⊢
  cases heff with
  | completed b c tx id' mode now hlook previous' W' C' hm ha hW =>
    cases hs.symm.trans hm
    cases hstable
    exact ⟨b, c, tx, now, rfl, hlook, hW, rfl, rfl⟩
  | idle | registered | unregistered | disconnected | received | receiverDropped =>
    exact (hmoved hstable).elim
  | heartbeat | refreshed =>
    rw [announce_inner] at hstable
    exact (hmoved hstable).elim
  | ready _ _ _ _ _ _ _ _ _ _ hm | prepared _ _ _ _ _ _ _ _ _ _ hm
  | rejected _ _ _ _ _ _ _ _ _ _ _ hm =>
    rw [hs] at hm
    cases hm
  | committed => cases hstable
  | requested => cases hstable
  | unrecorded _ _ _ _ _ _ _ hlook hr =>
    exact absurd hr (hk.recorded hlook)

/-- **The step that completes a transition** takes the last confirmation from a link. -/
theorem CompletesTo.confirmed {m : SystemMode} (hc : CompletesTo s s' m) (hd : Driven timeout s)
    (hm : Move handlers s s') :
    ∃ b c k id up now tx previous W C, (s.links k).task = .registered b c ∧
      (s.links k).up = .modeCommitted b id m :: up ∧ s'.clients = s.clients ∧
      s'.operations = s.operations ++ [.handleMessage b c (.modeCommitted b id m) now] ∧
      s.service.inner.clients.lookup b = some ⟨c, tx⟩ ∧
      s.service.inner.modes.state = .committing id previous m W C ∧ W.erase b = ∅ ∧
      s'.service = completed s.service b m now := by
  obtain ⟨⟨id, previous, W, C, hs⟩, hstable⟩ := hc
  have hop := fun op (h : (s.service.step op).inner.modes.state = .stable m) =>
    completing_op hd.refines.1 op hs h
  have hsame : s'.service ≠ s.service := by
    intro heq
    rw [heq, hs] at hstable
    cases hstable
  cases hm with
  | idle | client | quit => exact absurd rfl hsame
  | call op hcall =>
    obtain ⟨b, c, tx, now, rfl, -⟩ := hop op hstable
    rcases hcall with ⟨_, h⟩ | ⟨_, h⟩ <;> cases h
  | server k ops link hm =>
    cases hm with
    | refuse | hangUp => exact absurd rfl hsame
    | register a up now =>
      obtain ⟨b, c, tx, now', h, -⟩ := hop (.register a ⟨k⟩ now) hstable
      cases h
    | unregistered a up now =>
      obtain ⟨b, c, tx, now', h, -⟩ := hop (.register a ⟨k⟩ now) hstable
      cases h
    | send | unsent =>
      obtain ⟨b, c, tx, now', h, -⟩ := hop (.receive ⟨k⟩) hstable
      cases h
    | close a conn now =>
      obtain ⟨b, c, tx, now', h, -⟩ := hop (.disconnect a conn now) hstable
      cases h
    | handle a conn x up now task ht hup =>
      obtain ⟨b, c, tx, now', h, hlook, hW, -, hstep⟩ :=
        hop (.handleMessage a conn x now) hstable
      cases h
      exact ⟨a, conn, k, id, up, now, tx, previous, W, C, ht, hup, rfl, rfl, hlook, hs, hW, hstep⟩

/-- Every client has adopted `m` by the time its last confirmation is taken, and SAM has recorded it
    of the others. -/
theorem Consistent.completing (h : Consistent handlers s) (hw : Wired timeout s) {b : ApplicationId}
    {c : ConnectionId} {tx : Sender} {k : Nat} {id : TransitionId} {up : List ApplicationToSam}
    {previous m : SystemMode} {W C : Finset ApplicationId}
    (hb : s.service.inner.clients.lookup b = some ⟨c, tx⟩) (ht : (s.links k).task = .registered b c)
    (hup : (s.links k).up = .modeCommitted b id m :: up)
    (hs : s.service.inner.modes.state = .committing id previous m W C) (hW : W.erase b = ∅)
    {client : ClientConnection} (hlook : s.service.inner.clients.lookup a = some client) :
    (handlers a).currentMode (s.clients a).handler = m ∧
      (a ≠ b → (s.service.inner.applications.get a).map ApplicationStatus.currentMode =
        some m) := by
  obtain ⟨conn, ⟨k'⟩⟩ := client
  have hf := h a conn k' hlook
  by_cases hab : a = b
  · -- it is about to be taken
    subst hab
    rw [hlook] at hb
    cases hb
    have hseat : (s.links k).task.seat? = some (a, c) := by rw [ht]; rfl
    obtain rfl := hw.same hlook hseat
    obtain ⟨id', previous', m', W', C', hs', -, hv⟩ :=
      hf.confirming (x := .modeCommitted a id m) hup (Option.some_ne_none _)
    rw [hs] at hs'
    cases hs'
    exact ⟨hv.adopted.2, fun hne => absurd rfl hne⟩
  · rw [hs] at hf
    rcases hf with ⟨hmem, -⟩ | ⟨-, hv⟩
    · have hleft := Finset.mem_erase.mpr ⟨hab, hmem⟩
      rw [hW] at hleft
      cases hleft
    · exact ⟨hv.adopted.2, fun _ => hv.mode⟩

/-- What is on record after the last confirmation. -/
theorem completed_get {t : SamService} {b : ApplicationId} {m : SystemMode} {now : Instant} :
    (completed t b m now).inner.applications.get a =
      if a = b then (t.inner.applications.get b).map fun status => { status with currentMode := m }
      else t.inner.applications.get a :=
  ApplicationRegistry.get_modify _

/-- **A completed transition leaves the records in agreement.**  In every calm run of SAM and
    disciplined applications with fewer than `2 ^ 64` registrations, the step that completes a
    transition to `m` finds everybody connected in `m`, has it on record of everybody, and stores
    and broadcasts the health that is reported. -/
theorem completion_agrees (handlers : ApplicationId → ModeHandler η ω) (timeout : Duration)
    (initial : ApplicationId → η) (inputs : List (Input η ω)) (input : Input η ω) {m : SystemMode}
    (hd : ∀ a, (handlers a).Disciplined)
    (hcalm : Machine.Always (step handlers) (fun s input => Calm s (step handlers s input))
      (System.new timeout initial) inputs) :
    let s := run handlers (System.new timeout initial) inputs
    s.registrations < 2 ^ 64 →
    CompletesTo s (step handlers s input) m →
    InAgreement handlers s (step handlers s input) m := by
  intro s hn hc
  have hw : Wired timeout s := wired_run timeout initial inputs hn
  have hfit : Consistent handlers s := consistent_run timeout initial inputs hd hcalm hn
  obtain ⟨b, c, k, id, up, now, tx, previous, W, C, ht, hup, hclients, hops, hb, hs, hW,
    hservice⟩ :=
    hc.confirmed hw.driven (step_move s input)
  have hall := fun a client (hlook : s.service.inner.clients.lookup a = some client) =>
    hfit.completing hw hb ht hup hs hW hlook
  have hlisted : Listed s.service.inner := hw.driven.listed
  -- everybody on record as connected is on record in the mode
  have hrecorded : ∀ a status,
      (completed s.service b m now).inner.applications.get a = some status →
      status.connected = true → status.currentMode = m := by
    intro a status hget hcon
    rw [completed_get] at hget
    split at hget
    · obtain ⟨old, -, rfl⟩ := Option.map_eq_some_iff.mp hget
      rfl
    · rename_i hne
      obtain ⟨client, hlook⟩ := (hlisted a).mpr ⟨status, hget, hcon⟩
      have hmode := (hall a client hlook).2 hne
      rw [hget] at hmode
      exact Option.some.inj hmode
  refine ⟨by rw [hservice]; rfl, fun a client hlook => ?_, by rw [hservice]; exact hrecorded,
    b, c, id, now, hops, ?_, ?_⟩
  · rw [hservice] at hlook
    rw [hclients]
    exact (hall a client hlook).1
  · rw [hservice]
    exact recalculateHealth_agreed hrecorded
  · rw [hservice]
    rfl

theorem completion_agrees_demo :
    let s := run (fun _ => recordingHandler)
      (System.new 2000000000 fun _ => .default) standby.dropLast
    InAgreement (fun _ => recordingHandler) s
      (step (fun _ => recordingHandler) s (.serverReceive 1 5)) .standby :=
  completion_agrees _ _ _ standby.dropLast (.serverReceive 1 5)
    (fun _ => recordingHandler_disciplined) (by decide +kernel) (by decide +kernel)
    ⟨⟨⟨1⟩, .startup, {Demo.guidance}, {Demo.navigation}, by decide +kernel⟩, by decide +kernel⟩

/-- The ids come round again: a heartbeat left on an earlier connection is accepted before the
    transition completes.  The run is calm, and nobody's channel has ever been full. -/
theorem completion_disagrees :
    let handlers : ApplicationId → ModeHandler RecordingHandler Unit := fun _ => recordingHandler
    let start : System RecordingHandler := System.new 2000000000 fun _ => .default
    let s := run handlers start (comingRound ++ mistaken)
    let s' := step handlers s (.serverReceive 0 4)
    Machine.Always (step handlers) (fun s input => Calm s (step handlers s input)) start
        (comingRound ++ mistaken ++ [.serverReceive 0 4]) ∧
      (∀ e ∈ s'.service.inner.clients.entries,
        (s'.service.channels e.2.outbound).refused = false) ∧
      CompletesTo s s' .standby ∧ ¬ InAgreement handlers s s' .standby := by
  intro handlers start s s'
  have hs : s = run handlers roundAgain mistaken := by
    show Machine.run (step handlers) start _ = _
    rw [Machine.run_append]
    exact congrArg (fun t => run handlers t mistaken) run_comingRound
  have hs' : s' = step handlers (run handlers roundAgain mistaken) (.serverReceive 0 4) :=
    congrArg (fun t => step handlers t (.serverReceive 0 4)) hs
  have hcalm : Machine.Always (step handlers) (fun s input => Calm s (step handlers s input)) start
      comingRound := by
    unfold comingRound
    rw [Machine.always_append]
    refine ⟨by decide +kernel, ?_⟩
    exact calm_reconnects left_repeatable (by decide +kernel) _
  refine ⟨?_, ?_, ⟨⟨⟨1⟩, .startup, {Demo.guidance}, {Demo.navigation}, ?_⟩, ?_⟩, fun h => ?_⟩
  · rw [List.append_assoc, Machine.always_append]
    refine ⟨hcalm, ?_⟩
    rw [show Machine.run (step handlers) start comingRound = roundAgain from run_comingRound]
    decide +kernel
  · rw [hs']
    decide +kernel
  · rw [hs]
    decide +kernel
  · rw [hs']
    decide +kernel
  · have hrecorded := h.recorded Demo.navigation
    rw [hs'] at hrecorded
    have hstatus : ((step handlers (run handlers roundAgain mistaken)
        (.serverReceive 0 4)).service.inner.applications.get Demo.navigation).map
        (fun status => (status.connected, status.currentMode)) = some (true, .startup) := by
      decide +kernel
    obtain ⟨status, hget, heq⟩ := Option.map_eq_some_iff.mp hstatus
    obtain ⟨hcon, hmode⟩ := Prod.mk.inj heq
    have hstandby := hrecorded status hget hcon
    rw [hmode] at hstandby
    cases hstandby

end System

end Sam
