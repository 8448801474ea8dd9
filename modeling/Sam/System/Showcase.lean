import Sam.Apps.Arguments
import Sam.Apps.DemoBounds
import Sam.System.Disturbance

/-!
# The showcase, from end to end

What the automatic demonstration polls at SAM's service is the work of session tasks and
applications.

* `rejected_wasRefused`, `carried_wasCarried` — what the demonstration takes for a rejection, and
  for a transition carried out, is one.
* `showcase_end_to_end` — when the showcase has passed, applications have refused and then carried
  out the transition to `Working`.
* `showcase_needs_rejection` — with the demo applications it passes only if one was told to reject.
-/

namespace Sam

open TwoPhase AutoDemo

variable {η ω : Type*}

theorem ModeHandler.Keeps.and {h : ModeHandler η ω} {I J : η → Prop} (hi : h.Keeps I)
    (hj : h.Keeps J) :
    h.Keeps fun self => I self ∧ J self where
  prepare w m self hself := ⟨hi.prepare w m self hself.1, hj.prepare w m self hself.2⟩
  commit w m self hself := ⟨hi.commit w m self hself.1, hj.commit w m self hself.2⟩
  synchronize w m self hself := ⟨hi.synchronize w m self hself.1, hj.synchronize w m self hself.2⟩
  abort w id self hself := ⟨hi.abort w id self hself.1, hj.abort w id self hself.2⟩
  stateChanged w m health self hself :=
    ⟨hi.stateChanged w m health self hself.1, hj.stateChanged w m health self hself.2⟩

/-- A handler that agrees is never recorded to have refused. -/
theorem ModeHandler.agrees_call {h : ModeHandler η ω} {w : ω} {a : ApplicationId} {self : η}
    (hagrees : ∀ mode, (h.prepareMode w mode self).1 = .ok ()) (message : SamToApplication)
    (id : TransitionId) (m : SystemMode) :
    (h.messageReceived w a self message).call ≠ some (.prepareMode id m false) := by
  unfold ModeHandler.messageReceived
  cases message with
  | prepareMode id' mode =>
    have hmode := hagrees mode
    dsimp only
    split
    · rintro ⟨⟩
    · rename_i reason handler heq
      rw [heq] at hmode
      cases hmode
  | commitMode id' mode => dsimp only; split <;> rintro ⟨⟩
  | abortMode | stateBroadcast | registerAccepted | registerRejected => rintro ⟨⟩

namespace SamService

variable {s : SamService} {op : Operation} {a : ApplicationId} {id : TransitionId}

/-- A request that is granted is an event. -/
theorem event_granted {target : SystemMode} (h : (s.requestMode target).1 = .ok id) :
    s.event (.requestMode target) = some (.requested id target s.inner.clients.keys.toFinset) := by
  simp only [event, h]

end SamService

namespace System

variable {handlers : ApplicationId → ModeHandler η ω} {timeout : Duration} {s s' : System η}
  {k : Nat} {link : Link} {ops : List Operation} {id : TransitionId} {m : SystemMode}
  {P : Finset ApplicationId} {v : ApplicationId}

/-! ## The demonstration in the system -/

/-- A transition to `m` was requested, a participant has refused, and nobody has committed it. -/
def WasRefused (timeout : Duration) (s : System η) (m : SystemMode) : Prop :=
  ∃ id P v reason, .requested id m P ∈ s.events timeout ∧ v ∈ P ∧
    s.Ran v (.prepareMode id m false) (some (.modeRejected v id reason)) ∧
    ∀ a m' ok answer, ¬ s.Ran a (.commitMode id m' ok) answer

/-- A transition to `m` was requested, and all participants have committed it. -/
def WasCarried (timeout : Duration) (s : System η) (m : SystemMode) : Prop :=
  ∃ id P, .requested id m P ∈ s.events timeout ∧ P.Nonempty ∧
    ∀ q ∈ P, s.Ran q (.commitMode id m true) (some (.modeCommitted q id m))

theorem granted_requested {a rest : List Operation}
    (hops : s.operations = a ++ .requestMode m :: rest)
    (hid : (((service₀ timeout).run a).requestMode m).1 = .ok id) :
    ∃ P, P.Nonempty ∧ .requested id m P ∈ s.events timeout := by
  obtain ⟨current, -, -, hP, -, -⟩ := SamService.granted_step hid
  refine ⟨_, hP, Machine.mem_log.mpr ⟨a, .requestMode m, rest, hops, ?_⟩⟩
  rw [Option.mem_toList]
  exact SamService.event_granted hid

theorem rejected_uncommitted (hd : Driven timeout s) (hr : Received s) (ha : Accounted timeout s)
    (hcount : (s.events timeout).countP Event.isRequest < 2 ^ 64)
    (hv : .rejected v id ∈ s.events timeout) :
    ∀ a m' ok answer, ¬ s.Ran a (.commitMode id m' ok) answer := by
  obtain ⟨-, H, hR⟩ := hd.refines
  have hlog : s.events timeout = TwoPhase.events H := hR.events
  rw [hlog] at hv
  intro a m' ok answer hran
  exact abort_excludes_commit (hR.ids_nodup hcount) hv
    (ran_order hd hr ha hR hran (.commit id m') rfl)

section Run

variable {initial : ApplicationId → η} {inputs : List (Input η ω)} {h h' : List Operation}

/-- What the demonstration takes for a rejection is one. -/
theorem rejected_wasRefused (hs : s = run handlers (System.new timeout initial) inputs)
    (hcount : (s.events timeout).countP Event.isRequest < 2 ^ 64)
    (hrej : Rejected (service₀ timeout) m h h') (hpre : h' <+: s.operations) :
    WasRefused timeout s m := by
  have hd : Driven timeout s := hs ▸ driven_run timeout initial inputs
  have hr : Received s := hs ▸ received_run timeout initial inputs
  have ha : Accounted timeout s := hs ▸ accounted_run timeout initial inputs
  have hf : AccountedFor (fun _ => False) s := hs ▸ accountedFor_run timeout initial inputs
  obtain ⟨id, v, a, b, op, c, rfl, -, hid, hev⟩ := hrej
  obtain ⟨rest, hops⟩ := hpre
  have hrequest : s.operations = a ++ .requestMode m :: (b ++ op :: c ++ rest) := by
    rw [← hops]
    simp
  have hanswer : s.operations = (a ++ .requestMode m :: b) ++ op :: (c ++ rest) := by
    rw [← hops]
    simp
  obtain ⟨P, -, hP⟩ := granted_requested hrequest hid
  have hv : .rejected v id ∈ s.events timeout := by
    refine Machine.mem_log.mpr ⟨_, op, _, hanswer, ?_⟩
    rw [Option.mem_toList]
    exact hev
  obtain ⟨hmem, reason, -, -, -, hran⟩ := hf.rejection hd hr hcount hP hanswer hev
  exact ⟨id, P, v, reason, hP, hmem, hran fun _ h => h.elim,
    rejected_uncommitted hd hr ha hcount hv⟩

/-- What it takes for carried out has been carried out. -/
theorem carried_wasCarried (hs : s = run handlers (System.new timeout initial) inputs)
    (hcount : (s.events timeout).countP Event.isRequest < 2 ^ 64)
    (hcar : Carried (service₀ timeout) m h h') (hpre : h' <+: s.operations) :
    WasCarried timeout s m := by
  have hd : Driven timeout s := hs ▸ driven_run timeout initial inputs
  have ha : Accounted timeout s := hs ▸ accounted_run timeout initial inputs
  obtain ⟨id, a, b, op, c, rfl, -, hid, hmode, hne, v, hev⟩ := hcar
  obtain ⟨rest, hops⟩ := hpre
  have hrequest : s.operations = a ++ .requestMode m :: (b ++ op :: c ++ rest) := by
    rw [← hops]
    simp
  have hanswer : s.operations = (a ++ .requestMode m :: b) ++ op :: (c ++ rest) := by
    rw [← hops]
    simp
  obtain ⟨P, hnonempty, hP⟩ := granted_requested hrequest hid
  obtain ⟨P', hP', hall⟩ := completes_confirmed hanswer
    ⟨fun heq => hne (heq.symm.trans hmode), hmode, v, m, hev⟩
  obtain ⟨-, H, hR⟩ := hd.refines
  have hlog : s.events timeout = TwoPhase.events H := hR.events
  obtain ⟨-, rfl⟩ := request_unique (hR.ids_nodup hcount) (hlog ▸ hP) (hlog ▸ hP')
  exact ⟨id, P', hP, hnonempty, fun q hq => ha.committed q id m (hall q hq)⟩

/-- The demonstration requests few modes, and it is the only one to request them. -/
theorem demo_requests {limit : Instant} {config : AutoDemoConfig} {env : Nat → Moment Operation}
    {now fuel : Nat} {p : Past Operation} {r : Except Stop Unit}
    (henv : Routine.Steady Operation.Other env) (hnow : now ≤ (env 0).now)
    (hrun : (runAutoDemo limit (service₀ timeout) config).run.run fuel env ⟨[], now, 0⟩ =
      some (r, p))
    (hops : s.operations = p.steps) : (s.events timeout).countP Event.isRequest < 2 ^ 64 := by
  have hfew := passed_requests henv hnow hrun (service₀ timeout)
  unfold events
  rw [hops]
  exact hfew.trans_lt (by decide)

end Run

/-- **The demonstration, end to end.**  When it has passed, with the operations of SAM's service
    being those of a run of SAM and its applications, the modes it went through were committed by
    every participant, and in the showcase a participant had refused `Working` before. -/
theorem showcase_end_to_end (limit : Instant) (handlers : ApplicationId → ModeHandler η ω)
    (timeout : Duration) (initial : ApplicationId → η) (inputs : List (Input η ω))
    (config : AutoDemoConfig)
    (env : Nat → Moment Operation) (henv : Routine.Steady Operation.Other env) (now : Nat)
    (hnow : now ≤ (env 0).now) (fuel : Nat) (p : Past Operation)
    (hrun : (runAutoDemo limit (service₀ timeout) config).run.run fuel env ⟨[], now, 0⟩ =
      some (.ok (), p)) :
    let s := run handlers (System.new timeout initial) inputs
    s.operations = p.steps →
    (config.showcase = true → WasRefused timeout s .working) ∧
    WasCarried timeout s .working ∧ WasCarried timeout s .standby := by
  intro s hops
  have hcount : (s.events timeout).countP Event.isRequest < 2 ^ 64 :=
    demo_requests henv hnow hrun hops
  have hcarried : ∀ m, Carried (service₀ timeout) m ∈ retry (service₀ timeout) →
      WasCarried timeout s m := by
    intro m hm
    have hmem : Carried (service₀ timeout) m ∈ agenda (service₀ timeout) config := by
      unfold agenda
      split
      · exact List.mem_cons_of_mem _ (List.mem_append_right _ (List.mem_cons_of_mem _ hm))
      · exact List.mem_cons_of_mem _ (List.mem_cons_of_mem _ hm)
    obtain ⟨k, k', hcar, hpre⟩ := passed_happened henv hnow hrun hmem
    exact carried_wasCarried rfl hcount hcar (hops ▸ hpre)
  refine ⟨fun hshowcase => ?_, hcarried .working (by simp [retry]), hcarried .standby
    (by simp [retry])⟩
  have hmem : Rejected (service₀ timeout) .working ∈ agenda (service₀ timeout) config := by
    simp [agenda, hshowcase]
  obtain ⟨k, k', hrej, hpre⟩ := passed_happened henv hnow hrun hmem
  exact rejected_wasRefused rfl hcount hrej (hops ▸ hpre)

/-- `telemetry` loses its power in Standby, comes back with `--reject-working-once`, and is asked
    for `Working` twice. -/
def powerCycle : List (Input DemoHandler Unit) :=
  [.connect telemetry 0, .serverReceive 0 0, .serverSend 0 true, .clientReceive telemetry () true,
    .requestMode .standby,
    .serverSend 0 true, .clientReceive telemetry () true, .serverReceive 0 1,
    .serverSend 0 true, .clientReceive telemetry () true, .serverReceive 0 2,
    .clientClose telemetry, .serverClose 0 3,
    .restart telemetry ((DemoHandler.new "telemetry" false .healthy).withRejectWorkingOnce true),
    .connect telemetry 1, .serverReceive 1 4, .serverSend 1 true, .clientReceive telemetry () true,
    .clientHeartbeat telemetry () true, .serverReceive 1 5, .serverSend 1 true,
    .clientReceive telemetry () true,
    .requestMode .working,
    .serverSend 1 true, .clientReceive telemetry () true, .serverReceive 1 6,
    .serverSend 1 true, .clientReceive telemetry () true,
    .requestMode .working,
    .serverSend 1 true, .clientReceive telemetry () true, .serverReceive 1 7,
    .serverSend 1 true, .clientReceive telemetry () true, .serverReceive 1 8,
    .serverSend 1 true, .clientReceive telemetry () true,
    .requestMode .standby,
    .serverSend 1 true, .clientReceive telemetry () true, .serverReceive 1 9,
    .serverSend 1 true, .clientReceive telemetry () true, .serverReceive 1 10]

/-- SAM and `telemetry` after that. -/
def cycled : System DemoHandler :=
  run (fun _ => demoHandler) (System.new 2000000000 fun a => .new a.value false .healthy) powerCycle

/-- When the demonstration finds the operations of the session tasks done. -/
def cycledScript : List (Nat × List Operation) :=
  [(0, cycled.operations.take 2), (6, (cycled.operations.drop 3).take 4),
    (9, (cycled.operations.drop 7).take 2), (14, (cycled.operations.drop 9).take 4),
    (24, (cycled.operations.drop 14).take 3), (31, (cycled.operations.drop 18).take 5),
    (37, cycled.operations.drop 24)]

theorem cycled_passed :
    ∃ p, (runAutoDemo lastInstant (service₀ 2000000000) oneApplication).run.run 1
      (scripted cycledScript) ⟨[], 0, 0⟩ = some (.ok (), p) ∧ cycled.operations = p.steps := by
  have hrun : ((runAutoDemo lastInstant (service₀ 2000000000) oneApplication).run.run 1
      (scripted cycledScript) ⟨[], 0, 0⟩).map (fun r => (r.1, r.2.steps)) =
        some (.ok (), cycled.operations) := by
    decide +kernel
  obtain ⟨⟨r, p⟩, hp, heq⟩ := Option.map_eq_some_iff.mp hrun
  obtain ⟨rfl, hsteps⟩ := Prod.ext_iff.mp heq
  exact ⟨p, hp, hsteps.symm⟩

theorem showcase_end_to_end_demo :
    WasRefused 2000000000 cycled .working ∧ WasCarried 2000000000 cycled .working := by
  obtain ⟨p, hrun, hops⟩ := cycled_passed
  obtain ⟨hrefused, hcarried, -⟩ := showcase_end_to_end lastInstant (fun _ => demoHandler)
    2000000000 (fun a => .new a.value false .healthy) powerCycle oneApplication
    (scripted cycledScript) (scripted_steady (by decide +kernel)) 0 le_rfl 1 p hrun hops
  exact ⟨hrefused rfl, hcarried⟩

/-! ## Who has to refuse -/

/-- A demo application that was told nothing agrees to everything. -/
theorem demoHandler_agrees {self : DemoHandler} (hself : self.rejectWorking = false)
    (howed : self.owed ≤ 0) (w : Unit) (mode : SystemMode) :
    (demoHandler.prepareMode w mode self).1 = .ok () := by
  have honce : self.rejectWorkingOnce = false := by
    unfold DemoHandler.owed at howed
    split at howed
    · omega
    · rename_i h
      exact Bool.eq_false_iff.mpr h
  show (self.prepareMode mode).1 = .ok ()
  unfold DemoHandler.prepareMode
  rw [hself, honce, Bool.or_self, if_neg (by simp)]

/-- **The showcase of the demo applications passes only if one of them was told to reject.** -/
theorem showcase_needs_rejection (limit : Instant) (timeout : Duration)
    (initial : ApplicationId → DemoHandler) (inputs : List (Input DemoHandler Unit))
    (config : AutoDemoConfig) (hshowcase : config.showcase = true) (env : Nat → Moment Operation)
    (henv : Routine.Steady Operation.Other env) (now : Nat)
    (hnow : now ≤ (env 0).now) (fuel : Nat) (p : Past Operation)
    (hrun : (runAutoDemo limit (service₀ timeout) config).run.run fuel env ⟨[], now, 0⟩ =
      some (.ok (), p)) :
    let s := run (fun _ => demoHandler) (System.new timeout initial) inputs
    s.operations = p.steps →
    ∃ a, ∃ self ∈ processes initial inputs a,
      (self.rejectWorking = true ∨ self.rejectWorkingOnce = true) ∧
      ∀ args delay, DemoHandler.ofArgs a.value args = .ok (self, delay) →
        "--reject-working" ∈ args ∨ a.value = "telemetry" ∧ "--reject-working-once" ∈ args := by
  intro s hops
  have hcount : (s.events timeout).countP Event.isRequest < 2 ^ 64 :=
    demo_requests henv hnow hrun hops
  suffices htold : ∃ a, ∃ self ∈ processes initial inputs a,
      self.rejectWorking = true ∨ self.rejectWorkingOnce = true by
    obtain ⟨a, self, hself, hreject⟩ := htold
    refine ⟨a, self, hself, hreject, fun args delay hargs => ?_⟩
    obtain ⟨halways, honce⟩ := ofArgs_told hargs
    exact hreject.imp halways.mp honce.mp
  have hmem : Rejected (service₀ timeout) .working ∈ agenda (service₀ timeout) config := by
    simp [agenda, hshowcase]
  obtain ⟨k, k', hrej, hpre⟩ := passed_happened henv hnow hrun hmem
  obtain ⟨id, P, v, reason, -, -, hran, -⟩ := rejected_wasRefused rfl hcount hrej (hops ▸ hpre)
  by_contra hnone
  -- nothing has made a process of `v` refuse
  have hkeeps : demoHandler.Keeps fun self => self.rejectWorking = false ∧ self.owed ≤ 0 :=
    demoHandler_keeps.and (demoHandler_keeps_owed 0)
  refine never_called hkeeps (fun w self message hself => ?_) (fun self hself => ⟨?_, ?_⟩)
    (mem_callbacks.mpr ⟨_, hran⟩)
  · exact ModeHandler.agrees_call (demoHandler_agrees hself.1 hself.2 w) message id .working
  · exact Bool.eq_false_iff.mpr fun h => hnone ⟨v, self, hself, .inl h⟩
  · unfold DemoHandler.owed
    rw [if_neg fun h => hnone ⟨v, self, hself, .inr h⟩]

theorem showcase_needs_rejection_demo :
    ∃ a, ∃ self ∈ processes (fun a => .new a.value false .healthy) powerCycle a,
      (self.rejectWorking = true ∨ self.rejectWorkingOnce = true) ∧
      ∀ args delay, DemoHandler.ofArgs a.value args = .ok (self, delay) →
        "--reject-working" ∈ args ∨ a.value = "telemetry" ∧ "--reject-working-once" ∈ args := by
  obtain ⟨p, hrun, hops⟩ := cycled_passed
  exact showcase_needs_rejection lastInstant 2000000000
    (fun a => .new a.value false .healthy) powerCycle
    oneApplication rfl (scripted cycledScript)
      (scripted_steady (by decide +kernel)) 0 le_rfl 1 p hrun
    hops

end System

end Sam
