import Sam.Apps.AutoDemo

/-!
# The demonstration is bounded

Whatever the others do, the demonstration comes to an end and requests few modes.

* `Ends` — a function of the demonstration comes to an end, and panics only when the clock and the
  timeout are beyond the last `Instant`; there is one `ends_…` for each function.
* `auto_demo_returns` — so does the demonstration.
* `Asks` — a function of the demonstration requests at most so many modes; there is one `asks_…` for
  each function.
* `passed_requests` — at most four in all.
-/

namespace Sam

open SamService Routine

namespace AutoDemo

variable {limit : Instant} {start : SamService} {α β : Type} {timeout : Duration}
  {target : SystemMode} {env : Nat → Moment Operation} {p : Past Operation}

/-! ## It comes to an end -/

/-- The function comes to an end, and panics only when `limit` is less than the timeout away. -/
def Ends (limit : Instant) (timeout : Duration) (env : Nat → Moment Operation)
    (f : Demonstration α) : Prop :=
  Returns env f.run fun r p => r = .error .panic → limit ≤ p.now + timeout

section Ends

theorem ends_pure (a : α) : Ends limit timeout env (pure a) := returns_pure (by rintro _ ⟨⟩)

theorem Ends.bind {f : Demonstration α} {g : α → Demonstration β} (hf : Ends limit timeout env f)
    (hg : ∀ a, Ends limit timeout env (g a)) : Ends limit timeout env (f >>= g) := by
  refine returns_bindE (hf.imp fun r p h => ?_) hg
  rintro e rfl ⟨⟩
  exact h rfl

theorem ends_lift {t : Routine Operation α} (h : Returns env t fun _ _ => True) :
    Ends limit timeout env (ExceptT.lift t) :=
  returns_lift h (by rintro _ _ ⟨⟩)

/-- Looking at the service takes no time. -/
theorem ends_look (f : List Operation → α) : Ends limit timeout env (ExceptT.lift (look f)) :=
  ends_lift (returns_look fun _ => trivial)

theorem ends_nowPlus : Ends limit timeout env (nowPlus limit timeout) := by
  intro p
  by_cases h : (p.next env).now + timeout < limit
  · refine ⟨0, .ok ((p.next env).now + timeout), p.next env, ?_, by rintro ⟨⟩⟩
    show (if _ then _ else _ : Routine Operation _).run 0 env (p.next env) = _
    rw [if_pos h]
    rfl
  · refine ⟨0, .error .panic, p.next env, ?_, fun _ => Nat.not_lt.mp h⟩
    show (if _ then _ else _ : Routine Operation _).run 0 env (p.next env) = _
    rw [if_neg h]
    rfl

/-- **Polling ends**, whatever is polled for. -/
theorem ends_poll (henv : Onward env) {check : Routine Operation (Except AutoDemoError Unit)}
    (hcheck : Returns env check fun _ _ => True) :
    Ends limit timeout env (poll limit timeout check) := by
  refine ends_nowPlus.bind fun deadline => ?_
  refine returns_bind (returns_waitUntil henv hcheck deadline POLL_INTERVAL) fun r => ?_
  refine returns_pure fun p h => ?_
  cases r <;> cases h

theorem ends_hold (henv : Onward env) (config : AutoDemoConfig) :
    Ends limit timeout env (hold config) := ends_lift (returns_sleep henv config.hold)

theorem returns_applications : Returns env (applications start) fun _ _ => True :=
  returns_bind (returns_clock (Q := fun _ _ => True) fun _ => trivial) fun _ =>
    returns_look fun _ => trivial

theorem returns_snapshot : Returns env (snapshot start) fun _ _ => True :=
  returns_look fun _ => trivial

theorem returns_transitionInProgress : Returns env (transitionInProgress start) fun _ _ => True :=
  returns_look fun _ => trivial

theorem ends_waitForApplications (henv : Onward env) {expected : Nat} :
    Ends limit timeout env (waitForApplications limit start expected timeout) := by
  refine ends_poll henv (returns_bind returns_applications fun rows => ?_)
  dsimp only
  split <;> exact returns_pure fun _ => trivial

theorem ends_waitForApplication (henv : Onward env) {name : String}
    {connected synchronized : Bool} :
    Ends limit timeout env
      (waitForApplication limit start name connected synchronized timeout) := by
  refine ends_poll henv (returns_bind returns_applications fun rows => ?_)
  split <;> exact returns_pure fun _ => trivial

theorem ends_waitForHealth (henv : Onward env) {expected : HealthState} :
    Ends limit timeout env (waitForHealth limit start expected timeout) := by
  refine ends_poll henv (returns_bind returns_snapshot fun state => ?_)
  dsimp only
  split <;> exact returns_pure fun _ => trivial

theorem ends_requestMode : Ends limit timeout env (requestMode start target) := by
  unfold Ends AutoDemo.requestMode
  rw [ExceptT.run_mk]
  refine returns_act fun steps p h => ?_
  split at h <;> cases h

theorem ends_transitionTo (henv : Onward env) :
    Ends limit timeout env (transitionTo limit start target timeout) := by
  refine (ends_look _).bind fun state => ?_
  split
  · exact ends_pure _
  · refine ends_requestMode.bind fun id => ?_
    refine ends_poll henv (returns_bind returns_snapshot fun state => ?_)
    split <;> exact returns_pure fun _ => trivial

theorem ends_expectRejectedTransition (henv : Onward env) :
    Ends limit timeout env (expectRejectedTransition limit start target timeout) := by
  refine (ends_look _).bind fun original => ?_
  refine ends_requestMode.bind fun id => ?_
  refine (ends_poll henv (returns_bind returns_transitionInProgress fun b => ?_)).bind fun _ => ?_
  · split <;> exact returns_pure fun _ => trivial
  · refine (ends_look _).bind fun final => ?_
    dsimp only
    split
    · exact returns_pure (by rintro _ ⟨⟩)
    · exact ends_pure _

theorem ends_runShowcase (henv : Onward env) (config : AutoDemoConfig) :
    Ends limit config.timeout env (runShowcase limit start config) := by
  unfold runShowcase
  refine (ends_transitionTo henv).bind fun _ => ?_
  refine (ends_hold henv config).bind fun _ => ?_
  refine (ends_waitForApplication henv).bind fun _ => ?_
  refine (ends_waitForHealth henv).bind fun _ => ?_
  refine (ends_waitForApplication henv).bind fun _ => ?_
  refine (ends_waitForHealth henv).bind fun _ => ?_
  refine (ends_hold henv config).bind fun _ => ?_
  refine (ends_expectRejectedTransition henv).bind fun _ => ?_
  refine (ends_hold henv config).bind fun _ => ?_
  refine (ends_transitionTo henv).bind fun _ => ?_
  refine (ends_hold henv config).bind fun _ => ?_
  exact ends_transitionTo henv

theorem ends_transitions (henv : Onward env) (config : AutoDemoConfig) (targets : List SystemMode) :
    Ends limit config.timeout env (transitions limit start config targets) := by
  induction targets with
  | nil => exact ends_pure _
  | cons target targets ih =>
    refine (ends_transitionTo henv).bind fun _ => ?_
    exact (ends_hold henv config).bind fun _ => ih

end Ends

/-! ## It requests few modes -/

/-- The requests there have been. -/
def requests (ops : List Operation) : Nat := ops.countP fun op => ¬ op.Other

theorem requests_append (ops ops' : List Operation) :
    requests (ops ++ ops') = requests ops + requests ops' := List.countP_append

/-- Others request nothing. -/
theorem requests_stable (c : Nat) :
    Stable Operation.Other fun p : Past Operation => requests p.steps ≤ c := by
  rintro p p' ⟨⟨l, hl, hother⟩, -⟩ h
  have hnone : requests l = 0 := List.countP_eq_zero.mpr fun op hop => by simpa using hother op hop
  show requests p'.steps ≤ c
  rw [hl, requests_append, hnone]
  exact h

/-- The function requests at most `n` modes. -/
def Asks (n : Nat) (f : Demonstration α) : Prop :=
  ∀ c, Triple Operation.Other (fun p => requests p.steps ≤ c) f.run fun _ p =>
    requests p.steps ≤ c + n

section Asks

variable {n k : Nat} {f : Demonstration α}

theorem asks_pure (a : α) : Asks n (pure a : Demonstration α) :=
  fun c => triple_pure fun _ h => h.trans (Nat.le_add_right c n)

theorem Asks.bind {g : α → Demonstration β} (hf : Asks n f) (hg : ∀ a, Asks k (g a)) :
    Asks (n + k) (f >>= g) := by
  intro c
  refine triple_bindE ((hf c).imp (fun _ h => h) ?_) fun a => (hg a (c + n)).imp (fun _ h => h) ?_
  · rintro (e | a) p h
    · exact h.trans (by omega)
    · exact h
  · intro b p h
    exact h.trans (by omega)

/-- What only looks requests nothing. -/
theorem asks_lift {t : Routine Operation α}
    (h : ∀ c, Triple Operation.Other (fun p => requests p.steps ≤ c) t fun _ p =>
      requests p.steps ≤ c) :
    Asks 0 (ExceptT.lift t) := fun c => triple_lift (h c)

theorem asks_snapshot : Asks 0 (ExceptT.lift (snapshot start)) :=
  asks_lift fun c => (triple_snapshot (requests_stable c)).imp (fun _ h => h) fun _ _ h => h.2

theorem asks_hold (config : AutoDemoConfig) : Asks 0 (hold config) :=
  asks_lift fun c => triple_sleep config.hold (requests_stable c)

theorem asks_nowPlus : Asks 0 (nowPlus limit timeout) := by
  intro c
  refine triple_bind (R := fun _ p => requests p.steps ≤ c)
    (triple_clock (requests_stable c)) fun now => ?_
  split <;> exact triple_pure fun _ h => h

/-- Polling requests nothing if the check does not. -/
theorem asks_poll {check : Routine Operation (Except AutoDemoError Unit)}
    (h : ∀ c, Triple Operation.Other (fun p => requests p.steps ≤ c) check
      fun _ p => requests p.steps ≤ c) : Asks 0 (poll limit timeout check) := by
  refine Asks.bind (n := 0) (k := 0) asks_nowPlus fun deadline c => ?_
  refine triple_bind (R := fun _ p => requests p.steps ≤ c) ?_ fun r => triple_pure fun _ h => h
  refine triple_waitUntil (J := fun _ p => requests p.steps ≤ c) (fun _ => requests_stable c)
    ((h c).imp (fun _ h => h) ?_) (fun _ _ h => h) fun _ _ h _ => h
  rintro (e | a) p h <;> exact h

theorem asks_requestMode : Asks 1 (requestMode start target) := by
  intro c
  unfold AutoDemo.requestMode
  rw [ExceptT.run_mk]
  refine triple_act fun p p' hl h => ?_
  have hp' := requests_stable c p p' hl h
  show requests (p'.steps ++ [.requestMode target]) ≤ c + 1
  rw [requests_append]
  exact Nat.add_le_add_right hp' 1

theorem asks_applications (c : Nat) : Triple Operation.Other (fun p => requests p.steps ≤ c)
    (applications start) fun _ p => requests p.steps ≤ c :=
  (triple_applications (requests_stable c)).imp (fun _ h => h) fun _ _ h => h.2

theorem asks_waitForApplications {expected : Nat} :
    Asks 0 (waitForApplications limit start expected timeout) := by
  refine asks_poll fun c => triple_bind (asks_applications c) fun rows => ?_
  dsimp only
  split <;> exact triple_pure fun _ h => h

theorem asks_waitForApplication {name : String} {connected synchronized : Bool} :
    Asks 0 (waitForApplication limit start name connected synchronized timeout) := by
  refine asks_poll fun c => triple_bind (asks_applications c) fun rows => ?_
  split <;> exact triple_pure fun _ h => h

theorem asks_waitForHealth {expected : HealthState} :
    Asks 0 (waitForHealth limit start expected timeout) := by
  refine asks_poll fun c => triple_bind (triple_snapshot (requests_stable c)) fun state => ?_
  dsimp only
  split <;> exact triple_pure fun _ h => h.2

theorem asks_transitionTo : Asks 1 (transitionTo limit start target timeout) := by
  refine Asks.bind (n := 0) (k := 1) asks_snapshot fun state => ?_
  split
  · exact asks_pure _
  · refine Asks.bind (n := 1) (k := 0) asks_requestMode fun id => ?_
    refine asks_poll fun c => triple_bind (triple_snapshot (requests_stable c)) fun state => ?_
    split <;> exact triple_pure fun _ h => h.2

theorem asks_expectRejectedTransition :
    Asks 1 (expectRejectedTransition limit start target timeout) := by
  refine Asks.bind (n := 0) (k := 1) asks_snapshot fun original => ?_
  refine Asks.bind (n := 1) (k := 0) asks_requestMode fun id => ?_
  refine Asks.bind (n := 0) (k := 0) ?_ fun _ => ?_
  · refine asks_poll fun c => ?_
    refine triple_bind (triple_transitionInProgress (requests_stable c)) fun b => ?_
    split <;> exact triple_pure fun _ h => h.2
  · refine Asks.bind (n := 0) (k := 0) asks_snapshot fun final => ?_
    dsimp only
    split
    · exact fun c => triple_pure fun _ h => h
    · exact asks_pure _

theorem asks_runShowcase (config : AutoDemoConfig) : Asks 4 (runShowcase limit start config) := by
  unfold runShowcase
  refine Asks.bind (n := 1) (k := 3) asks_transitionTo fun _ => ?_
  refine Asks.bind (n := 0) (k := 3) (asks_hold config) fun _ => ?_
  refine Asks.bind (n := 0) (k := 3) asks_waitForApplication fun _ => ?_
  refine Asks.bind (n := 0) (k := 3) asks_waitForHealth fun _ => ?_
  refine Asks.bind (n := 0) (k := 3) asks_waitForApplication fun _ => ?_
  refine Asks.bind (n := 0) (k := 3) asks_waitForHealth fun _ => ?_
  refine Asks.bind (n := 0) (k := 3) (asks_hold config) fun _ => ?_
  refine Asks.bind (n := 1) (k := 2) asks_expectRejectedTransition fun _ => ?_
  refine Asks.bind (n := 0) (k := 2) (asks_hold config) fun _ => ?_
  refine Asks.bind (n := 1) (k := 1) asks_transitionTo fun _ => ?_
  refine Asks.bind (n := 0) (k := 1) (asks_hold config) fun _ => ?_
  exact asks_transitionTo

theorem asks_transitions (config : AutoDemoConfig) (targets : List SystemMode) :
    Asks targets.length (transitions limit start config targets) := by
  induction targets with
  | nil => exact asks_pure _
  | cons target targets ih =>
    rw [List.length_cons, Nat.add_comm]
    refine Asks.bind (n := 1) asks_transitionTo fun _ => ?_
    rw [← Nat.zero_add targets.length]
    exact (asks_hold config).bind fun _ => ih

theorem asks_runAutoDemo (config : AutoDemoConfig) : Asks 4 (runAutoDemo limit start config) := by
  unfold runAutoDemo
  refine Asks.bind (n := 0) (k := 4) asks_waitForApplications fun _ => ?_
  split
  · exact asks_runShowcase config
  · intro c
    refine (asks_transitions config [.standby, .working, .standby] c).imp (fun _ h => h) ?_
    exact fun _ p h => h.trans (Nat.le_succ _)

end Asks

/-- Each event of a request is a request. -/
theorem countP_isRequest (s : SamService) (ops : List Operation) :
    (s.eventLog ops).countP TwoPhase.Event.isRequest ≤ requests ops := by
  induction ops using List.reverseRecOn with
  | nil => exact le_rfl
  | append_singleton ops op ih =>
    rw [eventLog_concat, List.countP_append, requests_append]
    refine Nat.add_le_add ih ?_
    by_cases hop : op.Other
    · refine le_of_eq_of_le (List.countP_eq_zero.mpr fun e he hreq => ?_) (Nat.zero_le _)
      obtain ⟨target, rfl⟩ := event_isRequest he hreq
      exact hop
    · refine List.countP_le_length.trans ?_
      have hone : requests [op] = 1 := by simp [requests, hop]
      rw [hone]
      cases (s.run ops).event op with
      | none => exact Nat.zero_le 1
      | some e => exact le_rfl

/-- **The whole demonstration requests at most four modes**, and nobody else does meanwhile. -/
theorem passed_requests {config : AutoDemoConfig} {now fuel : Nat}
    (henv : Steady Operation.Other env) (hnow : now ≤ (env 0).now) {r : Except Stop Unit}
    (h : (runAutoDemo limit start config).run.run fuel env ⟨[], now, 0⟩ = some (r, p))
    (s : SamService) :
    (s.eventLog p.steps).countP TwoPhase.Event.isRequest ≤ 4 :=
  (countP_isRequest s p.steps).trans
    (asks_runAutoDemo config 0 fuel env ⟨[], now, 0⟩ henv hnow le_rfl r p h).2

end AutoDemo

open AutoDemo

/-- **The demonstration ends**, whatever the others do, as long as time goes on: it returns, or it
    panics, and then the time and the timeout are beyond the last `Instant`. -/
theorem auto_demo_returns (limit : Instant) (start : SamService) (config : AutoDemoConfig)
    (env : Nat → Moment Operation) (henv : Onward env) (p : Past Operation) :
    ∃ fuel r p', (runAutoDemo limit start config).run.run fuel env p = some (r, p') ∧
      (r = .error .panic → limit ≤ p'.now + config.timeout) := by
  have hends : Ends limit config.timeout env (runAutoDemo limit start config) := by
    refine (ends_waitForApplications henv).bind fun _ => ?_
    split
    · exact ends_runShowcase henv config
    · exact ends_transitions henv config [.standby, .working, .standby]
  exact hends p

theorem auto_demo_returns_demo :
    ∃ fuel r p',
      (runAutoDemo lastInstant (.new 2000000000 fun _ => .new 64) oneApplication).run.run fuel
      (scripted []) ⟨[], 0, 0⟩ = some (r, p') ∧
        (r = .error .panic → lastInstant ≤ p'.now + oneApplication.timeout) :=
  auto_demo_returns lastInstant (.new 2000000000 fun _ => .new 64) oneApplication (scripted [])
    (scripted_onward []) ⟨[], 0, 0⟩

/-- With the longest timeout a command line can give, it panics at once. -/
example : ((runAutoDemo lastInstant (.new 2000000000 fun _ => .new 64)
    ⟨true, false, 1, (2 ^ 64 - 1) * 1000000000, 0⟩).run.run 0 (scripted []) ⟨[], 0, 0⟩).map (·.1) =
      some (.error .panic) := by decide

end Sam
