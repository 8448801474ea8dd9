import Sam.Library.Routine
import Sam.Service.Course

/-!
# The automatic demonstration (`apps/sam/src/auto_demo.rs`)

With `--auto-demo` or `--auto-showcase` SAM's process drives its own service instead of reading
commands: it waits for applications, requests transitions and polls until they are through, always
with a deadline.  It is a routine that shares the service with the session tasks, which do what they
like but do not request modes.  `Instant::now() + timeout` panics beyond the last `Instant`.

* `transitionTo`, `expectRejectedTransition`, `runShowcase`, `runAutoDemo`, … — the functions of the
  source; what they log is left out.
* `Carried`, `Rejected`, `Seen` — what has happened in a history of operations since another.
* `Stage` — a function leads from one assertion to the next or gives up with an excuse; there is one
  `stage_…` for each function.
* `auto_demo_passed` — what has happened when the demonstration ends well.
* `auto_demo_failed` — it gives up only after a whole timeout, when nobody is connected, or when the
  showcase finds the transition carried out that was to be rejected; and it panics only when the
  clock and the timeout are beyond the last `Instant`.
-/

namespace Sam

open SamService Routine

/-! ## The functions -/

/-- `POLL_INTERVAL`. -/
def POLL_INTERVAL : Duration := 50000000

structure AutoDemoConfig where
  enabled : Bool
  showcase : Bool
  expectedApps : Nat
  timeout : Duration
  hold : Duration
  deriving DecidableEq

inductive AutoDemoError where
  | unknownArgument (argument : String)
  | missingValue (flag : String)
  | invalidValue (flag : String)
  | timeout (what : String)
  | unexpectedState (what : String)
  | service (error : ServiceError)
  deriving DecidableEq

/-- `{:?}` of a `SystemMode`. -/
def SystemMode.debug : SystemMode → String
  | .startup => "Startup"
  | .standby => "Standby"
  | .working => "Working"

/-- `{:?}` of a `HealthState`. -/
def HealthState.debug : HealthState → String
  | .healthy => "Healthy"
  | .degraded => "Degraded"
  | .failed => "Failed"

/-- `{:?}` of a `TransitionId`. -/
def TransitionId.debug (id : TransitionId) : String :=
  "TransitionId(" ++ toString id.val.toNat ++ ")"

namespace AutoDemo

/-- How a function of the demonstration stops early: it returns an error, or it panics. -/
inductive Stop where
  | error (e : AutoDemoError)
  | panic
  deriving DecidableEq

/-- A function of the demonstration. -/
abbrev Demonstration (α : Type) := ExceptT Stop (Routine Operation) α

-- `limit` is the first time that is no `Instant`
variable (limit : Instant) (start : SamService)

/-- `service.snapshot()`. -/
def snapshot : Routine Operation SystemState := look fun ops => (start.run ops).snapshot

/-- `service.applications(Instant::now())`. -/
def applications : Routine Operation (List ApplicationSnapshot) := do
  let now ← clock
  look fun ops => (start.run ops).applications now

/-- `service.transition_in_progress()`. -/
def transitionInProgress : Routine Operation Bool :=
  look fun ops => (start.run ops).transitionInProgress

/-- `service.request_mode(target)`. -/
def requestMode (target : SystemMode) : Demonstration TransitionId :=
  ExceptT.mk (act (.requestMode target) fun ops =>
    match ((start.run ops).requestMode target).1 with
    | .ok id => .ok id
    | .error error => .error (.error (.service error)))

/-- `Instant::now() + timeout`. -/
def nowPlus (timeout : Duration) : Demonstration Instant := ExceptT.mk do
  let now ← clock
  if now + timeout < limit then return .ok (now + timeout)
  return .error .panic

/-- A loop of the source that polls until a deadline. -/
def poll (timeout : Duration) (check : Routine Operation (Except AutoDemoError Unit)) :
    Demonstration Unit := do
  let deadline ← nowPlus limit timeout
  ExceptT.mk do return (← waitUntil deadline POLL_INTERVAL check).mapError .error

/-- Both `connected` and `synchronized`. -/
def ready (application : ApplicationSnapshot) : Bool :=
  application.connected && application.synchronized

def waitForApplications (expected : Nat) (timeout : Duration) : Demonstration Unit :=
  poll limit timeout do
    let ready := ((← applications start).filter ready).length
    if expected ≤ ready then return .ok ()
    return .error (.timeout (toString expected ++
      " connected and synchronized applications (found " ++ toString ready ++ ")"))

def transitionTo (target : SystemMode) (timeout : Duration) : Demonstration Unit := do
  if (← ExceptT.lift (snapshot start)).mode = target then return ()
  let transitionId ← requestMode start target
  poll limit timeout do
    if (← snapshot start).mode = target then return .ok ()
    return .error (.timeout ("transition " ++ transitionId.debug ++ " to " ++ target.debug))

def expectRejectedTransition (target : SystemMode) (timeout : Duration) : Demonstration Unit := do
  let originalMode := (← ExceptT.lift (snapshot start)).mode
  let transitionId ← requestMode start target
  poll limit timeout do
    if (← transitionInProgress start) then
      return .error (.timeout ("rejection of transition " ++ transitionId.debug))
    return .ok ()
  let finalMode := (← ExceptT.lift (snapshot start)).mode
  if finalMode ≠ originalMode then
    throw (.error (.unexpectedState ("transition " ++ transitionId.debug ++ " committed " ++
      finalMode.debug ++ " instead of being rejected")))

/-- The row `wait_for_application` looks for. -/
def expectedRow (name : String) (connected synchronized : Bool)
    (application : ApplicationSnapshot) : Bool :=
  application.application.value = name && application.connected = connected &&
    (!synchronized || application.synchronized)

def waitForApplication (name : String) (connected synchronized : Bool) (timeout : Duration) :
    Demonstration Unit :=
  poll limit timeout do
    if (← applications start).any (expectedRow name connected synchronized) then return .ok ()
    return .error (.timeout ("application " ++ name ++ " connected=" ++ toString connected ++
      ", synchronized=" ++ toString synchronized))

def waitForHealth (expected : HealthState) (timeout : Duration) : Demonstration Unit :=
  poll limit timeout do
    let health := (← snapshot start).health
    if health = expected then return .ok ()
    return .error (.timeout
      ("system health " ++ expected.debug ++ " (currently " ++ health.debug ++ ")"))

/-- `sleep(config.hold)`. -/
def hold (config : AutoDemoConfig) : Demonstration Unit := ExceptT.lift (sleep config.hold)

def runShowcase (config : AutoDemoConfig) : Demonstration Unit := do
  transitionTo limit start .standby config.timeout
  hold config
  waitForApplication limit start "telemetry" false false config.timeout
  waitForHealth limit start .failed config.timeout
  waitForApplication limit start "telemetry" true true config.timeout
  waitForHealth limit start .healthy config.timeout
  hold config
  expectRejectedTransition limit start .working config.timeout
  hold config
  transitionTo limit start .working config.timeout
  hold config
  transitionTo limit start .standby config.timeout

/-- The loop of `run_auto_demo` over its targets. -/
def transitions (config : AutoDemoConfig) : List SystemMode → Demonstration Unit
  | [] => return ()
  | target :: targets => do
    transitionTo limit start target config.timeout
    hold config
    transitions config targets

def runAutoDemo (config : AutoDemoConfig) : Demonstration Unit := do
  waitForApplications limit start config.expectedApps config.timeout
  if config.showcase then runShowcase limit start config
  else transitions limit start config [.standby, .working, .standby]

/-! ## What has happened -/

/-- What may happen between one history of operations and a later one. -/
abbrev Happening := List Operation → List Operation → Prop

/-- The one history is the beginning of the other. -/
def Happening.Forward (D : Happening) : Prop := ∀ h h', D h h' → h <+: h'

/-- Between the histories `h` and `h'` a transition to `target` has been requested and has
    completed. -/
def Carried (target : SystemMode) : Happening := fun h h' =>
  ∃ id a b op c, h' = a ++ .requestMode target :: b ++ op :: c ∧ h <+: a ∧
    ((start.run a).requestMode target).1 = .ok id ∧
    (start.run (a ++ .requestMode target :: b)).CompletedBy op id target

/-- Between them a transition to `target` has been requested and a participant has rejected it. -/
def Rejected (target : SystemMode) : Happening := fun h h' =>
  ∃ id v a b op c, h' = a ++ .requestMode target :: b ++ op :: c ∧ h <+: a ∧
    ((start.run a).requestMode target).1 = .ok id ∧
    (start.run (a ++ .requestMode target :: b)).event op = some (.rejected v id)

/-- Between them the service has been in a state like this. -/
def Seen (C : SamService → Prop) : Happening := fun h h' =>
  ∃ k, h <+: k ∧ k <+: h' ∧ C (start.run k)

/-- From mode `m`, the system has moved to `target` unless it was there. -/
def Moved (m target : SystemMode) : Happening := fun h h' =>
  if m = target then h <+: h' else Carried start target h h'

/-- From `h` to `h'` one thing after another has happened. -/
def InOrder : List Happening → Happening
  | [], h, h' => h <+: h'
  | D :: Ds, h, h' => ∃ k, D h k ∧ InOrder Ds k h'

/-- One thing and then another. -/
def Then (R : List Operation → Prop) (D : Happening) (h' : List Operation) : Prop :=
  ∃ h, R h ∧ D h h'

/-! ## Assertions -/

/-- `R` has come true, and it is `T` or later. -/
def After (R : List Operation → Prop) (T : Nat) (p : Past Operation) : Prop :=
  (∃ h, R h ∧ h <+: p.steps) ∧ T ≤ p.now

/-- No transition is in progress, and the mode is `m`. -/
def Resting (m : SystemMode) (p : Past Operation) : Prop := (start.run p.steps).phase = .stable m

/-- The transition `id` from `m` to `target` has been requested, and nothing since. -/
def Requested (R : List Operation → Prop) (m target : SystemMode) (id : TransitionId) (T : Nat)
    (p : Past Operation) : Prop :=
  ∃ h a ops, R h ∧ h <+: a ∧ p.steps = a ++ .requestMode target :: ops ∧
    (start.run a).phase = .stable m ∧ ((start.run a).requestMode target).1 = .ok id ∧
    (∀ op ∈ ops, op.Other) ∧ T ≤ p.now

variable {limit start} {α β : Type} {R : List Operation → Prop} {D : Happening}
  {T : Nat} {m target : SystemMode} {id : TransitionId} {p p' : Past Operation} {timeout : Duration}

theorem after_stable : Stable Operation.Other (After R T) := by
  rintro p p' ⟨⟨l, hl, -⟩, hnow⟩ ⟨⟨h, hR, hh⟩, hT⟩
  exact ⟨⟨h, hR, hh.trans (hl ▸ List.prefix_append _ l)⟩, hT.trans hnow⟩

theorem resting_stable (hs : Sound start) : Stable Operation.Other (Resting start m) := by
  rintro p p' ⟨⟨l, hl, hother⟩, -⟩ h
  unfold Resting at h ⊢
  rw [hl, run_append]
  exact resting_run (hs.run _) h hother

theorem requested_stable : Stable Operation.Other (Requested start R m target id T) := by
  rintro p p' ⟨⟨l, hl, hother⟩, hnow⟩ ⟨h, a, ops, hR, hh, hsteps, hphase, hid, hops, hT⟩
  refine ⟨h, a, ops ++ l, hR, hh, by rw [hl, hsteps]; simp, hphase, hid, 
    fun op hop => ?_, hT.trans hnow⟩
  exact (List.mem_append.mp hop).elim (hops op) (hother op)

/-- Something new has come true now. -/
theorem After.next (ha : After R T p) (hD : ∀ h, h <+: p.steps → D h p.steps) :
    After (Then R D) T p := by
  obtain ⟨⟨h, hR, hh⟩, hT⟩ := ha
  exact ⟨⟨p.steps, ⟨h, hR, hD h hh⟩, List.prefix_rfl⟩, hT⟩

/-- **What has become of the request.** -/
theorem Requested.course (hs : Sound start) (hr : Requested start R m target id T p) :
    m ≠ target ∧ ((start.run p.steps).phase.Underway id m target ∨
      (Resting start m p ∧ After (Then R (Rejected start target)) T p) ∨
      Resting start target p ∧ After (Then R (Carried start target)) T p) := by
  obtain ⟨h, a, ops, hR, hh, hsteps, hphase, hid, hops, hT⟩ := hr
  obtain ⟨current, hcurrent, hne, -, -, hstep⟩ := granted_step hid
  obtain rfl : current = m := by
    rw [phase, hcurrent] at hphase
    exact ModeManagerState.stable.inj hphase
  refine ⟨hne, ?_⟩
  -- the state right after the request
  have hrequest : start.run (a ++ [.requestMode target]) = (start.run a).step
      (.requestMode target) :=
    run_concat ..
  have hunder : (start.run (a ++ [.requestMode target])).phase.Underway id current target := by
    rw [hrequest, hstep]
    exact .inl ⟨_, _, rfl⟩
  have hrun : ∀ l, (start.run (a ++ [.requestMode target])).run l =
      start.run (a ++ .requestMode target :: l) := by
    intro l
    rw [← run_append, List.append_assoc]
    rfl
  unfold Resting
  rw [hsteps, ← hrun]
  cases course_run (hs.run _) hne hunder hops with
  | underway h => exact .inl h
  | rejected pre op post v hpre hv hstable =>
    refine .inr (.inl ⟨hstable, ⟨p.steps, ⟨h, hR, id, v, a, pre, op, post, ?_, hh, hid, ?_⟩,
      List.prefix_rfl⟩, hT⟩)
    · rw [hsteps, hpre]
      simp
    · rw [← hrun]
      exact hv
  | completed pre op post hpre hc hstable =>
    refine .inr (.inr ⟨hstable, ⟨p.steps, ⟨h, hR, id, a, pre, op, post, ?_, hh, hid, ?_⟩,
      List.prefix_rfl⟩, hT⟩)
    · rw [hsteps, hpre]
      simp
    · rw [← hrun]
      exact hc

/-! ## Looking and polling -/

variable {I : Past Operation → Prop} {G : Past Operation → Prop} {U : Past Operation → Prop}

/-- The answer of a look at the service is what it is now. -/
theorem triple_snapshot (hI : Stable Operation.Other I) :
    Triple Operation.Other I (snapshot start) fun a p => a = (start.run p.steps).snapshot ∧ I p :=
  triple_look fun p p' hl h => ⟨rfl, hI p p' hl h⟩

theorem triple_transitionInProgress (hI : Stable Operation.Other I) :
    Triple Operation.Other I (transitionInProgress start) fun a p =>
      a = (start.run p.steps).transitionInProgress ∧ I p :=
  triple_look fun p p' hl h => ⟨rfl, hI p p' hl h⟩

theorem triple_applications (hI : Stable Operation.Other I) :
    Triple Operation.Other I (applications start) fun a p =>
      (∃ now, a = (start.run p.steps).applications now) ∧ I p := by
  unfold applications
  refine triple_bind (R := fun _ => I) (triple_clock hI) fun now => ?_
  exact triple_look fun p p' hl h => ⟨⟨now, rfl⟩, hI p p' hl h⟩

/-- What may be said when the demonstration gives up; `U` when a transition was not rejected. -/
def Excused (limit : Instant) (start : SamService) (T : Nat) (timeout : Duration)
    (U : Past Operation → Prop) :
    Stop → Past Operation → Prop
  | .error (.timeout _), p => T + timeout ≤ p.now
  | .error (.unexpectedState _), p => U p
  | .error (.service error), p => error = .mode ModeError.noParticipants.text ∧
      Seen start (fun s => s.inner.clients.keys = []) [] p.steps
  | .panic, p => limit ≤ p.now + timeout
  | _, _ => False

/-- A function of the demonstration leads from `P` to `Q`, or gives up and has an excuse. -/
def Stage (limit : Instant) (start : SamService) (T : Nat) (timeout : Duration)
    (U P : Past Operation → Prop) (f : Demonstration α) (Q : α → Past Operation → Prop) : Prop :=
  Triple Operation.Other P f.run fun r p =>
    match r with
    | .ok a => Q a p
    | .error e => Excused limit start T timeout U e p

section Stage

variable {P : Past Operation → Prop} {Q : α → Past Operation → Prop} {f : Demonstration α}

theorem stage_pure {a : α} (h : ∀ p, P p → Q a p) : Stage limit start T timeout U P (pure a) Q :=
  triple_pure h

theorem stage_lift {t : Routine Operation α} (h : Triple Operation.Other P t Q) :
    Stage limit start T timeout U P (ExceptT.lift t) Q :=
  triple_lift h

theorem Stage.of_const {c : Prop} {P' : Past Operation → Prop} (hP : ∀ p, P' p → c ∧ P p)
    (h : c → Stage limit start T timeout U P f Q) : Stage limit start T timeout U P' f Q :=
  (triple_const h).imp hP fun _ _ h => h

theorem Stage.excuse {U' : Past Operation → Prop} (h : Stage limit start T timeout U P f Q)
    (hU : ∀ p, U p → U' p) : Stage limit start T timeout U' P f Q := by
  refine h.imp (fun _ hp => hp) ?_
  rintro ((e | _) | a) p hp
  · cases e with
    | unexpectedState what => exact hU p hp
    | _ => exact hp
  · exact hp
  · exact hp

theorem Stage.bind {g : α → Demonstration β} {G : β → Past Operation → Prop}
    (hf : Stage limit start T timeout U P f Q)
    (hg : ∀ a, Stage limit start T timeout U (Q a) (g a) G) :
    Stage limit start T timeout U P (f >>= g) G := by
  refine triple_bindE (hf.imp (fun _ h => h) ?_) hg
  rintro (e | a) p h <;> exact h

end Stage

theorem stage_hold {P : Past Operation → Prop} (hP : Stable Operation.Other P)
    (config : AutoDemoConfig) :
    Stage limit start T timeout U P (hold config) fun _ => P :=
  stage_lift (triple_sleep config.hold hP)

/-- **The rule of polling**: who gives up has polled for the whole timeout. -/
theorem stage_poll {check : Routine Operation (Except AutoDemoError Unit)}
    (hI : Stable Operation.Other I) (hT : ∀ p, I p → T ≤ p.now)
    (hcheck : Triple Operation.Other I check fun r p =>
      match r with
      | .ok _ => G p
      | .error e => (∃ what, e = .timeout what) ∧ I p) :
    Stage limit start T timeout U I (poll limit timeout check) fun _ => G := by
  unfold poll
  refine Stage.bind (Q := fun deadline p => T + timeout ≤ deadline ∧ I p) ?_ fun deadline => ?_
  · refine triple_bind (R := fun now p => T ≤ now ∧ now ≤ p.now ∧ I p)
      (triple_clock fun p p' hl h => ?_) fun now => ?_
    · have hI' := hI p p' hl h
      exact ⟨hT p' hI', le_rfl, hI'⟩
    · refine triple_const (c := T ≤ now) (P := fun p => now ≤ p.now ∧ I p) fun hnow => ?_
      split
      · exact triple_pure fun p h => ⟨Nat.add_le_add_right hnow timeout, h.2⟩
      · rename_i hlimit
        exact triple_pure fun p h => (Nat.not_lt.mp hlimit).trans (Nat.add_le_add_right h.1 timeout)
  · refine Stage.of_const (fun p h => h) fun hdeadline => ?_
    refine triple_bind (R := fun r p =>
      match r with
      | .ok _ => G p
      | .error e => Excused limit start T timeout U (.error e) p)
      ?_ fun r => triple_pure fun p h => ?_
    · refine triple_waitUntil (J := fun e p => (∃ what, e = .timeout what) ∧ I p)
        (fun e => (Stable.const _).and hI) (hcheck.imp (fun p h => h) ?_) (fun e p h => h.2) ?_
      · rintro (e | ⟨⟩) p h <;> exact h
      · rintro e p ⟨⟨what, rfl⟩, -⟩ hlate
        exact hdeadline.trans hlate
    · cases r <;> exact h

/-! ## A specification for each function -/

/-- Between two stages: the mode is `m` without a transition, and `R` has come true. -/
def Standing (start : SamService) (R : List Operation → Prop) (T : Nat) (m : SystemMode)
    (p : Past Operation) : Prop := Resting start m p ∧ After R T p

theorem standing_stable (hs : Sound start) : Stable Operation.Other (Standing start R T m) :=
  (resting_stable hs).and after_stable

theorem Standing.mode (hs : Sound start) (h : Standing start R T m p) :
    (start.run p.steps).snapshot.mode = m := stable_mode hs h.1

/-- Something has been seen now. -/
theorem Standing.seen {C : SamService → Prop} (h : Standing start R T m p)
    (hC : C (start.run p.steps)) :
    Standing start (Then R (Seen start C)) T m p :=
  ⟨h.1, h.2.next fun _ hh => ⟨p.steps, hh, List.prefix_rfl, hC⟩⟩

/-- So many applications are connected and synchronized. -/
def Ready (expected : Nat) (s : SamService) : Prop :=
  ∃ now, expected ≤ ((s.applications now).filter ready).length

/-- There is a row like this. -/
def Shown (name : String) (connected synchronized : Bool) (s : SamService) : Prop :=
  ∃ now, (s.applications now).any (expectedRow name connected synchronized)

theorem stage_waitForApplications (hs : Sound start) (expected : Nat) :
    Stage limit start T timeout U (Standing start R T m)
      (waitForApplications limit start expected timeout)
      fun _ => Standing start (Then R (Seen start (Ready expected))) T m := by
  refine stage_poll (standing_stable hs) (fun p h => h.2.2) ?_
  refine triple_bind (triple_applications (standing_stable hs)) fun rows => ?_
  dsimp only
  split
  · rename_i hle
    refine triple_pure ?_
    rintro p ⟨⟨now, rfl⟩, h⟩
    exact h.seen ⟨now, hle⟩
  · exact triple_pure fun p h => ⟨⟨_, rfl⟩, h.2⟩

theorem stage_waitForApplication (hs : Sound start) (name : String)
    (connected synchronized : Bool) :
    Stage limit start T timeout U (Standing start R T m)
      (waitForApplication limit start name connected synchronized timeout)
      fun _ => Standing start (Then R (Seen start (Shown name connected synchronized))) T m := by
  refine stage_poll (standing_stable hs) (fun p h => h.2.2) ?_
  refine triple_bind (triple_applications (standing_stable hs)) fun rows => ?_
  split
  · rename_i hany
    refine triple_pure ?_
    rintro p ⟨⟨now, rfl⟩, h⟩
    exact h.seen ⟨now, hany⟩
  · exact triple_pure fun p h => ⟨⟨_, rfl⟩, h.2⟩

theorem stage_waitForHealth (hs : Sound start) (expected : HealthState) :
    Stage limit start T timeout U (Standing start R T m)
      (waitForHealth limit start expected timeout)
      fun _ => Standing start (Then R (Seen start fun s => s.snapshot.health = expected)) T m := by
  refine stage_poll (standing_stable hs) (fun p h => h.2.2) ?_
  refine triple_bind (triple_snapshot (standing_stable hs)) fun state => ?_
  dsimp only
  split
  · rename_i hhealth
    refine triple_pure ?_
    rintro p ⟨rfl, h⟩
    exact h.seen (C := fun s => s.snapshot.health = expected) hhealth
  · exact triple_pure fun p h => ⟨⟨_, rfl⟩, h.2⟩

theorem requestMode_alone {s : SamService} {error : ServiceError} (hm : s.phase = .stable m)
    (hne : m ≠ target) (h : (s.requestMode target).1 = .error error) :
    error = .mode ModeError.noParticipants.text ∧ s.inner.clients.keys = [] := by
  have hstate : s.inner.modes.state = .stable m := hm
  unfold SamService.requestMode ModeManager.requestTransition at h
  simp only [hstate, if_neg hne] at h
  by_cases hempty : s.inner.clients.keys.toFinset = ∅
  · simp only [if_pos hempty] at h
    cases h
    exact ⟨rfl, List.toFinset_eq_empty_iff _ |>.mp hempty⟩
  · simp only [if_neg hempty] at h
    cases h

theorem stage_requestMode (hs : Sound start) (hne : m ≠ target) :
    Stage limit start T timeout U (Standing start R T m) (requestMode start target) fun id =>
      Requested start R m target id T := by
  unfold Stage AutoDemo.requestMode
  rw [ExceptT.run_mk]
  refine triple_act fun p p' hl h => ?_
  obtain ⟨hrest, ⟨h₀, hR, hh⟩, hT⟩ := standing_stable hs p p' hl h
  cases hr : ((start.run p'.steps).requestMode target).1 with
  | ok id =>
    exact ⟨h₀, p'.steps, [], hR, hh, rfl, hrest, hr, by simp, hT⟩
  | error error =>
    obtain ⟨htext, hkeys⟩ := requestMode_alone hrest hne hr
    exact ⟨htext, p'.steps, List.nil_prefix, List.prefix_append .., hkeys⟩

theorem Requested.now (h : Requested start R m target id T p) : T ≤ p.now := by
  obtain ⟨_, _, _, _, _, _, _, _, _, hT⟩ := h
  exact hT

theorem moved_self {h h' : List Operation} : Moved start m m h h' ↔ h <+: h' := by
  unfold Moved
  rw [if_pos rfl]

theorem moved_ne (hne : m ≠ target) : Moved start m target = Carried start target := by
  funext h h'
  unfold Moved
  rw [if_neg hne]

/-- **`transition_to`.** -/
theorem stage_transitionTo (hs : Sound start) :
    Stage limit start T timeout U (Standing start R T m)
      (transitionTo limit start target timeout) fun _ =>
      Standing start (Then R (Moved start m target)) T target := by
  unfold transitionTo
  refine (stage_lift (triple_snapshot (standing_stable hs))).bind fun state => ?_
  split
  · rename_i hmode
    refine stage_pure ?_
    rintro p ⟨rfl, h⟩
    obtain rfl : m = target := (h.mode hs).symm.trans hmode
    exact ⟨h.1, h.2.next fun h₀ hh => moved_self.mpr hh⟩
  · rename_i hmode
    have hpre : ∀ p, state = (start.run p.steps).snapshot ∧ Standing start R T m p →
        m ≠ target ∧ Standing start R T m p := by
      rintro p ⟨rfl, h⟩
      exact ⟨fun hm => hmode ((h.mode hs).trans hm), h⟩
    refine Stage.of_const hpre fun hne => ?_
    refine (stage_requestMode hs hne).bind fun id => ?_
    refine stage_poll requested_stable (fun p h => h.now) ?_
    refine triple_bind (triple_snapshot requested_stable) fun state => ?_
    split
    · rename_i hmode'
      refine triple_pure ?_
      rintro p ⟨rfl, h⟩
      rcases (h.course hs).2 with hunder | ⟨hrest, -⟩ | ⟨hrest, hcarried⟩
      · exact absurd ((underway_mode hs hunder).symm.trans hmode') hne
      · exact absurd ((stable_mode hs hrest).symm.trans hmode') hne
      · rw [moved_ne hne]
        exact ⟨hrest, hcarried⟩
    · exact triple_pure fun p h => ⟨⟨_, rfl⟩, h.2⟩

/-- No transition is in progress, so it has been rejected or carried out. -/
def Settled (start : SamService) (R : List Operation → Prop) (T : Nat) (m target : SystemMode)
    (p : Past Operation) : Prop :=
  Standing start (Then R (Rejected start target)) T m p ∨
    Standing start (Then R (Carried start target)) T target p

theorem settled_stable (hs : Sound start) : Stable Operation.Other (Settled start R T m target) :=
  fun p p' hl h => h.imp (standing_stable hs p p' hl) (standing_stable hs p p' hl)

theorem Requested.settled (hs : Sound start) (h : Requested start R m target id T p)
    (hsettled : (start.run p.steps).transitionInProgress = false) :
    Settled start R T m target p := by
  rcases (h.course hs).2 with hunder | h | h
  · unfold SamService.transitionInProgress at hsettled
    rcases hunder with ⟨W, S, hstate⟩ | ⟨W, S, hstate⟩ <;> simp [hstate] at hsettled
  · exact .inl h
  · exact .inr h

/-- **`expect_rejected_transition`** tells a rejection from a transition carried out. -/
theorem stage_expectRejectedTransition (hs : Sound start) (hne : m ≠ target) :
    Stage limit start T timeout (After (Then R (Carried start target)) T) (Standing start R T m)
      (expectRejectedTransition limit start target timeout) fun _ =>
      Standing start (Then R (Rejected start target)) T m := by
  unfold expectRejectedTransition
  refine (stage_lift (triple_snapshot (standing_stable hs))).bind fun original => ?_
  have hpre : ∀ p, original = (start.run p.steps).snapshot ∧ Standing start R T m p →
      original.mode = m ∧ Standing start R T m p := by
    rintro p ⟨rfl, h⟩
    exact ⟨h.mode hs, h⟩
  refine Stage.of_const hpre fun horiginal => ?_
  refine (stage_requestMode hs hne).bind fun id => ?_
  refine Stage.bind (Q := fun _ => Settled start R T m target) ?_ fun _ => ?_
  · refine stage_poll requested_stable (fun p h => h.now) ?_
    refine triple_bind (triple_transitionInProgress requested_stable) fun inProgress => ?_
    split
    · exact triple_pure fun p h => ⟨⟨_, rfl⟩, h.2⟩
    · rename_i hprogress
      refine triple_pure ?_
      rintro p ⟨rfl, h⟩
      exact h.settled hs (Bool.eq_false_iff.mpr hprogress)
  · refine (stage_lift (triple_snapshot (settled_stable hs))).bind fun final => ?_
    dsimp only
    split
    · rename_i hfinal
      refine triple_pure ?_
      rintro p ⟨rfl, h | h⟩
      · exact absurd ((h.mode hs).trans horiginal.symm) hfinal
      · exact h.2
    · rename_i hfinal
      refine stage_pure ?_
      rintro p ⟨rfl, h | h⟩
      · exact h
      · exact absurd (((h.mode hs).symm.trans (not_not.mp hfinal)).trans horiginal) hne.symm

/-! ## The whole demonstration -/

/-- What happens in the showcase before it expects a rejection. -/
def nominal (start : SamService) : List Happening :=
  [Carried start .standby,
    Seen start (Shown "telemetry" false false), Seen start fun s => s.snapshot.health = .failed,
    Seen start (Shown "telemetry" true true), Seen start fun s => s.snapshot.health = .healthy]

/-- The retry, and the way back. -/
def retry (start : SamService) : List Happening :=
  [Carried start .working, Carried start .standby]

theorem stage_carried (hs : Sound start) (hne : m ≠ target) :
    Stage limit start T timeout U (Standing start R T m)
      (transitionTo limit start target timeout) fun _ =>
      Standing start (Then R (Carried start target)) T target := by
  rw [← moved_ne hne]
  exact stage_transitionTo hs

theorem stage_runShowcase (hs : Sound start) (config : AutoDemoConfig) :
    Stage limit start T config.timeout
      (After (Then ((nominal start).foldl Then R) (Carried start .working)) T)
      (Standing start R T .startup) (runShowcase limit start config) fun _ =>
      Standing start ((nominal start ++ Rejected start .working :: retry start).foldl Then R) T
        .standby := by
  unfold runShowcase
  refine (stage_carried hs (by decide)).bind fun _ => ?_
  refine (stage_hold (standing_stable hs) config).bind fun _ => ?_
  refine (stage_waitForApplication hs "telemetry" false false).bind fun _ => ?_
  refine (stage_waitForHealth hs .failed).bind fun _ => ?_
  refine (stage_waitForApplication hs "telemetry" true true).bind fun _ => ?_
  refine (stage_waitForHealth hs .healthy).bind fun _ => ?_
  refine (stage_hold (standing_stable hs) config).bind fun _ => ?_
  refine (stage_expectRejectedTransition hs (by decide)).bind fun _ => ?_
  refine (stage_hold (standing_stable hs) config).bind fun _ => ?_
  refine (stage_carried hs (by decide)).bind fun _ => ?_
  refine (stage_hold (standing_stable hs) config).bind fun _ => ?_
  exact stage_carried hs (by decide)

/-- The moves from `m` through `targets`. -/
def moves (start : SamService) : SystemMode → List SystemMode → List Happening
  | _, [] => []
  | m, target :: targets => Moved start m target :: moves start target targets

theorem stage_transitions (hs : Sound start) (config : AutoDemoConfig) (targets : List SystemMode) :
    Stage limit start T config.timeout U (Standing start R T m)
      (transitions limit start config targets) fun _ =>
      Standing start ((moves start m targets).foldl Then R) T (targets.getLastD m) := by
  induction targets generalizing m R with
  | nil => exact stage_pure fun p h => h
  | cons target targets ih =>
    unfold transitions
    refine (stage_transitionTo hs).bind fun _ => ?_
    refine (stage_hold (standing_stable hs) config).bind fun _ => ?_
    rw [List.getLastD_cons]
    exact ih

/-- What has happened when the demonstration has passed. -/
def agenda (start : SamService) (config : AutoDemoConfig) : List Happening :=
  Seen start (Ready config.expectedApps) ::
    if config.showcase then nominal start ++ Rejected start .working :: retry start
    else Carried start .standby :: retry start

/-- The transition that should have been rejected was carried out. -/
def NotRejected (start : SamService) (config : AutoDemoConfig) : List Happening :=
  Seen start (Ready config.expectedApps) :: nominal start ++ [Carried start .working]

theorem stage_runAutoDemo (hs : Sound start) (config : AutoDemoConfig) :
    Stage limit start T config.timeout
      (fun p => config.showcase = true ∧ After ((NotRejected start config).foldl Then R) T p)
      (Standing start R T .startup) (runAutoDemo limit start config) fun _ =>
      Standing start ((agenda start config).foldl Then R) T .standby := by
  unfold runAutoDemo agenda
  refine (stage_waitForApplications hs config.expectedApps).bind fun _ => ?_
  split
  · rename_i hshowcase
    exact (stage_runShowcase hs config).excuse fun p h => ⟨hshowcase, h⟩
  · have hmoves : moves start .startup [.standby, .working, .standby] =
        Carried start .standby :: retry start := by
      simp only [moves, moved_ne (by decide : SystemMode.startup ≠ .standby),
        moved_ne (by decide : SystemMode.standby ≠ .working),
        moved_ne (by decide : SystemMode.working ≠ .standby), retry]
    rw [List.foldl_cons, ← hmoves]
    exact stage_transitions hs config [.standby, .working, .standby]

/-- One thing after another, since `R`. -/
theorem foldl_then {Ds : List Happening} {h' h'' : List Operation}
    (h : Ds.foldl Then R h') (hpre : h' <+: h'') : ∃ h₀, R h₀ ∧ InOrder Ds h₀ h'' := by
  induction Ds generalizing R with
  | nil => exact ⟨h', h, hpre⟩
  | cons D Ds ih =>
    obtain ⟨k, ⟨h₀, hR, hD⟩, hrest⟩ := ih h
    exact ⟨h₀, hR, k, hD, hrest⟩

theorem After.inOrder {Ds : List Happening} (h : After (Ds.foldl Then (· = [])) T p) :
    InOrder Ds [] p.steps := by
  obtain ⟨⟨h', hDs, hpre⟩, -⟩ := h
  obtain ⟨h₀, rfl, hin⟩ := foldl_then hDs hpre
  exact hin

theorem carried_forward : (Carried start target).Forward := by
  rintro h h' ⟨id, a, b, op, c, rfl, ha, -⟩
  refine ha.trans ?_
  rw [List.append_assoc]
  exact List.prefix_append ..

theorem rejected_forward : (Rejected start target).Forward := by
  rintro h h' ⟨id, v, a, b, op, c, rfl, ha, -⟩
  refine ha.trans ?_
  rw [List.append_assoc]
  exact List.prefix_append ..

theorem seen_forward {C : SamService → Prop} : (Seen start C).Forward :=
  fun _ _ ⟨_, hk, hk', _⟩ => hk.trans hk'

theorem agenda_forward (start : SamService) (config : AutoDemoConfig) :
    ∀ D ∈ agenda start config, D.Forward := by
  have hretry : ∀ D ∈ retry start, D.Forward := by
    simp only [retry, List.forall_mem_cons]
    exact ⟨carried_forward, carried_forward, by simp⟩
  have hnominal : ∀ D ∈ nominal start, D.Forward := by
    simp only [nominal, List.forall_mem_cons]
    exact ⟨carried_forward, seen_forward, seen_forward, seen_forward, seen_forward, by simp⟩
  refine List.forall_mem_cons.mpr ⟨seen_forward, ?_⟩
  split
  · exact List.forall_mem_append.mpr
      ⟨hnominal, List.forall_mem_cons.mpr ⟨rejected_forward, hretry⟩⟩
  · exact List.forall_mem_cons.mpr ⟨carried_forward, hretry⟩

theorem InOrder.le {Ds : List Happening} {h₀ h' : List Operation} (hDs : ∀ D ∈ Ds, D.Forward)
    (h : InOrder Ds h₀ h') : h₀ <+: h' := by
  induction Ds generalizing h₀ with
  | nil => exact h
  | cons D Ds ih =>
    obtain ⟨k, hD, hrest⟩ := h
    obtain ⟨hforward, hDs⟩ := List.forall_mem_cons.mp hDs
    exact (hforward h₀ k hD).trans (ih hDs hrest)

/-- Each of the things has happened. -/
theorem InOrder.happened {Ds : List Happening} {h₀ h' : List Operation} (hDs : ∀ D ∈ Ds, D.Forward)
    (h : InOrder Ds h₀ h') (hD : D ∈ Ds) : ∃ k k', D k k' ∧ k' <+: h' := by
  induction Ds generalizing h₀ with
  | nil => cases hD
  | cons E Ds ih =>
    obtain ⟨k, hE, hrest⟩ := h
    obtain ⟨-, hDs'⟩ := List.forall_mem_cons.mp hDs
    rcases List.mem_cons.mp hD with rfl | hD
    · exact ⟨h₀, k, hE, hrest.le hDs'⟩
    · exact ih hDs' hrest hD

/-- What the others do and at which moments; the time is the number of the moment. -/
def scripted (script : List (Nat × List Operation)) (n : Nat) : Moment Operation :=
  ⟨(script.filter (·.1 = n)).flatMap (·.2), n⟩

theorem scripted_steady {script : List (Nat × List Operation)}
    (h : ∀ e ∈ script, ∀ op ∈ e.2, op.Other) : Steady Operation.Other (scripted script) where
  rely n op hop := by
    obtain ⟨e, he, hmem⟩ := List.mem_flatMap.mp hop
    exact h e (List.mem_of_mem_filter he) op hmem
  mono n := Nat.le_succ n

theorem scripted_onward (script : List (Nat × List Operation)) : Onward (scripted script) :=
  ⟨fun n => Nat.le_succ n, fun time => ⟨time, le_rfl⟩⟩

def telemetry : ApplicationId := ⟨"telemetry"⟩

/-- `telemetry` on a connection tells SAM this. -/
def tell (connection : UInt64) (now : Instant) (message : ApplicationToSam) : Operation :=
  .handleMessage telemetry ⟨connection⟩ message now

/-- A showcase with `telemetry` only, which comes back after its power loss and answers the first
    request for `Working` like this. -/
def powerLoss (answer : List ApplicationToSam) : List (Nat × List Operation) :=
  [(0, [.register telemetry ⟨0⟩ 0]),
    (6, [tell 1 6 (.modeReady telemetry ⟨1⟩), tell 1 6 (.modeCommitted telemetry ⟨1⟩ .standby)]),
    (9, [.disconnect telemetry ⟨1⟩ 9]),
    (14, [.register telemetry ⟨1⟩ 14, tell 2 14 (.heartbeat telemetry .healthy .standby)]),
    (24, answer.map (tell 2 24)),
    (31, [tell 2 31 (.modeReady telemetry ⟨3⟩), tell 2 31 (.modeCommitted telemetry ⟨3⟩ .working)]),
    (37, [tell 2 37 (.modeReady telemetry ⟨4⟩), tell 2 37 (.modeCommitted telemetry ⟨4⟩ .standby)])]

/-- `--auto-showcase --expected-apps 1 --auto-timeout-secs 0 --auto-hold-ms 0`. -/
def oneApplication : AutoDemoConfig := ⟨true, true, 1, 0, 0⟩

/-- 64-bit seconds, in nanoseconds. -/
def lastInstant : Instant := 2 ^ 63 * 1000000000

/-- The demonstration starts with the service. -/
theorem standing_new (timeout : Duration) (channels : Channels) (now : Nat) :
    Standing (SamService.new timeout channels) (· = []) now .startup ⟨[], now, 0⟩ :=
  ⟨rfl, ⟨[], rfl, List.prefix_rfl⟩, le_rfl⟩

/-- When the demonstration has passed, everything on its agenda has happened. -/
theorem passed_happened {channels : Channels} {config : AutoDemoConfig}
    {env : Nat → Moment Operation}
    {now fuel : Nat} (henv : Steady Operation.Other env) (hnow : now ≤ (env 0).now)
    (h : (runAutoDemo limit (.new timeout channels) config).run.run fuel env ⟨[], now, 0⟩ = some
      (.ok (), p))
    (hD : D ∈ agenda (.new timeout channels) config) : ∃ k k', D k k' ∧ k' <+: p.steps := by
  obtain ⟨-, -, hafter⟩ := stage_runAutoDemo
    (sound_new timeout channels) config fuel env _ henv hnow
    (standing_new timeout channels now) _ p h
  exact hafter.inOrder.happened (agenda_forward _ config) hD

end AutoDemo

open AutoDemo

/-- **When the demonstration has passed**, everything on its agenda has happened, in this order, and
    the system rests in Standby: whatever the session tasks do, as long as nobody else requests
    modes. -/
theorem auto_demo_passed (limit : Instant) (timeout : Duration) (channels : Channels)
    (config : AutoDemoConfig) (env : Nat → Moment Operation) (henv : Steady Operation.Other env)
    (now : Nat) (hnow : now ≤ (env 0).now) (fuel : Nat) (p : Past Operation)
    (h : (runAutoDemo limit (SamService.new timeout channels) config).run.run fuel env
      ⟨[], now, 0⟩ =
      some (.ok (), p)) :
    InOrder (agenda (SamService.new timeout channels) config) [] p.steps ∧
    Resting (SamService.new timeout channels) .standby p := by
  have hs := sound_new timeout channels
  have hstart := standing_new timeout channels now
  obtain ⟨-, hrest, hafter⟩ := stage_runAutoDemo hs config fuel env _ henv hnow hstart _ p h
  exact ⟨hafter.inOrder, hrest⟩

theorem auto_demo_passed_demo :
    ∃ p : Past Operation,
      InOrder (agenda (.new 2000000000 fun _ => .new 64) oneApplication) [] p.steps ∧
      Resting (.new 2000000000 fun _ => .new 64) .standby p := by
  have hrun : ((runAutoDemo lastInstant (.new 2000000000 fun _ => .new 64) oneApplication).run.run 1
      (scripted (powerLoss [.modeRejected telemetry ⟨2⟩ "unsafe"])) ⟨[], 0, 0⟩).map (·.1) =
        some (.ok ()) := by decide +kernel
  obtain ⟨⟨r, p⟩, hp, rfl⟩ := Option.map_eq_some_iff.mp hrun
  exact ⟨p, auto_demo_passed lastInstant 2000000000 (fun _ => .new 64) oneApplication _
    (scripted_steady (by decide)) 0 le_rfl 1 p hp⟩

/-- **When it gives up**, it has waited for a whole timeout, or nobody was connected when it
    requested a mode, or the showcase has seen the transition carried out that was to be rejected;
    and when it panics, the clock and the timeout are beyond the last `Instant`. -/
theorem auto_demo_failed (limit : Instant) (timeout : Duration) (channels : Channels)
    (config : AutoDemoConfig) (env : Nat → Moment Operation) (henv : Steady Operation.Other env)
    (now : Nat) (hnow : now ≤ (env 0).now) (fuel : Nat) (stop : Stop) (p : Past Operation)
    (h : (runAutoDemo limit (SamService.new timeout channels) config).run.run fuel env
      ⟨[], now, 0⟩ =
      some (.error stop, p)) :
    (∃ what, stop = .error (.timeout what) ∧ now + config.timeout ≤ p.now) ∨
    (stop = .error (.service (.mode ModeError.noParticipants.text)) ∧
      Seen (SamService.new timeout channels) (fun s => s.inner.clients.keys = []) [] p.steps) ∨
    (∃ what, stop = .error (.unexpectedState what) ∧ config.showcase = true ∧
      InOrder (NotRejected (SamService.new timeout channels) config) [] p.steps) ∨
    stop = .panic ∧ limit ≤ p.now + config.timeout := by
  have hs := sound_new timeout channels
  have hstart := standing_new timeout channels now
  obtain ⟨-, hexcuse⟩ := stage_runAutoDemo hs config fuel env _ henv hnow hstart _ p h
  cases stop with
  | panic => exact .inr (.inr (.inr ⟨rfl, hexcuse⟩))
  | error e =>
    cases e with
    | timeout what => exact .inl ⟨what, rfl, hexcuse⟩
    | service error =>
      obtain ⟨rfl, hseen⟩ := hexcuse
      exact .inr (.inl ⟨rfl, hseen⟩)
    | unexpectedState what => exact .inr (.inr (.inl ⟨what, rfl, hexcuse.1, hexcuse.2.inOrder⟩))
    | unknownArgument | missingValue | invalidValue => exact absurd hexcuse id

theorem auto_demo_failed_demo :
    ∃ p : Past Operation,
      InOrder (NotRejected (.new 2000000000 fun _ => .new 64) oneApplication) [] p.steps := by
  have hrun : ((runAutoDemo lastInstant (.new 2000000000 fun _ => .new 64) oneApplication).run.run 1
      (scripted (powerLoss [.modeReady telemetry ⟨2⟩, .modeCommitted telemetry ⟨2⟩ .working]))
      ⟨[], 0, 0⟩).map (·.1) = some (.error (.error (.unexpectedState
        "transition TransitionId(2) committed Working instead of being rejected"))) := by
          decide +kernel
  obtain ⟨⟨r, p⟩, hp, rfl⟩ := Option.map_eq_some_iff.mp hrun
  rcases auto_demo_failed lastInstant 2000000000 (fun _ => .new 64) oneApplication _
    (scripted_steady (by decide)) 0 le_rfl 1 _ p hp with
    ⟨what, he, -⟩ | ⟨he, -⟩ | ⟨what, -, -, h⟩ | ⟨he, -⟩
  · cases he
  · cases he
  · exact ⟨p, h⟩
  · cases he

end Sam
