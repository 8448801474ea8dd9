import Sam.System.Refinement

/-!
# A dropped `receive` does not spread

When SAM sends to an application while a `receive` on its connection holds part of a frame,
`select!` drops what has been read, and from then on SAM may read anything there.  In every run on
byte streams, however many connections this happens to, two-phase commit goes on as for those it
does not happen to.

* `Spared` — none of the connections of an application is disturbed.
* `faults_contained` — every transition is atomic, and what SAM has counted of whoever is spared is
  backed by its callbacks.
* `rejection_backed` — a rejection comes of a participant, with the reason of its callback.
* `veto` — a transition is committed by nobody if one of those asked is spared and refuses the
  target.
-/

namespace Sam

open TwoPhase

/-- The handler with which an input starts application `a` again. -/
def NetworkInput.restarted? {η ω : Type*} (a : ApplicationId) : NetworkInput η ω → Option η
  | .restart b handler => if b = a then some handler else none
  | _ => none

namespace Network

variable {η ω : Type*} {codec : Codec ApplicationToSam} {samCodec : Codec SamToApplication}
  {handlers : ApplicationId → ModeHandler η ω} {timeout : Duration} {initial : ApplicationId → η}
  {inputs : List (NetworkInput η ω)} {a : ApplicationId} {k : Nat}

/-- None of the connections of `a` is ever disturbed. -/
def Spared (codec : Codec ApplicationToSam) (samCodec : Codec SamToApplication)
    (handlers : ApplicationId → ModeHandler η ω) (b : Network η ω)
    (inputs : List (NetworkInput η ω)) (a : ApplicationId) : Prop :=
  ∀ k, ((run codec samCodec handlers b inputs).connections k).owner = some a →
    ¬ Disturbs codec samCodec handlers b inputs k

/-- The handlers with which application `a` has been started. -/
def processes (initial : ApplicationId → η) (inputs : List (NetworkInput η ω)) (a : ApplicationId) :
    List η :=
  initial a :: inputs.filterMap (·.restarted? a)

theorem mem_processes {handler : η} (h : .restart a handler ∈ inputs) :
    handler ∈ processes initial inputs a := by
  refine List.mem_cons_of_mem _ (List.mem_filterMap.mpr ⟨_, h, ?_⟩)
  rw [NetworkInput.restarted?, if_pos rfl]

/-- A connection on which SAM sends nothing is not disturbed. -/
theorem not_disturbs {b : Network η ω} (h : ∀ result, .serverSend k result ∉ inputs) :
    ¬ Disturbs codec samCodec handlers b inputs k := by
  unfold Disturbs
  rw [not_not, Machine.always_iff]
  rintro pre input post rfl
  unfold Spares
  split
  · rename_i k' b
    rintro rfl
    exact absurd (by simp) (h .whole)
  · trivial

/-- A run of messages that is garbled only on disturbed connections, and in which whoever is spared
    here is spared. -/
theorem garbled_run (codec : Codec ApplicationToSam) (samCodec : Codec SamToApplication)
    (handlers : ApplicationId → ModeHandler η ω) (timeout : Duration) (initial : ApplicationId → η)
    (inputs : List (NetworkInput η ω)) :
    let b := run codec samCodec handlers (new timeout initial) inputs
    let D := Disturbs codec samCodec handlers (new timeout initial) inputs
    ∃ moves : List (FaultyInput η ω),
      System.RunWithin handlers D (fun a self => self ∈ processes initial inputs a)
        (System.new timeout initial) moves ∧
      let s := System.faultyRun handlers (System.new timeout initial) moves
      s.operations = b.operations ∧ s.calls = b.calls ∧
        ∀ a, Spared codec samCodec handlers (new timeout initial) inputs a →
          System.Spared D s a := by
  intro b D
  obtain ⟨moves, hmoves, h⟩ := implements_run _ _ timeout initial inputs
    (spares_others codec samCodec handlers (new timeout initial) inputs)
    fun _ _ => mem_processes
  exact ⟨moves, hmoves, h.operations, h.calls,
    fun a ha k hk ho => ha k ((h.joined k).owner a ho) hk⟩

/-- Every transition is atomic among those who are spared. -/
theorem atomic_spared (codec : Codec ApplicationToSam) (samCodec : Codec SamToApplication)
    (handlers : ApplicationId → ModeHandler η ω) (timeout : Duration) (initial : ApplicationId → η)
    (inputs : List (NetworkInput η ω)) {id : TransitionId} {m : SystemMode}
    {P : Finset ApplicationId} :
    let b := run codec samCodec handlers (new timeout initial) inputs
    let events := (System.service₀ timeout).eventLog b.operations
    events.countP Event.isRequest < 2 ^ 64 → .requested id m P ∈ events →
      System.AtomicAmong timeout (Spared codec samCodec handlers (new timeout initial) inputs)
        b.operations b.calls id m P := by
  intro b events hcount hP
  obtain ⟨moves, hmoves, hops, hcalls, hspared⟩ :=
    garbled_run codec samCodec handlers timeout initial inputs
  generalize hs : System.faultyRun handlers (System.new timeout initial) moves = s
    at hops hcalls hspared
  have hevents : s.events timeout = events := congrArg (System.service₀ timeout).eventLog hops
  have hatomic := System.atomic_faulty timeout initial hmoves hs (by rwa [hevents])
    (by rwa [hevents])
  rw [hops, hcalls] at hatomic
  exact hatomic.imp hspared

/-- Two applications are asked to prepare.  Guidance's order is sent while SAM has read three bytes
    of its heartbeat; SAM takes what follows for the length of a frame and drops the connection. -/
def halfRead (η : Type*) (target : SystemMode) : List (NetworkInput η Unit) :=
  [.connect Demo.navigation 0 .whole, .upArrive 0 100, .serverPoll 0 0 .whole, .serverSend 0 .whole,
    .downArrive Demo.navigation 100, .clientPoll Demo.navigation (),
    .connect Demo.guidance 1 .whole, .upArrive 1 100, .serverPoll 1 0 .whole, .serverSend 1 .whole,
    .downArrive Demo.guidance 100, .clientPoll Demo.guidance (),
    .clientTick Demo.guidance () .whole, .upArrive 1 3, .serverPoll 1 1 .whole, .requestMode target,
    .serverSend 1 .whole, .downArrive Demo.guidance 100, .clientRead Demo.guidance,
    .clientRead Demo.guidance, .clientRecv Demo.guidance, .clientCallback Demo.guidance () .whole,
    .serverSend 0 .whole, .downArrive Demo.navigation 100, .clientRead Demo.navigation,
    .clientRead Demo.navigation, .clientRecv Demo.navigation,
    .clientCallback Demo.navigation () .whole, .upArrive 0 100, .serverPoll 0 2 .whole,
    .upArrive 1 100, .serverPoll 1 2 .whole, .serverReturn 1 3]

/-- Guidance's connection is disturbed, navigation's is not. -/
example :
    Disturbs Postcard.codec Postcard.samCodec (fun _ => recordingHandler)
      (new 2000000000 fun _ => .default) (halfRead _ .standby) 1 ∧
    ¬ Disturbs Postcard.codec Postcard.samCodec (fun _ => recordingHandler)
      (new 2000000000 fun _ => .default) (halfRead _ .standby) 0 := by decide +kernel

/-- **Whatever SAM aborts a participant has refused.**  In every run on byte streams, what makes SAM
    accept a rejection is a `ModeRejected` of a participant; and if none of its connections is
    disturbed, this participant ran `prepare_mode` for this transition and its mode, and failed with
    that reason. -/
theorem rejection_backed (codec : Codec ApplicationToSam) (samCodec : Codec SamToApplication)
    (handlers : ApplicationId → ModeHandler η ω) (timeout : Duration) (initial : ApplicationId → η)
    (inputs : List (NetworkInput η ω)) :
    let b := run codec samCodec handlers (new timeout initial) inputs
    let events := (System.service₀ timeout).eventLog b.operations
    events.countP Event.isRequest < 2 ^ 64 →
    ∀ id m P, .requested id m P ∈ events →
    ∀ pre op post v, b.operations = pre ++ op :: post →
      ((System.service₀ timeout).run pre).event op = some (.rejected v id) →
      v ∈ P ∧ ∃ reason conn now, op = .handleMessage v conn (.modeRejected v id reason) now ∧
        (Spared codec samCodec handlers (new timeout initial) inputs v →
          ∃ k, ⟨v, k, .prepareMode id m false, some (.modeRejected v id reason)⟩ ∈ b.calls) := by
  intro b events hcount id m P hP pre op post v hpost hv
  obtain ⟨moves, hmoves, hops, hcalls, hspared⟩ :=
    garbled_run codec samCodec handlers timeout initial inputs
  have hd := System.driven_faulty timeout initial hmoves
  have hr := System.received_faulty timeout initial hmoves
  have ha := System.accountedFor_faulty timeout initial hmoves
  generalize System.faultyRun handlers (System.new timeout initial) moves = s
    at hops hcalls hspared hd hr ha
  have hevents : s.events timeout = events := congrArg (System.service₀ timeout).eventLog hops
  obtain ⟨hmem, reason, conn, now, hop, hran⟩ :=
    ha.rejection hd hr (by rwa [hevents]) (hevents ▸ hP) (hops.trans hpost) hv
  refine ⟨hmem, reason, conn, now, hop, fun hv => ?_⟩
  obtain ⟨k, hrecord⟩ := hran (hspared v hv)
  exact ⟨k, hcalls ▸ hrecord⟩

/-- `navigation` is started with `--reject-working`, and `Working` is requested. -/
def refusing : ApplicationId → DemoHandler :=
  fun a => .new a.value (a = Demo.navigation) .healthy

/-- SAM and its applications after that. -/
def refused : Network DemoHandler Unit :=
  run Postcard.codec Postcard.samCodec (fun _ => demoHandler) (new 2000000000 refusing)
    (halfRead _ .working)

/-- Navigation's connection is 0, and nothing is sent but on 0 and 1. -/
theorem refusing_spared : Spared Postcard.codec Postcard.samCodec (fun _ => demoHandler)
    (new 2000000000 refusing) (halfRead DemoHandler .working) Demo.navigation := by
  intro k howner
  change (refused.connections k).owner = some Demo.navigation at howner
  have hguidance : (refused.connections 1).owner = some Demo.guidance := by decide +kernel
  by_cases hone : k = 1
  · rw [hone, hguidance] at howner
    exact absurd howner (by decide)
  by_cases hzero : k = 0
  · rw [hzero]
    decide +kernel
  refine not_disturbs fun result hmem => ?_
  simp [halfRead, hone, hzero] at hmem

theorem rejection_backed_demo :
    Demo.navigation ∈ ({Demo.guidance, Demo.navigation} : Finset ApplicationId) ∧ ∃ k reason,
      ⟨Demo.navigation, k, .prepareMode ⟨1⟩ .working false,
        some (.modeRejected Demo.navigation ⟨1⟩ reason)⟩ ∈ refused.calls := by
  have hsplit : refused.operations = refused.operations.take 7 ++
      .handleMessage Demo.navigation ⟨1⟩ (.modeRejected Demo.navigation ⟨1⟩
        "navigation configured to reject Working") 2 :: refused.operations.drop 8 := by
    decide +kernel
  obtain ⟨hmem, reason, conn, now, -, hran⟩ := rejection_backed Postcard.codec Postcard.samCodec
    (fun _ => demoHandler) 2000000000 refusing (halfRead _ .working) (by decide +kernel)
    ⟨1⟩ .working {Demo.guidance, Demo.navigation} (by decide +kernel) _ _ _ Demo.navigation hsplit
    (by decide +kernel)
  obtain ⟨k, hrecord⟩ := hran refusing_spared
  exact ⟨hmem, k, reason, hrecord⟩

/-! ## Veto -/

/-- **A participant has a veto.**  If application `a` refuses mode `m` whenever it is asked, and
    none of its connections is disturbed, then nobody runs `commit_mode` for a transition to `m` of
    which `a` is a participant, and no such transition completes, whatever SAM reads on the
    connections of others. -/
theorem veto (codec : Codec ApplicationToSam) (samCodec : Codec SamToApplication)
    (handlers : ApplicationId → ModeHandler η ω) (timeout : Duration) (initial : ApplicationId → η)
    (inputs : List (NetworkInput η ω)) (a : ApplicationId) (m : SystemMode) (I : η → Prop)
    (hk : (handlers a).Keeps I) (hrefuse : (handlers a).Refuses I m)
    (h0 : ∀ self ∈ processes initial inputs a, I self)
    (hspared : Spared codec samCodec handlers (new timeout initial) inputs a) :
    let b := run codec samCodec handlers (new timeout initial) inputs
    let events := (System.service₀ timeout).eventLog b.operations
    events.countP Event.isRequest < 2 ^ 64 →
    ∀ id P, .requested id m P ∈ events → a ∈ P →
      (∀ p k m' ok answer, ⟨p, k, .commitMode id m' ok, answer⟩ ∉ b.calls) ∧
      ∀ pre op post m', b.operations = pre ++ op :: post →
        ¬ System.Completes ((System.service₀ timeout).run pre) op id m' := by
  intro b events hcount id P hP ha
  have hatomic := atomic_spared codec samCodec handlers timeout initial inputs hcount hP
  obtain ⟨moves, hmoves, -, hcalls, -⟩ := garbled_run codec samCodec handlers timeout initial inputs
  have hcall : ∀ w self message, I self →
      ((handlers a).messageReceived w a self message).call ≠ some (.prepareMode id m true) :=
    fun w self message hi => hrefuse.call hi message id
  have hnever := System.never_faulty timeout hk hcall (h0 _ (List.mem_cons_self ..)) h0 hmoves
  -- `a` would have been counted ready for it, and so would have prepared it
  have hnone : ∀ p k m' ok answer, ⟨p, k, .commitMode id m' ok, answer⟩ ∉ b.calls := by
    intro p k m' ok answer hcommit
    obtain ⟨-, hready⟩ := hatomic.committed p k m' ok answer hcommit
    obtain ⟨l, hprepared⟩ := hatomic.ready a (hready a ha) hspared
    exact hnever (System.mem_callbacks.mpr ⟨_, l, hcalls ▸ hprepared⟩)
  refine ⟨hnone, fun pre op post m' hops hc => ?_⟩
  obtain ⟨rfl, hconfirmed⟩ := hatomic.completed pre op post m' hops hc
  obtain ⟨-, k, hcommit⟩ := hatomic.confirmed a _ (hconfirmed a ha) hspared
  exact hnone _ _ _ _ _ hcommit

theorem veto_demo :
    (∀ p k m' ok answer, ⟨p, k, .commitMode ⟨1⟩ m' ok, answer⟩ ∉ refused.calls) ∧
      ∀ pre op post m', refused.operations = pre ++ op :: post →
        ¬ System.Completes ((System.service₀ 2000000000).run pre) op ⟨1⟩ m' :=
  veto Postcard.codec Postcard.samCodec (fun _ => demoHandler) 2000000000 refusing
    (halfRead _ .working) Demo.navigation .working (·.rejectWorking = true) demoHandler_keeps
    demoHandler_refuses (by decide +kernel) refusing_spared (by decide +kernel) ⟨1⟩
    {Demo.guidance, Demo.navigation} (by decide +kernel) (by decide)

end Network

end Sam
