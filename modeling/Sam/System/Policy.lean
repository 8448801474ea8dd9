import Sam.Apps.DemoHandler
import Sam.System.Calm

/-!
# Participants with a policy of their own

* `HandlerStep` — what a step makes of the handler of an application and which callback it records
  (`handler_step`).
* `ModeHandler.Keeps` — no callback of the handler breaks an invariant of its state; nor then does
  a run (`handler_run`).
* `never_called` — a callback that no message makes a handler run is run in no run.
* `refusals_budget` — the demo applications refuse no more often than they are told to.
-/

namespace Sam

open TwoPhase

variable {η ω : Type*}

/-- No callback breaks `I`. -/
structure ModeHandler.Keeps (h : ModeHandler η ω) (I : η → Prop) : Prop where
  prepare : ∀ w m self, I self → I (h.prepareMode w m self).2
  commit : ∀ w m self, I self → I (h.commitMode w m self).2
  synchronize : ∀ w m self, I self → I (h.synchronizeMode w m self).2
  abort : ∀ w id self, I self → I (h.abortMode w id self)
  stateChanged : ∀ w m health self, I self → I (h.systemStateChanged w m health self)

/-- A handler in a state of `I` never agrees to prepare `m`. -/
def ModeHandler.Refuses (h : ModeHandler η ω) (I : η → Prop) (m : SystemMode) : Prop :=
  ∀ w self, I self → (h.prepareMode w m self).1 ≠ .ok ()

namespace ModeHandler

variable {h : ModeHandler η ω} {I : η → Prop} {w : ω} {self : η} {a : ApplicationId}
  {m : SystemMode}

theorem Keeps.registrationReceived (hk : h.Keeps I) (hi : I self) (message : SamToApplication) :
    I (h.registrationReceived w self message).2 := by
  cases message with
  | registerAccepted version mode health =>
    unfold ModeHandler.registrationReceived
    dsimp only
    split
    · exact hi
    · have hsync : I (if h.currentMode self ≠ mode then h.synchronizeMode w mode self
          else (.ok (), self)).2 := by
        split
        · exact hk.synchronize w mode self hi
        · exact hi
      split
      · rename_i reason handler heq
        rw [heq] at hsync
        exact hsync
      · rename_i handler heq
        rw [heq] at hsync
        exact hk.stateChanged w mode health handler hsync
  | registerRejected | prepareMode | commitMode | abortMode | stateBroadcast => exact hi

theorem Keeps.messageReceived (hk : h.Keeps I) (hi : I self) (message : SamToApplication) :
    I (h.messageReceived w a self message).handler := by
  unfold ModeHandler.messageReceived
  cases message with
  | prepareMode id mode =>
    have hp := hk.prepare w mode self hi
    dsimp only
    split <;> rename_i heq <;> rw [heq] at hp <;> exact hp
  | commitMode id mode =>
    have hc := hk.commit w mode self hi
    dsimp only
    split <;> rename_i heq <;> rw [heq] at hc <;> exact hc
  | abortMode id => exact hk.abort w id self hi
  | stateBroadcast mode health => exact hk.stateChanged w mode health self hi
  | registerAccepted | registerRejected => exact hi

/-- A handler that refuses a mode is never recorded to have prepared it. -/
theorem Refuses.call (hr : h.Refuses I m) (hi : I self) (message : SamToApplication)
    (id : TransitionId) :
    (h.messageReceived w a self message).call ≠ some (.prepareMode id m true) := by
  unfold ModeHandler.messageReceived
  cases message with
  | prepareMode id' mode =>
    dsimp only
    split
    · rename_i handler heq
      rintro ⟨⟩
      exact hr w self hi (by rw [heq])
    · rintro ⟨⟩
  | commitMode id' mode => dsimp only; split <;> rintro ⟨⟩
  | abortMode | stateBroadcast | registerAccepted | registerRejected => rintro ⟨⟩

end ModeHandler

/-- The demo applications do not change their minds; -/
theorem demoHandler_keeps {b : Bool} : demoHandler.Keeps (·.rejectWorking = b) where
  prepare _ m self h := by rw [← h]; exact self.prepareMode_rejectWorking m
  commit _ _ _ h := h
  synchronize _ m self h := by
    show ((demoCallbacks.defaultSynchronizeMode () m self).2).rejectWorking = b
    rw [← h]
    unfold ModeHandler.defaultSynchronizeMode
    split
    · rfl
    · split <;> rename_i heq <;> rw [← self.prepareMode_rejectWorking m] <;>
        exact (congrArg (fun r => r.2.rejectWorking) heq).symm
  abort _ _ _ h := h
  stateChanged _ _ _ _ h := h

/-- and what they still owe a refusal they owed before; -/
theorem demoHandler_keeps_owed (n : Nat) : demoHandler.Keeps (·.owed ≤ n) where
  prepare _ m self h := (self.prepareMode_owed m).trans h
  commit _ _ _ h := h
  synchronize _ m self h := by
    show (demoCallbacks.defaultSynchronizeMode () m self).2.owed ≤ n
    refine le_trans ?_ h
    unfold ModeHandler.defaultSynchronizeMode
    split
    · exact le_rfl
    · refine le_trans (le_of_eq ?_) (self.prepareMode_owed m)
      split <;> rename_i heq <;> exact (congrArg (fun r => r.2.owed) heq).symm
  abort _ _ _ h := h
  stateChanged _ _ _ _ h := h

/-- one started with `--reject-working` refuses `Working`. -/
theorem demoHandler_refuses : demoHandler.Refuses (·.rejectWorking = true) .working := by
  intro w self h
  show (self.prepareMode .working).1 ≠ .ok ()
  unfold DemoHandler.prepareMode
  rw [if_pos ⟨rfl, by rw [h, Bool.true_or]⟩]
  rintro ⟨⟩

/-- The handler with which an input starts application `a` again. -/
def Input.restarted? {η ω : Type*} (a : ApplicationId) : Input η ω → Option η
  | .restart b handler => if b = a then some handler else none
  | _ => none

/-- What a step makes of the handler `self` of application `a`, and the callbacks it records. -/
inductive HandlerStep (h : ModeHandler η ω) (a : ApplicationId) (self : η) (input : Input η ω) :
    η → List HandlerCall → Prop
  | same : HandlerStep h a self input self []
  | restart (handler : η) (hi : input = .restart a handler) : HandlerStep h a self input handler []
  | registration (w : ω) (message : SamToApplication) :
      HandlerStep h a self input (h.registrationReceived w self message).2 []
  | message (w : ω) (message : SamToApplication) :
      HandlerStep h a self input (h.messageReceived w a self message).handler
        (h.messageReceived w a self message).call.toList

namespace System

variable {handlers : ApplicationId → ModeHandler η ω} {timeout : Duration} {s s' : System η}
  {a : ApplicationId} {input : Input η ω} {inputs : List (Input η ω)}

/-- The callbacks application `a` has run in answer to orders. -/
def callbacks (s : System η) (a : ApplicationId) : List HandlerCall :=
  (s.calls.filter (·.application = a)).map (·.call)

theorem mem_callbacks {call : HandlerCall} :
    call ∈ s.callbacks a ↔ ∃ answer, s.Ran a call answer := by
  unfold callbacks Ran
  simp only [List.mem_map, List.mem_filter, decide_eq_true_eq]
  constructor
  · rintro ⟨⟨b, k, c, answer⟩, ⟨hmem, rfl⟩, rfl⟩
    exact ⟨answer, k, hmem⟩
  · rintro ⟨answer, k, hmem⟩
    exact ⟨_, ⟨hmem, rfl⟩, rfl⟩

theorem callbacks_recordCall (b : ApplicationId) (k : Nat) (call : Option HandlerCall)
    (answer : Option ApplicationToSam) :
    (s.recordCall b k call answer).callbacks a =
      s.callbacks a ++ if b = a then call.toList else [] := by
  unfold callbacks
  rw [recordCall_calls, List.filter_append, List.map_append]
  congr 1
  cases call with
  | none =>
    rw [Option.toList_none, ite_self]
    rfl
  | some call => by_cases hb : b = a <;> simp [hb]

/-- A step in which `a` has this handler and runs these callbacks. -/
def Acts (handlers : ApplicationId → ModeHandler η ω) (s : System η) (input : Input η ω)
    (a : ApplicationId) (s' : System η) : Prop :=
  ∃ new, HandlerStep (handlers a) a (s.clients a).handler input (s'.clients a).handler new ∧
    s'.callbacks a = s.callbacks a ++ new

theorem Acts.still (hh : (s'.clients a).handler = (s.clients a).handler)
    (hc : s'.callbacks a = s.callbacks a) : Acts handlers s input a s' :=
  ⟨[], hh ▸ .same, by rw [hc, List.append_nil]⟩

/-- A message of a session, whichever way it ends. -/
theorem Acts.taken {t : System η} {k : Nat} {w : ω} {message : SamToApplication}
    {session : ClientSession} {answer : Option ApplicationToSam} (ht : t.calls = s.calls) :
    Acts handlers s input a
      ((t.setClient a
        ⟨((handlers a).messageReceived w a (s.clients a).handler message).handler,
          session⟩).recordCall
          a k ((handlers a).messageReceived w a (s.clients a).handler message).call answer) := by
  refine ⟨((handlers a).messageReceived w a (s.clients a).handler message).call.toList, ?_, ?_⟩
  · rw [recordCall_clients, setClient_clients, Function.update_self]
    exact .message w message
  · rw [callbacks_recordCall, if_pos rfl]
    unfold callbacks
    rw [setClient_calls, ht]

/-- Only the session of a client has changed. -/
theorem handler_setClient (b : ApplicationId) (session : ClientSession) :
    ((s.setClient b { s.clients b with session := session }).clients a).handler =
      (s.clients a).handler := by
  rw [setClient_clients]
  by_cases hb : a = b
  · rw [hb, Function.update_self]
  · rw [Function.update_of_ne hb]

theorem acts_receive (w : ω) (written : Bool) :
    Acts handlers s input a (s.clientReceive handlers a w written) := by
  unfold clientReceive
  dsimp only
  split
  · split
    · exact .still rfl rfl
    · rename_i k hs message down hd
      refine ⟨[], ?_, (List.append_nil _).symm⟩
      rw [setClient_clients, Function.update_self]
      exact .registration w message
  · split
    · exact .still rfl rfl
    · split
      · exact .taken rfl
      · split <;> exact .taken rfl
      · exact .taken rfl
  · exact .still rfl rfl

/-- The callbacks of others are not its own. -/
theorem callbacks_receive {b : ApplicationId} (hb : b ≠ a) (w : ω) (written : Bool) :
    (s.clientReceive handlers b w written).callbacks a = s.callbacks a := by
  have hother : ∀ (t : System η) (k : Nat) (call : Option HandlerCall)
      (answer : Option ApplicationToSam), t.calls = s.calls →
      (t.recordCall b k call answer).callbacks a = s.callbacks a := by
    intro t k call answer ht
    rw [callbacks_recordCall, if_neg hb, List.append_nil]
    unfold callbacks
    rw [ht]
  unfold clientReceive
  dsimp only
  split
  · split <;> rfl
  · split
    · rfl
    · split
      · exact hother _ _ _ _ rfl
      · split <;> exact hother _ _ _ _ rfl
      · exact hother _ _ _ _ rfl
  · rfl

/-- **What a step makes of a handler.** -/
theorem handler_step (handlers : ApplicationId → ModeHandler η ω) (s : System η) (input : Input η ω)
    (a : ApplicationId) :
    Acts handlers s input a (step handlers s input) := by
  cases input with
  | clientReceive b w written =>
    by_cases hb : b = a
    · subst hb
      exact acts_receive w written
    · have hne : (Input.clientReceive b w written : Input η ω).client? ≠ some a :=
        fun h => hb (Option.some.inj h)
      exact .still (by rw [step_clients hne]) (callbacks_receive hb w written)
  | restart b handler =>
    by_cases hb : b = a
    · subst hb
      refine ⟨[], ?_, (List.append_nil _).symm⟩
      rw [step, setClient_clients, Function.update_self]
      exact .restart handler rfl
    · exact .still (by rw [step, setClient_clients, Function.update_of_ne (Ne.symm hb)]) rfl
  | connect b k =>
    rw [step]
    split
    · exact .still (handler_setClient (s := s.setLink k _) b _) rfl
    · exact .still rfl rfl
  | clientHeartbeat b w written =>
    rw [step, clientHeartbeat]
    split
    · split
      · exact .still rfl rfl
      · exact .still (handler_setClient b _) rfl
    · exact .still rfl rfl
  | clientClose b =>
    rw [step]
    split
    · exact .still (handler_setClient b _) rfl
    · exact .still (handler_setClient b _) rfl
    · exact .still rfl rfl
  | serverReceive k now =>
    rw [step, serverReceive]
    dsimp only
    split
    · split
      · exact .still rfl rfl
      · split <;> exact .still rfl rfl
    · exact .still rfl rfl
    · exact .still rfl rfl
    · exact .still rfl rfl
  | serverSend k written => rw [step, serverSend]; split <;> exact .still rfl rfl
  | serverClose k now => rw [step, serverClose]; split <;> exact .still rfl rfl
  | requestMode | refreshHealth => exact .still rfl rfl

/-! ## Invariants of a handler -/

/-- The handlers with which application `a` has been started. -/
def processes (initial : ApplicationId → η) (inputs : List (Input η ω)) (a : ApplicationId) :
    List η :=
  initial a :: inputs.filterMap (·.restarted? a)

theorem processes_concat (initial : ApplicationId → η) (inputs : List (Input η ω))
    (input : Input η ω) (a : ApplicationId) :
    processes initial (inputs ++ [input]) a =
      processes initial inputs a ++ (input.restarted? a).toList := by
  unfold processes
  rw [List.filterMap_append, List.cons_append]
  cases h : input.restarted? a <;> simp [h]

/-- A step keeps an invariant that no callback breaks. -/
theorem Acts.handler {I : η → Prop} (h : Acts handlers s input a s') (hk : (handlers a).Keeps I)
    (hrestart : ∀ self, input.restarted? a = some self → I self) (hi : I (s.clients a).handler) :
    I (s'.clients a).handler := by
  obtain ⟨new, hstep, -⟩ := h
  generalize (s'.clients a).handler = self' at hstep ⊢
  cases hstep with
  | same => exact hi
  | restart _ hinput =>
    refine hrestart _ ?_
    rw [hinput, Input.restarted?, if_pos rfl]
  | registration w message => exact hk.registrationReceived hi message
  | message w message => exact hk.messageReceived hi message

/-- A callback that does not come of any message is not run. -/
theorem Acts.never {I : η → Prop} {call : HandlerCall} (h : Acts handlers s input a s')
    (hcall : ∀ w self message, I self →
      ((handlers a).messageReceived w a self message).call ≠ some call)
    (hi : I (s.clients a).handler) (hold : call ∉ s.callbacks a) : call ∉ s'.callbacks a := by
  obtain ⟨new, hstep, hcalls⟩ := h
  rw [hcalls, List.mem_append, not_or]
  refine ⟨hold, ?_⟩
  generalize (s'.clients a).handler = self' at hstep
  cases hstep with
  | same | restart | registration => exact List.not_mem_nil
  | message w message =>
    rw [Option.mem_toList]
    exact hcall w _ message hi

/-- An invariant no callback breaks holds of a handler if the application is started in it. -/
theorem handler_run (timeout : Duration) {I : η → Prop} (hk : (handlers a).Keeps I)
    {initial : ApplicationId → η} (h0 : ∀ self ∈ processes initial inputs a, I self) :
    I ((run handlers (System.new timeout initial) inputs).clients a).handler := by
  induction inputs using List.reverseRecOn with
  | nil => exact h0 _ (List.mem_cons_self ..)
  | append_singleton inputs input ih =>
    rw [processes_concat] at h0
    have hi := ih fun self hmem => h0 self (List.mem_append_left _ hmem)
    unfold run at hi ⊢
    rw [Machine.run_concat]
    refine (handler_step handlers _ input a).handler hk (fun self hself => ?_) hi
    exact h0 self (List.mem_append_right _ (Option.mem_toList.mpr hself))

/-- A callback that does not come of any message is never run. -/
theorem never_called {I : η → Prop} (hk : (handlers a).Keeps I) {call : HandlerCall}
    (hcall : ∀ w self message, I self →
      ((handlers a).messageReceived w a self message).call ≠ some call)
    {initial : ApplicationId → η} (h0 : ∀ self ∈ processes initial inputs a, I self) :
    call ∉ (run handlers (System.new timeout initial) inputs).callbacks a := by
  induction inputs using List.reverseRecOn with
  | nil => exact List.not_mem_nil
  | append_singleton inputs input ih =>
    rw [processes_concat] at h0
    have h0' : ∀ self ∈ processes initial inputs a, I self :=
      fun self hmem => h0 self (List.mem_append_left _ hmem)
    have hi := handler_run timeout hk h0'
    have hold := ih h0'
    unfold run at hi hold ⊢
    rw [Machine.run_concat]
    exact (handler_step handlers _ input a).never hcall hi hold

/-- What completes has been confirmed by all who were asked. -/
theorem completes_confirmed {pre post : List Operation} {op : Operation} {id : TransitionId}
    {m : SystemMode} (hops : s.operations = pre ++ op :: post)
    (hc : Completes ((service₀ timeout).run pre) op id m) :
    ∃ P, .requested id m P ∈ s.events timeout ∧ ∀ p ∈ P, .committed p id m ∈ s.events timeout := by
  obtain ⟨-, H, hR⟩ := service_refines timeout (fun _ => Channel.new OUTBOUND_QUEUE_DEPTH) pre
  obtain ⟨P, hP, hall⟩ := completes_counted hR hc
  have hsub : (service₀ timeout).eventLog pre ++
      (((service₀ timeout).run pre).event op).toList ⊆ s.events timeout := by
    unfold events
    rw [hops, List.append_cons, SamService.eventLog_append, SamService.eventLog_concat]
    exact List.subset_append_left _ _
  exact ⟨P, hsub (List.mem_append_left _ hP), fun p hp => hsub (hall p hp)⟩

/-- `guidance` is started with `--reject-working`, and `Working` is requested. -/
def rejecting : List (Input DemoHandler Unit) :=
  [.connect Demo.navigation 0, .serverReceive 0 0, .serverSend 0 true,
    .clientReceive Demo.navigation () true,
    .connect Demo.guidance 1, .serverReceive 1 1, .serverSend 1 true,
    .clientReceive Demo.guidance () true,
    .requestMode .working,
    .serverSend 0 true, .clientReceive Demo.navigation () true, .serverReceive 0 2,
    .serverSend 1 true, .clientReceive Demo.guidance () true, .serverReceive 1 3]

end System

/-! ## How often the demo applications refuse -/

/-- A `prepare_mode` that returned an error. -/
def HandlerCall.isRefusal : HandlerCall → Bool
  | .prepareMode _ _ ok => !ok
  | .commitMode _ _ _ => false

/-- A refusal is paid for. -/
theorem refusal_step {a : ApplicationId} {self self' : DemoHandler} {input : Input DemoHandler Unit}
    {new : List HandlerCall} (hself : self.rejectWorking = false)
    (h : HandlerStep demoHandler a self input self' new) :
    new.countP HandlerCall.isRefusal + self'.owed ≤
      self.owed + (input.restarted? a).toList.countP (·.rejectWorkingOnce) := by
  cases h with
  | same => simp
  | restart _ hi =>
    rw [hi, Input.restarted?, if_pos rfl]
    simp [DemoHandler.owed, List.countP_singleton]
  | registration w message =>
    have howed := (demoHandler_keeps_owed self.owed).registrationReceived (w := w) le_rfl message
    rw [List.countP_nil, Nat.zero_add]
    exact howed.trans (Nat.le_add_right _ _)
  | message w message =>
    refine le_trans ?_ (Nat.le_add_right _ _)
    cases message with
    | prepareMode id mode =>
      have hpaid := self.prepareMode_paid hself mode
      unfold ModeHandler.messageReceived
      dsimp only
      split <;> rename_i heq <;> change self.prepareMode mode = _ at heq <;> rw [heq] at hpaid <;>
        simpa [HandlerCall.isRefusal] using hpaid
    | commitMode | abortMode | stateBroadcast | registerAccepted | registerRejected =>
      exact (Nat.zero_add _).le

namespace System

/-- **One intentional rejection each.**  However often applications reconnect and transitions are
    requested, a demo application that is not to reject `Working` for good refuses at most once for
    every process started with `--reject-working-once`, and never otherwise. -/
theorem refusals_budget (timeout : Duration) (initial : ApplicationId → DemoHandler)
    (inputs : List (Input DemoHandler Unit)) (a : ApplicationId)
    (h0 : ∀ self ∈ processes initial inputs a, self.rejectWorking = false) :
    ((run (fun _ => demoHandler) (System.new timeout initial) inputs).callbacks a).countP
        HandlerCall.isRefusal ≤
      (processes initial inputs a).countP (·.rejectWorkingOnce) := by
  -- what is still owed is included
  refine (Nat.le_add_right _ (DemoHandler.owed
    ((run (fun _ => demoHandler) (System.new timeout initial) inputs).clients a).handler)).trans ?_
  induction inputs using List.reverseRecOn with
  | nil =>
    show 0 + (initial a).owed ≤ List.countP _ [initial a]
    rw [Nat.zero_add, List.countP_singleton]
    exact le_rfl
  | append_singleton inputs input ih =>
    rw [processes_concat] at h0
    have h0' : ∀ self ∈ processes initial inputs a, self.rejectWorking = false :=
      fun self hmem => h0 self (List.mem_append_left _ hmem)
    have hself : ((Machine.run (step fun _ => demoHandler) (System.new timeout initial)
        inputs).clients a).handler.rejectWorking = false :=
      handler_run timeout demoHandler_keeps h0'
    have hold := ih h0'
    unfold run at hold ⊢
    rw [Machine.run_concat]
    obtain ⟨new, hstep, hcalls⟩ := handler_step (fun _ => demoHandler)
      (Machine.run (step fun _ => demoHandler) (System.new timeout initial) inputs) input a
    have hpaid := refusal_step hself hstep
    rw [hcalls, List.countP_append, processes_concat, List.countP_append]
    omega

theorem refusals_budget_demo :
    ((run (fun _ => demoHandler)
      (System.new 2000000000 fun a =>
        (DemoHandler.new a.value false .healthy).withRejectWorkingOnce true)
      (rejecting ++ [.requestMode .working, .serverSend 1 true, .serverSend 1 true,
        .clientReceive Demo.guidance () true, .clientReceive Demo.guidance () true])).callbacks
          Demo.guidance).countP HandlerCall.isRefusal ≤ 1 :=
  refusals_budget 2000000000
    (fun a => (DemoHandler.new a.value false .healthy).withRejectWorkingOnce true) _ Demo.guidance
    (by decide +kernel)

end System

end Sam
