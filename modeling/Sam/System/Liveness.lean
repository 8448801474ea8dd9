import Sam.Library.Fair
import Sam.System.Progress

/-!
# Transitions come to an end

* `Fair` — everybody who takes part acts again and again.
* `Endless` — an endless run that is not disturbed while a transition is in progress.
* `Endless.queued`, `Endless.asked`, `Endless.answered` — a question in the queue, a question on the
  wire and an answer on the wire bring the transition nearer to its end.
* `transition_ends` — in a fair endless run every transition ends.
* `request_carried_out` — if all handlers oblige, in the mode requested.
-/

namespace Sam

open SamService

namespace System

variable {η ω : Type*} {handlers : ApplicationId → ModeHandler η ω} {timeout : Duration}
  {s s' : System η} {k : Nat} {link : Link} {ops : List Operation} {a : ApplicationId}
  {conn : ConnectionId}

/-! ## Endless runs -/

/-- The state of an endless run after `n` steps. -/
abbrev orbit (handlers : ApplicationId → ModeHandler η ω) (s : System η) (inputs : Nat → Input η ω)
    (n : Nat) : System η := Machine.orbit (step handlers) s inputs n

/-- Everybody who takes part in a transition acts again and again: the session task sends and
    receives, and the client takes what has come. -/
def Fair (state : Nat → System η) (inputs : Nat → Input η ω) : Prop :=
  ∀ n, ∀ e ∈ (state n).service.inner.clients.entries, e.1 ∈ (state n).participants →
    (∃ m, n ≤ m ∧ ∃ written, inputs m = .serverSend e.2.outbound.channel written) ∧
    (∃ m, n ≤ m ∧ ∃ world written, inputs m = .clientReceive e.1 world written) ∧
    ∃ m, n ≤ m ∧ ∃ now, inputs m = .serverReceive e.2.outbound.channel now

theorem serverSend_shorter {written : Bool} (ht : (s.links k).task = .registered a conn)
    (hq : s.queue k ≠ []) : ((s.serverSend k written).queue k).length < (s.queue k).length := by
  unfold queue at hq ⊢
  obtain ⟨x, rest, hx⟩ := List.exists_cons_of_ne_nil hq
  have hservice : (s.serverSend k written).service = s.service.step (.receive ⟨k⟩) := by
    unfold serverSend
    dsimp only
    rw [ht, hx]
    rfl
  rw [hservice]
  show (Function.update s.service.channels ⟨k⟩ _ ⟨k⟩).queue.length < _
  rw [Function.update_self, Channel.recv, hx]
  exact Nat.lt_succ_self _

theorem serverReceive_shorter {now : Instant} (ht : (s.links k).task = .registered a conn)
    (hu : (s.links k).up ≠ []) :
    ((s.serverReceive k now).links k).up.length < (s.links k).up.length := by
  obtain ⟨x, rest, hx⟩ := List.exists_cons_of_ne_nil hu
  unfold serverReceive
  dsimp only
  rw [ht, hx]
  show (Function.update s.links k _ k).up.length < _
  rw [Function.update_self]
  exact Nat.lt_succ_self _

theorem clientReceive_shorter {world : ω} {written : Bool}
    (hs : (s.clients a).session.link? = some k) (hd : (s.links k).down ≠ []) :
    ((s.clientReceive handlers a world written).links k).down.length < (s.links k).down.length := by
  obtain ⟨x, rest, hx⟩ := List.exists_cons_of_ne_nil hd
  have hget : ((s.clientReceive handlers a world written).links k).down = rest := by
    unfold clientReceive
    dsimp only
    split
    · rename_i k' hsession
      rw [hsession] at hs
      cases hs
      rw [hx]
      simp [Link.get]
    · rename_i k' hsession
      rw [hsession] at hs
      cases hs
      rw [hx]
      dsimp only
      split
      · simp [Link.get]
      · split <;> simp [Link.get, Link.write]
      · simp [Link.get]
    · rename_i hno hno'
      cases hsession : (s.clients a).session with
      | registering k' => exact absurd hsession (hno k')
      | running k' => exact absurd hsession (hno' k')
      | idle | stopped =>
        rw [hsession] at hs
        cases hs
  rw [hget, hx]
  exact Nat.lt_succ_self _

/-- An endless run of SAM and its applications that is not disturbed while a transition is in
    progress. -/
structure Endless (handlers : ApplicationId → ModeHandler η ω) (timeout : Duration)
    (state : Nat → System η) (inputs : Nat → Input η ω) : Prop where
  step : ∀ n, state (n + 1) = System.step handlers (state n) (inputs n)
  undisturbed : ∀ n, Undisturbed (state n) (state (n + 1))
  driven : ∀ n, Driven timeout (state n)
  owned : ∀ n, Owned (state n)
  due : ∀ n, Due (state n)

theorem endless_orbit {handlers : ApplicationId → ModeHandler η ω} {timeout : Duration}
    {initial : ApplicationId → η} {inputs : Nat → Input η ω}
    (hu : ∀ n, Undisturbed (orbit handlers (System.new timeout initial) inputs n)
      (orbit handlers (System.new timeout initial) inputs (n + 1))) :
    Endless handlers timeout (orbit handlers (System.new timeout initial) inputs) inputs where
  step n := rfl
  undisturbed := hu
  driven n := by
    unfold orbit
    rw [Machine.orbit_eq_run]
    exact driven_run timeout initial _
  owned n := by
    unfold orbit
    rw [Machine.orbit_eq_run]
    exact owned_run timeout initial _
  due n := by
    unfold orbit
    rw [Machine.orbit_eq_run]
    exact due_run timeout initial (Machine.always_orbit.mpr fun m _ => hu m)

section Liveness

variable {state : Nat → System η} {inputs : Nat → Input η ω} {phase : ModeManagerState}
  {q : SamToApplication}

/-- The transition has come nearer to its end than it is in this phase. -/
def Nearer (phase : ModeManagerState) (s : System η) : Prop :=
  s.service.inner.modes.state.awaited < phase.awaited

/-- The manager is in this phase, and `a` is connected on link `k`. -/
def Still (phase : ModeManagerState) (a : ApplicationId) (conn : ConnectionId) (k : Nat)
    (s : System η) : Prop :=
  s.service.inner.modes.state = phase ∧ s.service.inner.clients.lookup a = some ⟨conn, ⟨k⟩⟩

theorem Still.inProgress (h : Still phase a conn k s) (hq : phase.question? = some q) :
    s.service.transitionInProgress = true :=
  inProgress_of_question (h.1 ▸ hq)

theorem Still.participant (h : Still phase a conn k s) (ha : a ∈ phase.waitingFor) :
    a ∈ s.participants := by
  unfold participants
  rw [h.1]
  exact ModeManagerState.waitingFor_subset phase ha

theorem Move.awaited (hd : Driven timeout s) (hm : Move handlers s s')
    (hp : s.service.transitionInProgress = true) :
    s'.service.inner.modes.state = s.service.inner.modes.state ∨
      s'.service.inner.modes.state.awaited < s.service.inner.modes.state.awaited := by
  rcases hm.phase with hmodes | ⟨op, hop, -⟩
  · exact .inl (congrArg ModeManager.state hmodes)
  · rw [hop]
    exact awaited_step hd.refines.1 (step_effect s.service op) hp

/-- **Either the transition comes nearer to its end, or the connection takes a step.** -/
theorem Endless.next (h : Endless handlers timeout state inputs) (hq : phase.question? = some q)
    (ha : a ∈ phase.waitingFor) {n : Nat} (hs : Still phase a conn k (state n)) :
    Nearer phase (state (n + 1)) ∨ Still phase a conn k (state (n + 1)) ∧
      LinkStep (state n) (state (n + 1)) a conn k := by
  have hp := hs.inProgress hq
  have hm : Move handlers (state n) (state (n + 1)) := by
    rw [h.step n]
    exact step_move _ _
  obtain ⟨hlook, -, ⟨ht, hc⟩, ht', hc'⟩ :=
    (h.undisturbed n).stays (Finset.mem_union_left _ (hs.participant ha)) hs.2
  rcases hm.awaited (h.driven n) hp with hsame | hlt
  · exact .inr ⟨⟨hsame.trans hs.1, hlook⟩, hm.link_step (h.owned n) ht ht' hc hc'⟩
  · rw [hs.1] at hlt
    exact .inl hlt

/-- Three times it is somebody's turn: the session task's to send, the client's, the session
    task's to receive. -/
theorem Endless.turns (h : Endless handlers timeout state inputs) (hf : Fair state inputs)
    (ha : a ∈ phase.waitingFor) {n : Nat} (hs : Still phase a conn k (state n)) :
    (∃ m, n ≤ m ∧ (Still phase a conn k (state m) → (state m).queue k ≠ [] →
      ((state (m + 1)).queue k).length < ((state m).queue k).length)) ∧
    (∃ m, n ≤ m ∧ (Still phase a conn k (state m) → ((state m).links k).down ≠ [] →
      ((state (m + 1)).links k).down.length < ((state m).links k).down.length)) ∧
    ∃ m, n ≤ m ∧ (Still phase a conn k (state m) → ((state m).links k).up ≠ [] →
      ((state (m + 1)).links k).up.length < ((state m).links k).up.length) := by
  -- whoever is waited for is there
  have hthere : ∀ m, Still phase a conn k (state m) →
      ((state m).links k).task = .registered a conn ∧
        ((state m).clients a).session.link? = some k := by
    intro m hm
    obtain ⟨-, -, hthere, -⟩ :=
      (h.undisturbed m).stays (Finset.mem_union_left _ (hm.participant ha)) hm.2
    exact hthere
  obtain ⟨⟨i, hni, written, hi⟩, ⟨j, hnj, world, written', hj⟩, l, hnl, now, hl⟩ :=
    hf n ⟨a, conn, ⟨k⟩⟩ (AList.mem_lookup_iff.mp hs.2) (hs.participant ha)
  refine ⟨⟨i, hni, fun hm hne => ?_⟩, ⟨j, hnj, fun hm hne => ?_⟩, l, hnl, fun hm hne => ?_⟩
  · rw [h.step i, hi]
    exact serverSend_shorter (hthere i hm).1 hne
  · rw [h.step j, hj]
    exact clientReceive_shorter (hthere j hm).2 hne
  · rw [h.step l, hl]
    exact serverReceive_shorter (hthere l hm).1 hne

/-- **An answer under way arrives.** -/
theorem Endless.answered (h : Endless handlers timeout state inputs) (hf : Fair state inputs)
    (hq : phase.question? = some q) (ha : a ∈ phase.waitingFor) {x : ApplicationToSam}
    (hx : q.AnsweredBy a x) :
    Fair.LeadsTo state (fun s => Still phase a conn k s ∧ x ∈ (s.links k).up) (Nearer phase) := by
  refine Fair.leadsTo_queue (fun s => (s.links k).up) x (fun n hs => ?_)
    fun n hs => (h.turns hf ha hs).2.2
  rcases h.next hq ha hs with hnear | ⟨hstill, hl⟩
  · exact .inl hnear
  · cases hl with
    | grow _ _ hu => exact .inr ⟨hstill, .inl hu⟩
    | send y _ _ hu => exact .inr ⟨hstill, .inl (by rw [hu])⟩
    | read y answers _ _ hu => exact .inr ⟨hstill, .inl ⟨answers, hu.symm⟩⟩
    | take y now _ _ hu hservice =>
      by_cases hy : y = x
      · subst hy
        have hcount := answer_counts now (h.driven n).refines.1 hs.2 (hs.1 ▸ hq)
          (hs.1 ▸ ha) hx
        rw [← hservice, hs.1] at hcount
        exact .inl hcount
      · exact .inr ⟨hstill, .inr ⟨y, _, [], hu, (List.append_nil _).symm, hy⟩⟩

/-- **A question on the wire is answered.** -/
theorem Endless.asked (h : Endless handlers timeout state inputs) (hf : Fair state inputs)
    (hq : phase.question? = some q) (ha : a ∈ phase.waitingFor) :
    Fair.LeadsTo state (fun s => Still phase a conn k s ∧ q ∈ (s.links k).down) (Nearer phase) := by
  have hread : Fair.LeadsTo state (fun s => Still phase a conn k s ∧ q ∈ (s.links k).down)
      (fun s => Nearer phase s ∨
        ∃ x, q.AnsweredBy a x ∧ Still phase a conn k s ∧ x ∈ (s.links k).up) := by
    refine Fair.leadsTo_queue (fun s => (s.links k).down) q (fun n hs => ?_)
      fun n hs => (h.turns hf ha hs).2.1
    rcases h.next hq ha hs with hnear | ⟨hstill, hl⟩
    · exact .inl (.inl hnear)
    · cases hl with
      | grow _ hd => exact .inr ⟨hstill, .inl (by rw [hd])⟩
      | send y _ hd => exact .inr ⟨hstill, .inl ⟨[y], hd.symm⟩⟩
      | take y now _ hd => exact .inr ⟨hstill, .inl (by rw [hd])⟩
      | read y answers _ hd hu hy =>
        by_cases hyq : y = q
        · subst hyq
          obtain ⟨x, hx, hanswer⟩ := hy phase hq
          exact .inl (.inr ⟨x, hanswer, hstill, by rw [hu]; exact List.mem_append_right _ hx⟩)
        · exact .inr ⟨hstill, .inr ⟨y, _, [], hd, (List.append_nil _).symm, hyq⟩⟩
  refine hread.trans (Fair.LeadsTo.or (.of_imp fun _ h => h) ?_)
  rintro n ⟨x, hx, hup⟩
  exact h.answered hf hq ha hx n hup

/-- **A question in the queue is answered.** -/
theorem Endless.queued (h : Endless handlers timeout state inputs) (hf : Fair state inputs)
    (hq : phase.question? = some q) (ha : a ∈ phase.waitingFor) :
    Fair.LeadsTo state (fun s => Still phase a conn k s ∧ q ∈ s.queue k) (Nearer phase) := by
  have hsent : Fair.LeadsTo state (fun s => Still phase a conn k s ∧ q ∈ s.queue k)
      (fun s => Nearer phase s ∨ Still phase a conn k s ∧ q ∈ (s.links k).down) := by
    refine Fair.leadsTo_queue (fun s => s.queue k) q (fun n hs => ?_)
      fun n hs => (h.turns hf ha hs).1
    rcases h.next hq ha hs with hnear | ⟨hstill, hl⟩
    · exact .inl (.inl hnear)
    · cases hl with
      | grow hqueue => exact .inr ⟨hstill, .inl hqueue⟩
      | read y answers hqueue => exact .inr ⟨hstill, .inl (by rw [hqueue])⟩
      | take y now hqueue => exact .inr ⟨hstill, .inl hqueue⟩
      | send y hqueue hd =>
        by_cases hyq : y = q
        · subst hyq
          exact .inl (.inr ⟨hstill, by rw [hd]; simp⟩)
        · exact .inr ⟨hstill, .inr ⟨y, _, [], hqueue, (List.append_nil _).symm, hyq⟩⟩
  exact hsent.trans (Fair.LeadsTo.or (.of_imp fun _ h => h) (h.asked hf hq ha))

/-- A transition in progress comes nearer to its end. -/
theorem Endless.nearer (h : Endless handlers timeout state inputs) (hf : Fair state inputs)
    {n : Nat} (hp : (state n).service.transitionInProgress = true) :
    ∃ m, n ≤ m ∧ Nearer (state n).service.inner.modes.state (state m) := by
  obtain ⟨q, a, conn, k, hq, ha, hlook, -, hengaged⟩ := (h.due n).somebody (h.driven n) hp
  have hstill : Still (state n).service.inner.modes.state a conn k (state n) := ⟨rfl, hlook⟩
  rcases hengaged with hqueue | hdown | ⟨x, hx, hanswer⟩
  · exact h.queued hf hq ha n ⟨hstill, hqueue⟩
  · exact h.asked hf hq ha n ⟨hstill, hdown⟩
  · exact h.answered hf hq ha hanswer n ⟨hstill, hx⟩

/-- No transition is in progress for ever. -/
theorem Endless.ends (h : Endless handlers timeout state inputs) (hf : Fair state inputs)
    (n : Nat) :
    ∃ m, n ≤ m ∧ (state m).service.transitionInProgress = false := by
  refine Fair.eventually_of_descent (fun s : System η => s.service.transitionInProgress = false)
    (fun s => s.service.inner.modes.state.awaited) (fun n hn => ?_) n
  obtain ⟨m, hnm, hnear⟩ := h.nearer hf (Bool.not_eq_false _ ▸ hn)
  exact ⟨m, hnm, .inr hnear⟩

end Liveness

/-- **Every transition ends.**  In an endless run in which nobody who takes part in a transition is
    disturbed, and everybody who does acts again and again, SAM is time and again without a
    transition in progress. -/
theorem transition_ends (handlers : ApplicationId → ModeHandler η ω) (timeout : Duration)
    (initial : ApplicationId → η) (inputs : Nat → Input η ω) :
    let state := orbit handlers (System.new timeout initial) inputs
    (∀ n, Undisturbed (state n) (state (n + 1))) → Fair state inputs →
    ∀ n, ∃ m, n ≤ m ∧ (state m).service.transitionInProgress = false :=
  fun hu hf => (endless_orbit hu).ends hf

/-! ## Handlers that oblige -/

/-- Nobody has written a rejection. -/
def Approved (s : System η) : Prop := ∀ k, ∀ x ∈ (s.links k).written, ¬ x.IsRejection

theorem approved_new (timeout : Duration) (initial : ApplicationId → η) :
    Approved (System.new timeout initial) := by
  intro k x hx
  cases hx

theorem approved_move (hob : ∀ a, (handlers a).Obliging) (hm : Move handlers s s')
    (h : Approved s) : Approved s' := by
  cases hm with
  | idle | call | quit => exact h
  | server k ops link hm =>
    refine update_links (P := fun _ link => ∀ x ∈ link.written, ¬ x.IsRejection) (fun k _ => h k) ?_
    rw [hm.frame.written]
    exact h k
  | client a k link client call answer hm =>
    refine update_links (P := fun _ link => ∀ x ∈ link.written, ¬ x.IsRejection) (fun k _ => h k) ?_
    have hwrite : ∀ (link : Link) (y : ApplicationToSam), link.written = (s.links k).written →
        ¬ y.IsRejection → ∀ x ∈ (link.write y).written, ¬ x.IsRejection := by
      intro link y hlink hy x hx
      have hmem : x ∈ link.written ++ [y] := by
        unfold Link.written
        rw [List.append_assoc]
        exact hx
      rw [hlink] at hmem
      rcases List.mem_append.mp hmem with hmem | hmem
      · exact h k x hmem
      · rw [List.mem_singleton.mp hmem]
        exact hy
    cases hm with
    | connect => exact hwrite _ _ rfl fun h => h
    | heartbeat => exact hwrite _ _ rfl fun h => h
    | welcome | unwelcome | observe | leave => exact h k
    | answer world message down y _ _ hr =>
      refine hwrite _ y rfl ?_
      -- a rejection would be the handler's
      unfold ModeHandler.messageReceived at hr
      cases message with
      | prepareMode id mode =>
        have hok := (hob a).prepare world mode (s.clients a).handler
        dsimp only at hr
        split at hr
        · cases hr
          exact fun h => h
        · rename_i herr
          rw [herr] at hok
          cases hok
      | commitMode id mode =>
        dsimp only at hr
        split at hr
        · cases hr
          exact fun h => h
        · cases hr
      | registerAccepted | abortMode | stateBroadcast | registerRejected => cases hr

theorem approved_run (hob : ∀ a, (handlers a).Obliging) (timeout : Duration)
    (initial : ApplicationId → η) (inputs : List (Input η ω)) :
    Approved (run handlers (System.new timeout initial) inputs) :=
  move_invariant (approved_new timeout initial) (fun _ _ h hm => approved_move hob hm h) inputs

/-- A transition in progress stays in progress or arrives. -/
theorem target_move {m : SystemMode} (hd : Driven timeout s) (ha : Approved s)
    (hm : Move handlers s s') (ht : s.service.inner.modes.state.target? = some m) :
    s'.service.inner.modes.state = .stable m ∨ s'.service.inner.modes.state.target? = some m := by
  rcases hm.phase with hmodes | ⟨op, hop, hflight⟩
  · rw [hmodes]
    exact .inr ht
  · rw [hop]
    refine (target_step hd.refines.1 (step_effect s.service op) (fun b c x now h => ?_) ht).symm
    obtain ⟨k, hx⟩ := hflight b c x now h
    exact ha k x (List.mem_append_right _ hx)

/-- **Every request that is granted is carried out.**  In such a run, with handlers that oblige, SAM
    arrives in the mode requested. -/
theorem request_carried_out (handlers : ApplicationId → ModeHandler η ω) (timeout : Duration)
    (initial : ApplicationId → η) (inputs : Nat → Input η ω) (n : Nat) (target : SystemMode)
    (id : TransitionId) (hob : ∀ a, (handlers a).Obliging) :
    let state := orbit handlers (System.new timeout initial) inputs
    (∀ n, Undisturbed (state n) (state (n + 1))) → Fair state inputs →
    inputs n = .requestMode target → ((state n).service.requestMode target).1 = .ok id →
    ∃ m, n < m ∧ (state m).service.transitionInProgress = false ∧
      (state m).service.snapshot.mode = target := by
  intro state hu hf hn hid
  have h : Endless handlers timeout state inputs := endless_orbit hu
  -- the request has put the transition in progress
  have htarget : (state (n + 1)).service.inner.modes.state.target? = some target := by
    rw [h.step n, hn]
    show ((state n).service.step (.requestMode target)).inner.modes.state.target? = some target
    obtain ⟨current, -, -, -, -, hstep⟩ := granted_step hid
    rw [hstep]
    rfl
  have hkeep : ∀ m, (state m).service.inner.modes.state.target? = some target →
      (state (m + 1)).service.inner.modes.state = .stable target ∨
        (state (m + 1)).service.inner.modes.state.target? = some target := by
    intro m ht
    have happroved : Approved (state m) := by
      show Approved (Machine.orbit (step handlers) (System.new timeout initial) inputs m)
      rw [Machine.orbit_eq_run]
      exact approved_run hob timeout initial _
    refine target_move (h.driven m) happroved (?_ : Move handlers (state m) (state (m + 1))) ht
    rw [h.step m]
    exact step_move _ _
  obtain ⟨l, hnl, hl⟩ := h.ends hf (n + 1)
  rcases Fair.kept_until
      (p := fun s : System η => s.service.inner.modes.state.target? = some target)
      (q := fun s => s.service.inner.modes.state = .stable target) hkeep hnl htarget
    with ⟨m, hnm, hm⟩ | hstill
  · refine ⟨m, by omega, ?_, ?_⟩
    · unfold transitionInProgress
      rw [hm]
    · obtain ⟨-, H, hr⟩ := (h.driven m).refines
      show (state m).service.inner.system.mode = target
      rw [hr.system, ModeManager.currentMode, hm]
  · -- it has ended, so it has arrived
    unfold transitionInProgress at hl
    cases hs : (state l).service.inner.modes.state with
    | stable mode =>
      rw [hs] at hstill
      cases hstill
    | preparing | committing =>
      rw [hs] at hl
      cases hl

/-! ## A demonstration that goes on for ever -/

theorem serverSend_idle {written : Bool} (hq : s.queue k = []) : s.serverSend k written = s := by
  unfold queue at hq
  unfold serverSend
  dsimp only
  rw [hq]
  split
  · rename_i hne
    cases hne
  · rfl

theorem serverReceive_idle {now : Instant} (hu : (s.links k).up = []) :
    s.serverReceive k now = s := by
  unfold serverReceive
  dsimp only
  rw [hu]
  split
  · rename_i hne
    cases hne
  · rename_i hne
    cases hne
  · rename_i hne
    cases hne
  · rfl

theorem clientReceive_idle {world : ω} {written : Bool} (hs : (s.clients a).session = .running k)
    (hd : (s.links k).down = []) : s.clientReceive handlers a world written = s := by
  unfold clientReceive
  dsimp only
  rw [hs]
  dsimp only
  rw [hd]

/-- Everybody has a turn. -/
def turns : List (Input RecordingHandler Unit) :=
  [.serverSend 0 true, .clientReceive Demo.navigation () true, .serverReceive 0 6,
    .serverSend 1 true, .clientReceive Demo.guidance () true, .serverReceive 1 6]

/-- Two applications are moved to `Standby`, and then everybody goes on having turns. -/
def restless (n : Nat) : Input RecordingHandler Unit :=
  (standby ++ turns).getD n (turns.getD ((n - 27) % 6) (.refreshHealth 6))

theorem restless_turn (n i : Nat) (hi : i < 6) :
    restless (27 + 6 * n + i) = turns.getD i (.refreshHealth 6) := by
  have hlen : (standby ++ turns).length ≤ 27 + 6 * n + i := by
    show 27 ≤ _
    omega
  unfold restless
  rw [List.getD_eq_getElem?_getD, List.getElem?_eq_none hlen, Option.getD_none,
    show (27 + 6 * n + i - 27) % 6 = i by omega]

/-- The demonstration. -/
abbrev demo : Nat → System RecordingHandler :=
  orbit (fun _ => recordingHandler) (System.new 2000000000 fun _ => .default) restless

/-- Nobody has anything to do. -/
def AtRest (s : System RecordingHandler) : Prop :=
  ((s.clients Demo.navigation).session = .running 0 ∧ s.queue 0 = [] ∧ (s.links 0).down = [] ∧
    (s.links 0).up = []) ∧
  (s.clients Demo.guidance).session = .running 1 ∧ s.queue 1 = [] ∧ (s.links 1).down = [] ∧
    (s.links 1).up = []

instance (s : System RecordingHandler) : Decidable (AtRest s) := inferInstanceAs (Decidable (_ ∧ _))

theorem AtRest.turn {s : System RecordingHandler} (h : AtRest s)
    {input : Input RecordingHandler Unit}
    (hi : input ∈ turns) : step (fun _ => recordingHandler) s input = s := by
  obtain ⟨⟨hs, hq, hd, hu⟩, hs', hq', hd', hu'⟩ := h
  simp only [turns, List.mem_cons, List.not_mem_nil, or_false] at hi
  rcases hi with rfl | rfl | rfl | rfl | rfl | rfl
  · exact serverSend_idle hq
  · show s.clientReceive (fun _ => recordingHandler) Demo.navigation () true = s
    exact clientReceive_idle hs hd
  · exact serverReceive_idle hu
  · exact serverSend_idle hq'
  · show s.clientReceive (fun _ => recordingHandler) Demo.guidance () true = s
    exact clientReceive_idle hs' hd'
  · exact serverReceive_idle hu'

/-- Nothing changes any more once everybody has had a turn. -/
theorem demo_rest {n : Nat} (hn : 27 ≤ n) : demo n = demo 27 := by
  have hrest : AtRest (demo 27) := by decide +kernel
  refine Machine.orbit_rest (fun m hm => ?_) hn
  obtain ⟨j, i, hi, rfl⟩ : ∃ j i, i < 6 ∧ m = 27 + 6 * j + i :=
    ⟨(m - 27) / 6, (m - 27) % 6, Nat.mod_lt _ (by decide), by omega⟩
  rw [restless_turn j i hi]
  refine hrest.turn ?_
  rw [List.getD_eq_getElem?_getD, List.getElem?_eq_getElem hi]
  exact List.getElem_mem hi

/-- Somebody's turn comes again and again. -/
theorem restless_again (n i : Nat) (hi : i < 6) :
    ∃ m, n ≤ m ∧ restless m = turns.getD i (.refreshHealth 6) :=
  ⟨27 + 6 * n + i, by omega, restless_turn n i hi⟩

/-- The first steps are checked one by one, and then nothing changes. -/
theorem demo_steps (n : Nat) :
    Undisturbed (demo n) (demo (n + 1)) ∧
      ∀ e ∈ (demo n).service.inner.clients.entries,
        (e.1, e.2.outbound.channel) ∈ [(Demo.navigation, 0), (Demo.guidance, 1)] := by
  have hfirst : Machine.Always (step fun _ => recordingHandler)
      (fun s input => Undisturbed s (step (fun _ => recordingHandler) s input) ∧
        ∀ e ∈ s.service.inner.clients.entries,
          (e.1, e.2.outbound.channel) ∈ [(Demo.navigation, 0), (Demo.guidance, 1)])
      (System.new 2000000000 fun _ => .default) ((List.range 28).map restless) := by
    decide +kernel
  by_cases hn : n < 28
  · exact Machine.always_orbit.mp hfirst n hn
  · have hsame : demo (n + 1) = demo (27 + 1) := by
      rw [demo_rest (n := n + 1) (by omega), demo_rest (n := 27 + 1) (by omega)]
    rw [hsame, demo_rest (n := n) (by omega)]
    exact Machine.always_orbit.mp hfirst 27 (by decide)

theorem demo_fair : Fair demo restless := by
  intro n e he _
  have hmem := (demo_steps n).2 e he
  simp only [List.mem_cons, Prod.mk.injEq, List.not_mem_nil, or_false] at hmem
  rcases hmem with ⟨ha, hk⟩ | ⟨ha, hk⟩
  · rw [ha, hk]
    obtain ⟨i, hi, hsend⟩ := restless_again n 0 (by decide)
    obtain ⟨j, hj, hread⟩ := restless_again n 1 (by decide)
    obtain ⟨l, hl, htake⟩ := restless_again n 2 (by decide)
    exact ⟨⟨i, hi, true, hsend⟩, ⟨j, hj, (), true, hread⟩, l, hl, 6, htake⟩
  · rw [ha, hk]
    obtain ⟨i, hi, hsend⟩ := restless_again n 3 (by decide)
    obtain ⟨j, hj, hread⟩ := restless_again n 4 (by decide)
    obtain ⟨l, hl, htake⟩ := restless_again n 5 (by decide)
    exact ⟨⟨i, hi, true, hsend⟩, ⟨j, hj, (), true, hread⟩, l, hl, 6, htake⟩

theorem transition_ends_demo :
    ∀ n, ∃ m, n ≤ m ∧ (demo m).service.transitionInProgress = false :=
  transition_ends (fun _ => recordingHandler) 2000000000 (fun _ => .default) restless
    (fun n => (demo_steps n).1) demo_fair

theorem request_carried_out_demo :
    ∃ m, 8 < m ∧ (demo m).service.transitionInProgress = false ∧
      (demo m).service.snapshot.mode = .standby :=
  request_carried_out (fun _ => recordingHandler) 2000000000 (fun _ => .default) restless 8
    .standby ⟨1⟩ (fun _ => recordingHandler_obliging) (fun n => (demo_steps n).1) demo_fair rfl
    (by decide +kernel)

end System

end Sam
