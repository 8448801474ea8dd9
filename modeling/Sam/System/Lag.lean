import Sam.Library.Journal
import Sam.System.Honest
import Sam.System.Reconnect

/-!
# SAM's record of a mode lags behind but never goes back

* `OpenMove.writes` — a message that reports a mode reports the one its sender has when it has
  just written it.
* `Accepts` — SAM takes such a message into its records; `OpenMove.recorded` and
  `OpenMove.record_kept` say what becomes of the record then, and otherwise.
* `position` — the time at which the sender wrote the last message accepted.
* `record_lags` — on one connection, the record is the mode the application had at that time, which
  never goes back; `record_goes_back` — unless the connection ids have come round again.
-/

namespace Sam

/-- When `commit_mode` answers `Ok`, the mode is the one given. -/
def ModeHandler.Obeys {η ω : Type*} (h : ModeHandler η ω) : Prop :=
  ∀ w m self, (h.commitMode w m self).1 = .ok () → h.currentMode (h.commitMode w m self).2 = m

theorem recordingHandler_obeys : recordingHandler.Obeys := fun _ _ _ _ => rfl

/-- An answer that reports a mode reports the one the handler has afterwards. -/
theorem ModeHandler.Obeys.answered {η ω : Type*} {h : ModeHandler η ω} (ho : h.Obeys) {w : ω}
    {a : ApplicationId} {self : η} {message : SamToApplication} {answer : ApplicationToSam}
    {mode : SystemMode} (hr : (h.messageReceived w a self message).result = .ok (some answer))
    (hm : answer.mode? = some mode) :
    h.currentMode (h.messageReceived w a self message).handler = mode := by
  unfold messageReceived at hr ⊢
  cases message with
  | prepareMode id target =>
    dsimp only at hr ⊢
    split at hr
    · cases hr
      cases hm
    · cases hr
      cases hm
  | commitMode id target =>
    have hcommit := ho w target self
    dsimp only at hr ⊢
    split at hr
    · rename_i heq
      cases hr
      cases hm
      rw [heq] at hcommit
      exact hcommit rfl
    · cases hr
  | abortMode | stateBroadcast | registerAccepted | registerRejected => cases hr

namespace SamService

variable {s : SamService} {a : ApplicationId} {conn : ConnectionId} {m : ApplicationToSam}
  {now : Instant} {mode : SystemMode}

/-- **A mode reported in a message that is accepted is recorded.** -/
theorem mode_recorded (hk : Known s.inner) (h : ¬ s.Refused a conn m now)
    (hm : m.mode? = some mode) :
    ∃ status, (s.step (.handleMessage a conn m now)).inner.applications.get a = some status ∧
      status.currentMode = mode := by
  have hok : ∀ e r, s.handleMessage a conn m now ≠ (.error e, r) :=
    fun e r he => h (.inl ⟨e, by rw [he]⟩)
  cases hv : verifyConnection s.inner a conn with
  | error e => exact absurd (handleMessage_unverified_eq hv m) (hok e s)
  | ok =>
    obtain ⟨tx, hc⟩ := verifyConnection_ok.mp hv
    cases m with
    | register | modeReady | modeRejected => cases hm
    | heartbeat b health reported =>
      rcases heartbeat_cases now hc (b := b) health reported with ⟨e, he⟩ | ⟨-, rfl, -, -⟩
      · exact absurd he (hok e s)
      · cases hm
        exact ⟨_, heartbeat_recorded hk hc health mode now, rfl⟩
    | modeCommitted b id committed =>
      rcases modeCommitted_cases now hc (b := b) hk id committed with
        ⟨e, he⟩ | ⟨rfl, ⟨e, he⟩, -⟩ | ⟨status, previous, W, C, rfl, hr, -, -, hlast⟩
      · exact absurd he (hok e s)
      · refine absurd (.inr ⟨e, ?_⟩) h
        rw [refusal, he]
        rfl
      · cases hm
        have hget : (s.inner.applications.setMode b mode).2.get b =
            some { status with currentMode := mode } := by
          rw [ApplicationRegistry.setMode, ApplicationRegistry.get_modify, if_pos rfl, hr]
          rfl
        refine ⟨{ status with currentMode := mode }, ?_, rfl⟩
        rw [step_handleMessage]
        rcases hlast with ⟨-, -, hlast⟩ | ⟨-, -, hlast⟩ <;> rw [hlast] <;> exact hget

end SamService

namespace System

variable {η ω : Type*} {handlers : ApplicationId → ModeHandler η ω} {timeout : Duration}
  {s s' : System η} {k : Nat} {link : Link} {ops : List Operation} {a : ApplicationId}

/-! ## What a client writes -/

/-- A client writes at most one message, which reports no mode but its own. -/
theorem ClientMove.writes {client : Client η} {call : Option HandlerCall}
    {answer : Option ApplicationToSam} (hm : ClientMove handlers s a k link client call answer) :
    link.written = (s.links k).written ∨
      ∃ m, link.written = (s.links k).written ++ [m] ∧
        ((handlers a).Obeys → ∀ mode, m.mode? = some mode →
          client.session = .running k ∧ (handlers a).currentMode client.handler = mode) := by
  have hwrite : ∀ m : ApplicationToSam,
      ((s.links k).write m).written = (s.links k).written ++ [m] := by
    intro m
    unfold Link.written Link.write
    rw [List.append_assoc]
  cases hm with
  | connect =>
    exact .inr ⟨_, hwrite _, fun _ mode hmode => by cases hmode⟩
  | welcome | unwelcome | observe | leave => exact .inl rfl
  | answer world message down answer hs hd hr =>
    exact .inr ⟨answer, hwrite answer, fun ho mode hmode => ⟨rfl, ho.answered hr hmode⟩⟩
  | heartbeat world hs =>
    exact .inr ⟨_, hwrite _, fun _ mode hmode => ⟨hs, Option.some.inj hmode⟩⟩

/-- **What is written to a link in one step.**  If it reports a mode, and the link is ours, then
    the session runs and this is the mode. -/
theorem OpenMove.writes (h : Honest s) (hm : OpenMove handlers s s') (k : Nat) :
    (s'.links k).written = (s.links k).written ∨
      ∃ m, (s'.links k).written = (s.links k).written ++ [m] ∧
        ∀ a, (s'.links k).owner = some a → (handlers a).Obeys → ∀ mode, m.mode? = some mode →
          (s'.clients a).session = .running k ∧
            (handlers a).currentMode (s'.clients a).handler = mode := by
  cases hm with
  | ours s' hm hopened =>
    cases hm with
    | idle | call | quit => exact .inl rfl
    | server k' ops link hm =>
      left
      exact update_links (P := fun k link => link.written = (s.links k).written) (fun _ _ => rfl)
        hm.frame.written k
    | client b k' link client call answer hm =>
      rw [recordCall_links, setClient_links, setLink_links, recordCall_clients, setClient_clients]
      by_cases hk : k = k'
      · subst hk
        rw [Function.update_self]
        refine hm.writes.imp_right fun ⟨m, hw, hmode⟩ => ⟨m, hw, fun a ha ho mode hm' => ?_⟩
        have howner : link.owner = some b := (hm.honest h fun hn => hopened k hn ?_).2.1
        · rw [howner] at ha
          cases ha
          rw [Function.update_self]
          exact hmode ho mode hm'
        · rw [recordCall_links, setClient_links, setLink_links, Function.update_self, ha]
          exact Option.some_ne_none a
      · rw [Function.update_of_ne hk]
        exact .inl rfl
  | stranger k' message hn =>
    rw [setLink_links]
    by_cases hk : k = k'
    · subst hk
      rw [Function.update_self]
      refine .inr ⟨message, ?_, fun a ha => ?_⟩
      · unfold Link.written Link.write
        rw [List.append_assoc]
      · change (s.links k).owner = some a at ha
        rw [hn] at ha
        cases ha
    · rw [Function.update_of_ne hk]
      exact .inl rfl

/-- A link keeps its owner, and gets one only when nothing has been written to it. -/
theorem OpenMove.owner (h : Honest s) (hm : OpenMove handlers s s') (k : Nat) :
    (s'.links k).owner = (s.links k).owner ∨
      ((s.links k).owner = none ∧ (s.links k).written = []) := by
  cases hm with
  | ours s' hm hopened =>
    by_cases hsame : (s'.links k).owner = (s.links k).owner
    · exact .inl hsame
    · cases hn : (s.links k).owner with
      | none =>
        rw [hn] at hsame
        exact .inr ⟨rfl, hopened k hn hsame⟩
      | some a =>
        refine absurd ?_ hsame
        cases hm with
        | idle | call | quit => rfl
        | server k' ops link hm =>
          exact update_links (P := fun k link => link.owner = (s.links k).owner) (fun _ _ => rfl)
            hm.frame.owner k
        | client b k' link client call answer hm =>
          refine update_links (P := fun k link => (s.links k).owner = some a →
            link.owner = (s.links k).owner) (fun _ _ _ => rfl) (fun ha => ?_) k hn
          have hne : (s.links k').owner ≠ none := by
            rw [ha]
            exact Option.some_ne_none a
          obtain ⟨hold, hnew, -, -⟩ := hm.honest h fun hn' => absurd hn' hne
          rw [hold.resolve_left hne, hnew]
  | stranger k' message hn =>
    left
    exact stranger_links (P := fun k link => link.owner = (s.links k).owner) (fun _ => rfl) message
      rfl k

/-- The session task of a link only ever takes more. -/
theorem OpenMove.taken (hm : OpenMove handlers s s') (k : Nat) :
    (s.links k).taken <+: (s'.links k).taken := by
  cases hm with
  | ours s' hm =>
    cases hm with
    | idle | call | quit => exact List.prefix_rfl
    | server k' ops link hm =>
      refine update_links (P := fun k link => (s.links k).taken <+: link.taken)
        (fun _ _ => List.prefix_rfl) ?_ k
      cases hm with
      | refuse | register | unregistered | handle => exact List.prefix_append _ _
      | send | unsent | close | hangUp => exact List.prefix_rfl
    | client b k' link client call answer hm =>
      refine update_links (P := fun k link => (s.links k).taken <+: link.taken)
        (fun _ _ => List.prefix_rfl) ?_ k
      cases hm <;> exact List.prefix_rfl
  | stranger k' message =>
    exact stranger_links (P := fun k link => (s.links k).taken <+: link.taken)
      (fun _ => List.prefix_rfl) message List.prefix_rfl k

/-! ## What SAM records -/

/-- In this step the session task of link `k` hands SAM a heartbeat or a `ModeCommitted`, and SAM
    accepts it. -/
def Accepts (s s' : System η) (k : Nat) : Prop :=
  ∃ b conn m now, (s.links k).task = .registered b conn ∧
    (s'.links k).taken = (s.links k).taken ++ [m] ∧
    s'.operations = s.operations ++ [.handleMessage b conn m now] ∧
    m.mode?.isSome ∧ ¬ s.service.Refused b conn m now

/-- A session task hands over a report that is not refused. -/
theorem accepts_receive {b : ApplicationId} {conn : ConnectionId} {m : ApplicationToSam}
    {up : List ApplicationToSam} {now : Instant} (ht : (s.links k).task = .registered b conn)
    (hup : (s.links k).up = m :: up) (hmode : m.mode?.isSome)
    (hok : (s.service.handleMessage b conn m now).1 = .ok ()) (hno : s.service.refusal m = none) :
    Accepts s (step handlers s (.serverReceive k now)) k := by
  have hstep : step handlers s (.serverReceive k now) =
      (s.perform [.handleMessage b conn m now]).setLink k
        ((s.links k).take m up (.registered b conn)) := by
    rw [step, serverReceive]
    dsimp only
    rw [ht, hup]
    dsimp only
    rw [hok]
  rw [hstep]
  refine ⟨b, conn, m, now, ht, ?_, rfl, hmode, ?_⟩
  · rw [setLink_links, Function.update_self]
    rfl
  · rintro (⟨e, he⟩ | ⟨e, he⟩)
    · rw [hok] at he
      cases he
    · rw [hno] at he
      cases he

/-- A mode accepted is recorded. -/
theorem OpenMove.recorded (hd : Driven timeout s) (hd' : Driven timeout s') (hh : Honest s)
    (ho : (s.links k).owner = some a) (h : Accepts s s' k) :
    ∃ m mode status, (s'.links k).taken = (s.links k).taken ++ [m] ∧ m.mode? = some mode ∧
      s'.service.inner.applications.get a = some status ∧ status.currentMode = mode := by
  obtain ⟨b, conn, m, now, ht, htaken, hops, hm, hr⟩ := h
  have hseat : (s.links k).task.seat? = some (b, conn) := by rw [ht]; rfl
  obtain rfl := (hh.proper k).served ho hseat
  obtain ⟨mode, hmode⟩ := Option.isSome_iff_exists.mp hm
  obtain ⟨status, hs, hcurrent⟩ := SamService.mode_recorded hd.refines.1 hr hmode
  refine ⟨m, mode, status, htaken, hmode, ?_, hcurrent⟩
  rw [hd'.service, hops, SamService.run_append, ← hd.service]
  exact hs

/-- **Otherwise the record of a client stays.** -/
theorem OpenMove.record_kept (hd : Driven timeout s) (hs : Seated s) (hdist : Distinct s)
    (hh : Honest s) (hm : OpenMove handlers s s') (htaken : (s.links k).taken ≠ [])
    (hno : ¬ Accepts s s' k) {conn : ConnectionId} {mode : SystemMode}
    (hlook : s'.service.inner.clients.lookup a = some ⟨conn, ⟨k⟩⟩)
    (h : s.service.inner.clients.lookup a = some ⟨conn, ⟨k⟩⟩ →
      ∃ status, s.service.inner.applications.get a = some status ∧ status.currentMode = mode) :
    ∃ status, s'.service.inner.applications.get a = some status ∧ status.currentMode = mode := by
  have hk := hd.refines.1
  cases hm with
  | stranger => exact h hlook
  | ours s' hm =>
    cases hm with
    | idle | client | quit => exact h hlook
    | call op hop =>
      have hops : ∀ op' ∈ [op], op'.isRegister = false := by
        rcases hop with ⟨_, rfl⟩ | ⟨_, rfl⟩ <;> simp [Operation.isRegister]
      refine Sam.record_kept hk (h (client_kept hops hlook)) hops ?_ hlook
      rcases hop with ⟨_, rfl⟩ | ⟨_, rfl⟩ <;> simp
    | server k' ops link hm =>
      by_cases hkk : k = k'
      · subst hkk
        cases hm with
        | refuse _ _ _ ht | register _ _ _ _ ht | unregistered _ _ _ _ ht | hangUp ht =>
          exact absurd ((hh.proper k).awaiting ht) htaken
        | handle b c m up now task ht hup =>
          have hold := client_kept (s := s.service) (by simp [Operation.isRegister]) hlook
          have hseat := hs.seat hold
          rw [ht] at hseat
          cases hseat
          by_cases hr : s.service.Refused a conn m now
          · -- a refused message changes nothing
            have hsame := SamService.handleMessage_refused hk hr
            have hrun : s.service.run [.handleMessage a conn m now] = s.service := hsame
            rw [setLink_service, perform_service, hrun]
            exact h hold
          · refine Sam.record_kept hk (h hold) (by simp [Operation.isRegister])
              (fun x now' hx => ?_) hlook
            cases List.mem_singleton.mp hx
            cases hmode : m.mode? with
            | none => rfl
            | some mode' =>
              refine absurd ⟨a, conn, m, now, ht, ?_, rfl, by rw [hmode]; rfl, hr⟩ hno
              rw [setLink_links, Function.update_self]
              rfl
        | send | unsent | close =>
          have hold := client_kept (s := s.service) (by simp [Operation.isRegister]) hlook
          exact Sam.record_kept hk (h hold) (by simp [Operation.isRegister]) (by simp) hlook
      · exact hm.record_elsewhere hd hk hs hdist hkk hlook h

/-! ## Over time -/

/-- The states of a run, over time. -/
abbrev during (handlers : ApplicationId → ModeHandler η ω) (timeout : Duration)
    (initial : ApplicationId → η) (inputs : List (OpenInput η ω)) (t : Nat) : System η :=
  Machine.trace (openStep handlers) (System.new timeout initial) inputs t

/-- Everything ever written to link `k`, over time. -/
def writtenTo (x : Nat → System η) (k t : Nat) : List ApplicationToSam := ((x t).links k).written

open Classical in
/-- The time at which the last message accepted on link `k` was written, and before that
    `start`. -/
noncomputable def position (x : Nat → System η) (k start : Nat) : Nat → Nat
  | 0 => start
  | t + 1 =>
    if Accepts (x t) (x (t + 1)) k then Journal.stamp (writtenTo x k) ((x t).links k).taken.length
    else position x k start t

/-- **The record of `a` lags behind**, on link `k`: `pos` is the time whose mode is on record. -/
structure Lags (handlers : ApplicationId → ModeHandler η ω) (x : Nat → System η) (a : ApplicationId)
    (k start : Nat) (pos : Nat → Nat) : Prop where
  /-- it begins with the end of the initial synchronization, -/
  start : pos 0 = start
  /-- never goes back, -/
  monotone : Monotone pos
  /-- does not leave the session -/
  session : ∀ t, ((x (pos t)).clients a).session = .running k
  /-- or the past; -/
  past : ∀ t, (∃ u < t, Accepts (x u) (x (u + 1)) k) → pos t ≤ t
  /-- a message accepted moves it to the time at which that message had just been written; -/
  moves : ∀ t, Accepts (x t) (x (t + 1)) k →
    pos (t + 1) = Journal.stamp (writtenTo x k) ((x t).links k).taken.length
  /-- and while the connection is the current one, from the first message accepted on, the mode on
      record is the handler's at that time. -/
  recorded : ∀ t, (∃ u < t, Accepts (x u) (x (u + 1)) k) →
    ∀ conn, (x t).service.inner.clients.lookup a = some ⟨conn, ⟨k⟩⟩ →
      ∃ status, (x t).service.inner.applications.get a = some status ∧
        status.currentMode = (handlers a).currentMode ((x (pos t)).clients a).handler

section Run

variable {initial : ApplicationId → η} {inputs : List (OpenInput η ω)} {t t' : Nat}

theorem during_move (t : Nat) : OpenMove handlers (during handlers timeout initial inputs t)
    (during handlers timeout initial inputs (t + 1)) := by
  cases hi : inputs[t]? with
  | some input =>
    have hstep : during handlers timeout initial inputs (t + 1) =
        openStep handlers (during handlers timeout initial inputs t) input :=
      Machine.trace_succ _ hi
    rw [hstep]
    exact open_move _ input
  | none =>
    have hlen := List.getElem?_eq_none_iff.mp hi
    have hsame : during handlers timeout initial inputs (t + 1) =
        during handlers timeout initial inputs t := by
      unfold during
      rw [Machine.trace_done _ hlen, Machine.trace_done _ (Nat.le_succ_of_le hlen)]
    rw [hsame]
    exact .ours _ .idle fun k h hn => absurd h hn

/-- Without strangers these are the states of a run of SAM and its applications. -/
theorem during_ours (handlers : ApplicationId → ModeHandler η ω) (timeout : Duration)
    (initial : ApplicationId → η) (inputs : List (Input η ω)) (t : Nat) :
    during handlers timeout initial (inputs.map .ours) t =
      Machine.trace (step handlers) (System.new timeout initial) inputs t := by
  unfold during Machine.trace
  rw [← List.map_take]
  exact openRun_ours timeout initial _

theorem during_honest (t : Nat) : Honest (during handlers timeout initial inputs t) :=
  honest_open timeout initial (inputs.take t)

theorem during_driven (t : Nat) : Driven timeout (during handlers timeout initial inputs t) :=
  driven_open timeout initial (inputs.take t)

theorem during_distinct
    (hn : (openRun handlers (System.new timeout initial) inputs).registrations < 2 ^ 64) (t : Nat) :
    Distinct (during handlers timeout initial inputs t) := by
  have hmono : Monotone fun t => (during handlers timeout initial inputs t).registrations :=
    monotone_nat_of_le_succ fun t => open_registrations_mono (during_move t)
  have hend : during handlers timeout initial inputs (max t inputs.length) =
      openRun handlers (System.new timeout initial) inputs :=
    Machine.trace_done _ (le_max_right _ _)
  refine distinct_open timeout initial (inputs.take t) (lt_of_le_of_lt ?_ hn)
  rw [← hend]
  exact hmono (le_max_left t inputs.length)

theorem during_grows (k : Nat) :
    Journal.Grows (writtenTo (during handlers timeout initial inputs) k) where
  empty := rfl
  step := by
    intro t
    exact ((during_move t).writes (during_honest t) k).imp_right fun ⟨m, hm, _⟩ => ⟨m, hm⟩

theorem during_taken (k : Nat) (ht : t ≤ t') :
    ((during handlers timeout initial inputs t).links k).taken <+:
      ((during handlers timeout initial inputs t').links k).taken := by
  induction t', ht using Nat.le_induction with
  | base => exact List.prefix_rfl
  | succ t' _ ih => exact ih.trans ((during_move t').taken k)

/-- A link that has an owner keeps it, -/
theorem during_owned (ht : t ≤ t')
    (ho : ((during handlers timeout initial inputs t).links k).owner = some a) :
    ((during handlers timeout initial inputs t').links k).owner = some a := by
  induction t', ht using Nat.le_induction with
  | base => exact ho
  | succ u _ ih =>
    rcases (during_move u).owner (during_honest u) k with hsame | ⟨hn, -⟩
    · rw [hsame]
      exact ih
    · rw [ih] at hn
      cases hn

/-- and has had it since something was written to it. -/
theorem during_owned_before (ht : t ≤ t')
    (ho : ((during handlers timeout initial inputs t').links k).owner = some a)
    (hw : writtenTo (during handlers timeout initial inputs) k t ≠ []) :
    ((during handlers timeout initial inputs t).links k).owner = some a := by
  induction t', ht using Nat.le_induction with
  | base => exact ho
  | succ u hu ih =>
    rcases (during_move u).owner (during_honest u) k with hsame | ⟨-, hempty⟩
    · rw [hsame] at ho
      exact ih ho
    · have hp : writtenTo (during handlers timeout initial inputs) k t <+:
          writtenTo (during handlers timeout initial inputs) k u := (during_grows k).mono hu
      unfold writtenTo at hp hw
      rw [hempty, List.prefix_nil] at hp
      exact absurd hp hw

/-- A message accepted at time `t` is the next one of those written, and reports the mode its sender
    had, in session, when it had just written it. -/
theorem during_accepts (hobeys : (handlers a).Obeys) {start : Nat}
    (hstart : ((during handlers timeout initial inputs start).clients a).session = .running k)
    (h : Accepts (during handlers timeout initial inputs t)
      (during handlers timeout initial inputs (t + 1)) k) :
    let x := during handlers timeout initial inputs
    let u := Journal.stamp (writtenTo x k) ((x t).links k).taken.length
    u ≤ t + 1 ∧ ((x u).clients a).session = .running k ∧
      ((x t).links k).taken.length < (writtenTo x k (t + 1)).length ∧
      ((x (t + 1)).links k).taken.length = ((x t).links k).taken.length + 1 ∧
      ∃ status, (x (t + 1)).service.inner.applications.get a = some status ∧
        status.currentMode = (handlers a).currentMode ((x u).clients a).handler := by
  intro x u
  have hgrows : Journal.Grows (writtenTo x k) := during_grows k
  have hown : ((x start).links k).owner = some a :=
    (during_honest start).session a k (by rw [hstart]; rfl)
  -- whatever has been written to the link was written by its owner
  have howner : ∀ v, writtenTo x k v ≠ [] → ((x v).links k).owner = some a := by
    intro v hw
    rcases Nat.le_total v start with hle | hle
    · exact during_owned_before hle hown hw
    · exact during_owned hle hown
  have hwt : writtenTo x k t ≠ [] := by
    obtain ⟨b, conn, -, -, ht, -⟩ := h
    have hproper : Proper ((x t).links k) := (during_honest t).proper k
    have hhead := hproper.seated b conn (by rw [ht]; rfl)
    intro hempty
    have htaken := (List.append_eq_nil_iff.mp hempty).1
    rw [htaken] at hhead
    cases hhead
  obtain ⟨m, mode, status, htaken, hmode, hstatus, hcurrent⟩ :=
    OpenMove.recorded (during_driven t) (during_driven (t + 1)) (during_honest t) (howner t hwt) h
  -- the message is the next one written
  have hentry : (writtenTo x k (t + 1))[((x t).links k).taken.length]? = some m := by
    show (((x (t + 1)).links k).taken ++ ((x (t + 1)).links k).up)[_]? = _
    rw [htaken, List.append_assoc, List.getElem?_append_right (le_refl _), Nat.sub_self]
    rfl
  have hlt := (List.getElem?_eq_some_iff.mp hentry).1
  have hlen : ((x (t + 1)).links k).taken.length = ((x t).links k).taken.length + 1 := by
    rw [htaken, List.length_append, List.length_singleton]
  obtain ⟨v, hv, -, hwrote⟩ := hgrows.stamp_spec hentry
  have hne : writtenTo x k (v + 1) ≠ [] := by
    rw [hwrote]
    simp
  have hreport : ((x (v + 1)).clients a).session = .running k ∧
      (handlers a).currentMode ((x (v + 1)).clients a).handler = mode := by
    rcases (during_move v).writes (during_honest v) k with hsame | ⟨m', hm', hreport⟩
    · have hlength := congrArg List.length (hwrote.symm.trans hsame)
      rw [List.length_append, List.length_singleton] at hlength
      exact absurd hlength (Nat.succ_ne_self _)
    · have heq := List.append_cancel_left (hwrote.symm.trans hm')
      rw [List.singleton_inj.mp heq] at hmode
      exact hreport a (howner (v + 1) hne) hobeys mode hmode
  have hu : u = v + 1 := hv
  refine ⟨Journal.stamp_le hlt, by rw [hu]; exact hreport.1, hlt, hlen, status, hstatus, ?_⟩
  rw [hcurrent, hu, hreport.2]

/-! ## The position -/

theorem position_accepts {x : Nat → System η} {start : Nat} (h : Accepts (x t) (x (t + 1)) k) :
    position x k start (t + 1) =
      Journal.stamp (writtenTo x k) ((x t).links k).taken.length := if_pos h

theorem position_stays {x : Nat → System η} {start : Nat} (h : ¬ Accepts (x t) (x (t + 1)) k) :
    position x k start (t + 1) = position x k start t := if_neg h

/-- An acceptance is the last one, or there was one before. -/
theorem accepted_before {x : Nat → System η} (h : ∃ u < t + 1, Accepts (x u) (x (u + 1)) k)
    (hno : ¬ Accepts (x t) (x (t + 1)) k) : ∃ u < t, Accepts (x u) (x (u + 1)) k := by
  obtain ⟨u, hu, hacc⟩ := h
  have hne : u ≠ t := by
    rintro rfl
    exact hno hacc
  exact ⟨u, by omega, hacc⟩

section Position

variable (hobeys : (handlers a).Obeys) {start : Nat}
  (hstart : ((during handlers timeout initial inputs start).clients a).session = .running k)

include hobeys hstart

/-- The position is in the session, and the stamp of a message taken already or `start`. -/
theorem position_spec (t : Nat) :
    let x := during handlers timeout initial inputs
    ((x (position x k start t)).clients a).session = .running k ∧
      (position x k start t = start ∨ ∃ j < ((x t).links k).taken.length,
        position x k start t = Journal.stamp (writtenTo x k) j) := by
  intro x
  induction t with
  | zero => exact ⟨hstart, .inl rfl⟩
  | succ t ih =>
    by_cases h : Accepts (x t) (x (t + 1)) k
    · obtain ⟨-, hsession, -, hlen, -⟩ := during_accepts hobeys hstart h
      rw [position_accepts h]
      exact ⟨hsession, .inr ⟨_, by rw [hlen]; exact Nat.lt_succ_self _, rfl⟩⟩
    · have hle : ((x t).links k).taken.length ≤ ((x (t + 1)).links k).taken.length :=
        (during_taken k (Nat.le_succ t)).length_le
      rw [position_stays h]
      exact ⟨ih.1, ih.2.imp_right fun ⟨j, hj, heq⟩ => ⟨j, hj.trans_le hle, heq⟩⟩

theorem position_mono
    (hfirst : ∀ t < start,
      ((during handlers timeout initial inputs t).clients a).session ≠ .running k) :
    Monotone (position (during handlers timeout initial inputs) k start) := by
  refine monotone_nat_of_le_succ fun t => ?_
  by_cases h : Accepts (during handlers timeout initial inputs t)
      (during handlers timeout initial inputs (t + 1)) k
  · obtain ⟨-, hsession, hlt, -, -⟩ := during_accepts hobeys hstart h
    rw [position_accepts h]
    rcases (position_spec hobeys hstart t).2 with heq | ⟨j, hj, heq⟩
    · rw [heq]
      by_contra hlater
      exact hfirst _ (not_le.mp hlater) hsession
    · rw [heq]
      exact Journal.stamp_mono hj.le hlt
  · rw [position_stays h]

theorem position_past :
    let x := during handlers timeout initial inputs
    (∃ u < t, Accepts (x u) (x (u + 1)) k) → position x k start t ≤ t := by
  intro x
  induction t with
  | zero => exact fun ⟨u, hu, _⟩ => absurd hu (Nat.not_lt_zero u)
  | succ t ih =>
    intro hex
    by_cases h : Accepts (x t) (x (t + 1)) k
    · rw [position_accepts h]
      exact (during_accepts hobeys hstart h).1
    · rw [position_stays h]
      exact (ih (accepted_before hex h)).trans (Nat.le_succ t)

/-- Something has been taken from the link when a message has been accepted. -/
theorem taken_of_accepted :
    let x := during handlers timeout initial inputs
    (∃ u < t, Accepts (x u) (x (u + 1)) k) → ((x t).links k).taken ≠ [] := by
  rintro x ⟨u, hu, hacc⟩ hempty
  have hle : ((x (u + 1)).links k).taken.length ≤ ((x t).links k).taken.length :=
    (during_taken k hu).length_le
  rw [hempty, (during_accepts hobeys hstart hacc).2.2.2.1] at hle
  exact absurd hle (Nat.not_succ_le_zero _)

theorem position_recorded
    (hn : (openRun handlers (System.new timeout initial) inputs).registrations < 2 ^ 64) :
    let x := during handlers timeout initial inputs
    (∃ u < t, Accepts (x u) (x (u + 1)) k) →
    ∀ conn, (x t).service.inner.clients.lookup a = some ⟨conn, ⟨k⟩⟩ →
      ∃ status, (x t).service.inner.applications.get a = some status ∧
        status.currentMode =
          (handlers a).currentMode ((x (position x k start t)).clients a).handler := by
  intro x
  induction t with
  | zero => exact fun ⟨u, hu, _⟩ => absurd hu (Nat.not_lt_zero u)
  | succ t ih =>
    intro hex conn hlook
    by_cases h : Accepts (x t) (x (t + 1)) k
    · rw [position_accepts h]
      exact (during_accepts hobeys hstart h).2.2.2.2
    · have hbefore := accepted_before hex h
      rw [position_stays h]
      exact (during_move t).record_kept (during_driven t) (seated_open timeout initial _)
        (during_distinct hn t) (during_honest t) (taken_of_accepted hobeys hstart hbefore) h hlook
        (ih hbefore conn)

end Position

end Run

/-- **The record lags but never goes back.**  On every connection of an application among strangers,
    with fewer than `2 ^ 64` registrations, from the end `start` of its initial synchronization. -/
theorem record_lags (handlers : ApplicationId → ModeHandler η ω) (timeout : Duration)
    (initial : ApplicationId → η) (inputs : List (OpenInput η ω)) {a : ApplicationId}
    {k start : Nat} (hobeys : (handlers a).Obeys)
    (hn : (openRun handlers (System.new timeout initial) inputs).registrations < 2 ^ 64) :
    let x := during handlers timeout initial inputs
    ((x start).clients a).session = .running k →
    (∀ t < start, ((x t).clients a).session ≠ .running k) →
    ∃ pos, Lags handlers x a k start pos := by
  intro x hstart hfirst
  exact ⟨position x k start, {
    start := rfl
    monotone := position_mono hobeys hstart hfirst
    session := fun t => (position_spec hobeys hstart t).1
    past := fun t => position_past hobeys hstart
    moves := fun t => position_accepts
    recorded := fun t => position_recorded hobeys hstart hn }⟩

theorem record_lags_demo :
    ∃ pos, Lags (fun _ => recordingHandler)
      (during (fun _ => recordingHandler) 2000000000 (fun _ => .default)
        (.stranger 2 (.heartbeat Demo.navigation .failed .working) :: standby.map .ours))
      Demo.navigation 0 5 pos :=
  record_lags _ _ _ _ recordingHandler_obeys (by decide +kernel) (by decide +kernel)
    (by decide +kernel)

/-- The states of the run in which a heartbeat of an earlier connection is taken for one of the new
    connection with the same id. -/
abbrev misled (j : Nat) : System RecordingHandler :=
  Machine.trace (step fun _ => recordingHandler) roundAgain mistaken j

/-- Navigation commits in step `12`, -/
theorem misled_standby {j : Nat} (hj : 13 ≤ j) :
    ((misled j).clients Demo.navigation).handler.currentMode = .standby := by
  rcases Nat.lt_or_ge j 17 with hlt | hge
  · have hlater : ∀ j < 17, 13 ≤ j →
        ((misled j).clients Demo.navigation).handler.currentMode = .standby := by
      decide +kernel
    exact hlater j hlt hj
  · have hlen : mistaken.length ≤ j := hge
    rw [misled, Machine.trace_done _ hlen]
    decide +kernel

/-- and SAM accepts its confirmation in step `13`. -/
theorem misled_accepts : Accepts (misled 13) (misled 14) (2 ^ 64 + 1) := by
  have hstep : misled 14 = step (fun _ => recordingHandler) (misled 13)
      (.serverReceive (2 ^ 64 + 1) 2) := Machine.trace_succ _ rfl
  have ht : ((misled 13).links (2 ^ 64 + 1)).task = .registered Demo.navigation ⟨2⟩ := by
    decide +kernel
  have hup : ((misled 13).links (2 ^ 64 + 1)).up =
      [.modeCommitted Demo.navigation ⟨1⟩ .standby] := by
    decide +kernel
  rw [hstep]
  exact accepts_receive ht hup rfl (by decide +kernel) (by decide +kernel)

/-- The ids come round again: once navigation's confirmation has been accepted, so is a heartbeat
    that it left on an earlier connection. -/
theorem record_goes_back :
    let x := during (fun _ => recordingHandler) 2000000000 (fun _ => .default)
      ((comingRound ++ mistaken).map .ours)
    ∃ start, ((x start).clients Demo.navigation).session = .running (2 ^ 64 + 1) ∧
      (∀ t < start, ((x t).clients Demo.navigation).session ≠ .running (2 ^ 64 + 1)) ∧
      ¬ ∃ pos, Lags (fun _ => recordingHandler) x Demo.navigation (2 ^ 64 + 1) start pos := by
  intro x
  obtain ⟨L, hx⟩ : ∃ L, ∀ j, x (L + j) = misled j := by
    refine ⟨comingRound.length, fun j => (during_ours _ _ _ _ _).trans ?_⟩
    rw [Machine.trace_append]
    exact congrArg (fun s => Machine.trace _ s mistaken j) run_comingRound
  refine ⟨L + 4, by rw [hx]; decide +kernel, fun t ht hs => ?_, ?_⟩
  · rcases Nat.le_total t L with hle | hle
    · -- the link has not been opened
      have hopened : ((x (L + 0)).links (2 ^ 64 + 1)).owner = some Demo.navigation :=
        during_owned hle ((during_honest t).session _ _ (by rw [hs]; rfl))
      rw [hx] at hopened
      exact absurd hopened (by decide +kernel)
    · obtain ⟨j, rfl⟩ := Nat.exists_eq_add_of_le hle
      have hbefore : ∀ j < 4,
          ((misled j).clients Demo.navigation).session ≠ .running (2 ^ 64 + 1) := by
        decide +kernel
      rw [hx] at hs
      exact hbefore j (by omega) hs
  · rintro ⟨pos, h⟩
    have haccepts : Accepts (x (L + 13)) (x (L + 14)) (2 ^ 64 + 1) := by
      rw [hx, hx]
      exact misled_accepts
    have hlen : ((x (L + 13)).links (2 ^ 64 + 1)).taken.length = 2 := by
      rw [hx]
      decide +kernel
    -- from then on the position is one at which navigation has committed
    have hpos : L + 12 < pos (L + 15) := by
      have hgrows : Journal.Grows (writtenTo x (2 ^ 64 + 1)) := during_grows _
      have hbefore : (writtenTo x (2 ^ 64 + 1) (L + 12)).length ≤ 2 := by
        rw [writtenTo, hx]
        decide +kernel
      have hafter : 2 < (writtenTo x (2 ^ 64 + 1) (L + 13)).length := by
        rw [writtenTo, hx]
        decide +kernel
      calc L + 12 < Journal.stamp (writtenTo x (2 ^ 64 + 1)) 2 := hgrows.lt_stamp hbefore hafter
        _ = pos (L + 14) := by rw [h.moves (L + 13) haccepts, hlen]
        _ ≤ pos (L + 15) := h.monotone (Nat.le_succ _)
    obtain ⟨j, hj⟩ := Nat.exists_eq_add_of_le (show L + 13 ≤ pos (L + 15) from hpos)
    have hstandby : ((x (pos (L + 15))).clients Demo.navigation).handler.currentMode =
        .standby := by
      rw [hj, Nat.add_assoc, hx]
      exact misled_standby (Nat.le_add_right 13 j)
    -- but what is on record is `Startup`
    have hlook : (x (L + 15)).service.inner.clients.lookup Demo.navigation =
        some ⟨⟨2⟩, ⟨2 ^ 64 + 1⟩⟩ := by
      rw [hx]
      decide +kernel
    have hstartup : ((x (L + 15)).service.inner.applications.get Demo.navigation).map
        ApplicationStatus.currentMode = some .startup := by
      rw [hx]
      decide +kernel
    obtain ⟨status, hget, hcurrent⟩ := h.recorded (L + 15) ⟨L + 13, by omega, haccepts⟩ _ hlook
    rw [hget, Option.map_some, hcurrent, Option.some.injEq] at hstartup
    cases hstartup.symm.trans hstandby

end System

end Sam
