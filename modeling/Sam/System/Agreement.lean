import Sam.Service.Heading
import Sam.Service.SystemHealth
import Sam.System.Seats

/-!
# Agreement on the mode when everything is quiet

* `Follows` — a disciplined client's mode is the one set last among the messages it has read, and
  the one its last heartbeat reports.
* `Delivered` — what a client has read, and what is in flight to it, is what its session task has
  taken from its channel.
* `Recorded` — SAM's record of a client is the mode in the last heartbeat taken.
* `agreement_iff` — so a quiescent client has SAM's mode, exactly unless it registered while a
  transition was being committed and has been sent no `CommitMode` since;
  `newcomer_disagrees` is such a client.
-/

namespace Sam

/-- The mode a heartbeat reports. -/
def ApplicationToSam.report? : ApplicationToSam → Option SystemMode
  | .heartbeat _ _ currentMode => some currentMode
  | _ => none

namespace ModeHandler.Disciplined

variable {η ω : Type*} {h : ModeHandler η ω} {w : ω} {a : ApplicationId} {self self' : η}
  {message : SamToApplication}

theorem synchronizeMode_ok (hd : h.Disciplined) {mode : SystemMode}
    (hr : h.synchronizeMode w mode self = (.ok (), self')) : h.currentMode self' = mode := by
  rw [hd.synchronize] at hr
  unfold defaultSynchronizeMode at hr
  split at hr
  · rename_i heq
    cases hr
    exact heq
  · split at hr
    · cases hr
    · rename_i prepared _
      have hcommit := hd.commit w mode prepared
      rw [hr] at hcommit
      exact hcommit rfl

/-- A client whose registration succeeds adopts the mode it is told. -/
theorem registered (hd : h.Disciplined)
    (hr : h.registrationReceived w self message = (.ok (), self')) :
    message.sets? = some (h.currentMode self') := by
  unfold registrationReceived at hr
  cases message with
  | registerAccepted version mode health =>
    dsimp only at hr
    split at hr
    · cases hr
    · split at hr
      · cases hr
      · rename_i synchronized hsync
        cases hr
        rw [hd.stateChanged]
        by_cases hmode : h.currentMode self = mode
        · rw [if_neg (not_not.mpr hmode)] at hsync
          cases hsync
          exact congrArg some hmode.symm
        · rw [if_pos hmode] at hsync
          exact congrArg some (hd.synchronizeMode_ok hsync).symm
  | prepareMode | commitMode | abortMode | stateBroadcast | registerRejected => cases hr

/-- A message that needs no answer leaves the mode alone. -/
theorem observed (hd : h.Disciplined)
    (hr : (h.messageReceived w a self message).result = .ok none) :
    message.sets? = none ∧
      h.currentMode (h.messageReceived w a self message).handler = h.currentMode self := by
  unfold messageReceived at hr ⊢
  cases message with
  | abortMode id => exact ⟨rfl, hd.abort w id self⟩
  | stateBroadcast mode health => exact ⟨rfl, hd.stateChanged w mode health self⟩
  | prepareMode => dsimp only at hr; split at hr <;> cases hr
  | commitMode => dsimp only at hr; split at hr <;> cases hr
  | registerAccepted | registerRejected => cases hr

/-- A message that is answered sets the mode exactly if it is a `CommitMode`. -/
theorem answered (hd : h.Disciplined) {answer : ApplicationToSam}
    (hr : (h.messageReceived w a self message).result = .ok (some answer)) :
    answer.report? = none ∧
      h.currentMode (h.messageReceived w a self message).handler =
        message.sets?.getD (h.currentMode self) := by
  refine ⟨?_, ?_⟩
  · rcases ModeHandler.answer_cases hr with ⟨_, _, rfl, -⟩ | ⟨_, _, rfl⟩ | ⟨_, _, rfl, -⟩ <;> rfl
  unfold messageReceived at hr ⊢
  cases message with
  | prepareMode id mode =>
    have hprepare := hd.prepare w mode self
    dsimp only at hr ⊢
    split <;> rename_i heq <;> rw [heq] at hprepare <;> exact hprepare
  | commitMode id mode =>
    have hcommit := hd.commit w mode self
    dsimp only at hr ⊢
    split at hr
    · rename_i heq
      rw [heq] at hcommit
      exact hcommit rfl
    · cases hr
  | registerAccepted | abortMode | stateBroadcast | registerRejected => cases hr

end ModeHandler.Disciplined

/-- The mode the last message written reports, if it is a heartbeat. -/
def Link.report (link : Link) : Option SystemMode :=
  link.written.getLast?.bind ApplicationToSam.report?

namespace System

variable {η ω : Type*} {handlers : ApplicationId → ModeHandler η ω} {timeout : Duration}
  {s s' : System η} {k : Nat} {link : Link} {ops : List Operation} {a : ApplicationId}

/-! ## The client follows what it reads -/

/-- The mode of client `a` and what it has read and written on its link. -/
structure Follows (h : ModeHandler η ω) (client : Client η) (k : Nat) (link : Link) : Prop where
  registering : client.session = .registering k →
    link.read = [] ∧ ∀ m ∈ link.written, m.report? = none
  running : client.session = .running k →
    lastSet link.read = some (h.currentMode client.handler)
  reported : client.session = .running k →
    ∀ m, link.report = some m → m = h.currentMode client.handler

theorem Follows.frame {h : ModeHandler η ω} {client : Client η} {old new : Link}
    (hf : Follows h client k old) (hframe : LinkFrame old new) : Follows h client k new := by
  obtain ⟨-, hread, hwritten, -⟩ := hframe
  refine ⟨?_, ?_, ?_⟩
  · rw [hread, hwritten]; exact hf.registering
  · rw [hread]; exact hf.running
  · unfold Link.report; rw [hwritten]; exact hf.reported

/-- A client that is not in session on `k` has nothing to do with it. -/
theorem follows_elsewhere {h : ModeHandler η ω} {client : Client η}
    (hk : client.session.link? ≠ some k) : Follows h client k link where
  registering hs := absurd (by rw [hs]; rfl) hk
  running hs := absurd (by rw [hs]; rfl) hk
  reported hs := absurd (by rw [hs]; rfl) hk

theorem report_write (link : Link) (m : ApplicationToSam) : (link.write m).report = m.report? := by
  simp [Link.report, Link.written, Link.write]

/-- The client itself moves. -/
theorem ClientMove.follows (hd : (handlers a).Disciplined) (ho : Owned s) {client : Client η}
    {call : Option HandlerCall} {answer : Option ApplicationToSam}
    (hm : ClientMove handlers s a k link client call answer)
    (hf : Follows (handlers a) (s.clients a) k (s.links k)) :
    Follows (handlers a) client k link := by
  cases hm with
  | connect hs hn =>
    refine ⟨fun _ => ⟨(ho k).unread hn, fun m hm => ?_⟩, fun h => (by cases h), fun h => by cases h⟩
    change m ∈ (s.links k).taken ++ ((s.links k).up ++ _) at hm
    rw [← List.append_assoc] at hm
    change m ∈ (s.links k).written ++ _ at hm
    rw [ho.unwritten hn, List.nil_append, List.mem_singleton] at hm
    rw [hm]
    rfl
  | welcome world message down handler hs hdown hr =>
    obtain ⟨hread, hno⟩ := hf.registering hs
    have hset := hd.registered hr
    refine ⟨fun h => (by cases h), fun _ => ?_, fun _ m hm => ?_⟩
    · show lastSet ((s.links k).read ++ [message]) = _
      rw [hread, List.nil_append]
      unfold lastSet
      rw [List.filterMap_cons_some hset]
      rfl
    · obtain ⟨x, hx, hxm⟩ := Option.bind_eq_some_iff.mp hm
      rw [hno x (List.mem_of_getLast? hx)] at hxm
      cases hxm
  | unwelcome _ _ _ session _ _ hn | leave _ _ _ session _ _ hn =>
    refine follows_elsewhere ?_
    rcases hn with rfl | rfl <;> simp [ClientSession.link?]
  | observe world message down hs hdown hr =>
    obtain ⟨hset, hmode⟩ := hd.observed hr
    refine ⟨fun h => (by cases h), fun _ => ?_, fun _ m hm => ?_⟩
    · show lastSet ((s.links k).read ++ [message]) = _
      rw [lastSet_append, hmode, ← hf.running hs]
      unfold lastSet
      rw [List.filterMap_cons_none hset]
      rfl
    · rw [hmode]
      exact hf.reported hs m hm
  | answer world message down answer hs hdown hr =>
    obtain ⟨hno, hmode⟩ := hd.answered hr
    refine ⟨fun h => (by cases h), fun _ => ?_, fun _ m hm => ?_⟩
    · show lastSet ((s.links k).read ++ [message]) = _
      rw [lastSet_append, hmode, hf.running hs]
      unfold lastSet
      cases hset : message.sets? with
      | none => rw [List.filterMap_cons_none hset]; rfl
      | some mode => rw [List.filterMap_cons_some hset]; rfl
    · rw [report_write, hno] at hm
      cases hm
  | heartbeat world hs =>
    refine ⟨fun h => ?_, hf.running, fun _ m hm => ?_⟩
    · rw [hs] at h
      cases h
    · rw [report_write] at hm
      exact (Option.some.inj hm).symm

theorem follows_move (hd : (handlers a).Disciplined) (ho : Owned s)
    (h : ∀ k, Follows (handlers a) (s.clients a) k (s.links k)) (hm : Move handlers s s') :
    ∀ k, Follows (handlers a) (s'.clients a) k (s'.links k) := by
  cases hm with
  | idle => exact h
  | call op => exact h
  | server k ops link hm =>
    exact update_links (P := Follows (handlers a) (s.clients a)) (fun k' _ => h k')
      ((h k).frame hm.frame)
  | client b k link client call answer hm =>
    obtain ⟨hold, -, hsession, -, -⟩ := hm.owner ho
    rw [recordCall_clients, setClient_clients, setLink_clients, recordCall_links, setClient_links,
      setLink_links]
    by_cases hab : a = b
    · subst hab
      rw [Function.update_self]
      refine update_links (P := Follows (handlers a) client) (fun k' hk => ?_)
        (hm.follows hd ho (h k))
      refine follows_elsewhere fun hs => ?_
      rcases hsession with hs' | hs' <;> rw [hs'] at hs
      · exact hk (Option.some.inj hs).symm
      · cases hs
    · rw [Function.update_of_ne hab]
      refine update_links (P := Follows (handlers a) (s.clients a)) (fun k' _ => h k') ?_
      -- `b`'s link is not `a`'s
      refine follows_elsewhere fun hs => hab ?_
      have := (ho k).session a hs
      rcases hold with hold | hold <;> rw [hold] at this
      · cases this
      · exact (Option.some.inj this).symm
  | quit b handler =>
    intro k
    rw [setClient_clients, setClient_links]
    by_cases hab : a = b
    · subst hab
      rw [Function.update_self]
      exact follows_elsewhere (by simp [ClientSession.link?])
    · rw [Function.update_of_ne hab]
      exact h k

theorem follows_run (timeout : Duration) (initial : ApplicationId → η) (inputs : List (Input η ω))
    (hd : (handlers a).Disciplined) :
    let s := run handlers (System.new timeout initial) inputs
    ∀ k, Follows (handlers a) (s.clients a) k (s.links k) :=
  move_invariant (I := fun s => ∀ k, Follows (handlers a) (s.clients a) k (s.links k))
    (fun _ => follows_elsewhere (by simp [System.new, ClientSession.link?]))
    (fun inputs _ => follows_move hd (owned_run timeout initial inputs)) inputs

/-! ## The client is sent what its session task takes -/

/-- What has been passed on to the client is what was taken from the channel. -/
structure DeliveredOn (t : SamService) (k : Nat) (link : Link) : Prop where
  awaiting : link.task = .awaiting → link.read ++ link.down = []
  registered : ∀ a conn, link.task = .registered a conn →
    link.read ++ link.down = (t.channels ⟨k⟩).delivered

def Delivered (s : System η) : Prop := ∀ k, DeliveredOn s.service k (s.links k)

/-- Only `receive` takes messages from a channel. -/
theorem delivered_run {t : SamService} {c : Sender} (hops : ∀ op ∈ ops, op ≠ .receive c) :
    ((t.run ops).channels c).delivered = (t.channels c).delivered := by
  induction ops generalizing t with
  | nil => rfl
  | cons op ops ih =>
    rw [SamService.run_cons, ih fun op hop => hops op (List.mem_cons_of_mem _ hop)]
    exact SamService.delivered_step (hops op (List.mem_cons_self ..))

theorem DeliveredOn.run {t : SamService} (h : DeliveredOn t k link)
    (hops : ∀ op ∈ ops, op ≠ .receive ⟨k⟩) : DeliveredOn (t.run ops) k link where
  awaiting := h.awaiting
  registered a conn ht := by
    rw [delivered_run hops]
    exact h.registered a conn ht

theorem delivered_server (hd : Driven timeout s) (h : Delivered s) (hm : ServerMove s k ops link) :
    Delivered ((s.perform ops).setLink k link) := by
  refine update_links (P := DeliveredOn (s.service.run ops)) (fun k' hk => ?_) ?_
  · -- the task of another link does not receive on this one's channel
    refine (h k').run fun op hop heq => hk ?_
    have := hm.names.2 op hop ⟨k'⟩ (by rw [heq]; rfl)
    exact (congrArg Sender.channel this).symm
  · have hk := h k
    refine ⟨fun ht => absurd ht hm.names.1, fun b c ht => ?_⟩
    cases hm with
    | register a up now id hawait =>
      have hnew := hd.awaiting k hawait
      rw [delivered_run (by simp), hnew]
      exact hk.awaiting hawait
    | handle a conn message up now task hreg hup htask =>
      rw [delivered_run (by simp)]
      exact hk.registered a conn hreg
    | send a conn message queue hreg hq =>
      have hold := hk.registered a conn hreg
      show (s.links k).read ++ ((s.links k).down ++ [message]) =
        (Function.update s.service.channels ⟨k⟩ (s.service.channels ⟨k⟩).recv ⟨k⟩).delivered
      rw [Function.update_self, Channel.recv, hq, ← List.append_assoc, hold]
    | refuse | unregistered | unsent | close | hangUp => cases ht

theorem delivered_move (hd : Driven timeout s) (h : Delivered s) (hm : Move handlers s s') :
    Delivered s' := by
  cases hm with
  | idle => exact h
  | call op hop =>
    intro k
    have hone : ∀ op' ∈ [op], op' ≠ .receive ⟨k⟩ := by
      intro op' hop'
      rw [List.mem_singleton.mp hop']
      rcases hop with ⟨_, rfl⟩ | ⟨_, rfl⟩ <;> intro h <;> cases h
    exact (h k).run hone
  | server k ops link hm => exact delivered_server hd h hm
  | client a k link client call answer hm =>
    refine update_links (P := DeliveredOn s.service) (fun k' _ => h k') ?_
    obtain ⟨hawaiting, hregistered⟩ := h k
    cases hm with
    | connect | heartbeat => exact ⟨hawaiting, hregistered⟩
    | welcome _ message down _ _ hd | unwelcome message down _ _ _ hd
    | observe _ message down _ hd | answer _ message down _ _ hd
    | leave _ message down _ _ hd =>
      rw [hd, List.append_cons] at hawaiting hregistered
      exact ⟨hawaiting, hregistered⟩
  | quit a handler => exact h

theorem delivered_run_system (timeout : Duration) (initial : ApplicationId → η)
    (inputs : List (Input η ω)) : Delivered (run handlers (System.new timeout initial) inputs) :=
  move_invariant (fun _ => ⟨fun _ => rfl, fun _ _ h => by cases h⟩)
    (fun inputs _ => delivered_move (driven_run timeout initial inputs)) inputs

/-! ## SAM records what the client reports -/

/-- The record of a client is the mode in the last message taken from it, if that is a heartbeat. -/
def Recorded (s : System η) : Prop :=
  ∀ a conn k, s.service.inner.clients.lookup a = some ⟨conn, ⟨k⟩⟩ →
    ∀ m, (s.links k).taken.getLast?.bind ApplicationToSam.report? = some m →
      ∃ status, s.service.inner.applications.get a = some status ∧ status.currentMode = m

theorem recorded_new (timeout : Duration) (initial : ApplicationId → η) :
    Recorded (System.new timeout initial) := by
  intro a conn k h
  cases h

/-- Operations without registrations and messages of its connection leave a record alone. -/
theorem Recorded.keep (h : Recorded s) (hk : Known s.service.inner) {conn : ConnectionId}
    {m : SystemMode} (hops : ∀ op ∈ ops, op.isRegister = false)
    (hmsg : ∀ message now, .handleMessage a conn message now ∈ ops → message.mode? = none)
    (hlook : (s.service.run ops).inner.clients.lookup a = some ⟨conn, ⟨k⟩⟩)
    (hlast : (s.links k).taken.getLast?.bind ApplicationToSam.report? = some m) :
    ∃ status, (s.service.run ops).inner.applications.get a = some status ∧
      status.currentMode = m :=
  record_kept hk (h a conn k (client_kept hops hlook) m hlast) hops hmsg hlook

/-- A session task moves: what it has taken last is recorded. -/
theorem ServerMove.recorded (hm : ServerMove s k ops link) (hk : Known s.service.inner)
    (ho : Owned s) (hs : Seated s) (h : Recorded s) {conn : ConnectionId} {m : SystemMode}
    (hlook : (s.service.run ops).inner.clients.lookup a = some ⟨conn, ⟨k⟩⟩)
    (hlast : link.taken.getLast?.bind ApplicationToSam.report? = some m) :
    ∃ status, (s.service.run ops).inner.applications.get a = some status ∧
      status.currentMode = m := by
  cases hm with
  | refuse message up reason ht hup =>
    have hseat := hs.seat hlook
    rw [ht] at hseat
    cases hseat
  | register b up now id ht hup | unregistered b up now error ht hup =>
    -- the last message taken is the `Register`
    simp [Link.take, ApplicationToSam.report?] at hlast
  | handle b c message up now task ht hup htask =>
    have hold := client_kept (s := s.service) (by simp [Operation.isRegister]) hlook
    have hsame := hs.seat hold
    rw [ht] at hsame
    cases hsame
    have howner := (ho k).served a conn (hs.seat hold)
    have hmem : message ∈ (s.links k).written := by
      unfold Link.written
      rw [hup]
      simp
    have horigin := (ho k).origin message hmem
    rw [howner] at horigin
    have hreport : message.report? = some m := by simpa [Link.take] using hlast
    cases message with
    | heartbeat b health mode =>
      cases hreport
      obtain rfl : a = b := Option.some.inj horigin
      exact ⟨_, heartbeat_recorded hk hold health m now, rfl⟩
    | register | modeReady | modeRejected | modeCommitted => cases hreport
  | send | unsent | close | hangUp =>
    exact h.keep hk (by simp [Operation.isRegister]) (by simp) hlook hlast

theorem recorded_server (hd : Driven timeout s) (hk : Known s.service.inner) (ho : Owned s)
    (hs : Seated s) (hdist : Distinct s) (h : Recorded s) (hm : ServerMove s k ops link) :
    Recorded ((s.perform ops).setLink k link) := by
  intro a conn k' hlook m hlast
  rw [setLink_links] at hlast
  by_cases hkk : k' = k
  · subst hkk
    rw [Function.update_self] at hlast
    exact hm.recorded hk ho hs h hlook hlast
  · rw [Function.update_of_ne hkk] at hlast
    exact hm.record_elsewhere hd hk hs hdist hkk hlook fun hold => h a conn k' hold m hlast

theorem recorded_move (hd : Driven timeout s) (hk : Known s.service.inner) (ho : Owned s)
    (hs : Seated s) (hdist : Distinct s) (h : Recorded s) (hm : Move handlers s s') :
    Recorded s' := by
  cases hm with
  | idle => exact h
  | call op hop =>
    intro a conn k hlook m hlast
    have hops : ∀ op' ∈ [op], op'.isRegister = false := by
      rcases hop with ⟨_, rfl⟩ | ⟨_, rfl⟩ <;> simp [Operation.isRegister]
    refine record_kept hk (h a conn k (client_kept hops hlook) m hlast) hops ?_ hlook
    rcases hop with ⟨_, rfl⟩ | ⟨_, rfl⟩ <;> simp
  | server k ops link hm => exact recorded_server hd hk ho hs hdist h hm
  | client a k link client call answer hm =>
    have htaken : link.taken = (s.links k).taken := by cases hm <;> rfl
    intro b conn k' hlook m hlast
    refine h b conn k' hlook m ?_
    rw [recordCall_links, setClient_links, setLink_links] at hlast
    by_cases hk : k' = k
    · subst hk
      rw [Function.update_self, htaken] at hlast
      exact hlast
    · rw [Function.update_of_ne hk] at hlast
      exact hlast
  | quit a handler => exact h

theorem recorded_run (timeout : Duration) (initial : ApplicationId → η)
    (inputs : List (Input η ω)) :
    (run handlers (System.new timeout initial) inputs).registrations < 2 ^ 64 →
      Recorded (run handlers (System.new timeout initial) inputs) := by
  refine move_invariant (I := fun s => s.registrations < 2 ^ 64 → Recorded s)
    (fun _ => recorded_new timeout initial) (fun inputs s' h hm hn => ?_) inputs
  have hd : Driven timeout (run handlers (System.new timeout initial) inputs) :=
    driven_run timeout initial inputs
  have hn' := (registrations_mono hm).trans_lt hn
  exact recorded_move hd hd.refines.1 (owned_run timeout initial inputs)
    (seated_run timeout initial inputs) (distinct_run timeout initial inputs hn') (h hn') hm

/-! ## Agreement -/

/-- Between SAM and application `a` everything is quiet: no transition is in progress, `a` is a
    client on connection `conn` over link `k`, nothing was refused and nothing is in flight on it,
    and the last thing SAM took from it is a heartbeat. -/
structure Quiescent (s : System η) (a : ApplicationId) (conn : ConnectionId) (k : Nat) : Prop where
  stable : s.service.transitionInProgress = false
  client : s.service.inner.clients.lookup a = some ⟨conn, ⟨k⟩⟩
  served : (s.links k).task = .registered a conn
  session : (s.clients a).session = .running k
  complete : (s.service.channels ⟨k⟩).refused = false
  queue : (s.service.channels ⟨k⟩).queue = []
  down : (s.links k).down = []
  up : (s.links k).up = []
  heartbeat : ∃ health mode, (s.links k).taken.getLast? = some (.heartbeat a health mode)

/-- `SamService::applications` shows `a` as synchronized. -/
def ShownSynchronized (t : SamService) (a : ApplicationId) (now : Instant) : Prop :=
  ∃ row ∈ t.applications now, row.application = a ∧ row.synchronized = true

theorem shownSynchronized_iff {t : SamService} {status : ApplicationStatus}
    (hs : t.inner.applications.get a = some status) (hc : status.connected = true) (now : Instant) :
    ShownSynchronized t a now ↔ status.currentMode = t.snapshot.mode := by
  have hrow : ∀ st, (SamService.applicationSnapshot t.inner now a st).synchronized =
      (st.connected && decide (st.currentMode = t.snapshot.mode)) := fun _ => rfl
  unfold ShownSynchronized SamService.applications
  constructor
  · rintro ⟨row, hmem, hid, hsync⟩
    obtain ⟨⟨b, st⟩, hiter, rfl⟩ := List.mem_map.mp (List.mem_mergeSort.mp hmem)
    obtain rfl : b = a := hid
    have hget := mem_iter.mp hiter
    rw [hs] at hget
    obtain rfl := Option.some.inj hget
    rw [hrow, hc] at hsync
    simpa using hsync
  · intro hmode
    refine ⟨SamService.applicationSnapshot t.inner now a status, ?_, rfl, ?_⟩
    · exact List.mem_mergeSort.mpr (List.mem_map.mpr ⟨(a, status), mem_iter.mpr hs, rfl⟩)
    · rw [hrow, hc, hmode]
      simp

/-- A quiescent client has read everything sent to it, and has the mode it was told last. -/
theorem Quiescent.told {h : ModeHandler η ω} {conn : ConnectionId} (hq : Quiescent s a conn k)
    (hf : Follows h (s.clients a) k (s.links k)) (hd : DeliveredOn s.service k (s.links k)) :
    lastSet (s.service.channels ⟨k⟩).sent = some (h.currentMode (s.clients a).handler) := by
  have hread : (s.links k).read = (s.service.channels ⟨k⟩).sent := by
    have hall := hd.registered a conn hq.served
    rw [hq.down, List.append_nil] at hall
    rw [hall, Channel.sent, hq.queue, List.append_nil]
  rw [← hread]
  exact hf.running hq.session

/-- Of a quiescent client SAM has recorded its last heartbeat, which reports its mode. -/
theorem Quiescent.status {h : ModeHandler η ω} {conn : ConnectionId} (hq : Quiescent s a conn k)
    (hf : Follows h (s.clients a) k (s.links k)) (hr : Recorded s) (hl : Listed s.service.inner) :
    ∃ status, s.service.inner.applications.get a = some status ∧ status.connected = true ∧
      status.currentMode = h.currentMode (s.clients a).handler := by
  obtain ⟨health, mode, hlast⟩ := hq.heartbeat
  have hreport : (s.links k).taken.getLast?.bind ApplicationToSam.report? = some mode := by
    rw [hlast]
    rfl
  obtain ⟨status, hstatus, hmode⟩ := hr a conn k hq.client mode hreport
  obtain ⟨status', hstatus', hconnected⟩ := (hl a).mp ⟨_, hq.client⟩
  rw [hstatus] at hstatus'
  obtain rfl := Option.some.inj hstatus'
  refine ⟨status, hstatus, hconnected, hmode.trans (hf.reported hq.session mode ?_)⟩
  unfold Link.report Link.written
  rw [hq.up, List.append_nil]
  exact hreport

/-- **Agreement of a quiescent client.**  In every run its mode is SAM's exactly unless its
    connection registered while a transition was being committed and no `CommitMode` was broadcast
    since; and (before connection ids wrap around) SAM shows it as synchronized exactly when its
    mode is SAM's. -/
theorem agreement_iff (handlers : ApplicationId → ModeHandler η ω) (timeout : Duration)
    (initial : ApplicationId → η) (inputs : List (Input η ω)) {a : ApplicationId}
    {conn : ConnectionId} {k : Nat} (hdisc : (handlers a).Disciplined)
    (hq : Quiescent (run handlers (System.new timeout initial) inputs) a conn k) :
    let s := run handlers (System.new timeout initial) inputs
    let mode := (handlers a).currentMode (s.clients a).handler
    (∃ pre now post, s.operations = pre ++ .register a ⟨k⟩ now :: post ∧
      (((service₀ timeout).run pre).register a ⟨k⟩ now).1 = .ok conn ∧
      (mode = s.service.snapshot.mode ↔
        ¬ Committing ((service₀ timeout).run pre) ∨
          ∃ id m, .commitMode id m ∈
            s.service.broadcasts.drop ((service₀ timeout).run pre).broadcasts.length)) ∧
    (s.registrations < 2 ^ 64 →
      ∀ now, ShownSynchronized s.service a now ↔ mode = s.service.snapshot.mode) := by
  intro s mode
  have hd : Driven timeout s := driven_run timeout initial inputs
  have hfollows := follows_run timeout initial inputs hdisc k
  refine ⟨?_, fun hn now => ?_⟩
  · have htold := hq.told hfollows (delivered_run_system timeout initial inputs k)
    have hservice : s.service = (service₀ timeout).run s.operations := hd.service
    obtain ⟨hstable, hclient, -, -, hcomplete, -, -, -, -⟩ := hq
    rw [hservice] at hclient hcomplete hstable
    obtain ⟨pre, now, post, hops, hok, hiff⟩ :=
      told_mode timeout (fun _ => Channel.new OUTBOUND_QUEUE_DEPTH) s.operations hd.fresh hclient
        hcomplete hstable
    refine ⟨pre, now, post, hops, hok, ?_⟩
    change lastSet (((service₀ timeout).run s.operations).channels ⟨k⟩).sent =
      some ((service₀ timeout).run s.operations).snapshot.mode ↔
        ¬ Committing ((service₀ timeout).run pre) ∨ ∃ id m, .commitMode id m ∈
          ((service₀ timeout).run s.operations).broadcasts.drop
            ((service₀ timeout).run pre).broadcasts.length at hiff
    rw [← hservice, htold, Option.some.injEq] at hiff
    exact hiff
  · obtain ⟨status, hstatus, hconnected, hmode⟩ :=
      hq.status hfollows (recorded_run timeout initial inputs hn) hd.listed
    rw [shownSynchronized_iff hstatus hconnected now, hmode]

/-- Guidance alone is moved to `Standby`, and sends a heartbeat. -/
def settled : List (Input RecordingHandler Unit) :=
  [.connect Demo.guidance 0, .serverReceive 0 0, .serverSend 0 true,
    .clientReceive Demo.guidance () true,
    .requestMode .standby,
    .serverSend 0 true, .clientReceive Demo.guidance () true, .serverReceive 0 1,
    .serverSend 0 true, .clientReceive Demo.guidance () true, .serverReceive 0 2,
    .serverSend 0 true, .clientReceive Demo.guidance () true,
    .clientHeartbeat Demo.guidance () true, .serverReceive 0 3]

theorem agreement_demo :
    let s := run (fun _ => recordingHandler) (System.new 2000000000 fun _ => .default) settled
    (s.clients Demo.guidance).handler.currentMode = s.service.snapshot.mode ∧
      ShownSynchronized s.service Demo.guidance 4 := by
  intro s
  have hq : Quiescent s Demo.guidance ⟨1⟩ 0 :=
    ⟨by decide +kernel, by decide +kernel, by decide +kernel, by decide +kernel,
      by decide +kernel, by decide +kernel, by decide +kernel, by decide +kernel,
      ⟨.healthy, .standby, by decide +kernel⟩⟩
  obtain ⟨⟨pre, now, post, hops, -, hmode⟩, hshown⟩ :=
    agreement_iff (fun _ => recordingHandler) 2000000000 (fun _ => .default) settled
      recordingHandler_disciplined hq
  -- guidance registers once, before anything else
  have hpre : pre = [] := by
    have hregisters : s.operations.countP Operation.isRegister = 1 := by decide +kernel
    have hfirst : s.operations.head?.all Operation.isRegister = true := by decide +kernel
    rw [hops] at hregisters hfirst
    cases pre with
    | nil => rfl
    | cons op pre =>
      have hop : op.isRegister = true := by simpa using hfirst
      have hpost : Operation.isRegister (.register Demo.guidance ⟨0⟩ now) = true := rfl
      rw [List.countP_append, List.countP_cons_of_pos hop, List.countP_cons_of_pos hpost]
        at hregisters
      omega
  have hagree := hmode.mpr (.inl (by rw [hpre]; exact fun h => h))
  exact ⟨hagree, (hshown (by decide +kernel) 4).mpr hagree⟩

/-- Guidance registers while navigation is committing `Standby`, is told `Startup`, and sends a
    heartbeat when navigation is done. -/
def newcomer : List (Input RecordingHandler Unit) :=
  [.connect Demo.navigation 0, .serverReceive 0 0, .serverSend 0 true,
    .clientReceive Demo.navigation () true,
    .requestMode .standby,
    .serverSend 0 true, .clientReceive Demo.navigation () true, .serverReceive 0 1,
    .connect Demo.guidance 1, .serverReceive 1 2, .serverSend 1 true,
    .clientReceive Demo.guidance () true,
    .serverSend 0 true, .clientReceive Demo.navigation () true, .serverReceive 0 3,
    .serverSend 1 true, .clientReceive Demo.guidance () true,
    .clientHeartbeat Demo.guidance () true, .serverReceive 1 4]

/-- **Quiescent clients need not agree**, though their handlers are disciplined and obliging. -/
theorem newcomer_disagrees :
    recordingHandler.Disciplined ∧ recordingHandler.Obliging ∧
      let s := run (fun _ => recordingHandler) (System.new 2000000000 fun _ => .default) newcomer
      Quiescent s Demo.guidance ⟨2⟩ 1 ∧
        recordingHandler.currentMode (s.clients Demo.guidance).handler = .startup ∧
        s.service.snapshot.mode = .standby ∧
        ∀ now, ¬ ShownSynchronized s.service Demo.guidance now := by
  refine ⟨recordingHandler_disciplined, recordingHandler_obliging, ?_⟩
  have hstatus : (run (fun _ => recordingHandler) (System.new 2000000000 fun _ => .default)
      newcomer).service.inner.applications.get Demo.guidance =
        some ⟨.startup, .healthy, 4, true⟩ := by
    decide +kernel
  refine ⟨⟨?_, ?_, ?_, ?_, ?_, ?_, ?_, ?_, ⟨.healthy, .startup, ?_⟩⟩, ?_, ?_, fun now hshown => ?_⟩
  case refine_12 =>
    have hmode := (shownSynchronized_iff hstatus rfl now).mp hshown
    revert hmode
    decide +kernel
  all_goals decide +kernel

end System

end Sam
