import Sam.Service.Refusal
import Sam.System.AtomicCommit
import Sam.System.Open

/-!
# An honest client is never thrown out

* `modeReady_ok`, `modeRejected_ok`, `modeCommitted_ok` — a vote of a client under its own name is
  answered `Ok` in every phase, a confirmation unless it contradicts the transition under way.
* `Rightful` — the messages `run_session` writes after its `Register`.
* `Honest` — what is in flight on a link opened by one of our applications is a `Register` and then
  rightful messages (`honest_open`).
* `honest_accepted` — among strangers writing whatever they like, no message of ours on a current
  connection is answered with an error.
-/

namespace Sam

/-- The manager finds fault with the mode of a confirmation only under the id it is committing. -/
theorem ModeManager.wrongCommittedMode {m : ModeManager} {a : ApplicationId} {id : TransitionId}
    {mode : SystemMode} (h : (m.applicationCommitted a id mode).1 = .error .wrongCommittedMode) :
    ∃ previous target W C, m.state = .committing id previous target W C ∧ target ≠ mode := by
  unfold applicationCommitted at h
  split at h
  · rename_i id' previous target W C hs
    split at h
    · cases h
    · rename_i hid
      split at h
      · rename_i hmode
        exact ⟨previous, target, W, C, by rw [hs, not_not.mp hid], hmode⟩
      · split at h
        · cases h
        · dsimp only at h
          split at h <;> cases h
  · cases h

namespace SamService

variable {s : SamService} {a : ApplicationId} {conn : ConnectionId} {tx : Sender}

section

variable (hc : s.inner.clients.lookup a = some ⟨conn, tx⟩) (now : Instant)

include hc

/-- Every answer to a `PrepareMode` is accepted: the manager's errors are those of a late one. -/
theorem modeReady_ok (id : TransitionId) :
    (s.handleMessage a conn (.modeReady a id) now).1 = .ok () := by
  unfold handleMessage
  simp only [verifyConnection_ok.mpr ⟨tx, hc⟩, verifyApplication_ok.mpr rfl]
  rcases s.inner.modes.applicationReady_cases a id with
    ⟨e, he, h⟩ | ⟨current, target, W, R, -, -, ⟨-, h⟩ | ⟨-, h⟩⟩
  · rcases he with rfl | rfl | rfl <;> rw [h] <;> rfl
  · rw [h]
  · rw [h]

theorem modeRejected_ok (id : TransitionId) (reason : String) :
    (s.handleMessage a conn (.modeRejected a id reason) now).1 = .ok () := by
  unfold handleMessage
  simp only [verifyConnection_ok.mpr ⟨tx, hc⟩, verifyApplication_ok.mpr rfl]
  rcases s.inner.modes.applicationRejected_cases a id reason with
    ⟨e, he, h⟩ | ⟨current, target, W, R, -, -, h⟩
  · rcases he with rfl | rfl | rfl <;> rw [h] <;> rfl
  · rw [h]

/-- A confirmation is accepted unless it names another mode than the transition being committed
    under its id. -/
theorem modeCommitted_ok (hk : Known s.inner) {id : TransitionId} {mode : SystemMode}
    (hmode : ∀ previous target W C, s.inner.modes.state = .committing id previous target W C →
      mode = target) :
    (s.handleMessage a conn (.modeCommitted a id mode) now).1 = .ok () := by
  obtain ⟨status, hr⟩ := hk a _ hc
  have hright : (s.inner.modes.applicationCommitted a id mode).1 ≠ .error .wrongCommittedMode := by
    intro h
    obtain ⟨previous, target, W, C, hs, hne⟩ := ModeManager.wrongCommittedMode h
    exact hne (hmode previous target W C hs).symm
  unfold handleMessage
  simp only [verifyConnection_ok.mpr ⟨tx, hc⟩, verifyApplication_ok.mpr rfl]
  rcases s.inner.modes.applicationCommitted_cases a id mode with
    ⟨e, he, h⟩ | ⟨previous, W, C, -, -, ⟨-, h⟩ | ⟨-, h⟩⟩
  · rcases he with rfl | rfl | rfl | rfl
    · rw [h]; rfl
    · rw [h]; rfl
    · rw [h]; rfl
    · rw [h] at hright
      exact absurd rfl hright
  · simp only [h, ApplicationRegistry.setMode, ApplicationRegistry.modify_some hr]
  · simp only [h, ApplicationRegistry.setMode, ApplicationRegistry.modify_some hr]

end

end SamService

/-- A message `run_session` of application `a` writes after its `Register`, having read these
    messages. -/
def Rightful (a : ApplicationId) (read : List SamToApplication) : ApplicationToSam → Prop
  | .register _ _ => False
  | .heartbeat b _ _ => b = a
  | .modeReady b _ => b = a
  | .modeRejected b _ _ => b = a
  | .modeCommitted b id mode => b = a ∧ .commitMode id mode ∈ read

theorem Rightful.mono {a : ApplicationId} {read read' : List SamToApplication}
    {m : ApplicationToSam} (h : Rightful a read m) (hr : read ⊆ read') : Rightful a read' m := by
  cases m with
  | register => exact h
  | heartbeat | modeReady | modeRejected => exact h
  | modeCommitted b id mode => exact ⟨h.1, hr h.2⟩

/-- What a client writes in answer to a message is rightful once it has read that message. -/
theorem ModeHandler.answer_rightful {η ω : Type*} {h : ModeHandler η ω} {w : ω} {a : ApplicationId}
    {self : η} {message : SamToApplication} {answer : ApplicationToSam}
    (hr : (h.messageReceived w a self message).result = .ok (some answer))
    {read : List SamToApplication} (hm : message ∈ read) : Rightful a read answer := by
  rcases answer_cases hr with ⟨id, mode, rfl, -⟩ | ⟨id, reason, rfl⟩ | ⟨id, mode, rfl, hc⟩
  · rfl
  · rfl
  · have horder := call_order hc
    exact ⟨rfl, by rw [← horder] at hm; exact hm⟩

/-- The messages of a link are in order: a session task serves whoever the first one registers, and
    one of our applications writes rightful messages after its own `Register`. -/
structure Proper (link : Link) : Prop where
  awaiting : link.task = .awaiting → link.taken = []
  seated : ∀ b conn, link.task.seat? = some (b, conn) →
    link.taken.head? = some (.register b PROTOCOL_VERSION)
  opened : ∀ a, link.owner = some a → ∃ rest, link.written = .register a PROTOCOL_VERSION :: rest ∧
    ∀ m ∈ rest, Rightful a link.read m

namespace Proper

variable {link : Link} {a b : ApplicationId} {conn : ConnectionId}

theorem unused : Proper .unused where
  awaiting _ := rfl
  seated _ _ h := by cases h
  opened _ h := by cases h

/-- The owner writes a rightful message. -/
theorem write (h : Proper link) (ho : link.owner = some a) {m : ApplicationToSam}
    (hm : Rightful a link.read m) : Proper (link.write m) where
  awaiting := h.awaiting
  seated := h.seated
  opened := by
    intro b hb
    have hab : a = b := Option.some.inj (ho.symm.trans hb)
    subst hab
    obtain ⟨rest, hw, hrest⟩ := h.opened a ho
    refine ⟨rest ++ [m], ?_, fun x hx => ?_⟩
    · unfold Link.written at hw ⊢
      show link.taken ++ (link.up ++ [m]) = _
      rw [← List.append_assoc, hw, List.cons_append]
    · rcases List.mem_append.mp hx with hx | hx
      · exact hrest x hx
      · rw [List.mem_singleton.mp hx]
        exact hm

/-- Anything may be written where nobody of ours is. -/
theorem write_stranger (h : Proper link) (ho : link.owner = none) (m : ApplicationToSam) :
    Proper (link.write m) where
  awaiting := h.awaiting
  seated := h.seated
  opened := by
    intro b hb
    change link.owner = some b at hb
    rw [ho] at hb
    cases hb

/-- The client reads a message. -/
theorem get (h : Proper link) (message : SamToApplication) (down : List SamToApplication) :
    Proper (link.get message down) where
  awaiting := h.awaiting
  seated := h.seated
  opened := by
    intro b hb
    obtain ⟨rest, hw, hrest⟩ := h.opened b hb
    exact ⟨rest, hw, fun m hm => (hrest m hm).mono (List.subset_append_left _ _)⟩

/-- An unused link is opened with a `Register`. -/
theorem connect (h : Proper link) (hw : link.written = []) :
    Proper { link.write (.register a PROTOCOL_VERSION) with owner := some a } where
  awaiting := h.awaiting
  seated := h.seated
  opened := by
    intro b hb
    obtain rfl : a = b := Option.some.inj hb
    refine ⟨[], ?_, fun m hm => by cases hm⟩
    unfold Link.written at hw ⊢
    show link.taken ++ (link.up ++ [_]) = _
    rw [← List.append_assoc, hw, List.nil_append]

/-- A link of ours is served under its owner's name. -/
theorem served (h : Proper link) (ho : link.owner = some a)
    (hseat : link.task.seat? = some (b, conn)) : b = a := by
  obtain ⟨rest, hw, -⟩ := h.opened a ho
  have hhead : link.written.head? = some (.register b PROTOCOL_VERSION) := by
    unfold Link.written
    rw [List.head?_append, h.seated b conn hseat]
    rfl
  rw [hw] at hhead
  cases hhead
  rfl

/-- The messages after the first are rightful. -/
theorem rightful (h : Proper link) (ho : link.owner = some a)
    (hseat : link.task.seat? = some (b, conn)) {m : ApplicationToSam} (hm : m ∈ link.up) :
    Rightful a link.read m := by
  obtain ⟨rest, hw, hrest⟩ := h.opened a ho
  have hhead := h.seated b conn hseat
  unfold Link.written at hw
  cases htaken : link.taken with
  | nil =>
    rw [htaken] at hhead
    cases hhead
  | cons first taken =>
    rw [htaken, List.cons_append, List.cons.injEq] at hw
    refine hrest m ?_
    rw [← hw.2]
    exact List.mem_append_right _ hm

end Proper

namespace System

variable {η ω : Type*} {handlers : ApplicationId → ModeHandler η ω} {timeout : Duration}
  {s s' : System η} {k : Nat} {link : Link} {ops : List Operation} {a : ApplicationId}

/-- Our applications keep to their own links, and those carry what `run_session` writes. -/
structure Honest (s : System η) : Prop where
  session : ∀ a k, (s.clients a).session.link? = some k → (s.links k).owner = some a
  proper : ∀ k, Proper (s.links k)

theorem honest_new (timeout : Duration) (initial : ApplicationId → η) :
    Honest (System.new timeout initial) where
  session := by
    intro a k h
    cases h
  proper _ := .unused

/-- A session task moves. -/
theorem ServerMove.proper (h : Proper (s.links k)) (hm : ServerMove s k ops link) :
    Proper link := by
  obtain ⟨howner, hread, hwritten, -⟩ := hm.frame
  refine ⟨fun hawait => absurd hawait hm.names.1, fun b conn hseat => ?_, ?_⟩
  · cases hm with
    | register a up now id ht hup hid =>
      cases hseat
      show ((s.links k).taken ++ _).head? = _
      rw [h.awaiting ht]
      rfl
    | handle a c message up now task ht hup htask =>
      have hold : (s.links k).task.seat? = some (b, conn) := by
        rw [ht]
        rcases htask with rfl | rfl <;> exact hseat
      show ((s.links k).taken ++ _).head? = _
      rw [List.head?_append, h.seated b conn hold]
      rfl
    | send a c message queue ht hq => exact h.seated b conn hseat
    | unsent a c ht =>
      refine h.seated b conn ?_
      rw [ht]
      exact hseat
    | refuse | unregistered | close | hangUp => cases hseat
  · rw [howner, hread, hwritten]
    exact h.opened

/-- A client moves, on a link of its own or on an unused one. -/
theorem ClientMove.honest (h : Honest s) {client : Client η} {call : Option HandlerCall}
    {answer : Option ApplicationToSam} (hm : ClientMove handlers s a k link client call answer)
    (hopened : (s.links k).owner = none → (s.links k).written = []) :
    ((s.links k).owner = none ∨ (s.links k).owner = some a) ∧ link.owner = some a ∧
      (client.session.link? = some k ∨ client.session.link? = none) ∧ Proper link := by
  have hown := h.session a k
  have hp := h.proper k
  cases hm with
  | connect hs hn => exact ⟨.inl hn, rfl, .inl rfl, hp.connect (hopened hn)⟩
  | welcome _ message down _ hs =>
    rw [hs] at hown
    exact ⟨.inr (hown rfl), hown rfl, .inl rfl, hp.get message down⟩
  | unwelcome message down _ session hs _ hn =>
    rw [hs] at hown
    refine ⟨.inr (hown rfl), hown rfl, .inr ?_, hp.get message down⟩
    rcases hn with rfl | rfl <;> rfl
  | observe _ message down hs =>
    rw [hs] at hown
    exact ⟨.inr (hown rfl), hown rfl, .inl rfl, hp.get message down⟩
  | answer _ message down answer hs _ hr =>
    rw [hs] at hown
    have hmem : message ∈ ((s.links k).get message down).read := by simp [Link.get]
    exact ⟨.inr (hown rfl), hown rfl, .inl rfl,
      (hp.get message down).write (hown rfl) (ModeHandler.answer_rightful hr hmem)⟩
  | leave _ message down session hs _ hn =>
    rw [hs] at hown
    refine ⟨.inr (hown rfl), hown rfl, .inr ?_, hp.get message down⟩
    rcases hn with rfl | rfl <;> rfl
  | heartbeat _ hs =>
    rw [hs] at hown
    exact ⟨.inr (hown rfl), hown rfl, .inl (by rw [hs]; rfl), hp.write (hown rfl) rfl⟩

theorem honest_client (h : Honest s) {client : Client η} {call : Option HandlerCall}
    {answer : Option ApplicationToSam} (hm : ClientMove handlers s a k link client call answer)
    (hopened : (s.links k).owner = none → (s.links k).written = []) :
    Honest (((s.setLink k link).setClient a client).recordCall a k call answer) := by
  obtain ⟨hold, hnew, hsession, hp⟩ := hm.honest h hopened
  refine ⟨fun b k' hb => ?_, update_links (P := fun _ link => Proper link)
    (fun k' _ => h.proper k') hp⟩
  rw [recordCall_clients, setClient_clients, setLink_clients] at hb
  rw [recordCall_links, setClient_links, setLink_links]
  by_cases hba : b = a
  · subst hba
    rw [Function.update_self] at hb
    rcases hsession with hs | hs <;> rw [hs] at hb
    · cases hb
      rw [Function.update_self]
      exact hnew
    · cases hb
  · rw [Function.update_of_ne hba] at hb
    have hother := h.session b k' hb
    by_cases hk : k' = k
    · -- the link would have two owners
      subst hk
      rcases hold with hold | hold <;> rw [hold] at hother
      · cases hother
      · exact absurd (Option.some.inj hother).symm hba
    · rw [Function.update_of_ne hk]
      exact hother

theorem honest_move (h : Honest s) (hm : OpenMove handlers s s') : Honest s' := by
  cases hm with
  | ours _ hm hopened =>
    cases hm with
    | idle => exact h
    | call op => exact ⟨h.session, h.proper⟩
    | server k ops link hm =>
      refine ⟨fun a k' ha => ?_, update_links (P := fun _ link => Proper link)
        (fun k' _ => h.proper k') (hm.proper (h.proper k))⟩
      exact update_links (P := fun k' link => (s.links k').owner = some a → link.owner = some a)
        (fun _ _ ho => ho) (fun ho => hm.frame.owner.trans ho) k' (h.session a k' ha)
    | client a k link client call answer hm =>
      refine honest_client h hm fun hn => hopened k hn ?_
      have howner : link.owner ≠ none := by
        cases hm with
        | connect => exact Option.some_ne_none a
        | welcome _ _ _ _ hs | unwelcome _ _ _ _ hs | observe _ _ _ hs | answer _ _ _ _ hs
        | leave _ _ _ _ hs | heartbeat _ hs =>
          have hown := h.session a k (by rw [hs]; rfl)
          rw [hn] at hown
          cases hown
      rw [recordCall_links, setClient_links, setLink_links, Function.update_self]
      exact howner
    | quit a handler =>
      refine ⟨fun b k hb => ?_, h.proper⟩
      rw [setClient_clients] at hb
      by_cases hba : b = a
      · rw [hba, Function.update_self] at hb
        cases hb
      · rw [Function.update_of_ne hba] at hb
        exact h.session b k hb
  | stranger k message ho =>
    refine ⟨fun a k' ha => ?_, stranger_links (P := fun _ link => Proper link) h.proper message
      ((h.proper k).write_stranger ho message)⟩
    exact stranger_links (P := fun k' link => (s.links k').owner = some a → link.owner = some a)
      (fun _ ho => ho) message (fun ho => ho) k' (h.session a k' ha)

theorem honest_open (timeout : Duration) (initial : ApplicationId → η)
    (inputs : List (OpenInput η ω)) :
    Honest (openRun handlers (System.new timeout initial) inputs) :=
  open_invariant (honest_new timeout initial) (fun _ _ => honest_move) inputs

/-- **An honest client is never thrown out.**  Whatever strangers write on their own connections,
    whenever the session task of a link that one of our applications has opened handles a message
    while its connection is the current one, `handle_message` returns `Ok` and the session goes
    on. -/
theorem honest_accepted (handlers : ApplicationId → ModeHandler η ω) (timeout : Duration)
    (initial : ApplicationId → η) (inputs : List (OpenInput η ω)) :
    let s := openRun handlers (System.new timeout initial) inputs
    (s.events timeout).countP TwoPhase.Event.isRequest < 2 ^ 64 →
    ∀ a k b conn tx message up, (s.links k).owner = some a →
      (s.links k).task = .registered b conn → (s.links k).up = message :: up →
      s.service.inner.clients.lookup b = some ⟨conn, tx⟩ →
      ∀ now, (s.service.handleMessage b conn message now).1 = .ok () ∧
        ((s.serverReceive k now).links k).task = .registered b conn := by
  intro s hcount a k b conn tx message up ho ht hup hc now
  have hd : Driven timeout s := driven_open timeout initial inputs
  have hr : Received s := received_open timeout initial inputs
  have hp : Proper (s.links k) := (honest_open timeout initial inputs).proper k
  obtain ⟨hk, H, hR⟩ := hd.refines
  have hseat : (s.links k).task.seat? = some (b, conn) := by rw [ht]; rfl
  obtain rfl := hp.served ho hseat
  have hright := hp.rightful ho hseat (m := message) (by rw [hup]; exact List.mem_cons_self ..)
  have hok : (s.service.handleMessage b conn message now).1 = .ok () := by
    cases message with
    | register => exact absurd hright id
    | heartbeat b' health mode =>
      obtain rfl : b' = b := hright
      obtain ⟨status, hs⟩ := hk b' _ hc
      exact SamService.heartbeat_ok hc hs health mode
    | modeReady b' id =>
      obtain rfl : b' = b := hright
      exact SamService.modeReady_ok hc now id
    | modeRejected b' id reason =>
      obtain rfl : b' = b := hright
      exact SamService.modeRejected_ok hc now id reason
    | modeCommitted b' id mode =>
      obtain ⟨rfl, hread⟩ := hright
      refine SamService.modeCommitted_ok hc now hk fun previous target W C hs => ?_
      -- both modes were ordered under the one id
      have hids := hR.ids_nodup hcount
      have hmode : .commit id mode ∈ TwoPhase.orders H := by
        rw [← hR.orders]
        exact (mem_modeOrders rfl).mpr (order_broadcast hd hr hread fun h => h)
      have htarget : .commit id target ∈ TwoPhase.orders H := by
        have hphase := hR.phase
        rw [hs] at hphase
        cases hphase with
        | committing _ hid htarget hdecision =>
          exact TwoPhase.commit_mem.mpr
            ⟨_, List.mem_append_right _ (List.mem_singleton_self _), hid,
            htarget, TwoPhase.Round.unanimous_of_commit hdecision⟩
      exact TwoPhase.orders_agree hids htarget (.inr hmode)
  refine ⟨hok, ?_⟩
  unfold serverReceive
  simp only [ht, hup, hok]
  rw [setLink_links, Function.update_self]
  rfl

/-- Navigation and guidance take part in a transition that guidance rejects, while a stranger
    sends a vote in navigation's name and then takes guidance's place; navigation's own vote is
    still in flight. -/
def late : List (OpenInput RecordingHandler Unit) :=
  [.ours (.connect Demo.navigation 0), .ours (.serverReceive 0 0), .ours (.serverSend 0 true),
    .ours (.clientReceive Demo.navigation () true),
    .stranger 1 (.register Demo.guidance PROTOCOL_VERSION), .ours (.serverReceive 1 1),
    .ours (.requestMode .standby),
    .ours (.serverSend 0 true), .ours (.clientReceive Demo.navigation () true),
    .stranger 1 (.modeReady Demo.navigation ⟨1⟩),
    .stranger 2 (.register Demo.guidance PROTOCOL_VERSION), .ours (.serverReceive 2 2),
    .stranger 2 (.modeRejected Demo.guidance ⟨1⟩ "no"), .ours (.serverReceive 2 3)]

theorem honest_accepted_late :
    let s := openRun (fun _ => recordingHandler) (System.new 2000000000 fun _ => .default) late
    s.service.inner.modes.state = .stable .startup ∧
      ∀ now, (s.service.handleMessage Demo.navigation ⟨1⟩ (.modeReady Demo.navigation ⟨1⟩) now).1 =
          .ok () ∧
        ((s.serverReceive 0 now).links 0).task = .registered Demo.navigation ⟨1⟩ :=
  ⟨by decide +kernel,
    honest_accepted (fun _ => recordingHandler) 2000000000 (fun _ => .default) late
      (by decide +kernel) Demo.navigation 0 Demo.navigation ⟨1⟩ ⟨0⟩
      (.modeReady Demo.navigation ⟨1⟩) []
      (by decide +kernel) (by decide +kernel) (by decide +kernel) (by decide +kernel)⟩

end System

end Sam
