import Sam.Service.Representation
import Sam.System.Composition

/-!
# How SAM, links and clients hang together

* `Driven` — SAM is in the state its operations lead to, and each registration brought a channel
  of its own, so that everything known of runs of the service holds here (`driven_run`).
* `Received` — what reaches a client was sent on its link's channel (`received_run`).
* `move_invariant` — an invariant of every move is an invariant of every run.
-/

namespace Sam

namespace System

variable {η ω : Type*} {handlers : ApplicationId → ModeHandler η ω} {timeout : Duration}
  {s s' : System η} {k : Nat} {link : Link} {ops : List Operation}

/-- **Invariants of every run.**  A move may be assumed to start in a state that a run reaches, so
    that invariants already established can be used by name. -/
theorem move_invariant {I : System η → Prop} (h0 : I s)
    (hstep : ∀ inputs s', I (run handlers s inputs) → Move handlers (run handlers s inputs) s' →
      I s')
    (inputs : List (Input η ω)) : I (run handlers s inputs) := by
  refine Machine.history_invariant (R := fun _ s => I s) h0 (fun inputs input h => ?_) inputs
  exact hstep inputs _ h (step_move _ input)

/-! ## What a part of a step leaves alone -/

section Frame

variable (ops : List Operation) (k : Nat) (link : Link) (a : ApplicationId) (client : Client η)
  (call : Option HandlerCall) (answer : Option ApplicationToSam)

@[simp] theorem perform_links : (s.perform ops).links = s.links := rfl
@[simp] theorem perform_clients : (s.perform ops).clients = s.clients := rfl
@[simp] theorem perform_calls : (s.perform ops).calls = s.calls := rfl
@[simp] theorem perform_service : (s.perform ops).service = s.service.run ops := rfl
@[simp] theorem perform_operations : (s.perform ops).operations = s.operations ++ ops := rfl
@[simp] theorem setLink_links : (s.setLink k link).links = Function.update s.links k link := rfl
@[simp] theorem setLink_clients : (s.setLink k link).clients = s.clients := rfl
@[simp] theorem setLink_calls : (s.setLink k link).calls = s.calls := rfl
@[simp] theorem setLink_service : (s.setLink k link).service = s.service := rfl
@[simp] theorem setLink_operations : (s.setLink k link).operations = s.operations := rfl
@[simp] theorem setClient_links : (s.setClient a client).links = s.links := rfl
@[simp] theorem setClient_clients :
    (s.setClient a client).clients = Function.update s.clients a client := rfl
@[simp] theorem setClient_calls : (s.setClient a client).calls = s.calls := rfl
@[simp] theorem setClient_service : (s.setClient a client).service = s.service := rfl
@[simp] theorem setClient_operations : (s.setClient a client).operations = s.operations := rfl
@[simp] theorem recordCall_links : (s.recordCall a k call answer).links = s.links := rfl
@[simp] theorem recordCall_clients : (s.recordCall a k call answer).clients = s.clients := rfl
@[simp] theorem recordCall_calls :
    (s.recordCall a k call answer).calls = s.calls ++ call.toList.map (⟨a, k, ·, answer⟩) := rfl
@[simp] theorem recordCall_service : (s.recordCall a k call answer).service = s.service := rfl
@[simp] theorem recordCall_operations :
    (s.recordCall a k call answer).operations = s.operations := rfl

end Frame

/-- What holds of the new link and of every old one holds of every link. -/
theorem update_links {P : Nat → Link → Prop} (h : ∀ k', k' ≠ k → P k' (s.links k'))
    (hk : P k link) :
    ∀ k', P k' (Function.update s.links k link k') := by
  intro k'
  by_cases hne : k' = k
  · rw [hne, Function.update_self]; exact hk
  · rw [Function.update_of_ne hne]; exact h k' hne

/-- A session task does not touch what belongs to the client. -/
structure LinkFrame (old new : Link) : Prop where
  owner : new.owner = old.owner
  read : new.read = old.read
  written : new.written = old.written
  up : new.up ⊆ old.up

theorem ServerMove.frame (hm : ServerMove s k ops link) : LinkFrame (s.links k) link := by
  cases hm with
  | refuse message up _ _ hup | register _ up _ _ _ hup | unregistered _ up _ _ _ hup
  | handle _ _ message up _ _ _ hup =>
    refine ⟨rfl, rfl, ?_, ?_⟩
    · simp [Link.written, Link.refuse, Link.take, hup]
    · rw [hup]
      exact List.subset_cons_self _ _
  | send | unsent | close | hangUp => exact ⟨rfl, rfl, rfl, List.Subset.refl _⟩

/-! ## SAM's runs -/

/-- A registration brings a fresh channel with room. -/
def Opening (t : SamService) (op : Operation) : Prop := t.Fresh op ∧ Accepting t op

/-- SAM is in the state its operations lead to; each registration brought a fresh channel, and
    that of a link not yet served is fresh. -/
structure Driven (timeout : Duration) (s : System η) : Prop where
  service : s.service = (service₀ timeout).run s.operations
  opening : Machine.Always SamService.step Opening (service₀ timeout) s.operations
  awaiting : ∀ k, (s.links k).task = .awaiting →
    s.service.channels ⟨k⟩ = Channel.new OUTBOUND_QUEUE_DEPTH

theorem driven_new (timeout : Duration) (initial : ApplicationId → η) :
    Driven timeout (System.new timeout initial) where
  service := rfl
  opening := trivial
  awaiting _ _ := rfl

theorem Driven.fresh (h : Driven timeout s) :
    Machine.Always SamService.step SamService.Fresh (service₀ timeout) s.operations :=
  h.opening.imp fun _ _ => And.left

theorem Driven.own (h : Driven timeout s) : SamService.Own s.service := by
  rw [h.service]
  exact own_run (own_new _ _) h.fresh

/-- A channel that is new and not named by any of the operations stays new. -/
theorem untouched_run {t : SamService} {c : Sender} (hown : SamService.Own t)
    (hf : Machine.Always SamService.step Opening t ops) (hc : (t.channels c).sent = [])
    (hops : ∀ op ∈ ops, ¬ op.Names c) : (t.run ops).channels c = t.channels c := by
  induction ops generalizing t with
  | nil => rfl
  | cons op ops ih =>
    have hstep := untouched_step hown hc (hops op (List.mem_cons_self ..))
    rw [SamService.run_cons, ih (own_step hown hf.1.1) hf.2 (by rw [hstep]; exact hc)
      fun op hop => hops op (List.mem_cons_of_mem _ hop), hstep]

/-- SAM performs some operations; the links that await their first message are not named. -/
theorem Driven.perform (h : Driven timeout s)
    (hf : Machine.Always SamService.step Opening s.service ops)
    (hk : ∀ k, (s'.links k).task = .awaiting →
      (s.links k).task = .awaiting ∧ ∀ op ∈ ops, ¬ op.Names ⟨k⟩)
    (hs : s'.service = (s.perform ops).service) (ho : s'.operations = s.operations ++ ops) :
    Driven timeout s' where
  service := by rw [hs, ho, perform_service, h.service, SamService.run_append]
  opening := by
    rw [ho, Machine.always_append]
    exact ⟨h.opening, by rw [h.service] at hf; exact hf⟩
  awaiting := by
    intro k hawait
    obtain ⟨hold, hno⟩ := hk k hawait
    have hnew := h.awaiting k hold
    rw [hs, perform_service, untouched_run h.own hf (by rw [hnew]; rfl) hno, hnew]

/-- An operation that registers nobody opens no channel. -/
theorem opening_of_not_isRegister {t : SamService} {op : Operation} (h : op.isRegister = false) :
    Opening t op := by
  cases op with
  | register => cases h
  | disconnect | handleMessage | requestMode | refreshHealth | receive | dropReceiver =>
    exact ⟨trivial, trivial⟩

/-- The first message of a link is answered with a channel that has room. -/
theorem Driven.opening_register (h : Driven timeout s) (ht : (s.links k).task = .awaiting)
    (a : ApplicationId) (now : Instant) : Opening s.service (.register a ⟨k⟩ now) := by
  have hnew := h.awaiting k ht
  refine ⟨⟨?_, ?_⟩, ?_, ?_⟩ <;> rw [hnew]
  · rfl
  · rfl
  · rfl
  · decide

/-- A session task that has acted has left `awaiting`, and its operations name no channel but its
    own. -/
theorem ServerMove.names (hm : ServerMove s k ops link) :
    link.task ≠ .awaiting ∧ ∀ op ∈ ops, ∀ c, op.Names c → ⟨k⟩ = c := by
  cases hm with
  | refuse | register | unregistered | unsent | close | hangUp =>
    simp [Link.refuse, Link.take, Operation.Names]
  | handle a conn message up now task ht hup htask =>
    rcases htask with rfl | rfl <;> simp [Link.take, Operation.Names]
  | send a conn message queue ht => simp [ht, Operation.Names]

theorem driven_server (h : Driven timeout s) (hm : ServerMove s k ops link) :
    Driven timeout ((s.perform ops).setLink k link) := by
  obtain ⟨htask, hnames⟩ := hm.names
  refine h.perform ?_ ?_ rfl rfl
  · cases hm with
    | refuse | hangUp => trivial
    | register a up now id ht => exact ⟨h.opening_register ht a now, trivial⟩
    | unregistered a up now error ht =>
      exact ⟨h.opening_register ht a now, opening_of_not_isRegister rfl, trivial⟩
    | handle | send | unsent => exact ⟨opening_of_not_isRegister rfl, trivial⟩
    | close => exact ⟨opening_of_not_isRegister rfl, opening_of_not_isRegister rfl, trivial⟩
  · -- a link that still awaits its first message is another one
    intro k' hawait
    by_cases hk : k' = k
    · subst hk
      rw [setLink_links, Function.update_self] at hawait
      exact absurd hawait htask
    · rw [setLink_links, Function.update_of_ne hk] at hawait
      refine ⟨hawait, fun op hop hn => hk ?_⟩
      exact congrArg Sender.channel (hnames op hop _ hn).symm

theorem driven_move (h : Driven timeout s) (hm : Move handlers s s') : Driven timeout s' := by
  cases hm with
  | idle => exact h
  | call op hop =>
    have hf : Machine.Always SamService.step Opening s.service [op] := by
      rcases hop with ⟨_, rfl⟩ | ⟨_, rfl⟩ <;> exact ⟨opening_of_not_isRegister rfl, trivial⟩
    refine h.perform hf (fun k hk => ⟨hk, fun op' hop' => ?_⟩) rfl rfl
    rw [List.mem_singleton.mp hop']
    rcases hop with ⟨_, rfl⟩ | ⟨_, rfl⟩ <;> exact fun h => h
  | server k ops link hm => exact driven_server h hm
  | client a k link client call answer hm =>
    refine ⟨h.service, h.opening, update_links (P := fun k link => link.task = .awaiting →
      s.service.channels ⟨k⟩ = Channel.new OUTBOUND_QUEUE_DEPTH)
      (fun k' _ => h.awaiting k') fun hawait => h.awaiting k ?_⟩
    cases hm <;> exact hawait
  | quit a handler => exact ⟨h.service, h.opening, h.awaiting⟩

/-- **Every run of the system is a run of the service**, with a fresh channel for each
    registration. -/
theorem driven_run (timeout : Duration) (initial : ApplicationId → η) (inputs : List (Input η ω)) :
    Driven timeout (run handlers (System.new timeout initial) inputs) :=
  move_invariant (driven_new timeout initial) (fun _ _ => driven_move) inputs

theorem Driven.listed (h : Driven timeout s) : Listed s.service.inner := by
  rw [h.service]
  exact listed_run timeout _ (h.opening.imp fun _ _ => And.right)

/-- SAM has gone through a history of transitions. -/
theorem Driven.refines (h : Driven timeout s) :
    Known s.service.inner ∧
      ∃ H, Refines H s.service ((service₀ timeout).eventLog s.operations) := by
  rw [h.service]
  exact service_refines timeout (fun _ => Channel.new OUTBOUND_QUEUE_DEPTH) s.operations

/-! ## What reaches a client -/

/-- What the client of a link has read or is about to was sent on a channel, or is the refusal of
    its registration. -/
def ReceivedOn (t : SamService) (k : Nat) (link : Link) : Prop :=
  ∀ m ∈ link.read ++ link.down, m ∈ (t.channels ⟨k⟩).sent ∨ m.IsReply

/-- What reaches clients was sent on the channels of their links. -/
def Received (s : System η) : Prop := ∀ k, ReceivedOn s.service k (s.links k)

theorem ReceivedOn.run {t : SamService} (h : ReceivedOn t k link) (ops : List Operation) :
    ReceivedOn (t.run ops) k link :=
  fun m hm => (h m hm).imp_left fun hs => (SamService.sent_mono_run t ops ⟨k⟩).subset hs

theorem received_new (timeout : Duration) (initial : ApplicationId → η) :
    Received (System.new timeout initial) := by
  intro k m hm
  cases hm

theorem received_move (h : Received s) (hm : Move handlers s s') : Received s' := by
  cases hm with
  | idle => exact h
  | call op => exact fun k => (h k).run [op]
  | server k ops link hm =>
    refine update_links (P := ReceivedOn (s.service.run ops)) (fun k' _ => (h k').run ops) ?_
    cases hm with
    | refuse message up reason =>
      intro m hm
      unfold Link.refuse Link.take at hm
      rw [← List.append_assoc, List.mem_append, List.mem_singleton] at hm
      rcases hm with hm | rfl
      · exact (h k).run [] m hm
      · exact .inr trivial
    | send a conn message queue ht hq =>
      intro m hm
      rw [← List.append_assoc, List.mem_append, List.mem_singleton] at hm
      rcases hm with hm | rfl
      · exact (h k).run _ m hm
      · refine .inl ((SamService.sent_mono_run s.service _ ⟨k⟩).subset ?_)
        unfold Channel.sent
        rw [hq]
        simp
    | register | unregistered | handle | unsent | close | hangUp => exact (h k).run _
  | client a k link client call answer hm =>
    refine update_links (P := ReceivedOn s.service) (fun k' _ => h k') ?_
    cases hm with
    | connect | heartbeat => exact h k
    | welcome _ message down _ _ hd | unwelcome message down _ _ _ hd
    | observe _ message down _ hd | answer _ message down _ _ hd
    | leave _ message down _ _ hd =>
      have hk := h k
      unfold ReceivedOn at hk
      rw [hd] at hk
      intro m hm
      exact hk m (by simpa [Link.get, Link.write] using hm)
  | quit a handler => exact h

theorem received_run (timeout : Duration) (initial : ApplicationId → η)
    (inputs : List (Input η ω)) :
    Received (run handlers (System.new timeout initial) inputs) :=
  move_invariant (received_new timeout initial) (fun _ _ => received_move) inputs

end System

end Sam
