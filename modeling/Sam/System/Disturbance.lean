import Sam.System.Policy

/-!
# What a disturbed link can break

A session task that sends while its pending `receive` holds part of a frame goes on reading in the
middle of the stream, and what it reads is no longer what was written.  Here, on some of the links,
what is in flight to SAM may become anything once an application has registered there.

* `FaultyInput`, `faultyStep` — a step of SAM or of an application, or a link is garbled.
* `FaultyMove` — what such a step can do; `faulty_invariant` is induction over a run.
* `Signed` — a link serves its owner, garbled or not: only the votes of this application are at
  risk.
* `AccountedFor` — the votes of all others are backed by their callbacks, and every callback by the
  order it answers (`accountedFor_faulty`).
* `AtomicAmong`, `atomic_faulty` — atomic commit among those whose links are sound; and nobody at
  all ever commits what not all have been counted ready for or what SAM has aborted.
* `never_faulty` — a callback that no message makes a handler run is run in no such run.
-/

namespace Sam

open TwoPhase

variable {η ω : Type*}

/-- A rejection is the answer to a `prepare_mode` that failed. -/
theorem ModeHandler.rejected_call {h : ModeHandler η ω} {w : ω} {a b : ApplicationId} {self : η}
    {message : SamToApplication} {id : TransitionId} {reason : String}
    (hr : (h.messageReceived w a self message).result = .ok (some (.modeRejected b id reason))) :
    b = a ∧ ∃ mode, (h.messageReceived w a self message).call = some
      (.prepareMode id mode false) := by
  unfold messageReceived at hr ⊢
  cases message with
  | prepareMode id' mode =>
    dsimp only at hr ⊢
    split at hr <;> cases hr
    exact ⟨rfl, mode, rfl⟩
  | commitMode id' mode =>
    dsimp only at hr
    split at hr <;> cases hr
  | abortMode | stateBroadcast | registerAccepted | registerRejected => cases hr

/-- One step of one party, or what SAM is about to read on a link becomes something else. -/
inductive FaultyInput (η ω : Type*) where
  | ours (input : Input η ω)
  | garble (link : Nat) (up : List ApplicationToSam)

/-- Only these links are garbled, and applications are started again with these handlers. -/
def FaultyInput.Within (D : Nat → Prop) (started : ApplicationId → η → Prop) :
    FaultyInput η ω → Prop
  | .ours (.restart a handler) => started a handler
  | .ours _ => True
  | .garble k _ => D k

/-- A vote on the wire and the vote SAM counts. -/
inductive Casts : ApplicationToSam → ProtocolEvent → Prop
  | ready (a : ApplicationId) (id : TransitionId) : Casts (.modeReady a id) (.ready a id)
  | rejected (a : ApplicationId) (id : TransitionId) (reason : String) :
    Casts (.modeRejected a id reason) (.rejected a id)
  | committed (a : ApplicationId) (id : TransitionId) (mode : SystemMode) :
    Casts (.modeCommitted a id mode) (.committed a id mode)

namespace SamService

variable {t : SamService} {op : Operation}

/-- A vote that is counted was cast. -/
theorem event_cast {e : ProtocolEvent} (h : t.event op = some e) (he : e.isRequest = false) :
    ∃ m conn now, op = .handleMessage m.application conn m now ∧ Casts m e := by
  cases e with
  | requested => cases he
  | ready a id =>
    obtain ⟨conn, tx, now, hop, -⟩ := event_ready h
    exact ⟨.modeReady a id, conn, now, hop, .ready a id⟩
  | rejected a id =>
    obtain ⟨reason, conn, tx, now, hop, -⟩ := event_rejected h
    exact ⟨.modeRejected a id reason, conn, now, hop, .rejected a id reason⟩
  | committed a id mode =>
    obtain ⟨conn, tx, now, hop, -⟩ := event_committed h
    exact ⟨.modeCommitted a id mode, conn, now, hop, .committed a id mode⟩

end SamService

namespace System

/-- What SAM is about to read on a link becomes `up`, once an application has registered there. -/
def garble (s : System η) (k : Nat) (up : List ApplicationToSam) : System η :=
  match (s.links k).task with
  | .registered _ _ => s.setLink k { s.links k with up := up }
  | _ => s

/-- One step. -/
def faultyStep (handlers : ApplicationId → ModeHandler η ω) (s : System η) :
    FaultyInput η ω → System η
  | .ours input => step handlers s input
  | .garble k up => s.garble k up

/-- The state after a list of inputs. -/
abbrev faultyRun (handlers : ApplicationId → ModeHandler η ω) (s : System η)
    (inputs : List (FaultyInput η ω)) : System η := Machine.run (faultyStep handlers) s inputs

/-- All inputs of a run keep to these links and handlers. -/
abbrev RunWithin (handlers : ApplicationId → ModeHandler η ω) (D : Nat → Prop)
    (started : ApplicationId → η → Prop) (s : System η) (inputs : List (FaultyInput η ω)) : Prop :=
  Machine.Always (faultyStep handlers) (fun _ => FaultyInput.Within D started) s inputs

variable {handlers : ApplicationId → ModeHandler η ω} {timeout : Duration} {s s' : System η}
  {k : Nat} {link : Link} {ops : List Operation} {D : Nat → Prop} {a : ApplicationId}
  {started : ApplicationId → η → Prop}

variable (handlers) in
/-- **Everything a step can do.** -/
inductive FaultyMove (D : Nat → Prop) (s : System η) : System η → Prop where
  | ours (s' : System η) (hm : Move handlers s s') : FaultyMove D s s'
  | garble (k : Nat) (up : List ApplicationToSam) (b : ApplicationId) (conn : ConnectionId)
    (hk : D k)
      (ht : (s.links k).task = .registered b conn) :
      FaultyMove D s (s.setLink k { s.links k with up := up })

theorem faulty_move (s : System η) (input : FaultyInput η ω) (hin : input.Within D started) :
    FaultyMove handlers D s (faultyStep handlers s input) := by
  cases input with
  | ours input => exact .ours _ (step_move s input)
  | garble k up =>
    unfold faultyStep garble
    dsimp only
    split
    · rename_i b conn ht
      exact .garble k up b conn hin ht
    · exact .ours s .idle

/-- **Invariants of every run.** -/
theorem faulty_invariant {I : System η → Prop} (h0 : I s)
    (hstep : ∀ s s', I s → FaultyMove handlers D s s' → I s') {inputs : List (FaultyInput η ω)}
    (hin : RunWithin handlers D started s inputs) : I (faultyRun handlers s inputs) :=
  Machine.run_invariant (fun s input h hi => hstep s _ h (faulty_move s input hi)) h0 hin

/-- Without a link to garble this is a run of SAM and its applications. -/
theorem faultyRun_ours {inputs : List (FaultyInput η ω)}
    (hin : RunWithin handlers (fun _ => False) started s inputs) :
    ∃ moves, faultyRun handlers s inputs = run handlers s moves := by
  induction inputs generalizing s with
  | nil => exact ⟨[], rfl⟩
  | cons input inputs ih =>
    obtain ⟨hi, hin⟩ := hin
    obtain ⟨moves, hmoves⟩ := ih hin
    cases input with
    | ours input => exact ⟨input :: moves, hmoves⟩
    | garble k up => cases hi

/-! ## What does not depend on what SAM reads -/

theorem garble_links {P : Nat → Link → Prop} (up : List ApplicationToSam) (h : ∀ k, P k (s.links k))
    (hk : P k { s.links k with up := up }) (k' : Nat) :
    P k' ((s.setLink k { s.links k with up := up }).links k') :=
  update_links (P := P) (fun k' _ => h k') hk k'

theorem driven_faulty (timeout : Duration) (initial : ApplicationId → η)
    {inputs : List (FaultyInput η ω)}
    (hin : RunWithin handlers D started (System.new timeout initial) inputs) :
    Driven timeout (faultyRun handlers (System.new timeout initial) inputs) := by
  refine faulty_invariant (driven_new timeout initial) (fun s s' h hm => ?_) hin
  cases hm with
  | ours _ hm => exact driven_move h hm
  | garble k up =>
    refine ⟨h.service, h.opening, ?_⟩
    exact garble_links up (P := fun k link => link.task = .awaiting →
      s.service.channels ⟨k⟩ = Channel.new OUTBOUND_QUEUE_DEPTH) h.awaiting (h.awaiting k)

theorem received_faulty (timeout : Duration) (initial : ApplicationId → η)
    {inputs : List (FaultyInput η ω)}
    (hin : RunWithin handlers D started (System.new timeout initial) inputs) :
    Received (faultyRun handlers (System.new timeout initial) inputs) := by
  refine faulty_invariant (received_new timeout initial) (fun s s' h hm => ?_) hin
  cases hm with
  | ours _ hm => exact received_move h hm
  | garble k up => exact garble_links up (P := ReceivedOn s.service) h (h k)

/-! ## A link serves its owner -/

/-- Only its owner registers on a link, and it serves whoever has. -/
structure SignedLink (link : Link) : Prop where
  register : link.task = .awaiting → ∀ b version, .register b version ∈ link.up →
    link.owner = some b
  served : ∀ b conn, link.task.seat? = some (b, conn) → link.owner = some b

/-- Every link serves its owner. -/
def Signed (s : System η) : Prop := ∀ k, SignedLink (s.links k)

theorem signed_new (timeout : Duration) (initial : ApplicationId → η) :
    Signed (System.new timeout initial) := by
  intro k
  exact ⟨by rintro - _ _ ⟨⟩, by rintro _ _ ⟨⟩⟩

theorem ServerMove.signed (h : SignedLink (s.links k)) (hm : ServerMove s k ops link) :
    SignedLink link := by
  cases hm with
  | refuse | unregistered | close | hangUp => exact ⟨by rintro ⟨⟩, by rintro _ _ ⟨⟩⟩
  | register b up now id ht hup =>
    refine ⟨by rintro ⟨⟩, ?_⟩
    rintro _ _ ⟨⟩
    exact h.register ht b PROTOCOL_VERSION (by rw [hup]; exact List.mem_cons_self ..)
  | handle b conn message up now task ht hup htask =>
    have hserved := h.served b conn (by rw [ht]; rfl)
    rcases htask with rfl | rfl
    all_goals
      refine ⟨by rintro ⟨⟩, ?_⟩
      rintro _ _ ⟨⟩
      exact hserved
  | send => exact ⟨h.register, h.served⟩
  | unsent b conn ht =>
    refine ⟨by rintro ⟨⟩, ?_⟩
    rintro _ _ ⟨⟩
    exact h.served b conn (by rw [ht]; rfl)

/-- A client registers under its own name, on a link it opens. -/
theorem ClientMove.signed {client : Client η} {call : Option HandlerCall}
    {answer : Option ApplicationToSam} (hm : ClientMove handlers s a k link client call answer) :
    link.task = (s.links k).task ∧ (∀ b, (s.links k).owner = some b → link.owner = some b) ∧
      ∀ b version, .register b version ∈ link.up →
        .register b version ∈ (s.links k).up ∨ link.owner = some b := by
  cases hm with
  | connect hs ho =>
    refine ⟨rfl, fun b hb => ?_, fun b version hmem => ?_⟩
    · rw [ho] at hb
      cases hb
    · rcases List.mem_append.mp hmem with hmem | hmem
      · exact .inl hmem
      · cases List.mem_singleton.mp hmem
        exact .inr rfl
  | welcome | unwelcome | observe | leave =>
    exact ⟨rfl, fun _ hb => hb, fun _ _ hmem => .inl hmem⟩
  | answer world message down answer hs hd hr =>
    refine ⟨rfl, fun _ hb => hb, fun b version hmem => .inl ?_⟩
    rcases List.mem_append.mp hmem with hmem | hmem
    · exact hmem
    · cases List.mem_singleton.mp hmem
      rcases ModeHandler.answer_cases hr with ⟨_, _, h, -⟩ | ⟨_, _, h⟩ | ⟨_, _, h, -⟩ <;> cases h
  | heartbeat =>
    refine ⟨rfl, fun _ hb => hb, fun b version hmem => .inl ?_⟩
    rcases List.mem_append.mp hmem with hmem | hmem
    · exact hmem
    · cases List.mem_singleton.mp hmem

theorem signed_move (h : Signed s) (hm : FaultyMove handlers D s s') : Signed s' := by
  cases hm with
  | garble k up b conn hk ht =>
    refine garble_links up (P := fun _ => SignedLink) h ⟨fun hawait => ?_, (h k).served⟩
    rw [ht] at hawait
    cases hawait
  | ours _ hm =>
    cases hm with
    | idle | call | quit => exact h
    | server k ops link hm =>
      exact update_links (P := fun _ => SignedLink) (fun k' _ => h k') (hm.signed (h k))
    | client a k link client call answer hm =>
      obtain ⟨htask, howner, hregister⟩ := hm.signed
      refine update_links (P := fun _ => SignedLink) (fun k' _ => h k')
        ⟨fun hawait b version hmem => ?_, fun b conn hseat => ?_⟩
      · rw [htask] at hawait
        rcases hregister b version hmem with hold | hnew
        · exact howner b ((h k).register hawait b version hold)
        · exact hnew
      · rw [htask] at hseat
        exact howner b ((h k).served b conn hseat)

/-! ## Votes that are backed -/

/-- The sender of a rejection has refused. -/
def RefusedBy (s : System η) : ApplicationToSam → Prop
  | .modeRejected a id reason =>
    ∃ mode, s.Ran a (.prepareMode id mode false) (some (.modeRejected a id reason))
  | _ => True

theorem RefusedBy.mono {m : ApplicationToSam} (h : s.RefusedBy m) (hc : s.calls ⊆ s'.calls) :
    s'.RefusedBy m := by
  cases m with
  | modeRejected a id reason =>
    obtain ⟨mode, hr⟩ := h
    exact ⟨mode, hr.mono hc⟩
  | register | heartbeat | modeReady | modeCommitted => trivial

/-- What a client newly writes is backed. -/
theorem ClientMove.refused {a : ApplicationId} {client : Client η} {call : Option HandlerCall}
    {answer : Option ApplicationToSam} (hm : ClientMove handlers s a k link client call answer) :
    ∀ m ∈ link.up, m ∈ (s.links k).up ∨ (s.recordCall a k call answer).RefusedBy m := by
  intro m hmem
  cases hm with
  | welcome | unwelcome | observe | leave => exact .inl hmem
  | connect | heartbeat =>
    rcases List.mem_append.mp hmem with hmem | hmem
    · exact .inl hmem
    · rw [List.mem_singleton.mp hmem]
      exact .inr trivial
  | answer world message down answer hs hd hr =>
    rcases List.mem_append.mp hmem with hmem | hmem
    · exact .inl hmem
    · rw [List.mem_singleton.mp hmem]
      right
      cases answer with
      | modeRejected b id reason =>
        obtain ⟨rfl, mode, hcall⟩ := ModeHandler.rejected_call hr
        exact ⟨mode, k, by rw [hcall]; simp⟩
      | register | heartbeat | modeReady | modeCommitted => trivial

/-- The sender has run the callback that this answers. -/
def Vouched (s : System η) (m : ApplicationToSam) : Prop := s.Backed m ∧ s.RefusedBy m

/-- None of the links of `a` is garbled. -/
def Spared (D : Nat → Prop) (s : System η) (a : ApplicationId) : Prop :=
  ∀ k, D k → (s.links k).owner ≠ some a

/-- The votes of whoever is spared are backed by callbacks, whether in flight or handed over to SAM,
    and callbacks by orders read. -/
structure AccountedFor (D : Nat → Prop) (s : System η) : Prop where
  up : ∀ k, ¬ D k → ∀ m ∈ (s.links k).up, s.Vouched m
  handed : ∀ a conn m now, .handleMessage a conn m now ∈ s.operations → Spared D s a → s.Vouched m
  read : ∀ record ∈ s.calls, record.call.order ∈ (s.links record.link).read

theorem accountedFor_new (timeout : Duration) (initial : ApplicationId → η) :
    AccountedFor D (System.new timeout initial) where
  up _ _ _ hm := by cases hm
  handed _ _ _ _ h := by cases h
  read _ h := by cases h

theorem Vouched.mono {m : ApplicationToSam} (h : s.Vouched m) (hc : s.calls ⊆ s'.calls) :
    s'.Vouched m := ⟨h.1.mono hc, h.2.mono hc⟩

/-- Links keep their owners. -/
theorem Spared.before (h : Spared D s' a)
    (howner : ∀ k b, (s.links k).owner = some b → (s'.links k).owner = some b) : Spared D s a :=
  fun k hk ho => h k hk (howner k a ho)

/-- What a session task hands over was in flight on the link of its sender. -/
theorem ServerMove.handles (h : SignedLink (s.links k)) (hm : ServerMove s k ops link)
    {conn : ConnectionId} {m : ApplicationToSam} {now : Instant}
    (hop : .handleMessage a conn m now ∈ ops) : m ∈ (s.links k).up ∧
      (s.links k).owner = some a := by
  refine ⟨hm.handled hop, ?_⟩
  cases hm with
  | handle b conn' m' up now' task ht hup =>
    rw [List.mem_singleton] at hop
    cases hop
    exact h.served a conn (by rw [ht]; rfl)
  | refuse | register | unregistered | send | unsent | close | hangUp => simp at hop

/-- SAM performs operations: what is handed over to it of whoever is spared was backed before. -/
theorem AccountedFor.perform (h : AccountedFor D s)
    (hops : ∀ a conn m now, .handleMessage a conn m now ∈ ops → Spared D s a → s.Vouched m) :
    AccountedFor D (s.perform ops) where
  up := h.up
  handed a conn m now hmem hspared := by
    rw [perform_operations, List.mem_append] at hmem
    exact hmem.elim (fun hold => h.handed a conn m now hold hspared)
      fun hnew => hops a conn m now hnew hspared
  read := h.read

/-- A link changes, perhaps with a callback run: its owner and what has been read on it stay, and
    what is newly in flight is backed. -/
theorem AccountedFor.setLink (h : AccountedFor D s)
    (hlinks : s'.links = Function.update s.links k link) (hops : s'.operations = s.operations)
    (hcalls : s.calls ⊆ s'.calls)
    (hup : ¬ D k → ∀ m ∈ link.up, m ∈ (s.links k).up ∨ s'.Vouched m)
    (howner : ∀ b, (s.links k).owner = some b → link.owner = some b)
    (hread : (s.links k).read ⊆ link.read)
    (hnew : ∀ record ∈ s'.calls, record ∈ s.calls ∨ record.link = k ∧
      record.call.order ∈ link.read) :
    AccountedFor D s' := by
  have howners : ∀ k' b, (s.links k').owner = some b → (s'.links k').owner = some b := by
    intro k' b
    rw [hlinks]
    exact update_links (P := fun k' link => (s.links k').owner = some b → link.owner = some b)
      (fun _ _ => id) (howner b) k'
  have hreads : ∀ k', (s.links k').read ⊆ (s'.links k').read := by
    rw [hlinks]
    exact update_links (P := fun k' link => (s.links k').read ⊆ link.read)
      (fun _ _ => List.Subset.refl _) hread
  refine ⟨?_, fun a conn m now hmem hspared => ?_, fun record hrec => ?_⟩
  · rw [hlinks]
    refine update_links (P := fun k' link => ¬ D k' → ∀ m ∈ link.up, s'.Vouched m)
      (fun k' _ hk m hmem => (h.up k' hk m hmem).mono hcalls) fun hk m hmem => ?_
    rcases hup hk m hmem with hold | hnew
    · exact (h.up k hk m hold).mono hcalls
    · exact hnew
  · rw [hops] at hmem
    exact (h.handed a conn m now hmem (hspared.before howners)).mono hcalls
  · rcases hnew record hrec with hold | ⟨hk, horder⟩
    · exact hreads record.link (h.read record hold)
    · rw [hk, hlinks, Function.update_self]
      exact horder

theorem accountedFor_move (hsigned : Signed s) (h : AccountedFor D s)
    (hm : FaultyMove handlers D s s') : AccountedFor D s' := by
  cases hm with
  | garble k up b conn hk =>
    exact h.setLink rfl rfl (List.Subset.refl _) (fun hn => absurd hk hn) (fun _ => id)
      (List.Subset.refl _) fun _ => .inl
  | ours _ hm =>
    cases hm with
    | idle => exact h
    | call op hop =>
      refine h.perform fun a conn m now hmem => ?_
      rcases hop with ⟨_, rfl⟩ | ⟨_, rfl⟩ <;> simp at hmem
    | server k ops link hm =>
      have hp : AccountedFor D (s.perform ops) := by
        refine h.perform fun a conn m now hop hspared => ?_
        obtain ⟨hup, howner⟩ := hm.handles (hsigned k) hop
        exact h.up k (fun hk => hspared k hk howner) m hup
      have hframe := hm.frame
      refine hp.setLink rfl rfl (List.Subset.refl _) (fun _ m hmem => .inl (hframe.up hmem)) ?_ ?_
        fun _ => .inl
      · intro b ho
        rw [hframe.owner]
        exact ho
      · rw [hframe.read]
        exact List.Subset.refl _
    | client a k link client call answer hm =>
      obtain ⟨hup, hread, hcall⟩ := hm.spec
      refine h.setLink rfl rfl (List.subset_append_left _ _) ?_ hm.signed.2.1 hread ?_
      · intro _ m hmem
        by_cases hold : m ∈ (s.links k).up
        · exact .inl hold
        · exact .inr ⟨(hup m hmem).resolve_left hold, (hm.refused m hmem).resolve_left hold⟩
      · intro record hrec
        rcases List.mem_append.mp hrec with hrec | hrec
        · exact .inl hrec
        · obtain ⟨c, hc, rfl⟩ := List.mem_map.mp hrec
          exact .inr ⟨rfl, hcall c (Option.mem_toList.mp hc)⟩
    | quit a handler => exact ⟨h.up, h.handed, h.read⟩

theorem accountedFor_faulty (timeout : Duration) (initial : ApplicationId → η)
    {inputs : List (FaultyInput η ω)}
    (hin : RunWithin handlers D started (System.new timeout initial) inputs) :
    AccountedFor D (faultyRun handlers (System.new timeout initial) inputs) :=
  (faulty_invariant (I := fun s => Signed s ∧ AccountedFor D s)
    ⟨signed_new timeout initial, accountedFor_new timeout initial⟩
    (fun _ _ h hm => ⟨signed_move h.1 hm, accountedFor_move h.1 h.2 hm⟩) hin).2

/-- Without a link to garble everybody is spared. -/
theorem accountedFor_run (timeout : Duration) (initial : ApplicationId → η)
    (inputs : List (Input η ω)) :
    AccountedFor (fun _ => False) (run handlers (System.new timeout initial) inputs) :=
  (move_invariant (I := fun s => Signed s ∧ AccountedFor (fun _ => False) s)
    ⟨signed_new timeout initial, accountedFor_new timeout initial⟩
    (fun _ _ h hm => ⟨signed_move (D := fun _ => False) h.1 (.ours _ hm),
      accountedFor_move h.1 h.2 (.ours _ hm)⟩) inputs).2

/-- What SAM counts was handed over to it, and is backed if its voter is spared. -/
theorem AccountedFor.counts (h : AccountedFor D s) {pre post : List Operation} {op : Operation}
    {e : ProtocolEvent} (hops : s.operations = pre ++ op :: post)
    (he : ((service₀ timeout).run pre).event op = some e) (hvote : e.isRequest = false) :
    ∃ m conn now, op = .handleMessage m.application conn m now ∧ Casts m e ∧
      (Spared D s m.application → s.Vouched m) := by
  obtain ⟨m, conn, now, rfl, hcast⟩ := SamService.event_cast he hvote
  exact ⟨m, conn, now, rfl, hcast, h.handed _ conn m now (by rw [hops]; simp)⟩

theorem AccountedFor.counted (h : AccountedFor D s) {e : ProtocolEvent} (he : e ∈ s.events timeout)
    (hvote : e.isRequest = false) : ∃ m, Casts m e ∧ (Spared D s m.application → s.Vouched m) := by
  obtain ⟨pre, op, post, hops, hlog⟩ := Machine.mem_log.mp he
  obtain ⟨m, -, -, -, hcast, hvouched⟩ := h.counts hops (Option.mem_toList.mp hlog) hvote
  exact ⟨m, hcast, hvouched⟩

/-! ## Atomic commit -/

/-- A callback was run in answer to an order SAM has given. -/
theorem AccountedFor.order {H : List Transition} {log : List ProtocolEvent} (ha : AccountedFor D s)
    (hd : Driven timeout s) (hr : Received s) (hR : Refines H s.service log) {call : HandlerCall}
    {answer : Option ApplicationToSam} (hran : s.Ran a call answer) :
    ∀ o, call.order.order? = some o → o ∈ orders H := by
  intro o ho
  obtain ⟨k, hk⟩ := hran
  have hreply : ¬ call.order.IsReply := by cases call <;> exact id
  rw [← hR.orders]
  exact List.mem_filterMap.mpr ⟨_, order_broadcast hd hr (ha.read _ hk) hreply, ho⟩

section Requested

variable {id : TransitionId} {m : SystemMode} {P : Finset ApplicationId}

/-- Whoever is told to prepare or to commit is told the mode requested. -/
theorem AccountedFor.target (ha : AccountedFor D s) (hd : Driven timeout s) (hr : Received s)
    (hcount : (s.events timeout).countP Event.isRequest < 2 ^ 64)
    (hP : .requested id m P ∈ s.events timeout) {mode : SystemMode} {call : HandlerCall}
    {answer : Option ApplicationToSam} (hran : s.Ran a call answer)
    (hcall : call.order = .prepareMode id mode ∨ call.order = .commitMode id mode) : mode = m := by
  obtain ⟨-, H, hR⟩ := hd.refines
  have hlog : s.events timeout = TwoPhase.events H := hR.events
  rw [hlog] at hP
  refine order_target (hR.ids_nodup hcount) hP ?_
  rcases hcall with hcall | hcall
  · exact .inl (ha.order hd hr hR hran (.prepare id mode) (by rw [hcall]; rfl))
  · exact .inr (ha.order hd hr hR hran (.commit id mode) (by rw [hcall]; rfl))

/-- **A rejection is the answer of a participant.**  It is counted with the reason it was given, and
    of whoever is spared it is the answer to a `prepare_mode` that failed. -/
theorem AccountedFor.rejection (ha : AccountedFor D s) (hd : Driven timeout s) (hr : Received s)
    (hcount : (s.events timeout).countP Event.isRequest < 2 ^ 64)
    (hP : .requested id m P ∈ s.events timeout) {pre post : List Operation} {op : Operation}
    {v : ApplicationId} (hops : s.operations = pre ++ op :: post)
    (hv : ((service₀ timeout).run pre).event op = some (.rejected v id)) :
    v ∈ P ∧ ∃ reason conn now, op = .handleMessage v conn (.modeRejected v id reason) now ∧
      (Spared D s v → s.Ran v (.prepareMode id m false) (some (.modeRejected v id reason))) := by
  obtain ⟨_, conn, now, hop, hcast, hvouched⟩ := ha.counts hops hv rfl
  have hmem : .rejected v id ∈ s.events timeout :=
    Machine.mem_log.mpr ⟨pre, op, post, hops, Option.mem_toList.mpr hv⟩
  cases hcast with
  | rejected _ _ reason =>
    refine ⟨?_, reason, conn, now, hop, fun hspared => ?_⟩
    · obtain ⟨-, H, hR⟩ := hd.refines
      have hlog : s.events timeout = TwoPhase.events H := hR.events
      rw [hlog] at hP hmem
      exact rejected_participant (hR.ids_nodup hcount) hP hmem
    · obtain ⟨mode, hran⟩ := (hvouched hspared).2
      obtain rfl := ha.target hd hr hcount hP hran (.inl rfl)
      exact hran

end Requested

/-- The transition `id`, requested of `P` with target `m`, is atomic.  Whatever SAM has counted of
    an application that is `spared`, readiness, rejection or confirmation, is the answer of a
    callback of this application; nobody commits the transition unless SAM has counted all
    participants as ready, or once SAM has aborted it; and it completes only when all have
    confirmed. -/
structure AtomicAmong (timeout : Duration) (spared : ApplicationId → Prop)
    (operations : List Operation)
    (calls : List CallRecord) (id : TransitionId) (m : SystemMode) (P : Finset ApplicationId) :
    Prop where
  ready : ∀ p, .ready p id ∈ (service₀ timeout).eventLog operations → spared p →
    ∃ k, ⟨p, k, .prepareMode id m true, some (.modeReady p id)⟩ ∈ calls
  rejected : ∀ p, .rejected p id ∈ (service₀ timeout).eventLog operations → p ∈ P ∧ (spared p →
    ∃ k reason, ⟨p, k, .prepareMode id m false, some (.modeRejected p id reason)⟩ ∈ calls)
  confirmed : ∀ p m', .committed p id m' ∈ (service₀ timeout).eventLog operations → spared p →
    m' = m ∧ ∃ k, ⟨p, k, .commitMode id m true, some (.modeCommitted p id m)⟩ ∈ calls
  committed : ∀ a k m' ok answer, ⟨a, k, .commitMode id m' ok, answer⟩ ∈ calls →
    m' = m ∧ ∀ p ∈ P, .ready p id ∈ (service₀ timeout).eventLog operations
  aborted : ∀ p, .rejected p id ∈ (service₀ timeout).eventLog operations →
    ∀ a k m' ok answer, ⟨a, k, .commitMode id m' ok, answer⟩ ∉ calls
  completed : ∀ pre op post m', operations = pre ++ op :: post →
    Completes ((service₀ timeout).run pre) op id m' →
    m' = m ∧ ∀ p ∈ P, .committed p id m ∈ (service₀ timeout).eventLog operations

theorem AtomicAmong.imp {spared spared' : ApplicationId → Prop} {operations : List Operation}
    {calls : List CallRecord} {id : TransitionId} {m : SystemMode} {P : Finset ApplicationId}
    (h : AtomicAmong timeout spared operations calls id m P) (hs : ∀ p, spared' p → spared p) :
    AtomicAmong timeout spared' operations calls id m P where
  ready p hp hs' := h.ready p hp (hs p hs')
  rejected p hp := (h.rejected p hp).imp_right fun hr hs' => hr (hs p hs')
  confirmed p m' hp hs' := h.confirmed p m' hp (hs p hs')
  committed := h.committed
  aborted := h.aborted
  completed := h.completed

/-- Whatever SAM reads on the links in `D`, atomic commit holds among all others. -/
theorem atomic_faulty (timeout : Duration) (initial : ApplicationId → η)
    {inputs : List (FaultyInput η ω)}
    (hin : RunWithin handlers D started (System.new timeout initial) inputs)
    {s : System η} (hs : faultyRun handlers (System.new timeout initial) inputs = s)
    (hcount : (s.events timeout).countP Event.isRequest < 2 ^ 64) {id : TransitionId}
    {m : SystemMode} {P : Finset ApplicationId} (hP : .requested id m P ∈ s.events timeout) :
    AtomicAmong timeout (Spared D s) s.operations s.calls id m P := by
  have hd : Driven timeout s := hs ▸ driven_faulty timeout initial hin
  have hr : Received s := hs ▸ received_faulty timeout initial hin
  have ha : AccountedFor D s := hs ▸ accountedFor_faulty timeout initial hin
  obtain ⟨-, H, hR⟩ := hd.refines
  have hids := hR.ids_nodup hcount
  have hlog : s.events timeout = TwoPhase.events H := hR.events
  have hP' := hP
  rw [hlog] at hP'
  have hcommits : ∀ p k mode ok answer, ⟨p, k, .commitMode id mode ok, answer⟩ ∈ s.calls →
      .commit id mode ∈ orders H :=
    fun p k mode ok answer hran => ha.order hd hr hR ⟨k, hran⟩ (.commit id mode) rfl
  constructor
  case ready =>
    intro p hp hspared
    obtain ⟨_, ⟨⟩, hvouched⟩ := ha.counted hp rfl
    obtain ⟨mode, hran⟩ := (hvouched hspared).1
    obtain rfl := ha.target hd hr hcount hP hran (.inl rfl)
    exact hran
  case rejected =>
    intro p hp
    obtain ⟨pre, op, post, hops, hlog⟩ := Machine.mem_log.mp hp
    obtain ⟨hmem, reason, -, -, -, hran⟩ :=
      ha.rejection hd hr hcount hP hops (Option.mem_toList.mp hlog)
    refine ⟨hmem, fun hspared => ?_⟩
    obtain ⟨k, hrecord⟩ := hran hspared
    exact ⟨k, reason, hrecord⟩
  case confirmed =>
    intro p m' hp hspared
    obtain ⟨_, ⟨⟩, hvouched⟩ := ha.counted hp rfl
    have hran : s.Ran p (.commitMode id m' true) (some (.modeCommitted p id m')) :=
      (hvouched hspared).1
    obtain rfl := ha.target hd hr hcount hP hran (.inr rfl)
    exact ⟨rfl, hran⟩
  case committed =>
    intro a k m' ok answer hran
    have hcommit := hcommits a k m' ok answer hran
    have hready : ∀ p ∈ P, .ready p id ∈ s.events timeout := by
      rw [hlog]
      exact commit_unanimous hids hP' hcommit
    exact ⟨order_target hids hP' (.inr hcommit), hready⟩
  case aborted =>
    intro p hp a k m' ok answer hran
    replace hp : .rejected p id ∈ s.events timeout := hp
    rw [hlog] at hp
    exact abort_excludes_commit hids hp (hcommits a k m' ok answer hran)
  case completed =>
    intro pre op post m' hops hc
    obtain ⟨P', hreq, hall⟩ := completes_confirmed hops hc
    rw [hlog] at hreq
    obtain ⟨rfl, rfl⟩ := request_unique hids hP' hreq
    exact ⟨rfl, hall⟩

/-! ## A handler with an invariant -/

/-- What no callback breaks holds of the handler of `a`, and what comes of no message it never runs,
    if it is only ever started like that. -/
theorem never_faulty (timeout : Duration) {initial : ApplicationId → η} {I : η → Prop}
    (hk : (handlers a).Keeps I) {call : HandlerCall}
    (hcall : ∀ w self message, I self →
      ((handlers a).messageReceived w a self message).call ≠ some call)
    (hinitial : I (initial a)) (hstarted : ∀ self, started a self → I self)
    {inputs : List (FaultyInput η ω)}
    (hin : RunWithin handlers D started (System.new timeout initial) inputs) :
    call ∉ (faultyRun handlers (System.new timeout initial) inputs).callbacks a := by
  refine (Machine.run_invariant
    (I := fun s : System η => I (s.clients a).handler ∧ call ∉ s.callbacks a)
    (fun s input h hi => ?_) ⟨hinitial, List.not_mem_nil⟩ hin).2
  cases input with
  | ours input =>
    have hacts := handler_step handlers s input a
    refine ⟨hacts.handler hk (fun self hself => ?_) h.1, hacts.never hcall h.1 h.2⟩
    unfold Input.restarted? at hself
    split at hself
    · rename_i b handler
      split at hself
      · rename_i hb
        cases hself
        exact hstarted self (hb ▸ hi)
      · cases hself
    · cases hself
  | garble k up =>
    unfold faultyStep garble
    dsimp only
    split <;> exact h

end System

end Sam
