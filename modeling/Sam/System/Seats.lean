import Sam.Service.Authority
import Sam.Service.Status
import Sam.System.Wiring

/-!
# Which link belongs to whom

* `Owned` — a link carries messages of the application that opened it only, which alone is in
  session on it and alone is served there (`owned_run`).
* `Seated` — every entry of the client table belongs to the session task of its link
  (`seated_run`).
* `Distinct` — with fewer than `2 ^ 64` registrations no two session tasks have the same
  connection id (`distinct_run`), so that a record is only changed by messages of its own link
  (`ServerMove.record_elsewhere`).
-/

namespace Sam

/-- The application and connection a session task serves, until it has returned. -/
def ServerTask.seat? : ServerTask → Option (ApplicationId × ConnectionId)
  | .registered a conn | .closing a conn => some (a, conn)
  | .awaiting | .ended => none

/-- The link a client is in session on. -/
def ClientSession.link? : ClientSession → Option Nat
  | .registering k | .running k => some k
  | .idle | .stopped => none

namespace System

variable {η ω : Type*} {handlers : ApplicationId → ModeHandler η ω} {timeout : Duration}
  {s s' : System η} {k : Nat} {link : Link} {ops : List Operation} {a : ApplicationId}

/-! ## Owners -/

/-- Link `k` is used by its owner only. -/
structure OwnedLink (clients : ApplicationId → Client η) (k : Nat) (link : Link) : Prop where
  session : ∀ a, (clients a).session.link? = some k → link.owner = some a
  served : ∀ a conn, link.task.seat? = some (a, conn) → link.owner = some a
  origin : ∀ m ∈ link.written, link.owner = some m.application
  unread : link.owner = none → link.read = []

/-- Every link is used by its owner only. -/
def Owned (s : System η) : Prop := ∀ k, OwnedLink s.clients k (s.links k)

theorem owned_new (timeout : Duration) (initial : ApplicationId → η) :
    Owned (System.new timeout initial) := by
  intro k
  constructor
  · intro a h
    cases h
  · intro a conn h
    cases h
  · intro m h
    cases h
  · intro _
    rfl

/-- Nothing is written on a link before it is opened. -/
theorem Owned.unwritten (ho : Owned s) (hn : (s.links k).owner = none) :
    (s.links k).written = [] := by
  refine List.eq_nil_iff_forall_not_mem.mpr fun m hm => ?_
  have hown := (ho k).origin m hm
  rw [hn] at hown
  cases hown

/-- What a client's move has to do with owners. -/
theorem ClientMove.owner {client : Client η} {call : Option HandlerCall}
    {answer : Option ApplicationToSam} (ho : Owned s)
    (hm : ClientMove handlers s a k link client call answer) :
    ((s.links k).owner = none ∨ (s.links k).owner = some a) ∧ link.owner = some a ∧
      (client.session.link? = some k ∨ client.session.link? = none) ∧
      link.task = (s.links k).task ∧
      ∀ m ∈ link.written, m ∈ (s.links k).written ∨ m.application = a := by
  have hown := (ho k).session a
  -- a message written joins the others
  have hwrite : ∀ m x : ApplicationToSam, m ∈ ((s.links k).write x).written →
      m ∈ (s.links k).written ∨ m = x := by
    intro m x hm
    unfold Link.written Link.write at hm
    rw [← List.append_assoc, List.mem_append, List.mem_singleton] at hm
    exact hm
  cases hm with
  | connect hs hn =>
    refine ⟨.inl hn, rfl, .inl rfl, rfl, fun m hm => ?_⟩
    exact (hwrite m _ hm).imp_right fun h => by rw [h]; rfl
  | welcome _ _ _ _ hs =>
    rw [hs] at hown
    exact ⟨.inr (hown rfl), hown rfl, .inl rfl, rfl, fun m hm => .inl hm⟩
  | unwelcome _ _ _ session hs _ hn =>
    rw [hs] at hown
    refine ⟨.inr (hown rfl), hown rfl, .inr ?_, rfl, fun m hm => .inl hm⟩
    rcases hn with rfl | rfl <;> rfl
  | observe _ _ _ hs =>
    rw [hs] at hown
    exact ⟨.inr (hown rfl), hown rfl, .inl rfl, rfl, fun m hm => .inl hm⟩
  | answer _ _ _ answer hs _ hr =>
    rw [hs] at hown
    refine ⟨.inr (hown rfl), hown rfl, .inl rfl, rfl, fun m hm => ?_⟩
    refine (hwrite m _ hm).imp_right fun h => ?_
    rw [h]
    rcases ModeHandler.answer_cases hr with ⟨id, mode, rfl, -⟩ | ⟨id, reason, rfl⟩ |
      ⟨id, mode, rfl, -⟩ <;> rfl
  | leave _ _ _ session hs _ hn =>
    rw [hs] at hown
    refine ⟨.inr (hown rfl), hown rfl, .inr ?_, rfl, fun m hm => .inl hm⟩
    rcases hn with rfl | rfl <;> rfl
  | heartbeat _ hs =>
    rw [hs] at hown
    refine ⟨.inr (hown rfl), hown rfl, .inl (by rw [hs]; rfl), rfl, fun m hm => ?_⟩
    exact (hwrite m _ hm).imp_right fun h => by rw [h]; rfl

/-- A session task serves the application whose `Register` it took, which owns the link. -/
theorem ServerMove.served (ho : Owned s) (hm : ServerMove s k ops link) {conn : ConnectionId}
    (h : link.task.seat? = some (a, conn)) : (s.links k).owner = some a := by
  cases hm with
  | register b up now id ht hup =>
    cases h
    refine (ho k).origin (.register a PROTOCOL_VERSION) ?_
    unfold Link.written
    rw [hup]
    simp
  | handle b c message up now task ht hup htask =>
    have hseat : (s.links k).task.seat? = some (b, c) := by rw [ht]; rfl
    rcases htask with rfl | rfl <;> cases h <;> exact (ho k).served _ _ hseat
  | send b c _ _ ht => exact (ho k).served _ _ h
  | unsent b c ht =>
    cases h
    exact (ho k).served a conn (by rw [ht]; rfl)
  | refuse | unregistered | close | hangUp => cases h

/-- A link stays its owner's when a client changes that is not in session on it. -/
theorem OwnedLink.update {clients : ApplicationId → Client η} (h : OwnedLink clients k link)
    {client : Client η} (hs : client.session.link? ≠ some k) :
    OwnedLink (Function.update clients a client) k link where
  session := by
    intro b hb
    by_cases hba : b = a
    · rw [hba, Function.update_self] at hb
      exact absurd hb hs
    · rw [Function.update_of_ne hba] at hb
      exact h.session b hb
  served := h.served
  origin := h.origin
  unread := h.unread

/-- The link a client moves on becomes or stays its own. -/
theorem ClientMove.owned {client : Client η} {call : Option HandlerCall}
    {answer : Option ApplicationToSam} (ho : Owned s)
    (hm : ClientMove handlers s a k link client call answer) :
    OwnedLink (Function.update s.clients a client) k link := by
  obtain ⟨hold, hnew, -, htask, hwritten⟩ := hm.owner ho
  -- whoever owned the link before is `a`
  have hsame : ∀ b, (s.links k).owner = some b → b = a := by
    intro b hb
    rcases hold with hold | hold
    · rw [hold] at hb
      cases hb
    · rw [hold] at hb
      exact (Option.some.inj hb).symm
  refine ⟨fun b hb => ?_, fun b conn hb => ?_, fun m hmem => ?_, fun hn => ?_⟩
  · by_cases hba : b = a
    · rw [hba]
      exact hnew
    · rw [Function.update_of_ne hba] at hb
      exact absurd (hsame b ((ho k).session b hb)) hba
  · rw [htask] at hb
    rw [hsame b ((ho k).served b conn hb)]
    exact hnew
  · rcases hwritten m hmem with hmem | hmem
    · rw [hsame _ ((ho k).origin m hmem)]
      exact hnew
    · rw [hnew, hmem]
  · rw [hnew] at hn
    cases hn

theorem owned_move (h : Owned s) (hm : Move handlers s s') : Owned s' := by
  cases hm with
  | idle => exact h
  | call op => exact h
  | server k ops link hm =>
    refine update_links (P := OwnedLink s.clients) (fun k' _ => h k') ?_
    obtain ⟨howner, hread, hwritten, -⟩ := hm.frame
    constructor
    · rw [howner]
      exact (h k).session
    · rw [howner]
      exact fun a conn hseat => hm.served h hseat
    · rw [howner, hwritten]
      exact (h k).origin
    · rw [howner, hread]
      exact (h k).unread
  | client a k link client call answer hm =>
    obtain ⟨-, -, hsession, -, -⟩ := hm.owner h
    refine update_links (P := OwnedLink (Function.update s.clients a client)) (fun k' hk => ?_)
      (hm.owned h)
    refine (h k').update fun hs => ?_
    rcases hsession with hsession | hsession <;> rw [hsession] at hs
    · exact hk (Option.some.inj hs).symm
    · cases hs
  | quit a handler =>
    intro k
    exact (h k).update (by simp [ClientSession.link?])

theorem owned_run (timeout : Duration) (initial : ApplicationId → η) (inputs : List (Input η ω)) :
    Owned (run handlers (System.new timeout initial) inputs) :=
  move_invariant (owned_new timeout initial) (fun _ _ => owned_move) inputs

/-! ## Seats -/

/-- **What a move of a session task has to do with the client table**: it takes a seat, leaves
    it, or registers nobody and stays where it is. -/
inductive SeatMove (s : System η) (k : Nat) : List Operation →
    Option (ApplicationId × ConnectionId) → Option (ApplicationId × ConnectionId) → Prop where
  | take (a : ApplicationId) (now : Instant) :
      SeatMove s k [.register a ⟨k⟩ now] none (some (a, ⟨s.service.inner.nextConnectionId⟩))
  | leave (a : ApplicationId) (conn : ConnectionId) (now : Instant) :
      SeatMove s k [.disconnect a conn now, .dropReceiver ⟨k⟩] (some (a, conn)) none
  | keep (ops : List Operation) (seat : Option (ApplicationId × ConnectionId))
      (hops : ∀ op ∈ ops, op.isRegister = false) : SeatMove s k ops seat seat

theorem ServerMove.seat (hd : Driven timeout s) (hm : ServerMove s k ops link) :
    SeatMove s k ops (s.links k).task.seat? link.task.seat? := by
  cases hm with
  | refuse _ _ _ ht => rw [ht]; exact .keep _ _ (by simp)
  | hangUp ht => rw [ht]; exact .keep _ _ (by simp)
  | register a up now id ht hup hid =>
    obtain ⟨hf, hroom⟩ := hd.opening_register ht a now
    have hok := (stream_register hf hroom).1
    rw [hid] at hok
    cases hok
    rw [ht]
    exact .take a now
  | unregistered a up now error ht hup he =>
    -- there is room for the reply on a fresh channel
    obtain ⟨hf, hroom⟩ := hd.opening_register ht a now
    rw [(stream_register hf hroom).1] at he
    cases he
  | handle a conn message up now task ht hup htask =>
    rw [ht]
    rcases htask with rfl | rfl <;> exact .keep _ _ (by simp [Operation.isRegister])
  | send a conn message queue ht => exact .keep _ _ (by simp [Operation.isRegister])
  | unsent a conn ht =>
    rw [ht]
    exact .keep _ _ (by simp [Operation.isRegister])
  | close a conn now ht =>
    have hseat : (s.links k).task.seat? = some (a, conn) := by
      rcases ht with ht | ht <;> rw [ht] <;> rfl
    rw [hseat]
    exact .leave a conn now

/-- Every entry of the client table is served by the session task of its link. -/
def Seated (s : System η) : Prop :=
  ∀ a conn tx, s.service.inner.clients.lookup a = some ⟨conn, tx⟩ →
    ∃ k, tx = ⟨k⟩ ∧ (s.links k).task.seat? = some (a, conn)

theorem seated_new (timeout : Duration) (initial : ApplicationId → η) :
    Seated (System.new timeout initial) := by
  intro a conn tx h
  cases h

theorem seated_server (hd : Driven timeout s) (h : Seated s) (hm : ServerMove s k ops link) :
    Seated ((s.perform ops).setLink k link) := by
  have hseat := hm.seat hd
  -- an entry that was there already, on another link or with the same seat
  have hold : ∀ b conn tx, s.service.inner.clients.lookup b = some ⟨conn, tx⟩ →
      ((s.links k).task.seat? = some (b, conn) → tx = ⟨k⟩ → link.task.seat? = some (b, conn)) →
      ∃ k', tx = ⟨k'⟩ ∧ (Function.update s.links k link k').task.seat? = some (b, conn) := by
    intro b conn tx hb hsame
    obtain ⟨k', htx, hk'⟩ := h b conn tx hb
    refine ⟨k', htx, ?_⟩
    by_cases hk : k' = k
    · subst hk
      rw [Function.update_self]
      exact hsame hk' htx
    · rw [Function.update_of_ne hk]
      exact hk'
  intro b conn tx hb
  generalize (s.links k).task.seat? = old at hseat hold
  generalize hnew : link.task.seat? = new at hseat hold
  cases hseat with
  | take a now =>
    rcases SamService.client_origin (SamService.step_effect s.service (.register a ⟨k⟩ now)) hb with
      hb | ⟨now', hop, -, hid⟩
    · exact hold b conn tx hb fun h => by cases h
    · cases hop
      cases hid
      refine ⟨k, rfl, ?_⟩
      rw [setLink_links, Function.update_self]
      exact hnew
  | leave a c now =>
    have hdrop : ∀ op ∈ [Operation.dropReceiver ⟨k⟩], op.isRegister = false := by
      simp [Operation.isRegister]
    have hleft : (s.service.step (.disconnect a c now)).inner.clients.lookup b = some ⟨conn, tx⟩ :=
      client_kept hdrop hb
    have hdisc : ∀ op ∈ [Operation.disconnect a c now], op.isRegister = false := by
      simp [Operation.isRegister]
    refine hold b conn tx (client_kept hdisc hleft) fun heq _ => ?_
    cases heq
    exact absurd hleft (disconnect_gone _ now)
  | keep _ _ hops => exact hold b conn tx (client_kept hops hb) fun h _ => h

theorem seated_move (hd : Driven timeout s) (h : Seated s) (hm : Move handlers s s') :
    Seated s' := by
  cases hm with
  | idle => exact h
  | call op hop =>
    intro a conn tx ha
    refine h a conn tx (client_kept (s := s.service) ?_ ha)
    rcases hop with ⟨_, rfl⟩ | ⟨_, rfl⟩ <;> simp [Operation.isRegister]
  | server k ops link hm => exact seated_server hd h hm
  | client a k link client call answer hm =>
    have htask : link.task = (s.links k).task := by cases hm <;> rfl
    intro b conn tx hb
    obtain ⟨k', htx, hk'⟩ := h b conn tx hb
    refine ⟨k', htx, ?_⟩
    rw [recordCall_links, setClient_links, setLink_links]
    by_cases hk : k' = k
    · subst hk
      rw [Function.update_self, htask]
      exact hk'
    · rw [Function.update_of_ne hk]
      exact hk'
  | quit a handler => exact h

theorem seated_run (timeout : Duration) (initial : ApplicationId → η) (inputs : List (Input η ω)) :
    Seated (run handlers (System.new timeout initial) inputs) :=
  move_invariant (seated_new timeout initial)
    (fun inputs _ => seated_move (driven_run timeout initial inputs)) inputs

/-- The seat of a client in the table is on its own link. -/
theorem Seated.seat (hs : Seated s) {conn : ConnectionId}
    (h : s.service.inner.clients.lookup a = some ⟨conn, ⟨k⟩⟩) :
    (s.links k).task.seat? = some (a, conn) := by
  obtain ⟨k', hk, hseat⟩ := hs a conn ⟨k⟩ h
  cases hk
  exact hseat

/-! ## Connection ids -/

/-- How many registrations there have been. -/
def registrations (s : System η) : Nat := s.operations.countP Operation.isRegister

theorem Driven.numbered (h : Driven timeout s) (hn : s.registrations < 2 ^ 64) :
    Numbered s.registrations s.service.inner := by
  rw [h.service]
  exact numbered_run timeout (fun _ => Channel.new OUTBOUND_QUEUE_DEPTH) s.operations hn

/-- No two session tasks have the same connection id. -/
structure Distinct (s : System η) : Prop where
  upTo : ∀ k a conn, (s.links k).task.seat? = some (a, conn) → conn.val.toNat ≤ s.registrations
  distinct : ∀ k k' a a' conn, (s.links k).task.seat? = some (a, conn) →
    (s.links k').task.seat? = some (a', conn) → k = k'

theorem distinct_new (timeout : Duration) (initial : ApplicationId → η) :
    Distinct (System.new timeout initial) := by
  constructor
  · intro k a conn h
    cases h
  · intro k k' a a' conn h
    cases h

theorem registrations_perform :
    (s.perform ops).registrations = s.registrations + ops.countP Operation.isRegister :=
  List.countP_append

theorem distinct_server (hd : Driven timeout s) (h : Distinct s) (hm : ServerMove s k ops link)
    (hn : (s.perform ops).registrations < 2 ^ 64) :
    Distinct ((s.perform ops).setLink k link) := by
  have hseat := hm.seat hd
  have hle : s.registrations ≤ (s.perform ops).registrations := by
    rw [registrations_perform]
    omega
  -- a seat after the move was there before, or has just got the next id
  have hseats : ∀ k' a conn, (Function.update s.links k link k').task.seat? = some (a, conn) →
      (s.links k').task.seat? = some (a, conn) ∨
        (k' = k ∧ conn.val.toNat = (s.perform ops).registrations ∧
          s.registrations < (s.perform ops).registrations) := by
    intro k' a conn ha
    by_cases hk : k' = k
    · subst hk
      rw [Function.update_self] at ha
      generalize (s.links k').task.seat? = old at hseat
      generalize link.task.seat? = new at hseat ha
      cases hseat with
      | take b now =>
        cases ha
        refine .inr ⟨rfl, ?_, ?_⟩
        · have hn' : s.registrations + 1 < 2 ^ 64 := by
            rw [registrations_perform] at hn
            exact hn
          rw [registrations_perform, (hd.numbered (by omega)).next]
          exact UInt64.toNat_ofNat_of_lt' hn'
        · rw [registrations_perform]
          exact Nat.lt_succ_self _
      | leave b c now => cases ha
      | keep => exact .inl ha
    · rw [Function.update_of_ne hk] at ha
      exact .inl ha
  constructor
  · intro k' a conn ha
    rcases hseats k' a conn ha with ha | ⟨-, hid, -⟩
    · exact (h.upTo k' a conn ha).trans hle
    · exact hid.le
  · intro k₁ k₂ a₁ a₂ conn h₁ h₂
    rcases hseats k₁ a₁ conn h₁ with h₁ | ⟨hk₁, hid₁, hlt₁⟩ <;>
      rcases hseats k₂ a₂ conn h₂ with h₂ | ⟨hk₂, hid₂, hlt₂⟩
    · exact h.distinct k₁ k₂ a₁ a₂ conn h₁ h₂
    · have := h.upTo k₁ a₁ conn h₁
      omega
    · have := h.upTo k₂ a₂ conn h₂
      omega
    · rw [hk₁, hk₂]

theorem registrations_mono (hm : Move handlers s s') : s.registrations ≤ s'.registrations := by
  cases hm with
  | idle | client | quit => exact le_refl _
  | call op =>
    rw [registrations_perform]
    omega
  | server k ops link =>
    show s.registrations ≤ (s.perform ops).registrations
    rw [registrations_perform]
    omega

theorem distinct_move (hd : Driven timeout s) (h : Distinct s) (hm : Move handlers s s')
    (hn : s'.registrations < 2 ^ 64) : Distinct s' := by
  have hmono := registrations_mono hm
  cases hm with
  | idle => exact h
  | call op hop => exact ⟨fun k a conn ha => (h.upTo k a conn ha).trans hmono, h.distinct⟩
  | server k ops link hm => exact distinct_server hd h hm hn
  | client a k link client call answer hm =>
    have htask : link.task = (s.links k).task := by cases hm <;> rfl
    have hseats : ∀ k', (Function.update s.links k link k').task.seat? =
        (s.links k').task.seat? := by
      refine update_links (P := fun k' link => link.task.seat? = (s.links k').task.seat?)
        (fun _ _ => rfl) ?_
      rw [htask]
    constructor
    · intro k' b conn hb
      exact h.upTo k' b conn ((hseats k').symm.trans hb)
    · intro k₁ k₂ a₁ a₂ conn h₁ h₂
      exact h.distinct k₁ k₂ a₁ a₂ conn ((hseats k₁).symm.trans h₁) ((hseats k₂).symm.trans h₂)
  | quit a handler => exact ⟨h.upTo, h.distinct⟩

theorem distinct_run (timeout : Duration) (initial : ApplicationId → η)
    (inputs : List (Input η ω)) :
    (run handlers (System.new timeout initial) inputs).registrations < 2 ^ 64 →
      Distinct (run handlers (System.new timeout initial) inputs) :=
  move_invariant (I := fun s => s.registrations < 2 ^ 64 → Distinct s)
    (fun _ => distinct_new timeout initial)
    (fun inputs _ h hm hn => distinct_move (driven_run timeout initial inputs)
      (h ((registrations_mono hm).trans_lt hn)) hm hn) inputs

/-! ## Records -/

/-- A session task moves: the records of clients on other links stay. -/
theorem ServerMove.record_elsewhere (hm : ServerMove s k ops link) (hd : Driven timeout s)
    (hk : Known s.service.inner) (hs : Seated s) (hdist : Distinct s) {k' : Nat} (hkk : k' ≠ k)
    {conn : ConnectionId} {mode : SystemMode}
    (hlook : (s.service.run ops).inner.clients.lookup a = some ⟨conn, ⟨k'⟩⟩)
    (h : s.service.inner.clients.lookup a = some ⟨conn, ⟨k'⟩⟩ →
      ∃ status, s.service.inner.applications.get a = some status ∧ status.currentMode = mode) :
    ∃ status, (s.service.run ops).inner.applications.get a = some status ∧
      status.currentMode = mode := by
  cases hm with
  | register b up now id ht hup hid =>
    change (s.service.step (.register b ⟨k⟩ now)).inner.clients.lookup a = _ at hlook
    rcases SamService.client_origin (SamService.step_effect s.service _) hlook with
      hold | ⟨now', hop, -, -⟩
    · refine record_kept_step hk (h hold) hold hlook ?_ fun _ _ hop => by cases hop
      -- had `a` registered, its entry would be on the other link
      rintro tx now' hop
      cases hop
      obtain ⟨hf, hroom⟩ := hd.opening_register ht a now
      rw [(stream_register hf hroom).2.2.2] at hlook
      cases hlook
      exact hkk rfl
    · cases hop
      exact absurd rfl hkk
  | unregistered b up now error ht hup he =>
    obtain ⟨hf, hroom⟩ := hd.opening_register ht b now
    rw [(stream_register hf hroom).1] at he
    cases he
  | handle b c message up now task ht hup htask =>
    have hold := client_kept (s := s.service) (by simp [Operation.isRegister]) hlook
    refine record_kept hk (h hold) (by simp [Operation.isRegister]) (fun x now' hx => ?_) hlook
    -- the other session task has another connection id
    cases List.mem_singleton.mp hx
    have hother : (s.links k).task.seat? = some (a, conn) := by rw [ht]; rfl
    exact absurd (hdist.distinct k' k a a conn (hs.seat hold) hother) hkk
  | refuse | send | unsent | close | hangUp =>
    have hold := client_kept (s := s.service) (by simp [Operation.isRegister]) hlook
    exact record_kept hk (h hold) (by simp [Operation.isRegister]) (by simp) hlook

end System

end Sam
