import Sam.System.Open

/-!
# Reconnecting again and again

An application connects, and closes the connection as soon as it has been registered; the session
task of the connection has not noticed yet.  Then it connects again.

* `reconnects` — the inputs that make it do so some number of times; `reconnected` — the state they
  lead to (`run_reconnects`).
* `roundAgain` — two session tasks of one application have the same connection id
  (`run_comingRound`).
-/

namespace Sam

open SamService

variable {η ω : Type*}

/-- A connection that `a` has closed and whose session task has not noticed yet. -/
def Link.abandoned (a : ApplicationId) (id : ConnectionId) : Link :=
  ⟨some a, [], [], .registered a id, [.register a PROTOCOL_VERSION], []⟩

namespace System

variable {handlers : ApplicationId → ModeHandler η ω} {s : System η} {a : ApplicationId} {k n : Nat}
  {now : Instant} {id : ConnectionId}

/-- `a` connects on link `k`, is registered and closes the connection. -/
def reconnect (a : ApplicationId) (k : Nat) (now : Instant) : List (Input η ω) :=
  [.connect a k, .serverReceive k now, .clientClose a]

/-- It does so `n` times, on the links from `k` on. -/
def reconnects (a : ApplicationId) (k : Nat) (now : Instant) : Nat → List (Input η ω)
  | 0 => []
  | n + 1 => reconnects a k now n ++ reconnect a (k + n) now

theorem reconnects_zero : (reconnects a k now 0 : List (Input η ω)) = [] := rfl

theorem reconnects_succ : (reconnects a k now (n + 1) : List (Input η ω)) =
    reconnects a k now n ++ reconnect a (k + n) now := rfl

-- nobody should try to write out the inputs of `2 ^ 64` reconnections
attribute [irreducible] reconnects

/-- The id of the connection on link `k + n`. -/
def laterId (s : System η) (n : Nat) : ConnectionId :=
  ⟨s.service.inner.nextConnectionId + UInt64.ofNat n⟩

/-- The client table after `n` reconnections. -/
def laterClients (s : System η) (a : ApplicationId) (k : Nat) :
    Nat → HashMap ApplicationId ClientConnection
  | 0 => s.service.inner.clients
  | n + 1 => s.service.inner.clients.insert a ⟨s.laterId n, ⟨k + n⟩⟩

/-- The channel of an abandoned connection: nobody has taken the reply. -/
def greeted (s : System η) : Channel :=
  { Channel.new OUTBOUND_QUEUE_DEPTH with queue := [s.service.inner.welcome] }

/-- The state after `n` reconnections. -/
def reconnected (s : System η) (a : ApplicationId) (k : Nat) (now : Instant) (n : Nat) : System η :=
  { s with
    service :=
      { s.service with
        inner :=
          { s.service.inner with
            clients := s.laterClients a k n
            nextConnectionId := (s.laterId n).val }
        channels := fun c =>
          if k ≤ c.channel ∧ c.channel < k + n then s.greeted else s.service.channels c }
    links := fun j => if k ≤ j ∧ j < k + n then .abandoned a (s.laterId (j - k)) else s.links j
    operations := s.operations ++ (List.range n).map fun i => .register a ⟨k + i⟩ now }

/-- `a` is out of session and has just been registered; nobody has used the links from `k` on, and
    another registration would make no difference to what is recorded. -/
structure Repeatable (s : System η) (a : ApplicationId) (k : Nat) (now : Instant) : Prop where
  idle : (s.clients a).session = .idle
  unused : ∀ j, k ≤ j → s.links j = .unused
  fresh : ∀ j, k ≤ j → s.service.channels ⟨j⟩ = .new OUTBOUND_QUEUE_DEPTH
  enrolled : s.service.inner.enroll a now =
    { s.service.inner with nextConnectionId := s.service.inner.nextConnectionId + 1 }

/-- The session task of a connection just opened registers the application. -/
theorem serverReceive_register (ht : (s.links k).task = .awaiting)
    (hup : (s.links k).up = [.register a PROTOCOL_VERSION])
    (hid : (s.service.register a ⟨k⟩ now).1 = .ok id) :
    s.serverReceive k now = (s.perform [.register a ⟨k⟩ now]).setLink k
      ((s.links k).take (.register a PROTOCOL_VERSION) [] (.registered a id)) := by
  unfold serverReceive
  dsimp only
  rw [ht, hup]
  dsimp only
  rw [if_neg (by simp), hid]

/-- `a` has just opened link `k`. -/
def connecting (s : System η) (a : ApplicationId) (k : Nat) : System η :=
  (s.setLink k ⟨some a, [.register a PROTOCOL_VERSION], [], .awaiting, [], []⟩).setClient a
    { s.clients a with session := .registering k }

theorem step_connect (hidle : (s.clients a).session = .idle) (hunused : s.links k = .unused) :
    step handlers s (.connect a k) = s.connecting a k := by
  rw [step, hidle, hunused]
  rfl

theorem step_connecting (hid : (s.service.register a ⟨k⟩ now).1 = .ok id) :
    step handlers (s.connecting a k) (.serverReceive k now) =
      ((s.connecting a k).perform [.register a ⟨k⟩ now]).setLink k (.abandoned a id) := by
  have hlink : (s.connecting a k).links k =
      ⟨some a, [.register a PROTOCOL_VERSION], [], .awaiting, [], []⟩ := Function.update_self ..
  have hreg := serverReceive_register (s := s.connecting a k) (by rw [hlink]) (by rw [hlink]) hid
  rw [hlink] at hreg
  exact hreg

/-- **One reconnection.** -/
theorem run_reconnect (hidle : (s.clients a).session = .idle) (hunused : s.links k = .unused)
    (hid : (s.service.register a ⟨k⟩ now).1 = .ok id) :
    run handlers s (reconnect a k now) =
      (s.perform [.register a ⟨k⟩ now]).setLink k (.abandoned a id) := by
  let t := ((s.connecting a k).perform [.register a ⟨k⟩ now]).setLink k (.abandoned a id)
  have hclient : t.clients a = { s.clients a with session := .registering k } :=
    Function.update_self ..
  have hclose : step handlers t (.clientClose a) =
      t.setClient a { t.clients a with session := .idle } := by
    rw [step, hclient]
  have hsame : ({ t.clients a with session := .idle } : Client η) = s.clients a := by
    rw [hclient, ← hidle]
  show step handlers (step handlers (step handlers s (.connect a k)) (.serverReceive k now))
    (.clientClose a) = _
  rw [step_connect hidle hunused, step_connecting hid, hclose, hsame]
  simp only [t, connecting, setClient, setLink, perform, Function.update_idem,
    Function.update_eq_self]

/-! ## Many reconnections -/

theorem laterId_succ (s : System η) (n : Nat) :
    (s.laterId (n + 1)).val = (s.laterId n).val + 1 := by
  unfold laterId
  rw [UInt64.ofNat_add]
  exact (UInt64.add_assoc _ _ _).symm

theorem laterClients_succ (s : System η) (a : ApplicationId) (k n : Nat) :
    (s.laterClients a k n).insert a ⟨s.laterId n, ⟨k + n⟩⟩ = s.laterClients a k (n + 1) := by
  cases n with
  | zero => rfl
  | succ n => exact AList.insert_insert ..

/-- What is different from `k` on becomes different one place further. -/
theorem update_stretch {ι β : Type*} [DecidableEq ι] {key : ι → Nat} (hkey : Function.Injective key)
    (f g : ι → β) {i : ι} (hi : key i = k + n) :
    Function.update (fun j => if k ≤ key j ∧ key j < k + n then g j else f j) i (g i) =
      fun j => if k ≤ key j ∧ key j < k + (n + 1) then g j else f j := by
  funext j
  by_cases hj : j = i
  · rw [hj, Function.update_self, if_pos (by omega)]
  · have hne : key j ≠ k + n := fun heq => hj (hkey (heq.trans hi.symm))
    rw [Function.update_of_ne hj]
    by_cases hin : k ≤ key j ∧ key j < k + n
    · rw [if_pos hin, if_pos (by omega)]
    · rw [if_neg hin, if_neg (by omega)]

theorem sender_injective : Function.Injective Sender.channel := by
  rintro ⟨c⟩ ⟨c'⟩ h
  exact congrArg Sender.mk h

theorem reconnected_zero (s : System η) (a : ApplicationId) (k : Nat) (now : Instant) :
    s.reconnected a k now 0 = s := by
  have hlinks : (s.reconnected a k now 0).links = s.links := funext fun j => if_neg (by omega)
  have hchannels : (s.reconnected a k now 0).service.channels = s.service.channels :=
    funext fun c => if_neg (by omega)
  have hid : (s.laterId 0).val = s.service.inner.nextConnectionId := UInt64.add_zero _
  unfold reconnected at hlinks hchannels ⊢
  dsimp only at hlinks hchannels
  rw [hlinks, hchannels, hid, List.range_zero, List.map_nil, List.append_nil]
  rfl

/-- The next link is unused. -/
theorem reconnected_unused (h : Repeatable s a k now) (n : Nat) :
    (s.reconnected a k now n).links (k + n) = .unused := by
  rw [← h.unused (k + n) (Nat.le_add_right k n)]
  exact if_neg (by simp)

/-- **The registration on the next link.** -/
theorem register_reconnected (h : Repeatable s a k now) (n : Nat) :
    (s.reconnected a k now n).service.register a ⟨k + n⟩ now =
      (.ok (s.laterId n), (s.reconnected a k now (n + 1)).service) := by
  let t := (s.reconnected a k now n).service
  have hfresh : t.channels ⟨k + n⟩ = .new OUTBOUND_QUEUE_DEPTH := by
    rw [← h.fresh (k + n) (Nat.le_add_right k n)]
    exact if_neg (by simp)
  have hrecords : t.inner.enroll a now =
      { t.inner with nextConnectionId := (s.laterId (n + 1)).val } := by
    rw [laterId_succ]
    exact congrArg (fun inner : ServiceState => { inner with
      clients := t.inner.clients, nextConnectionId := (s.laterId n).val + 1 }) h.enrolled
  have hsend : t.channels.trySend ⟨k + n⟩ t.inner.welcome =
      (.ok (), (s.reconnected a k now (n + 1)).service.channels) := by
    unfold Channels.trySend
    rw [hfresh]
    refine Prod.ext rfl ?_
    exact update_stretch sender_injective s.service.channels (fun _ => s.greeted) rfl
  have hclients : t.inner.clients.insert a ⟨⟨t.inner.nextConnectionId⟩, ⟨k + n⟩⟩ =
      s.laterClients a k (n + 1) := laterClients_succ s a k n
  unfold ServiceState.enroll at hrecords
  unfold ServiceState.welcome at hsend
  show t.register a ⟨k + n⟩ now = _
  unfold register
  dsimp only
  rw [hrecords]
  dsimp only
  rw [hsend]
  dsimp only
  rw [hclients]
  rfl

/-- **Many reconnections.** -/
theorem run_reconnects (h : Repeatable s a k now) (n : Nat) :
    run handlers s (reconnects a k now n) = s.reconnected a k now n := by
  induction n with
  | zero =>
    rw [reconnects_zero]
    exact (reconnected_zero s a k now).symm
  | succ n ih =>
    have hregister := register_reconnected h n
    have hunused : (s.reconnected a k now n).links (k + n) = .unused := reconnected_unused h n
    have hidle : ((s.reconnected a k now n).clients a).session = .idle := h.idle
    unfold run at ih ⊢
    rw [reconnects_succ, Machine.run_append, ih]
    refine (run_reconnect hidle hunused (congrArg Prod.fst hregister)).trans ?_
    have hlinks : Function.update (s.reconnected a k now n).links (k + n)
        (.abandoned a (s.laterId n)) = (s.reconnected a k now (n + 1)).links := by
      have hstretch := update_stretch (k := k) (n := n) Function.injective_id s.links
        (fun j => .abandoned a (s.laterId (j - k))) (i := k + n) rfl
      rw [Nat.add_sub_cancel_left] at hstretch
      exact hstretch
    have hops : (s.reconnected a k now n).operations ++ [.register a ⟨k + n⟩ now] =
        (s.reconnected a k now (n + 1)).operations := by
      unfold reconnected
      rw [List.range_succ, List.map_append, ← List.append_assoc]
      rfl
    have hservice : (s.reconnected a k now n).service.run [.register a ⟨k + n⟩ now] =
        (s.reconnected a k now (n + 1)).service := congrArg Prod.snd hregister
    unfold setLink perform
    dsimp only
    rw [hlinks, hops, hservice]
    rfl

/-! ## Two session tasks with one id -/

/-- Guidance and navigation connect; navigation writes a heartbeat and closes its connection. -/
def leaving : List (Input RecordingHandler Unit) :=
  [.connect Demo.guidance 0, .serverReceive 0 0, .serverSend 0 true,
    .clientReceive Demo.guidance () true,
    .connect Demo.navigation 1, .serverReceive 1 0, .serverSend 1 true,
    .clientReceive Demo.navigation () true, .clientHeartbeat Demo.navigation () true,
    .clientClose Demo.navigation]

/-- The heartbeat is still in flight on link `1`. -/
def left : System RecordingHandler :=
  run (fun _ => recordingHandler) (System.new 2000000000 fun _ => .default) leaving

theorem left_repeatable : Repeatable left Demo.navigation 2 0 where
  idle := by decide +kernel
  unused := by
    intro j hj
    obtain ⟨j, rfl⟩ := Nat.exists_eq_add_of_le' hj
    rfl
  fresh := by
    intro j hj
    obtain ⟨j, rfl⟩ := Nat.exists_eq_add_of_le' hj
    rfl
  enrolled := rfl

/-- Navigation reconnects until its next connection id is that of its first connection. -/
def comingRound : List (Input RecordingHandler Unit) :=
  leaving ++ reconnects Demo.navigation 2 0 (2 ^ 64 - 1)

def roundAgain : System RecordingHandler := left.reconnected Demo.navigation 2 0 (2 ^ 64 - 1)

theorem run_comingRound :
    run (fun _ => recordingHandler) (System.new 2000000000 fun _ => .default) comingRound =
      roundAgain := by
  unfold run comingRound
  rw [Machine.run_append]
  exact run_reconnects left_repeatable _

/-- Navigation connects again, and everybody is moved to `Standby`; before the last confirmation the
    heartbeat left on link `1` is handed over. -/
def mistaken : List (Input RecordingHandler Unit) :=
  [.connect Demo.navigation (2 ^ 64 + 1), .serverReceive (2 ^ 64 + 1) 0,
    .serverSend (2 ^ 64 + 1) true, .clientReceive Demo.navigation () true,
    .requestMode .standby,
    .serverSend 0 true, .clientReceive Demo.guidance () true, .serverReceive 0 1,
    .serverSend (2 ^ 64 + 1) true, .clientReceive Demo.navigation () true,
    .serverReceive (2 ^ 64 + 1) 1,
    .serverSend (2 ^ 64 + 1) true, .clientReceive Demo.navigation () true,
    .serverReceive (2 ^ 64 + 1) 2,
    .serverReceive 1 3,
    .serverSend 0 true, .clientReceive Demo.guidance () true]

end System

end Sam
