import Sam.Service.Step

/-!
# What a step puts into the channels

* `Traffic` — a step leaves the channels alone, sends one reply to one channel, broadcasts one
  message to the clients it leaves in the table, or lets a receiver act (`step_traffic`).
* `client_origin` — a client in the table was there before the step or has just registered.
* `sent_mono`, `refused_mono` — a channel's history only grows, a failed send stays failed.
* `Fresh` — every registration brings a channel on which no send was tried yet, as
  `serve_connection` does; then a used channel is never given to another connection
  (`held_before`).
-/

namespace Sam

/-- The system state a message reports. -/
def SamToApplication.view? : SamToApplication → Option SystemState
  | .registerAccepted _ mode health => some ⟨mode, health⟩
  | .stateBroadcast mode health => some ⟨mode, health⟩
  | _ => none

/-- The answers to a registration. -/
def SamToApplication.IsReply : SamToApplication → Prop
  | .registerAccepted _ _ _ => True
  | .registerRejected _ _ => True
  | _ => False

namespace SamService

/-- **Everything a step can do to the channels**, the history of broadcasts and the reported
    system state. -/
inductive Traffic (s : SamService) : Operation → SamService → Prop where
  | quiet (op : Operation) (s' : SamService) (hc : s'.channels = s.channels)
      (hb : s'.broadcasts = s.broadcasts) (hs : s'.inner.system = s.inner.system) :
      Traffic s op s'
  | reply (a : ApplicationId) (tx : Sender) (now : Instant) (s' : SamService)
      (hc : s'.channels = (s.channels.trySend tx s'.inner.welcome).2)
      (hb : s'.broadcasts = s.broadcasts)
      (hs : s'.inner.system = (s.inner.enroll a now).system) :
      Traffic s (.register a tx now) s'
  | broadcast (op : Operation) (s' : SamService) (message : SamToApplication)
      (hop : ∀ a tx now, op ≠ .register a tx now) (hm : ¬ message.IsReply)
      (hc : s'.channels = s.channels.broadcastOn s'.outbounds message)
      (hb : s'.broadcasts = s.broadcasts ++ [message])
      (hs : message.view? = some s'.inner.system ∨
        message.view? = none ∧ s'.inner.system = s.inner.system) :
      Traffic s op s'
  | receiver (op : Operation) (s' : SamService) (tx : Sender) (f : Channel → Channel)
      (hf : ∀ ch, (f ch).sent = ch.sent ∧ (f ch).refused = ch.refused)
      (hc : s'.channels = Function.update s.channels tx (f (s.channels tx)))
      (hb : s'.broadcasts = s.broadcasts) (hs : s'.inner = s.inner)
      (hop : op = .receive tx ∧ f = Channel.recv ∨ op = .dropReceiver tx ∧
        f = Channel.dropReceiver) :
      Traffic s op s'

variable {s s' : SamService} {op : Operation} {c tx : Sender}

theorem traffic_broadcastState (t : ServiceState) (hop : ∀ a tx now, op ≠ .register a tx now) :
    Traffic s op (s.setInner t).broadcastState :=
  .broadcast op _ (.stateBroadcast t.system.mode t.system.health) hop not_false rfl rfl (.inl rfl)

/-- A recalculated health is announced exactly when it differs. -/
theorem traffic_announce {t : ServiceState} {now : Instant} (ht : t.system = s.inner.system)
    (hop : ∀ a tx now, op ≠ .register a tx now) :
    Traffic s op ((s.setInner (recalculateHealth t now)).announce s.inner.system.health) := by
  unfold announce
  split
  · exact traffic_broadcastState _ hop
  · rename_i h
    have hh : s.inner.system.health = (recalculateHealth t now).system.health := not_not.mp h
    have hm : (recalculateHealth t now).system.mode = s.inner.system.mode := by
      rw [recalculateHealth_mode, ht]
    refine .quiet op _ rfl rfl ?_
    rw [setInner_inner]
    exact SystemState.ext hm hh.symm

theorem traffic_of_effect {e : Option ProtocolEvent} (h : Effect s op e s') : Traffic s op s' := by
  cases h with
  | idle => exact .quiet _ _ rfl rfl rfl
  | registered a tx now => exact .reply a tx now _ rfl rfl rfl
  | unregistered a tx now => exact .reply a tx now _ rfl rfl rfl
  | disconnected => exact traffic_broadcastState _ (by simp)
  | heartbeat => exact traffic_announce rfl (by simp)
  | ready => exact .quiet _ _ rfl rfl rfl
  | prepared a conn tx id now hc current target W R hm ha hW =>
    exact .broadcast _ _ (.commitMode id target) (by simp) not_false rfl rfl (.inr ⟨rfl, rfl⟩)
  | rejected a conn tx id reason =>
    exact .broadcast _ _ (.abortMode id) (by simp) not_false rfl rfl (.inr ⟨rfl, rfl⟩)
  | committed => exact .quiet _ _ rfl rfl rfl
  | completed => exact traffic_broadcastState _ (by simp)
  | unrecorded => exact .quiet _ _ rfl rfl rfl
  | requested target =>
    exact .broadcast _ _ (.prepareMode _ target) (by simp) not_false rfl rfl (.inr ⟨rfl, rfl⟩)
  | refreshed => exact traffic_announce rfl (by simp)
  | received tx =>
    exact .receiver _ _ tx Channel.recv (fun ch => ⟨Channel.sent_recv, Channel.refused_recv⟩)
      rfl rfl rfl (.inl ⟨rfl, rfl⟩)
  | receiverDropped tx =>
    exact .receiver _ _ tx Channel.dropReceiver (fun ch => ⟨rfl, rfl⟩) rfl rfl rfl
      (.inr ⟨rfl, rfl⟩)

theorem step_traffic (s : SamService) (op : Operation) : Traffic s op (s.step op) :=
  traffic_of_effect (step_effect s op)

/-! ## Channels only grow -/

theorem sent_trySend_mono (channels : Channels) (tx c : Sender) (message : SamToApplication) :
    (channels c).sent <+: ((channels.trySend tx message).2 c).sent := by
  by_cases h : c = tx
  · subst h; rw [Channels.trySend_self, Channel.sent_trySend]; exact List.prefix_append _ _
  · rw [Channels.trySend_ne h]

theorem sent_mono (s : SamService) (op : Operation) (c : Sender) :
    (s.channels c).sent <+: ((s.step op).channels c).sent := by
  cases step_traffic s op with
  | quiet _ _ hc => rw [hc]
  | reply a tx now _ hc => rw [hc]; exact sent_trySend_mono _ _ _ _
  | broadcast _ _ message hop hm hc =>
    obtain ⟨k, hs, _⟩ := Channels.broadcastOn_spec s.channels (s.step op).outbounds message c
    rw [hc, hs]; exact List.prefix_append _ _
  | receiver _ _ tx f hf hc =>
    rw [hc]
    by_cases h : c = tx
    · subst h; rw [Function.update_self, (hf _).1]
    · rw [Function.update_of_ne h]

theorem refused_mono (s : SamService) (op : Operation) (c : Sender)
    (h : ((s.step op).channels c).refused = false) : (s.channels c).refused = false := by
  cases step_traffic s op with
  | quiet _ _ hc => rwa [hc] at h
  | reply a tx now _ hc =>
    rw [hc] at h
    by_cases hct : c = tx
    · subst hct
      rw [Channels.trySend_self, Channel.refused_trySend, Bool.or_eq_false_iff] at h
      exact h.1
    · rwa [Channels.trySend_ne hct] at h
  | broadcast _ _ message hop hm hc =>
    obtain ⟨k, _, hr⟩ := Channels.broadcastOn_spec s.channels (s.step op).outbounds message c
    rw [hc] at h; exact (hr h).2
  | receiver _ _ tx f hf hc =>
    rw [hc] at h
    by_cases hct : c = tx
    · subst hct; rwa [Function.update_self, (hf _).2] at h
    · rwa [Function.update_of_ne hct] at h

/-- Only the receiver of a channel takes messages from it. -/
theorem delivered_step (hop : op ≠ .receive c) :
    ((s.step op).channels c).delivered = (s.channels c).delivered := by
  cases step_traffic s op with
  | quiet _ _ hc => rw [hc]
  | reply a tx now _ hc =>
    rw [hc]
    by_cases h : c = tx
    · subst h; rw [Channels.trySend_self, Channel.delivered_trySend]
    · rw [Channels.trySend_ne h]
  | broadcast _ _ message _ _ hc => rw [hc, Channels.delivered_broadcastOn]
  | receiver _ _ tx f hf hc hb hs hact =>
    rw [hc]
    by_cases h : c = tx
    · subst h
      rcases hact with ⟨rfl, -⟩ | ⟨-, rfl⟩
      · exact absurd rfl hop
      · rw [Function.update_self]; rfl
    · rw [Function.update_of_ne h]

theorem sent_mono_run (s : SamService) (ops : List Operation) (c : Sender) :
    (s.channels c).sent <+: ((s.run ops).channels c).sent := by
  induction ops generalizing s with
  | nil => exact List.prefix_rfl
  | cons op ops ih => exact (sent_mono s op c).trans (ih (s.step op))

/-! ## Where clients come from -/

/-- A client in the table was there before the step or has just registered. -/
theorem client_origin {e : Option ProtocolEvent} (h : Effect s op e s') {b : ApplicationId}
    {client : ClientConnection} (hb : s'.inner.clients.lookup b = some client) :
    s.inner.clients.lookup b = some client ∨
      ∃ now, op = .register b client.outbound now ∧ (s.channels client.outbound).HasRoom ∧
        client.id = ⟨s.inner.nextConnectionId⟩ := by
  cases h with
  | registered a tx now hroom =>
    by_cases hba : b = a
    · subst hba
      rw [AList.lookup_insert] at hb
      obtain rfl := Option.some.inj hb
      exact .inr ⟨now, rfl, hroom, rfl⟩
    · rw [AList.lookup_insert_ne hba] at hb; exact .inl hb
  | disconnected a conn tx now hc =>
    by_cases hba : b = a
    · subst hba; simp [broadcastState] at hb
    · simp [broadcastState, AList.lookup_erase_ne hba] at hb; exact .inl hb
  | heartbeat | refreshed => rw [announce_inner] at hb; exact .inl hb
  | completed => simp [broadcastState] at hb; exact .inl hb
  | idle | unregistered | ready | prepared | rejected | committed | unrecorded | requested
  | received | receiverDropped => exact .inl hb

/-- The channels in use are those of the table. -/
theorem mem_outbounds : tx ∈ s.outbounds ↔ ∃ b id, s.inner.clients.lookup b = some ⟨id, tx⟩ := by
  unfold outbounds
  rw [List.mem_map]
  constructor
  · rintro ⟨⟨b, id, tx'⟩, h, rfl⟩
    exact ⟨b, id, AList.mem_lookup_iff.mpr h⟩
  · rintro ⟨b, id, h⟩
    exact ⟨⟨b, id, tx⟩, AList.mem_lookup_iff.mp h, rfl⟩

/-- What a registration leaves: the reply is tried on `tx`, and with room for it `a` is the client
    on `tx`, everybody else staying. -/
theorem register_spec (s : SamService) (a : ApplicationId) (tx : Sender) (now : Instant) :
    (s.step (.register a tx now)).channels =
        (s.channels.trySend tx (s.inner.enroll a now).welcome).2 ∧
      (s.step (.register a tx now)).inner.system = (s.inner.enroll a now).system ∧
      (s.step (.register a tx now)).broadcasts = s.broadcasts ∧
      (s.step (.register a tx now)).inner.clients =
        if (s.channels tx).HasRoom then
          s.inner.clients.insert a ⟨⟨s.inner.nextConnectionId⟩, tx⟩
        else s.inner.clients := by
  have he := step_effect s (.register a tx now)
  generalize s.step (.register a tx now) = s' at he
  cases he with
  | idle _ hop => cases hop
  | registered _ _ _ hroom => rw [if_pos hroom]; exact ⟨rfl, rfl, rfl, rfl⟩
  | unregistered _ _ _ hroom => rw [if_neg hroom]; exact ⟨rfl, rfl, rfl, rfl⟩

/-! ## Fresh channels -/

/-- No send has been tried yet on the channel a registration brings. -/
def Fresh (s : SamService) : Operation → Prop
  | .register _ tx _ => (s.channels tx).sent = [] ∧ (s.channels tx).refused = false
  | _ => True

instance (s : SamService) : (op : Operation) → Decidable (s.Fresh op)
  | .register _ tx _ =>
    inferInstanceAs (Decidable ((s.channels tx).sent = [] ∧ (s.channels tx).refused = false))
  | .disconnect _ _ _ | .handleMessage _ _ _ _ | .requestMode _ | .refreshHealth _ | .receive _
  | .dropReceiver _ => instDecidableTrue

/-- A client whose channel was already in use before a step was a client before it. -/
theorem held_before (hf : s.Fresh op) {b : ApplicationId} {id : ConnectionId}
    (hused : (s.channels tx).sent ≠ []) (hb : (s.step op).inner.clients.lookup b = some ⟨id, tx⟩) :
    s.inner.clients.lookup b = some ⟨id, tx⟩ := by
  rcases client_origin (step_effect s op) hb with h | ⟨now, rfl, _, _⟩
  · exact h
  · exact absurd hf.1 hused

theorem held_before_run {ops : List Operation} (hf : Machine.Always step Fresh s ops)
    {b : ApplicationId} {id : ConnectionId} (hused : (s.channels tx).sent ≠ [])
    (hb : (s.run ops).inner.clients.lookup b = some ⟨id, tx⟩) :
    s.inner.clients.lookup b = some ⟨id, tx⟩ := by
  induction ops generalizing s with
  | nil => exact hb
  | cons op ops ih =>
    have hused' : ((s.step op).channels tx).sent ≠ [] := by
      intro h
      have hp := sent_mono s op tx
      rw [h, List.prefix_nil] at hp
      exact hused hp
    exact held_before hf.1 hused (ih hf.2 hused' hb)

end SamService

end Sam
