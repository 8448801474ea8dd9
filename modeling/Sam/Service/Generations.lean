import Sam.Service.Representation
import Sam.Service.Status

/-!
# Sessions of one application

Sessions of an application overlap and end in any order; the connection id tells them apart.

* `granted`, `sessions` — the registrations that succeed, with the ids they return; the ids are
  all different (`sessions_numbered`).
* `Latest` — the last successful registration of an application and what followed it.
* `client_iff` — the client table holds the session of the last registration until it disconnects.
* `generations_isolate` — so a superseded session can neither act nor take the connection away
  from the session that replaced it.
-/

namespace Sam

namespace SamService

/-- The application an operation registers and the connection id it is given. -/
def granted (s : SamService) : Operation → Option (ApplicationId × ConnectionId)
  | .register application outbound now =>
    match (s.register application outbound now).1 with
    | .ok id => some (application, id)
    | .error _ => none
  | _ => none

/-- All sessions opened in a run, oldest first. -/
abbrev sessions (s : SamService) (ops : List Operation) : List (ApplicationId × ConnectionId) :=
  Machine.log step (fun s op => (s.granted op).toList) s ops

variable {s : SamService} {op : Operation} {ops : List Operation} {a : ApplicationId}
  {id : ConnectionId}

theorem sessions_concat :
    s.sessions (ops ++ [op]) = s.sessions ops ++ ((s.run ops).granted op).toList :=
  Machine.log_concat ..

theorem sessions_append (ops' : List Operation) :
    s.sessions (ops ++ ops') = s.sessions ops ++ (s.run ops).sessions ops' := Machine.log_append ..

/-- A registration succeeds exactly when its channel has room for the reply. -/
theorem register_answer (a : ApplicationId) (tx : Sender) (now : Instant) :
    (s.register a tx now).1 =
      if (s.channels tx).HasRoom then .ok ⟨s.inner.nextConnectionId⟩
        else .error .stateUnavailable := by
  unfold register
  by_cases hroom : (s.channels tx).HasRoom
  · simp only [Channels.trySend, Channel.trySend_room hroom, if_pos hroom]
  · obtain ⟨e, he⟩ := Channel.trySend_noRoom hroom (s.inner.enroll a now).welcome
    unfold ServiceState.enroll ServiceState.welcome at he
    simp only [Channels.trySend, he, if_neg hroom]

theorem granted_register (a : ApplicationId) (tx : Sender) (now : Instant) :
    s.granted (.register a tx now) =
      if (s.channels tx).HasRoom then some (a, ⟨s.inner.nextConnectionId⟩) else none := by
  simp only [granted, register_answer]
  by_cases hroom : (s.channels tx).HasRoom
  · simp only [if_pos hroom]
  · simp only [if_neg hroom]

/-- A session granted is the next id, on a channel with room, and is in the table. -/
theorem granted_eq (h : s.granted op = some (a, id)) :
    ∃ tx now, op = .register a tx now ∧ id = ⟨s.inner.nextConnectionId⟩ ∧
      (s.step op).inner.clients.lookup a = some ⟨id, tx⟩ := by
  cases op with
  | register b tx now =>
    rw [granted_register] at h
    split at h
    · rename_i hroom
      cases h
      refine ⟨tx, now, rfl, rfl, ?_⟩
      rw [(register_spec s a tx now).2.2.2, if_pos hroom, AList.lookup_insert]
    · cases h
  | _ => cases h

/-- A client stays in the table, unless its application registers again or it disconnects. -/
theorem client_effect {s' : SamService} {e : Option ProtocolEvent} (he : Effect s op e s')
    {client : ClientConnection} (hc : s.inner.clients.lookup a = some client) :
    s'.inner.clients.lookup a = some client ∨ (∃ id, s.granted op = some (a, id)) ∨
      ∃ now, op = .disconnect a client.id now := by
  cases he with
  | registered b tx now hroom =>
    by_cases hab : a = b
    · subst hab
      exact .inr (.inl ⟨_, by rw [granted_register, if_pos hroom]⟩)
    · exact .inl ((AList.lookup_insert_ne hab).trans hc)
  | disconnected b conn tx now hb =>
    by_cases hab : a = b
    · subst hab
      rw [hc] at hb
      cases hb
      exact .inr (.inr ⟨now, rfl⟩)
    · exact .inl ((AList.lookup_erase_ne hab).trans hc)
  | heartbeat | refreshed => rw [announce_inner]; exact .inl hc
  | idle | unregistered | ready | prepared | rejected | committed | completed | unrecorded
  | requested | received | receiverDropped => exact .inl hc

/-- A session stays in the table until its application registers again or it disconnects. -/
theorem session_kept {tx : Sender} (hc : s.inner.clients.lookup a = some ⟨id, tx⟩)
    (hg : ∀ id', (a, id') ∉ s.sessions ops) (hd : ∀ now, .disconnect a id now ∉ ops) :
    (s.run ops).inner.clients.lookup a = some ⟨id, tx⟩ := by
  induction ops generalizing s with
  | nil => exact hc
  | cons op ops ih =>
    rcases client_effect (step_effect s op) hc with hstep | ⟨id', hid'⟩ | ⟨now, rfl⟩
    · exact ih hstep (fun id' h => hg id' (List.mem_append_right _ h))
        (fun now h => hd now (List.mem_cons_of_mem _ h))
    · exact absurd (List.mem_append_left _ (Option.mem_toList.mpr hid')) (hg id')
    · exact absurd List.mem_cons_self (hd now)

/-! ## The last registration -/

/-- `a` got `id` at the last of its successful registrations, and `post` is what followed. -/
def Latest (s : SamService) (ops : List Operation) (a : ApplicationId) (id : ConnectionId)
    (post : List Operation) : Prop :=
  ∃ pre op, ops = pre ++ op :: post ∧ (s.run pre).granted op = some (a, id) ∧
    ∀ id', (a, id') ∉ ((s.run pre).step op).sessions post

/-- A registration that has just succeeded is the last one. -/
theorem latest_granted (h : (s.run ops).granted op = some (a, id)) :
    s.Latest (ops ++ [op]) a id [] := ⟨ops, op, rfl, h, fun _ h => by cases h⟩

/-- It stays the last one as long as no other succeeds. -/
theorem Latest.concat {post : List Operation} (h : s.Latest ops a id post)
    (hg : ∀ id', (s.run ops).granted op ≠ some (a, id')) :
    s.Latest (ops ++ [op]) a id (post ++ [op]) := by
  obtain ⟨pre, op', rfl, hop', hpost⟩ := h
  refine ⟨pre, op', by simp, hop', fun id' hid' => ?_⟩
  rw [sessions_concat, List.mem_append] at hid'
  rcases hid' with hid' | hid'
  · exact hpost id' hid'
  · rw [run_append, run_cons] at hg
    exact hg id' (Option.mem_toList.mp hid')

/-- **The table holds the last session until it disconnects.** -/
theorem client_iff (timeout : Duration) (channels : Channels) (ops : List Operation)
    (a : ApplicationId) (id : ConnectionId) :
    let s := SamService.new timeout channels
    (∃ tx, (s.run ops).inner.clients.lookup a = some ⟨id, tx⟩) ↔
      ∃ post, s.Latest ops a id post ∧ ∀ now, .disconnect a id now ∉ post := by
  intro s
  constructor
  · induction ops using List.reverseRecOn with
    | nil => rintro ⟨tx, h⟩; cases h
    | append_singleton ops op ih =>
      rintro ⟨tx, h⟩
      rw [run_concat] at h
      by_cases hg : ∃ id', (s.run ops).granted op = some (a, id')
      · obtain ⟨id', hg⟩ := hg
        obtain ⟨tx', now, -, -, hnew⟩ := granted_eq hg
        rw [hnew] at h
        cases h
        exact ⟨[], latest_granted hg, fun _ h => by cases h⟩
      · rcases client_origin (step_effect _ op) h with hold | ⟨now, rfl, hroom, hid⟩
        · obtain ⟨post, hlatest, hd⟩ := ih ⟨tx, hold⟩
          refine ⟨post ++ [op], hlatest.concat fun id' h => hg ⟨id', h⟩, fun now hmem => ?_⟩
          rcases List.mem_append.mp hmem with hmem | hmem
          · exact hd now hmem
          · rw [← List.mem_singleton.mp hmem] at h
            exact disconnect_gone id now h
        · exact absurd ⟨_, by rw [granted_register, if_pos hroom]⟩ hg
  · rintro ⟨post, ⟨pre, op, rfl, hg, hpost⟩, hd⟩
    obtain ⟨tx, now, -, -, hc⟩ := granted_eq hg
    rw [run_append, run_cons]
    exact ⟨tx, session_kept hc hpost hd⟩

/-! ## Different sessions have different ids -/

/-- Every id granted so far is at most the number of registrations, and no two are the same. -/
theorem sessions_numbered (timeout : Duration) (channels : Channels) (ops : List Operation)
    (hn : ops.countP Operation.isRegister < 2 ^ 64) :
    let s := SamService.new timeout channels
    (∀ x ∈ s.sessions ops, x.2.val.toNat ≤ ops.countP Operation.isRegister) ∧
      ((s.sessions ops).map Prod.snd).Nodup := by
  intro s
  induction ops using List.reverseRecOn with
  | nil => exact ⟨fun _ h => (by cases h), List.nodup_nil⟩
  | append_singleton ops op ih =>
    have hc : (ops ++ [op]).countP Operation.isRegister =
        ops.countP Operation.isRegister + if op.isRegister then 1 else 0 := by
      rw [List.countP_append, List.countP_singleton]
    rw [hc] at hn ⊢
    obtain ⟨hle, hnodup⟩ := ih (by omega)
    rw [sessions_concat]
    cases hg : (s.run ops).granted op with
    | none =>
      rw [Option.toList_none, List.append_nil]
      exact ⟨fun x hx => (hle x hx).trans (Nat.le_add_right _ _), hnodup⟩
    | some x =>
      have hgrant : (s.run ops).granted op = some (x.1, x.2) := hg
      obtain ⟨tx, now, rfl, hid, -⟩ := granted_eq hgrant
      -- the new id is the number of registrations, this one included
      have hnew : x.2.val.toNat = ops.countP Operation.isRegister + 1 := by
        rw [hid, (numbered_run timeout channels ops (by omega)).next]
        exact UInt64.toNat_ofNat_of_lt' hn
      have hone : (if (Operation.register x.1 tx now).isRegister then 1 else 0) = 1 := rfl
      rw [hone, Option.toList_some]
      constructor
      · intro y hy
        rcases List.mem_append.mp hy with hy | hy
        · exact (hle y hy).trans (Nat.le_succ _)
        · rw [List.mem_singleton.mp hy, hnew]
      · rw [List.map_append, List.nodup_append]
        refine ⟨hnodup, List.nodup_singleton _, fun i hi j hj => ?_⟩
        obtain ⟨y, hy, rfl⟩ := List.mem_map.mp hi
        obtain rfl := List.mem_singleton.mp hj
        have := hle y hy
        rintro heq
        rw [heq] at this
        omega

/-- A session's place in the run is determined by its id. -/
theorem session_place {l A B A' B' : List (ApplicationId × ConnectionId)}
    (hn : (l.map Prod.snd).Nodup) (h : l = A ++ (a, id) :: B) (h' : l = A' ++ (a, id) :: B') :
    B = B' := by
  have hnodup : (A ++ (a, id) :: B).Nodup := h ▸ hn.of_map
  rw [List.nodup_middle, List.nodup_cons, List.mem_append, not_or] at hnodup
  have heq := h.symm.trans h'
  exact ((List.append_cons_inj_of_notMem hnodup.1.1 hnodup.1.2).mp heq).2.2

/-! ## Isolation -/

/-- What a message or a disconnect under a connection id that is not the current one of `a` does:
    nothing. -/
def Powerless (s : SamService) (a : ApplicationId) (id : ConnectionId) : Prop :=
  (∀ message now, s.handleMessage a id message now = (.error (.staleConnection a), s)) ∧
    ∀ now, s.disconnect a id now = (.ok (), s)

theorem powerless_of_not_current (h : ∀ tx, s.inner.clients.lookup a ≠ some ⟨id, tx⟩) :
    s.Powerless a id := by
  have hany : (s.inner.clients.lookup a).any (fun client => client.id = id) = false := by
    cases hc : s.inner.clients.lookup a with
    | none => rfl
    | some client =>
      obtain ⟨id', tx⟩ := client
      rw [Option.any_some, decide_eq_false_iff_not]
      rintro rfl
      exact h tx hc
  constructor
  · intro message now
    unfold handleMessage verifyConnection
    simp only [hany, Bool.false_eq_true, if_false]
  · intro now
    unfold disconnect
    simp only [hany, Bool.not_false, if_true]

/-- How the sessions of `a` stand after `ops`; once all have ended `a` is no client, and where every
    registration had room for its reply the registry does not show it connected either. -/
structure Isolated (s : SamService) (ops : List Operation) (a : ApplicationId) : Prop where
  table : ∀ id, (∃ tx, (s.run ops).inner.clients.lookup a = some ⟨id, tx⟩) ↔
    ∃ post, s.Latest ops a id post ∧ ∀ now, .disconnect a id now ∉ post
  stale : ∀ id, (∀ tx, (s.run ops).inner.clients.lookup a ≠ some ⟨id, tx⟩) →
    (s.run ops).Powerless a id
  superseded : ∀ pre op post id id', ops = pre ++ op :: post →
    (s.run pre).granted op = some (a, id) → (a, id') ∈ ((s.run pre).step op).sessions post →
    (s.run ops).Powerless a id
  ended : (∀ pre op post id, ops = pre ++ op :: post → (s.run pre).granted op = some (a, id) →
      ∃ now, .disconnect a id now ∈ post) →
    (s.run ops).inner.clients.lookup a = none ∧
      (Machine.Always step Accepting s ops →
        ∀ status, (s.run ops).inner.applications.get a = some status → status.connected = false)

end SamService

open SamService

/-- **Generation ids isolate superseded sessions**, over fewer than `2 ^ 64` registrations, however
    the sessions overlap. -/
theorem generations_isolate (timeout : Duration) (channels : Channels) (ops : List Operation)
    (hn : ops.countP Operation.isRegister < 2 ^ 64) (a : ApplicationId) :
    Isolated (SamService.new timeout channels) ops a := by
  have htable := fun id => client_iff timeout channels ops a id
  have hnodup := (sessions_numbered timeout channels ops hn).2
  refine ⟨htable, fun id => powerless_of_not_current, ?_, ?_⟩
  · intro pre op post id id' hops hg hlater
    refine powerless_of_not_current fun tx hc => ?_
    obtain ⟨post', ⟨pre', op', hops', hg', hlast⟩, -⟩ := (htable id).mp ⟨tx, hc⟩
    have hsplit : ∀ pre op post, ops = pre ++ op :: post →
        ((SamService.new timeout channels).run pre).granted op = some (a, id) →
        (SamService.new timeout channels).sessions ops =
          (SamService.new timeout channels).sessions pre ++ (a, id) ::
            (((SamService.new timeout channels).run pre).step op).sessions post := by
      rintro pre op post rfl hg
      rw [sessions_append, sessions, sessions, Machine.log_cons, hg]
      rfl
    have hplace := session_place hnodup (hsplit pre op post hops hg)
      (hsplit pre' op' post' hops' hg')
    rw [hplace] at hlater
    exact hlast id' hlater
  · intro hall
    have hnone : ((SamService.new timeout channels).run ops).inner.clients.lookup a = none := by
      cases hc : ((SamService.new timeout channels).run ops).inner.clients.lookup a with
      | none => rfl
      | some client =>
        obtain ⟨post, ⟨pre, op, hops, hg, -⟩, hd⟩ := (htable client.id).mp ⟨client.outbound, hc⟩
        obtain ⟨now, hmem⟩ := hall pre op post client.id hops hg
        exact absurd hmem (hd now)
    refine ⟨hnone, fun hacc status hs => ?_⟩
    by_contra hcon
    obtain ⟨client, hc⟩ :=
      (listed_run timeout channels hacc a).mpr ⟨status, hs, by simpa using hcon⟩
    rw [hnone] at hc
    cases hc

/-- Two sessions of one application; the first ends after the second has begun. -/
theorem generations_isolate_demo :
    Isolated Demo.service
      [.register Demo.navigation ⟨0⟩ 0, .register Demo.navigation ⟨1⟩ 1,
        .disconnect Demo.navigation ⟨1⟩ 2] Demo.navigation :=
  generations_isolate _ _ _ (by decide) _

end Sam
