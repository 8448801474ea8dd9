import Mathlib.Data.Finset.Lattice.Lemmas
import Sam.Service.Representation

/-!
# Participants who leave

`disconnect` and `register` keep the client table and the registry in step but do not tell the
manager, so a transition can wait for somebody who is gone.

* `Unseats` — the operation ends the current connection of a participant of the transition in
  progress.
* `seated_iff` — all participants are still on the connections they were asked on exactly when
  no operation since the request unseated one.
* `disconnect_leaves_waiting` — a run in which one does, and no mode can be requested any more.
-/

namespace Sam

open SamService TwoPhase

/-- The applications taking part in the transition in progress. -/
def ModeManagerState.participants : ModeManagerState → Finset ApplicationId
  | .stable _ => ∅
  | .preparing _ _ _ waitingFor ready => waitingFor ∪ ready
  | .committing _ _ _ waitingFor committed => waitingFor ∪ committed

/-- A participant's current connection is ended or replaced. -/
def Unseats (s : SamService) : Operation → Prop
  | .disconnect a conn _ => a ∈ s.inner.modes.state.participants ∧
      (s.inner.clients.lookup a).any (fun client => client.id = conn) = true
  | .register a tx _ => a ∈ s.inner.modes.state.participants ∧ (s.channels tx).HasRoom
  | _ => False

instance (s : SamService) : (op : Operation) → Decidable (Unseats s op)
  | .disconnect a conn _ => inferInstanceAs (Decidable (a ∈ s.inner.modes.state.participants ∧
      (s.inner.clients.lookup a).any (fun client => client.id = conn) = true))
  | .register a tx _ =>
    inferInstanceAs (Decidable (a ∈ s.inner.modes.state.participants ∧ (s.channels tx).HasRoom))
  | .handleMessage _ _ _ _ | .requestMode _ | .refreshHealth _ | .receive _ | .dropReceiver _ =>
    instDecidableFalse

/-- No request event. -/
def NoRequest (s : SamService) (op : Operation) : Prop :=
  ∀ e ∈ (s.event op).toList, e.isRequest = false

/-- Everybody taking part after `ops` is connected under the id they had after `pre`. -/
def Seated (s : SamService) (pre ops : List Operation) : Prop :=
  ∀ p ∈ (s.run ops).inner.modes.state.participants, ∃ conn tx tx',
    (s.run pre).inner.clients.lookup p = some ⟨conn, tx⟩ ∧
      (s.run ops).inner.clients.lookup p = some ⟨conn, tx'⟩

variable {s s' : SamService} {op : Operation} {e : Option ProtocolEvent} {p : ApplicationId}

/-! ## The participants of a transition stay the same -/

theorem vote_participants {W R : Finset ApplicationId} (ha : p ∈ W) :
    W.erase p ∪ insert p R = W ∪ R := by
  ext x
  simp only [Finset.mem_union, Finset.mem_erase, Finset.mem_insert]
  by_cases hx : x = p
  · subst hx; simp [ha]
  · simp [hx]

theorem last_vote_participants {W R : Finset ApplicationId} (ha : p ∈ W) (hW : W.erase p = ∅) :
    insert p R = W ∪ R := by
  rw [← vote_participants ha, hW, Finset.empty_union]

/-- Without a request, a transition in progress after a step was in progress before it. -/
theorem participants_step (hk : Known s.inner) (he : Effect s op e s')
    (hreq : ∀ ev ∈ e.toList, ev.isRequest = false) (hp : p ∈ s'.inner.modes.state.participants) :
    s'.inner.modes.state.participants = s.inner.modes.state.participants := by
  cases he with
  | idle => rfl
  | heartbeat | refreshed => rw [announce_inner]; rfl
  | ready a conn tx id now hc current target W R hm ha hW =>
    rw [hm]; exact vote_participants ha
  | prepared a conn tx id now hc current target W R hm ha hW =>
    rw [hm]
    exact (Finset.union_empty _).trans (last_vote_participants ha hW)
  | committed a conn tx id mode now hc previous W C hm ha hW =>
    rw [hm]; exact vote_participants ha
  | rejected | completed => cases hp
  | requested => cases hreq _ (List.mem_singleton_self _)
  | unrecorded a conn tx id mode now phase hc hr =>
    exact absurd hr (hk.recorded hc)
  | registered | unregistered | disconnected | received | receiverDropped => rfl

theorem participants_run {ops : List Operation} (hk : Known s.inner)
    (hreq : Machine.Always step NoRequest s ops)
    (hp : p ∈ (s.run ops).inner.modes.state.participants) :
    (s.run ops).inner.modes.state.participants = s.inner.modes.state.participants := by
  induction ops generalizing s with
  | nil => rfl
  | cons op ops ih =>
    have hrun := ih (known_step hk (step_effect s op)) hreq.2 hp
    rw [run_cons] at hp ⊢
    rw [hrun] at hp
    rw [hrun, participants_step hk (step_effect s op) hreq.1 hp]

/-- A request that is granted takes the clients as participants, and leaves them connected. -/
theorem granted_effect {target : SystemMode} {id : TransitionId}
    (h : (s.requestMode target).1 = .ok id) :
    (s.step (.requestMode target)).inner.modes.state.participants = s.inner.clients.keys.toFinset ∧
      (s.step (.requestMode target)).inner.clients = s.inner.clients := by
  obtain ⟨current, -, -, -, -, hs⟩ := granted_step h
  rw [hs]
  exact ⟨Finset.union_empty _, rfl⟩

/-! ## Connections kept -/

/-- Only an unseating operation ends the connection of a participant. -/
theorem lookup_step (he : Effect s op e s') (hop : ¬ Unseats s op)
    (hp : p ∈ s.inner.modes.state.participants) :
    s'.inner.clients.lookup p = s.inner.clients.lookup p := by
  cases he with
  | registered a tx now hroom =>
    have hne : p ≠ a := by rintro rfl; exact hop ⟨hp, hroom⟩
    exact AList.lookup_insert_ne hne
  | disconnected a conn tx now hc =>
    have hne : p ≠ a := by rintro rfl; exact hop ⟨hp, by rw [hc]; simp⟩
    exact AList.lookup_erase_ne hne
  | heartbeat | refreshed => rw [announce_inner]; rfl
  | idle | unregistered | ready | prepared | rejected | committed | completed | unrecorded
  | requested | received | receiverDropped => rfl

theorem lookup_run {ops : List Operation} (hk : Known s.inner)
    (hreq : Machine.Always step NoRequest s ops)
    (hops : Machine.Always step (fun s op => ¬ Unseats s op) s ops)
    (hp : p ∈ (s.run ops).inner.modes.state.participants) :
    (s.run ops).inner.clients.lookup p = s.inner.clients.lookup p := by
  induction ops generalizing s with
  | nil => rfl
  | cons op ops ih =>
    have hk' := known_step hk (step_effect s op)
    have hrun := participants_run hk hreq hp
    rw [run_cons] at hp ⊢
    rw [ih hk' hreq.2 hops.2 hp]
    exact lookup_step (step_effect s op) hops.1 (hrun ▸ hp)

/-! ## Connections ended -/

/-- An application that is not connected under an id up to `m` never will be again. -/
theorem gone_for_good {m n : Nat} (hmn : m ≤ n) (ops : List Operation) (hn : Numbered n s.inner)
    (hlt : n + ops.countP Operation.isRegister < 2 ^ 64)
    (hgone : ∀ client, s.inner.clients.lookup p = some client → m < client.id.val.toNat) :
    ∀ client, (s.run ops).inner.clients.lookup p = some client → m < client.id.val.toNat := by
  induction ops generalizing s n with
  | nil => exact hgone
  | cons op ops ih =>
    have he := step_effect s op
    rw [List.countP_cons] at hlt
    have hstep := numbered_step hn he (by omega)
    refine ih (Nat.le_add_right_of_le hmn) hstep (by omega) fun client hc => ?_
    rcases client_origin he hc with hc | ⟨now, rfl, _, hid⟩
    · exact hgone client hc
    · have hnat : (UInt64.ofNat (n + 1)).toNat = n + 1 :=
        UInt64.toNat_ofNat_of_lt' (show n + 1 < 2 ^ 64 by
          simp only [Operation.isRegister, if_true] at hlt; omega)
      rw [hid, hn.next, hnat]
      exact Nat.lt_succ_of_le hmn

/-- An unseated participant has lost every id given so far. -/
theorem unseats_gone {n : Nat} (hn : Numbered n s.inner)
    (hlt : n + (if op.isRegister then 1 else 0) < 2 ^ 64) (hop : Unseats s op) :
    ∃ p ∈ s.inner.modes.state.participants, ∀ client,
      (s.step op).inner.clients.lookup p = some client → n < client.id.val.toNat := by
  cases op with
  | disconnect a conn now =>
    refine ⟨a, hop.1, fun client hc => ?_⟩
    have hs : (s.step (.disconnect a conn now)).inner.clients = s.inner.clients.erase a := by
      show (s.disconnect a conn now).2.inner.clients = _
      simp only [disconnect, hop.2]; rfl
    rw [hs, AList.lookup_erase] at hc; cases hc
  | register a tx now =>
    refine ⟨a, hop.1, fun client hc => ?_⟩
    have hnat : (UInt64.ofNat (n + 1)).toNat = n + 1 := UInt64.toNat_ofNat_of_lt' hlt
    have he := step_effect s (.register a tx now)
    generalize s.step (.register a tx now) = s' at he hc
    cases he with
    | registered =>
      rw [AList.lookup_insert] at hc
      obtain rfl := Option.some.inj hc
      rw [hn.next, hnat]; exact Nat.lt_succ_self n
    | unregistered _ _ _ hroom => exact absurd hop.2 hroom
    | idle _ hreg => cases hreg
  | _ => exact hop.elim

/-! ## When a transition waits for the right people -/

/-- A transition in progress has its request. -/
theorem inProgress_request {timeout : Duration} {channels : Channels} {ops : List Operation}
    (h : ((SamService.new timeout channels).run ops).transitionInProgress = true) :
    ∃ pre target post id, LastRequest (SamService.new timeout channels) ops pre target post id ∧
      ((SamService.new timeout channels).run ops).inner.modes.state.participants =
        ((SamService.new timeout channels).run pre).inner.clients.keys.toFinset := by
  obtain ⟨-, H, hR⟩ := service_refines timeout channels ops
  unfold transitionInProgress at h
  cases hs : ((SamService.new timeout channels).run ops).inner.modes.state with
  | stable mode => rw [hs] at h; cases h
  | preparing id current target W V =>
    obtain ⟨H₀, r, rfl, rfl, rfl, -, -, -, hunion⟩ := hR.phase.inProgress (.inl hs)
    obtain ⟨pre, post, hlast, hP, -, -⟩ := hR.lastRequest
    exact ⟨pre, _, post, _, hlast, hunion.trans hP⟩
  | committing id current target W V =>
    obtain ⟨H₀, r, rfl, rfl, rfl, -, -, -, hunion⟩ := hR.phase.inProgress (.inr hs)
    obtain ⟨pre, post, hlast, hP, -, -⟩ := hR.lastRequest
    exact ⟨pre, _, post, _, hlast, hunion.trans hP⟩

/-- **A transition waits only for applications that are still where they were asked exactly when
    nobody taking part was unseated since the request.** -/
theorem seated_iff (timeout : Duration) (channels : Channels) (ops : List Operation)
    (h : ((SamService.new timeout channels).run ops).transitionInProgress = true) :
    let s := SamService.new timeout channels
    ∃ pre target post id, LastRequest s ops pre target post id ∧
      (Machine.Always step (fun s op => ¬ Unseats s op)
        (s.run (pre ++ [.requestMode target])) post →
        Seated s pre ops) ∧
      (ops.countP Operation.isRegister < 2 ^ 64 → Seated s pre ops →
        Machine.Always step (fun s op => ¬ Unseats s op) (s.run (pre ++ [.requestMode target]))
          post) := by
  intro s
  obtain ⟨pre, target, post, id, hlast, hP⟩ := inProgress_request h
  have hk : ∀ ops, Known (s.run ops).inner := fun ops => (service_refines timeout channels ops).1
  have hreq : Machine.Always step NoRequest (s.run (pre ++ [.requestMode target])) post :=
    Machine.always_of_log hlast.last
  obtain ⟨hpart, hclients⟩ := granted_effect hlast.granted
  rw [← run_concat] at hpart hclients
  refine ⟨pre, target, post, id, hlast, fun hops p hp => ?_, fun hlt hseated => ?_⟩
  · have hmem : p ∈ (s.run pre).inner.clients := by
      rw [hP, List.mem_toFinset] at hp; exact hp
    obtain ⟨⟨conn, tx⟩, hpre⟩ := Option.isSome_iff_exists.mp (AList.lookup_isSome.mpr hmem)
    refine ⟨conn, tx, tx, hpre, ?_⟩
    rw [hlast.run] at hp ⊢
    rw [lookup_run (hk _) hreq hops hp, hclients, hpre]
  · rw [Machine.always_iff]
    intro post₁ op post₂ hpost hun
    -- the state in which `op` unseats `p`, and the registrations before it
    have hrun : (s.run (pre ++ [.requestMode target])).run post₁ =
        s.run (pre ++ [Operation.requestMode target] ++ post₁) := (run_append ..).symm
    have hcount : ops.countP Operation.isRegister =
        (pre ++ [Operation.requestMode target] ++ post₁).countP Operation.isRegister +
          (op :: post₂).countP Operation.isRegister := by
      rw [← List.countP_append, hlast.split, hpost, List.append_assoc, List.append_assoc]; rfl
    have hle : pre.countP Operation.isRegister ≤
        (pre ++ [Operation.requestMode target] ++ post₁).countP Operation.isRegister := by
      rw [List.append_assoc, List.countP_append]; exact Nat.le_add_right _ _
    rw [List.countP_cons] at hcount
    have hn := numbered_run timeout channels (pre ++ [Operation.requestMode target] ++ post₁)
      (by omega)
    rw [← hrun] at hn
    obtain ⟨p, hp, hgone⟩ := unseats_gone hn (by omega) hun
    have hend := gone_for_good (Nat.le_add_right _ _) post₂
      (numbered_step hn (step_effect _ op) (by omega)) (by omega) hgone
    -- `p` still takes part at the end of the run, where it has lost its connection
    have hreq₁ : Machine.Always step NoRequest (s.run (pre ++ [.requestMode target])) post₁ :=
      (Machine.always_append.mp (hpost ▸ hreq)).1
    have hmem : p ∈ (s.run ops).inner.modes.state.participants := by
      rw [hP, ← hpart, ← participants_run (hk _) hreq₁ hp]; exact hp
    obtain ⟨conn, tx, tx', hpre, hnow⟩ := hseated p hmem
    rw [hlast.run, hpost, run_append, run_cons] at hnow
    have hlow := (numbered_run timeout channels pre (by omega)).upTo p _ hpre
    have hhigh := hend _ hnow
    dsimp only at hlow hhigh
    omega

/-- Navigation is asked; then guidance registers, and a connection navigation no longer has ends. -/
theorem seated_iff_demo :
    let pre := [Operation.register Demo.navigation ⟨0⟩ 0, .disconnect Demo.navigation ⟨1⟩ 1,
      .register Demo.navigation ⟨1⟩ 2]
    let post := [Operation.register Demo.guidance ⟨2⟩ 3, .disconnect Demo.navigation ⟨1⟩ 4]
    let ops := pre ++ .requestMode .standby :: post
    Machine.Always step (fun s op => ¬ Unseats s op)
        (Demo.service.run (pre ++ [.requestMode .standby])) post ∧
      Seated Demo.service pre ops := by
  intro pre post ops
  obtain ⟨pre', target, post', id, hlast, hseated, -⟩ :=
    seated_iff 2000000000 (fun _ => Channel.new OUTBOUND_QUEUE_DEPTH) ops (by decide)
  have hkept : Machine.Always step (fun s op => ¬ Unseats s op)
      (Demo.service.run (pre ++ [.requestMode .standby])) post := ⟨by decide, by decide, trivial⟩
  -- the run holds one request
  have hsplit : pre' = pre ∧ target = .standby ∧ post' = post := by
    have h := hlast.split
    rcases pre' with _ | ⟨_, _ | ⟨_, _ | ⟨_, _ | ⟨_, _ | ⟨_, _ | ⟨_, pre'⟩⟩⟩⟩⟩⟩ <;>
      simp [ops, pre, post] at h ⊢
    obtain ⟨h₁, h₂, h₃, rfl, rfl⟩ := h
    exact ⟨⟨h₁.symm, h₂.symm, h₃.symm⟩, rfl, rfl⟩
  obtain ⟨rfl, rfl, rfl⟩ := hsplit
  exact ⟨hkept, hseated hkept⟩

/-- **A participant that disconnects is waited for all the same**, and no mode can be requested
    from then on. -/
theorem disconnect_leaves_waiting :
    let pre := [Operation.register Demo.navigation ⟨0⟩ 0]
    let post := [Operation.disconnect Demo.navigation ⟨1⟩ 1]
    let ops := pre ++ .requestMode .standby :: post
    (Demo.service.run ops).transitionInProgress = true ∧
      LastRequest Demo.service ops pre .standby post ⟨1⟩ ∧ ¬ Seated Demo.service pre ops ∧
      ∀ m, ((Demo.service.run ops).requestMode m).1 =
        .error (.mode "a mode transition is already in progress") := by
  intro pre post ops
  refine ⟨by decide, ⟨rfl, by decide, by decide⟩, fun h => ?_, fun m => rfl⟩
  obtain ⟨conn, tx, tx', -, hnow⟩ := h Demo.navigation (by decide)
  have hgone : (Demo.service.run ops).inner.clients.lookup Demo.navigation = none := by decide
  rw [hgone] at hnow
  cases hnow

end Sam
