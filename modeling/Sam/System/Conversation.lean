import Sam.System.Honest

/-!
# The conversation on one connection about a commit

What SAM holds of one client, what the client has made of it, and what is in flight between the
two, without the rest of the system.

* `View` — one client on its connection.
* `Quiet`, `Ordered`, `Answered`, `Done` — the stages of the conversation: no commit is ordered or
  confirmed in what is in flight; the client has still to read the `CommitMode`; its `ModeCommitted`
  is on the way; SAM has taken it.
* `Fit` — the stage a client may be in while the manager is in some phase.
* `Fit.minor`, `Fit.answer`, `Quiet.order`, `Answered.confirm` — what becomes of the stage when
  something else moves, when the client commits, when the commit is ordered and when its
  confirmation is taken.
-/

namespace Sam

/-- The transition a `CommitMode` orders to commit, and the mode. -/
def SamToApplication.commit? : SamToApplication → Option (TransitionId × SystemMode)
  | .commitMode id mode => some (id, mode)
  | _ => none

/-- The transition a `ModeCommitted` confirms, and the mode. -/
def ApplicationToSam.confirm? : ApplicationToSam → Option (TransitionId × SystemMode)
  | .modeCommitted _ id mode => some (id, mode)
  | _ => none

/-- The orders to commit among some messages. -/
def commits (l : List SamToApplication) : List (TransitionId × SystemMode) :=
  l.filterMap SamToApplication.commit?

/-- The confirmations among some messages. -/
def confirms (l : List ApplicationToSam) : List (TransitionId × SystemMode) :=
  l.filterMap ApplicationToSam.confirm?

@[simp] theorem commits_append (l l' : List SamToApplication) :
    commits (l ++ l') = commits l ++ commits l' := List.filterMap_append

@[simp] theorem confirms_append (l l' : List ApplicationToSam) :
    confirms (l ++ l') = confirms l ++ confirms l' := List.filterMap_append

theorem commits_eq_nil {l : List SamToApplication} :
    commits l = [] ↔ ∀ id mode, .commitMode id mode ∉ l := by
  unfold commits
  rw [List.filterMap_eq_nil_iff]
  constructor
  · intro h id mode hm
    cases h _ hm
  · intro h x hx
    cases x with
    | commitMode id mode => exact absurd hx (h id mode)
    | registerAccepted | registerRejected | prepareMode | abortMode | stateBroadcast => rfl

theorem confirms_eq_nil {l : List ApplicationToSam} :
    confirms l = [] ↔ ∀ a id mode, .modeCommitted a id mode ∉ l := by
  unfold confirms
  rw [List.filterMap_eq_nil_iff]
  constructor
  · intro h a id mode hm
    cases h _ hm
  · intro h x hx
    cases x with
    | modeCommitted a id mode => exact absurd hx (h a id mode)
    | register | heartbeat | modeReady | modeRejected => rfl

/-- Every mode reported in these messages is `m`. -/
def Reports (m : SystemMode) (l : List ApplicationToSam) : Prop :=
  ∀ x ∈ l, ∀ m', x.mode? = some m' → m' = m

theorem Reports.concat {m : SystemMode} {l : List ApplicationToSam} {y : ApplicationToSam}
    (h : Reports m l) (hy : ∀ m', y.mode? = some m' → m' = m) : Reports m (l ++ [y]) := by
  intro x hx
  rcases List.mem_append.mp hx with hx | hx
  · exact h x hx
  · rw [List.mem_singleton.mp hx]
    exact hy

/-- One client on its connection: what is in flight to SAM, what the client has not read yet and the
    mode SAM has recorded. -/
structure View (η : Type*) where
  client : Client η
  up : List ApplicationToSam
  unread : List SamToApplication
  mode : Option SystemMode

section Stages

variable {η ω : Type*} (h : ModeHandler η ω) (a : ApplicationId) (k : Nat) (id : TransitionId)
  (m : SystemMode)

/-- The client is in session on link `k`, in this mode. -/
def Adopted (client : Client η) : Prop :=
  client.session = .running k ∧ h.currentMode client.handler = m

/-- No commit is ordered or confirmed in what is in flight. -/
structure Quiet (v : View η) : Prop where
  unread : commits v.unread = []
  up : confirms v.up = []

/-- The client has not confirmed the commit; the order is still unread, or was lost. -/
structure Ordered (v : View η) : Prop where
  unread : (commits v.unread).Sublist [(id, m)]
  up : confirms v.up = []

/-- The client has committed; its confirmation is in flight, and reports behind it are of the new
    mode. -/
structure Answered (v : View η) : Prop where
  unread : commits v.unread = []
  adopted : Adopted h k m v.client
  up : ∃ A B, v.up = A ++ .modeCommitted a id m :: B ∧ confirms A = [] ∧ confirms B = [] ∧
    Reports m B

/-- The client has committed, SAM has recorded it, and all reports in flight are of the new mode. -/
structure Done (v : View η) : Prop where
  unread : commits v.unread = []
  adopted : Adopted h k m v.client
  up : confirms v.up = []
  reports : Reports m v.up
  mode : v.mode = some m

/-- The stage of the conversation with `a` in each phase of the manager. -/
def Fit : ModeManagerState → View η → Prop
  | .stable _, v => Quiet v
  | .preparing _ _ _ W R, v => Quiet v ∧ (a ∈ W ∨ a ∈ R)
  | .committing id _ m W C, v =>
    (a ∈ W ∧ (Ordered id m v ∨ Answered h a k id m v)) ∨ (a ∈ C ∧ Done h k m v)

/-- What is in flight to SAM: nothing changes, the client writes a message, or SAM takes one; and it
    confirms nothing. -/
inductive UpStep (v : View η) : List ApplicationToSam → Prop where
  | same : UpStep v v.up
  | write (y : ApplicationToSam) (hy : y.confirm? = none)
      (hmode : ∀ m, Adopted h k m v.client → ∀ m', y.mode? = some m' → m' = m) :
      UpStep v (v.up ++ [y])
  | take (x : ApplicationToSam) (up : List ApplicationToSam) (hup : v.up = x :: up)
      (hx : x.confirm? = none) : UpStep v up

/-- No order to commit is given and nothing confirmed. -/
structure Minor (v v' : View η) : Prop where
  up : UpStep h k v v'.up
  unread : (commits v'.unread).Sublist (commits v.unread)

/-- The client stays in its session and mode, and its record too, if that is what it reports. -/
structure Keeps (v v' : View η) : Prop where
  client : ∀ m, Adopted h k m v.client → Adopted h k m v'.client
  mode : ∀ m, Reports m v.up → v.mode = some m → v'.mode = some m

end Stages

section Steps

variable {η ω : Type*} {h : ModeHandler η ω} {a : ApplicationId} {k : Nat} {id : TransitionId}
  {m : SystemMode} {v v' : View η} {phase : ModeManagerState}

/-! ## Something else moves -/

theorem UpStep.confirms {up : List ApplicationToSam} (hs : UpStep h k v up)
    (hv : Sam.confirms v.up = []) : Sam.confirms up = [] := by
  cases hs with
  | same => exact hv
  | write y hy =>
    rw [confirms_append, hv]
    exact List.filterMap_cons_none hy
  | take x up hup hx =>
    rw [hup] at hv
    exact (List.filterMap_cons_none hx).symm.trans hv

theorem UpStep.reports {up : List ApplicationToSam} (hs : UpStep h k v up)
    (ha : Adopted h k m v.client) (hv : Reports m v.up) : Reports m up := by
  cases hs with
  | same => exact hv
  | write y _ hmode => exact hv.concat (hmode m ha)
  | take x up hup =>
    intro y hy
    exact hv y (by rw [hup]; exact List.mem_cons_of_mem _ hy)

theorem Minor.nil (hm : Minor h k v v') (hv : commits v.unread = []) : commits v'.unread = [] := by
  have hu := hm.unread
  rw [hv] at hu
  exact List.sublist_nil.mp hu

theorem Quiet.minor (hv : Quiet v) (hm : Minor h k v v') : Quiet v' :=
  ⟨hm.nil hv.unread, hm.up.confirms hv.up⟩

theorem Ordered.minor (hv : Ordered id m v) (hm : Minor h k v v') : Ordered id m v' :=
  ⟨hm.unread.trans hv.unread, hm.up.confirms hv.up⟩

theorem Answered.minor (hv : Answered h a k id m v) (hm : Minor h k v v') (hk : Keeps h k v v') :
    Answered h a k id m v' := by
  obtain ⟨A, B, hup, hA, hB, hreports⟩ := hv.up
  refine ⟨hm.nil hv.unread, hk.client m hv.adopted, ?_⟩
  have hstep := hm.up
  generalize v'.up = up' at hstep
  cases hstep with
  | same => exact ⟨A, B, hup, hA, hB, hreports⟩
  | write y hy hmode =>
    refine ⟨A, B ++ [y], by rw [hup]; simp, hA, ?_, hreports.concat (hmode m hv.adopted)⟩
    rw [confirms_append, hB]
    exact List.filterMap_cons_none hy
  | take x _ hx hno =>
    -- the confirmation is not the message taken
    rw [hup] at hx
    cases A with
    | nil =>
      rw [List.nil_append, List.cons.injEq] at hx
      rw [← hx.1] at hno
      cases hno
    | cons y A =>
      rw [List.cons_append, List.cons.injEq] at hx
      obtain ⟨rfl, rfl⟩ := hx
      exact ⟨A, B, rfl, (List.filterMap_cons_none hno).symm.trans hA, hB, hreports⟩

theorem Done.minor (hv : Done h k m v) (hm : Minor h k v v') (hk : Keeps h k v v') :
    Done h k m v' :=
  ⟨hm.nil hv.unread, hk.client m hv.adopted, hm.up.confirms hv.up,
    hm.up.reports hv.adopted hv.reports, hk.mode m hv.reports hv.mode⟩

/-- **Something else moves**: the conversation stays where it is, if the client and its record do
    while a transition is being committed. -/
theorem Fit.minor (hf : Fit h a k phase v) (hm : Minor h k v v')
    (hk : (∃ id previous m W C, phase = .committing id previous m W C) → Keeps h k v v') :
    Fit h a k phase v' := by
  cases phase with
  | stable => exact Quiet.minor hf hm
  | preparing => exact ⟨hf.1.minor hm, hf.2⟩
  | committing id previous m W C =>
    have hkeeps := hk ⟨id, previous, m, W, C, rfl⟩
    rcases hf with ⟨hW, hv | hv⟩ | ⟨hC, hv⟩
    · exact .inl ⟨hW, .inl (hv.minor hm)⟩
    · exact .inl ⟨hW, .inr (hv.minor hm hkeeps)⟩
    · exact .inr ⟨hC, hv.minor hm hkeeps⟩

/-! ## The conversation itself -/

/-- **The commit is ordered.** -/
theorem Quiet.order (hv : Quiet v) (hup : v'.up = v.up) {l : List SamToApplication}
    (hu : v'.unread = v.unread ++ l) (hl : (commits l).Sublist [(id, m)]) : Ordered id m v' := by
  refine ⟨?_, by rw [hup]; exact hv.up⟩
  rw [hu, commits_append, hv.unread]
  exact hl

/-- **The client commits** and writes its confirmation. -/
theorem Fit.answer (hf : Fit h a k phase v) {rest : List SamToApplication}
    (hu : v.unread = .commitMode id m :: rest) (hrest : v'.unread = rest)
    (hup : v'.up = v.up ++ [.modeCommitted a id m]) (ha : Adopted h k m v'.client) :
    Fit h a k phase v' := by
  have hcommits : commits v.unread = (id, m) :: commits rest := by
    rw [hu]
    exact List.filterMap_cons_some rfl
  have hunread : commits v.unread ≠ [] := by
    rw [hcommits]
    exact List.cons_ne_nil _ _
  cases phase with
  | stable => exact absurd (Quiet.unread hf) hunread
  | preparing => exact absurd hf.1.unread hunread
  | committing id' previous m' W C =>
    rcases hf with ⟨hW, hv | hv⟩ | ⟨-, hv⟩
    · -- the order read is the one given
      have hsub := hv.unread
      rw [hcommits] at hsub
      have hnil : commits rest = [] := by
        have hlen := hsub.length_le
        rw [List.length_cons, List.length_singleton] at hlen
        exact List.length_eq_zero_iff.mp (by omega)
      rw [hnil] at hsub
      have heq := List.singleton_sublist.mp hsub
      rw [List.mem_singleton] at heq
      cases heq
      refine .inl ⟨hW, .inr ⟨by rw [hrest]; exact hnil, ha, v.up, [], hup, hv.up, rfl, ?_⟩⟩
      exact fun x hx => by cases hx
    · exact absurd hv.unread hunread
    · exact absurd hv.unread hunread

/-- A confirmation that is the next message to be taken is that of the transition. -/
theorem Answered.next (hv : Answered h a k id m v) {x : ApplicationToSam}
    {up : List ApplicationToSam} (hup : v.up = x :: up) (hx : x.confirm? ≠ none) :
    x = .modeCommitted a id m ∧ confirms up = [] ∧ Reports m up := by
  obtain ⟨A, B, hAB, hA, hB, hreports⟩ := hv.up
  rw [hup] at hAB
  cases A with
  | nil =>
    rw [List.nil_append, List.cons.injEq] at hAB
    obtain ⟨rfl, rfl⟩ := hAB
    exact ⟨rfl, hB, hreports⟩
  | cons y A =>
    rw [List.cons_append, List.cons.injEq] at hAB
    obtain ⟨rfl, -⟩ := hAB
    rw [confirms_eq_nil] at hA
    cases x with
    | modeCommitted b id' m' => exact absurd (List.mem_cons_self ..) (hA b id' m')
    | register | heartbeat | modeReady | modeRejected => exact absurd rfl hx

/-- **SAM takes the confirmation** and records it. -/
theorem Answered.confirm (hv : Answered h a k id m v) {x : ApplicationToSam}
    (hup : v.up = x :: v'.up) (hx : x.confirm? ≠ none) (hc : v'.client = v.client)
    (hu : (commits v'.unread).Sublist (commits v.unread)) (hmode : v'.mode = some m) :
    Done h k m v' := by
  obtain ⟨-, hconfirms, hreports⟩ := hv.next hup hx
  refine ⟨?_, by rw [hc]; exact hv.adopted, hconfirms, hreports, hmode⟩
  rw [hv.unread] at hu
  exact List.sublist_nil.mp hu

theorem Done.quiet (hv : Done h k m v) : Quiet v := ⟨hv.unread, hv.up⟩

/-- Only while a transition is being committed can the next message taken be a confirmation; then
    the client has been waited for and has answered. -/
theorem Fit.confirming (hf : Fit h a k phase v) {x : ApplicationToSam}
    {up : List ApplicationToSam} (hup : v.up = x :: up) (hx : x.confirm? ≠ none) :
    ∃ id previous m W C, phase = .committing id previous m W C ∧ a ∈ W ∧ Answered h a k id m v := by
  have hconfirms : confirms v.up ≠ [] := by
    intro hnil
    rw [hup, confirms_eq_nil] at hnil
    cases x with
    | modeCommitted b id m => exact hnil b id m (List.mem_cons_self ..)
    | register | heartbeat | modeReady | modeRejected => exact hx rfl
  cases phase with
  | stable => exact absurd (Quiet.up hf) hconfirms
  | preparing => exact absurd hf.1.up hconfirms
  | committing id previous m W C =>
    rcases hf with ⟨hW, hv | hv⟩ | ⟨-, hv⟩
    · exact absurd hv.up hconfirms
    · exact ⟨id, previous, m, W, C, rfl, hW, hv⟩
    · exact absurd hv.up hconfirms

end Steps

end Sam
