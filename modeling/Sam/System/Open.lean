import Sam.System.Seats

/-!
# SAM among strangers

SAM serves whoever connects.  Here a link that no application of ours has opened may be used by a
stranger, who writes what it likes, under any name; our applications still run
`ApplicationRuntime`.

* `OpenInput`, `openStep` — a step of SAM or of one of our applications, or a stranger's message.
* `OpenMove` — what such a step can do; `open_invariant` is induction over a run.
* `driven_open`, `received_open`, `seated_open`, `distinct_open` — what is known of SAM, of its
  session tasks and of what they deliver does not depend on who writes to the links.
* `openRun_ours` — without strangers this is a run of SAM and its applications.
-/

namespace Sam

variable {η ω : Type*}

/-- One step of one party, strangers included. -/
inductive OpenInput (η ω : Type*) where
  | ours (input : Input η ω)
  /-- a stranger writes a message, on a link none of our applications has opened -/
  | stranger (link : Nat) (message : ApplicationToSam)

namespace System

/-- One step.  Our applications open links nobody has used. -/
def openStep (handlers : ApplicationId → ModeHandler η ω) (s : System η) : OpenInput η ω → System η
  | .ours (.connect a k) =>
    match (s.links k).written with
    | [] => step handlers s (.connect a k)
    | _ :: _ => s
  | .ours input => step handlers s input
  | .stranger k message =>
    match (s.links k).owner with
    | none => s.setLink k ((s.links k).write message)
    | some _ => s

/-- The state after a list of inputs. -/
abbrev openRun (handlers : ApplicationId → ModeHandler η ω) (s : System η)
    (inputs : List (OpenInput η ω)) : System η := Machine.run (openStep handlers) s inputs

variable {handlers : ApplicationId → ModeHandler η ω} {timeout : Duration} {s s' : System η}
  {k : Nat} {link : Link}

variable (handlers) in
/-- **Everything a step can do.**  A link that one of our applications has just opened
    was unused. -/
inductive OpenMove (s : System η) : System η → Prop where
  | ours (s' : System η) (hm : Move handlers s s')
      (hopened : ∀ k, (s.links k).owner = none → (s'.links k).owner ≠ none →
        (s.links k).written = []) :
      OpenMove s s'
  | stranger (k : Nat) (message : ApplicationToSam) (ho : (s.links k).owner = none) :
      OpenMove s (s.setLink k ((s.links k).write message))

/-- Only a connection gives a link an owner. -/
theorem owner_setLink (h : link.owner = (s.links k).owner) (k' : Nat) :
    ((s.setLink k link).links k').owner = (s.links k').owner := by
  rw [setLink_links]
  by_cases hk : k' = k
  · rw [hk, Function.update_self, h]
  · rw [Function.update_of_ne hk]

theorem owner_step {input : Input η ω} (hin : ∀ a k, input ≠ .connect a k) (k' : Nat) :
    ((step handlers s input).links k').owner = (s.links k').owner := by
  cases input with
  | connect a k => exact absurd rfl (hin a k)
  | restart | requestMode | refreshHealth => rfl
  | serverReceive k now =>
    show ((s.serverReceive k now).links k').owner = _
    unfold serverReceive
    dsimp only
    split
    · split
      · exact owner_setLink (by rfl) k'
      · split <;> exact owner_setLink (by rfl) k'
    · exact owner_setLink (by rfl) k'
    · exact owner_setLink (by rfl) k'
    · rfl
  | serverSend k written =>
    show ((s.serverSend k written).links k').owner = _
    unfold serverSend
    dsimp only
    split
    · cases written <;> exact owner_setLink (by rfl) k'
    · rfl
  | serverClose k now =>
    show ((s.serverClose k now).links k').owner = _
    unfold serverClose
    dsimp only
    split
    · exact owner_setLink (by rfl) k'
    · exact owner_setLink (by rfl) k'
    · exact owner_setLink (by rfl) k'
    · rfl
  | clientReceive a world written =>
    show ((s.clientReceive handlers a world written).links k').owner = _
    unfold clientReceive
    dsimp only
    split
    · split
      · rfl
      · exact owner_setLink (by rfl) k'
    · split
      · rfl
      · split
        · exact owner_setLink (by rfl) k'
        · cases written <;> exact owner_setLink (by rfl) k'
        · exact owner_setLink (by rfl) k'
    · rfl
  | clientHeartbeat a world written =>
    show ((s.clientHeartbeat handlers a world written).links k').owner = _
    unfold clientHeartbeat
    dsimp only
    split
    · cases written with
      | true => exact owner_setLink (by rfl) k'
      | false => rfl
    · rfl
  | clientClose a =>
    unfold step
    dsimp only
    split <;> rfl

/-- **Every step is one of the moves.** -/
theorem open_move (s : System η) (input : OpenInput η ω) :
    OpenMove handlers s (openStep handlers s input) := by
  have hidle : OpenMove handlers s s := .ours s .idle fun k h hn => absurd h hn
  cases input with
  | ours input =>
    by_cases hin : ∃ a k, input = .connect a k
    · obtain ⟨a, k, rfl⟩ := hin
      unfold openStep
      dsimp only
      split
      · rename_i hw
        refine .ours _ (step_move s _) fun k' hn hopen => ?_
        by_cases hk : k' = k
        · rw [hk]
          exact hw
        · refine absurd ?_ hopen
          unfold step
          dsimp only
          split
          · rw [setClient_links, setLink_links, Function.update_of_ne hk]
            exact hn
          · exact hn
      · exact hidle
    · have hstep : openStep handlers s (.ours input) = step handlers s input := by
        cases input with
        | connect a k => exact absurd ⟨a, k, rfl⟩ hin
        | _ => rfl
      rw [hstep]
      refine .ours _ (step_move s input) fun k hn hopen => absurd ?_ hopen
      rw [owner_step (fun a k h => hin ⟨a, k, h⟩) k]
      exact hn
  | stranger k message =>
    unfold openStep
    dsimp only
    split
    · rename_i ho
      exact .stranger k message ho
    · exact hidle

/-- **Invariants of every run.** -/
theorem open_invariant {I : System η → Prop} (h0 : I s)
    (hstep : ∀ inputs s', I (openRun handlers s inputs) →
      OpenMove handlers (openRun handlers s inputs) s' → I s')
    (inputs : List (OpenInput η ω)) : I (openRun handlers s inputs) := by
  refine Machine.history_invariant (R := fun _ s => I s) h0 (fun inputs input h => ?_) inputs
  exact hstep inputs _ h (open_move _ input)

/-! ## What does not depend on strangers -/

/-- A stranger's message changes nothing about a link but what is in flight to SAM. -/
theorem stranger_links {P : Nat → Link → Prop} (h : ∀ k, P k (s.links k))
    (message : ApplicationToSam) (hk : P k ((s.links k).write message)) (k' : Nat) :
    P k' ((s.setLink k ((s.links k).write message)).links k') :=
  update_links (P := P) (fun k' _ => h k') hk k'

theorem stranger_task (message : ApplicationToSam) (k' : Nat) :
    ((s.setLink k ((s.links k).write message)).links k').task = (s.links k').task :=
  stranger_links (P := fun k' link => link.task = (s.links k').task) (fun _ => rfl) message rfl k'

theorem driven_open (timeout : Duration) (initial : ApplicationId → η)
    (inputs : List (OpenInput η ω)) :
    Driven timeout (openRun handlers (System.new timeout initial) inputs) := by
  refine open_invariant (driven_new timeout initial) (fun inputs s' h hm => ?_) inputs
  cases hm with
  | ours _ hm => exact driven_move h hm
  | stranger k message =>
    refine ⟨h.service, h.opening, fun k' hawait => h.awaiting k' ?_⟩
    rw [stranger_task] at hawait
    exact hawait

theorem received_open (timeout : Duration) (initial : ApplicationId → η)
    (inputs : List (OpenInput η ω)) :
    Received (openRun handlers (System.new timeout initial) inputs) := by
  refine open_invariant (received_new timeout initial) (fun inputs s' h hm => ?_) inputs
  cases hm with
  | ours _ hm => exact received_move h hm
  | stranger k message => exact stranger_links h message (h k)

theorem seated_open (timeout : Duration) (initial : ApplicationId → η)
    (inputs : List (OpenInput η ω)) :
    Seated (openRun handlers (System.new timeout initial) inputs) := by
  refine open_invariant (seated_new timeout initial) (fun inputs s' h hm => ?_) inputs
  cases hm with
  | ours _ hm => exact seated_move (driven_open timeout initial inputs) h hm
  | stranger k message =>
    intro a conn tx ha
    obtain ⟨k', htx, hseat⟩ := h a conn tx ha
    exact ⟨k', htx, by rw [stranger_task]; exact hseat⟩

theorem open_registrations_mono (hm : OpenMove handlers s s') :
    s.registrations ≤ s'.registrations := by
  cases hm with
  | ours _ hm => exact registrations_mono hm
  | stranger => exact le_refl _

theorem distinct_open (timeout : Duration) (initial : ApplicationId → η)
    (inputs : List (OpenInput η ω)) :
    (openRun handlers (System.new timeout initial) inputs).registrations < 2 ^ 64 →
      Distinct (openRun handlers (System.new timeout initial) inputs) := by
  refine open_invariant (I := fun s => s.registrations < 2 ^ 64 → Distinct s)
    (fun _ => distinct_new timeout initial) (fun inputs s' h hm hn => ?_) inputs
  have hold := h ((open_registrations_mono hm).trans_lt hn)
  cases hm with
  | ours _ hm => exact distinct_move (driven_open timeout initial inputs) hold hm hn
  | stranger k message =>
    refine ⟨fun k' a conn h => hold.upTo k' a conn ?_,
      fun k₁ k₂ a₁ a₂ conn h₁ h₂ => hold.distinct k₁ k₂ a₁ a₂ conn ?_ ?_⟩
    · rwa [stranger_task] at h
    · rwa [stranger_task] at h₁
    · rwa [stranger_task] at h₂

/-! ## No strangers -/

/-- Among ourselves the links that nobody has opened are unused. -/
theorem openStep_ours (ho : Owned s) (input : Input η ω) :
    openStep handlers s (.ours input) = step handlers s input := by
  cases input with
  | connect a k =>
    rw [openStep]
    split
    · rfl
    · rename_i hw
      cases hn : (s.links k).owner with
      | none =>
        rw [ho.unwritten hn] at hw
        cases hw
      | some b =>
        rw [step, hn]
        cases (s.clients a).session <;> rfl
  | restart | serverReceive | serverSend | serverClose | clientReceive | clientHeartbeat
  | clientClose | requestMode | refreshHealth => rfl

/-- **A run without strangers is a run of SAM and its applications.** -/
theorem openRun_ours (timeout : Duration) (initial : ApplicationId → η)
    (inputs : List (Input η ω)) :
    openRun handlers (System.new timeout initial) (inputs.map .ours) =
      run handlers (System.new timeout initial) inputs := by
  induction inputs using List.reverseRecOn with
  | nil => rfl
  | append_singleton inputs input ih =>
    unfold openRun run at ih ⊢
    rw [List.map_append, List.map_singleton, Machine.run_concat, ih, Machine.run_concat]
    exact openStep_ours (owned_run timeout initial inputs) input

end System

end Sam
