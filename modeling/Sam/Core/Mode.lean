import Mathlib.Data.Finset.Basic
import Mathlib.Data.Finset.Dedup
import Sam.Protocol

/-!
# The mode manager (`sam-core/src/mode.rs`)

`ModeManager` as the source has it: a phase (`Stable`, `Preparing`, `Committing`) and the next
transition id, with the four `&mut self` methods returning their result beside the manager they
leave behind.  A `HashSet` is a `Finset`, `u64::wrapping_add` is `UInt64` addition.

* `requestTransition_cases`, `applicationReady_cases`, `applicationRejected_cases`,
  `applicationCommitted_cases` — everything a call can do, guards included; the rest of the
  development never unfolds the methods.
* A call that returns an error leaves the manager as it was.
-/

namespace Sam

/-- Phase of the mode transition state machine. -/
inductive ModeManagerState where
  | stable (mode : SystemMode)
  | preparing (transitionId : TransitionId) (currentMode targetMode : SystemMode)
      (waitingFor ready : Finset ApplicationId)
  | committing (transitionId : TransitionId) (previousMode targetMode : SystemMode)
      (waitingFor committed : Finset ApplicationId)
  deriving DecidableEq

/-- Notable state transitions produced by `ModeManager`. -/
inductive ModeEvent where
  | preparationComplete (transitionId : TransitionId) (targetMode : SystemMode)
  | transitionComplete (transitionId : TransitionId) (mode : SystemMode)
  | transitionAborted (transitionId : TransitionId) (rejectedBy : ApplicationId) (reason : String)
  deriving DecidableEq, Repr

inductive ModeError where
  | transitionInProgress
  | alreadyInMode
  | noParticipants
  | staleTransition
  | unknownParticipant (application : ApplicationId)
  | invalidPhase
  | wrongCommittedMode
  deriving DecidableEq, Repr

/-- `ModeError::to_string`. -/
def ModeError.text : ModeError → String
  | .transitionInProgress => "a mode transition is already in progress"
  | .alreadyInMode => "target mode is already active"
  | .noParticipants => "no applications are available to approve the transition"
  | .staleTransition => "response does not match the active transition"
  | .unknownParticipant application =>
    "application is not participating in this transition: " ++ application.debug
  | .invalidPhase => "response is invalid during the current transition phase"
  | .wrongCommittedMode => "committed mode does not match the requested mode"

structure ModeManager where
  state : ModeManagerState
  nextTransitionId : UInt64
  deriving DecidableEq

namespace ModeManager

/-- `ModeManager::new`. -/
def new (initialMode : SystemMode) : ModeManager := ⟨.stable initialMode, 1⟩

/-- The mode the system is operating in, or transitioning away from. -/
def currentMode (m : ModeManager) : SystemMode :=
  match m.state with
  | .stable mode => mode
  | .preparing _ currentMode _ _ _ => currentMode
  | .committing _ previousMode _ _ _ => previousMode

/-- `ModeManager::request_transition`; `participants` is the iterator, with repetitions. -/
def requestTransition (m : ModeManager) (targetMode : SystemMode)
    (participants : List ApplicationId) : Except ModeError TransitionId × ModeManager :=
  match m.state with
  | .stable currentMode =>
    if currentMode = targetMode then (.error .alreadyInMode, m) else
    let waitingFor := participants.toFinset
    if waitingFor = ∅ then (.error .noParticipants, m) else
    let transitionId : TransitionId := ⟨m.nextTransitionId⟩
    (.ok transitionId,
      ⟨.preparing transitionId currentMode targetMode waitingFor ∅, m.nextTransitionId + 1⟩)
  | _ => (.error .transitionInProgress, m)

/-- `ModeManager::application_ready`. -/
def applicationReady (m : ModeManager) (application : ApplicationId) (responseId : TransitionId) :
    Except ModeError (Option ModeEvent) × ModeManager :=
  match m.state with
  | .preparing transitionId previousMode targetMode waitingFor ready =>
    if transitionId ≠ responseId then (.error .staleTransition, m) else
    if application ∉ waitingFor then (.error (.unknownParticipant application), m) else
    let waitingFor := waitingFor.erase application
    let ready := insert application ready
    if waitingFor = ∅ then
      (.ok (some (.preparationComplete transitionId targetMode)),
        { m with state := .committing transitionId previousMode targetMode ready ∅ })
    else
      (.ok none,
        { m with state := .preparing transitionId previousMode targetMode waitingFor ready })
  | _ => (.error .invalidPhase, m)

/-- `ModeManager::application_rejected`. -/
def applicationRejected (m : ModeManager) (application : ApplicationId)
    (responseId : TransitionId) (reason : String) : Except ModeError ModeEvent × ModeManager :=
  match m.state with
  | .preparing transitionId currentMode _ waitingFor ready =>
    let isParticipant := application ∈ waitingFor ∨ application ∈ ready
    if transitionId ≠ responseId then (.error .staleTransition, m) else
    if ¬ isParticipant then (.error (.unknownParticipant application), m) else
    (.ok (.transitionAborted transitionId application reason),
      { m with state := .stable currentMode })
  | _ => (.error .invalidPhase, m)

/-- `ModeManager::application_committed`. -/
def applicationCommitted (m : ModeManager) (application : ApplicationId)
    (responseId : TransitionId) (committedMode : SystemMode) :
    Except ModeError (Option ModeEvent) × ModeManager :=
  match m.state with
  | .committing transitionId previousMode targetMode waitingFor committed =>
    if transitionId ≠ responseId then (.error .staleTransition, m) else
    if targetMode ≠ committedMode then (.error .wrongCommittedMode, m) else
    if application ∉ waitingFor then (.error (.unknownParticipant application), m) else
    let waitingFor := waitingFor.erase application
    let committed := insert application committed
    if waitingFor = ∅ then
      (.ok (some (.transitionComplete transitionId targetMode)),
        { m with state := .stable targetMode })
    else
      (.ok none,
        { m with state := .committing transitionId previousMode targetMode waitingFor committed })
  | _ => (.error .invalidPhase, m)

/-! ## Everything a call can do -/

variable {m : ModeManager}

theorem requestTransition_cases (m : ModeManager) (target : SystemMode)
    (participants : List ApplicationId) :
    (∃ e, m.requestTransition target participants = (.error e, m)) ∨
    (∃ current, m.state = .stable current ∧ current ≠ target ∧ participants.toFinset.Nonempty ∧
      m.requestTransition target participants =
        (.ok ⟨m.nextTransitionId⟩,
          ⟨.preparing ⟨m.nextTransitionId⟩ current target participants.toFinset ∅,
            m.nextTransitionId + 1⟩)) := by
  unfold requestTransition
  split
  · rename_i current hs
    split
    · exact .inl ⟨_, rfl⟩
    · rename_i hne
      dsimp only
      split
      · exact .inl ⟨_, rfl⟩
      · rename_i hP
        exact .inr ⟨current, hs, hne, Finset.nonempty_iff_ne_empty.mpr hP, rfl⟩
  · exact .inl ⟨_, rfl⟩

theorem applicationReady_cases (m : ModeManager) (application : ApplicationId)
    (id : TransitionId) :
    (∃ e, (e = .invalidPhase ∨ e = .staleTransition ∨ e = .unknownParticipant application) ∧
      m.applicationReady application id = (.error e, m)) ∨
    (∃ current target W R, m.state = .preparing id current target W R ∧ application ∈ W ∧
      ((W.erase application = ∅ ∧ m.applicationReady application id =
          (.ok (some (.preparationComplete id target)),
            { m with state := .committing id current target (insert application R) ∅ })) ∨
       (W.erase application ≠ ∅ ∧ m.applicationReady application id =
          (.ok none, { m with
            state := .preparing id current target (W.erase application)
              (insert application R) })))) := by
  unfold applicationReady
  split
  · rename_i id' current target W R hs
    split
    · exact .inl ⟨_, .inr (.inl rfl), rfl⟩
    · rename_i hid
      obtain rfl := not_not.mp hid
      split
      · exact .inl ⟨_, .inr (.inr rfl), rfl⟩
      · rename_i hW
        refine .inr ⟨current, target, W, R, hs, not_not.mp hW, ?_⟩
        dsimp only
        split
        · rename_i he; exact .inl ⟨he, rfl⟩
        · rename_i he; exact .inr ⟨he, rfl⟩
  · exact .inl ⟨_, .inl rfl, rfl⟩

theorem applicationRejected_cases (m : ModeManager) (application : ApplicationId)
    (id : TransitionId) (reason : String) :
    (∃ e, (e = .invalidPhase ∨ e = .staleTransition ∨ e = .unknownParticipant application) ∧
      m.applicationRejected application id reason = (.error e, m)) ∨
    (∃ current target W R, m.state = .preparing id current target W R ∧
      (application ∈ W ∨ application ∈ R) ∧
      m.applicationRejected application id reason =
        (.ok (.transitionAborted id application reason),
          { m with state := .stable current })) := by
  unfold applicationRejected
  split
  · rename_i id' current target W R hs
    dsimp only
    split
    · exact .inl ⟨_, .inr (.inl rfl), rfl⟩
    · rename_i hid
      obtain rfl := not_not.mp hid
      split
      · exact .inl ⟨_, .inr (.inr rfl), rfl⟩
      · rename_i hp
        exact .inr ⟨current, target, W, R, hs, not_not.mp hp, rfl⟩
  · exact .inl ⟨_, .inl rfl, rfl⟩

theorem applicationCommitted_cases (m : ModeManager) (application : ApplicationId)
    (id : TransitionId) (mode : SystemMode) :
    (∃ e, (e = .invalidPhase ∨ e = .staleTransition ∨ e = .unknownParticipant application ∨
        e = .wrongCommittedMode) ∧
      m.applicationCommitted application id mode = (.error e, m)) ∨
    (∃ previous W C, m.state = .committing id previous mode W C ∧ application ∈ W ∧
      ((W.erase application = ∅ ∧ m.applicationCommitted application id mode =
          (.ok (some (.transitionComplete id mode)), { m with state := .stable mode })) ∨
       (W.erase application ≠ ∅ ∧ m.applicationCommitted application id mode =
          (.ok none, { m with
            state := .committing id previous mode (W.erase application)
              (insert application C) })))) := by
  unfold applicationCommitted
  split
  · rename_i id' previous target W C hs
    split
    · exact .inl ⟨_, .inr (.inl rfl), rfl⟩
    · rename_i hid
      obtain rfl := not_not.mp hid
      split
      · exact .inl ⟨_, .inr (.inr (.inr rfl)), rfl⟩
      · rename_i hmode
        obtain rfl := not_not.mp hmode
        split
        · exact .inl ⟨_, .inr (.inr (.inl rfl)), rfl⟩
        · rename_i hW
          refine .inr ⟨previous, W, C, hs, not_not.mp hW, ?_⟩
          dsimp only
          split
          · rename_i he; exact .inl ⟨he, rfl⟩
          · rename_i he; exact .inr ⟨he, rfl⟩
  · exact .inl ⟨_, .inl rfl, rfl⟩

end ModeManager

end Sam
