import Sam.Client.Runtime

/-!
# The handler of the demo applications (`sam-demo-app`)

`navigation`, `guidance` and `telemetry` share one `ModeHandler`, which agrees to everything but,
where it is told to, a transition to `Working`: every one (`reject_working`), or the next one only
(`reject_working_once`).

* `demoHandler_disciplined` — its mode is the one it last committed.
* `DemoHandler.owed` — the rejections still to come; each one is paid for (`prepareMode_paid`).
-/

namespace Sam

structure DemoHandler where
  name : String
  currentMode : SystemMode
  health : HealthState
  rejectWorking : Bool
  rejectWorkingOnce : Bool
  deriving DecidableEq

namespace DemoHandler

def new (name : String) (rejectWorking : Bool) (health : HealthState) : DemoHandler where
  name := name
  currentMode := .startup
  health := health
  rejectWorking := rejectWorking
  rejectWorkingOnce := false

/-- `DemoHandler::reject_working_once`. -/
def withRejectWorkingOnce (self : DemoHandler) (enabled : Bool) : DemoHandler :=
  { self with rejectWorkingOnce := enabled }

def prepareMode (self : DemoHandler) (requested : SystemMode) : Except String Unit × DemoHandler :=
  if requested = .working ∧ (self.rejectWorking || self.rejectWorkingOnce) then
    (.error (self.name ++ " configured to reject Working"),
      { self with rejectWorkingOnce := false })
  else (.ok (), self)

def commitMode (self : DemoHandler) (mode : SystemMode) : Except String Unit × DemoHandler :=
  (.ok (), { self with currentMode := mode })

end DemoHandler

/-- The `ModeHandler` of a `DemoHandler`, but for `synchronize_mode`. -/
def demoCallbacks : ModeHandler DemoHandler Unit where
  health _ self := self.health
  currentMode self := self.currentMode
  prepareMode _ requested self := self.prepareMode requested
  commitMode _ mode self := self.commitMode mode
  synchronizeMode _ _ self := (.ok (), self)
  abortMode _ _ self := self
  systemStateChanged _ _ _ self := self

/-- The `ModeHandler` of a `DemoHandler`, which does not override `synchronize_mode`. -/
def demoHandler : ModeHandler DemoHandler Unit :=
  { demoCallbacks with synchronizeMode := demoCallbacks.defaultSynchronizeMode }

namespace DemoHandler

variable {self : DemoHandler} {m : SystemMode}

theorem prepareMode_currentMode (self : DemoHandler) (m : SystemMode) :
    (self.prepareMode m).2.currentMode = self.currentMode := by
  unfold prepareMode
  split <;> rfl

theorem prepareMode_rejectWorking (self : DemoHandler) (m : SystemMode) :
    (self.prepareMode m).2.rejectWorking = self.rejectWorking := by
  unfold prepareMode
  split <;> rfl

/-- How many more transitions to `Working` it is going to refuse, unless it refuses them all. -/
def owed (self : DemoHandler) : Nat := if self.rejectWorkingOnce then 1 else 0

theorem prepareMode_owed (self : DemoHandler) (m : SystemMode) :
    (self.prepareMode m).2.owed ≤ self.owed := by
  unfold prepareMode
  split
  · exact Nat.zero_le _
  · exact le_rfl

/-- It refuses because it has to, and then no more. -/
theorem prepareMode_paid (self : DemoHandler) (h : self.rejectWorking = false) (m : SystemMode) :
    (if (self.prepareMode m).1 = .ok () then 0 else 1) + (self.prepareMode m).2.owed ≤
      self.owed := by
  unfold prepareMode
  split
  · rename_i hm
    rw [h, Bool.false_or] at hm
    show 1 + 0 ≤ if self.rejectWorkingOnce then 1 else 0
    rw [if_pos hm.2]
  · simp

end DemoHandler

theorem demoHandler_disciplined : demoHandler.Disciplined where
  synchronize := rfl
  prepare _ m self := self.prepareMode_currentMode m
  commit _ _ _ _ := rfl
  abort _ _ _ := rfl
  stateChanged _ _ _ _ := rfl

end Sam
