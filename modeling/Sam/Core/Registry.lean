import Mathlib.Data.List.AList
import Sam.Protocol

/-!
# The application registry (`sam-core/src/registry.rs`)

A `HashMap` is an association list without repeated keys; nothing proved about it depends on
the order of its entries.  An `Instant` is a number of nanoseconds from an arbitrary origin, so
`saturating_duration_since` is truncated subtraction.

* `modify` — the shape shared by `mark_disconnected`, `update_heartbeat` and `set_mode`:
  show one status in place, or fail with `NotRegistered`.
-/

namespace Sam

/-- `std::collections::HashMap`. -/
abbrev HashMap (α β : Type) := AList (fun _ : α => β)

/-- `std::time::Instant`, in nanoseconds. -/
abbrev Instant := Nat

/-- `std::time::Duration`, in nanoseconds. -/
abbrev Duration := Nat

/-- `Instant::saturating_duration_since`. -/
def Instant.saturatingDurationSince (now earlier : Instant) : Duration := now - earlier

inductive RegistryError where
  | notRegistered (application : ApplicationId)
  deriving DecidableEq, Repr

/-- `RegistryError::to_string`. -/
def RegistryError.text : RegistryError → String
  | .notRegistered application => "application is not registered: " ++ application.debug

/-- Last-known status of a single registered application. -/
structure ApplicationStatus where
  currentMode : SystemMode
  health : HealthState
  lastHeartbeat : Instant
  connected : Bool
  deriving DecidableEq

/-- `ApplicationStatus::new`. -/
def ApplicationStatus.new (now : Instant) : ApplicationStatus := ⟨.startup, .healthy, now, true⟩

structure ApplicationRegistry where
  applications : HashMap ApplicationId ApplicationStatus

namespace ApplicationRegistry

/-- `ApplicationRegistry::default`. -/
def empty : ApplicationRegistry := ⟨∅⟩

def get (r : ApplicationRegistry) (application : ApplicationId) : Option ApplicationStatus :=
  r.applications.lookup application

/-- `ApplicationRegistry::iter`. -/
def iter (r : ApplicationRegistry) : List (ApplicationId × ApplicationStatus) :=
  r.applications.entries.map fun e => (e.1, e.2)

/-- `ApplicationRegistry::register`. -/
def register (r : ApplicationRegistry) (application : ApplicationId) (now : Instant) :
    ApplicationRegistry := ⟨r.applications.insert application (.new now)⟩

/-- `get_mut` and an update of what it points to. -/
def modify (r : ApplicationRegistry) (application : ApplicationId)
    (f : ApplicationStatus → ApplicationStatus) : Except RegistryError Unit × ApplicationRegistry :=
  match r.applications.lookup application with
  | none => (.error (.notRegistered application), r)
  | some status => (.ok (), ⟨r.applications.insert application (f status)⟩)

/-- `ApplicationRegistry::mark_disconnected`. -/
def markDisconnected (r : ApplicationRegistry) (application : ApplicationId) :
    Except RegistryError Unit × ApplicationRegistry :=
  r.modify application fun status => { status with connected := false }

/-- `ApplicationRegistry::update_heartbeat`. -/
def updateHeartbeat (r : ApplicationRegistry) (application : ApplicationId) (health : HealthState)
    (mode : SystemMode) (now : Instant) : Except RegistryError Unit × ApplicationRegistry :=
  r.modify application fun _ => ⟨mode, health, now, true⟩

/-- `ApplicationRegistry::set_mode`. -/
def setMode (r : ApplicationRegistry) (application : ApplicationId) (mode : SystemMode) :
    Except RegistryError Unit × ApplicationRegistry :=
  r.modify application fun status => { status with currentMode := mode }

variable {r : ApplicationRegistry} {a b : ApplicationId}

@[simp] theorem get_empty : empty.get a = none := rfl

theorem get_register (now : Instant) :
    (r.register a now).get b = if b = a then some (.new now) else r.get b := by
  unfold get register
  split
  · rename_i h; subst h; exact AList.lookup_insert _
  · rename_i h; exact AList.lookup_insert_ne h

theorem modify_none {f : ApplicationStatus → ApplicationStatus} (h : r.get a = none) :
    r.modify a f = (.error (.notRegistered a), r) := by
  unfold get at h
  simp only [modify, h]

theorem modify_some {f : ApplicationStatus → ApplicationStatus} {status : ApplicationStatus}
    (h : r.get a = some status) :
    r.modify a f = (.ok (), ⟨r.applications.insert a (f status)⟩) := by
  unfold get at h
  simp only [modify, h]

/-- Only the named status changes. -/
theorem get_modify (f : ApplicationStatus → ApplicationStatus) :
    (r.modify a f).2.get b = if b = a then (r.get a).map f else r.get b := by
  cases h : r.get a with
  | none =>
    rw [modify_none h]
    split
    · rename_i hb; rw [hb, h]; rfl
    · rfl
  | some status =>
    rw [modify_some h]
    split
    · rename_i hb; subst hb; exact AList.lookup_insert _
    · rename_i hb; exact AList.lookup_insert_ne hb

end ApplicationRegistry

end Sam
