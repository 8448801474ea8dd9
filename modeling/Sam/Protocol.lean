import Mathlib.Algebra.Group.Nat.Defs

/-!
# The SAM protocol (`sam-protocol`)

The types and messages of `types.rs` and `messages.rs`, and the protocol version.  A Rust
`u64` or `u16` is Lean's `UInt64` or `UInt16`; wire encodings are not modelled here.
-/

namespace Sam

/-- `SystemMode`. -/
inductive SystemMode where
  | startup
  | standby
  | working
  deriving DecidableEq, Repr

/-- `HealthState`. -/
inductive HealthState where
  | healthy
  | degraded
  | failed
  deriving DecidableEq, Repr

/-- `TransitionId(pub u64)`. -/
structure TransitionId where
  val : UInt64
  deriving DecidableEq, Repr

/-- `ApplicationId(pub String)`. -/
structure ApplicationId where
  value : String
  deriving DecidableEq, Repr

/-- `PROTOCOL_VERSION`. -/
def PROTOCOL_VERSION : UInt16 := 1

/-- Messages an application is allowed to send to SAM. -/
inductive ApplicationToSam where
  | register (application : ApplicationId) (protocolVersion : UInt16)
  | heartbeat (application : ApplicationId) (health : HealthState) (currentMode : SystemMode)
  | modeReady (application : ApplicationId) (transitionId : TransitionId)
  | modeRejected (application : ApplicationId) (transitionId : TransitionId) (reason : String)
  | modeCommitted (application : ApplicationId) (transitionId : TransitionId) (mode : SystemMode)
  deriving DecidableEq, Repr

/-- The application a message names. -/
def ApplicationToSam.application : ApplicationToSam → ApplicationId
  | .register application _ => application
  | .heartbeat application _ _ => application
  | .modeReady application _ => application
  | .modeRejected application _ _ => application
  | .modeCommitted application _ _ => application

/-- Messages that SAM sends to applications. -/
inductive SamToApplication where
  | registerAccepted (protocolVersion : UInt16) (currentMode : SystemMode)
      (systemHealth : HealthState)
  | prepareMode (transitionId : TransitionId) (requestedMode : SystemMode)
  | commitMode (transitionId : TransitionId) (mode : SystemMode)
  | abortMode (transitionId : TransitionId)
  | stateBroadcast (mode : SystemMode) (health : HealthState)
  | registerRejected (supportedProtocolVersion : UInt16) (reason : String)
  deriving DecidableEq, Repr

/-! ## Rendering

Error texts embed `{:?}` of an application id. -/

/-- `char::escape_debug` inside a string literal (the tables of unprintable characters beyond
    the ASCII control range are left out). -/
def escapeDebug (c : Char) : String :=
  if c = '\t' then "\\t"
  else if c = '\r' then "\\r"
  else if c = '\n' then "\\n"
  else if c = '\\' then "\\\\"
  else if c = '"' then "\\\""
  else if c.toNat = 0 then "\\0"
  else if c.toNat < 32 ∨ c.toNat = 127 then
    "\\u\x7b" ++ String.ofList (Nat.toDigits 16 c.toNat) ++ "\x7d"
  else c.toString

/-- `{:?}` of an `ApplicationId`. -/
def ApplicationId.debug (application : ApplicationId) : String :=
  "ApplicationId(\"" ++ String.join (application.value.toList.map escapeDebug) ++ "\")"

end Sam
