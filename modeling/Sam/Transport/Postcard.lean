import Sam.Library.Wire
import Sam.Protocol
import Sam.Transport.Frame

/-!
# The encoding of messages

The instances of `Codec` that `postcard` documents for the messages of both directions: integers and
lengths as varints of no more groups than the type needs, a string as its UTF-8 after its length, a
newtype as what it wraps, an enumeration as the position of its variant, then the fields in order.
Nothing but the concrete runs depends on it.
-/

namespace Sam

namespace Postcard

/-- `u16`. -/
def u16 : Wire UInt16 :=
  (Wire.varint 3).map (fun n => if n < 2 ^ 16 then some (UInt16.ofNat n) else none) UInt16.toNat
    fun b => by rw [if_pos b.toNat_lt, UInt16.ofNat_toNat]

/-- `u64`. -/
def u64 : Wire UInt64 :=
  (Wire.varint 10).map (fun n => if n < 2 ^ 64 then some (UInt64.ofNat n) else none) UInt64.toNat
    fun b => by rw [if_pos b.toNat_lt, UInt64.ofNat_toNat]

/-- The position of a variant, a `u32`. -/
def variant : Wire Nat := Wire.varint 5

/-- A `String` of its UTF-8 bytes. -/
def fromUtf8 (bytes : List UInt8) : Option String := String.fromUTF8? ⟨bytes.toArray⟩

theorem fromUtf8_toByteArray (s : String) : fromUtf8 s.toByteArray.data.toList = some s := by
  unfold fromUtf8
  rw [Array.toArray_toList, String.fromUTF8?, dif_pos s.isValidUTF8]
  rfl

def string : Wire String :=
  (Wire.prefixed 10).map fromUtf8 (fun s => s.toByteArray.data.toList) fromUtf8_toByteArray

def applicationId : Wire ApplicationId :=
  string.map (fun s => some ⟨s⟩) ApplicationId.value fun _ => rfl

def transitionId : Wire TransitionId := u64.map (fun n => some ⟨n⟩) TransitionId.val fun _ => rfl

def systemMode : Wire SystemMode :=
  variant.map
    (fun | 0 => some .startup | 1 => some .standby | 2 => some .working | _ => none)
    (fun | .startup => 0 | .standby => 1 | .working => 2)
    fun mode => by cases mode <;> rfl

def healthState : Wire HealthState :=
  variant.map
    (fun | 0 => some .healthy | 1 => some .degraded | 2 => some .failed | _ => none)
    (fun | .healthy => 0 | .degraded => 1 | .failed => 2)
    fun health => by cases health <;> rfl

def register : Wire (ApplicationId × UInt16) := applicationId.pair u16

def heartbeat : Wire (ApplicationId × HealthState × SystemMode) :=
  applicationId.pair (healthState.pair systemMode)

def modeReady : Wire (ApplicationId × TransitionId) := applicationId.pair transitionId

def modeRejected : Wire (ApplicationId × TransitionId × String) :=
  applicationId.pair (transitionId.pair string)

def modeCommitted : Wire (ApplicationId × TransitionId × SystemMode) :=
  applicationId.pair (transitionId.pair systemMode)

/-- `postcard::to_allocvec` on an `ApplicationToSam`. -/
def toAllocvec : ApplicationToSam → List UInt8
  | .register application version => variant.put 0 ++ register.put (application, version)
  | .heartbeat application health mode =>
    variant.put 1 ++ heartbeat.put (application, health, mode)
  | .modeReady application id => variant.put 2 ++ modeReady.put (application, id)
  | .modeRejected application id reason =>
    variant.put 3 ++ modeRejected.put (application, id, reason)
  | .modeCommitted application id mode =>
    variant.put 4 ++ modeCommitted.put (application, id, mode)

/-- `postcard::from_bytes`; what follows the value is ignored. -/
def fromBytes (bytes : List UInt8) : Option ApplicationToSam :=
  match variant.take bytes with
  | some (0, rest) => (register.take rest).map fun r => .register r.1.1 r.1.2
  | some (1, rest) => (heartbeat.take rest).map fun r => .heartbeat r.1.1 r.1.2.1 r.1.2.2
  | some (2, rest) => (modeReady.take rest).map fun r => .modeReady r.1.1 r.1.2
  | some (3, rest) => (modeRejected.take rest).map fun r => .modeRejected r.1.1 r.1.2.1 r.1.2.2
  | some (4, rest) => (modeCommitted.take rest).map fun r => .modeCommitted r.1.1 r.1.2.1 r.1.2.2
  | _ => none

/-- What follows the variant is parsed by the variant's own format. -/
theorem take_fields {α : Type} (w : Wire α) (f : α → ApplicationToSam) (a : α) :
    (w.take (w.put a)).map (fun r => f r.1) = some (f a) := by
  have h := w.take_put a []
  rw [List.append_nil] at h
  rw [h, Option.map_some]

theorem fromBytes_toAllocvec (message : ApplicationToSam) :
    fromBytes (toAllocvec message) = some message := by
  unfold fromBytes
  cases message with
  | register application version =>
    rw [toAllocvec, variant.take_put]
    exact take_fields register (fun x => .register x.1 x.2) (application, version)
  | heartbeat application health mode =>
    rw [toAllocvec, variant.take_put]
    exact take_fields heartbeat (fun x => .heartbeat x.1 x.2.1 x.2.2) (application, health, mode)
  | modeReady application id =>
    rw [toAllocvec, variant.take_put]
    exact take_fields modeReady (fun x => .modeReady x.1 x.2) (application, id)
  | modeRejected application id reason =>
    rw [toAllocvec, variant.take_put]
    exact take_fields modeRejected (fun x => .modeRejected x.1 x.2.1 x.2.2)
      (application, id, reason)
  | modeCommitted application id mode =>
    rw [toAllocvec, variant.take_put]
    exact take_fields modeCommitted (fun x => .modeCommitted x.1 x.2.1 x.2.2)
      (application, id, mode)

/-- The codec of the connection. -/
def codec : Codec ApplicationToSam := ⟨toAllocvec, fromBytes, fromBytes_toAllocvec⟩

/-- A padded number is read within the groups of its type, and beyond them it is not. -/
example : u64.take [0x81, 0x80, 0x00, 7] = some (1, [7]) ∧
    u16.take [0x81, 0x80, 0x80, 0x00] = none := by decide

/-! ## SAM's messages -/

def registerAccepted : Wire (UInt16 × SystemMode × HealthState) :=
  u16.pair (systemMode.pair healthState)

def prepareMode : Wire (TransitionId × SystemMode) := transitionId.pair systemMode

def stateBroadcast : Wire (SystemMode × HealthState) := systemMode.pair healthState

def registerRejected : Wire (UInt16 × String) := u16.pair string

/-- `postcard::to_allocvec` on a `SamToApplication`. -/
def samToAllocvec : SamToApplication → List UInt8
  | .registerAccepted version mode health =>
    variant.put 0 ++ registerAccepted.put (version, mode, health)
  | .prepareMode id mode => variant.put 1 ++ prepareMode.put (id, mode)
  | .commitMode id mode => variant.put 2 ++ prepareMode.put (id, mode)
  | .abortMode id => variant.put 3 ++ transitionId.put id
  | .stateBroadcast mode health => variant.put 4 ++ stateBroadcast.put (mode, health)
  | .registerRejected version reason => variant.put 5 ++ registerRejected.put (version, reason)

/-- `postcard::from_bytes`. -/
def samFromBytes (bytes : List UInt8) : Option SamToApplication :=
  match variant.take bytes with
  | some (0, rest) =>
    (registerAccepted.take rest).map fun r => .registerAccepted r.1.1 r.1.2.1 r.1.2.2
  | some (1, rest) => (prepareMode.take rest).map fun r => .prepareMode r.1.1 r.1.2
  | some (2, rest) => (prepareMode.take rest).map fun r => .commitMode r.1.1 r.1.2
  | some (3, rest) => (transitionId.take rest).map fun r => .abortMode r.1
  | some (4, rest) => (stateBroadcast.take rest).map fun r => .stateBroadcast r.1.1 r.1.2
  | some (5, rest) => (registerRejected.take rest).map fun r => .registerRejected r.1.1 r.1.2
  | _ => none

theorem take_samFields {α : Type} (w : Wire α) (f : α → SamToApplication) (a : α) :
    (w.take (w.put a)).map (fun r => f r.1) = some (f a) := by
  have h := w.take_put a []
  rw [List.append_nil] at h
  rw [h, Option.map_some]

theorem samFromBytes_samToAllocvec (message : SamToApplication) :
    samFromBytes (samToAllocvec message) = some message := by
  unfold samFromBytes
  cases message with
  | registerAccepted version mode health =>
    rw [samToAllocvec, variant.take_put]
    exact take_samFields registerAccepted (fun x => .registerAccepted x.1 x.2.1 x.2.2)
      (version, mode, health)
  | prepareMode id mode =>
    rw [samToAllocvec, variant.take_put]
    exact take_samFields prepareMode (fun x => .prepareMode x.1 x.2) (id, mode)
  | commitMode id mode =>
    rw [samToAllocvec, variant.take_put]
    exact take_samFields prepareMode (fun x => .commitMode x.1 x.2) (id, mode)
  | abortMode id =>
    rw [samToAllocvec, variant.take_put]
    exact take_samFields transitionId .abortMode id
  | stateBroadcast mode health =>
    rw [samToAllocvec, variant.take_put]
    exact take_samFields stateBroadcast (fun x => .stateBroadcast x.1 x.2) (mode, health)
  | registerRejected version reason =>
    rw [samToAllocvec, variant.take_put]
    exact take_samFields registerRejected (fun x => .registerRejected x.1 x.2) (version, reason)

/-- The codec of the other direction. -/
def samCodec : Codec SamToApplication := ⟨samToAllocvec, samFromBytes, samFromBytes_samToAllocvec⟩

end Postcard

end Sam
