import Mathlib.Algebra.Group.Nat.Defs
import Mathlib.Data.List.Infix

/-!
# Framed messages (`sam-transport/src/frame.rs`, `error.rs`)

A frame is the length of a payload as a big-endian `u32`, then the payload.  `postcard` is a
parameter (`Codec`), of which only the round trip is used.

* `sendFrame` — the bytes `send_frame` writes, or the error it returns without writing any.
* `Receiving`, `poll` — the future of `receive_frame` between two polls: the buffer of the
  `read_exact` it is suspended in, which owns the bytes already taken from the stream.
* `poll_spec` — polled on a stream of whole frames, the future loses and invents nothing: it
  waits, holding all the bytes there were, or returns the next message and leaves the rest.
-/

namespace Sam

/-- `std::io::ErrorKind`, as far as it is told apart. -/
inductive ErrorKind where
  | unexpectedEof
  | connectionReset
  | brokenPipe
  | other
  deriving DecidableEq, Repr

inductive TransportError where
  | io (kind : ErrorKind)
  | serialization
  | frameTooLarge (actual maximum : Nat)
  | connectTimeout
  deriving DecidableEq, Repr

/-- `is_disconnect`. -/
def isDisconnect : TransportError → Bool
  | .io .unexpectedEof | .io .connectionReset | .io .brokenPipe => true
  | _ => false

/-- `postcard` at one message type: `to_allocvec` and `from_bytes`. -/
structure Codec (α : Type) where
  toBytes : α → List UInt8
  fromBytes : List UInt8 → Option α
  fromBytes_toBytes : ∀ message, fromBytes (toBytes message) = some message

/-- `DEFAULT_MAX_FRAME_SIZE`. -/
def DEFAULT_MAX_FRAME_SIZE : Nat := 64 * 1024

/-- `u32::to_be_bytes`. -/
def toBeBytes (n : Nat) : List UInt8 :=
  [UInt8.ofNat (n / 2 ^ 24), UInt8.ofNat (n / 2 ^ 16), UInt8.ofNat (n / 2 ^ 8), UInt8.ofNat n]

/-- `u32::from_be_bytes`. -/
def fromBeBytes (bytes : List UInt8) : Nat := bytes.foldl (fun n byte => n * 2 ^ 8 + byte.toNat) 0

@[simp] theorem length_toBeBytes (n : Nat) : (toBeBytes n).length = 4 := rfl

theorem fromBeBytes_toBeBytes {n : Nat} (h : n < 2 ^ 32) : fromBeBytes (toBeBytes n) = n := by
  simp only [fromBeBytes, toBeBytes, List.foldl_cons, List.foldl_nil, UInt8.toNat_ofNat']
  omega

theorem toBeBytes_inj {n k : Nat} (hn : n < 2 ^ 32) (hk : k < 2 ^ 32)
    (h : toBeBytes n = toBeBytes k) : n = k := by
  rw [← fromBeBytes_toBeBytes hn, h, fromBeBytes_toBeBytes hk]

/-- `validate_size`. -/
def validateSize (actual maximum : Nat) : Except TransportError Unit :=
  if actual > maximum then .error (.frameTooLarge actual maximum) else .ok ()

variable {α : Type}

/-- `send_frame`: what is written. -/
def sendFrame (codec : Codec α) (maximum : Nat) (message : α) :
    Except TransportError (List UInt8) :=
  let payload := codec.toBytes message
  match validateSize payload.length maximum with
  | .error error => .error error
  | .ok () =>
    if payload.length < 2 ^ 32 then .ok (toBeBytes payload.length ++ payload)
    else .error (.frameTooLarge payload.length maximum)

/-- The bytes of one frame. -/
def frame (codec : Codec α) (message : α) : List UInt8 :=
  toBeBytes (codec.toBytes message).length ++ codec.toBytes message

/-- The bytes of consecutive frames. -/
def frames (codec : Codec α) (messages : List α) : List UInt8 := messages.flatMap (frame codec)

/-- The message encodes within the limit. -/
def Fits (codec : Codec α) (maximum : Nat) (message : α) : Prop :=
  (codec.toBytes message).length ≤ maximum

theorem sendFrame_fits {codec : Codec α} {maximum : Nat} (hmax : maximum < 2 ^ 32) {message : α}
    (h : Fits codec maximum message) :
    sendFrame codec maximum message = .ok (frame codec message) := by
  unfold Fits at h
  simp only [sendFrame, validateSize, if_neg (Nat.not_lt.mpr h), if_pos (h.trans_lt hmax), frame]

/-! ## Receiving -/

/-- The future of `receive_frame`: in the first `read_exact`, or in the second with the length
    known, holding the bytes taken so far. -/
inductive Receiving where
  | length (bytes : List UInt8)
  | payload (length : Nat) (bytes : List UInt8)
  deriving DecidableEq

/-- The outcome of polling it. -/
inductive Poll (α : Type) where
  | pending (receiving : Receiving)
  | ready (result : Except TransportError α)

/-- `read_exact`: take what is there, up to what is needed. -/
def readExact (need : Nat) (bytes available : List UInt8) : List UInt8 × List UInt8 :=
  (bytes ++ available.take (need - bytes.length), available.drop (need - bytes.length))

/-- `receive_frame` from its second `read_exact` on. -/
def pollPayload (codec : Codec α) (closed : Bool) (length : Nat) (bytes available : List UInt8) :
    Poll α × List UInt8 :=
  let (bytes, available) := readExact length bytes available
  if bytes.length < length then
    (if closed then .ready (.error (.io .unexpectedEof)) else .pending (.payload length bytes),
      available)
  else
    match codec.fromBytes bytes with
    | some message => (.ready (.ok message), available)
    | none => (.ready (.error .serialization), available)

/-- One poll of `receive_frame`, given the bytes that have arrived. -/
def poll (codec : Codec α) (maximum : Nat) (closed : Bool) :
    Receiving → List UInt8 → Poll α × List UInt8
  | .length bytes, available =>
    let (bytes, available) := readExact 4 bytes available
    if bytes.length < 4 then
      (if closed then .ready (.error (.io .unexpectedEof)) else .pending (.length bytes), available)
    else
      match validateSize (fromBeBytes bytes) maximum with
      | .error error => (.ready (.error error), available)
      | .ok () => pollPayload codec closed (fromBeBytes bytes) [] available
  | .payload length bytes, available => pollPayload codec closed length bytes available

/-- A new `receive_frame`. -/
def Receiving.start : Receiving := .length []

/-- All bytes taken from the stream by the future. -/
def Receiving.taken : Receiving → List UInt8
  | .length bytes => bytes
  | .payload n bytes => toBeBytes n ++ bytes

/-- The future is suspended where it has to wait. -/
def Receiving.Waiting : Receiving → Prop
  | .length bytes => bytes.length < 4
  | .payload n bytes => n < 2 ^ 32 ∧ bytes.length < n

theorem readExact_eq {need : Nat} {bytes available : List UInt8} (h : bytes.length ≤ need) :
    readExact need bytes available =
      ((bytes ++ available).take need, (bytes ++ available).drop need) := by
  rw [readExact, List.take_append, List.drop_append, List.take_of_length_le h,
    List.drop_of_length_le h, List.nil_append]

/-- What a poll can do to a stream of whole frames of which `bytes` were taken, `available` has
    arrived and `unread` has not. -/
inductive PollSpec (codec : Codec α) (closed : Bool) (bytes available unread : List UInt8)
    (messages : List α) : Poll α × List UInt8 → Prop where
  | pending (r : Receiving) (rest : List UInt8) (hc : closed = false) (hw : r.Waiting)
      (hr : r.taken ++ rest = bytes ++ available) :
      PollSpec codec closed bytes available unread messages (.pending r, rest)
  | ready (message : α) (later : List α) (rest : List UInt8) (hm : messages = message :: later)
      (hr : rest ++ unread = frames codec later) :
      PollSpec codec closed bytes available unread messages (.ready (.ok message), rest)
  | closed (rest : List UInt8) (hc : closed = true) :
      PollSpec codec closed bytes available unread messages
        (.ready (.error (.io .unexpectedEof)), rest)

variable {codec : Codec α} {maximum : Nat} {closed : Bool}

theorem pollPayload_spec {message : α} {later : List α} {bytes available unread : List UInt8}
    (hlt : (codec.toBytes message).length < 2 ^ 32)
    (hle : bytes.length ≤ (codec.toBytes message).length)
    (h : bytes ++ available ++ unread = codec.toBytes message ++ frames codec later) :
    PollSpec codec closed (toBeBytes (codec.toBytes message).length ++ bytes) available unread
      (message :: later)
      (pollPayload codec closed (codec.toBytes message).length bytes available) := by
  rw [pollPayload, readExact_eq hle]
  dsimp only
  by_cases hshort : (bytes ++ available).length < (codec.toBytes message).length
  · rw [List.take_of_length_le hshort.le, List.drop_of_length_le hshort.le, if_pos hshort]
    cases closed with
    | true => exact .closed _ rfl
    | false => exact .pending _ _ rfl ⟨hlt, hshort⟩ (by simp [Receiving.taken])
  · -- the whole payload is there
    have hlen : (codec.toBytes message).length ≤ (bytes ++ available).length := Nat.not_lt.mp hshort
    have htake : (bytes ++ available).take (codec.toBytes message).length =
        codec.toBytes message := by
      have := @List.take_left _ (codec.toBytes message) (frames codec later)
      rwa [← h, List.take_append_of_le_length hlen] at this
    have hdrop : (bytes ++ available).drop (codec.toBytes message).length ++ unread =
        frames codec later := by
      rw [← List.drop_append_of_le_length hlen, h, List.drop_left]
    rw [htake, if_neg (lt_irrefl _), codec.fromBytes_toBytes]
    exact .ready message later _ rfl hdrop

/-- Only all the bytes taken and arrived matter. -/
theorem PollSpec.congr {bytes available bytes' available' unread : List UInt8} {messages : List α}
    {p : Poll α × List UInt8} (heq : bytes ++ available = bytes' ++ available')
    (h : PollSpec codec closed bytes available unread messages p) :
    PollSpec codec closed bytes' available' unread messages p := by
  cases h with
  | pending r rest hc hw hr => exact .pending r rest hc hw (hr.trans heq)
  | ready message later rest hm hr => exact .ready message later rest hm hr
  | closed rest hc => exact .closed rest hc

theorem frames_cons (codec : Codec α) (message : α) (later : List α) :
    frames codec (message :: later) =
      toBeBytes (codec.toBytes message).length ++
        (codec.toBytes message ++ frames codec later) := by
  rw [frames, List.flatMap_cons, frame, List.append_assoc]; rfl

/-- **Polling a stream of whole frames**: wait with everything taken, return the next message, or
    come to the end of a closed stream. -/
theorem poll_spec {r : Receiving} {available unread : List UInt8} {messages : List α}
    (hmax : maximum < 2 ^ 32) (hfits : ∀ message ∈ messages, Fits codec maximum message)
    (hw : r.Waiting) (h : r.taken ++ available ++ unread = frames codec messages) :
    PollSpec codec closed r.taken available unread messages
      (poll codec maximum closed r available) := by
  cases r with
  | payload n bytes =>
    cases messages with
    | nil => cases h
    | cons message later =>
      have hfit : (codec.toBytes message).length ≤ maximum := hfits message List.mem_cons_self
      have hlt := hfit.trans_lt hmax
      rw [frames_cons, Receiving.taken, List.append_assoc, List.append_assoc] at h
      obtain ⟨hn, htail⟩ := List.append_inj h rfl
      obtain rfl := toBeBytes_inj hw.1 hlt hn
      exact pollPayload_spec hlt hw.2.le (by rw [List.append_assoc]; exact htail)
  | length bytes =>
    have hle : bytes.length ≤ 4 := Nat.le_of_lt hw
    rw [poll, readExact_eq hle]
    dsimp only
    by_cases hshort : (bytes ++ available).length < 4
    · rw [List.take_of_length_le hshort.le, List.drop_of_length_le hshort.le, if_pos hshort]
      cases closed with
      | true => exact .closed _ rfl
      | false => exact .pending _ _ rfl hshort (List.append_nil _)
    · have hlen : 4 ≤ (bytes ++ available).length := Nat.not_lt.mp hshort
      cases messages with
      | nil =>
        have hnil := (List.append_eq_nil_iff.mp h).1
        rw [Receiving.taken] at hnil
        rw [hnil] at hlen; cases hlen
      | cons message later =>
        have hfit : (codec.toBytes message).length ≤ maximum := hfits message List.mem_cons_self
        have hlt := hfit.trans_lt hmax
        have h' : bytes ++ available ++ unread = frames codec (message :: later) := h
        rw [frames_cons, ← List.take_append_drop 4 (bytes ++ available), List.append_assoc] at h'
        have hfour : ((bytes ++ available).take 4).length = 4 := List.length_take_of_le hlen
        obtain ⟨htake, hdrop⟩ := List.append_inj h' hfour
        rw [if_neg (by rw [hfour]; exact lt_irrefl _), htake, fromBeBytes_toBeBytes hlt,
          validateSize,
          if_neg (Nat.not_lt.mpr hfit)]
        refine PollSpec.congr ?_ (pollPayload_spec hlt (Nat.zero_le _) hdrop)
        rw [List.append_nil, ← htake, List.take_append_drop]; rfl

end Sam
