import Sam.Library.Machine
import Sam.Transport.Postcard

/-!
# The receive loop of a session (`run_registered_session` in `sam-service/src/server.rs`)

The loop's `select!` creates a `reader.receive()` and an `outbound_rx.recv()` and takes whichever
completes first, dropping the other.  Dropping `recv` loses nothing; dropping `receive` loses the
bytes its `read_exact` has already taken.

* `Session`, `SessionInput`, `step` — the connection's bytes, the pending future and what the loop
  has handed to `SamService::handle_message`; every scheduling decision is an input.
* `Undisturbed` — no outbound message is taken while the pending `receive` holds bytes.
* `session_faithful` — then what is handed over is a prefix of what was written, nothing is lost,
  and no receive fails before the stream is closed.
* `disturbed_fails` — one outbound message between two halves of a frame, and the session fails.
-/

namespace Sam

/-- Why the loop ended. -/
inductive SessionEnd where
  | receive (error : TransportError)
  | service
  | send
  | outboundClosed
  deriving DecidableEq

/-- A connection and its loop: the bytes written that have not arrived, those that have, and the
    pending `reader.receive()`. -/
structure Session where
  unread : List UInt8
  available : List UInt8
  closed : Bool
  receiving : Receiving
  handled : List ApplicationToSam
  ended : Option SessionEnd
  deriving DecidableEq

/-- What can happen next. -/
inductive SessionInput where
  /-- `n` more bytes arrive -/
  | arrive (n : Nat)
  /-- the stream is closed; nothing arrives any more -/
  | close
  /-- `receive` is polled; a message it completes with is handled with this result -/
  | incoming (accepted : Bool)
  /-- `recv` completes with a message, which is written with this result -/
  | outgoing (written : Bool)
  /-- `recv` completes with `None` -/
  | outboundClosed
  deriving DecidableEq

namespace Session

variable (codec : Codec ApplicationToSam)

/-- The loop is entered on a connection on which `written` has been sent. -/
def start (written : List ApplicationToSam) : Session :=
  ⟨frames codec written, [], false, .start, [], none⟩

/-- One step of the loop or of its environment. -/
def step (s : Session) (input : SessionInput) : Session :=
  if s.ended.isSome then s else
  match input with
  | .arrive n =>
    if s.closed then s
    else { s with available := s.available ++ s.unread.take n, unread := s.unread.drop n }
  | .close => { s with closed := true }
  | .incoming accepted =>
    match poll codec DEFAULT_MAX_FRAME_SIZE s.closed s.receiving s.available with
    | (.pending receiving, available) => { s with receiving := receiving, available := available }
    | (.ready (.ok message), available) =>
      { s with
        available := available
        receiving := .start
        handled := s.handled ++ [message]
        ended := if accepted then none else some .service }
    | (.ready (.error error), available) =>
      { s with available := available, receiving := .start, ended := some (.receive error) }
  | .outgoing written =>
    -- the pending `receive` is dropped, with the bytes it holds
    { s with receiving := .start, ended := if written then none else some .send }
  | .outboundClosed => { s with receiving := .start, ended := some .outboundClosed }

/-- No outbound message is taken and sent while the pending `receive` holds part of a frame. -/
def Undisturbed (s : Session) : SessionInput → Prop
  | .outgoing true => s.receiving = .start
  | _ => True

instance (s : Session) (input : SessionInput) : Decidable (s.Undisturbed input) := by
  unfold Undisturbed; split <;> infer_instance

/-- The session has handed over a prefix of what was written, and while it runs it has the rest
    before it, byte for byte; a receive has failed only at the end of a closed stream. -/
structure Faithful (written : List ApplicationToSam) (s : Session) : Prop where
  rest : ∃ rest, written = s.handled ++ rest ∧ (s.ended = none → s.receiving.Waiting ∧
    s.receiving.taken ++ s.available ++ s.unread = frames codec rest)
  closed : ∀ error, s.ended = some (.receive error) → s.closed = true ∧ error = .io .unexpectedEof

variable {codec} {written : List ApplicationToSam} {s : Session} {input : SessionInput}

theorem faithful_start : Faithful codec written (start codec written) where
  rest := ⟨written, rfl, fun _ => ⟨Nat.zero_lt_succ 3, rfl⟩⟩
  closed _ h := by cases h

theorem faithful_step (hfits : ∀ message ∈ written, Fits codec DEFAULT_MAX_FRAME_SIZE message)
    (h : Faithful codec written s) (hin : s.Undisturbed input) :
    Faithful codec written (step codec s input) := by
  obtain ⟨rest, hw, hlive⟩ := h.rest
  unfold step
  by_cases hend : s.ended.isSome
  · rw [if_pos hend]; exact h
  rw [if_neg hend]
  have hnone : s.ended = none := by simpa using hend
  obtain ⟨hwait, hbytes⟩ := hlive hnone
  cases input with
  | arrive n =>
    dsimp only
    split
    · exact h
    · refine ⟨⟨rest, hw, fun _ => ⟨hwait, ?_⟩⟩, h.closed⟩
      rw [← hbytes, List.append_assoc, List.append_assoc, List.append_assoc, List.take_append_drop]
  | close =>
    refine ⟨⟨rest, hw, fun _ => ⟨hwait, hbytes⟩⟩, fun error herr => ?_⟩
    rw [hnone] at herr
    cases herr
  | incoming accepted =>
    have hspec := @poll_spec _ codec DEFAULT_MAX_FRAME_SIZE s.closed _ _ _ _ (by decide)
      (fun message hm => hfits message (by rw [hw]; exact List.mem_append_right _ hm)) hwait hbytes
    dsimp only
    generalize poll codec DEFAULT_MAX_FRAME_SIZE s.closed s.receiving s.available = p at hspec
    cases hspec with
    | pending r available hc hr htaken =>
      refine ⟨⟨rest, hw, fun _ => ⟨hr, ?_⟩⟩, h.closed⟩
      rw [htaken]; exact hbytes
    | ready message later available hm hr =>
      refine ⟨⟨later, ?_, fun _ => ⟨Nat.zero_lt_succ 3, hr⟩⟩, ?_⟩
      · rw [hw, hm, List.append_assoc]; rfl
      · intro error herr
        dsimp only at herr
        split at herr <;> cases herr
    | closed available hc =>
      refine ⟨⟨rest, hw, fun hn => by cases hn⟩, fun error herr => ⟨hc, ?_⟩⟩
      cases herr
      rfl
  | outgoing sent =>
    cases sent with
    | false => exact ⟨⟨rest, hw, fun hn => by cases hn⟩, fun _ herr => by cases herr⟩
    | true =>
      rw [show s.receiving = .start from hin] at hbytes
      exact ⟨⟨rest, hw, fun _ => ⟨Nat.zero_lt_succ 3, hbytes⟩⟩, fun _ herr => by cases herr⟩
  | outboundClosed => exact ⟨⟨rest, hw, fun hn => by cases hn⟩, fun _ herr => by cases herr⟩

/-- A message taken and sent while `receive` holds bytes always loses them: what is left of the
    stream is no longer the messages not yet handed over. -/
theorem undisturbed_of_faithful (h : Faithful codec written s) (hnone : s.ended = none)
    (hnext : Faithful codec written (step codec s input)) : s.Undisturbed input := by
  cases input with
  | outgoing sent =>
    cases sent with
    | false => trivial
    | true =>
      obtain ⟨rest, hw, hlive⟩ := h.rest
      obtain ⟨rest', hw', hlive'⟩ := hnext.rest
      have hstep : step codec s (.outgoing true) =
          { s with receiving := .start, ended := none } := by
        simp [step, hnone]
      rw [hstep] at hw' hlive'
      have heq : rest = rest' := by rw [hw] at hw'; exact List.append_cancel_left hw'
      obtain ⟨hwait, hbytes⟩ := hlive hnone
      have hbytes' := (hlive' rfl).2
      rw [← heq, ← hbytes, List.append_assoc, List.append_assoc] at hbytes'
      have htaken : s.receiving.taken = [] := (List.append_cancel_right hbytes').symm
      show s.receiving = .start
      cases hr : s.receiving with
      | length bytes => rw [hr] at htaken; exact congrArg Receiving.length htaken
      | payload n bytes => rw [hr] at htaken; cases htaken
  | _ => trivial

/-- **The receive loop is faithful as long as it is not disturbed**: it hands over a prefix of
    what was written, all of it once every byte has been taken, and no receive fails before the
    stream is closed. -/
theorem session_faithful (codec : Codec ApplicationToSam) (written : List ApplicationToSam)
    (hfits : ∀ message ∈ written, Fits codec DEFAULT_MAX_FRAME_SIZE message)
    (inputs : List SessionInput)
    (hin : Machine.Always (step codec) Undisturbed (start codec written) inputs) :
    let s := Machine.run (step codec) (start codec written) inputs
    s.handled <+: written ∧ (∀ error, s.ended = some (.receive error) → s.closed = true) ∧
      (s.ended = none → s.receiving.taken ++ s.available ++ s.unread = [] →
        s.handled = written) := by
  intro s
  have h : Faithful codec written s :=
    Machine.run_invariant (C := Undisturbed) (I := Faithful codec written)
      (fun _ _ h hin => faithful_step hfits h hin) faithful_start hin
  obtain ⟨rest, hw, hlive⟩ := h.rest
  refine ⟨⟨rest, hw.symm⟩, fun error herr => (h.closed error herr).1, fun hnone hempty => ?_⟩
  rw [(hlive hnone).2] at hempty
  cases rest with
  | nil => rw [hw, List.append_nil]
  | cons message later => rw [frames_cons] at hempty; cases hempty

/-- A vote that arrives in two pieces. -/
theorem session_faithful_demo :
    let written := [ApplicationToSam.modeReady ⟨"navigation"⟩ ⟨1⟩]
    let s := Machine.run (step Postcard.codec) (start Postcard.codec written)
      [.outgoing true, .arrive 2, .incoming true, .arrive 100, .incoming true]
    s.handled <+: written ∧ (∀ error, s.ended = some (.receive error) → s.closed = true) ∧
      (s.ended = none → s.receiving.taken ++ s.available ++ s.unread = [] → s.handled = written) :=
  session_faithful Postcard.codec _ (by unfold Fits; decide) _ (by decide)

/-- **One outbound message between two pieces of a frame**: the two bytes taken are lost, the rest
    of the frame is read as the length of another, and the session of a correct client fails. -/
theorem disturbed_fails :
    let written := [ApplicationToSam.modeReady ⟨"navigation"⟩ ⟨1⟩]
    let s := Machine.run (step Postcard.codec) (start Postcard.codec written)
      [.arrive 2, .incoming true, .outgoing true, .arrive 100, .incoming true]
    (∀ message ∈ written, Fits Postcard.codec DEFAULT_MAX_FRAME_SIZE message) ∧
      s.ended = some (.receive (.frameTooLarge 852490 DEFAULT_MAX_FRAME_SIZE)) ∧
      s.closed = false ∧ s.handled = [] := by
  unfold Fits
  decide

end Session

end Sam
